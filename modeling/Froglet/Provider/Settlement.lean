import Froglet.Deals.Record
import Froglet.Lib.Table

/-!
# The rails a provider settles on

What the node reads from its rails and what it makes of the answers: the legs of a
Lightning invoice bundle, the proof of a prepaid Lightning payment, and the reservation
a payment driver makes for a payment token.
-/

namespace Froglet

variable {P : Primitives}

/-! ## Configuration -/

inductive PaymentBackend where
  | lightning
  | x402
  | stripe
deriving DecidableEq
variable {driver : PaymentBackend}

def PaymentBackend.driverName : PaymentBackend → String
  | lightning => "lightning"
  | x402 => "x402_usdc"
  | stripe => "stripe_mpp"

structure NodeConfig where
  paymentBackends : List PaymentBackend
  lightningMode : LightningMode
  drivers : List PaymentBackend
  requirePayment : Bool

variable {config : NodeConfig} {requestId : String} {priceSats : ℕ}

def NodeConfig.driverFor (config : NodeConfig) (kind : String) : Option PaymentBackend :=
  config.drivers.find? (·.driverName == kind)

theorem NodeConfig.driverFor_name {kind : String} {backend : PaymentBackend}
    (h : config.driverFor kind = some backend) : backend.driverName = kind := by
  simpa using List.find?_some h

structure NodeIdentity (P : Primitives) where
  nodeId : String
  signMessageHex : Bytes → String
  verifies : ∀ bytes, P.verifyMessage nodeId (signMessageHex bytes) bytes = true

def signNodeArtifact (node : NodeIdentity P) {T : Type} [Serialize T]
    (kind : String) (createdAt : ℤ) (payload : T) : Except String (SignedArtifact T) :=
  signArtifact P node.nodeId node.signMessageHex kind createdAt payload

/-! ## Payment drivers -/

structure ProvidedPayment where
  (kind token : String)
deriving DecidableEq

structure PaymentReservation where
  (requestId method : String)
  amountSats : ℕ
  tokenHash : String
deriving DecidableEq

inductive PaymentError where
  | paymentRequired
  | unsupportedKind
  | invalidPayment
  | backendUnavailable
deriving DecidableEq

inductive DriverAnswer where
  | paymentIntent (id status : String)
  | verified
  | refused (error : PaymentError)
deriving DecidableEq

variable {reservation : PaymentReservation} {payment : ProvidedPayment} {answer : DriverAnswer}

def PaymentBackend.prepare (driver : PaymentBackend) (priceSats : ℕ) (payment : ProvidedPayment)
    (requestId : String) (answer : DriverAnswer) : Except PaymentError PaymentReservation :=
  match driver, answer with
  | stripe, .paymentIntent id status =>
    if status == "requires_capture" then
      .ok { requestId, method := "stripe_mpp", amountSats := priceSats, tokenHash := id }
    else .error .backendUnavailable
  | x402, .verified =>
    .ok { requestId, method := "x402_usdc", amountSats := priceSats, tokenHash := payment.token }
  | _, .refused error => .error error
  | _, _ => .error .backendUnavailable

def preparePaymentForAmount (config : NodeConfig) (priceSats : ℕ)
    (payment : Option ProvidedPayment) (requestId : String) (answer : DriverAnswer) :
    Except PaymentError (Option PaymentReservation) :=
  if priceSats == 0 then .ok none
  else match payment with
    | none => .error .paymentRequired
    | some payment =>
      match config.driverFor payment.kind with
      | none => .error .unsupportedKind
      | some driver => (driver.prepare priceSats payment requestId answer).map some

theorem PaymentBackend.amount_of_prepare
    (h : driver.prepare priceSats payment requestId answer = .ok reservation) :
    reservation.amountSats = priceSats := by
  unfold prepare at h
  split at h
  case h_1 =>
    split at h
    case isTrue =>
      cases h
      rfl
    case isFalse => cases h
  case h_2 =>
    cases h
    rfl
  case h_3 => cases h
  case h_4 => cases h

theorem PaymentBackend.prepare_ok
    (h : driver.prepare priceSats payment requestId answer = .ok reservation) :
    (driver = stripe ∧ reservation.method = "stripe_mpp"
        ∧ answer = .paymentIntent reservation.tokenHash "requires_capture")
      ∨ driver = x402 ∧ reservation.method = "x402_usdc" ∧ answer = .verified
        ∧ reservation.tokenHash = payment.token := by
  cases driver <;> cases answer <;> simp only [prepare, reduceCtorEq] at h
  case x402.verified =>
    cases h
    exact .inr ⟨rfl, rfl, rfl, rfl⟩
  case stripe.paymentIntent id status =>
    by_cases hstatus : status = "requires_capture"
    · rw [hstatus, beq_self_eq_true, if_pos rfl] at h
      cases h
      exact .inl ⟨rfl, rfl, by rw [hstatus]⟩
    · rw [if_neg (by simpa using hstatus)] at h
      cases h

section

variable (h : preparePaymentForAmount config priceSats (some payment) requestId answer
  = .ok (some reservation))
include h

theorem preparePaymentForAmount_ok :
    ∃ driver, config.driverFor payment.kind = some driver
      ∧ driver.prepare priceSats payment requestId answer = .ok reservation := by
  unfold preparePaymentForAmount at h
  split at h
  case isTrue => cases h
  case isFalse =>
    dsimp only at h
    split at h
    case h_1 => cases h
    case h_2 driver hdriver =>
      obtain ⟨reservation', hprepare, heq⟩ := map_eq_ok.mp h
      obtain rfl := Option.some.inj heq
      exact ⟨driver, hdriver, hprepare⟩

theorem amount_of_preparePaymentForAmount : reservation.amountSats = priceSats := by
  obtain ⟨driver, -, hprepare⟩ := preparePaymentForAmount_ok h
  exact driver.amount_of_prepare hprepare

/-- What a reservation stands for: a payment of the Stripe kind gets one only
for an authorised PaymentIntent, and a payment that goes to the x402 driver gets
one for a token that was verified and not paid. -/
theorem answer_of_preparePaymentForAmount
    : (payment.kind = "stripe_mpp" ∧ reservation.method = "stripe_mpp"
        ∧ answer = .paymentIntent reservation.tokenHash "requires_capture")
      ∨ config.driverFor payment.kind = some .x402 ∧ reservation.method = "x402_usdc"
        ∧ answer = .verified ∧ reservation.tokenHash = payment.token := by
  obtain ⟨driver, hdriver, hprepare⟩ := preparePaymentForAmount_ok h
  obtain ⟨rfl, hmethod, hanswer⟩ | ⟨rfl, hx402⟩ := PaymentBackend.prepare_ok hprepare
  · exact .inl ⟨(NodeConfig.driverFor_name hdriver).symm, hmethod, hanswer⟩
  · exact .inr ⟨hdriver, hx402⟩

end

structure StripePaymentMaterializationResource where
  (requestId method : String)
  amountSats : ℕ
  paymentIntentId : String
deriving DecidableEq

def StripePaymentMaterializationResource.fromReservation (reservation : PaymentReservation) :
    StripePaymentMaterializationResource :=
  { requestId := reservation.requestId, method := reservation.method
    amountSats := reservation.amountSats, paymentIntentId := reservation.tokenHash }

def StripePaymentMaterializationResource.intoReservation
    (resource : StripePaymentMaterializationResource) : Except String PaymentReservation :=
  if isBlank resource.requestId || resource.method != "stripe_mpp" || resource.amountSats == 0
      || isBlank resource.paymentIntentId then
    .error "stored Stripe materialization resource is invalid"
  else .ok { requestId := resource.requestId, method := resource.method
             amountSats := resource.amountSats, tokenHash := resource.paymentIntentId }

theorem fromReservation_of_intoReservation {resource : StripePaymentMaterializationResource}
    (h : resource.intoReservation = .ok reservation) : .fromReservation reservation = resource := by
  unfold StripePaymentMaterializationResource.intoReservation at h
  split at h
  case isTrue => cases h
  case isFalse =>
    cases h
    rfl

/-! ## Lightning escrow -/

def InvoiceBundleLegState.isTerminal : InvoiceBundleLegState → Bool
  | settled | canceled | expired => true
  | opened | accepted => false

structure LightningInvoiceBundleSession where
  sessionId : String
  bundle : SignedInvoiceBundle
  (baseState successState : InvoiceBundleLegState)
  createdAt : ℤ
deriving DecidableEq

def lightningBundleIsFunded (session : LightningInvoiceBundleSession) : Bool :=
  session.baseState == .settled
    && (session.successState == .accepted || session.successState == .settled)

structure BuildLightningInvoiceBundleRequest where
  (sessionId requesterId quoteHash dealHash : String)
  admissionDeadline : ℤ
  successPaymentHash : String
  (baseFeeMsat successFeeMsat : ℕ)
  createdAt : ℤ
deriving DecidableEq

structure IssuedInvoices where
  (destinationIdentity baseInvoiceBolt11 basePaymentHash : String)
  baseState : InvoiceBundleLegState
  successHoldInvoiceBolt11 : String
  successState : InvoiceBundleLegState
  expiresAt : ℤ
  minFinalCltvExpiry : ℕ

def signLightningInvoiceBundle (node : NodeIdentity P)
    (request : BuildLightningInvoiceBundleRequest) (issued : IssuedInvoices) :
    Except String LightningInvoiceBundleSession := do
  let bundle ← signNodeArtifact node transportTypeInvoiceBundle request.createdAt
    ({ providerId := node.nodeId, requesterId := request.requesterId
       quoteHash := request.quoteHash, dealHash := request.dealHash
       expiresAt := issued.expiresAt, destinationIdentity := issued.destinationIdentity
       baseFee :=
        { amountMsat := request.baseFeeMsat, invoiceBolt11 := issued.baseInvoiceBolt11
          invoiceHash := P.sha256Hex (textBytes issued.baseInvoiceBolt11)
          paymentHash := issued.basePaymentHash, state := issued.baseState }
       successFee :=
        { amountMsat := request.successFeeMsat, invoiceBolt11 := issued.successHoldInvoiceBolt11
          invoiceHash := P.sha256Hex (textBytes issued.successHoldInvoiceBolt11)
          paymentHash := request.successPaymentHash, state := issued.successState }
       minFinalCltvExpiry := issued.minFinalCltvExpiry } : InvoiceBundlePayload)
  return { sessionId := request.sessionId, bundle, baseState := issued.baseState
           successState := issued.successState, createdAt := request.createdAt }

/-! ## Prepaid Lightning -/

structure IncomingPayment where
  isPaid : Bool
  receivedSat : ℕ
  preimageHex : String
deriving DecidableEq

def validatePrepaidPaymentProof (P : Primitives) (expectedPaymentHash : String)
    (expectedAmountSat : ℕ) (payment : IncomingPayment) : Except String Unit := do
  rejectIf (!payment.isPaid) "prepaid invoice is not paid"
  let received := payment.receivedSat
  rejectIf (payment.receivedSat != expectedAmountSat)
    (s!"prepaid received amount {received} sat does not match expected amount "
      ++ s!"{expectedAmountSat} sat")
  match Hex.decodeChars expectedPaymentHash.toList with
  | none => .error "prepaid payment hash is not valid hex"
  | some expectedHash => do
    rejectIf (expectedHash.length != 32) "prepaid payment hash must be exactly 32 bytes"
    match Hex.decodeChars payment.preimageHex.toList with
    | none => .error "prepaid payment preimage is not valid hex"
    | some preimage => do
      rejectIf (preimage.length != 32) "prepaid payment preimage must be exactly 32 bytes"
      rejectIf (P.sha256Hex preimage != Hex.encode expectedHash)
        "prepaid payment preimage does not match the payment hash"

/-- What a proven payment is: the contracted amount, against a preimage that
hashes to the payment hash. -/
structure PrepaidProven (P : Primitives) (paymentHash : String) (amountSat : ℕ)
    (payment : IncomingPayment) : Prop where
  isPaid : payment.isPaid = true
  received : payment.receivedSat = amountSat
  hash : (decodeHash32 paymentHash).isSome = true
  preimage : ∃ bytes, decodeHash32 payment.preimageHex = some bytes
    ∧ P.sha256Hex bytes = paymentHash.toLower

theorem prepaidProven_of_validate {paymentHash : String} {amountSat : ℕ} {payment : IncomingPayment}
    (h : validatePrepaidPaymentProof P paymentHash amountSat payment = .ok ()) :
    PrepaidProven P paymentHash amountSat payment := by
  unfold validatePrepaidPaymentProof at h
  simp only [check_eq_ok, rejectIf_eq_ok, Bool.not_eq_false', bne_eq_false_iff_eq] at h
  obtain ⟨hpaid, hreceived, h⟩ := h
  cases hhash : Hex.decodeChars paymentHash.toList with
  | none =>
    rw [hhash] at h
    cases h
  | some expectedHash =>
    rw [hhash] at h
    simp only [check_eq_ok, rejectIf_eq_ok, bne_eq_false_iff_eq] at h
    obtain ⟨hlen, h⟩ := h
    cases hpre : Hex.decodeChars payment.preimageHex.toList with
    | none =>
      rw [hpre] at h
      cases h
    | some preimage =>
      rw [hpre] at h
      simp only [check_eq_ok, rejectIf_eq_ok, bne_eq_false_iff_eq] at h
      obtain ⟨hprelen, hsha⟩ := h
      refine ⟨hpaid, hreceived, ?_, preimage, ?_, ?_⟩
      · simp [decodeHash32, hhash, hlen]
      · simp [decodeHash32, hpre, hprelen]
      · rw [hsha, Hex.encode_of_decodeChars hhash]

end Froglet
