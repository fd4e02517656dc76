import Froglet.Provider.Admission
import Froglet.Provider.Receipts

/-!
# What a deal request must be

`create_deal_record` checks a request before it opens its transaction: that the quote is
this node's own and the deal is on it, that the total can be settled, and that there is
a rail for it.
-/

namespace Froglet
variable {now : ℤ}

structure CreateDealRequest where
  quote : SignedQuote
  spec : WorkloadSpec
  deal : SignedDeal
  idempotencyKey : Option String
  payment : Option ProvidedPayment

def checkIdempotencyKey : Option String → Except String Unit
  | none => .ok ()
  | some key => do
    rejectIf (isBlank key) "idempotency_key must not be empty"
    rejectIf (key.utf8ByteSize > 128) "idempotency_key is too large"

def enforceProviderPaymentPolicy (config : NodeConfig) (terms : QuoteSettlementTerms) :
    Except String Unit :=
  if !config.requirePayment then .ok ()
  else
    let realRail :=
      if terms.method == settlementMethodLightningPrepaid then
        config.paymentBackends.contains .lightning && config.lightningMode == .phoenixd
      else if terms.method == settlementMethodLightningEscrow then
        config.paymentBackends.contains .lightning && config.lightningMode == .lndRest
      else if terms.method == settlementMethodStripeMpp then
        config.paymentBackends.contains .stripe
      else false
    rejectIf (!realRail || terms.baseFeeMsat == 0
        || (checkedAdd terms.baseFeeMsat terms.successFeeMsat).isNone)
      ("provider requires a real payment rail and a nonzero upfront fee; "
        ++ "free and mock-paid execution is disabled")

def quotedTotalSats (terms : QuoteSettlementTerms) : Except String ℕ :=
  match checkedAdd terms.baseFeeMsat terms.successFeeMsat with
  | none => .error "quote total overflows the supported range"
  | some total =>
    if i64Max < total || total % 1000 != 0 then
      .error "quote total is not representable as signed whole-satoshi settlement"
    else .ok (total / 1000)

def NodeConfig.rail (config : NodeConfig) (method : String) (totalSats : ℕ) :
    Option PaymentMethod :=
  if totalSats == 0 then none
  else if method == settlementMethodLightningEscrow && config.paymentBackends.contains .lightning
  then some .lightning
  else if method == settlementMethodLightningPrepaid && config.paymentBackends.contains .lightning
      && config.lightningMode == .phoenixd
  then some .lightningPrepaid
  else if method == settlementMethodStripeMpp && config.paymentBackends.contains .stripe
  then some .stripe
  else none

def validateDealDeadlines (quote : QuotePayload) (deal : DealPayload) (now : ℤ)
    (usesLightningBundle : Bool) : Except String Unit := do
  rejectIf (deal.admissionDeadline < now) "deal admission_deadline already passed"
  rejectIf (quote.expiresAt < deal.admissionDeadline)
    "deal admission_deadline exceeds the quote expiry"
  rejectIf (deal.completionDeadline ≤ deal.admissionDeadline)
    "deal completion_deadline must be greater than admission_deadline"
  rejectIf (deal.acceptanceDeadline < deal.completionDeadline)
    "deal acceptance_deadline must be greater than or equal to completion_deadline"
  if usesLightningBundle then
    rejectIf (quote.expiresAt < deal.acceptanceDeadline)
      "lightning deal acceptance_deadline exceeds the quoted settlement window"
    -- a sum past the range is clamped there, beyond every deadline
    rejectIf (now + wrapI64 (max quote.settlementTerms.maxBaseInvoiceExpirySecs
        quote.settlementTerms.maxSuccessHoldExpirySecs) < deal.admissionDeadline)
      "lightning deal admission_deadline exceeds the quoted invoice expiry bounds"

def checkInlinePayment (rail : Option PaymentMethod) (payment : Option ProvidedPayment) :
    Except String Unit :=
  match rail with
  | some .stripe => rejectIf payment.isNone
      ("stripe_mpp.v1 deals require a payment token "
        ++ "(ProvidedPayment\x7bkind:\"stripe_mpp\",token:<SPT>\x7d)")
  | some .lightning | some .lightningPrepaid => rejectIf payment.isSome
      ("paid deals use the signed deal plus invoice-bundle flow "
        ++ "instead of inline payment tokens")
  | none => .ok ()

/-- What a request must satisfy. In the source the checks of the inline payment stand behind the
lookup of an existing deal: a request that finds one writes no row, and at most runs the deal's
materialization, which is an action of its own here. -/
def checkDealRequest (P : Primitives) (node : NodeIdentity P) (config : NodeConfig)
    (request : CreateDealRequest) (otherChecks : Except String Unit) (now : ℤ) :
    Except String (Option PaymentMethod × ℕ) := do
  let quote := request.quote.payload
  let deal := request.deal.payload
  checkIdempotencyKey request.idempotencyKey
  rejectIf (!verifyArtifact P request.quote) "invalid quote signature"
  rejectIf (!verifyArtifact P request.deal) "invalid deal signature"
  rejectIf (!(validateQuoteDeal P request.quote request.deal none).valid)
    "invalid Quote-to-Deal artifact chain"
  rejectIf (request.quote.signer != node.nodeId) "quote was not issued by this provider"
  enforceProviderPaymentPolicy config quote.settlementTerms
  otherChecks
  rejectIf (quote.providerId != node.nodeId) "quote provider_id does not match this provider"
  rejectIf (quote.workloadHash != request.spec.requestHash)
    "quote does not match workload payload"
  rejectIf (request.deal.signer != deal.requesterId)
    "deal signer does not match deal requester_id"
  rejectIf (deal.providerId != quote.providerId)
    "deal provider_id does not match quote provider_id"
  rejectIf (deal.requesterId != quote.requesterId)
    "deal requester_id does not match quote requester_id"
  rejectIf (deal.quoteHash != request.quote.hash)
    "deal quote_hash does not match the submitted quote"
  rejectIf (deal.workloadHash != request.spec.requestHash)
    "deal does not match workload payload"
  rejectIf (quote.confidentialSessionHash != request.spec.confidentialSessionHash)
    "quote confidential_session_hash does not match workload payload"
  rejectIf (deal.confidentialSessionHash != quote.confidentialSessionHash)
    "deal confidential_session_hash does not match quote confidential_session_hash"
  rejectIf (quote.expiresAt < now) "quote expired"
  let totalSats ← quotedTotalSats quote.settlementTerms
  let rail := config.rail quote.settlementTerms.method totalSats
  rejectIf (totalSats != 0 && rail.isNone)
    "quote settlement method is not admitted by the provider Deal runtime"
  validateDealDeadlines quote deal now (rail == some .lightning)
  checkInlinePayment rail request.payment
  rejectIf (rail == some .lightningPrepaid && deal.admissionDeadline ≤ now)
    "prepaid Deal admission deadline has elapsed"
  return (rail, totalSats)

/-! ## What is written -/

def CreateDealRequest.newDeal (request : CreateDealRequest) (dealId : String)
    (rail : Option PaymentMethod) (totalSats : ℕ) (now : ℤ) : NewDeal :=
  { dealId, idempotencyKey := request.idempotencyKey, quote := request.quote
    spec := request.spec, artifact := request.deal, dealArtifactHash := request.deal.hash
    paymentMethod := rail
    paymentTokenHash :=
      if rail == some .lightning then some request.deal.payload.successPaymentHash else none
    paymentAmountSats := rail.map fun _ => totalSats
    initialStatus := if rail.isSome then .paymentPending else .accepted
    createdAt := now }

inductive MaterializationRequest where
  | lightningInvoiceBundle (request : BuildLightningInvoiceBundleRequest)
  | stripePayment (priceSats : ℕ) (payment : ProvidedPayment) (requestId : String)
  | prepaidInvoice (amountSats : ℕ) (externalId : String)
deriving DecidableEq

def CreateDealRequest.materialization (request : CreateDealRequest) (dealId : String)
    (rail : Option PaymentMethod) (totalSats : ℕ) (now : ℤ) : Option MaterializationRequest :=
  match rail with
  | none => none
  | some .lightning => some (.lightningInvoiceBundle
      { sessionId := dealId, requesterId := request.deal.payload.requesterId
        quoteHash := request.quote.hash, dealHash := request.deal.hash
        admissionDeadline := request.deal.payload.admissionDeadline
        successPaymentHash := request.deal.payload.successPaymentHash
        baseFeeMsat := request.quote.payload.settlementTerms.baseFeeMsat
        successFeeMsat := request.quote.payload.settlementTerms.successFeeMsat
        createdAt := now })
  | some .stripe => request.payment.map (.stripePayment totalSats · dealId)
  | some .lightningPrepaid => some (.prepaidInvoice totalSats dealId)

def rejectionSpec (bundle : Option LightningInvoiceBundleSession) (message : String) :
    ReceiptSignSpec :=
  { dealState := "rejected", executionState := "not_started", bundle
    stripeSettlement := none, prepaidSettlement := none, resultHash := none
    resultFormat := none, resultEnvelopeHash := none
    failure := some { code := "capacity_exhausted", message } }

/-! ## What an admitted deal is -/

def StoredDeal.totalSats (deal : StoredDeal) : ℕ :=
  (deal.quote.payload.settlementTerms.baseFeeMsat
    + deal.quote.payload.settlementTerms.successFeeMsat) / 1000

structure StoredDeal.Admitted {P : Primitives} (node : NodeIdentity P) (config : NodeConfig)
    (deal : StoredDeal) : Prop where
  checked : deal.Checked node
  hash : deal.dealArtifactHash = some deal.artifact.hash
  whole : deal.quote.payload.settlementTerms.baseFeeMsat
    + deal.quote.payload.settlementTerms.successFeeMsat = 1000 * deal.totalSats
  bounded : 1000 * deal.totalSats ≤ i64Max
  rail : deal.paymentMethod = config.rail deal.quote.payload.settlementTerms.method deal.totalSats
  paid : deal.totalSats ≠ 0 → deal.paymentMethod ≠ none

variable {config : NodeConfig} {P : Primitives}

theorem StoredDeal.Admitted.of_identity {node : NodeIdentity P} {row row' : StoredDeal}
    (h : row.Admitted node config) (hid : row'.identity = row.identity) :
    row'.Admitted node config := by
  simp only [StoredDeal.identity, Prod.mk.injEq] at hid
  obtain ⟨-, -, hquote, hspec, hartifact, hhash, hmethod, -⟩ := hid
  obtain ⟨⟨hchain, hprovider, hsession⟩, hsame, hwhole, hbounded, hrail, hpaid⟩ := h
  have htotal : row'.totalSats = row.totalSats := by rw [totalSats, totalSats, hquote]
  refine ⟨⟨?_, ?_, ?_⟩, ?_, ?_, htotal ▸ hbounded, ?_, ?_⟩
  · rw [hquote, hartifact]
    exact hchain
  · rw [hquote]
    exact hprovider
  · rw [hquote, hspec]
    exact hsession
  · rw [hhash, hartifact]
    exact hsame
  · rw [hquote, htotal]
    exact hwhole
  · rw [hmethod, hquote, htotal]
    exact hrail
  · rw [hmethod, htotal]
    exact hpaid

variable {totalSats : ℕ}

theorem quotedTotalSats_ok {terms : QuoteSettlementTerms}
    (h : quotedTotalSats terms = .ok totalSats) :
    terms.baseFeeMsat + terms.successFeeMsat = 1000 * totalSats ∧ 1000 * totalSats ≤ i64Max := by
  unfold quotedTotalSats at h
  cases hadd : checkedAdd terms.baseFeeMsat terms.successFeeMsat with
  | none =>
    rw [hadd] at h
    cases h
  | some total =>
    rw [hadd] at h
    rw [checkedAdd_eq_some hadd]
    dsimp only at h
    split at h
    case isTrue => cases h
    case isFalse hwhole =>
      cases h
      simp only [Bool.or_eq_true, decide_eq_true_eq, bne_iff_ne, not_or, not_not] at hwhole
      omega

def PaymentMethod.settlementMethod : PaymentMethod → String
  | lightning => settlementMethodLightningEscrow
  | lightningPrepaid => settlementMethodLightningPrepaid
  | stripe => settlementMethodStripeMpp

theorem NodeConfig.rail_method {method : String}
    {rail : PaymentMethod} (h : config.rail method totalSats = some rail) :
    totalSats ≠ 0 ∧ method = rail.settlementMethod := by
  unfold NodeConfig.rail at h
  split at h
  case isTrue => cases h
  case isFalse hzero =>
    refine ⟨by simpa using hzero, ?_⟩
    split at h
    case isTrue hm =>
      cases h
      simp only [Bool.and_eq_true, beq_iff_eq] at hm
      exact hm.1
    case isFalse =>
      split at h
      case isTrue hm =>
        cases h
        simp only [Bool.and_eq_true, beq_iff_eq] at hm
        exact hm.1.1
      case isFalse =>
        split at h
        case isTrue hm =>
          cases h
          simp only [Bool.and_eq_true, beq_iff_eq] at hm
          exact hm.1
        case isFalse => cases h

variable {otherChecks : Except String Unit} {request : CreateDealRequest}
variable {rail : Option PaymentMethod}

theorem checkDealRequest_ok {node : NodeIdentity P}
    (h : checkDealRequest P node config request otherChecks now = .ok (rail, totalSats)) :
    QuoteDealValid P none request.quote request.deal
      ∧ request.quote.payload.providerId = node.nodeId
      ∧ request.quote.payload.confidentialSessionHash = request.spec.confidentialSessionHash
      ∧ quotedTotalSats request.quote.payload.settlementTerms = .ok totalSats
      ∧ rail = config.rail request.quote.payload.settlementTerms.method totalSats
      ∧ (totalSats ≠ 0 → rail ≠ none) ∧ checkInlinePayment rail request.payment = .ok () := by
  unfold checkDealRequest at h
  simp only [check_eq_ok, rejectIf_eq_ok] at h
  obtain ⟨-, -, -, hchain, -, -, -, hprovider, -, -, -, -, -, -, hsession, -, -, h⟩ := h
  obtain ⟨total, htotal, h⟩ := bind_eq_ok.mp h
  simp only [check_eq_ok, rejectIf_eq_ok, pure_eq_ok, Prod.mk.injEq] at h
  obtain ⟨hpaid, -, hpayment, -, rfl, rfl⟩ := h
  refine ⟨(valid_validateQuoteDeal P).mp (by simpa using hchain), by simpa using hprovider,
    by simpa using hsession, htotal, rfl, fun hzero hnone => ?_, hpayment⟩
  rw [hnone] at hpaid
  simp [hzero] at hpaid

theorem deadline_of_checkDealRequest {node : NodeIdentity P}
    (h : checkDealRequest P node config request otherChecks now = .ok (rail, totalSats)) :
    now ≤ request.deal.payload.completionDeadline := by
  unfold checkDealRequest at h
  simp only [check_eq_ok] at h
  obtain ⟨-, -, -, -, -, -, -, -, -, -, -, -, -, -, -, -, -, h⟩ := h
  obtain ⟨total, -, h⟩ := bind_eq_ok.mp h
  simp only [check_eq_ok] at h
  obtain ⟨-, hdeadlines, -⟩ := h
  unfold validateDealDeadlines at hdeadlines
  simp only [check_eq_ok, rejectIf_eq_ok, decide_eq_false_iff_not] at hdeadlines
  obtain ⟨hadmission, -, hcompletion, -⟩ := hdeadlines
  omega

theorem withInitialStatus_newDeal (request : CreateDealRequest) (dealId : String)
    (rail : Option PaymentMethod) (totalSats : ℕ) (now : ℤ) :
    (request.newDeal dealId rail totalSats now).withInitialStatus
      = request.newDeal dealId rail totalSats now := rfl

/-- The row of a request that passed the checks is an admitted deal at the
total that was found. -/
theorem admitted_of_checkDealRequest {node : NodeIdentity P}
    (h : checkDealRequest P node config request otherChecks now = .ok (rail, totalSats))
    (dealId : String) : (request.newDeal dealId rail totalSats now).row.Admitted node config
      ∧ (request.newDeal dealId rail totalSats now).row.totalSats = totalSats := by
  obtain ⟨hchain, hprovider, hsession, htotal, rfl, hpaid, -⟩ := checkDealRequest_ok h
  obtain ⟨hwhole, hbounded⟩ := quotedTotalSats_ok htotal
  have hsame : (request.newDeal dealId
      (config.rail request.quote.payload.settlementTerms.method totalSats) totalSats
        now).row.totalSats = totalSats := by
    show (request.quote.payload.settlementTerms.baseFeeMsat
      + request.quote.payload.settlementTerms.successFeeMsat) / 1000 = totalSats
    rw [hwhole, Nat.mul_div_cancel_left _ (by decide)]
  refine ⟨⟨⟨hchain, hprovider, hsession⟩, rfl, ?_, hsame.symm ▸ hbounded, ?_, ?_⟩, hsame⟩
  · rw [hsame]
    exact hwhole
  · rw [hsame]
    rfl
  · rw [hsame]
    exact hpaid

end Froglet
