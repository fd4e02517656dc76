import Mathlib.Data.String.Basic
import Froglet.Lightning.Bundles
import Froglet.Requester.Payments

/-!
# Prepaid invoices

A prepaid deal is paid by one invoice, which the provider supplies. The check before it
is paid (and, on the provider's side, before it is shown) binds every field of the
invoice to the signed quote.
-/

namespace Froglet

open List
variable {decoded : DecodedLightningInvoice} {now : ℤ} {P : Primitives} {parser : Bolt11Parser}

/-- A point in compressed form, under the tag of its `y`. The tag 5 of a compact point,
which has the same length, is not among them. -/
def isCompressedKey (bytes : Bytes) : Bool :=
  bytes.length == 33 && (bytes.head? == some 2 || bytes.head? == some 3)

/-- What the crate `k256` does with an encoded point: it reads it, if it is one, and writes
it in compressed form. -/
structure Sec1Keys where
  compress : Bytes → Option Bytes
  /-- a compressed point is written as it was read -/
  compress_compressed : ∀ bytes key, compress bytes = some key → isCompressedKey bytes = true →
    key = bytes

def normalizeLightningDestinationIdentity (keys : Sec1Keys) (value : String) :
    Except String String := do
  let bytes ← okOr (Hex.decodeChars value.toList) "expected prepaid destination is not valid hex"
  let publicKey ← okOr (keys.compress bytes)
    "expected prepaid destination is not a secp256k1 public key"
  return Hex.encode publicKey

structure PrepaidLightningInvoiceValidation where
  (invoiceBolt11 expectedPaymentHash : String)
  expectedAmountSat : ℕ
  expectedDestinationIdentity : Option String
  expectedNetwork : Option Currency
  (now dealAdmissionDeadline : ℤ)
  quote : SignedQuote
variable {request : PrepaidLightningInvoiceValidation}

def checkPrepaidDestination (keys : Sec1Keys) (terms : QuoteSettlementTerms)
    (decoded : DecodedLightningInvoice) : Option String → Except String Unit
  | none => .ok ()
  | some expectedDestination => do
    let quotedDestination ← normalizeLightningDestinationIdentity keys terms.destinationIdentity
    let expectedDestination ← normalizeLightningDestinationIdentity keys expectedDestination
    rejectIf (expectedDestination != quotedDestination)
      "expected prepaid destination does not match the signed quote destination"
    rejectIf (decoded.destinationIdentity != expectedDestination)
      "prepaid invoice destination does not match the expected destination"

def checkPrepaidExpiry (quote : QuotePayload) (decoded : DecodedLightningInvoice)
    (now dealAdmissionDeadline : ℤ) : Except String Unit := do
  let maxExpirySecs := quote.settlementTerms.maxBaseInvoiceExpirySecs
  rejectIf (decoded.expiresAt ≤ now) "prepaid invoice is expired"
  rejectIf (i64Max < maxExpirySecs) "quoted prepaid invoice expiry is out of range"
  rejectIf (decoded.expirySecs.any (maxExpirySecs < ·))
    "prepaid invoice exceeds the quoted expiry window"
  let latestExpiryFromNow ← okOr (checkedAddI64 now maxExpirySecs)
    "quoted prepaid invoice expiry overflowed"
  rejectIf (latestExpiryFromNow < decoded.expiresAt)
    "prepaid invoice exceeds the quoted expiry window"
  rejectIf (quote.expiresAt ≤ now) "signed prepaid quote is expired"
  rejectIf (quote.expiresAt < decoded.expiresAt)
    "prepaid invoice expires after the signed quote deadline"
  rejectIf (dealAdmissionDeadline ≤ now) "prepaid deal admission deadline has elapsed"
  rejectIf (dealAdmissionDeadline < decoded.expiresAt)
    "prepaid invoice expires after the deal admission deadline"

def validatePrepaidLightningInvoice (P : Primitives) (parser : Bolt11Parser) (keys : Sec1Keys)
    (request : PrepaidLightningInvoiceValidation) : Except String Unit := do
  let quote := request.quote
  let terms := quote.payload.settlementTerms
  rejectIf (quote.artifactType != artifactTypeQuote)
    "prepaid settlement terms must come from a quote artifact"
  rejectIf (!verifyArtifact P quote) "prepaid quote signature is invalid"
  (validateQuoteArtifact quote).mapError fun error => s!"prepaid quote is invalid: {error}"
  rejectIf (terms.method != settlementMethodLightningPrepaid)
    "signed quote does not use lightning.prepaid.v1"
  let decoded ← decodeLightningInvoice parser request.invoiceBolt11
  let expectedAmountMsat ← okOr (checkedMul request.expectedAmountSat 1000)
    "prepaid invoice amount overflowed millisatoshis"
  rejectIf (terms.baseFeeMsat != expectedAmountMsat)
    "provider prepaid amount does not match the signed quote amount"
  rejectIf (decoded.amountMsat != expectedAmountMsat)
    "prepaid invoice amount does not match the expected amount"
  let expectedPaymentHashBytes ← okOr (Hex.decodeChars request.expectedPaymentHash.toList)
    "expected prepaid payment hash is not valid hex"
  rejectIf (expectedPaymentHashBytes.length != 32)
    "expected prepaid payment hash must be 32 bytes"
  rejectIf (decoded.paymentHash != Hex.encode expectedPaymentHashBytes)
    "prepaid invoice payment hash does not match the expected payment hash"
  rejectIf (request.expectedNetwork.any (decoded.network != some ·))
    "prepaid invoice network does not match the paying wallet network"
  checkPrepaidDestination keys terms decoded request.expectedDestinationIdentity
  checkPrepaidExpiry quote.payload decoded request.now request.dealAdmissionDeadline

/-! ## Reading hexadecimal keys -/

variable {keys : Sec1Keys}

theorem toLower_of_isLowerHexChar {c : Char} (h : isLowerHexChar c = true) : c.toLower = c := by
  simp only [isLowerHexChar, Bool.or_eq_true, Bool.and_eq_true, decide_eq_true_eq] at h
  rw [← Char.ofNat_toNat c]
  generalize c.toNat = n at h
  obtain ⟨hlo, hhi⟩ | ⟨hlo, hhi⟩ := h <;> interval_cases n <;> decide

/-- The text of a compressed point, as a signed quote may have it. -/
def isCompressedKeyText (value : String) : Bool :=
  (Hex.decodeChars value.toList).any isCompressedKey

theorem normalizeLightningDestinationIdentity_eq {value normalized : String}
    (hvalue : isLowerHexLen value 66 = true) (hkeyText : isCompressedKeyText value = true)
    (h : normalizeLightningDestinationIdentity keys value = .ok normalized) :
    normalized = value := by
  simp only [isLowerHexLen, Bool.and_eq_true] at hvalue
  simp only [normalizeLightningDestinationIdentity, bind_eq_ok, okOr_eq_ok, pure_eq_ok] at h
  obtain ⟨bytes, hbytes, key, hkey, rfl⟩ := h
  rw [isCompressedKeyText, hbytes] at hkeyText
  rw [keys.compress_compressed bytes key hkey hkeyText]
  show String.ofList (Hex.encodeChars bytes) = value
  have hlower : value.toList.map Char.toLower = value.toList :=
    (map_congr_left (f := Char.toLower) (g := id) fun c hc =>
      toLower_of_isLowerHexChar (all_eq_true.mp hvalue.2 c hc)).trans (map_id _)
  rw [Hex.encodeChars_of_decodeChars hbytes, hlower, String.ofList_toList]

/-! ## What an accepted invoice is -/

/-- The payee is the expected one and the one of the quote, both in compressed form. -/
structure PaysQuoted (keys : Sec1Keys) (terms : QuoteSettlementTerms) (destination : String)
    (decoded : DecodedLightningInvoice) : Prop where
  expected : normalizeLightningDestinationIdentity keys destination
    = .ok decoded.destinationIdentity
  quoted : normalizeLightningDestinationIdentity keys terms.destinationIdentity
    = .ok decoded.destinationIdentity
  text : isCompressedKeyText terms.destinationIdentity = true →
    decoded.destinationIdentity = terms.destinationIdentity

structure PrepaidInvoiceBound (keys : Sec1Keys) (request : PrepaidLightningInvoiceValidation)
    (decoded : DecodedLightningInvoice) : Prop where
  amount : decoded.amountMsat = request.quote.payload.settlementTerms.baseFeeMsat
  expectedAmount : decoded.amountMsat = request.expectedAmountSat * 1000
  amountInRange : request.expectedAmountSat * 1000 ≤ u64Max
  paymentHash : ∃ bytes, Hex.decodeChars request.expectedPaymentHash.toList = some bytes
    ∧ bytes.length = 32 ∧ decoded.paymentHash = Hex.encode bytes
  network : ∀ network ∈ request.expectedNetwork, decoded.network = some network
  payee : ∀ destination ∈ request.expectedDestinationIdentity,
    PaysQuoted keys request.quote.payload.settlementTerms destination decoded
  live : request.now < decoded.expiresAt
  expiry : decoded.expiresAt
    ≤ min (request.now + request.quote.payload.settlementTerms.maxBaseInvoiceExpirySecs)
      (min request.quote.payload.expiresAt request.dealAdmissionDeadline)
  expiryInRange :
    request.now + request.quote.payload.settlementTerms.maxBaseInvoiceExpirySecs ≤ i64Max

theorem checkPrepaidExpiry_ok {quote : QuotePayload} {dealAdmissionDeadline : ℤ}
    (h : checkPrepaidExpiry quote decoded now dealAdmissionDeadline = .ok ()) :
    now < decoded.expiresAt
      ∧ decoded.expiresAt ≤ min (now + quote.settlementTerms.maxBaseInvoiceExpirySecs)
        (min quote.expiresAt dealAdmissionDeadline)
      ∧ now + quote.settlementTerms.maxBaseInvoiceExpirySecs ≤ i64Max := by
  unfold checkPrepaidExpiry at h
  simp only [↓check_eq_ok, bind_eq_ok, rejectIf_eq_ok,
    okOr_eq_ok, checkedAddI64_eq_some, decide_eq_false_iff_not, not_lt, not_le] at h
  obtain ⟨hlive, -, -, latest, ⟨rfl, -, hlatest⟩, hwindow, -, hquote, -, hdeal⟩ := h
  exact ⟨hlive, le_min hwindow (le_min hquote hdeal), hlatest⟩

theorem checkPrepaidDestination_ok {terms : QuoteSettlementTerms} {destination : String}
    (hterms : isLowerHexLen terms.destinationIdentity 66 = true)
    (h : checkPrepaidDestination keys terms decoded (some destination) = .ok ()) :
    PaysQuoted keys terms destination decoded := by
  unfold checkPrepaidDestination at h
  simp only [↓check_eq_ok, bind_eq_ok, rejectIf_eq_ok, bne_eq_false_iff_eq] at h
  obtain ⟨quoted, hquoted, expected, hexpected, rfl, rfl⟩ := h
  exact ⟨hexpected, hquoted, (normalizeLightningDestinationIdentity_eq hterms · hquoted)⟩

/-- An accepted prepaid invoice is bound to its quote. -/
theorem validatePrepaidLightningInvoice_ok
    (h : validatePrepaidLightningInvoice P parser keys request = .ok ()) :
    ∃ decoded, decodeLightningInvoice parser request.invoiceBolt11 = .ok decoded
      ∧ PrepaidInvoiceBound keys request decoded := by
  unfold validatePrepaidLightningInvoice at h
  simp only [↓check_eq_ok, bind_eq_ok,
    mapError_eq_ok, rejectIf_eq_ok, okOr_eq_ok, checkedMul_eq_some, bne_eq_false_iff_eq] at h
  obtain ⟨-, -, hquote, hmethod, decoded, hdecoded, expected, ⟨hexpected, hrange⟩, hbase, hamount,
    bytes, hbytes, hlength, hhash, hnetwork, hdestination, hexpiry⟩ := h
  subst hexpected
  have hterms :
      isLowerHexLen request.quote.payload.settlementTerms.destinationIdentity 66 = true := by
    unfold validateQuoteArtifact at hquote
    simp only [check_eq_ok, rejectIf_eq_ok] at hquote
    exact (terms_prepaid hquote.2.2.2.2.2.2 hmethod).1
  obtain ⟨hlive, hends, hendsRange⟩ := checkPrepaidExpiry_ok hexpiry
  refine ⟨decoded, hdecoded,
    { amount := hamount.trans hbase.symm, expectedAmount := hamount, amountInRange := hrange
      paymentHash := ⟨bytes, hbytes, hlength, hhash⟩, network := ?_, payee := ?_, live := hlive
      expiry := hends, expiryInRange := hendsRange }⟩
  · intro network hmem
    rw [hmem] at hnetwork
    simpa using hnetwork
  · intro destination hmem
    rw [hmem] at hdestination
    exact checkPrepaidDestination_ok hterms hdestination

/-- **What a prepaid invoice may be.** An accepted invoice asks for the base fee of the
quote, under the expected payment hash, from the expected payee and on the expected
network, and ends within the quoted window, the quote and the deal; no bound that it
was compared with left its range. -/
theorem prepaid_invoice_accepted {keys : Sec1Keys}
    (h : validatePrepaidLightningInvoice P parser keys request = .ok ()) :
    ∃ decoded, decodeLightningInvoice parser request.invoiceBolt11 = .ok decoded
      ∧ decoded.amountMsat = request.quote.payload.settlementTerms.baseFeeMsat
      ∧ decoded.amountMsat = request.expectedAmountSat * 1000
      ∧ decoded.paymentHash = request.expectedPaymentHash.toLower
      ∧ (∀ destination ∈ request.expectedDestinationIdentity,
        PaysQuoted keys request.quote.payload.settlementTerms destination decoded)
      ∧ (∀ network ∈ request.expectedNetwork, decoded.network = some network)
      ∧ request.now < decoded.expiresAt ∧ decoded.expiresAt
        ≤ min (request.now + request.quote.payload.settlementTerms.maxBaseInvoiceExpirySecs)
          (min request.quote.payload.expiresAt request.dealAdmissionDeadline)
      ∧ request.expectedAmountSat * 1000 ≤ u64Max
      ∧ request.now + request.quote.payload.settlementTerms.maxBaseInvoiceExpirySecs ≤ i64Max := by
  obtain ⟨decoded, hdecoded, hbound⟩ := validatePrepaidLightningInvoice_ok h
  obtain ⟨bytes, hbytes, -, hhash⟩ := hbound.paymentHash
  exact ⟨decoded, hdecoded, hbound.amount, hbound.expectedAmount,
    hhash.trans (Hex.encode_of_decodeChars hbytes), hbound.payee, hbound.network, hbound.live,
    hbound.expiry, hbound.amountInRange, hbound.expiryInRange⟩

def sampleSec1Keys : Sec1Keys := ⟨some, fun _ _ h _ => (Option.some.inj h).symm⟩

def samplePrepaidValidation : PrepaidLightningInvoiceValidation :=
  { invoiceBolt11 := "lnbc", expectedPaymentHash := sampleHash, expectedAmountSat := 1
    expectedDestinationIdentity := some samplePayee, expectedNetwork := some .regtest
    now := 0, dealAdmissionDeadline := 100
    quote := sampleHexEnvelope artifactTypeQuote "p"
      { sampleHoldQuote.payload with
        settlementTerms :=
          { sampleHoldQuote.payload.settlementTerms with
            method := settlementMethodLightningPrepaid
            baseFeeMsat := 1000, successFeeMsat := 0 } } }

theorem prepaid_invoice_accepted_sample :
    validatePrepaidLightningInvoice sampleHexPrimitives (sampleBolt11Parser 50) sampleSec1Keys
        samplePrepaidValidation = .ok ()
      ∧ ∃ decoded, decodeLightningInvoice (sampleBolt11Parser 50) "lnbc" = .ok decoded
        ∧ decoded.amountMsat = 1000 ∧ decoded.destinationIdentity = samplePayee := by
  have h : validatePrepaidLightningInvoice sampleHexPrimitives (sampleBolt11Parser 50)
      sampleSec1Keys samplePrepaidValidation = .ok () := by decide +kernel
  obtain ⟨decoded, hdecoded, hamount, -, -, hpayee, -⟩ := prepaid_invoice_accepted h
  exact ⟨h, decoded, hdecoded, hamount, (hpayee samplePayee rfl).text (by decide +kernel)⟩

/-! ## The buyer's check -/

def buyerPrepaidValidation (invoice : PrepaidInvoice) (quote : SignedQuote)
    (deal : SignedDeal) (now : ℤ) : PrepaidLightningInvoiceValidation :=
  { invoiceBolt11 := invoice.bolt11, expectedPaymentHash := invoice.paymentHash
    expectedAmountSat := invoice.amountSat
    expectedDestinationIdentity := some quote.payload.settlementTerms.destinationIdentity
    expectedNetwork := some .bitcoin, now
    dealAdmissionDeadline := deal.payload.admissionDeadline, quote }

def RequesterEnv.checkingPrepaid (env : RequesterEnv) (parser : Bolt11Parser) (keys : Sec1Keys) :
    RequesterEnv :=
  { env with
    prepaidInvoiceValid := fun invoice quote deal now =>
      (validatePrepaidLightningInvoice env.prims parser keys
        (buyerPrepaidValidation invoice quote deal now)).passes }

/-- A prepaid answer that is accepted has a bound invoice, on the main network and
for the destination of the quote. -/
theorem bound_of_verifyCreateAnswer {env : RequesterEnv} {draft : CreateDraft} {remote : DealRecord}
    (hmethod : draft.quote.payload.settlementTerms.method = settlementMethodLightningPrepaid)
    (h : verifyCreateAnswer (env.checkingPrepaid parser keys) draft remote now = .ok ()) :
    ∃ invoice decoded, remote.prepaidInvoice = some invoice
      ∧ decodeLightningInvoice parser invoice.bolt11 = .ok decoded
      ∧ PrepaidInvoiceBound keys (buyerPrepaidValidation invoice draft.quote draft.deal now)
        decoded := by
  unfold verifyCreateAnswer at h
  simp only [↓check_eq_ok, hmethod, beq_self_eq_true, if_true] at h
  obtain ⟨-, h⟩ := h
  cases hinvoice : remote.prepaidInvoice with
  | none =>
    rw [hinvoice] at h
    cases hreceipt : remote.receipt with
    | none =>
      rw [hreceipt] at h
      cases h
    | some receipt =>
      rw [hreceipt] at h
      cases (check_eq_ok.mp h).2
  | some invoice =>
    rw [hinvoice] at h
    -- what is checked of the receipt comes first
    have hanswer : (do
        rejectIf (!env.buyerPhoenixd) "this buyer node has no phoenixd configured"
        rejectIf (!(env.checkingPrepaid parser keys).prepaidInvoiceValid invoice draft.quote
            draft.deal now)
          "provider returned an invalid prepaid Lightning invoice" : Except ApiFailure Unit)
        = .ok () := by
      cases hreceipt : remote.receipt with
      | none =>
        rw [hreceipt] at h
        exact h
      | some receipt =>
        rw [hreceipt] at h
        exact (check_eq_ok.mp h).2
    simp only [↓check_eq_ok, rejectIf_eq_ok, Bool.not_eq_false',
      RequesterEnv.checkingPrepaid, passes_iff] at hanswer
    obtain ⟨decoded, hdecoded, hbound⟩ := validatePrepaidLightningInvoice_ok hanswer.2
    exact ⟨invoice, decoded, rfl, hdecoded, hbound⟩

/-! ## What the buyer pays -/

/-- Every payment is bound to its call. It is the payment of a create call that has paid,
and among `actions` there is an answer to that call which was accepted with the invoice: the
invoice decodes, and is bound to the signed quote and deal of the call at the time of the
answer. -/
def BuyerState.PaysBound (env : RequesterEnv) (parser : Bolt11Parser) (keys : Sec1Keys)
    (actions : List BuyerAction) (s : BuyerState) : Prop :=
  ∀ payment ∈ s.payments, ∃ call ∈ s.calls, call.phase = .paid ∧ ∃ remote now invoice decoded,
    .answer call.draft.deal.hash remote now ∈ actions
      ∧ verifyCreateAnswer env call.draft remote now = .ok ()
      ∧ remote.prepaidInvoice = some invoice ∧ call.draft.payment invoice = payment
      ∧ decodeLightningInvoice parser invoice.bolt11 = .ok decoded
      ∧ PrepaidInvoiceBound keys
        (buyerPrepaidValidation invoice call.draft.quote call.draft.deal now) decoded

/-- **The buyer only pays bound invoices**, whatever the providers answer. -/
theorem payments_bound (env : RequesterEnv) (parser : Bolt11Parser) (keys : Sec1Keys)
    (actions : List BuyerAction) :
    ((buyerMachine (env.checkingPrepaid parser keys)).run actions).PaysBound
      (env.checkingPrepaid parser keys) parser keys actions := by
  intro payment hpayment
  obtain ⟨call, hcall, hphase, invoice, hpaid, hmethod, remote, now, hanswer, hinvoice, hverify⟩ :=
    paid_accepted _ actions hpayment
  obtain ⟨invoice', decoded, hinvoice', hdecoded, hbound⟩ :=
    bound_of_verifyCreateAnswer hmethod hverify
  cases hinvoice.symm.trans hinvoice'
  exact ⟨call, hcall, hphase, remote, now, invoice, decoded, hanswer, hverify, hinvoice, hpaid,
    hdecoded, hbound⟩

end Froglet
