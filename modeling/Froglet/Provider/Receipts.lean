import Froglet.Provider.Deals
import Froglet.Provider.Settlement

/-!
# The receipts a provider signs

About ten places of the provider end a deal with a receipt. They all fill in a
`ReceiptSignSpec` and hand it to `signDealReceipt`, which takes the rest from the deal.
-/

namespace Froglet

variable {P : Primitives} {deal : StoredDeal} {finishedAt : ℤ}
variable {refs : ReceiptSettlementRefs} {state : String} {session : LightningInvoiceBundleSession}

/-! ## Evidence -/

structure ReceiptFailure where
  (code message : String)
deriving DecidableEq

structure StripeSettlementInfo where
  paymentIntentId : String
  chargedMsat : ℕ
  captured : Bool

structure PrepaidSettlementInfo where
  (paymentHash preimageHex : String)
  chargedMsat : ℕ
  paid : Bool

structure ReceiptSignSpec where
  (dealState executionState : String)
  bundle : Option LightningInvoiceBundleSession
  stripeSettlement : Option StripeSettlementInfo
  prepaidSettlement : Option PrepaidSettlementInfo
  (resultHash resultFormat resultEnvelopeHash : Option String)
  failure : Option ReceiptFailure

def receiptLegStateFromInvoiceState : InvoiceBundleLegState → ReceiptLegState
  | .opened => .opened
  | .accepted => .accepted
  | .settled => .settled
  | .canceled => .canceled
  | .expired => .expired

def emptyReceiptLeg : ReceiptSettlementLeg :=
  { amountMsat := 0, invoiceHash := "", paymentHash := "", state := .canceled }

def settlementRefsFromBundle : Option LightningInvoiceBundleSession → ReceiptSettlementRefs
  | some session =>
    { method := settlementMethodLightningEscrow, bundleHash := some session.bundle.hash
      destinationIdentity := session.bundle.payload.destinationIdentity
      baseFee :=
        { amountMsat := session.bundle.payload.baseFee.amountMsat
          invoiceHash := session.bundle.payload.baseFee.invoiceHash
          paymentHash := session.bundle.payload.baseFee.paymentHash
          state := receiptLegStateFromInvoiceState session.baseState }
      successFee :=
        { amountMsat := session.bundle.payload.successFee.amountMsat
          invoiceHash := session.bundle.payload.successFee.invoiceHash
          paymentHash := session.bundle.payload.successFee.paymentHash
          state := receiptLegStateFromInvoiceState session.successState } }
  | none =>
    { method := settlementMethodNone, bundleHash := none, destinationIdentity := ""
      baseFee := emptyReceiptLeg, successFee := emptyReceiptLeg }

def settlementStateFromBundle : Option LightningInvoiceBundleSession → String
  | some session => match session.successState with
    | .settled => "settled"
    | .canceled => "canceled"
    | .expired => "expired"
    | .opened | .accepted => "none"
  | none => "none"

def settlementRefsFromStripe (stripe : StripeSettlementInfo) : ReceiptSettlementRefs :=
  { method := settlementMethodStripeMpp, bundleHash := none, destinationIdentity := ""
    baseFee :=
      { amountMsat := stripe.chargedMsat, invoiceHash := "", paymentHash := stripe.paymentIntentId
        state := if stripe.captured then .settled else .canceled }
    successFee := emptyReceiptLeg }

def settlementRefsFromPrepaid (prepaid : PrepaidSettlementInfo) (destinationIdentity : String) :
    ReceiptSettlementRefs :=
  { method := settlementMethodLightningPrepaid, bundleHash := none, destinationIdentity
    baseFee :=
      { amountMsat := prepaid.chargedMsat
        invoiceHash := if prepaid.paid then prepaid.preimageHex else ""
        paymentHash := if prepaid.paid then prepaid.paymentHash else ""
        state := if prepaid.paid then .settled else .canceled }
    successFee := emptyReceiptLeg }

def ReceiptSignSpec.settlement (spec : ReceiptSignSpec) (destinationIdentity : String) :
    ReceiptSettlementRefs × String :=
  match spec.prepaidSettlement, spec.stripeSettlement with
  | some prepaid, _ => (settlementRefsFromPrepaid prepaid destinationIdentity,
      if prepaid.paid then "settled" else "canceled")
  | none, some stripe =>
    (settlementRefsFromStripe stripe, if stripe.captured then "settled" else "canceled")
  | none, none => (settlementRefsFromBundle spec.bundle, settlementStateFromBundle spec.bundle)

/-! ## Signing -/

def jcsJsonFormat : String := "application/json+jcs"

def ReceiptSignSpec.format (spec : ReceiptSignSpec) : Option String :=
  spec.resultFormat.or (spec.resultHash.map fun _ => jcsJsonFormat)

def receiptStartedAt (deal : StoredDeal) (executionState : String) : Option ℤ :=
  if executionState == "not_started" then none else some deal.createdAt

structure ReceiptSigner (P : Primitives) extends NodeIdentity P where
  executor : StoredDeal → ReceiptExecutor

def receiptPayload (signer : ReceiptSigner P) (deal : StoredDeal)
    (finishedAt : ℤ) (spec : ReceiptSignSpec) : ReceiptPayload :=
  let (settlementRefs, settlementState) :=
    spec.settlement deal.quote.payload.settlementTerms.destinationIdentity
  { providerId := deal.artifact.payload.providerId
    requesterId := deal.artifact.payload.requesterId
    dealHash := deal.artifact.hash, quoteHash := deal.quote.hash
    extensionRefs := [], acceptanceRef := none
    startedAt := receiptStartedAt deal spec.executionState, finishedAt
    dealState := spec.dealState, executionState := spec.executionState, settlementState
    resultHash := spec.resultHash
    confidentialSessionHash := deal.spec.confidentialSessionHash
    resultEnvelopeHash := spec.resultEnvelopeHash, resultFormat := spec.format
    executor := signer.executor deal
    limitsApplied := deal.quote.payload.executionLimits, settlementRefs
    failureCode := spec.failure.map (·.code), failureMessage := spec.failure.map (·.message)
    resultRef := none }

def signDealReceipt (signer : ReceiptSigner P) (deal : StoredDeal)
    (finishedAt : ℤ) (spec : ReceiptSignSpec) : Except String SignedReceipt :=
  signNodeArtifact signer.toNodeIdentity artifactTypeReceipt finishedAt
    (receiptPayload signer deal finishedAt spec)

/-! ## When a receipt is accepted -/

structure StoredDeal.Checked (node : NodeIdentity P) (deal : StoredDeal) : Prop where
  chain : QuoteDealValid P none deal.quote deal.artifact
  provider : deal.quote.payload.providerId = node.nodeId
  session : deal.quote.payload.confidentialSessionHash = deal.spec.confidentialSessionHash

structure SettlementFits (signer : ReceiptSigner P) (deal : StoredDeal)
    (finishedAt : ℤ) (spec : ReceiptSignSpec) : Prop where
  rules : validateReceiptSettlement P (receiptPayload signer deal finishedAt spec) = .ok ()
  method : (spec.settlement deal.quote.payload.settlementTerms.destinationIdentity).1.method
    = deal.quote.payload.settlementTerms.method
  baseFee : (spec.settlement
      deal.quote.payload.settlementTerms.destinationIdentity).1.baseFee.amountMsat
    = deal.quote.payload.settlementTerms.baseFeeMsat
  successFee : (spec.settlement
      deal.quote.payload.settlementTerms.destinationIdentity).1.successFee.amountMsat
    = deal.quote.payload.settlementTerms.successFeeMsat
  destination : (spec.settlement
      deal.quote.payload.settlementTerms.destinationIdentity).1.destinationIdentity
    = deal.quote.payload.settlementTerms.destinationIdentity

def statesAllowed (dealState executionState : String) : Bool :=
  (dealState == "rejected" && executionState == "not_started")
    || (dealState == "succeeded" && executionState == "succeeded")
    || (dealState == "failed" && executionState == "failed")
    || (dealState == "canceled"
      && (executionState == "not_started" || executionState == "succeeded"))

structure ReceiptFits (signer : ReceiptSigner P) (deal : StoredDeal)
    (finishedAt : ℤ) (spec : ReceiptSignSpec) : Prop where
  clock : spec.executionState ≠ "not_started" → deal.createdAt ≤ finishedAt
  resultHash : spec.resultHash.isSome = (spec.executionState == "succeeded")
  format : spec.format.isSome = (spec.executionState == "succeeded")
  states : statesAllowed spec.dealState spec.executionState = true
  settlement : SettlementFits signer deal finishedAt spec

theorem validateReceiptDealState_iff (payload : ReceiptPayload) :
    validateReceiptDealState payload = .ok ()
      ↔ statesAllowed payload.dealState payload.executionState = true := by
  unfold validateReceiptDealState statesAllowed
  by_cases h₁ : payload.dealState = "rejected"
  · simp [h₁]
  by_cases h₂ : payload.dealState = "succeeded"
  · simp [h₂]
  by_cases h₃ : payload.dealState = "failed"
  · simp [h₃]
  by_cases h₄ : payload.dealState = "canceled"
  · simp [h₄, ← or_iff_not_imp_left]
  · simp [h₁, h₂, h₃, h₄]

/-- When a signed receipt is accepted, for a deal that admission has
checked. -/
theorem valid_signDealReceipt {signer : ReceiptSigner P} {spec : ReceiptSignSpec}
    {r : SignedReceipt} (hdeal : deal.Checked signer.toNodeIdentity)
    (h : signDealReceipt signer deal finishedAt spec = .ok r) :
    (validateQuoteDealReceipt P deal.quote deal.artifact r none).valid = true
      ↔ ReceiptFits signer deal finishedAt spec := by
  obtain ⟨hauth, htype, hsigner, hpayload⟩ := authentic_of_signArtifact P signer.verifies h
  have hprovider : deal.artifact.payload.providerId = signer.nodeId :=
    hdeal.chain.linked.providerId.trans hdeal.provider
  have hstart : (∀ started ∈ receiptStartedAt deal spec.executionState, started ≤ finishedAt)
      ↔ (spec.executionState ≠ "not_started" → deal.createdAt ≤ finishedAt) := by
    unfold receiptStartedAt
    by_cases hs : spec.executionState = "not_started" <;> simp [hs]
  rw [valid_validateQuoteDealReceipt, validateReceiptArtifact_iff, hpayload,
    validateReceiptDealState_iff]
  constructor
  · rintro ⟨-, -, -, ⟨-, hclock, ⟨hhash, hformat⟩, hstates, hrules⟩, hlinked⟩
    have hmethod := hlinked.method
    have hbase := hlinked.baseFeeMsat
    have hsuccess := hlinked.successFeeMsat
    have hdestination := hlinked.destinationIdentity
    rw [hpayload] at hmethod hbase hsuccess hdestination
    exact ⟨hstart.mp hclock, hhash, hformat, hstates,
      ⟨hrules, hmethod, hbase, hsuccess, hdestination⟩⟩
  · intro hfits
    refine ⟨hdeal.chain, htype, hauth, ⟨hsigner.trans hprovider.symm, hstart.mpr hfits.clock,
      ⟨hfits.resultHash, hfits.format⟩, hfits.states, hfits.settlement.rules⟩, ?_⟩
    -- the links are the deal's own fields, copied into the payload
    constructor <;> rw [hpayload]
    · exact hdeal.chain.linked.providerId
    · rfl
    · exact hdeal.chain.linked.requesterId
    · rfl
    · rfl
    · exact hdeal.chain.linked.quoteHash.symm
    · rfl
    · exact hdeal.session.symm
    · exact hdeal.session.symm.trans hdeal.chain.linked.confidentialSessionHash.symm
    · exact hfits.settlement.method
    · exact hfits.settlement.baseFee
    · exact hfits.settlement.successFee
    · exact hfits.settlement.destination
    · exact limitsWithin_refl _

/-! ## The settlement of a receipt, by evidence -/

section Evidence

variable {signer : ReceiptSigner P}
  {spec : ReceiptSignSpec}

theorem StoredDeal.Checked.terms {node : NodeIdentity P} (h : deal.Checked node) :
    validateQuoteSettlementTerms deal.quote.payload.settlementTerms = .ok () :=
  terms_of_validateQuoteArtifact h.chain.quote

theorem receiptPayload_settlement (signer : ReceiptSigner P) (finishedAt : ℤ)
    (h : spec.settlement deal.quote.payload.settlementTerms.destinationIdentity = (refs, state)) :
    (receiptPayload signer deal finishedAt spec).settlementRefs = refs
      ∧ (receiptPayload signer deal finishedAt spec).settlementState = state := by
  simp [receiptPayload, h]

theorem settlementFits_iff
    (h : spec.settlement deal.quote.payload.settlementTerms.destinationIdentity = (refs, state)) :
    SettlementFits signer deal finishedAt spec
      ↔ validateReceiptSettlement P (receiptPayload signer deal finishedAt spec) = .ok ()
        ∧ refs.method = deal.quote.payload.settlementTerms.method
        ∧ refs.baseFee.amountMsat = deal.quote.payload.settlementTerms.baseFeeMsat
        ∧ refs.successFee.amountMsat = deal.quote.payload.settlementTerms.successFeeMsat
        ∧ refs.destinationIdentity = deal.quote.payload.settlementTerms.destinationIdentity := by
  constructor
  · rintro ⟨hrules, hmethod, hbase, hsuccess, hdest⟩
    rw [h] at hmethod hbase hsuccess hdest
    exact ⟨hrules, hmethod, hbase, hsuccess, hdest⟩
  · rintro ⟨hrules, hmethod, hbase, hsuccess, hdest⟩
    refine ⟨hrules, ?_, ?_, ?_, ?_⟩ <;> rw [h] <;> assumption

/-- Without evidence a receipt is for a free deal. -/
theorem settlementFits_none (hdeal : deal.Checked signer.toNodeIdentity)
    (hprepaid : spec.prepaidSettlement = none) (hstripe : spec.stripeSettlement = none)
    (hbundle : spec.bundle = none) :
    SettlementFits signer deal finishedAt spec
      ↔ deal.quote.payload.settlementTerms.method = settlementMethodNone := by
  have hsettlement : spec.settlement deal.quote.payload.settlementTerms.destinationIdentity
      = (settlementRefsFromBundle none, "none") := by
    simp [ReceiptSignSpec.settlement, hprepaid, hstripe, hbundle, settlementStateFromBundle]
  obtain ⟨hrefs, hstate⟩ := receiptPayload_settlement signer finishedAt hsettlement
  rw [settlementFits_iff hsettlement]
  constructor
  · exact fun h => h.2.1.symm
  · intro hmethod
    obtain ⟨hdest, hbase, hsuccess⟩ := terms_none hdeal.terms hmethod
    refine ⟨?_, hmethod.symm, hbase.symm, hsuccess.symm, hdest.symm⟩
    unfold validateReceiptSettlement validateFreeReceipt
    rw [hrefs, hstate]
    rfl

/-- The legs of a bundle have ended as the state of the deal says, for the payee of the
quote. -/
structure BundleEnded (deal : StoredDeal) (dealState : String)
    (session : LightningInvoiceBundleSession) : Prop where
  destination : session.bundle.payload.destinationIdentity
    = deal.quote.payload.settlementTerms.destinationIdentity
  hash : session.bundle.hash ≠ ""
  baseEnded : session.baseState.isTerminal = true
  successEnded : session.successState.isTerminal = true
  settled : session.successState = .settled → session.baseState = .settled
  succeeded : dealState = "succeeded" → session.successState = .settled

/-- The legs of a bundle are for the fees of the quote. -/
structure FeesFit (deal : StoredDeal) (session : LightningInvoiceBundleSession) : Prop where
  baseFee : session.bundle.payload.baseFee.amountMsat
    = deal.quote.payload.settlementTerms.baseFeeMsat
  successFee : session.bundle.payload.successFee.amountMsat
    = deal.quote.payload.settlementTerms.successFeeMsat

structure BundleFits (deal : StoredDeal) (dealState : String)
    (session : LightningInvoiceBundleSession) : Prop extends
    BundleEnded deal dealState session, FeesFit deal session where
  method : deal.quote.payload.settlementTerms.method = settlementMethodLightningEscrow

theorem validateLightningReceipt_bundle {payload : ReceiptPayload}
    (hrefs : payload.settlementRefs = settlementRefsFromBundle (some session))
    (hstate : payload.settlementState = settlementStateFromBundle (some session)) :
    validateLightningReceipt payload = .ok ()
      ↔ session.bundle.hash ≠ "" ∧ session.bundle.payload.destinationIdentity ≠ ""
        ∧ session.baseState.isTerminal = true ∧ session.successState.isTerminal = true
        ∧ (session.successState = .settled → session.baseState = .settled)
        ∧ (payload.dealState = "succeeded" → session.successState = .settled) := by
  unfold validateLightningReceipt
  simp only [hrefs, hstate, settlementRefsFromBundle, settlementStateFromBundle]
  cases hsuccess : session.successState <;> cases hbase : session.baseState <;>
    simp [receiptLegStateFromInvoiceState, ReceiptLegState.isOpenOrAccepted,
      InvoiceBundleLegState.isTerminal]

section

variable (hdeal : deal.Checked signer.toNodeIdentity)
include hdeal

/-- With an invoice bundle a receipt is for an escrow deal. -/
theorem settlementFits_bundle (hprepaid : spec.prepaidSettlement = none)
    (hstripe : spec.stripeSettlement = none) (hbundle : spec.bundle = some session) :
    SettlementFits signer deal finishedAt spec ↔ BundleFits deal spec.dealState session := by
  have hsettlement : spec.settlement deal.quote.payload.settlementTerms.destinationIdentity
      = (settlementRefsFromBundle (some session), settlementStateFromBundle (some session)) := by
    simp [ReceiptSignSpec.settlement, hprepaid, hstripe, hbundle]
  obtain ⟨hrefs, hstate⟩ := receiptPayload_settlement signer finishedAt hsettlement
  have hrules : validateReceiptSettlement P (receiptPayload signer deal finishedAt spec)
      = validateLightningReceipt (receiptPayload signer deal finishedAt spec) := by
    unfold validateReceiptSettlement
    rw [hrefs]
    rfl
  rw [settlementFits_iff hsettlement, hrules, validateLightningReceipt_bundle hrefs hstate]
  constructor
  · rintro ⟨⟨hhash, -, hb, hs, hset, hsucc⟩, hmethod, hbase, hsuccess, hdest⟩
    exact ⟨⟨hdest, hhash, hb, hs, hset, hsucc⟩, ⟨hbase, hsuccess⟩, hmethod.symm⟩
  · intro h
    refine ⟨⟨h.hash, ?_, h.baseEnded, h.successEnded, h.settled, h.succeeded⟩,
      h.method.symm, h.baseFee, h.successFee, h.destination⟩
    rw [h.destination]
    exact ne_empty_of_isLowerHexLen (by decide) (terms_escrow hdeal.terms h.method)

/-- With a Stripe authorisation a receipt is for a Stripe deal. -/
theorem settlementFits_stripe {stripe : StripeSettlementInfo}
    (hprepaid : spec.prepaidSettlement = none) (hstripe : spec.stripeSettlement = some stripe) :
    SettlementFits signer deal finishedAt spec
      ↔ deal.quote.payload.settlementTerms.method = settlementMethodStripeMpp
        ∧ stripe.chargedMsat = deal.quote.payload.settlementTerms.baseFeeMsat
        ∧ (spec.dealState = "succeeded" → stripe.captured = true) := by
  have hsettlement : spec.settlement deal.quote.payload.settlementTerms.destinationIdentity
      = (settlementRefsFromStripe stripe, if stripe.captured then "settled" else "canceled") := by
    simp [ReceiptSignSpec.settlement, hprepaid, hstripe]
  obtain ⟨hrefs, hstate⟩ := receiptPayload_settlement signer finishedAt hsettlement
  have hrules : validateReceiptSettlement P (receiptPayload signer deal finishedAt spec) = .ok ()
      ↔ (spec.dealState = "succeeded" → stripe.captured = true) := by
    unfold validateReceiptSettlement validateStripeReceipt
    rw [hrefs, hstate]
    cases hcaptured : stripe.captured <;>
      simp [hcaptured, settlementRefsFromStripe, receiptLegIsEmptyCanceled, emptyReceiptLeg,
        settlementMethodStripeMpp, settlementMethodLightningEscrow, settlementMethodNone,
        ReceiptLegState.isOpenOrAccepted, receiptPayload]
  rw [settlementFits_iff hsettlement, hrules]
  constructor
  · rintro ⟨hsucc, hmethod, hbase, -, -⟩
    exact ⟨hmethod.symm, hbase, hsucc⟩
  · rintro ⟨hmethod, hbase, hsucc⟩
    obtain ⟨hdest, hsuccess⟩ := terms_stripe hdeal.terms hmethod
    exact ⟨hsucc, hmethod.symm, hbase, hsuccess.symm, hdest.symm⟩

/-- With a prepaid payment a receipt is for a prepaid deal. -/
theorem settlementFits_prepaid
    {prepaid : PrepaidSettlementInfo} (hprepaid : spec.prepaidSettlement = some prepaid) :
    SettlementFits signer deal finishedAt spec
      ↔ deal.quote.payload.settlementTerms.method = settlementMethodLightningPrepaid
        ∧ prepaid.chargedMsat = deal.quote.payload.settlementTerms.baseFeeMsat
        ∧ (prepaid.paid = true → (decodeHash32 prepaid.paymentHash).isSome = true
          ∧ ∃ bytes, decodeHash32 prepaid.preimageHex = some bytes
            ∧ P.sha256Hex bytes = prepaid.paymentHash.toLower)
        ∧ (spec.dealState = "succeeded" → prepaid.paid = true) := by
  have hsettlement : spec.settlement deal.quote.payload.settlementTerms.destinationIdentity
      = (settlementRefsFromPrepaid prepaid
          deal.quote.payload.settlementTerms.destinationIdentity,
        if prepaid.paid then "settled" else "canceled") := by
    simp [ReceiptSignSpec.settlement, hprepaid]
  obtain ⟨hrefs, hstate⟩ := receiptPayload_settlement signer finishedAt hsettlement
  have hrules : validateReceiptSettlement P (receiptPayload signer deal finishedAt spec) = .ok ()
      ↔ isLowerHexLen deal.quote.payload.settlementTerms.destinationIdentity 66 = true
        ∧ (prepaid.paid = true → (decodeHash32 prepaid.paymentHash).isSome = true
          ∧ ∃ bytes, decodeHash32 prepaid.preimageHex = some bytes
            ∧ P.sha256Hex bytes = prepaid.paymentHash.toLower)
        ∧ (spec.dealState = "succeeded" → prepaid.paid = true) := by
    unfold validateReceiptSettlement validatePrepaidReceipt
    rw [hrefs, hstate]
    cases hpaid : prepaid.paid with
    | false =>
      simp [hpaid, settlementRefsFromPrepaid, receiptLegIsEmptyCanceled, emptyReceiptLeg,
        settlementMethodStripeMpp, settlementMethodLightningEscrow, settlementMethodNone,
        settlementMethodLightningPrepaid, ReceiptLegState.isOpenOrAccepted, receiptPayload]
    | true =>
      cases hpre : decodeHash32 prepaid.preimageHex <;>
        simp [hpaid, hpre, settlementRefsFromPrepaid, receiptLegIsEmptyCanceled, emptyReceiptLeg,
          settlementMethodStripeMpp, settlementMethodLightningEscrow, settlementMethodNone,
          settlementMethodLightningPrepaid, ReceiptLegState.isOpenOrAccepted, receiptPayload,
          Option.isSome_iff_ne_none]
  rw [settlementFits_iff hsettlement, hrules]
  constructor
  · rintro ⟨⟨-, hproof, hsucc⟩, hmethod, hbase, -, -⟩
    exact ⟨hmethod.symm, hbase, hproof, hsucc⟩
  · rintro ⟨hmethod, hbase, hproof, hsucc⟩
    obtain ⟨hdest, hsuccess⟩ := terms_prepaid hdeal.terms hmethod
    exact ⟨⟨hdest, hproof, hsucc⟩, hmethod.symm, hbase, hsuccess.symm, rfl⟩

end

end Evidence

end Froglet
