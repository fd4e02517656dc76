import Froglet.Protocol.ChainSoundness
import Froglet.Provider.Offers

/-!
# Quotes on signed offers

A quote puts an offer to one requester and one workload. The offer's prices are copied
into it, but its settlement method is not: that one is read again from the live
configuration, by a function of its own.
-/

namespace Froglet

open List Option

variable {P : Primitives} {price : OfferPriceSchedule} {priceSats : ℕ}
variable {definition : ProviderManagedOfferDefinition} {terms : QuoteSettlementTerms}
variable {config : OfferConfig} {offer : SignedOffer}
variable {destination : Except String String} {binding : CurrentOfferBinding}
variable {quote : SignedQuote}

/-! ## Settlement terms -/

def quotedLightningSettlementTerms (config : OfferConfig) (destination : Except String String)
    (priceSats : ℕ) : Except String (Option QuoteSettlementTerms) :=
  if !config.paymentBackends.contains .lightning || priceSats == 0 then .ok none
  else if config.lightningMode == .phoenixd then do
    let destinationIdentity ← destination
    return some
      { method := settlementMethodLightningPrepaid, destinationIdentity
        baseFeeMsat := saturatingMul priceSats 1000, successFeeMsat := 0
        maxBaseInvoiceExpirySecs := config.baseInvoiceExpirySecs
        maxSuccessHoldExpirySecs := 0, minFinalCltvExpiry := 0 }
  else do
    let destinationIdentity ← destination
    return some
      { method := settlementMethodLightningEscrow, destinationIdentity
        baseFeeMsat := 0, successFeeMsat := saturatingMul priceSats 1000
        maxBaseInvoiceExpirySecs := config.baseInvoiceExpirySecs
        maxSuccessHoldExpirySecs := config.successHoldExpirySecs
        minFinalCltvExpiry := config.minFinalCltvExpiry }

def plainSettlementTerms (method : String) (baseFeeMsat : ℕ) : QuoteSettlementTerms :=
  { method, destinationIdentity := "", baseFeeMsat, successFeeMsat := 0
    maxBaseInvoiceExpirySecs := 0, maxSuccessHoldExpirySecs := 0, minFinalCltvExpiry := 0 }

def quotedSettlementTerms (config : OfferConfig) (destination : Except String String)
    (priceSats : ℕ) : Except String QuoteSettlementTerms := do
  match ← quotedLightningSettlementTerms config destination priceSats with
  | some terms => return terms
  | none =>
    if 0 < priceSats && config.paymentBackends.contains .stripe then
      match checkedMul priceSats 1000 with
      | none => .error "quote price exceeds the millishatoshi range"
      | some baseFeeMsat => return plainSettlementTerms settlementMethodStripeMpp baseFeeMsat
    else if 0 < priceSats then
      .error ("priced Kernel deals require a configured Lightning or Stripe settlement backend; "
        ++ "x402 is available only through the direct HTTP payment endpoint")
    else return plainSettlementTerms settlementMethodNone 0

def offerTotalMsat (price : OfferPriceSchedule) : Except String ℕ :=
  match checkedAdd price.baseFeeMsat price.successFeeMsat with
  | none => .error "offer price schedule overflows the supported range"
  | some total =>
    if i64Max < total || total % 1000 != 0 then
      .error "offer price is not representable as signed whole-satoshi settlement"
    else .ok total

def withOfferFees (terms : QuoteSettlementTerms) (price : OfferPriceSchedule) (totalMsat : ℕ) :
    QuoteSettlementTerms :=
  if terms.method == settlementMethodLightningEscrow then
    { terms with baseFeeMsat := price.baseFeeMsat, successFeeMsat := price.successFeeMsat }
  else if 0 < totalMsat then { terms with baseFeeMsat := totalMsat, successFeeMsat := 0 }
  else terms

def dealExecutionWindowSecs (limits : ExecutionLimits) : ℕ :=
  max ((limits.maxRuntimeMs + 999) / 1000) 1

/-- The end of a quote, an integer sum of the clock and its windows: that of the source as long as
it fits an `i64`. -/
def lightningQuoteExpiresAt (config : OfferConfig) (createdAt : ℤ) (priceSats : ℕ)
    (executionWindowSecs : ℕ) : ℤ :=
  if config.paymentBackends.contains .lightning && 0 < priceSats then
    createdAt + (max config.baseInvoiceExpirySecs.val config.successHoldExpirySecs.val : ℕ)
      + executionWindowSecs + config.successHoldExpirySecs.val
  else createdAt + 60

/-! ## Requests -/

structure CreateQuoteRequest where
  (offerId requesterId : String)
  spec : WorkloadSpec
  (runtime contractVersion : Option String)
  requestedCapabilities : List String
  maxPriceSats : Option ℕ
variable {request : CreateQuoteRequest}

def checkQuoteRequest (request : CreateQuoteRequest) (offer : OfferPayload) :
    Except String Unit := do
  let profile := offer.executionProfile
  rejectIf (offer.offerKind != request.spec.workloadKind) "offer does not match workload kind"
  rejectIf (request.runtime.any fun runtime =>
      profile.runtime != .any && profile.runtime.asStr != runtime)
    "offer does not match workload runtime"
  rejectIf (request.contractVersion.any fun version =>
      !isBlank profile.contractVersion && !isBlank profile.abiVersion
        && profile.contractVersion != version && profile.abiVersion != version)
    "offer does not match workload contract_version"
  rejectIf (offer.confidentialProfileHash.isSome && request.spec.confidentialSessionHash.isNone)
    "confidential offers require confidential_session_hash"
  rejectIf (offer.confidentialProfileHash.isNone && request.spec.confidentialSessionHash.isSome)
    "confidential_session_hash requires an offer with confidential_profile_hash"
  rejectIf (request.requestedCapabilities.any (!profile.capabilities.contains ·))
    "offer does not grant requested capability"

structure QuoteNode (node : NodeIdentity P) where
  config : OfferConfig
  bindings : List CurrentOfferBinding
  descriptorHash : String
  store : OfferStore node
  issuedQuotes : List String
  destination : Except String String

section Quotes

variable {node : NodeIdentity P}

def createQuoteRecord (s : QuoteNode node) (request : CreateQuoteRequest)
    (otherChecks : SignedOffer → Except String Unit) (now createdAt : ℤ) :
    Except String (SignedQuote × OfferStore node) := do
  let (found, store) ←
    lookupOffer s.config s.bindings s.descriptorHash now s.store request.offerId
  match found with
  | none => .error "offer not found"
  | some offer =>
    enforceOfferPaymentPolicy s.config.toNodeConfig offer.payload.terms
    otherChecks offer
    match normalizeHash request.requesterId with
    | none => .error "requester_id must be 64 lowercase hex characters"
    | some requesterId =>
      checkQuoteRequest request offer.payload
      let totalMsat ← offerTotalMsat offer.payload.priceSchedule
      rejectIf (request.maxPriceSats.any (· < totalMsat / 1000))
        "offer price exceeds max_price_sats"
      let terms ← quotedSettlementTerms s.config s.destination (totalMsat / 1000)
      let limits := offer.payload.executionProfile.limits
      let quote ← signNodeArtifact node artifactTypeQuote createdAt
        ({ providerId := node.nodeId, requesterId
           descriptorHash := offer.payload.descriptorHash, offerHash := offer.hash
           expiresAt := lightningQuoteExpiresAt s.config createdAt (totalMsat / 1000)
             (dealExecutionWindowSecs limits)
           workloadKind := request.spec.workloadKind
           workloadHash := request.spec.requestHash
           confidentialSessionHash := request.spec.confidentialSessionHash
           capabilitiesGranted := request.requestedCapabilities
           extensionRefs := [], quoteUse := none
           settlementTerms := withOfferFees terms offer.payload.priceSchedule totalMsat
           executionLimits := limits } : QuotePayload)
      validateQuoteArtifact quote
      rejectIf (s.issuedQuotes.contains quote.hash)
        "an identical single-use quote was already issued this second; retry quote creation"
      return (quote, store)

/-! ## Where the method of a quote comes from -/

/-- The method that a price is quoted with under the live configuration: Lightning comes
before Stripe. -/
def NodeConfig.quotedMethod (config : NodeConfig) (price : OfferPriceSchedule) : String :=
  if price.baseFeeMsat = 0 ∧ price.successFeeMsat = 0 then settlementMethodNone
  else if .lightning ∈ config.paymentBackends then config.lightningMethod
  else settlementMethodStripeMpp

/-- A method that a priced definition names is the one its price is quoted with. -/
def ProviderManagedOfferDefinition.NamesQuotedMethod (definition : ProviderManagedOfferDefinition)
    (config : NodeConfig) : Prop :=
  definition.isPaid = true → ∀ method ∈ definition.settlementMethod,
    method = .lightning ∧ .lightning ∈ config.paymentBackends
      ∨ method = .stripe ∧ .lightning ∉ config.paymentBackends

theorem quotedLightningSettlementTerms_ok {found : Option QuoteSettlementTerms}
    (h : quotedLightningSettlementTerms config destination priceSats = .ok found) :
    found = none ∧ (.lightning ∉ config.paymentBackends ∨ priceSats = 0)
    ∨ ∃ terms, found = some terms ∧ .lightning ∈ config.paymentBackends ∧ priceSats ≠ 0
      ∧ terms.method = config.lightningMethod := by
  unfold quotedLightningSettlementTerms at h
  split at h
  case isTrue hoff =>
    cases h
    exact .inl ⟨rfl, by simpa using hoff⟩
  case isFalse hon =>
    simp only [Bool.or_eq_true, Bool.not_eq_true', contains_eq_mem, decide_eq_false_iff_not,
      beq_iff_eq, not_or, not_not] at hon
    refine .inr ?_
    unfold NodeConfig.lightningMethod
    split at h
    case isTrue hmode =>
      obtain ⟨destinationIdentity, -, h⟩ := bind_eq_ok.mp h
      exact ⟨_, (pure_eq_ok.mp h).symm, hon.1, hon.2, (if_pos hmode).symm⟩
    case isFalse hmode =>
      obtain ⟨destinationIdentity, -, h⟩ := bind_eq_ok.mp h
      exact ⟨_, (pure_eq_ok.mp h).symm, hon.1, hon.2, (if_neg hmode).symm⟩

/-- The method a price is quoted with: nothing for nothing, and otherwise the
one of the Lightning backend before the one of Stripe. -/
theorem quotedSettlementTerms_ok
    (h : quotedSettlementTerms config destination priceSats = .ok terms) :
    (priceSats = 0 ∧ terms = plainSettlementTerms settlementMethodNone 0)
    ∨ (priceSats ≠ 0 ∧ .lightning ∈ config.paymentBackends ∧ terms.method = config.lightningMethod)
    ∨ (priceSats ≠ 0 ∧ .lightning ∉ config.paymentBackends ∧ .stripe ∈ config.paymentBackends
      ∧ terms.method = settlementMethodStripeMpp) := by
  unfold quotedSettlementTerms at h
  obtain ⟨found, hfound, h⟩ := bind_eq_ok.mp h
  obtain ⟨rfl, hoff⟩ | ⟨lightning, rfl, hmem, hpos, hmethod⟩ :=
    quotedLightningSettlementTerms_ok hfound
  · dsimp only at h
    split at h
    case isTrue hstripe =>
      simp only [Bool.and_eq_true, decide_eq_true_eq, contains_eq_mem] at hstripe
      have hpos : priceSats ≠ 0 := Nat.pos_iff_ne_zero.mp hstripe.1
      split at h
      case h_1 => cases h
      case h_2 =>
        obtain rfl := pure_eq_ok.mp h
        exact .inr (.inr ⟨hpos, hoff.resolve_right hpos, hstripe.2, rfl⟩)
    case isFalse =>
      split at h
      case isTrue => cases h
      case isFalse hzero => exact .inl ⟨by simpa using hzero, (pure_eq_ok.mp h).symm⟩
  · obtain rfl := pure_eq_ok.mp h
    exact .inr (.inl ⟨hpos, hmem, hmethod⟩)

theorem lightningMethod_cases (config : NodeConfig) :
    config.lightningMethod = settlementMethodLightningPrepaid
      ∨ config.lightningMethod = settlementMethodLightningEscrow := by
  unfold NodeConfig.lightningMethod
  split
  · exact .inl rfl
  · exact .inr rfl

theorem offerTotalMsat_ok {total : ℕ} (h : offerTotalMsat price = .ok total) :
    price.baseFeeMsat + price.successFeeMsat = total ∧ total % 1000 = 0 := by
  unfold offerTotalMsat at h
  split at h
  case h_1 => cases h
  case h_2 sum hsum =>
    split at h
    case isTrue => cases h
    case isFalse hwhole =>
      cases h
      simp only [Bool.or_eq_true, decide_eq_true_eq, bne_iff_ne, not_or, not_not] at hwhole
      exact ⟨checkedAdd_eq_some hsum, hwhole.2⟩

theorem method_withOfferFees (terms : QuoteSettlementTerms) (price : OfferPriceSchedule)
    (totalMsat : ℕ) : (withOfferFees terms price totalMsat).method = terms.method := by
  unfold withOfferFees
  split
  · rfl
  · split <;> rfl

structure TermsAgree (offer : OfferPayload) (terms : QuoteSettlementTerms) : Prop where
  method : terms.method = offer.settlementMethod
  baseFeeMsat : terms.baseFeeMsat = offer.priceSchedule.baseFeeMsat
  successFeeMsat : terms.successFeeMsat = offer.priceSchedule.successFeeMsat
  settled : OfferSettled offer
  singleLeg : offer.settlementMethod ≠ settlementMethodLightningEscrow →
    offer.priceSchedule.successFeeMsat = 0

theorem termsAgree_of_method {offer : OfferPayload} {config : NodeConfig} {total : ℕ}
    (hoffer : offer.terms = resolvedProviderOfferTerms config definition)
    (hsum : offer.priceSchedule.baseFeeMsat + offer.priceSchedule.successFeeMsat = total)
    (htotal : 0 < total) (hmethod : terms.method = offer.settlementMethod)
    (hknown : isKnownPaidSettlementMethod offer.settlementMethod = true) :
    TermsAgree offer (withOfferFees terms offer.priceSchedule total) := by
  have hne : offer.settlementMethod ≠ settlementMethodNone := by
    intro hnone
    rw [hnone, isKnownPaidSettlementMethod_none] at hknown
    exact Bool.false_ne_true hknown
  have hsettled : OfferSettled offer :=
    ⟨⟨fun h => absurd h hne, fun ⟨hb, hs⟩ => by omega⟩, fun _ => hknown⟩
  unfold withOfferFees
  by_cases hescrow : offer.settlementMethod = settlementMethodLightningEscrow
  · rw [if_pos (beq_iff_eq.mpr (hmethod.trans hescrow))]
    exact ⟨hmethod, rfl, rfl, hsettled, fun h => absurd hescrow h⟩
  · -- one leg: the offer already asks for all of it in advance
    have hsuccess : offer.priceSchedule.successFeeMsat = 0 := by
      have hm := congrArg OfferTerms.settlementMethod hoffer
      have hp := congrArg OfferTerms.priceSchedule hoffer
      unfold resolvedProviderOfferTerms at hm hp
      dsimp only [OfferPayload.terms] at hm hp
      rw [← hm, if_neg (by simp [hne, hescrow])] at hp
      rw [hp]
    rw [if_neg (fun h => hescrow (hmethod.symm.trans (beq_iff_eq.mp h))), if_pos (by simpa)]
    exact ⟨hmethod, by dsimp only; omega, hsuccess.symm, hsettled, fun _ => hsuccess⟩

theorem method_quotedSettlementTerms {total : ℕ} (htotal : offerTotalMsat price = .ok total)
    (hterms : quotedSettlementTerms config destination (total / 1000) = .ok terms) :
    terms.method = config.quotedMethod price
    ∧ (price.baseFeeMsat = 0 ∧ price.successFeeMsat = 0 ∧ terms.baseFeeMsat = 0
        ∧ terms.successFeeMsat = 0
      ∨ 0 < total ∧ (.lightning ∈ config.paymentBackends ∨ .stripe ∈ config.paymentBackends)) := by
  obtain ⟨hsum, hwhole⟩ := offerTotalMsat_ok htotal
  unfold NodeConfig.quotedMethod
  obtain ⟨hzero, rfl⟩ | ⟨hpos, hmem, hmethod⟩ | ⟨hpos, hmem, hstripe, hmethod⟩ :=
    quotedSettlementTerms_ok hterms
  · have hfree : price.baseFeeMsat = 0 ∧ price.successFeeMsat = 0 := by omega
    rw [if_pos hfree]
    exact ⟨rfl, .inl ⟨hfree.1, hfree.2, rfl, rfl⟩⟩
  · rw [if_neg (by omega), if_pos hmem]
    exact ⟨hmethod, .inr ⟨by omega, .inl hmem⟩⟩
  · rw [if_neg (by omega), if_neg hmem]
    exact ⟨hmethod, .inr ⟨by omega, .inr hstripe⟩⟩

/-- Where the methods agree, the terms do: the fees are copied from the offer. -/
theorem terms_agree {total : ℕ} (hissued : IssuedOffer node offer)
    (htotal : offerTotalMsat offer.payload.priceSchedule = .ok total)
    (hterms : quotedSettlementTerms config destination (total / 1000) = .ok terms)
    (hmethod : offer.payload.settlementMethod = config.quotedMethod offer.payload.priceSchedule) :
    TermsAgree offer.payload (withOfferFees terms offer.payload.priceSchedule total) := by
  obtain ⟨hsum, -⟩ := offerTotalMsat_ok htotal
  obtain ⟨hquoted, ⟨hbase, hsuccess, hbase', hsuccess'⟩ | ⟨hpos, -⟩⟩ :=
    method_quotedSettlementTerms htotal hterms
  · have hnone : offer.payload.settlementMethod = settlementMethodNone :=
      hmethod.trans (if_pos ⟨hbase, hsuccess⟩)
    have hkept : withOfferFees terms offer.payload.priceSchedule total = terms := by
      unfold withOfferFees
      rw [hquoted, ← hmethod, hnone, if_neg (by decide), if_neg (by omega)]
    rw [hkept]
    refine ⟨hquoted.trans hmethod.symm, hbase'.trans hbase.symm, hsuccess'.trans hsuccess.symm,
      ?_, fun _ => hsuccess⟩
    rw [OfferSettled, hnone]
    exact ⟨⟨fun _ => ⟨hbase, hsuccess⟩, fun _ => rfl⟩, fun h => absurd rfl h⟩
  · obtain ⟨config', descriptorHash, definition, createdAt, hsigned⟩ := hissued
    obtain ⟨-, -, -, hpayload⟩ := authentic_of_signArtifact P node.verifies hsigned
    have hoffer : offer.payload.terms
        = resolvedProviderOfferTerms config'.toNodeConfig definition := by
      rw [hpayload]
      rfl
    refine termsAgree_of_method hoffer hsum hpos (hquoted.trans hmethod.symm) ?_
    rw [hmethod]
    unfold NodeConfig.quotedMethod
    rw [if_neg (by omega)]
    split
    · obtain h | h := lightningMethod_cases config.toNodeConfig <;> rw [h] <;> decide
    · decide

theorem resolvedProviderOfferTerms_free {config : NodeConfig} (hfree : definition.isPaid = false) :
    resolvedProviderOfferTerms config definition
      = { settlementMethod := settlementMethodNone, priceSchedule := ⟨0, 0⟩ } := by
  have hprice : definition.priceSchedule = (0, 0) := by
    unfold ProviderManagedOfferDefinition.isPaid at hfree
    simpa [Prod.ext_iff] using hfree
  unfold resolvedProviderOfferTerms
  rw [hprice]
  rfl

theorem resolvedProviderOfferTerms_paid {config : NodeConfig} (hpaid : definition.isPaid = true) :
    0 < (resolvedProviderOfferTerms config definition).priceSchedule.baseFeeMsat
      + (resolvedProviderOfferTerms config definition).priceSchedule.successFeeMsat := by
  unfold ProviderManagedOfferDefinition.isPaid at hpaid
  simp only [Bool.or_eq_true, bne_iff_ne] at hpaid
  unfold resolvedProviderOfferTerms
  dsimp only
  split
  · dsimp only
    omega
  · dsimp only [saturatingAdd, u64Max]
    omega

/-- The offer of a definition has the quoted method exactly if the definition names no
other one. -/
theorem namesQuotedMethod_iff {offer : OfferPayload} {config : NodeConfig}
    (hoffer : offer.terms = resolvedProviderOfferTerms config definition)
    (hbackend : offer.priceSchedule.baseFeeMsat = 0 ∧ offer.priceSchedule.successFeeMsat = 0
      ∨ .lightning ∈ config.paymentBackends ∨ .stripe ∈ config.paymentBackends) :
    offer.settlementMethod = config.quotedMethod offer.priceSchedule
      ↔ definition.NamesQuotedMethod config := by
  have hmethod : offer.settlementMethod = resolvedOfferSettlementMethod config
      definition.settlementMethod definition.priceSchedule.1 definition.priceSchedule.2 :=
    congrArg OfferTerms.settlementMethod hoffer
  have hprice : offer.priceSchedule
      = (resolvedProviderOfferTerms config definition).priceSchedule :=
    congrArg OfferTerms.priceSchedule hoffer
  cases hpaid : definition.isPaid with
  | false =>
    rw [resolvedProviderOfferTerms_free hpaid] at hoffer hprice
    refine iff_of_true ?_ fun h => absurd (hpaid.symm.trans h) Bool.false_ne_true
    rw [hprice]
    exact congrArg OfferTerms.settlementMethod hoffer
  | true =>
    have hpos : 0 < offer.priceSchedule.baseFeeMsat + offer.priceSchedule.successFeeMsat :=
      hprice ▸ resolvedProviderOfferTerms_paid hpaid
    have hfees : ¬(definition.priceSchedule.1 = 0 ∧ definition.priceSchedule.2 = 0) := by
      unfold ProviderManagedOfferDefinition.isPaid at hpaid
      simp only [Bool.or_eq_true, bne_iff_ne] at hpaid
      omega
    have hlightning : config.lightningMethod ≠ settlementMethodNone
        ∧ config.lightningMethod ≠ settlementMethodStripeMpp := by
      obtain h | h := lightningMethod_cases config <;> rw [h] <;> decide
    unfold resolvedOfferSettlementMethod at hmethod
    rw [if_neg (by simpa using hfees)] at hmethod
    unfold NodeConfig.quotedMethod ProviderManagedOfferDefinition.NamesQuotedMethod
    rw [if_neg (by omega), hmethod]
    cases definition.settlementMethod with
    | none =>
      refine iff_of_true ?_ fun _ => nofun
      by_cases h : .lightning ∈ config.paymentBackends
      · simp [h, NodeConfig.lightningMethod]
      · simp [h, (hbackend.resolve_left (by omega)).resolve_left h]
    | some method =>
      have hstripe : settlementMethodNone ≠ settlementMethodStripeMpp := by decide
      by_cases h : .lightning ∈ config.paymentBackends <;>
        cases method <;> simp [h, hpaid, hlightning, hlightning.1.symm, hlightning.2.symm, hstripe]

/-! ## Soundness -/

theorem checkQuoteRequest_ok {offer : OfferPayload} (h : checkQuoteRequest request offer = .ok ()) :
    offer.offerKind = request.spec.workloadKind
    ∧ request.requestedCapabilities ⊆ offer.executionProfile.capabilities := by
  unfold checkQuoteRequest at h
  simp only [check_eq_ok, rejectIf_eq_ok, bne_eq_false_iff_eq] at h
  obtain ⟨hkind, -, -, -, -, hcapabilities⟩ := h
  refine ⟨hkind, fun capability hmem => ?_⟩
  simpa using any_eq_false.mp hcapabilities capability hmem

theorem createQuoteRecord_ok {s : QuoteNode node}
    {otherChecks : SignedOffer → Except String Unit} {now createdAt : ℤ} {store : OfferStore node}
    (h : createQuoteRecord s request otherChecks now createdAt = .ok (quote, store)) :
    ∃ offer total terms,
      lookupOffer s.config s.bindings s.descriptorHash now s.store request.offerId
        = .ok (some offer, store) ∧ offerTotalMsat offer.payload.priceSchedule = .ok total
      ∧ quotedSettlementTerms s.config s.destination (total / 1000) = .ok terms
      ∧ Authentic P quote ∧ quote.artifactType = artifactTypeQuote
      ∧ validateQuoteArtifact quote = .ok () ∧ quote.payload.providerId = node.nodeId
      ∧ quote.payload.descriptorHash = offer.payload.descriptorHash
      ∧ quote.payload.offerHash = offer.hash ∧ quote.payload.workloadKind = offer.payload.offerKind
      ∧ quote.payload.settlementTerms = withOfferFees terms offer.payload.priceSchedule total
      ∧ quote.payload.executionLimits = offer.payload.executionProfile.limits
      ∧ createdAt ≤ quote.payload.expiresAt ∧ quote.payload.workloadHash = request.spec.requestHash
      ∧ quote.payload.capabilitiesGranted = request.requestedCapabilities
      ∧ request.requestedCapabilities ⊆ offer.payload.executionProfile.capabilities := by
  unfold createQuoteRecord at h
  obtain ⟨⟨found, store'⟩, hfound, h⟩ := bind_eq_ok.mp h
  dsimp only at h
  split at h
  case h_1 => cases h
  case h_2 offer =>
    obtain ⟨-, h⟩ := check_eq_ok.mp h
    obtain ⟨-, h⟩ := check_eq_ok.mp h
    split at h
    case h_1 => cases h
    case h_2 requesterId _ =>
      obtain ⟨hrequest, h⟩ := check_eq_ok.mp h
      obtain ⟨total, htotal, h⟩ := bind_eq_ok.mp h
      obtain ⟨-, h⟩ := check_eq_ok.mp h
      obtain ⟨terms, hterms, h⟩ := bind_eq_ok.mp h
      obtain ⟨signed, hsigned, h⟩ := bind_eq_ok.mp h
      obtain ⟨hvalid, h⟩ := check_eq_ok.mp h
      obtain ⟨-, h⟩ := check_eq_ok.mp h
      obtain ⟨rfl, rfl⟩ := Prod.mk.inj (pure_eq_ok.mp h)
      obtain ⟨hauth, htype, -, hpayload⟩ := authentic_of_signArtifact P node.verifies hsigned
      obtain ⟨hkind, hcapabilities⟩ := checkQuoteRequest_ok hrequest
      refine ⟨offer, total, terms, hfound, htotal, hterms, hauth, htype, hvalid, ?_⟩
      rw [hpayload]
      refine ⟨rfl, rfl, rfl, hkind.symm, rfl, rfl, ?_, rfl, rfl, hcapabilities⟩
      dsimp only [lightningQuoteExpiresAt]
      split <;> omega

def CurrentOfferBinding.offerId (binding : CurrentOfferBinding) : String :=
  match binding.revision with
  | some revision => revision.offerId
  | none => binding.definition.offerId

theorem CurrentOfferBinding.Binds.offerId_eq {descriptorHash : String}
    (hbinds : binding.Binds config node.nodeId descriptorHash offer) :
    binding.offerId = offer.payload.offerId := by
  unfold CurrentOfferBinding.Binds at hbinds
  unfold CurrentOfferBinding.offerId
  cases hrevision : binding.revision with
  | some revision =>
    rw [hrevision] at hbinds
    exact hbinds.2.symm
  | none =>
    rw [hrevision] at hbinds
    rw [hbinds]
    rfl

def QuoteNode.offerPayloads (s : QuoteNode node) : List OfferPayload :=
  s.store.offers.map (·.payload) ++ s.bindings.map fun binding =>
    payloadFromProviderOfferDefinition s.config node.nodeId s.descriptorHash binding.definition

theorem validateOfferArtifact_of_termsAgree (hagree : TermsAgree offer.payload terms)
    (hsigner : offer.signer = offer.payload.providerId)
    (hid : isBlank offer.payload.offerId = false)
    (hdescriptor : isBlank offer.payload.descriptorHash = false) :
    validateOfferArtifact offer = .ok () := by
  unfold validateOfferArtifact
  simp only [check_eq_ok, rejectIf_eq_ok, hsigner, hid, hdescriptor, bne_self_eq_false, true_and]
  split
  case isTrue hfree =>
    rw [rejectIf_eq_ok, bne_eq_false_iff_eq]
    exact hagree.settled.1.mpr (by simpa using hfree)
  case isFalse hpaid =>
    have hne : offer.payload.settlementMethod ≠ settlementMethodNone :=
      fun hnone => hpaid (by simpa using hagree.settled.1.mp hnone)
    rw [check_eq_ok, rejectIf_eq_ok, rejectIf_eq_ok, hagree.settled.2 hne,
      Bool.and_eq_false_iff, bne_eq_false_iff_eq, bne_eq_false_iff_eq]
    exact ⟨rfl, Classical.or_iff_not_imp_left.mpr hagree.singleLeg⟩

/-- **When a quote is sound.** A quote that is returned names one offer, the one that was
looked up, and passes with it from the moment it is created until it expires exactly if the
offer has the method its price is quoted with; and where the offer is not a published one,
this is so exactly if its definition names no other method. -/
theorem quote_sound_iff (s : QuoteNode node) (request : CreateQuoteRequest)
    (otherChecks : SignedOffer → Except String Unit) (now createdAt : ℤ) {store : OfferStore node}
    (hhash : SeparatedByHash P s.offerPayloads)
    (h : createQuoteRecord s request otherChecks now createdAt = .ok (quote, store)) :
    createdAt ≤ quote.payload.expiresAt
    ∧ ∃ offer ∈ store.offers, offer.hash = quote.payload.offerHash
      ∧ lookupOffer s.config s.bindings s.descriptorHash now s.store request.offerId
        = .ok (some offer, store) ∧ ((∀ named ∈ store.offers, named.hash = quote.payload.offerHash →
          ∀ clock, NotPast clock quote.payload.expiresAt →
            (validateOfferQuote P named quote clock).valid = true) ↔ offer.payload.settlementMethod
          = s.config.quotedMethod offer.payload.priceSchedule)
      ∧ ∃ binding ∈ s.bindings, binding.offerId = trim request.offerId
        ∧ binding.Binds s.config node.nodeId s.descriptorHash offer
        ∧ (binding.revision = none → (offer.payload.settlementMethod
            = s.config.quotedMethod offer.payload.priceSchedule
          ↔ binding.definition.NamesQuotedMethod s.config.toNodeConfig)) := by
  obtain ⟨offer, total, terms, hfound, htotal, hterms, hauth, htype, hvalid, hprovider,
    hdescriptor, hoffer, hkind, hsettlement, hlimits, hexpires, -⟩ := createQuoteRecord_ok h
  obtain ⟨hmem, hid, hne, binding, hbinding, hbinds⟩ := lookupOffer_ok hhash
    (fun b hb => mem_append_right _ (mem_map_of_mem hb))
    (fun o ho => mem_append_left _ (mem_map_of_mem ho)) hfound
  obtain ⟨hoauth, hotype, hosigner, hoprovider, hofresh⟩ := (store.issued offer hmem).signed
  obtain ⟨hquoted, hbackend⟩ := method_quotedSettlementTerms htotal hterms
  refine ⟨hexpires, offer, hmem, hoffer.symm, hfound, ⟨fun hsound => ?_, fun hmethod => ?_⟩,
    binding, hbinding, hbinds.offerId_eq.trans hid, hbinds, fun hnone => ?_⟩
  · have hlinked := hsound offer hmem hoffer.symm none nofun
    simp only [validateOfferQuote, valid_validateOfferQuoteLinks] at hlinked
    have hsame := hlinked.2.method
    rw [hsettlement, method_withOfferFees, hquoted] at hsame
    exact hsame.symm
  · intro named hnamed heq clock hclock
    -- the hash is the key of the table
    obtain rfl : named = offer := store.unique.eq_of_mem hnamed hmem rfl
      (congrArg some (hoffer.symm.trans heq.symm))
    have hagree : TermsAgree named.payload quote.payload.settlementTerms := hsettlement ▸
      terms_agree (store.issued named hmem) htotal hterms hmethod
    have hblank : isBlank named.payload.descriptorHash = false := by
      rw [← hdescriptor]
      unfold validateQuoteArtifact at hvalid
      simp only [check_eq_ok, rejectIf_eq_ok] at hvalid
      exact hvalid.2.2.1
    have hartifact : validateOfferArtifact named = .ok () := by
      refine validateOfferArtifact_of_termsAgree hagree (hosigner.trans hoprovider.symm) ?_ hblank
      rw [hid, Bool.eq_false_iff]
      exact fun hb => hne (trim_eq_empty_of_isBlank hb)
    simp only [validateOfferQuote, valid_validateOfferQuoteLinks, valid_validateQuoteSemantics,
      valid_validateOfferSemantics, valid_verifyCommonArtifact, ChainValidationReport.valid_new,
      true_and]
    refine ⟨⟨⟨⟨⟨hotype, hoauth⟩, htype, hauth⟩, hartifact, hagree.settled, ?_⟩, hvalid, hclock⟩, ?_⟩
    · rw [hofresh]
      exact fun t ht => absurd ht (not_mem_none t)
    · exact
        { providerId := hprovider.trans hoprovider.symm
          descriptorHash := hdescriptor
          offerHash := hoffer
          expiresAt := by
            rw [hofresh]
            exact fun t ht => absurd ht (not_mem_none t)
          workloadKind := hkind
          method := hagree.method
          baseFeeMsat := hagree.baseFeeMsat
          successFeeMsat := hagree.successFeeMsat
          limits := by
            rw [limitsWithinOffer, hlimits]
            exact limitsWithin_refl _ }
  · unfold CurrentOfferBinding.Binds at hbinds
    rw [hnone] at hbinds
    refine namesQuotedMethod_iff (by rw [hbinds]; rfl) ?_
    obtain ⟨hbase, hsuccess, -⟩ | ⟨-, hbackend⟩ := hbackend
    · exact .inl ⟨hbase, hsuccess⟩
    · exact .inr hbackend

end Quotes

/-! ## A node with one service -/

def sampleQuoteNode (paymentBackends : List PaymentBackend)
    (settlementMethod : Option PublicationSettlement) : QuoteNode (P := samplePrimitives)
      ⟨"p", fun _ => "sig", verifyMessage_samplePrimitives "p" "sig"⟩ where
  config :=
    { paymentBackends, lightningMode := .mock, drivers := paymentBackends
      requirePayment := false, executionTimeoutSecs := 10, baseInvoiceExpirySecs := 300
      successHoldExpirySecs := 300, minFinalCltvExpiry := 18 }
  bindings :=
    [{ definition :=
        { offerId := "o", serviceId := none, offerKind := "k", runtime := "wasm"
          packageKind := "inline_module", contractVersion := "v1", mounts := []
          capabilities := [], maxInputBytes := 1, maxRuntimeMs := 1000, maxMemoryBytes := 1
          maxOutputBytes := 1, fuelLimit := 1, priceSats := 1, baseFeeMsat := none
          successFeeMsat := none, settlementMethod, publicationState := "active"
          termsHash := none, confidentialProfileHash := none }
       revision := none }]
  descriptorHash := "aa"
  store := OfferStore.empty _
  issuedQuotes := []
  destination := .ok samplePayee

def sampleQuoteRequest : CreateQuoteRequest :=
  { offerId := "o"
    requesterId := "0000000000000000000000000000000000000000000000000000000000000000"
    spec := sampleSpec
    runtime := none, contractVersion := none, requestedCapabilities := [], maxPriceSats := none }

theorem quote_sound_stripe :
    ∃ quote store, createQuoteRecord (sampleQuoteNode [.stripe] (some .stripe))
        sampleQuoteRequest (fun _ => .ok ()) 0 0 = .ok (quote, store)
      ∧ (∃ offer ∈ store.offers, offer.hash = quote.payload.offerHash)
      ∧ ∀ offer ∈ store.offers, offer.hash = quote.payload.offerHash →
        ∀ clock, NotPast clock quote.payload.expiresAt →
          (validateOfferQuote samplePrimitives offer quote clock).valid = true := by
  have hok : (createQuoteRecord (sampleQuoteNode [.stripe] (some .stripe)) sampleQuoteRequest
      (fun _ => .ok ()) 0 0).passes = true := by decide +kernel
  match h : createQuoteRecord (sampleQuoteNode [.stripe] (some .stripe)) sampleQuoteRequest
      (fun _ => .ok ()) 0 0 with
  | .error e =>
    rw [h] at hok
    cases hok
  | .ok (quote, store) =>
    obtain ⟨-, offer, hmem, hhash, -, hsound, binding, hbinding, -, -, hnames⟩ :=
      quote_sound_iff _ _ _ _ _ (fun a ha b hb _ _ _ => by
        -- there is one payload
        rw [mem_singleton.mp ha, mem_singleton.mp hb]) h
    obtain rfl := mem_singleton.mp hbinding
    refine ⟨quote, store, rfl, ⟨offer, hmem, hhash⟩, hsound.mpr ((hnames rfl).mpr ?_)⟩
    exact fun _ method hmethod => .inr ⟨(some.inj hmethod).symm, by decide⟩

theorem explicit_stripe_quoted_in_lightning :
    (createQuoteRecord (sampleQuoteNode [.lightning, .stripe] (some .stripe))
        sampleQuoteRequest (fun _ => .ok ()) 0 0).toOption.map (fun (quote, store) =>
      (store.offers.filter (·.hash == quote.payload.offerHash)).map fun offer =>
        (validateOfferQuote samplePrimitives offer quote none).issues.map (·.code))
      = some [[issueSettlementMethodMismatch]] := by decide +kernel

end Froglet
