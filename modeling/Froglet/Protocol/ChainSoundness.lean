import Froglet.Protocol.Chain

/-!
# A valid chain is one agreement

The validators compare artifacts pairwise, and no single one of them sees the whole
chain.
-/

namespace Froglet

open List Option

variable (P : Primitives)

variable {now : Option ℤ}
variable {o : SignedOffer} {chain : FullChain}

/-- One agreement. -/
structure ChainSound (chain : FullChain) (receipt : SignedReceipt) : Prop where
  -- every envelope is authentic
  descriptorAuthentic : Authentic P chain.descriptor
  offerAuthentic : Authentic P chain.offer
  quoteAuthentic : Authentic P chain.quote
  dealAuthentic : Authentic P chain.deal
  receiptAuthentic : Authentic P receipt
  bundleAuthentic : ∀ b ∈ chain.invoiceBundle, Authentic P b
  -- the provider signed everything but the deal, which the requester signed
  descriptorSigner : chain.descriptor.signer = chain.quote.payload.providerId
  offerSigner : chain.offer.signer = chain.quote.payload.providerId
  quoteSigner : chain.quote.signer = chain.quote.payload.providerId
  receiptSigner : receipt.signer = chain.quote.payload.providerId
  bundleSigner : ∀ b ∈ chain.invoiceBundle, b.signer = chain.quote.payload.providerId
  dealSigner : chain.deal.signer = chain.quote.payload.requesterId
  -- and every field that names a party names one of these two
  descriptorProvider : chain.descriptor.payload.providerId = chain.quote.payload.providerId
  offerProvider : chain.offer.payload.providerId = chain.quote.payload.providerId
  dealProvider : chain.deal.payload.providerId = chain.quote.payload.providerId
  receiptProvider : receipt.payload.providerId = chain.quote.payload.providerId
  bundleProvider :
    ∀ b ∈ chain.invoiceBundle, b.payload.providerId = chain.quote.payload.providerId
  dealRequester : chain.deal.payload.requesterId = chain.quote.payload.requesterId
  receiptRequester : receipt.payload.requesterId = chain.quote.payload.requesterId
  bundleRequester :
    ∀ b ∈ chain.invoiceBundle, b.payload.requesterId = chain.quote.payload.requesterId
  -- each link is the hash of the artifact it stands for
  offerDescriptorHash : chain.offer.payload.descriptorHash = chain.descriptor.hash
  quoteDescriptorHash : chain.quote.payload.descriptorHash = chain.descriptor.hash
  quoteOfferHash : chain.quote.payload.offerHash = chain.offer.hash
  dealQuoteHash : chain.deal.payload.quoteHash = chain.quote.hash
  receiptQuoteHash : receipt.payload.quoteHash = chain.quote.hash
  receiptDealHash : receipt.payload.dealHash = chain.deal.hash
  bundleQuoteHash : ∀ b ∈ chain.invoiceBundle, b.payload.quoteHash = chain.quote.hash
  bundleDealHash : ∀ b ∈ chain.invoiceBundle, b.payload.dealHash = chain.deal.hash
  workloadHash : chain.deal.payload.workloadHash = chain.quote.payload.workloadHash
  -- one method and one price from the offer to the receipt
  quoteMethod : chain.quote.payload.settlementTerms.method = chain.offer.payload.settlementMethod
  receiptMethod :
    receipt.payload.settlementRefs.method = chain.offer.payload.settlementMethod
  quoteBaseFee : chain.quote.payload.settlementTerms.baseFeeMsat
    = chain.offer.payload.priceSchedule.baseFeeMsat
  receiptBaseFee : receipt.payload.settlementRefs.baseFee.amountMsat
    = chain.offer.payload.priceSchedule.baseFeeMsat
  quoteSuccessFee : chain.quote.payload.settlementTerms.successFeeMsat
    = chain.offer.payload.priceSchedule.successFeeMsat
  receiptSuccessFee : receipt.payload.settlementRefs.successFee.amountMsat
    = chain.offer.payload.priceSchedule.successFeeMsat
  -- a bundle exactly for escrow, over the same fees
  bundleIffEscrow : chain.invoiceBundle.isSome = true
    ↔ chain.offer.payload.settlementMethod = settlementMethodLightningEscrow
  bundleBaseFee : ∀ b ∈ chain.invoiceBundle,
    b.payload.baseFee.amountMsat = chain.offer.payload.priceSchedule.baseFeeMsat
  bundleSuccessFee : ∀ b ∈ chain.invoiceBundle,
    b.payload.successFee.amountMsat = chain.offer.payload.priceSchedule.successFeeMsat
  freeIffNone : chain.offer.payload.settlementMethod = settlementMethodNone
    ↔ chain.offer.payload.priceSchedule.baseFeeMsat = 0
      ∧ chain.offer.payload.priceSchedule.successFeeMsat = 0
  -- paid to one destination
  receiptDestination : receipt.payload.settlementRefs.destinationIdentity
    = chain.quote.payload.settlementTerms.destinationIdentity
  bundleDestination : ∀ b ∈ chain.invoiceBundle,
    b.payload.destinationIdentity = chain.quote.payload.settlementTerms.destinationIdentity

/-! ## What each report contributes -/

variable {P}

theorem descriptorOffer_of_valid {d : SignedDescriptor}
    (h : (validateDescriptorOffer P d o now).valid = true) :
    Authentic P d ∧ d.signer = d.payload.providerId
      ∧ o.payload.providerId = d.payload.providerId ∧ o.payload.descriptorHash = d.hash := by
  simp only [validateDescriptorOffer, ChainValidationReport.valid_pushIf,
    valid_validateOfferSemantics, valid_validateDescriptorSemantics,
    valid_verifyCommonArtifact, bne_eq_false_iff_eq] at h
  obtain ⟨⟨⟨⟨⟨⟨_, _, hd⟩, _⟩, hsem, _⟩, _⟩, hprov⟩, hhash⟩ := h
  exact ⟨hd, signer_of_validateDescriptorArtifact P hsem, hprov, hhash⟩

theorem offerQuote_of_valid {q : SignedQuote} (h : (validateOfferQuote P o q now).valid = true) :
    Authentic P o ∧ o.signer = o.payload.providerId ∧ OfferSettled o.payload
      ∧ OfferQuoteLinked o q := by
  simp only [validateOfferQuote, valid_validateOfferQuoteLinks, valid_validateQuoteSemantics,
    valid_validateOfferSemantics, valid_verifyCommonArtifact] at h
  obtain ⟨⟨⟨⟨⟨_, _, ho⟩, _⟩, hsem, hsettled, _⟩, _⟩, hlinks⟩ := h
  exact ⟨ho, signer_of_validateOfferArtifact hsem, hsettled, hlinks⟩

theorem chainDeal_of_valid (h : (validateChainDeal P chain now).valid = true) :
    (chain.invoiceBundle.isSome = true
        ↔ chain.quote.payload.settlementTerms.method = settlementMethodLightningEscrow)
    ∧ ∀ b ∈ chain.invoiceBundle, Authentic P b ∧ b.signer = b.payload.providerId
        ∧ InvoiceBundleLinked P chain.quote b chain.deal := by
  unfold validateChainDeal at h
  cases hb : chain.invoiceBundle with
  | none =>
    rw [hb] at h
    simp only [ChainValidationReport.valid_pushIf, beq_eq_false_iff_ne] at h
    refine ⟨⟨fun hsome => ?_, fun hm => absurd hm h.2⟩, fun b hb => ?_⟩
    · cases hsome
    · exact absurd hb (not_mem_none b)
  | some b =>
    rw [hb] at h
    simp only [validateQuoteInvoiceBundleDeal, valid_validateInvoiceBundleLinks,
      valid_validateQuoteDealLinks, valid_validateDealSemantics,
      valid_validateInvoiceBundleSemantics, valid_validateQuoteSemantics,
      valid_verifyCommonArtifact] at h
    obtain ⟨⟨⟨⟨⟨⟨⟨_, _, hauth⟩, _⟩, _⟩, hsem, _⟩, _⟩, _⟩, hlinks⟩ := h
    refine ⟨⟨fun _ => hlinks.method, fun _ => rfl⟩, fun b' hb' => ?_⟩
    cases some.inj (mem_def.mp hb')
    exact ⟨hauth, signer_of_validateInvoiceBundleArtifact P hsem, hlinks⟩

theorem quoteDealReceipt_of_chain {r : SignedReceipt}
    (h : (validateChainReceipt P chain r now).valid = true) :
    (validateQuoteDealReceipt P chain.quote chain.deal r now).valid = true := by
  unfold validateChainReceipt at h
  dsimp only at h
  split at h
  · split at h
    · simp only [validateReceiptInvoiceBundleLinks, ChainValidationReport.valid_pushIf] at h
      exact h.1.1.1.1.1.1
    · exact h
  · exact h

/-! ## Soundness -/

/-- **Soundness of full-chain validation.** Whatever the hash, the encoding and
the signature scheme are, a chain with a receipt that is reported valid, at any
clock or without one, is one agreement between one provider and one
requester. -/
theorem validateFullChain_sound (P : Primitives) (chain : FullChain) (receipt : SignedReceipt)
    (now : Option ℤ) (hreceipt : chain.receipt = some receipt)
    (hvalid : (validateFullChain P chain now).valid = true) : ChainSound P chain receipt := by
  simp only [validateFullChain, hreceipt, map_some, toList_some, cons_append, nil_append, all_cons,
    all_nil, Bool.and_true, Bool.and_eq_true] at hvalid
  obtain ⟨hdo, hoq, hdeal, hrec⟩ := hvalid
  obtain ⟨hdAuth, hdSigner, hoProv, hoDesc⟩ := descriptorOffer_of_valid hdo
  obtain ⟨hoAuth, hoSigner, hsettled, hoq⟩ := offerQuote_of_valid hoq
  obtain ⟨hescrow, hbundle⟩ := chainDeal_of_valid hdeal
  obtain ⟨hqd, _, hrAuth, hrSem, hrLinked⟩ :=
    (valid_validateQuoteDealReceipt P).mp (quoteDealReceipt_of_chain hrec)
  have hrSigner := ((validateReceiptArtifact_iff P receipt).mp hrSem).1
  have hdProv : chain.descriptor.payload.providerId = chain.quote.payload.providerId :=
    hoProv.symm.trans hoq.providerId.symm
  exact {
    descriptorAuthentic := hdAuth
    offerAuthentic := hoAuth
    quoteAuthentic := hqd.quoteAuthentic
    dealAuthentic := hqd.dealAuthentic
    receiptAuthentic := hrAuth
    bundleAuthentic := fun b hb => (hbundle b hb).1
    descriptorSigner := hdSigner.trans hdProv
    offerSigner := hoSigner.trans hoq.providerId.symm
    quoteSigner := signer_of_validateQuoteArtifact hqd.quote
    receiptSigner := hrSigner.trans hrLinked.providerId
    bundleSigner := fun b hb => (hbundle b hb).2.1.trans (hbundle b hb).2.2.providerId
    dealSigner := (signer_of_validateDealArtifact hqd.deal).trans hqd.linked.requesterId
    descriptorProvider := hdProv
    offerProvider := hoq.providerId.symm
    dealProvider := hqd.linked.providerId
    receiptProvider := hrLinked.providerId
    bundleProvider := fun b hb => (hbundle b hb).2.2.providerId
    dealRequester := hqd.linked.requesterId
    receiptRequester := hrLinked.requesterId
    bundleRequester := fun b hb => (hbundle b hb).2.2.requesterId
    offerDescriptorHash := hoDesc
    quoteDescriptorHash := hoq.descriptorHash.trans hoDesc
    quoteOfferHash := hoq.offerHash
    dealQuoteHash := hqd.linked.quoteHash
    receiptQuoteHash := hrLinked.quoteHash
    receiptDealHash := hrLinked.dealHash
    bundleQuoteHash := fun b hb => (hbundle b hb).2.2.quoteHash
    bundleDealHash := fun b hb => (hbundle b hb).2.2.dealHash
    workloadHash := hqd.linked.workloadHash
    quoteMethod := hoq.method
    receiptMethod := hrLinked.method.trans hoq.method
    quoteBaseFee := hoq.baseFeeMsat
    receiptBaseFee := hrLinked.baseFeeMsat.trans hoq.baseFeeMsat
    quoteSuccessFee := hoq.successFeeMsat
    receiptSuccessFee := hrLinked.successFeeMsat.trans hoq.successFeeMsat
    bundleIffEscrow := hoq.method ▸ hescrow
    bundleBaseFee := fun b hb => (hbundle b hb).2.2.baseFeeMsat.trans hoq.baseFeeMsat
    bundleSuccessFee := fun b hb => (hbundle b hb).2.2.successFeeMsat.trans hoq.successFeeMsat
    freeIffNone := hsettled.1
    receiptDestination := hrLinked.destinationIdentity
    bundleDestination := fun b hb => (hbundle b hb).2.2.destinationIdentity }

/-! ## A chain that validates -/

def sampleHash : String := "00000000000000000000000000000000000000000000000000000000000000aa"

def samplePayee : String := "020000000000000000000000000000000000000000000000000000000000000000"

/-- One hash for every artifact, and one for the invoice of the samples. -/
def samplePrimitives : Primitives where
  sha256Hex bytes := if bytes == textBytes "lnbc" then sampleHash else "aa"
  canonicalJson _ := .ok []
  verifyMessage _ _ _ := true

theorem verifyMessage_samplePrimitives (key signature : String) (bytes : Bytes) :
    samplePrimitives.verifyMessage key signature bytes = true := rfl

def sampleEnvelope {T : Type} (artifactType signer : String) (payload : T) : SignedArtifact T :=
  { artifactType, schemaVersion := frogletSchemaV1, signer, createdAt := 0
    payloadHash := "aa", hash := "aa", payload, signature := "sig" }

def sampleLimits : ExecutionLimits :=
  { maxInputBytes := 1, maxRuntimeMs := 1, maxMemoryBytes := 1, maxOutputBytes := 1
    fuelLimit := 1 }

def sampleQuote (settlementTerms : QuoteSettlementTerms) : SignedQuote :=
  sampleEnvelope artifactTypeQuote "p"
    { providerId := "p", requesterId := "r", descriptorHash := "aa", offerHash := "aa"
      expiresAt := 100, workloadKind := "k", workloadHash := "w"
      confidentialSessionHash := none, capabilitiesGranted := [], extensionRefs := []
      quoteUse := none, settlementTerms, executionLimits := sampleLimits }

def sampleFreeQuote : SignedQuote :=
  sampleQuote
    { method := settlementMethodNone, destinationIdentity := "", baseFeeMsat := 0
      successFeeMsat := 0, maxBaseInvoiceExpirySecs := 0, maxSuccessHoldExpirySecs := 0
      minFinalCltvExpiry := 0 }

def samplePaidQuote (method destinationIdentity : String) (successFeeMsat : ℕ) : SignedQuote :=
  sampleQuote
    { method, destinationIdentity, baseFeeMsat := 1000, successFeeMsat
      maxBaseInvoiceExpirySecs := 100, maxSuccessHoldExpirySecs := 100, minFinalCltvExpiry := 1 }

def sampleEscrowQuote : SignedQuote :=
  samplePaidQuote settlementMethodLightningEscrow samplePayee 1000

def sampleDeal : SignedDeal :=
  sampleEnvelope artifactTypeDeal "r"
    { requesterId := "r", providerId := "p", quoteHash := "aa", workloadHash := "w"
      confidentialSessionHash := none, extensionRefs := [], authorityRef := none
      supersedesDealHash := none, clientNonce := none
      successPaymentHash := sampleHash
      admissionDeadline := 10, completionDeadline := 20, acceptanceDeadline := 30 }

def sampleEmptyLeg : ReceiptSettlementLeg :=
  { amountMsat := 0, invoiceHash := "", paymentHash := "", state := .canceled }

def sampleFreeReceipt : SignedReceipt :=
  sampleEnvelope artifactTypeReceipt "p"
    { providerId := "p", requesterId := "r", dealHash := "aa", quoteHash := "aa"
      extensionRefs := [], acceptanceRef := none, startedAt := some 1, finishedAt := 2
      dealState := "succeeded", executionState := "succeeded", settlementState := "none"
      resultHash := some "h", confidentialSessionHash := none, resultEnvelopeHash := none
      resultFormat := some "application/json+jcs"
      executor :=
        { runtime := "wasm", runtimeVersion := "1", executionMode := none
          attestationPlatform := none, measurement := none, abiVersion := none
          moduleHash := none, capabilitiesGranted := [] }
      limitsApplied := sampleLimits
      settlementRefs :=
        { method := settlementMethodNone, bundleHash := none, destinationIdentity := ""
          baseFee := sampleEmptyLeg, successFee := sampleEmptyLeg }
      failureCode := none, failureMessage := none, resultRef := none }

def sampleEscrowReceipt : SignedReceipt :=
  let leg : ReceiptSettlementLeg :=
    { amountMsat := 1000, invoiceHash := sampleHash, paymentHash := sampleHash
      state := .settled }
  { sampleFreeReceipt with
    payload := { sampleFreeReceipt.payload with
      settlementState := "settled"
      settlementRefs :=
        { method := settlementMethodLightningEscrow, bundleHash := some "aa"
          destinationIdentity := samplePayee, baseFee := leg, successFee := leg } } }

def sampleFreeChain : FullChain where
  descriptor := sampleEnvelope artifactTypeDescriptor "p"
    { providerId := "p", descriptorSeq := 1, protocolVersion := frogletSchemaV1
      expiresAt := none, linkedIdentities := [], transportEndpoints := []
      capabilities := { serviceKinds := [], executionRuntimes := [], maxConcurrentDeals := none }
      acceptedPaymentMethods := [] }
  offer := sampleEnvelope artifactTypeOffer "p"
    { providerId := "p", offerId := "o", descriptorHash := "aa", expiresAt := none
      offerKind := "k", settlementMethod := settlementMethodNone, quoteTtlSecs := 1
      executionProfile :=
        { runtime := .wasm, packageKind := "", contractVersion := "", accessHandles := []
          abiVersion := "", capabilities := [], maxInputBytes := 1, maxRuntimeMs := 1
          maxMemoryBytes := 1, maxOutputBytes := 1, fuelLimit := 1 }
      priceSchedule := { baseFeeMsat := 0, successFeeMsat := 0 }
      termsHash := none, confidentialProfileHash := none }
  quote := sampleFreeQuote
  invoiceBundle := none
  deal := sampleDeal
  receipt := some sampleFreeReceipt

def sampleEscrowBundle : SignedInvoiceBundle :=
  let leg : InvoiceBundleLeg :=
    { amountMsat := 1000, invoiceBolt11 := "lnbc", invoiceHash := sampleHash
      paymentHash := sampleHash, state := .opened }
  sampleEnvelope transportTypeInvoiceBundle "p"
    { providerId := "p", requesterId := "r", quoteHash := "aa", dealHash := "aa", expiresAt := 10
      destinationIdentity := samplePayee, baseFee := leg, successFee := leg
      minFinalCltvExpiry := 1 }

def sampleEscrowChain : FullChain :=
  { sampleFreeChain with
    offer := { sampleFreeChain.offer with
      payload := { sampleFreeChain.offer.payload with
        settlementMethod := settlementMethodLightningEscrow, priceSchedule := ⟨1000, 1000⟩ } }
    quote := sampleEscrowQuote, invoiceBundle := some sampleEscrowBundle
    receipt := some sampleEscrowReceipt }

theorem validateFullChain_sound_escrow :
    (validateFullChain samplePrimitives sampleEscrowChain (some 5)).valid = true
    ∧ ChainSound samplePrimitives sampleEscrowChain sampleEscrowReceipt :=
  ⟨by decide +kernel, validateFullChain_sound _ _ _ (some 5) rfl (by decide +kernel)⟩

end Froglet
