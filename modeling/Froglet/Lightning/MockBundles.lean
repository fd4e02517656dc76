import Froglet.Lightning.Bundles
import Froglet.Provider.Quotes

/-!
# Bundles without a wallet

In mock mode a node makes up both invoices of a bundle. Each is a text that spells
out its fields, and the validations read them back from it, so a bundle is only
valid if what is read is what was written (`parseMockBolt11_mockBolt11`) and the
windows it was written with are those of the quote.
-/

namespace Froglet

variable {P : Primitives} {b : SignedInvoiceBundle} {d : SignedDeal}
variable {config : OfferConfig} {otherChecks : SignedOffer → Except String Unit}
variable {now createdAt : ℤ} {quote q : SignedQuote}
variable {session : LightningInvoiceBundleSession}
variable {expectedRequesterId : Option String}

/-! ## Building a bundle -/

def configuredLightningDestinationIdentity (configured : Option String)
    (compressedPublicKeyHex : String) : String :=
  configured.getD compressedPublicKeyHex

def resolveLightningDestinationIdentity (mode : LightningMode) (configured : Option String)
    (compressedPublicKeyHex : String) (wallet : Except String String) : Except String String :=
  match configured with
  | some destinationIdentity => .ok destinationIdentity
  | none =>
    match mode with
    | .mock => .ok (configuredLightningDestinationIdentity configured compressedPublicKeyHex)
    | .lndRest | .phoenixd => wallet

/-- The bundle built without a wallet. Both ends are integer sums of a clock and a window, those
of the source as long as they fit an `i64`. -/
def buildLightningInvoiceBundle (node : NodeIdentity P) (config : OfferConfig)
    (destinationIdentity : String) (request : BuildLightningInvoiceBundleRequest) :
    Except String LightningInvoiceBundleSession := do
  let (baseInvoiceExpirySecs, successHoldExpirySecs) ← effectiveBundleExpirySecs config request
  let sessionId := request.sessionId
  let basePaymentHash := P.sha256Hex (textBytes s!"lightning-base:{sessionId}")
  let baseExpiresAt := request.createdAt + baseInvoiceExpirySecs
  let successExpiresAt := request.createdAt + successHoldExpirySecs
  signLightningInvoiceBundle node request
    { destinationIdentity, basePaymentHash, baseState := .opened
      baseInvoiceBolt11 := mockBolt11 "base" request.baseFeeMsat basePaymentHash baseExpiresAt
      successHoldInvoiceBolt11 :=
        mockBolt11 "hold" request.successFeeMsat request.successPaymentHash successExpiresAt
      successState := .opened, expiresAt := max baseExpiresAt successExpiresAt
      minFinalCltvExpiry := config.minFinalCltvExpiry }

def bundleRequest (quote : SignedQuote) (deal : SignedDeal) (sessionId : String) (createdAt : ℤ) :
    BuildLightningInvoiceBundleRequest :=
  { sessionId, requesterId := deal.payload.requesterId, quoteHash := quote.hash
    dealHash := deal.hash, admissionDeadline := deal.payload.admissionDeadline
    successPaymentHash := deal.payload.successPaymentHash
    baseFeeMsat := quote.payload.settlementTerms.baseFeeMsat
    successFeeMsat := quote.payload.settlementTerms.successFeeMsat, createdAt }

/-! ## The terms of an issued quote -/

section Quotes

variable {node : NodeIdentity P}

structure EscrowTermsOf (config : OfferConfig) (destination : Except String String)
    (terms : QuoteSettlementTerms) : Prop where
  destinationIdentity : destination = .ok terms.destinationIdentity
  baseWindow : terms.maxBaseInvoiceExpirySecs = config.baseInvoiceExpirySecs.val
  successWindow : terms.maxSuccessHoldExpirySecs = config.successHoldExpirySecs.val
  minFinalCltvExpiry : terms.minFinalCltvExpiry = config.minFinalCltvExpiry

theorem escrowTermsOf_of_quotedSettlementTerms
    {destination : Except String String} {priceSats : ℕ} {terms : QuoteSettlementTerms}
    (h : quotedSettlementTerms config destination priceSats = .ok terms)
    (hmethod : terms.method = settlementMethodLightningEscrow) :
    EscrowTermsOf config destination terms := by
  unfold quotedSettlementTerms at h
  obtain ⟨found, hfound, h⟩ := bind_eq_ok.mp h
  cases found with
  | none =>
    -- the other methods
    dsimp only at h
    split at h
    · split at h
      · cases h
      · obtain rfl := pure_eq_ok.mp h
        exact absurd hmethod (show settlementMethodStripeMpp ≠ _ by decide)
    · split at h
      · cases h
      · obtain rfl := pure_eq_ok.mp h
        exact absurd hmethod (by decide)
  | some lightning =>
    obtain rfl := pure_eq_ok.mp h
    unfold quotedLightningSettlementTerms at hfound
    split at hfound
    · cases hfound
    · split at hfound
      · obtain ⟨destinationIdentity, -, hterms⟩ := bind_eq_ok.mp hfound
        obtain rfl := Option.some.inj (pure_eq_ok.mp hterms)
        exact absurd hmethod (show settlementMethodLightningPrepaid ≠ _ by decide)
      · obtain ⟨destinationIdentity, hdestination, hterms⟩ := bind_eq_ok.mp hfound
        obtain rfl := Option.some.inj (pure_eq_ok.mp hterms)
        exact ⟨hdestination, rfl, rfl, rfl⟩

theorem fees_le_of_offerTotalMsat {price : OfferPriceSchedule} {total : ℕ}
    (h : offerTotalMsat price = .ok total) :
    price.baseFeeMsat ≤ u64Max ∧ price.successFeeMsat ≤ u64Max := by
  unfold offerTotalMsat at h
  split at h
  · cases h
  · next sum hsum =>
    unfold checkedAdd at hsum
    split at hsum
    · omega
    · cases hsum

/-- The terms of an issued escrow quote are those of the configuration, with the
fees of the offer, which are in range. -/
theorem escrowTermsOf_of_createQuoteRecord {s : QuoteNode node} {request : CreateQuoteRequest}
    {store : OfferStore node}
    (h : createQuoteRecord s request otherChecks now createdAt = .ok (quote, store))
    (hmethod : quote.payload.settlementTerms.method = settlementMethodLightningEscrow) :
    EscrowTermsOf s.config s.destination quote.payload.settlementTerms
      ∧ quote.payload.settlementTerms.baseFeeMsat ≤ u64Max
      ∧ quote.payload.settlementTerms.successFeeMsat ≤ u64Max := by
  obtain ⟨offer, total, terms, -, htotal, hterms, -, -, -, -, -, -, -, hfees, -⟩ :=
    createQuoteRecord_ok h
  rw [hfees] at hmethod ⊢
  have hescrow : terms.method = settlementMethodLightningEscrow := by
    unfold withOfferFees at hmethod
    split at hmethod
    · exact hmethod
    · split at hmethod <;> exact hmethod
  have hof := escrowTermsOf_of_quotedSettlementTerms hterms hescrow
  rw [withOfferFees, if_pos (beq_iff_eq.mpr hescrow)]
  obtain ⟨hbase, hsuccess⟩ := fees_le_of_offerTotalMsat htotal
  exact ⟨{ hof with }, hbase, hsuccess⟩

end Quotes

/-! ## The legs of a bundle -/

section Legs

variable {parser : Bolt11Parser}
  {q : SignedQuote}

theorem dash_not_mem_of_isLowerHexLen {value : String} {len : ℕ}
    (h : isLowerHexLen value len = true) : '-' ∉ value.toList := by
  simp only [isLowerHexLen, Bool.and_eq_true, List.all_eq_true] at h
  exact fun hmem => absurd (h.2 '-' hmem) (by decide)

/-- A leg with an invoice of the node's own format has no issues, if the invoice
is for the leg and ends within the windows. -/
theorem legIssues_mock {kind legName : String} {leg : InvoiceBundleLeg} {maxExpirySecs : ℕ}
    {expiresAt : ℤ} (hinvoice : leg.invoiceBolt11
      = mockBolt11 kind leg.amountMsat leg.paymentHash expiresAt)
    (hhash : leg.invoiceHash = P.sha256Hex (textBytes leg.invoiceBolt11))
    (hkind : '-' ∉ kind.toList) (hpayment : '-' ∉ leg.paymentHash.toList)
    (hamount : leg.amountMsat ≤ u64Max) (hmin : -2 ^ 63 ≤ expiresAt) (hmax : expiresAt ≤ i64Max)
    (hwindow : expiresAt ≤ b.createdAt + wrapI64 maxExpirySecs)
    (hquote : expiresAt ≤ q.payload.expiresAt) (hdeal : expiresAt ≤ d.payload.admissionDeadline) :
    legIssues P parser b q d kind legName leg maxExpirySecs = [] := by
  have hparse := parseMockBolt11_mockBolt11 hkind hpayment hamount hmin hmax
  rw [← hinvoice] at hparse
  have hmock : mockPrefix.toList.isPrefixOf leg.invoiceBolt11.toList = true := by
    rw [hinvoice, mockBolt11, String.toList_append]
    exact List.isPrefixOf_iff_prefix.mpr (List.prefix_append ..)
  rw [legIssues, decodeLightningInvoice, hparse]
  simp [decodedLegIssues, hmock, hparse, hhash, not_lt.mpr hwindow, not_lt.mpr hquote,
    not_lt.mpr hdeal]

end Legs

/-! ## The theorem -/

theorem wrapI64_eq {a : ℤ} (hmin : -2 ^ 63 ≤ a) (hmax : a < 2 ^ 63) : wrapI64 a = a := by
  unfold wrapI64
  exact Int.bmod_eq_of_le (by omega) (by omega)

theorem successPaymentHash_of_validateDealArtifact (h : validateDealArtifact d = .ok ()) :
    isLowerHexLen d.payload.successPaymentHash 64 = true := by
  unfold validateDealArtifact at h
  simp only [check_eq_ok, rejectIf_eq_ok, Bool.not_eq_false'] at h
  exact h.2.2.2.2.1

section Mock

variable {node : NodeIdentity P}

theorem bundle_of_buildLightningInvoiceBundle {destinationIdentity : String}
    {request : BuildLightningInvoiceBundleRequest}
    (h : buildLightningInvoiceBundle node config destinationIdentity request = .ok session) :
    ∃ base success : ℕ, effectiveBundleExpirySecs config request = .ok (base, success)
      ∧ ∃ issued, signLightningInvoiceBundle node request issued = .ok session
        ∧ issued.destinationIdentity = destinationIdentity
        ∧ issued.basePaymentHash = P.sha256Hex (textBytes ("lightning-base:" ++ request.sessionId))
        ∧ issued.baseState = .opened ∧ issued.successState = .opened
        ∧ issued.baseInvoiceBolt11 = mockBolt11 "base" request.baseFeeMsat issued.basePaymentHash
          (request.createdAt + base)
        ∧ issued.successHoldInvoiceBolt11 = mockBolt11 "hold" request.successFeeMsat
          request.successPaymentHash (request.createdAt + success)
        ∧ issued.expiresAt = max (request.createdAt + base : ℤ) (request.createdAt + success)
        ∧ issued.minFinalCltvExpiry = config.minFinalCltvExpiry := by
  unfold buildLightningInvoiceBundle at h
  obtain ⟨⟨base, success⟩, hwindows, h⟩ := bind_eq_ok.mp h
  exact ⟨base, success, hwindows, _, h, rfl, rfl, rfl, rfl, rfl, rfl, rfl, rfl⟩

theorem bundleTermsIssues_eq_nil (hdeal : QuoteDealValid P none q d)
    (htype : b.artifactType = transportTypeInvoiceBundle) (hauth : Authentic P b)
    (hsigner : b.signer = b.payload.providerId) (hlinked : InvoiceBundleLinked P q b d)
    (hexpected : ∀ id ∈ expectedRequesterId, id = d.payload.requesterId) :
    bundleTermsIssues P b q d expectedRequesterId = [] := by
  have hquoteSigner := signer_of_validateQuoteArtifact hdeal.quote
  have hdealSigner := signer_of_validateDealArtifact hdeal.deal
  have hrequester : expectedRequesterId.any (b.payload.requesterId != ·) = false := by
    rw [Option.any_eq_false_iff_get]
    intro hsome
    rw [hexpected _ (Option.get_mem hsome), hlinked.dealRequesterId]
    simp
  simp only [bundleTermsIssues, bundleIssues_cons_eq_nil, bundleIssues_nil, and_true,
    Bool.not_eq_false', bne_eq_false_iff_eq, Bool.or_eq_false_iff, decide_eq_false_iff_not,
    not_lt, verifyArtifact_iff]
  exact ⟨hauth, hdeal.quoteAuthentic, hdeal.dealAuthentic, htype,
    ⟨⟨hquoteSigner.symm, hlinked.providerId⟩,
      hsigner.trans (hlinked.providerId.trans hquoteSigner.symm)⟩,
    hdeal.linked.providerId, hlinked.quoteHash, hlinked.dealHash, hrequester, hlinked.method,
    ⟨⟨hdealSigner, hdeal.linked.requesterId⟩, hlinked.requesterId⟩,
    ⟨hdeal.linked.quoteHash, hdeal.linked.workloadHash⟩, hlinked.destinationIdentity,
    hlinked.baseFeeMsat, hlinked.successFeeMsat, hlinked.minFinalCltvExpiry, hlinked.quoteExpiry,
    hlinked.dealExpiry, hlinked.successPaymentHash.symm⟩

theorem validateQuoteInvoiceBundleDeal_at
    (h : (validateQuoteInvoiceBundleDeal P q b d none).valid = true) {now : Option ℤ}
    (hnow : NotPast now b.payload.expiresAt) :
    (validateQuoteInvoiceBundleDeal P q b d now).valid = true := by
  obtain ⟨hdeal, htype, hauth, hbundle, -, hlinked⟩ := (valid_validateQuoteInvoiceBundleDeal P).mp h
  refine (valid_validateQuoteInvoiceBundleDeal P).mpr
    ⟨{ hdeal with quoteFresh := fun t ht => (hnow t ht).trans hlinked.quoteExpiry }, htype, hauth,
      hbundle, hnow, hlinked⟩

/-- **A bundle built without a wallet is valid.** In mock mode, a bundle for a deal
that is valid on an escrow quote of the node passes the node's own rules, for the
requester of the deal, and those of the kernel, as long as it has not ended. -/
theorem mock_bundle_valid (hhex : P.HashesHex) (parser : Bolt11Parser) {s : QuoteNode node}
    {configured : Option String} {compressedPublicKeyHex : String} {wallet : Except String String}
    (hmode : s.config.lightningMode = .mock)
    (hdestination : s.destination = resolveLightningDestinationIdentity s.config.lightningMode
      configured compressedPublicKeyHex wallet) {quoteRequest : CreateQuoteRequest} {quotedAt : ℤ}
    {store : OfferStore node}
    (hquote : createQuoteRecord s quoteRequest otherChecks now quotedAt = .ok (quote, store))
    (hmethod : quote.payload.settlementTerms.method = settlementMethodLightningEscrow)
    {deal : SignedDeal} (hdeal : (validateQuoteDeal P quote deal none).valid = true)
    {sessionId : String} (hclock : FitsI64 createdAt)
    (hdeadline : FitsI64 deal.payload.admissionDeadline)
    (hbuild : buildLightningInvoiceBundle node s.config
      (configuredLightningDestinationIdentity configured compressedPublicKeyHex)
      (bundleRequest quote deal sessionId createdAt) = .ok session)
    (hexpected : ∀ id ∈ expectedRequesterId, id = deal.payload.requesterId) :
    (validateLightningInvoiceBundle P parser session.bundle quote deal
        expectedRequesterId).valid = true
      ∧ ∀ checkedAt, NotPast checkedAt session.bundle.payload.expiresAt →
        (validateQuoteInvoiceBundleDeal P quote session.bundle deal checkedAt).valid = true := by
  have hdealValid := (valid_validateQuoteDeal P).mp hdeal
  obtain ⟨hterms, hbaseFee, hsuccessFee⟩ := escrowTermsOf_of_createQuoteRecord hquote hmethod
  obtain ⟨-, -, -, -, -, -, -, -, -, hprovider, -⟩ := createQuoteRecord_ok hquote
  have hresolved : s.destination
      = .ok (configuredLightningDestinationIdentity configured compressedPublicKeyHex) := by
    rw [hdestination, hmode]
    cases configured <;> rfl
  have hidentity := Except.ok.inj (hresolved.symm.trans hterms.destinationIdentity)
  obtain ⟨base, success, hwindows, issued, hsign, hissuedDestination, hbaseHash, hbaseState,
    hsuccessState, hbaseInvoice, hsuccessInvoice, hexpires, hcltv⟩ :=
    bundle_of_buildLightningInvoiceBundle hbuild
  obtain ⟨hpos, hbase, hsuccess⟩ := effectiveBundleExpirySecs_ok hwindows
  dsimp only [bundleRequest] at hpos hbase hsuccess
  unfold signLightningInvoiceBundle at hsign
  obtain ⟨bundle, hbundle, hsession⟩ := bind_eq_ok.mp hsign
  obtain rfl := Except.ok.inj hsession
  obtain ⟨hauth, htype, hsigner, hpayload⟩ := authentic_of_signArtifact P node.verifies hbundle
  have hcreated : bundle.createdAt = createdAt := createdAt_of_signArtifact hbundle
  have hexpiry : issued.expiresAt ≤ deal.payload.admissionDeadline := by
    rw [hexpires]
    dsimp only [bundleRequest]
    omega
  have hlinked : InvoiceBundleLinked P quote bundle deal := by
    obtain ⟨_, _, _, _, _, _, payload, _⟩ := bundle
    obtain rfl : payload = _ := hpayload
    exact
    { method := hmethod, providerId := hprovider.symm
      dealProviderId := hprovider.symm.trans hdealValid.linked.providerId.symm
      requesterId := hdealValid.linked.requesterId, dealRequesterId := rfl
      quoteHash := rfl, dealHash := rfl
      destinationIdentity := hissuedDestination.trans hidentity
      baseFeeMsat := rfl, successFeeMsat := rfl, successPaymentHash := rfl
      minFinalCltvExpiry := hcltv.trans hterms.minFinalCltvExpiry.symm
      quoteExpiry := hexpiry.trans hdealValid.linked.admissionDeadline
      dealExpiry := hexpiry, baseInvoiceHash := rfl, successInvoiceHash := rfl }
  have hbaseHex : isLowerHexLen issued.basePaymentHash 64 = true := hbaseHash ▸ hhex _
  have hsuccessHex := successPaymentHash_of_validateDealArtifact hdealValid.deal
  have hquoteEnd := hdealValid.linked.admissionDeadline
  have hsigner : bundle.signer = bundle.payload.providerId := by
    rw [hpayload]
    exact hsigner
  have hlegs : LegsAsIssued bundle.payload := by
    rw [hpayload]
    exact ⟨hbaseHex, hsuccessState, .inl hbaseState⟩
  refine ⟨?_, fun checkedAt => validateQuoteInvoiceBundleDeal_at
    (bundle_valid hhex hdealValid htype hauth hsigner hlinked hlegs ?_ ?_)⟩
  · have hbaseWindow : wrapI64 quote.payload.settlementTerms.maxBaseInvoiceExpirySecs
        = s.config.baseInvoiceExpirySecs.val := by
      rw [hterms.baseWindow]
      exact wrapI64_eq (by omega) (by omega)
    have hsuccessWindow : wrapI64 quote.payload.settlementTerms.maxSuccessHoldExpirySecs
        = s.config.successHoldExpirySecs.val := by
      rw [hterms.successWindow]
      exact wrapI64_eq (by omega) (by omega)
    obtain ⟨hmin, -⟩ := hclock
    obtain ⟨-, hmax⟩ := hdeadline
    simp only [validateLightningInvoiceBundle, List.isEmpty_iff, List.append_eq_nil_iff]
    refine ⟨⟨bundleTermsIssues_eq_nil hdealValid htype hauth hsigner hlinked hexpected, ?_⟩, ?_⟩
    · rw [hpayload]
      refine legIssues_mock hbaseInvoice rfl (by decide) (dash_not_mem_of_isLowerHexLen hbaseHex)
        hbaseFee ?_ ?_ ?_ ?_ ?_ <;> simp only [hcreated, hbaseWindow, bundleRequest, i64Max] <;>
        omega
    · rw [hpayload]
      refine legIssues_mock hsuccessInvoice rfl (by decide)
        (dash_not_mem_of_isLowerHexLen hsuccessHex) hsuccessFee ?_ ?_ ?_ ?_ ?_ <;>
        simp only [hcreated, hsuccessWindow, bundleRequest, i64Max] <;> omega
  · rw [hpayload]
    exact hbaseInvoice ▸ isBlank_mockBolt11 ..
  · rw [hpayload]
    exact hsuccessInvoice ▸ isBlank_mockBolt11 ..

end Mock

/-! ## A node without a wallet -/

def sampleMockNode : QuoteNode sampleHexNode where
  config := { sampleLndConfig 60 with lightningMode := .mock }
  bindings := (sampleQuoteNode [.lightning] none).bindings
  descriptorHash := sampleHash
  store := OfferStore.empty _
  issuedQuotes := []
  destination := resolveLightningDestinationIdentity .mock none samplePayee (.error "")

def sampleMockDeal : SignedDeal :=
  sampleHexEnvelope artifactTypeDeal sampleQuoteRequest.requesterId
    { (sampleHoldDeal none).payload with
      requesterId := sampleQuoteRequest.requesterId
      admissionDeadline := 10, completionDeadline := 20, acceptanceDeadline := 30 }

def sampleMockIssue (quote : SignedQuote) : Except String LightningInvoiceBundleSession :=
  buildLightningInvoiceBundle sampleHexNode sampleMockNode.config
    (configuredLightningDestinationIdentity none samplePayee)
    (bundleRequest quote sampleMockDeal "d" 0)

theorem mock_bundle_valid_sample :
    ∃ quote store session,
      createQuoteRecord sampleMockNode sampleQuoteRequest (fun _ => .ok ()) 0 0 = .ok (quote, store)
      ∧ quote.payload.settlementTerms.method = settlementMethodLightningEscrow
      ∧ sampleMockIssue quote = .ok session
      ∧ (validateLightningInvoiceBundle sampleHexPrimitives (sampleBolt11Parser 0)
          session.bundle quote sampleMockDeal none).valid = true
      ∧ ∀ checkedAt, NotPast checkedAt session.bundle.payload.expiresAt →
        (validateQuoteInvoiceBundleDeal sampleHexPrimitives quote session.bundle sampleMockDeal
          checkedAt).valid = true := by
  have hok : (createQuoteRecord sampleMockNode sampleQuoteRequest
        (fun _ => .ok ()) 0 0).toOption.map (fun (quote, _) =>
      quote.payload.settlementTerms.method == settlementMethodLightningEscrow
        && (validateQuoteDeal sampleHexPrimitives quote sampleMockDeal none).valid
        && (sampleMockIssue quote).isOk) = some true := by decide +kernel
  cases hquote : createQuoteRecord sampleMockNode sampleQuoteRequest (fun _ => .ok ()) 0 0 with
  | error error =>
    rw [hquote] at hok
    cases hok
  | ok issued =>
    obtain ⟨quote, store⟩ := issued
    rw [hquote] at hok
    simp only [Except.toOption, Option.map_some, Option.some.injEq, Bool.and_eq_true,
      beq_iff_eq] at hok
    obtain ⟨⟨hmethod, hdeal⟩, hbuild⟩ := hok
    cases hsession : sampleMockIssue quote with
    | error error => exact absurd (hsession ▸ hbuild) (by simp [Except.isOk, Except.toBool])
    | ok session =>
      have hdestination : sampleMockNode.destination = resolveLightningDestinationIdentity
          sampleMockNode.config.lightningMode none samplePayee (.error "") := rfl
      have hclock : FitsI64 0 := by unfold FitsI64; decide
      have hdeadline : FitsI64 sampleMockDeal.payload.admissionDeadline := by
        unfold FitsI64; decide
      exact ⟨quote, store, session, rfl, hmethod, hsession,
        mock_bundle_valid hashesHex_sample _ rfl hdestination hquote hmethod hdeal hclock
          hdeadline hsession (fun id hid => absurd hid (Option.not_mem_none id))⟩

end Froglet
