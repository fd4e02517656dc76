import Froglet.Lightning.Invoices
import Froglet.Protocol.ChainSoundness
import Froglet.Protocol.Serde
import Froglet.Provider.Offers

/-!
# Invoice bundles

A deal on Lightning escrow is paid through two invoices, which the provider puts into one
signed bundle. A bundle is checked by the rules of the kernel and by those of the node,
and the node leaves some of the rules out (`RulesLeftOut`).

The issue through LND is written over a client in any monad, so that one definition serves
the node whose calls interleave and the answers of a single issue (`LndAnswers`). For the
latter there is an exact condition (`InTime`) under which an issued bundle is valid.
-/

namespace Froglet

open List Option

variable {P : Primitives} {b : SignedInvoiceBundle} {config : OfferConfig} {m : Type → Type}
variable {parser : Bolt11Parser} {q : SignedQuote} {request : BuildLightningInvoiceBundleRequest}
variable {leg : InvoiceBundleLeg} {base success expirySecs longer totalSats : ℕ} {start now : ℤ}
variable {decoded : DecodedLightningInvoice}
variable {destinationIdentity paymentHash invoice dealId : String}
variable {session : LightningInvoiceBundleSession} {dealRequest : CreateDealRequest}
variable {rail : Option PaymentMethod}

/-! ## What the kernel asks of a bundle -/

def Primitives.HashesHex (P : Primitives) : Prop :=
  ∀ bytes, isLowerHexLen (P.sha256Hex bytes) 64 = true

structure LegsAsIssued (bundle : InvoiceBundlePayload) : Prop where
  basePaymentHash : isLowerHexLen bundle.baseFee.paymentHash 64 = true
  successState : bundle.successFee.state = .opened
  baseState : bundle.baseFee.state = .opened
    ∨ bundle.baseFee.amountMsat = 0 ∧ bundle.baseFee.state = .settled

theorem isBlank_of_isLowerHexLen {value : String} {len : ℕ} (hlen : len ≠ 0)
    (h : isLowerHexLen value len = true) : isBlank value = false := by
  simp only [isLowerHexLen, Bool.and_eq_true, beq_iff_eq] at h
  refine Bool.eq_false_iff.mpr fun hblank => ?_
  cases htext : value.toList with
  | nil => exact hlen (by rw [← h.1, String.toList_eq_nil_iff.mp htext]; rfl)
  | cons c rest =>
    rw [isBlank, htext, all_cons, Bool.and_eq_true] at hblank
    rw [htext, all_cons, Bool.and_eq_true] at h
    have hdigit := h.2.1
    have hspace := hblank.1
    simp only [isLowerHexChar, isWhitespaceChar, Bool.or_eq_true, Bool.and_eq_true,
      decide_eq_true_eq, beq_iff_eq] at hdigit hspace
    omega

section Kernel

variable {d : SignedDeal}

theorem isBlank_hash_of_authentic {T : Type} [Serialize T] {a : SignedArtifact T}
    (hhex : P.HashesHex) (h : Authentic P a) : isBlank a.hash = false := by
  obtain ⟨bytes, -, hhash, -⟩ := h.signed
  rw [hhash]
  exact isBlank_of_isLowerHexLen (by decide) (hhex bytes)

theorem validateInvoiceLeg_ok (hhex : P.HashesHex) {name : String}
    (hinvoice : isBlank leg.invoiceBolt11 = false)
    (hhash : leg.invoiceHash = P.sha256Hex (textBytes leg.invoiceBolt11))
    (hpayment : isLowerHexLen leg.paymentHash 64 = true) :
    validateInvoiceLeg P name leg = .ok () := by
  unfold validateInvoiceLeg
  simp only [check_eq_ok, rejectIf_eq_ok, Bool.not_eq_false', bne_eq_false_iff_eq]
  exact ⟨hinvoice, hhash ▸ hhex _, hpayment, hhash⟩

/-- When the kernel accepts a bundle, for a quote and a deal that it accepts:
the bundle is authentic, belongs to them, is as it was issued, and its invoices
are not blank. -/
theorem bundle_valid (hhex : P.HashesHex) (hdeal : QuoteDealValid P none q d)
    (htype : b.artifactType = transportTypeInvoiceBundle) (hauth : Authentic P b)
    (hsigner : b.signer = b.payload.providerId) (hlinked : InvoiceBundleLinked P q b d)
    (hlegs : LegsAsIssued b.payload) (hbase : isBlank b.payload.baseFee.invoiceBolt11 = false)
    (hsuccess : isBlank b.payload.successFee.invoiceBolt11 = false) :
    (validateQuoteInvoiceBundleDeal P q b d none).valid = true := by
  refine (valid_validateQuoteInvoiceBundleDeal P).mpr ⟨hdeal, htype, hauth, ?_, nofun, hlinked⟩
  have hquote := hdeal.quote
  have hterms := terms_escrow (terms_of_validateQuoteArtifact hquote) hlinked.method
  unfold validateQuoteArtifact at hquote
  simp only [check_eq_ok, rejectIf_eq_ok] at hquote
  have hpayment := hdeal.deal
  unfold validateDealArtifact at hpayment
  simp only [check_eq_ok, rejectIf_eq_ok, Bool.not_eq_false'] at hpayment
  unfold validateInvoiceBundleArtifact
  simp only [check_eq_ok, rejectIf_eq_ok, bne_eq_false_iff_eq, Bool.not_eq_false']
  refine ⟨hsigner, ?_, ?_, ?_, ?_, ?_, ?_, hlegs.successState, ?_⟩
  · rw [hlinked.requesterId]
    exact hquote.2.1
  · rw [hlinked.quoteHash]
    exact isBlank_hash_of_authentic hhex hdeal.quoteAuthentic
  · rw [hlinked.dealHash]
    exact isBlank_hash_of_authentic hhex hdeal.dealAuthentic
  · rw [hlinked.destinationIdentity]
    exact hterms
  · exact validateInvoiceLeg_ok hhex hbase hlinked.baseInvoiceHash hlegs.basePaymentHash
  · refine validateInvoiceLeg_ok hhex hsuccess hlinked.successInvoiceHash ?_
    rw [hlinked.successPaymentHash]
    exact hpayment.2.2.2.2.1
  · obtain hopen | ⟨hzero, hsettled⟩ := hlegs.baseState
    · simp [hopen]
    · simp [hzero, hsettled]

end Kernel

/-! ## The validation of the node -/

structure InvoiceBundleValidationIssue where
  (code message : String)

structure InvoiceBundleValidationReport where
  valid : Bool
  (bundleHash quoteHash dealHash : String)
  expectedRequesterId : Option String
  issues : List InvoiceBundleValidationIssue

def bundleIssues (checks : List (Bool × String × String)) : List InvoiceBundleValidationIssue :=
  checks.filterMap fun (bad, code, message) => if bad then some { code, message } else none

@[simp] theorem bundleIssues_nil : bundleIssues [] = [] := rfl

@[simp] theorem bundleIssues_cons_eq_nil {bad : Bool} {code message : String}
    {checks : List (Bool × String × String)} :
    bundleIssues ((bad, code, message) :: checks) = []
      ↔ bad = false ∧ bundleIssues checks = [] := by
  cases bad <;> simp [bundleIssues]

section Validation

variable (P) (parser) (bundle : SignedInvoiceBundle)
  (quote : SignedQuote) (deal : SignedDeal)

/-- The issues of one decoded invoice. The end of the longest window is an integer sum: it is that
of the source as long as it fits an `i64`. -/
def decodedLegIssues (expectedPrefix legName : String) (leg : InvoiceBundleLeg) (maxExpirySecs : ℕ)
    (decoded : DecodedLightningInvoice) : List InvoiceBundleValidationIssue :=
  let isMock := mockPrefix.toList.isPrefixOf leg.invoiceBolt11.toList
  let terms := quote.payload.settlementTerms
  (if isMock then
    match parseMockBolt11 leg.invoiceBolt11 with
    | .ok mock => bundleIssues
      [(mock.invoicePrefix != expectedPrefix, "invoice_prefix_mismatch",
        s!"{legName} invoice prefix does not match the expected leg type")]
    | .error error => bundleIssues [(true, "invalid_invoice_encoding", s!"{legName}: {error}")]
  else [])
  ++ bundleIssues
    [(decoded.amountMsat != leg.amountMsat, "invoice_amount_mismatch",
      s!"{legName} invoice amount does not match the signed bundle"),
    (decoded.paymentHash != leg.paymentHash, "invoice_payment_hash_mismatch",
      s!"{legName} invoice payment hash does not match the signed bundle"),
    (!decoded.destinationIdentity.isEmpty
        && decoded.destinationIdentity != bundle.payload.destinationIdentity,
      "invoice_destination_mismatch",
      s!"{legName} invoice payee identity does not match the signed bundle"),
    (!isMock && expectedPrefix == "hold" && decoded.minFinalCltvExpiry < terms.minFinalCltvExpiry,
      "invoice_min_final_cltv_too_small",
      s!"{legName} invoice min_final_cltv_expiry is below the quoted settlement constraint"),
    (bundle.createdAt + wrapI64 maxExpirySecs < decoded.expiresAt, "invoice_expiry_exceeds_terms",
      s!"{legName} invoice expiry exceeds the quoted settlement constraints"),
    (quote.payload.expiresAt < decoded.expiresAt, "invoice_expiry_exceeds_quote",
      s!"{legName} invoice expiry exceeds the quote deadline"),
    (deal.payload.admissionDeadline < decoded.expiresAt,
      "invoice_expiry_exceeds_admission_deadline",
      s!"{legName} invoice expiry exceeds the deal admission_deadline")]

def legIssues (expectedPrefix legName : String) (leg : InvoiceBundleLeg) (maxExpirySecs : ℕ) :
    List InvoiceBundleValidationIssue :=
  bundleIssues
    [(leg.invoiceHash != P.sha256Hex (textBytes leg.invoiceBolt11), "invoice_hash_mismatch",
      s!"{legName} invoice_hash does not match the encoded invoice")]
  ++ match decodeLightningInvoice parser leg.invoiceBolt11 with
    | .ok decoded =>
      decodedLegIssues bundle quote deal expectedPrefix legName leg maxExpirySecs decoded
    | .error error => bundleIssues [(true, "invalid_invoice_encoding", s!"{legName}: {error}")]

def bundleTermsIssues (expectedRequesterId : Option String) : List InvoiceBundleValidationIssue :=
  let terms := quote.payload.settlementTerms
  bundleIssues
    [(!verifyArtifact P bundle, "invalid_bundle_signature",
      "invoice bundle signature is invalid"),
    (!verifyArtifact P quote, "invalid_quote_signature", "quote signature is invalid"),
    (!verifyArtifact P deal, "invalid_deal_signature", "deal signature is invalid"),
    (bundle.artifactType != transportTypeInvoiceBundle, "bundle_kind_mismatch",
      s!"expected bundle kind '{transportTypeInvoiceBundle}'"),
    (quote.payload.providerId != quote.signer
        || bundle.payload.providerId != quote.payload.providerId
        || bundle.signer != quote.signer,
      "provider_identity_mismatch",
      "invoice bundle provider identity does not match the quoted provider"),
    (deal.payload.providerId != quote.payload.providerId, "deal_provider_mismatch",
      "deal provider does not match the quoted provider"),
    (bundle.payload.quoteHash != quote.hash, "quote_hash_mismatch",
      "invoice bundle quote_hash does not match the quote artifact hash"),
    (bundle.payload.dealHash != deal.hash, "deal_hash_mismatch",
      "invoice bundle deal_hash does not match the deal artifact hash"),
    (expectedRequesterId.any (bundle.payload.requesterId != ·), "requester_id_mismatch",
      "invoice bundle requester_id does not match the expected requester"),
    (terms.method != settlementMethodLightningEscrow, "quote_payment_method_mismatch",
      "quote does not advertise lightning settlement"),
    (deal.signer != deal.payload.requesterId
        || deal.payload.requesterId != quote.payload.requesterId
        || bundle.payload.requesterId != quote.payload.requesterId,
      "requester_identity_mismatch",
      "deal or bundle requester does not match the quoted requester"),
    (deal.payload.quoteHash != quote.hash
        || deal.payload.workloadHash != quote.payload.workloadHash,
      "deal_quote_binding_mismatch",
      "deal artifact does not match the quoted workload commitment"),
    (bundle.payload.destinationIdentity != terms.destinationIdentity,
      "destination_identity_mismatch",
      "invoice bundle destination identity does not match the quoted settlement destination"),
    (bundle.payload.baseFee.amountMsat != terms.baseFeeMsat, "base_fee_mismatch",
      "invoice bundle base fee does not match the quote settlement terms"),
    (bundle.payload.successFee.amountMsat != terms.successFeeMsat, "success_fee_mismatch",
      "invoice bundle success fee does not match the quote settlement terms"),
    (bundle.payload.minFinalCltvExpiry != terms.minFinalCltvExpiry, "min_final_cltv_mismatch",
      "invoice bundle CLTV requirement does not match the quote settlement terms"),
    (quote.payload.expiresAt < bundle.payload.expiresAt, "bundle_expiry_exceeds_quote",
      "invoice bundle expires after the quote deadline"),
    (deal.payload.admissionDeadline < bundle.payload.expiresAt,
      "bundle_expiry_exceeds_admission_deadline",
      "invoice bundle expires after the deal admission_deadline"),
    (deal.payload.successPaymentHash != bundle.payload.successFee.paymentHash,
      "success_payment_hash_mismatch",
      "invoice bundle success payment hash does not match the deal commitment")]

def validateLightningInvoiceBundle (expectedRequesterId : Option String) :
    InvoiceBundleValidationReport :=
  let terms := quote.payload.settlementTerms
  let issues := bundleTermsIssues P bundle quote deal expectedRequesterId
    ++ legIssues P parser bundle quote deal "base" "base_fee" bundle.payload.baseFee
      terms.maxBaseInvoiceExpirySecs
    ++ legIssues P parser bundle quote deal "hold" "success_fee" bundle.payload.successFee
      terms.maxSuccessHoldExpirySecs
  { valid := issues.isEmpty, bundleHash := bundle.hash, quoteHash := quote.hash
    dealHash := deal.hash, expectedRequesterId, issues }

end Validation

section Refinement

variable {d : SignedDeal}

theorem legIssues_eq_nil {expectedPrefix legName : String} {maxExpirySecs : ℕ}
    (h : legIssues P parser b q d expectedPrefix legName leg maxExpirySecs = []) :
    leg.invoiceHash = P.sha256Hex (textBytes leg.invoiceBolt11)
      ∧ isBlank leg.invoiceBolt11 = false := by
  obtain ⟨hhash, hdecode⟩ := append_eq_nil_iff.mp h
  refine ⟨bne_eq_false_iff_eq.mp (bundleIssues_cons_eq_nil.mp hhash).1, ?_⟩
  cases hdecoded : decodeLightningInvoice parser leg.invoiceBolt11 with
  | ok decoded => exact isBlank_of_decodeLightningInvoice hdecoded
  | error error =>
    rw [hdecoded] at hdecode
    exact Bool.noConfusion (bundleIssues_cons_eq_nil.mp hdecode).1

/-- The rules the node leaves out: what the kernel asks of the quote, of the deal, of
the two together and of the legs at issuance, and `validate_lightning_invoice_bundle` does
not look at. -/
structure RulesLeftOut (b : SignedInvoiceBundle) (q : SignedQuote) (d : SignedDeal) : Prop where
  quoteType : q.artifactType = artifactTypeQuote
  dealType : d.artifactType = artifactTypeDeal
  requesterId : isBlank q.payload.requesterId = false
  descriptorHash : isBlank q.payload.descriptorHash = false
  offerHash : isBlank q.payload.offerHash = false
  workloadKind : isBlank q.payload.workloadKind = false
  workloadHash : isBlank q.payload.workloadHash = false
  destinationIdentity : isLowerHexLen q.payload.settlementTerms.destinationIdentity 66 = true
  providerId : isBlank q.payload.providerId = false
  successPaymentHash : isLowerHexLen d.payload.successPaymentHash 64 = true
  confidentialSessionHash :
    d.payload.confidentialSessionHash = q.payload.confidentialSessionHash
  admissionDeadline : d.payload.admissionDeadline ≤ q.payload.expiresAt
  completionDeadline : d.payload.admissionDeadline < d.payload.completionDeadline
  acceptanceDeadline : d.payload.completionDeadline ≤ d.payload.acceptanceDeadline
  legs : LegsAsIssued b.payload

theorem validateQuoteArtifact_escrow
    (hmethod : q.payload.settlementTerms.method = settlementMethodLightningEscrow) :
    validateQuoteArtifact q = .ok () ↔ q.signer = q.payload.providerId
      ∧ isBlank q.payload.requesterId = false ∧ isBlank q.payload.descriptorHash = false
      ∧ isBlank q.payload.offerHash = false ∧ isBlank q.payload.workloadKind = false
      ∧ isBlank q.payload.workloadHash = false
      ∧ isLowerHexLen q.payload.settlementTerms.destinationIdentity 66 = true := by
  have hescrow : validateQuoteSettlementTerms q.payload.settlementTerms = .ok ()
      ↔ isLowerHexLen q.payload.settlementTerms.destinationIdentity 66 = true := by
    rw [validateQuoteSettlementTerms, hmethod, if_neg (by decide), if_pos (by decide),
      rejectIf_eq_ok, Bool.not_eq_false']
  simp only [validateQuoteArtifact, check_eq_ok, rejectIf_eq_ok, bne_eq_false_iff_eq, hescrow]

theorem validateDealArtifact_iff : validateDealArtifact d = .ok ()
    ↔ d.signer = d.payload.requesterId ∧ isBlank d.payload.providerId = false
      ∧ isBlank d.payload.quoteHash = false ∧ isBlank d.payload.workloadHash = false
      ∧ isLowerHexLen d.payload.successPaymentHash 64 = true
      ∧ d.payload.admissionDeadline < d.payload.completionDeadline
      ∧ d.payload.completionDeadline ≤ d.payload.acceptanceDeadline := by
  simp only [validateDealArtifact, check_eq_ok, rejectIf_eq_ok, bne_eq_false_iff_eq,
    Bool.not_eq_false', decide_eq_false_iff_not, not_le, not_lt]

theorem legsAsIssued_of_validateInvoiceBundleArtifact
    (h : validateInvoiceBundleArtifact P b = .ok ()) : LegsAsIssued b.payload := by
  simp only [validateInvoiceBundleArtifact, validateInvoiceLeg, check_eq_ok,
    rejectIf_eq_ok, bne_eq_false_iff_eq, Bool.not_eq_false'] at h
  obtain ⟨-, -, -, -, -, ⟨-, -, hhash, -⟩, -, hsuccess, hbase⟩ := h
  refine ⟨hhash, hsuccess, ?_⟩
  by_cases hopen : b.payload.baseFee.state = .opened
  · exact .inl hopen
  · exact .inr (by simpa [hopen] using hbase)

/-- **Where the two validations agree**: a bundle that the node accepts is accepted by the
kernel exactly if the artifacts also meet the rules that the node leaves out. -/
theorem validateLightningInvoiceBundle_refines_iff (hhex : P.HashesHex) (parser : Bolt11Parser)
    (bundle : SignedInvoiceBundle) (quote : SignedQuote)
    (deal : SignedDeal) (expectedRequesterId : Option String) :
    ((validateLightningInvoiceBundle P parser bundle quote deal expectedRequesterId).valid = true →
      (validateQuoteInvoiceBundleDeal P quote bundle deal none).valid = true)
    ↔ ((validateLightningInvoiceBundle P parser bundle quote deal
        expectedRequesterId).valid = true → RulesLeftOut bundle quote deal) := by
  refine imp_congr_right fun h => ?_
  simp only [validateLightningInvoiceBundle, List.isEmpty_iff, List.append_eq_nil_iff] at h
  obtain ⟨⟨hterms, hbase⟩, hsuccess⟩ := h
  obtain ⟨hbaseHash, hbaseInvoice⟩ := legIssues_eq_nil hbase
  obtain ⟨hsuccessHash, hsuccessInvoice⟩ := legIssues_eq_nil hsuccess
  simp only [bundleTermsIssues, bundleIssues_cons_eq_nil, bundleIssues_nil, and_true,
    Bool.not_eq_false', bne_eq_false_iff_eq, Bool.or_eq_false_iff, decide_eq_false_iff_not,
    not_lt, verifyArtifact_iff] at hterms
  obtain ⟨hauth, hquoteAuth, hdealAuth, htype, ⟨⟨hquoteSigner, hprovider⟩, hsigner⟩,
    hdealProvider, hquoteHash, hdealHash, -, hmethod, ⟨⟨hdealSigner, hdealRequester⟩,
    hrequester⟩, ⟨hdealQuote, hworkload⟩, hdestination, hbaseFee, hsuccessFee, hcltv,
    hquoteExpiry, hdealExpiry, hpayment⟩ := hterms
  constructor
  · intro hvalid
    obtain ⟨hdeal, -, -, hbundle, -⟩ := (valid_validateQuoteInvoiceBundleDeal P).mp hvalid
    obtain ⟨-, hrequesterId, hdescriptor, hoffer, hkind, hhash, hidentity⟩ :=
      (validateQuoteArtifact_escrow hmethod).mp hdeal.quote
    obtain ⟨-, hproviderId, -, -, hpaymentHash, hcompletion, hacceptance⟩ :=
      validateDealArtifact_iff.mp hdeal.deal
    exact
      { quoteType := hdeal.quoteType, dealType := hdeal.dealType, requesterId := hrequesterId
        descriptorHash := hdescriptor, offerHash := hoffer, workloadKind := hkind
        workloadHash := hhash, destinationIdentity := hidentity
        providerId := hdealProvider ▸ hproviderId, successPaymentHash := hpaymentHash
        confidentialSessionHash := hdeal.linked.confidentialSessionHash
        admissionDeadline := hdeal.linked.admissionDeadline, completionDeadline := hcompletion
        acceptanceDeadline := hacceptance
        legs := legsAsIssued_of_validateInvoiceBundleArtifact hbundle }
  · intro hrules
    have hdeal : QuoteDealValid P none quote deal :=
      { quoteType := hrules.quoteType, quoteAuthentic := hquoteAuth
        dealType := hrules.dealType, dealAuthentic := hdealAuth
        quote := (validateQuoteArtifact_escrow hmethod).mpr ⟨hquoteSigner.symm,
          hrules.requesterId, hrules.descriptorHash, hrules.offerHash, hrules.workloadKind,
          hrules.workloadHash, hrules.destinationIdentity⟩
        quoteFresh := nofun
        deal := validateDealArtifact_iff.mpr ⟨hdealSigner, hdealProvider ▸ hrules.providerId,
          hdealQuote ▸ isBlank_hash_of_authentic hhex hquoteAuth, hworkload ▸ hrules.workloadHash,
          hrules.successPaymentHash, hrules.completionDeadline, hrules.acceptanceDeadline⟩
        linked := ⟨hdealProvider, hdealRequester, hdealQuote, hworkload,
          hrules.confidentialSessionHash, hrules.admissionDeadline, hrules.completionDeadline,
          hrules.acceptanceDeadline⟩ }
    refine bundle_valid hhex hdeal htype hauth
      (hsigner.trans (hquoteSigner.symm.trans hprovider.symm)) ?_ hrules.legs hbaseInvoice
      hsuccessInvoice
    exact
      { method := hmethod, providerId := hprovider
        dealProviderId := hprovider.trans hdealProvider.symm
        requesterId := hrequester, dealRequesterId := hrequester.trans hdealRequester.symm
        quoteHash := hquoteHash, dealHash := hdealHash, destinationIdentity := hdestination
        baseFeeMsat := hbaseFee, successFeeMsat := hsuccessFee
        successPaymentHash := hpayment.symm, minFinalCltvExpiry := hcltv
        quoteExpiry := hquoteExpiry, dealExpiry := hdealExpiry
        baseInvoiceHash := hbaseHash, successInvoiceHash := hsuccessHash }

end Refinement

/-! ## A deal and its bundle -/

def sampleHexPrimitives : Primitives := { samplePrimitives with sha256Hex := fun _ => sampleHash }

theorem hashesHex_sample : sampleHexPrimitives.HashesHex := fun _ => by
  show isLowerHexLen sampleHash 64 = true
  decide +kernel

def sampleHexEnvelope {T : Type} (artifactType signer : String) (payload : T) : SignedArtifact T :=
  { sampleEnvelope artifactType signer payload with payloadHash := sampleHash, hash := sampleHash }

def sampleHoldQuote : SignedQuote :=
  sampleHexEnvelope artifactTypeQuote "p"
    { sampleFreeQuote.payload with
      expiresAt := 1000
      settlementTerms :=
        { method := settlementMethodLightningEscrow, destinationIdentity := samplePayee
          baseFeeMsat := 0, successFeeMsat := 1000, maxBaseInvoiceExpirySecs := 3600
          maxSuccessHoldExpirySecs := 60, minFinalCltvExpiry := 18 } }

def sampleHoldDeal (confidentialSessionHash : Option String) : SignedDeal :=
  sampleHexEnvelope artifactTypeDeal "r"
    { sampleDeal.payload with
      quoteHash := sampleHash, successPaymentHash := sampleHash, confidentialSessionHash
      admissionDeadline := 100, completionDeadline := 200, acceptanceDeadline := 300 }

def sampleBolt11Parser (expiresAt : ℕ) : Bolt11Parser where
  parse text :=
    if text == "lnbc" then .ok
      { amountMilliSatoshis := some 1000, expiresAt := some expiresAt, expiryTime := 55
        payeePubKey := samplePayee, paymentHash := sampleHash, currency := .regtest
        minFinalCltvExpiryDelta := 18 }
    else .error "not an invoice"
  rejectsBlank := by
    rintro text invoice hblank hparse
    split at hparse
    case isTrue htext =>
      obtain rfl := beq_iff_eq.mp htext
      exact absurd hblank (by decide)
    case isFalse => cases hparse

def sampleMockBundle : SignedInvoiceBundle :=
  let leg : InvoiceBundleLeg :=
    { amountMsat := 0, invoiceBolt11 := mockBolt11 "base" 0 sampleHash 50
      invoiceHash := sampleHash, paymentHash := sampleHash, state := .settled }
  sampleHexEnvelope transportTypeInvoiceBundle "p"
    { providerId := "p", requesterId := "r", quoteHash := sampleHash, dealHash := sampleHash
      expiresAt := 50, destinationIdentity := samplePayee, baseFee := leg
      successFee :=
        { leg with
          amountMsat := 1000, invoiceBolt11 := mockBolt11 "hold" 1000 sampleHash 50
          state := .opened }
      minFinalCltvExpiry := 18 }

theorem validateLightningInvoiceBundle_refines_mock :
    (validateLightningInvoiceBundle sampleHexPrimitives (sampleBolt11Parser 50) sampleMockBundle
      sampleHoldQuote (sampleHoldDeal none) (some "r")).valid = true
    ∧ (validateQuoteInvoiceBundleDeal sampleHexPrimitives sampleHoldQuote sampleMockBundle
      (sampleHoldDeal none) none).valid = true := by
  have hnode : (validateLightningInvoiceBundle sampleHexPrimitives (sampleBolt11Parser 50)
      sampleMockBundle sampleHoldQuote (sampleHoldDeal none) (some "r")).valid = true := by
    decide +kernel
  have hlegs : LegsAsIssued sampleMockBundle.payload := ⟨by decide +kernel, rfl, .inr ⟨rfl, rfl⟩⟩
  exact ⟨hnode, (validateLightningInvoiceBundle_refines_iff hashesHex_sample _ _ _ _ _).mpr
    (fun _ => ⟨rfl, rfl, by decide, by decide, by decide, by decide, by decide, by decide +kernel,
      by decide, by decide +kernel, rfl, by decide, by decide, by decide, hlegs⟩) hnode⟩

/-- **The node's rules do not compare the confidential sessions.** A deal with a
session that the quote does not have passes them, and is refused by the kernel. -/
theorem node_accepts_other_session :
    sampleHexPrimitives.HashesHex
    ∧ (validateLightningInvoiceBundle sampleHexPrimitives (sampleBolt11Parser 50)
      sampleMockBundle sampleHoldQuote (sampleHoldDeal (some "c")) (some "r")).valid = true
    ∧ (validateQuoteInvoiceBundleDeal sampleHexPrimitives sampleHoldQuote sampleMockBundle
      (sampleHoldDeal (some "c")) none).valid = false :=
  ⟨hashesHex_sample, by decide +kernel, by decide +kernel⟩

/-! ## Issuing a bundle -/

def effectiveBundleExpirySecs (config : OfferConfig)
    (request : BuildLightningInvoiceBundleRequest) : Except String (ℕ × ℕ) := do
  let remainingSecs := saturatingSubI64 request.admissionDeadline request.createdAt
  rejectIf (remainingSecs ≤ 0)
    "deal admission_deadline passed before lightning invoice bundle issuance"
  return (min config.baseInvoiceExpirySecs.val remainingSecs.toNat,
    min config.successHoldExpirySecs.val remainingSecs.toNat)

def guardedLndInvoiceExpirySecs (expirySecs : ℕ) : ℕ := max (expirySecs - 5) 1

/-- The calls to LND that the issue of a bundle makes, in a monad in which it can fail. -/
structure LndClient (m : Type → Type) where
  configured : Bool
  ofExcept {α : Type} : Except String α → m α
  destinationIdentity : m (Except String String)
  (addBaseInvoice addSuccessInvoice : String → m (Except String String))
  cancelInvoice : String → m (Except String Unit)

section Cleanup

variable [Monad m] {α : Type} (client : LndClient m)

/-- Cancels one invoice after the other, and returns the failures. -/
def cancelLndInvoices (cancelInvoice : String → m (Except String Unit)) :
    List String → m (List String)
  | [] => pure []
  | paymentHash :: rest => do
    let answer ← cancelInvoice paymentHash
    let failures ← cancelLndInvoices cancelInvoice rest
    match answer with
    | .ok _ => return failures
    | .error error => return s!"{paymentHash}: {error}" :: failures

def cleanupFailedLndBundleIssue (paymentHashes : List String) (issueError : String) : m α := do
  let failures ← cancelLndInvoices client.cancelInvoice paymentHashes
  let cancelError := "; ".intercalate failures
  client.ofExcept (.error (if failures.isEmpty then issueError
    else s!"{issueError}; additionally failed to cancel issued invoices: {cancelError}"))

def orCleanup (paymentHashes : List String) : Except String α → m α
  | .ok a => pure a
  | .error error => cleanupFailedLndBundleIssue client paymentHashes error

end Cleanup

def deterministicBaseFeePaymentHash (P : Primitives) (keyedHmacHex : Bytes → String)
    (sessionId : String) : Except String String := do
  let preimage ← okOr
    (Hex.decodeChars (keyedHmacHex (textBytes s!"lightning-base-preimage:{sessionId}")).toList)
    "invalid hex preimage"
  return P.sha256Hex preimage

section Issue

variable (parser) (request)
  (destinationIdentity : String)

def checkLndBaseInvoice (paymentHash invoice : String) : Except String DecodedLightningInvoice := do
  let decoded ← decodeLightningInvoice parser invoice
  rejectIf (decoded.amountMsat != request.baseFeeMsat)
    "LND base invoice amount did not match the requested amount"
  rejectIf (decoded.paymentHash != paymentHash)
    "LND base invoice payment hash did not match the deterministic session payment hash"
  rejectIf (request.admissionDeadline < decoded.expiresAt)
    "LND base invoice expiry exceeded the deal admission_deadline"
  rejectIf (decoded.destinationIdentity != destinationIdentity)
    "LND base invoice destination did not match the provider identity"
  return decoded

def checkLndSuccessInvoice (minFinalCltvExpiry : ℕ) (invoice : String) :
    Except String DecodedLightningInvoice := do
  let decoded ← decodeLightningInvoice parser invoice
  rejectIf (decoded.amountMsat != request.successFeeMsat)
    "LND success hold invoice amount did not match the requested amount"
  rejectIf (request.admissionDeadline < decoded.expiresAt)
    "LND success hold invoice expiry exceeded the deal admission_deadline"
  rejectIf (decoded.paymentHash != request.successPaymentHash)
    "LND success hold invoice payment hash did not match the deal payment lock"
  rejectIf (decoded.destinationIdentity != destinationIdentity)
    "LND success hold invoice destination did not match the provider identity"
  rejectIf (decoded.minFinalCltvExpiry < minFinalCltvExpiry)
    "LND success hold invoice min_final_cltv_expiry was below the configured floor"
  return decoded

end Issue

def laterStart (createdAt : ℤ) (decoded : DecodedLightningInvoice) (expirySecs : ℕ) : ℤ :=
  max createdAt (saturatingSubI64 decoded.expiresAt expirySecs)

def lndBaseStart (parser : Bolt11Parser) (request : BuildLightningInvoiceBundleRequest)
    (destinationIdentity paymentHash invoice : String) (expirySecs : ℕ) : Except String ℤ :=
  if 0 < request.baseFeeMsat then do
    let decoded ← checkLndBaseInvoice parser request destinationIdentity paymentHash invoice
    return laterStart request.createdAt decoded expirySecs
  else return request.createdAt

section Issue

variable [Monad m] (client : LndClient m)

/-- The base invoice; without a base fee it is a settled mock, whose end is an integer sum within
an `i64`. -/
def lndBaseLeg (request : BuildLightningInvoiceBundleRequest) (baseInvoiceExpirySecs : ℕ)
    (basePaymentHash : String) : m (String × InvoiceBundleLegState) :=
  if request.baseFeeMsat == 0 then
    pure (mockBolt11 "base" request.baseFeeMsat basePaymentHash
      (request.createdAt + baseInvoiceExpirySecs), .settled)
  else do
    let answer ← client.addBaseInvoice basePaymentHash
    let invoice ← orCleanup client [] answer
    return (invoice, .opened)

/-- The issue of a bundle. The sums of a time and a window are taken on integers; they are
those of the source as long as they fit an `i64`. -/
def issueLndRestInvoiceBundle (node : NodeIdentity P) (keyedHmacHex : Bytes → String)
    (config : OfferConfig) (parser : Bolt11Parser) (request : BuildLightningInvoiceBundleRequest) :
    m LightningInvoiceBundleSession := do
  client.ofExcept (rejectIf (!client.configured) "missing lnd_rest configuration")
  let (maxBaseInvoiceExpirySecs, maxSuccessHoldExpirySecs) ←
    client.ofExcept (effectiveBundleExpirySecs config request)
  let baseInvoiceExpirySecs := guardedLndInvoiceExpirySecs maxBaseInvoiceExpirySecs
  let successHoldExpirySecs := guardedLndInvoiceExpirySecs maxSuccessHoldExpirySecs
  let destination ← client.destinationIdentity
  let destinationIdentity ← client.ofExcept destination
  let basePaymentHash ←
    client.ofExcept (deterministicBaseFeePaymentHash P keyedHmacHex request.sessionId)
  let (baseInvoice, baseState) ← lndBaseLeg client request baseInvoiceExpirySecs basePaymentHash
  let baseIssued := if request.baseFeeMsat == 0 then [] else [basePaymentHash]
  let success ← client.addSuccessInvoice request.successPaymentHash
  let successInvoice ← orCleanup client baseIssued success
  let issued := baseIssued ++ [request.successPaymentHash]
  let baseCreatedAt ← orCleanup client issued (lndBaseStart parser request destinationIdentity
    basePaymentHash baseInvoice baseInvoiceExpirySecs)
  let decoded ← orCleanup client issued (checkLndSuccessInvoice parser request
    destinationIdentity config.minFinalCltvExpiry successInvoice)
  let createdAt := laterStart baseCreatedAt decoded successHoldExpirySecs
  client.ofExcept (signLightningInvoiceBundle node { request with createdAt }
    { destinationIdentity, baseInvoiceBolt11 := baseInvoice, basePaymentHash, baseState
      successHoldInvoiceBolt11 := successInvoice, successState := .opened
      expiresAt := max (createdAt + baseInvoiceExpirySecs) (createdAt + successHoldExpirySecs)
      minFinalCltvExpiry := config.minFinalCltvExpiry })

end Issue

/-- What LND answers in one call of the issue, whatever it is asked. -/
structure LndAnswers where
  configured : Bool
  (destination baseInvoice successInvoice : Except String String)
  cancel : String → Except String Unit

def LndAnswers.client (answers : LndAnswers) : LndClient (Except String) where
  configured := answers.configured
  ofExcept := id
  destinationIdentity := .ok answers.destination
  addBaseInvoice _ := .ok answers.baseInvoice
  addSuccessInvoice _ := .ok answers.successInvoice
  cancelInvoice paymentHash := .ok (answers.cancel paymentHash)

variable {answers : LndAnswers}

theorem orCleanup_eq_ok {α : Type} {paymentHashes : List String} {result : Except String α}
    {a : α} : orCleanup answers.client paymentHashes result = .ok a ↔ result = .ok a := by
  cases result with
  | ok _ => exact Iff.rfl
  | error error =>
    refine ⟨fun h => ?_, nofun⟩
    obtain ⟨_, -, h⟩ := bind_eq_ok.mp h
    cases h

/-- The windows the two invoices are asked for, in seconds. -/
def lndWindows (config : OfferConfig) (request : BuildLightningInvoiceBundleRequest) : ℕ × ℕ :=
  let remainingSecs := (request.admissionDeadline - request.createdAt).toNat
  (guardedLndInvoiceExpirySecs (min config.baseInvoiceExpirySecs.val remainingSecs),
    guardedLndInvoiceExpirySecs (min config.successHoldExpirySecs.val remainingSecs))

/-- The invoices are early enough. The bundle starts with the later invoice and lasts for
the longer window, so an invoice with the shorter one has to end before the deadline by as
much as the windows differ. -/
structure InTime (config : OfferConfig) (parser : Bolt11Parser) (answers : LndAnswers)
    (request : BuildLightningInvoiceBundleRequest) : Prop where
  base : 0 < request.baseFeeMsat → ∀ invoice decoded, answers.baseInvoice = .ok invoice →
    decodeLightningInvoice parser invoice = .ok decoded →
    decoded.expiresAt + (max (lndWindows config request).1 (lndWindows config request).2
      - (lndWindows config request).1 : ℕ) ≤ request.admissionDeadline
  success : ∀ invoice decoded, answers.successInvoice = .ok invoice →
    decodeLightningInvoice parser invoice = .ok decoded →
    decoded.expiresAt + (max (lndWindows config request).1 (lndWindows config request).2
      - (lndWindows config request).2 : ℕ) ≤ request.admissionDeadline

section Windows

theorem effectiveBundleExpirySecs_ok
    (h : effectiveBundleExpirySecs config request = .ok (base, success)) :
    request.createdAt < request.admissionDeadline
    ∧ (base : ℤ) = min (config.baseInvoiceExpirySecs.val : ℤ)
        (request.admissionDeadline - request.createdAt)
    ∧ (success : ℤ) = min (config.successHoldExpirySecs.val : ℤ)
        (request.admissionDeadline - request.createdAt) := by
  have hbase := config.baseInvoiceExpirySecs.isLt
  have hsuccess := config.successHoldExpirySecs.isLt
  unfold effectiveBundleExpirySecs saturatingSubI64 i64Max at h
  simp only [check_eq_ok, rejectIf_eq_ok, decide_eq_false_iff_not, pure_eq_ok, Prod.mk.injEq] at h
  obtain ⟨hpos, rfl, rfl⟩ := h
  omega

theorem lndWindows_eq (h : effectiveBundleExpirySecs config request = .ok (base, success)) :
    lndWindows config request
        = (guardedLndInvoiceExpirySecs base, guardedLndInvoiceExpirySecs success)
      ∧ request.createdAt
          + (max (guardedLndInvoiceExpirySecs base) (guardedLndInvoiceExpirySecs success) : ℕ)
        ≤ request.admissionDeadline := by
  obtain ⟨hpos, hbase, hsuccess⟩ := effectiveBundleExpirySecs_ok h
  have hwindow : ∀ window cut : ℕ, (cut : ℤ) = min (window : ℤ)
      (request.admissionDeadline - request.createdAt) →
      min window (request.admissionDeadline - request.createdAt).toNat = cut := by omega
  refine ⟨by simp only [lndWindows, hwindow _ _ hbase, hwindow _ _ hsuccess], ?_⟩
  unfold guardedLndInvoiceExpirySecs
  omega

/-- A bundle that starts with an invoice, but not before `start`, ends by the deadline
exactly if one that starts at `start` does and the invoice ends early enough. -/
theorem laterStart_add_le {deadline : ℤ} (hclock : -2 ^ 63 ≤ start) (hrange : deadline ≤ i64Max)
    (hexpiry : decoded.expiresAt ≤ deadline) (hle : expirySecs ≤ longer) :
    laterStart start decoded expirySecs + longer ≤ deadline ↔ start + longer ≤ deadline
        ∧ decoded.expiresAt + (longer - expirySecs : ℕ) ≤ deadline := by
  unfold laterStart saturatingSubI64
  omega

end Windows

/-! ## What an issued bundle is -/

structure Issued (P : Primitives) (config : OfferConfig) (parser : Bolt11Parser)
    (answers : LndAnswers) (request : BuildLightningInvoiceBundleRequest)
    (issued : IssuedInvoices) : Prop where
  destination : answers.destination = .ok issued.destinationIdentity
  basePaymentHash : ∃ preimage, issued.basePaymentHash = P.sha256Hex preimage
  baseInvoice : isBlank issued.baseInvoiceBolt11 = false
  successInvoice : isBlank issued.successHoldInvoiceBolt11 = false
  baseState : issued.baseState = .opened ∨ request.baseFeeMsat = 0 ∧ issued.baseState = .settled
  successState : issued.successState = .opened
  minFinalCltvExpiry : issued.minFinalCltvExpiry = config.minFinalCltvExpiry
  expiresAt : issued.expiresAt ≤ request.admissionDeadline ↔ InTime config parser answers request

section Issued

variable {node : NodeIdentity P} {keyedHmacHex : Bytes → String}

theorem checkLndBaseInvoice_ok
    (h : checkLndBaseInvoice parser request destinationIdentity paymentHash invoice = .ok decoded) :
    decodeLightningInvoice parser invoice = .ok decoded
      ∧ decoded.expiresAt ≤ request.admissionDeadline := by
  unfold checkLndBaseInvoice at h
  obtain ⟨decoded', hdecoded, h⟩ := bind_eq_ok.mp h
  simp only [check_eq_ok, rejectIf_eq_ok, decide_eq_false_iff_not, not_lt, pure_eq_ok] at h
  obtain ⟨-, -, hexpiry, -, rfl⟩ := h
  exact ⟨hdecoded, hexpiry⟩

theorem checkLndSuccessInvoice_ok {minCltv : ℕ}
    (h : checkLndSuccessInvoice parser request destinationIdentity minCltv invoice = .ok decoded) :
    decodeLightningInvoice parser invoice = .ok decoded
      ∧ decoded.expiresAt ≤ request.admissionDeadline := by
  unfold checkLndSuccessInvoice at h
  obtain ⟨decoded', hdecoded, h⟩ := bind_eq_ok.mp h
  simp only [check_eq_ok, rejectIf_eq_ok, decide_eq_false_iff_not, not_lt, pure_eq_ok] at h
  obtain ⟨-, hexpiry, -, -, -, rfl⟩ := h
  exact ⟨hdecoded, hexpiry⟩

/-- The base leg: an invoice of the node's own for a fee of zero, or the one the wallet
answered; and when the bundle that starts with it ends. -/
theorem lndBase_ok {state : InvoiceBundleLegState} {createdAt : ℤ}
    (hclock : -2 ^ 63 ≤ request.createdAt) (hrange : request.admissionDeadline ≤ i64Max)
    (hle : expirySecs ≤ longer) (hfirst : request.createdAt + longer ≤ request.admissionDeadline)
    (hleg : lndBaseLeg answers.client request expirySecs paymentHash = .ok (invoice, state))
    (hstart : lndBaseStart parser request destinationIdentity paymentHash invoice expirySecs
      = .ok createdAt) :
    isBlank invoice = false ∧ (state = .opened ∨ request.baseFeeMsat = 0 ∧ state = .settled)
    ∧ request.createdAt ≤ createdAt ∧ (createdAt + longer ≤ request.admissionDeadline
      ↔ (0 < request.baseFeeMsat → ∀ invoice decoded, answers.baseInvoice = .ok invoice →
        decodeLightningInvoice parser invoice = .ok decoded →
        decoded.expiresAt + (longer - expirySecs : ℕ) ≤ request.admissionDeadline)) := by
  unfold lndBaseLeg at hleg
  unfold lndBaseStart at hstart
  by_cases hzero : request.baseFeeMsat = 0
  · simp only [hzero, beq_self_eq_true, if_true] at hleg
    simp only [hzero, lt_self_iff_false, if_false, pure_eq_ok] at hstart
    obtain ⟨rfl, rfl⟩ := hleg
    subst hstart
    exact ⟨isBlank_mockBolt11 .., .inr ⟨hzero, rfl⟩, le_rfl, iff_of_true hfirst (by omega)⟩
  · simp only [Nat.pos_of_ne_zero hzero, if_true] at hstart
    obtain ⟨decoded, hchecked, hcreated⟩ := bind_eq_ok.mp hstart
    obtain rfl := Except.ok.inj hcreated
    obtain ⟨hdecoded, hexpiry⟩ := checkLndBaseInvoice_ok hchecked
    simp only [hzero, beq_iff_eq, if_false] at hleg
    obtain ⟨_, ⟨⟩, hleg⟩ := bind_eq_ok.mp hleg
    obtain ⟨_, hanswer, hleg⟩ := bind_eq_ok.mp hleg
    obtain ⟨rfl, hstate⟩ := Prod.mk.inj (Except.ok.inj hleg)
    replace hanswer := orCleanup_eq_ok.mp hanswer
    refine ⟨isBlank_of_decodeLightningInvoice hdecoded, .inl hstate.symm, le_max_left _ _, ?_⟩
    rw [laterStart_add_le hclock hrange hexpiry hle, and_iff_right hfirst]
    refine ⟨fun hend _ invoice' decoded' hanswer' hdecoded' => ?_,
      fun hend => hend (Nat.pos_of_ne_zero hzero) _ _ hanswer hdecoded⟩
    obtain rfl := Except.ok.inj (hanswer.symm.trans hanswer')
    obtain rfl := Except.ok.inj (hdecoded.symm.trans hdecoded')
    exact hend

theorem expiresAt_le_iff_inTime (hwindows : lndWindows config request = (base, success))
    (hclock : -2 ^ 63 ≤ start) (hrange : request.admissionDeadline ≤ i64Max)
    (hbase : start + (max base success : ℕ) ≤ request.admissionDeadline
      ↔ (0 < request.baseFeeMsat → ∀ invoice decoded, answers.baseInvoice = .ok invoice →
        decodeLightningInvoice parser invoice = .ok decoded →
        decoded.expiresAt + (max base success - base : ℕ) ≤ request.admissionDeadline))
    (hinvoice : answers.successInvoice = .ok invoice)
    (hdecoded : decodeLightningInvoice parser invoice = .ok decoded)
    (hexpiry : decoded.expiresAt ≤ request.admissionDeadline) :
    max (laterStart start decoded success + base) (laterStart start decoded success + success)
        ≤ request.admissionDeadline ↔ InTime config parser answers request := by
  have hend : ∀ createdAt : ℤ,
      max (createdAt + base) (createdAt + success) = createdAt + (max base success : ℕ) := by omega
  rw [hend, laterStart_add_le hclock hrange hexpiry (le_max_right _ _), hbase]
  refine ⟨fun ⟨hbase, hsuccess⟩ => ⟨?_, fun invoice' decoded' hinvoice' hdecoded' => ?_⟩,
    fun hin => ⟨?_, ?_⟩⟩
  · rwa [hwindows]
  · obtain rfl := Except.ok.inj (hinvoice.symm.trans hinvoice')
    obtain rfl := Except.ok.inj (hdecoded.symm.trans hdecoded')
    rwa [hwindows]
  · simpa only [hwindows] using hin.base
  · simpa only [hwindows] using hin.success _ _ hinvoice hdecoded

/-- What was signed, after an issue that succeeded. -/
theorem issued_of_issueLndRestInvoiceBundle
    (hclock : -2 ^ 63 ≤ request.createdAt) (hrange : request.admissionDeadline ≤ i64Max)
    (h : issueLndRestInvoiceBundle answers.client node keyedHmacHex config parser request
      = .ok session) :
    ∃ createdAt issued, Issued P config parser answers request issued
      ∧ signLightningInvoiceBundle node { request with createdAt } issued = .ok session := by
  unfold issueLndRestInvoiceBundle at h
  obtain ⟨-, h⟩ := check_eq_ok.mp h
  obtain ⟨⟨maxBase, maxSuccess⟩, hwindows, h⟩ := bind_eq_ok.mp h
  obtain ⟨_, ⟨⟩, h⟩ := bind_eq_ok.mp h
  obtain ⟨destinationIdentity, hdestination, h⟩ := bind_eq_ok.mp h
  obtain ⟨basePaymentHash, hpayment, h⟩ := bind_eq_ok.mp h
  obtain ⟨⟨baseInvoice, baseState⟩, hbaseLeg, h⟩ := bind_eq_ok.mp h
  obtain ⟨_, ⟨⟩, h⟩ := bind_eq_ok.mp h
  obtain ⟨successInvoice, hsuccessInvoice, h⟩ := bind_eq_ok.mp h
  obtain ⟨baseCreatedAt, hbase, h⟩ := bind_eq_ok.mp h
  obtain ⟨decoded, hchecked, h⟩ := bind_eq_ok.mp h
  obtain ⟨preimage, -, hpreimage⟩ := bind_eq_ok.mp hpayment
  obtain ⟨hlnd, hfirst⟩ := lndWindows_eq hwindows
  obtain ⟨hbaseBlank, hbaseState, hle, hbaseEnd⟩ :=
    lndBase_ok hclock hrange (le_max_left _ _) hfirst hbaseLeg (orCleanup_eq_ok.mp hbase)
  obtain ⟨hdecoded, hexpiry⟩ := checkLndSuccessInvoice_ok (orCleanup_eq_ok.mp hchecked)
  have hend := expiresAt_le_iff_inTime hlnd (hclock.trans hle) hrange hbaseEnd
    (orCleanup_eq_ok.mp hsuccessInvoice) hdecoded hexpiry
  refine ⟨_, _, ?_, h⟩
  exact ⟨hdestination, ⟨preimage, (Except.ok.inj hpreimage).symm⟩, hbaseBlank,
    isBlank_of_decodeLightningInvoice hdecoded, hbaseState, rfl, rfl, hend⟩

theorem request_of_materialization (h : dealRequest.materialization dealId rail totalSats now
      = some (.lightningInvoiceBundle request)) :
    rail = some .lightning ∧ request =
      { sessionId := dealId, requesterId := dealRequest.deal.payload.requesterId
        quoteHash := dealRequest.quote.hash, dealHash := dealRequest.deal.hash
        admissionDeadline := dealRequest.deal.payload.admissionDeadline
        successPaymentHash := dealRequest.deal.payload.successPaymentHash
        baseFeeMsat := dealRequest.quote.payload.settlementTerms.baseFeeMsat
        successFeeMsat := dealRequest.quote.payload.settlementTerms.successFeeMsat
        createdAt := now } := by
  unfold CreateDealRequest.materialization at h
  cases rail with
  | none => cases h
  | some method =>
    cases method with
    | lightning => exact ⟨rfl, (MaterializationRequest.lightningInvoiceBundle.inj
        (some.inj h)).symm⟩
    | stripe =>
      obtain ⟨payment, -, hpayment⟩ := map_eq_some_iff.mp h
      cases hpayment
    | lightningPrepaid => cases h

/-- **When an issued bundle is on time and valid.** Whatever the wallet answers and
however long it takes, a bundle that is issued for an admitted deal ends by the
admission deadline and is accepted with the quote and the deal exactly if its invoices
are early enough for the longer window and the node still issues on the quote's terms. -/
theorem issued_bundle_valid_iff (hhex : P.HashesHex) {admission : NodeConfig}
    {otherChecks : Except String Unit} (hclock : FitsI64 now)
    (hdeadline : FitsI64 dealRequest.deal.payload.admissionDeadline)
    (hadmitted : checkDealRequest P node admission dealRequest otherChecks now
      = .ok (rail, totalSats)) (hrequest : dealRequest.materialization dealId rail totalSats now
      = some (.lightningInvoiceBundle request))
    (hissue : issueLndRestInvoiceBundle answers.client node keyedHmacHex config parser request
      = .ok session) :
    session.bundle.payload.expiresAt ≤ dealRequest.deal.payload.admissionDeadline
      ∧ (validateQuoteInvoiceBundleDeal P dealRequest.quote session.bundle dealRequest.deal
          none).valid = true ↔ InTime config parser answers request
      ∧ answers.destination = .ok dealRequest.quote.payload.settlementTerms.destinationIdentity
      ∧ config.minFinalCltvExpiry
        = dealRequest.quote.payload.settlementTerms.minFinalCltvExpiry := by
  obtain ⟨hdeal, hprovider, -, -, hrail, -, -⟩ := checkDealRequest_ok hadmitted
  obtain ⟨rfl, rfl⟩ := request_of_materialization hrequest
  obtain ⟨createdAt, issued, hissued, hsign⟩ :=
    issued_of_issueLndRestInvoiceBundle hclock.1 (Int.le_of_lt_add_one hdeadline.2) hissue
  unfold signLightningInvoiceBundle at hsign
  obtain ⟨bundle, hbundle, hsession⟩ := bind_eq_ok.mp hsign
  obtain rfl := Except.ok.inj hsession
  obtain ⟨hauth, htype, hsigner, hpayload⟩ := authentic_of_signArtifact P node.verifies hbundle
  obtain ⟨preimage, hpreimage⟩ := hissued.basePaymentHash
  obtain ⟨_, _, _, _, _, _, payload, _⟩ := bundle
  obtain rfl : payload = _ := hpayload
  constructor
  · rintro ⟨hexpiry, hvalid⟩
    obtain ⟨-, -, -, -, -, hlinked⟩ := (valid_validateQuoteInvoiceBundleDeal P).mp hvalid
    exact ⟨hissued.expiresAt.mp hexpiry,
      hissued.destination.trans (congrArg _ hlinked.destinationIdentity),
      hissued.minFinalCltvExpiry.symm.trans hlinked.minFinalCltvExpiry⟩
  · rintro ⟨hin, hdestination, hcltv⟩
    have hexpiry := hissued.expiresAt.mpr hin
    refine ⟨hexpiry, bundle_valid hhex hdeal htype hauth hsigner ?_ ?_ hissued.baseInvoice
      hissued.successInvoice⟩
    · exact
        { method := (admission.rail_method hrail.symm).2, providerId := hprovider.symm
          dealProviderId := hprovider.symm.trans hdeal.linked.providerId.symm
          requesterId := hdeal.linked.requesterId, dealRequesterId := rfl
          quoteHash := rfl, dealHash := rfl
          destinationIdentity := Except.ok.inj (hissued.destination.symm.trans hdestination)
          baseFeeMsat := rfl, successFeeMsat := rfl, successPaymentHash := rfl
          minFinalCltvExpiry := hissued.minFinalCltvExpiry.trans hcltv
          quoteExpiry := hexpiry.trans hdeal.linked.admissionDeadline
          dealExpiry := hexpiry, baseInvoiceHash := rfl, successInvoiceHash := rfl }
    · exact
        { basePaymentHash := hpreimage ▸ hhex preimage
          successState := hissued.successState, baseState := hissued.baseState }

end Issued

/-! ## A wallet that takes six seconds -/

def sampleHoldRequest : CreateDealRequest :=
  { quote := sampleHoldQuote, deal := sampleHoldDeal none, idempotencyKey := none
    payment := none
    spec := sampleSpec }

def sampleInvoiceRequest : BuildLightningInvoiceBundleRequest :=
  { sessionId := "d", requesterId := "r", quoteHash := sampleHash, dealHash := sampleHash
    admissionDeadline := 100, successPaymentHash := sampleHash, baseFeeMsat := 0
    successFeeMsat := 1000, createdAt := 0 }

def sampleHexNode : NodeIdentity sampleHexPrimitives :=
  { nodeId := "p", signMessageHex := fun _ => "sig", verifies := fun _ => rfl }

def sampleLndConfig (baseInvoiceExpirySecs : Fin 3601) : OfferConfig :=
  { paymentBackends := [.lightning], lightningMode := .lndRest, drivers := [.lightning]
    requirePayment := false, executionTimeoutSecs := 1, baseInvoiceExpirySecs
    successHoldExpirySecs := 60, minFinalCltvExpiry := 18 }

def sampleLndAnswers : LndAnswers :=
  { configured := true, destination := .ok samplePayee, baseInvoice := .error ""
    successInvoice := .ok "lnbc", cancel := fun _ => .ok () }

def sampleIssue (baseInvoiceExpirySecs : Fin 3601) : Except String LightningInvoiceBundleSession :=
  issueLndRestInvoiceBundle sampleLndAnswers.client sampleHexNode (fun _ => "aa")
    (sampleLndConfig baseInvoiceExpirySecs) (sampleBolt11Parser 61) sampleInvoiceRequest

theorem sampleInvoiceRequest_admitted :
    checkDealRequest sampleHexPrimitives sampleHexNode (sampleLndConfig 60).toNodeConfig
        sampleHoldRequest (.ok ()) 0 = .ok (some .lightning, 1)
    ∧ sampleHoldRequest.materialization "d" (some .lightning) 1 0
      = some (.lightningInvoiceBundle sampleInvoiceRequest) := by
  decide +kernel

theorem issued_bundle_valid_same_window :
    ∃ session, sampleIssue 60 = .ok session ∧ session.bundle.payload.expiresAt ≤ 100
      ∧ (validateQuoteInvoiceBundleDeal sampleHexPrimitives sampleHoldQuote session.bundle
          (sampleHoldDeal none) none).valid = true := by
  have hissue : (sampleIssue 60).isOk = true := by decide +kernel
  cases hsession : sampleIssue 60 with
  | error error => exact absurd (hsession ▸ hissue) (by simp [Except.isOk, Except.toBool])
  | ok session =>
    refine ⟨session, rfl, (issued_bundle_valid_iff hashesHex_sample (by unfold FitsI64; decide)
      (by unfold FitsI64; decide) sampleInvoiceRequest_admitted.1 sampleInvoiceRequest_admitted.2
      hsession).mpr ⟨⟨nofun, fun invoice decoded hinvoice hdecoded => ?_⟩, rfl, rfl⟩⟩
    obtain rfl := Except.ok.inj hinvoice
    have hanswer : decodeLightningInvoice (sampleBolt11Parser 61) "lnbc"
        = .ok
          { amountMsat := 1000, paymentHash := sampleHash, expiresAt := 61, expirySecs := some 55
            destinationIdentity := samplePayee, network := some .regtest
            minFinalCltvExpiry := 18 } := by
      decide +kernel
    obtain rfl := Except.ok.inj (hanswer.symm.trans hdecoded)
    decide

/-- **With windows of 3600 and 60 seconds the bundle outlives its deadline**: it
starts when the hold invoice did and lasts as long as the base invoice might. -/
theorem issued_bundle_past_deadline : (sampleIssue 3600).toOption.map (fun session =>
        (session.bundle.payload.expiresAt,
          (validateQuoteInvoiceBundleDeal sampleHexPrimitives sampleHoldQuote session.bundle
            (sampleHoldDeal none) none).valid)) = some (101, false)
    ∧ (sampleHoldDeal none).payload.admissionDeadline = 100
    ∧ checkDealRequest sampleHexPrimitives sampleHexNode (sampleLndConfig 3600).toNodeConfig
        sampleHoldRequest (.ok ()) 0 = .ok (some .lightning, 1)
    ∧ sampleHoldRequest.materialization "d" (some .lightning) 1 0
      = some (.lightningInvoiceBundle sampleInvoiceRequest) :=
  ⟨by decide +kernel, rfl, sampleInvoiceRequest_admitted⟩

end Froglet
