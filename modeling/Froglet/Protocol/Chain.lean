import Froglet.Protocol.Kernel
import Mathlib.Tactic.MkIffOfInductiveProp

/-!
# Validating a chain of artifacts

The pairwise validators check that the artifacts of one deal belong together: each
re-verifies the envelopes and payloads it reads and then compares the fields that link
them.
-/

namespace Froglet

variable {q : SignedQuote} {d : SignedDeal} {now : Option ℤ}
variable {b : SignedInvoiceBundle} {r : SignedReceipt}
variable {o : SignedOffer}
variable {code artifactType : String}

/-! ## Reports -/

def issueArtifactTypeMismatch : String := "artifact_type_mismatch"
def issueArtifactEnvelopeInvalid : String := "artifact_envelope_invalid"
def issueArtifactSemanticInvalid : String := "artifact_semantic_invalid"
def issueArtifactExpired : String := "artifact_expired"
def issueProviderMismatch : String := "provider_mismatch"
def issueRequesterMismatch : String := "requester_mismatch"
def issueDescriptorHashMismatch : String := "descriptor_hash_mismatch"
def issueOfferHashMismatch : String := "offer_hash_mismatch"
def issueQuoteHashMismatch : String := "quote_hash_mismatch"
def issueDealHashMismatch : String := "deal_hash_mismatch"
def issueWorkloadKindMismatch : String := "workload_kind_mismatch"
def issueWorkloadHashMismatch : String := "workload_hash_mismatch"
def issueConfidentialSessionHashMismatch : String := "confidential_session_hash_mismatch"
def issueQuoteExpiryExceedsOffer : String := "quote_expiry_exceeds_offer"
def issueSettlementMethodMismatch : String := "settlement_method_mismatch"
def issueSettlementTermsMismatch : String := "settlement_terms_mismatch"
def issueExecutionLimitsExceedOffer : String := "execution_limits_exceed_offer"
def issueDeadlineOrderInvalid : String := "deadline_order_invalid"
def issueDeadlineExceedsQuote : String := "deadline_exceeds_quote"
def issueInvoiceBundleForNonLightning : String := "invoice_bundle_for_non_lightning_method"
def issueInvoiceAmountMismatch : String := "invoice_amount_mismatch"
def issueInvoiceDestinationMismatch : String := "invoice_destination_mismatch"
def issueInvoiceSuccessPaymentHashMismatch : String := "invoice_success_payment_hash_mismatch"
def issueInvoiceMinCltvMismatch : String := "invoice_min_cltv_mismatch"
def issueInvoiceHashMismatch : String := "invoice_hash_mismatch"
def issueInvoiceExpiryExceedsDeal : String := "invoice_expiry_exceeds_deal"
def issueInvoiceBundleRequiredForLightning : String :=
  "invoice_bundle_required_for_lightning_method"
def issueReceiptBundleHashMismatch : String := "receipt_bundle_hash_mismatch"
def issueInvoicePaymentHashMismatch : String := "invoice_payment_hash_mismatch"
def issueInvoiceStateMismatch : String := "invoice_state_mismatch"

inductive ChainPath where
  | descriptorOffer
  | offerQuote
  | quoteDeal
  | quoteInvoiceBundleDeal
  | quoteDealReceipt

structure ChainValidationIssue where
  (code artifactType message : String)

structure ChainValidationReport where
  path : ChainPath
  valid : Bool
  (issues warnings : List ChainValidationIssue)

namespace ChainValidationReport

variable {report : ChainValidationReport}

def new (path : ChainPath) : ChainValidationReport :=
  { path, valid := true, issues := [], warnings := [] }

def pushIssue (code artifactType message : String) (report : ChainValidationReport) :
    ChainValidationReport :=
  { report with
    valid := false
    issues := report.issues ++ [{ code, artifactType, message }] }

def pushIf (bad : Bool) (code artifactType message : String) (report : ChainValidationReport) :
    ChainValidationReport :=
  if bad then report.pushIssue code artifactType message else report

def pushError (check : Except String Unit) (code artifactType : String)
    (report : ChainValidationReport) : ChainValidationReport :=
  match check with
  | .ok _ => report
  | .error message => report.pushIssue code artifactType message

@[simp] theorem valid_new (path : ChainPath) : (new path).valid = true := rfl

@[simp] theorem valid_pushIssue (code artifactType message : String)
    (report : ChainValidationReport) :
    (report.pushIssue code artifactType message).valid = false := rfl

@[simp] theorem valid_pushIf {bad : Bool} {message : String} :
    (report.pushIf bad code artifactType message).valid = true
      ↔ report.valid = true ∧ bad = false := by
  cases bad <;> simp [pushIf]

@[simp] theorem valid_pushError {check : Except String Unit} :
    (report.pushError check code artifactType).valid = true
      ↔ report.valid = true ∧ check = .ok () := by
  cases check <;> simp [pushError]

end ChainValidationReport

open ChainValidationReport

variable (P : Primitives)

/-! ## Envelopes and payloads -/

def verifyCommonArtifact {T : Type} [Serialize T] (artifact : SignedArtifact T)
    (expectedArtifactType : String) (report : ChainValidationReport) : ChainValidationReport :=
  let got := artifact.artifactType
  report
    |>.pushIf (artifact.artifactType != expectedArtifactType) issueArtifactTypeMismatch
        expectedArtifactType s!"expected artifact_type {expectedArtifactType}, got {got}"
    |>.pushIf (!verifyArtifact P artifact) issueArtifactEnvelopeInvalid expectedArtifactType
        "artifact envelope hash, payload hash, schema version, or signature is invalid"

@[simp] theorem valid_verifyCommonArtifact {T : Type} [Serialize T] {a : SignedArtifact T}
    {expected : String} : (verifyCommonArtifact P a expected report).valid = true
      ↔ report.valid = true ∧ a.artifactType = expected ∧ Authentic P a := by
  simp only [verifyCommonArtifact, valid_pushIf, bne_eq_false_iff_eq,
    Bool.not_eq_false', verifyArtifact_iff, and_assoc]

def isPast (now : Option ℤ) (expiresAt : ℤ) : Bool := now.any (expiresAt < ·)

def NotPast (now : Option ℤ) (expiresAt : ℤ) : Prop := ∀ t ∈ now, t ≤ expiresAt

@[simp] theorem isPast_eq_false {expiresAt : ℤ} :
    isPast now expiresAt = false ↔ NotPast now expiresAt := by
  cases now <;> simp [isPast, NotPast]

@[simp] theorem any_isPast_eq_false {now expiresAt : Option ℤ} :
    expiresAt.any (isPast now) = false ↔ ∀ t ∈ expiresAt, NotPast now t := by
  cases expiresAt <;> simp

def validateDescriptorSemantics (descriptor : SignedDescriptor)
    (now : Option ℤ) (report : ChainValidationReport) : ChainValidationReport :=
  report
    |>.pushError (validateDescriptorArtifact P descriptor) issueArtifactSemanticInvalid
        artifactTypeDescriptor
    |>.pushIf (descriptor.payload.expiresAt.any (isPast now)) issueArtifactExpired
        artifactTypeDescriptor "descriptor expires_at is earlier than now"

def validateOfferSettlement (offer : SignedOffer) (report : ChainValidationReport) :
    ChainValidationReport :=
  let feesAreZero := offer.payload.priceSchedule.baseFeeMsat == 0
    && offer.payload.priceSchedule.successFeeMsat == 0
  if feesAreZero && offer.payload.settlementMethod != settlementMethodNone then
    report.pushIssue issueArtifactSemanticInvalid artifactTypeOffer
      "zero-fee offers must use settlement_method none"
  else
    report.pushIf (!feesAreZero && !isKnownPaidSettlementMethod offer.payload.settlementMethod)
      issueArtifactSemanticInvalid artifactTypeOffer
      "paid offers must use a known paid settlement method"

def validateOfferSemantics (offer : SignedOffer) (now : Option ℤ) (report : ChainValidationReport) :
    ChainValidationReport :=
  (validateOfferSettlement offer
    (report.pushError (validateOfferArtifact offer) issueArtifactSemanticInvalid artifactTypeOffer))
    |>.pushIf (offer.payload.expiresAt.any (isPast now)) issueArtifactExpired
        artifactTypeOffer "offer expires_at is earlier than now"

def validateQuoteSemantics (quote : SignedQuote) (now : Option ℤ) (report : ChainValidationReport) :
    ChainValidationReport :=
  report
    |>.pushError (validateQuoteArtifact quote) issueArtifactSemanticInvalid artifactTypeQuote
    |>.pushIf (isPast now quote.payload.expiresAt) issueArtifactExpired artifactTypeQuote
        "quote expires_at is earlier than now"

def validateDealSemantics (deal : SignedDeal) (report : ChainValidationReport) :
    ChainValidationReport :=
  report.pushError (validateDealArtifact deal) issueArtifactSemanticInvalid artifactTypeDeal

def validateInvoiceBundleSemantics (bundle : SignedInvoiceBundle)
    (now : Option ℤ) (report : ChainValidationReport) : ChainValidationReport :=
  report
    |>.pushError (validateInvoiceBundleArtifact P bundle) issueArtifactSemanticInvalid
        transportTypeInvoiceBundle
    |>.pushIf (isPast now bundle.payload.expiresAt) issueArtifactExpired
        transportTypeInvoiceBundle "invoice_bundle expires_at is earlier than now"

def validateReceiptSemantics (receipt : SignedReceipt) (report : ChainValidationReport) :
    ChainValidationReport :=
  report.pushError (validateReceiptArtifact P receipt) issueArtifactSemanticInvalid
    artifactTypeReceipt

def OfferSettled (o : OfferPayload) : Prop :=
  (o.settlementMethod = settlementMethodNone
    ↔ o.priceSchedule.baseFeeMsat = 0 ∧ o.priceSchedule.successFeeMsat = 0)
  ∧ (o.settlementMethod ≠ settlementMethodNone →
      isKnownPaidSettlementMethod o.settlementMethod = true)

theorem valid_validateOfferSettlement : (validateOfferSettlement o report).valid = true
      ↔ report.valid = true ∧ OfferSettled o.payload := by
  have hnone := isKnownPaidSettlementMethod_none
  have hfees : ((o.payload.priceSchedule.baseFeeMsat == 0
        && o.payload.priceSchedule.successFeeMsat == 0) = true)
      ↔ o.payload.priceSchedule.baseFeeMsat = 0
        ∧ o.payload.priceSchedule.successFeeMsat = 0 := by simp
  unfold validateOfferSettlement OfferSettled
  dsimp only
  rw [← hfees]
  by_cases hm : o.payload.settlementMethod = settlementMethodNone
  · cases hz : (o.payload.priceSchedule.baseFeeMsat == 0
        && o.payload.priceSchedule.successFeeMsat == 0) <;> simp [hm, hnone]
  · cases hz : (o.payload.priceSchedule.baseFeeMsat == 0
        && o.payload.priceSchedule.successFeeMsat == 0) <;> simp [hm]

@[simp] theorem valid_validateDescriptorSemantics {d : SignedDescriptor} :
    (validateDescriptorSemantics P d now report).valid = true
      ↔ report.valid = true ∧ validateDescriptorArtifact P d = .ok ()
        ∧ ∀ t ∈ d.payload.expiresAt, NotPast now t := by
  simp only [validateDescriptorSemantics, valid_pushIf,
    valid_pushError, any_isPast_eq_false, and_assoc]

@[simp] theorem valid_validateOfferSemantics : (validateOfferSemantics o now report).valid = true
      ↔ report.valid = true ∧ validateOfferArtifact o = .ok () ∧ OfferSettled o.payload
        ∧ ∀ t ∈ o.payload.expiresAt, NotPast now t := by
  simp only [validateOfferSemantics, valid_pushIf, valid_validateOfferSettlement, valid_pushError,
    any_isPast_eq_false, and_assoc]

@[simp] theorem valid_validateQuoteSemantics : (validateQuoteSemantics q now report).valid = true
      ↔ report.valid = true ∧ validateQuoteArtifact q = .ok ()
        ∧ NotPast now q.payload.expiresAt := by
  simp [validateQuoteSemantics, and_assoc]

@[simp] theorem valid_validateDealSemantics : (validateDealSemantics d report).valid = true
      ↔ report.valid = true ∧ validateDealArtifact d = .ok () := by
  simp [validateDealSemantics]

@[simp] theorem valid_validateInvoiceBundleSemantics :
    (validateInvoiceBundleSemantics P b now report).valid = true
      ↔ report.valid = true ∧ validateInvoiceBundleArtifact P b = .ok ()
        ∧ NotPast now b.payload.expiresAt := by
  simp [validateInvoiceBundleSemantics, and_assoc]

@[simp] theorem valid_validateReceiptSemantics : (validateReceiptSemantics P r report).valid = true
      ↔ report.valid = true ∧ validateReceiptArtifact P r = .ok () := by
  simp [validateReceiptSemantics]

/-! ## Links between artifacts -/

def limitsWithin (limits bound : ExecutionLimits) : Bool :=
  limits.maxInputBytes ≤ bound.maxInputBytes && limits.maxRuntimeMs ≤ bound.maxRuntimeMs
    && limits.maxMemoryBytes ≤ bound.maxMemoryBytes
    && limits.maxOutputBytes ≤ bound.maxOutputBytes && limits.fuelLimit ≤ bound.fuelLimit

theorem limitsWithin_refl (limits : ExecutionLimits) : limitsWithin limits limits = true := by
  simp [limitsWithin]

def OfferExecutionProfile.limits (profile : OfferExecutionProfile) : ExecutionLimits :=
  { maxInputBytes := profile.maxInputBytes, maxRuntimeMs := profile.maxRuntimeMs
    maxMemoryBytes := profile.maxMemoryBytes, maxOutputBytes := profile.maxOutputBytes
    fuelLimit := profile.fuelLimit }

def limitsWithinOffer (limits : ExecutionLimits) (offer : SignedOffer) : Bool :=
  limitsWithin limits offer.payload.executionProfile.limits

def limitsWithinQuote (limits : ExecutionLimits) (quote : SignedQuote) : Bool :=
  limitsWithin limits quote.payload.executionLimits

def validateOfferQuoteLinks (offer : SignedOffer) (quote : SignedQuote)
    (report : ChainValidationReport) : ChainValidationReport :=
  report
    |>.pushIf (quote.payload.providerId != offer.payload.providerId) issueProviderMismatch
        artifactTypeQuote "quote provider_id must match offer provider_id"
    |>.pushIf (quote.payload.descriptorHash != offer.payload.descriptorHash)
        issueDescriptorHashMismatch artifactTypeQuote
        "quote descriptor_hash must match offer descriptor_hash"
    |>.pushIf (quote.payload.offerHash != offer.hash) issueOfferHashMismatch artifactTypeQuote
        "quote offer_hash must match offer hash"
    |>.pushIf (offer.payload.expiresAt.any (· < quote.payload.expiresAt))
        issueQuoteExpiryExceedsOffer artifactTypeQuote
        "quote expires_at must not exceed offer expires_at"
    |>.pushIf (quote.payload.workloadKind != offer.payload.offerKind)
        issueWorkloadKindMismatch artifactTypeQuote
        "quote workload_kind must match offer offer_kind"
    |>.pushIf (quote.payload.settlementTerms.method != offer.payload.settlementMethod)
        issueSettlementMethodMismatch artifactTypeQuote
        "quote settlement_terms.method must match offer settlement_method"
    |>.pushIf
        (quote.payload.settlementTerms.baseFeeMsat != offer.payload.priceSchedule.baseFeeMsat
          || quote.payload.settlementTerms.successFeeMsat
            != offer.payload.priceSchedule.successFeeMsat)
        issueSettlementTermsMismatch artifactTypeQuote
        "quote settlement fee amounts must match offer price_schedule"
    |>.pushIf (!limitsWithinOffer quote.payload.executionLimits offer)
        issueExecutionLimitsExceedOffer artifactTypeQuote
        "quote execution_limits must not exceed offer execution_profile maxima"

@[mk_iff] structure OfferQuoteLinked (o : SignedOffer) (q : SignedQuote) : Prop where
  providerId : q.payload.providerId = o.payload.providerId
  descriptorHash : q.payload.descriptorHash = o.payload.descriptorHash
  offerHash : q.payload.offerHash = o.hash
  expiresAt : ∀ t ∈ o.payload.expiresAt, q.payload.expiresAt ≤ t
  workloadKind : q.payload.workloadKind = o.payload.offerKind
  method : q.payload.settlementTerms.method = o.payload.settlementMethod
  baseFeeMsat : q.payload.settlementTerms.baseFeeMsat = o.payload.priceSchedule.baseFeeMsat
  successFeeMsat :
    q.payload.settlementTerms.successFeeMsat = o.payload.priceSchedule.successFeeMsat
  limits : limitsWithinOffer q.payload.executionLimits o = true

@[simp] theorem valid_validateOfferQuoteLinks : (validateOfferQuoteLinks o q report).valid = true
      ↔ report.valid = true ∧ OfferQuoteLinked o q := by
  have hexp : o.payload.expiresAt.any (· < q.payload.expiresAt) = false
      ↔ ∀ t ∈ o.payload.expiresAt, q.payload.expiresAt ≤ t := by
    cases o.payload.expiresAt <;> simp
  simp only [validateOfferQuoteLinks, valid_pushIf, bne_eq_false_iff_eq,
    Bool.or_eq_false_iff, Bool.not_eq_false', hexp, and_assoc, offerQuoteLinked_iff]

def validateQuoteDealLinks (quote : SignedQuote) (deal : SignedDeal)
    (report : ChainValidationReport) : ChainValidationReport :=
  report
    |>.pushIf (deal.payload.providerId != quote.payload.providerId) issueProviderMismatch
        artifactTypeDeal "deal provider_id must match quote provider_id"
    |>.pushIf (deal.payload.requesterId != quote.payload.requesterId) issueRequesterMismatch
        artifactTypeDeal "deal requester_id must match quote requester_id"
    |>.pushIf (deal.payload.quoteHash != quote.hash) issueQuoteHashMismatch artifactTypeDeal
        "deal quote_hash must match quote hash"
    |>.pushIf (deal.payload.workloadHash != quote.payload.workloadHash)
        issueWorkloadHashMismatch artifactTypeDeal
        "deal workload_hash must match quote workload_hash"
    |>.pushIf (deal.payload.confidentialSessionHash != quote.payload.confidentialSessionHash)
        issueConfidentialSessionHashMismatch artifactTypeDeal
        "deal confidential_session_hash must match quote confidential_session_hash"
    |>.pushIf (quote.payload.expiresAt < deal.payload.admissionDeadline)
        issueDeadlineExceedsQuote artifactTypeDeal
        "deal admission_deadline must not exceed quote expires_at"
    |>.pushIf (deal.payload.completionDeadline ≤ deal.payload.admissionDeadline
          || deal.payload.acceptanceDeadline < deal.payload.completionDeadline)
        issueDeadlineOrderInvalid artifactTypeDeal
        "deal deadlines must satisfy admission < completion <= acceptance"

@[mk_iff] structure QuoteDealLinked (q : SignedQuote) (d : SignedDeal) : Prop where
  providerId : d.payload.providerId = q.payload.providerId
  requesterId : d.payload.requesterId = q.payload.requesterId
  quoteHash : d.payload.quoteHash = q.hash
  workloadHash : d.payload.workloadHash = q.payload.workloadHash
  confidentialSessionHash :
    d.payload.confidentialSessionHash = q.payload.confidentialSessionHash
  admissionDeadline : d.payload.admissionDeadline ≤ q.payload.expiresAt
  completionDeadline : d.payload.admissionDeadline < d.payload.completionDeadline
  acceptanceDeadline : d.payload.completionDeadline ≤ d.payload.acceptanceDeadline

@[simp] theorem valid_validateQuoteDealLinks : (validateQuoteDealLinks q d report).valid = true
      ↔ report.valid = true ∧ QuoteDealLinked q d := by
  simp only [validateQuoteDealLinks, valid_pushIf, bne_eq_false_iff_eq, Bool.or_eq_false_iff,
    decide_eq_false_iff_not, Int.not_lt, Int.not_le, and_assoc, quoteDealLinked_iff]

def validateInvoiceLegHashLink (leg : InvoiceBundleLeg) (report : ChainValidationReport) :
    ChainValidationReport :=
  report.pushIf (leg.invoiceHash != P.sha256Hex (textBytes leg.invoiceBolt11))
    issueInvoiceHashMismatch transportTypeInvoiceBundle
    "invoice leg invoice_hash must equal SHA256(invoice_bolt11)"

def validateInvoiceBundleLinks (quote : SignedQuote) (bundle : SignedInvoiceBundle)
    (deal : SignedDeal) (report : ChainValidationReport) : ChainValidationReport :=
  report
    |>.pushIf (quote.payload.settlementTerms.method != settlementMethodLightningEscrow)
        issueInvoiceBundleForNonLightning transportTypeInvoiceBundle
        "invoice_bundle is only valid for lightning.base_fee_plus_success_fee.v1 quotes"
    |>.pushIf (bundle.payload.providerId != quote.payload.providerId
          || bundle.payload.providerId != deal.payload.providerId)
        issueProviderMismatch transportTypeInvoiceBundle
        "invoice_bundle provider_id must match quote and deal provider_id"
    |>.pushIf (bundle.payload.requesterId != quote.payload.requesterId
          || bundle.payload.requesterId != deal.payload.requesterId)
        issueRequesterMismatch transportTypeInvoiceBundle
        "invoice_bundle requester_id must match quote and deal requester_id"
    |>.pushIf (bundle.payload.quoteHash != quote.hash) issueQuoteHashMismatch
        transportTypeInvoiceBundle "invoice_bundle quote_hash must match quote hash"
    |>.pushIf (bundle.payload.dealHash != deal.hash) issueDealHashMismatch
        transportTypeInvoiceBundle "invoice_bundle deal_hash must match deal hash"
    |>.pushIf (bundle.payload.destinationIdentity
          != quote.payload.settlementTerms.destinationIdentity)
        issueInvoiceDestinationMismatch transportTypeInvoiceBundle
        "invoice_bundle destination_identity must match quote settlement terms"
    |>.pushIf (bundle.payload.baseFee.amountMsat != quote.payload.settlementTerms.baseFeeMsat
          || bundle.payload.successFee.amountMsat
            != quote.payload.settlementTerms.successFeeMsat)
        issueInvoiceAmountMismatch transportTypeInvoiceBundle
        "invoice_bundle fee amounts must match quote settlement terms"
    |>.pushIf (bundle.payload.successFee.paymentHash != deal.payload.successPaymentHash)
        issueInvoiceSuccessPaymentHashMismatch transportTypeInvoiceBundle
        "invoice_bundle success_fee.payment_hash must match deal success_payment_hash"
    |>.pushIf (bundle.payload.minFinalCltvExpiry
          != quote.payload.settlementTerms.minFinalCltvExpiry)
        issueInvoiceMinCltvMismatch transportTypeInvoiceBundle
        "invoice_bundle min_final_cltv_expiry must match quote settlement terms"
    |>.pushIf (quote.payload.expiresAt < bundle.payload.expiresAt) issueDeadlineExceedsQuote
        transportTypeInvoiceBundle
        "invoice_bundle expires_at must not exceed quote expires_at"
    |>.pushIf (deal.payload.admissionDeadline < bundle.payload.expiresAt)
        issueInvoiceExpiryExceedsDeal transportTypeInvoiceBundle
        "invoice_bundle expires_at must not exceed deal admission_deadline"
    |> validateInvoiceLegHashLink P bundle.payload.baseFee
    |> validateInvoiceLegHashLink P bundle.payload.successFee

@[mk_iff] structure InvoiceBundleLinked (q : SignedQuote)
    (b : SignedInvoiceBundle) (d : SignedDeal) : Prop where
  method : q.payload.settlementTerms.method = settlementMethodLightningEscrow
  providerId : b.payload.providerId = q.payload.providerId
  dealProviderId : b.payload.providerId = d.payload.providerId
  requesterId : b.payload.requesterId = q.payload.requesterId
  dealRequesterId : b.payload.requesterId = d.payload.requesterId
  quoteHash : b.payload.quoteHash = q.hash
  dealHash : b.payload.dealHash = d.hash
  destinationIdentity :
    b.payload.destinationIdentity = q.payload.settlementTerms.destinationIdentity
  baseFeeMsat : b.payload.baseFee.amountMsat = q.payload.settlementTerms.baseFeeMsat
  successFeeMsat : b.payload.successFee.amountMsat = q.payload.settlementTerms.successFeeMsat
  successPaymentHash : b.payload.successFee.paymentHash = d.payload.successPaymentHash
  minFinalCltvExpiry :
    b.payload.minFinalCltvExpiry = q.payload.settlementTerms.minFinalCltvExpiry
  quoteExpiry : b.payload.expiresAt ≤ q.payload.expiresAt
  dealExpiry : b.payload.expiresAt ≤ d.payload.admissionDeadline
  baseInvoiceHash :
    b.payload.baseFee.invoiceHash = P.sha256Hex (textBytes b.payload.baseFee.invoiceBolt11)
  successInvoiceHash : b.payload.successFee.invoiceHash
    = P.sha256Hex (textBytes b.payload.successFee.invoiceBolt11)

@[simp] theorem valid_validateInvoiceBundleLinks :
    (validateInvoiceBundleLinks P q b d report).valid = true
      ↔ report.valid = true ∧ InvoiceBundleLinked P q b d := by
  simp only [validateInvoiceBundleLinks, validateInvoiceLegHashLink,
    valid_pushIf, bne_eq_false_iff_eq, Bool.or_eq_false_iff,
    decide_eq_false_iff_not, Int.not_lt, and_assoc, invoiceBundleLinked_iff]

def validateReceiptLinks (quote : SignedQuote) (deal : SignedDeal) (receipt : SignedReceipt)
    (report : ChainValidationReport) : ChainValidationReport :=
  report
    |>.pushIf (receipt.payload.providerId != quote.payload.providerId
          || receipt.payload.providerId != deal.payload.providerId)
        issueProviderMismatch artifactTypeReceipt
        "receipt provider_id must match quote and deal provider_id"
    |>.pushIf (receipt.payload.requesterId != quote.payload.requesterId
          || receipt.payload.requesterId != deal.payload.requesterId)
        issueRequesterMismatch artifactTypeReceipt
        "receipt requester_id must match quote and deal requester_id"
    |>.pushIf (receipt.payload.quoteHash != quote.hash
          || receipt.payload.quoteHash != deal.payload.quoteHash)
        issueQuoteHashMismatch artifactTypeReceipt
        "receipt quote_hash must match quote hash and deal quote_hash"
    |>.pushIf (receipt.payload.dealHash != deal.hash) issueDealHashMismatch artifactTypeReceipt
        "receipt deal_hash must match deal hash"
    |>.pushIf (receipt.payload.confidentialSessionHash != quote.payload.confidentialSessionHash
          || receipt.payload.confidentialSessionHash != deal.payload.confidentialSessionHash)
        issueConfidentialSessionHashMismatch artifactTypeReceipt
        ("receipt confidential_session_hash must match quote and deal "
          ++ "confidential_session_hash")
    |>.pushIf (receipt.payload.settlementRefs.method != quote.payload.settlementTerms.method)
        issueSettlementMethodMismatch artifactTypeReceipt
        "receipt settlement_refs.method must match quote settlement terms"
    |>.pushIf (receipt.payload.settlementRefs.baseFee.amountMsat
            != quote.payload.settlementTerms.baseFeeMsat
          || receipt.payload.settlementRefs.successFee.amountMsat
            != quote.payload.settlementTerms.successFeeMsat)
        issueSettlementTermsMismatch artifactTypeReceipt
        "receipt settlement fee amounts must match quote settlement terms"
    |>.pushIf (receipt.payload.settlementRefs.destinationIdentity
          != quote.payload.settlementTerms.destinationIdentity)
        issueInvoiceDestinationMismatch artifactTypeReceipt
        "receipt destination_identity must match quote settlement terms"
    |>.pushIf (!limitsWithinQuote receipt.payload.limitsApplied quote)
        issueExecutionLimitsExceedOffer artifactTypeReceipt
        "receipt limits_applied must not exceed quote execution_limits"

@[mk_iff] structure ReceiptLinked (q : SignedQuote) (d : SignedDeal) (r : SignedReceipt) :
    Prop where
  providerId : r.payload.providerId = q.payload.providerId
  dealProviderId : r.payload.providerId = d.payload.providerId
  requesterId : r.payload.requesterId = q.payload.requesterId
  dealRequesterId : r.payload.requesterId = d.payload.requesterId
  quoteHash : r.payload.quoteHash = q.hash
  dealQuoteHash : r.payload.quoteHash = d.payload.quoteHash
  dealHash : r.payload.dealHash = d.hash
  confidentialSessionHash :
    r.payload.confidentialSessionHash = q.payload.confidentialSessionHash
  dealConfidentialSessionHash :
    r.payload.confidentialSessionHash = d.payload.confidentialSessionHash
  method : r.payload.settlementRefs.method = q.payload.settlementTerms.method
  baseFeeMsat :
    r.payload.settlementRefs.baseFee.amountMsat = q.payload.settlementTerms.baseFeeMsat
  successFeeMsat :
    r.payload.settlementRefs.successFee.amountMsat = q.payload.settlementTerms.successFeeMsat
  destinationIdentity : r.payload.settlementRefs.destinationIdentity
    = q.payload.settlementTerms.destinationIdentity
  limits : limitsWithinQuote r.payload.limitsApplied q = true

@[simp] theorem valid_validateReceiptLinks : (validateReceiptLinks q d r report).valid = true
      ↔ report.valid = true ∧ ReceiptLinked q d r := by
  simp only [validateReceiptLinks, valid_pushIf, bne_eq_false_iff_eq,
    Bool.or_eq_false_iff, Bool.not_eq_false', and_assoc, receiptLinked_iff]

def validateReceiptInvoiceBundleLinks (bundle : SignedInvoiceBundle) (deal : SignedDeal)
    (receipt : SignedReceipt) (report : ChainValidationReport) : ChainValidationReport :=
  let refs := receipt.payload.settlementRefs
  let baseFeeMustBeSettled := receipt.payload.settlementState == "settled"
    || receipt.payload.executionState != "not_started"
  let successFeeMustBeSettled := receipt.payload.settlementState == "settled"
  report
    |>.pushIf (refs.bundleHash != some bundle.hash) issueReceiptBundleHashMismatch
        artifactTypeReceipt "receipt bundle_hash must match the invoice_bundle hash"
    |>.pushIf (refs.baseFee.amountMsat != bundle.payload.baseFee.amountMsat
          || refs.successFee.amountMsat != bundle.payload.successFee.amountMsat)
        issueInvoiceAmountMismatch artifactTypeReceipt
        "receipt settlement amounts must match the invoice_bundle legs"
    |>.pushIf (refs.baseFee.invoiceHash != bundle.payload.baseFee.invoiceHash
          || refs.successFee.invoiceHash != bundle.payload.successFee.invoiceHash)
        issueInvoiceHashMismatch artifactTypeReceipt
        "receipt invoice hashes must match the invoice_bundle legs"
    |>.pushIf (refs.baseFee.paymentHash != bundle.payload.baseFee.paymentHash
          || refs.successFee.paymentHash != bundle.payload.successFee.paymentHash)
        issueInvoicePaymentHashMismatch artifactTypeReceipt
        "receipt payment hashes must match the invoice_bundle legs"
    |>.pushIf (refs.successFee.paymentHash != deal.payload.successPaymentHash)
        issueInvoiceSuccessPaymentHashMismatch artifactTypeReceipt
        "receipt success_fee.payment_hash must match deal success_payment_hash"
    |>.pushIf (baseFeeMustBeSettled && refs.baseFee.state != .settled
          || successFeeMustBeSettled && refs.successFee.state != .settled)
        issueInvoiceStateMismatch artifactTypeReceipt
        ("settled or executed lightning receipts require the corresponding invoice legs "
          ++ "to be settled")

/-! ## The pairwise validators -/

def validateDescriptorOffer (descriptor : SignedDescriptor) (offer : SignedOffer) (now : Option ℤ) :
    ChainValidationReport :=
  ChainValidationReport.new .descriptorOffer
    |> verifyCommonArtifact P descriptor artifactTypeDescriptor
    |> verifyCommonArtifact P offer artifactTypeOffer
    |> validateDescriptorSemantics P descriptor now
    |> validateOfferSemantics offer now
    |>.pushIf (offer.payload.providerId != descriptor.payload.providerId)
        issueProviderMismatch artifactTypeOffer
        "offer provider_id must match descriptor provider_id"
    |>.pushIf (offer.payload.descriptorHash != descriptor.hash) issueDescriptorHashMismatch
        artifactTypeOffer "offer descriptor_hash must match descriptor hash"

def validateOfferQuote (offer : SignedOffer) (quote : SignedQuote) (now : Option ℤ) :
    ChainValidationReport :=
  ChainValidationReport.new .offerQuote
    |> verifyCommonArtifact P offer artifactTypeOffer
    |> verifyCommonArtifact P quote artifactTypeQuote
    |> validateOfferSemantics offer now
    |> validateQuoteSemantics quote now
    |> validateOfferQuoteLinks offer quote

def validateQuoteDeal (quote : SignedQuote) (deal : SignedDeal) (now : Option ℤ) :
    ChainValidationReport :=
  ChainValidationReport.new .quoteDeal
    |> verifyCommonArtifact P quote artifactTypeQuote
    |> verifyCommonArtifact P deal artifactTypeDeal
    |> validateQuoteSemantics quote now
    |> validateDealSemantics deal
    |> validateQuoteDealLinks quote deal

def validateQuoteInvoiceBundleDeal (quote : SignedQuote)
    (bundle : SignedInvoiceBundle) (deal : SignedDeal) (now : Option ℤ) : ChainValidationReport :=
  ChainValidationReport.new .quoteInvoiceBundleDeal
    |> verifyCommonArtifact P quote artifactTypeQuote
    |> verifyCommonArtifact P bundle transportTypeInvoiceBundle
    |> verifyCommonArtifact P deal artifactTypeDeal
    |> validateQuoteSemantics quote now
    |> validateInvoiceBundleSemantics P bundle now
    |> validateDealSemantics deal
    |> validateQuoteDealLinks quote deal
    |> validateInvoiceBundleLinks P quote bundle deal

def validateQuoteDealReceipt (quote : SignedQuote) (deal : SignedDeal) (receipt : SignedReceipt)
    (now : Option ℤ) : ChainValidationReport :=
  ChainValidationReport.new .quoteDealReceipt
    |> verifyCommonArtifact P quote artifactTypeQuote
    |> verifyCommonArtifact P deal artifactTypeDeal
    |> verifyCommonArtifact P receipt artifactTypeReceipt
    |> validateQuoteSemantics quote now
    |> validateDealSemantics deal
    |> validateReceiptSemantics P receipt
    |> validateQuoteDealLinks quote deal
    |> validateReceiptLinks quote deal receipt

@[mk_iff] structure QuoteDealValid (now : Option ℤ) (q : SignedQuote) (d : SignedDeal) : Prop where
  quoteType : q.artifactType = artifactTypeQuote
  quoteAuthentic : Authentic P q
  dealType : d.artifactType = artifactTypeDeal
  dealAuthentic : Authentic P d
  quote : validateQuoteArtifact q = .ok ()
  quoteFresh : NotPast now q.payload.expiresAt
  deal : validateDealArtifact d = .ok ()
  linked : QuoteDealLinked q d

theorem valid_validateQuoteDeal :
    (validateQuoteDeal P q d now).valid = true ↔ QuoteDealValid P now q d := by
  simp only [validateQuoteDeal, valid_validateQuoteDealLinks, valid_validateDealSemantics,
    valid_validateQuoteSemantics, valid_verifyCommonArtifact,
    valid_new, true_and, and_assoc, quoteDealValid_iff]

/-- What `validate_quote_invoice_bundle_deal` adds to an accepted quote and
deal: an authentic bundle that is acceptable in itself and belongs to them. -/
theorem valid_validateQuoteInvoiceBundleDeal :
    (validateQuoteInvoiceBundleDeal P q b d now).valid = true
      ↔ QuoteDealValid P now q d ∧ b.artifactType = transportTypeInvoiceBundle ∧ Authentic P b
        ∧ validateInvoiceBundleArtifact P b = .ok () ∧ NotPast now b.payload.expiresAt
        ∧ InvoiceBundleLinked P q b d := by
  simp only [validateQuoteInvoiceBundleDeal, valid_validateInvoiceBundleLinks,
    valid_validateInvoiceBundleSemantics, valid_validateQuoteDealLinks, valid_validateDealSemantics,
    valid_validateQuoteSemantics, valid_verifyCommonArtifact, valid_new, true_and, and_assoc]
  exact ⟨fun ⟨h₁, h₂, k₁, k₂, h₃, h₄, h₅, h₆, k₃, k₄, h₇, h₈, k₅⟩ =>
      ⟨⟨h₁, h₂, h₃, h₄, h₅, h₆, h₇, h₈⟩, k₁, k₂, k₃, k₄, k₅⟩,
    fun ⟨⟨h₁, h₂, h₃, h₄, h₅, h₆, h₇, h₈⟩, k₁, k₂, k₃, k₄, k₅⟩ =>
      ⟨h₁, h₂, k₁, k₂, h₃, h₄, h₅, h₆, k₃, k₄, h₇, h₈, k₅⟩⟩

/-- What `validate_quote_deal_receipt` adds to an accepted quote and deal: an
authentic receipt that is acceptable in itself and belongs to them. -/
theorem valid_validateQuoteDealReceipt : (validateQuoteDealReceipt P q d r now).valid = true
      ↔ QuoteDealValid P now q d ∧ r.artifactType = artifactTypeReceipt ∧ Authentic P r
        ∧ validateReceiptArtifact P r = .ok () ∧ ReceiptLinked q d r := by
  simp only [validateQuoteDealReceipt, valid_validateReceiptLinks, valid_validateReceiptSemantics,
    valid_validateQuoteDealLinks, valid_validateDealSemantics, valid_validateQuoteSemantics,
    valid_verifyCommonArtifact, valid_new, true_and, and_assoc]
  exact ⟨fun ⟨h₁, h₂, h₃, h₄, k₁, k₂, h₅, h₆, h₇, k₃, h₈, k₄⟩ =>
      ⟨⟨h₁, h₂, h₃, h₄, h₅, h₆, h₇, h₈⟩, k₁, k₂, k₃, k₄⟩,
    fun ⟨⟨h₁, h₂, h₃, h₄, h₅, h₆, h₇, h₈⟩, k₁, k₂, k₃, k₄⟩ =>
      ⟨h₁, h₂, h₃, h₄, k₁, k₂, h₅, h₆, h₇, k₃, h₈, k₄⟩⟩

/-! ## The full chain -/

structure FullChain where
  descriptor : SignedDescriptor
  offer : SignedOffer
  quote : SignedQuote
  invoiceBundle : Option SignedInvoiceBundle
  deal : SignedDeal
  receipt : Option SignedReceipt

structure FullChainReport where
  valid : Bool
  reports : List ChainValidationReport

def validateChainDeal (chain : FullChain) (now : Option ℤ) : ChainValidationReport :=
  match chain.invoiceBundle with
  | some bundle => validateQuoteInvoiceBundleDeal P chain.quote bundle chain.deal now
  | none =>
    (validateQuoteDeal P chain.quote chain.deal now).pushIf
      (chain.quote.payload.settlementTerms.method == settlementMethodLightningEscrow)
      issueInvoiceBundleRequiredForLightning transportTypeInvoiceBundle
      "lightning.base_fee_plus_success_fee.v1 chains require an invoice_bundle"

def validateChainReceipt (chain : FullChain) (receipt : SignedReceipt) (now : Option ℤ) :
    ChainValidationReport :=
  let report := validateQuoteDealReceipt P chain.quote chain.deal receipt now
  match chain.invoiceBundle with
  | some bundle =>
    if chain.quote.payload.settlementTerms.method == settlementMethodLightningEscrow then
      validateReceiptInvoiceBundleLinks bundle chain.deal receipt report
    else report
  | none => report

def validateFullChain (chain : FullChain) (now : Option ℤ) : FullChainReport :=
  let reports := [validateDescriptorOffer P chain.descriptor chain.offer now,
      validateOfferQuote P chain.offer chain.quote now,
      validateChainDeal P chain now]
    ++ (chain.receipt.map (validateChainReceipt P chain · now)).toList
  { valid := reports.all (·.valid), reports }

end Froglet
