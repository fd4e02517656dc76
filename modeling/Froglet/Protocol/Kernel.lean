import Froglet.Protocol.Artifacts

/-!
# Validating one artifact

A verified envelope only says who signed what. The validators of this module say
whether a payload of each kind is acceptable in itself: that the signer is the
party the payload names, that required links are present, that deadlines are in
order and that the settlement terms follow the rules of their method.
-/

namespace Froglet

variable (P : Primitives)
variable {terms : QuoteSettlementTerms}
variable {q : SignedQuote}

/-! ## Descriptors -/

def linkedIdentityChallengeBytes (providerId identityKind identity : String)
    (scope : List String) (createdAt : ℤ) (expiresAt : Option ℤ) : Except String Bytes := do
  let scopeBytes ← P.canonicalJson (toJson scope)
  let scopeHash := P.sha256Hex scopeBytes
  let created := toString createdAt
  let expires := (expiresAt.map toString).getD "-"
  return textBytes ("\n".intercalate ["froglet:identity_link:v1", providerId, identityKind,
    identity, scopeHash, created, expires])

def validateLinkedNostrIdentity (providerId : String) (identity : LinkedIdentity) :
    Except String Unit := do
  rejectIf (!isLowerHexLen identity.identity 64)
    "descriptor linked Nostr identity must be a 32-byte lowercase hex key"
  rejectIf (identity.signatureAlgorithm != linkedIdentitySignatureAlgorithmBip340)
    "descriptor linked Nostr identity signature_algorithm is invalid"
  rejectIf (identity.scope.isEmpty || identity.scope.any (!·.startsWith "publication."))
    "descriptor linked Nostr identity scope must contain only publication scopes"
  rejectIf (identity.expiresAt.any (· ≤ identity.createdAt))
    "descriptor linked Nostr identity expires_at must be later than created_at"
  rejectIf (!isLowerHexLen identity.linkedSignature 128)
    "descriptor linked Nostr identity signature must be 64-byte lowercase hex"
  let challenge ← linkedIdentityChallengeBytes P providerId identity.identityKind
    identity.identity identity.scope identity.createdAt identity.expiresAt
  rejectIf (!P.verifyMessage identity.identity identity.linkedSignature challenge)
    "descriptor linked Nostr identity signature is invalid"

def validateDescriptorArtifact (descriptor : SignedDescriptor) : Except String Unit := do
  rejectIf (descriptor.signer != descriptor.payload.providerId)
    "descriptor signer does not match provider_id"
  rejectIf (descriptor.payload.protocolVersion != frogletSchemaV1)
    "descriptor protocol_version must be froglet/v1"
  descriptor.payload.linkedIdentities.forM fun identity =>
    if identity.identityKind == linkedIdentityKindNostr then
      validateLinkedNostrIdentity P descriptor.payload.providerId identity
    else pure ()

theorem signer_of_validateDescriptorArtifact {d : SignedDescriptor}
    (h : validateDescriptorArtifact P d = .ok ()) : d.signer = d.payload.providerId := by
  unfold validateDescriptorArtifact at h
  rw [check_eq_ok, rejectIf_eq_ok] at h
  exact bne_eq_false_iff_eq.mp h.1

/-! ## Offers -/

def isKnownPaidSettlementMethod (method : String) : Bool :=
  method == settlementMethodLightningEscrow || method == settlementMethodStripeMpp
    || method == settlementMethodLightningPrepaid || method == settlementMethodX402Eip3009

theorem isKnownPaidSettlementMethod_none :
    isKnownPaidSettlementMethod settlementMethodNone = false := by decide

def validateOfferArtifact (offer : SignedOffer) : Except String Unit := do
  rejectIf (offer.signer != offer.payload.providerId) "offer signer does not match provider_id"
  rejectIf (isBlank offer.payload.offerId) "offer offer_id must be non-empty"
  rejectIf (isBlank offer.payload.descriptorHash) "offer descriptor_hash must be non-empty"
  let price := offer.payload.priceSchedule
  if price.baseFeeMsat == 0 && price.successFeeMsat == 0 then
    rejectIf (offer.payload.settlementMethod != settlementMethodNone)
      "free offer settlement_method must be none"
  else do
    rejectIf (!isKnownPaidSettlementMethod offer.payload.settlementMethod)
      "paid offer settlement_method is unsupported"
    rejectIf (offer.payload.settlementMethod != settlementMethodLightningEscrow
        && price.successFeeMsat != 0)
      "single-leg paid offer success_fee_msat must be zero"

theorem signer_of_validateOfferArtifact {o : SignedOffer} (h : validateOfferArtifact o = .ok ()) :
    o.signer = o.payload.providerId := by
  unfold validateOfferArtifact at h
  rw [check_eq_ok, rejectIf_eq_ok] at h
  exact bne_eq_false_iff_eq.mp h.1

/-! ## Quotes -/

def validateQuoteSettlementTerms (terms : QuoteSettlementTerms) : Except String Unit :=
  if terms.method == settlementMethodNone then do
    rejectIf (!terms.destinationIdentity.isEmpty)
      "free quote destination_identity must be empty"
    rejectIf (terms.baseFeeMsat != 0 || terms.successFeeMsat != 0)
      "free quote fee amounts must be zero"
  else if terms.method == settlementMethodLightningEscrow then
    rejectIf (!isLowerHexLen terms.destinationIdentity 66)
      "lightning quote destination_identity must be compressed secp256k1 lowercase hex"
  else if terms.method == settlementMethodStripeMpp then do
    rejectIf (!terms.destinationIdentity.isEmpty)
      "non-escrow quote destination_identity must be empty"
    rejectIf (terms.successFeeMsat != 0) "non-escrow quote success_fee_msat must be zero"
  else if terms.method == settlementMethodLightningPrepaid then do
    rejectIf (!isLowerHexLen terms.destinationIdentity 66)
      "lightning prepaid quote destination_identity must be compressed secp256k1 lowercase hex"
    rejectIf (terms.successFeeMsat != 0) "non-escrow quote success_fee_msat must be zero"
  else if terms.method == settlementMethodX402Eip3009 then do
    rejectIf (!isLowerHexLen terms.destinationIdentity 40)
      "x402 quote destination_identity must be a 20-byte lowercase hex EVM address"
    rejectIf (terms.successFeeMsat != 0) "x402 quote success_fee_msat must be zero"
  else .error "quote settlement_terms.method is invalid"

section

variable (h : validateQuoteSettlementTerms terms = .ok ())
include h

theorem terms_none (hmethod : terms.method = settlementMethodNone) :
    terms.destinationIdentity = "" ∧ terms.baseFeeMsat = 0 ∧ terms.successFeeMsat = 0 := by
  unfold validateQuoteSettlementTerms at h
  rw [hmethod, beq_self_eq_true, if_pos rfl, check_eq_ok] at h
  simpa using h

theorem terms_escrow (hmethod : terms.method = settlementMethodLightningEscrow) :
    isLowerHexLen terms.destinationIdentity 66 = true := by
  unfold validateQuoteSettlementTerms at h
  rw [hmethod] at h
  simpa [settlementMethodLightningEscrow, settlementMethodNone] using h

theorem terms_stripe (hmethod : terms.method = settlementMethodStripeMpp) :
    terms.destinationIdentity = "" ∧ terms.successFeeMsat = 0 := by
  unfold validateQuoteSettlementTerms at h
  rw [hmethod] at h
  simpa [settlementMethodLightningEscrow, settlementMethodNone, settlementMethodStripeMpp]
    using h

theorem terms_prepaid (hmethod : terms.method = settlementMethodLightningPrepaid) :
    isLowerHexLen terms.destinationIdentity 66 = true ∧ terms.successFeeMsat = 0 := by
  unfold validateQuoteSettlementTerms at h
  rw [hmethod] at h
  simpa [settlementMethodLightningEscrow, settlementMethodNone, settlementMethodStripeMpp,
    settlementMethodLightningPrepaid] using h

end

def validateQuoteArtifact (quote : SignedQuote) : Except String Unit := do
  let payload := quote.payload
  rejectIf (quote.signer != payload.providerId) "quote signer does not match provider_id"
  rejectIf (isBlank payload.requesterId) "quote requester_id must be non-empty"
  rejectIf (isBlank payload.descriptorHash) "quote descriptor_hash must be non-empty"
  rejectIf (isBlank payload.offerHash) "quote offer_hash must be non-empty"
  rejectIf (isBlank payload.workloadKind) "quote workload_kind must be non-empty"
  rejectIf (isBlank payload.workloadHash) "quote workload_hash must be non-empty"
  validateQuoteSettlementTerms payload.settlementTerms

theorem signer_of_validateQuoteArtifact (h : validateQuoteArtifact q = .ok ()) :
    q.signer = q.payload.providerId := by
  unfold validateQuoteArtifact at h
  dsimp only at h
  rw [check_eq_ok, rejectIf_eq_ok] at h
  exact bne_eq_false_iff_eq.mp h.1

theorem terms_of_validateQuoteArtifact (h : validateQuoteArtifact q = .ok ()) :
    validateQuoteSettlementTerms q.payload.settlementTerms = .ok () := by
  unfold validateQuoteArtifact at h
  simp only [check_eq_ok] at h
  exact h.2.2.2.2.2.2

/-! ## Deals -/

def validateDealArtifact (deal : SignedDeal) : Except String Unit := do
  let payload := deal.payload
  rejectIf (deal.signer != payload.requesterId) "deal signer does not match requester_id"
  rejectIf (isBlank payload.providerId) "deal provider_id must be non-empty"
  rejectIf (isBlank payload.quoteHash) "deal quote_hash must be non-empty"
  rejectIf (isBlank payload.workloadHash) "deal workload_hash must be non-empty"
  rejectIf (!isLowerHexLen payload.successPaymentHash 64)
    "deal success_payment_hash must be lowercase 32-byte hex"
  rejectIf (payload.completionDeadline ≤ payload.admissionDeadline)
    "deal completion_deadline must be greater than admission_deadline"
  rejectIf (payload.acceptanceDeadline < payload.completionDeadline)
    "deal acceptance_deadline must be greater than or equal to completion_deadline"

theorem signer_of_validateDealArtifact {d : SignedDeal} (h : validateDealArtifact d = .ok ()) :
    d.signer = d.payload.requesterId := by
  unfold validateDealArtifact at h
  dsimp only at h
  rw [check_eq_ok, rejectIf_eq_ok] at h
  exact bne_eq_false_iff_eq.mp h.1

/-! ## Invoice bundles -/

def validateInvoiceLeg (name : String) (leg : InvoiceBundleLeg) : Except String Unit := do
  rejectIf (isBlank leg.invoiceBolt11) s!"invoice_bundle {name}.invoice_bolt11 must be non-empty"
  rejectIf (!isLowerHexLen leg.invoiceHash 64)
    s!"invoice_bundle {name}.invoice_hash must be lowercase 32-byte hex"
  rejectIf (!isLowerHexLen leg.paymentHash 64)
    s!"invoice_bundle {name}.payment_hash must be lowercase 32-byte hex"
  rejectIf (leg.invoiceHash != P.sha256Hex (textBytes leg.invoiceBolt11))
    s!"invoice_bundle {name}.invoice_hash must equal SHA256(invoice_bolt11)"

def validateInvoiceBundleArtifact (bundle : SignedInvoiceBundle) : Except String Unit := do
  let payload := bundle.payload
  rejectIf (bundle.signer != payload.providerId)
    "invoice_bundle signer does not match provider_id"
  rejectIf (isBlank payload.requesterId) "invoice_bundle requester_id must be non-empty"
  rejectIf (isBlank payload.quoteHash) "invoice_bundle quote_hash must be non-empty"
  rejectIf (isBlank payload.dealHash) "invoice_bundle deal_hash must be non-empty"
  rejectIf (!isLowerHexLen payload.destinationIdentity 66)
    "invoice_bundle destination_identity must be compressed secp256k1 lowercase hex"
  validateInvoiceLeg P "base_fee" payload.baseFee
  validateInvoiceLeg P "success_fee" payload.successFee
  rejectIf (payload.successFee.state != .opened)
    "invoice_bundle success_fee.state must be open at issuance"
  rejectIf (payload.baseFee.state != .opened
      && !(payload.baseFee.amountMsat == 0 && payload.baseFee.state == .settled))
    "invoice_bundle base_fee.state must be open unless zero-valued and settled"

theorem signer_of_validateInvoiceBundleArtifact {b : SignedInvoiceBundle}
    (h : validateInvoiceBundleArtifact P b = .ok ()) : b.signer = b.payload.providerId := by
  unfold validateInvoiceBundleArtifact at h
  dsimp only at h
  rw [check_eq_ok, rejectIf_eq_ok] at h
  exact bne_eq_false_iff_eq.mp h.1

/-! ## Receipts

The rules of a receipt depend on the settlement method it names, one function
for each. -/

def receiptLegIsEmptyCanceled (leg : ReceiptSettlementLeg) : Bool :=
  leg.amountMsat == 0 && leg.invoiceHash.isEmpty && leg.paymentHash.isEmpty
    && leg.state == .canceled

def ReceiptLegState.isOpenOrAccepted (s : ReceiptLegState) : Bool := s == .opened || s == .accepted

variable (payload : ReceiptPayload)

def validateLightningReceipt : Except String Unit := do
  let refs := payload.settlementRefs
  rejectIf (refs.bundleHash.getD "").isEmpty "lightning receipt must include bundle_hash"
  rejectIf refs.destinationIdentity.isEmpty
    "lightning receipt must include destination_identity"
  rejectIf (refs.baseFee.state.isOpenOrAccepted || refs.successFee.state.isOpenOrAccepted)
    "lightning receipt settlement legs must be terminal"
  if payload.settlementState == "settled" then do
    rejectIf (refs.baseFee.state != .settled)
      "lightning receipt settlement_state settled requires base_fee.state settled"
    rejectIf (refs.successFee.state != .settled)
      "lightning receipt settlement_state settled requires success_fee.state settled"
  else if payload.settlementState == "canceled" then
    rejectIf (refs.successFee.state != .canceled)
      "lightning receipt settlement_state canceled requires success_fee.state canceled"
  else if payload.settlementState == "expired" then
    rejectIf (refs.successFee.state != .expired)
      "lightning receipt settlement_state expired requires success_fee.state expired"
  else .error "lightning receipt settlement_state must be settled, canceled, or expired"
  rejectIf (payload.dealState == "succeeded" && payload.settlementState != "settled")
    "successful lightning receipt must have settlement_state settled"

def validateFreeReceipt : Except String Unit := do
  let refs := payload.settlementRefs
  rejectIf (payload.settlementState != "none") "free receipt settlement_state must be none"
  rejectIf refs.bundleHash.isSome "free receipt must not include bundle_hash"
  rejectIf (!refs.destinationIdentity.isEmpty)
    "free receipt destination_identity must be empty"
  rejectIf (!receiptLegIsEmptyCanceled refs.baseFee || !receiptLegIsEmptyCanceled refs.successFee)
    "free receipt settlement legs must be zero-valued canceled placeholders"

def validateStripeReceipt : Except String Unit := do
  let refs := payload.settlementRefs
  rejectIf refs.bundleHash.isSome "stripe_mpp.v1 receipt must not include bundle_hash"
  rejectIf (!refs.destinationIdentity.isEmpty)
    "stripe_mpp.v1 receipt destination_identity must be empty"
  rejectIf (!receiptLegIsEmptyCanceled refs.successFee)
    "stripe_mpp.v1 receipt success_fee must be a zero-valued canceled placeholder"
  rejectIf refs.baseFee.state.isOpenOrAccepted
    "stripe_mpp.v1 receipt base_fee.state must be terminal (settled or canceled)"
  if payload.settlementState == "settled" then
    rejectIf (refs.baseFee.state != .settled)
      "stripe_mpp.v1 receipt settlement_state settled requires base_fee.state settled"
  else if payload.settlementState == "canceled" then
    rejectIf (refs.baseFee.state != .canceled)
      "stripe_mpp.v1 receipt settlement_state canceled requires base_fee.state canceled"
  else .error "stripe_mpp.v1 receipt settlement_state must be settled or canceled"
  rejectIf (payload.dealState == "succeeded" && payload.settlementState != "settled")
    "successful stripe_mpp.v1 receipt must have settlement_state settled"

def validatePrepaidReceipt : Except String Unit := do
  let refs := payload.settlementRefs
  rejectIf refs.bundleHash.isSome "lightning.prepaid.v1 receipt must not include bundle_hash"
  rejectIf (!isLowerHexLen refs.destinationIdentity 66)
    "lightning.prepaid.v1 receipt destination_identity must be compressed secp256k1 lowercase hex"
  rejectIf (!receiptLegIsEmptyCanceled refs.successFee)
    "lightning.prepaid.v1 receipt success_fee must be a zero-valued canceled placeholder"
  rejectIf refs.baseFee.state.isOpenOrAccepted
    "lightning.prepaid.v1 receipt base_fee.state must be terminal (settled or canceled)"
  if payload.settlementState == "settled" then do
    rejectIf (refs.baseFee.state != .settled)
      "lightning.prepaid.v1 receipt settlement_state settled requires base_fee.state settled"
    match decodeHash32 refs.baseFee.invoiceHash with
    | none => .error "lightning.prepaid.v1 settled receipt preimage must be 32-byte hex"
    | some preimage => do
      rejectIf (decodeHash32 refs.baseFee.paymentHash).isNone
        "lightning.prepaid.v1 settled receipt payment_hash must be 32-byte hex"
      rejectIf (P.sha256Hex preimage != refs.baseFee.paymentHash.toLower)
        "lightning.prepaid.v1 receipt preimage does not match payment_hash"
  else if payload.settlementState == "canceled" then do
    rejectIf (refs.baseFee.state != .canceled)
      "lightning.prepaid.v1 receipt settlement_state canceled requires base_fee.state canceled"
    rejectIf (!refs.baseFee.invoiceHash.isEmpty)
      "lightning.prepaid.v1 canceled receipt must not carry a preimage"
  else .error "lightning.prepaid.v1 receipt settlement_state must be settled or canceled"
  rejectIf (payload.dealState == "succeeded" && payload.settlementState != "settled")
    "successful lightning.prepaid.v1 receipt must have settlement_state settled"

def validateX402Receipt : Except String Unit := do
  let refs := payload.settlementRefs
  rejectIf (!isLowerHexLen refs.destinationIdentity 40)
    "x402.eip3009.v1 receipt destination_identity must be a 20-byte lowercase hex EVM address"
  rejectIf (!receiptLegIsEmptyCanceled refs.successFee)
    "x402.eip3009.v1 receipt success_fee must be a zero-valued canceled placeholder"
  rejectIf refs.baseFee.state.isOpenOrAccepted
    "x402.eip3009.v1 receipt base_fee.state must be terminal (settled or canceled)"
  if payload.settlementState == "settled" then do
    rejectIf (refs.baseFee.state != .settled)
      "x402.eip3009.v1 receipt settlement_state settled requires base_fee.state settled"
    rejectIf (!isLowerHexLen (refs.bundleHash.getD "") 64)
      "x402.eip3009.v1 settled receipt must include a 32-byte lowercase hex bundle_hash"
    rejectIf (!isLowerHexLen refs.baseFee.paymentHash 64)
      ("x402.eip3009.v1 settled receipt payment_hash must carry the 32-byte hex "
        ++ "EIP-3009 authorization nonce")
    rejectIf (!isLowerHexLen refs.baseFee.invoiceHash 64)
      ("x402.eip3009.v1 settled receipt invoice_hash must carry the 32-byte hex "
        ++ "settle transaction hash")
  else if payload.settlementState == "canceled" then do
    rejectIf (refs.baseFee.state != .canceled)
      "x402.eip3009.v1 receipt settlement_state canceled requires base_fee.state canceled"
    rejectIf refs.bundleHash.isSome
      "x402.eip3009.v1 canceled receipt must not include bundle_hash"
    rejectIf (!refs.baseFee.invoiceHash.isEmpty)
      "x402.eip3009.v1 canceled receipt must not carry a settle transaction hash"
  else .error "x402.eip3009.v1 receipt settlement_state must be settled or canceled"
  rejectIf (payload.dealState == "succeeded" && payload.settlementState != "settled")
    "successful x402.eip3009.v1 receipt must have settlement_state settled"

def validateReceiptDealState : Except String Unit :=
  if payload.dealState == "rejected" then
    rejectIf (payload.executionState != "not_started")
      "rejected receipt must have execution_state not_started"
  else if payload.dealState == "succeeded" then
    rejectIf (payload.executionState != "succeeded")
      "successful receipt must have execution_state succeeded"
  else if payload.dealState == "failed" then
    rejectIf (payload.executionState != "failed")
      "failed receipt must have execution_state failed"
  else if payload.dealState == "canceled" then
    rejectIf (payload.executionState != "not_started" && payload.executionState != "succeeded")
      "canceled receipt must have execution_state not_started or succeeded"
  else .error "receipt deal_state is invalid"

def validateReceiptSettlement : Except String Unit :=
  if payload.settlementRefs.method == settlementMethodLightningEscrow then
    validateLightningReceipt payload
  else if payload.settlementRefs.method == settlementMethodNone then
    validateFreeReceipt payload
  else if payload.settlementRefs.method == settlementMethodStripeMpp then
    validateStripeReceipt payload
  else if payload.settlementRefs.method == settlementMethodLightningPrepaid then
    validatePrepaidReceipt P payload
  else if payload.settlementRefs.method == settlementMethodX402Eip3009 then
    validateX402Receipt payload
  else .error "receipt settlement_refs.method is invalid"

def validateReceiptArtifact (receipt : SignedReceipt) : Except String Unit := do
  let payload := receipt.payload
  rejectIf (receipt.signer != payload.providerId) "receipt signer does not match provider_id"
  rejectIf (payload.startedAt.any (payload.finishedAt < ·))
    "receipt finished_at is earlier than started_at"
  if payload.executionState == "succeeded" then
    rejectIf (!payload.resultHash.isSome || !payload.resultFormat.isSome)
      "receipt with execution_state succeeded must include result_hash and result_format"
  else
    rejectIf (payload.resultHash.isSome || payload.resultFormat.isSome)
      "receipt result_hash and result_format must be absent unless execution_state is succeeded"
  validateReceiptDealState payload
  validateReceiptSettlement P payload

/-- What an accepted receipt consists of: the provider signed it, it did not
finish before it started, it carries a result exactly when execution succeeded,
and its states and settlement follow their rules. -/
theorem validateReceiptArtifact_iff (r : SignedReceipt) :
    validateReceiptArtifact P r = .ok () ↔
      r.signer = r.payload.providerId
      ∧ (∀ started ∈ r.payload.startedAt, started ≤ r.payload.finishedAt)
      ∧ (r.payload.resultHash.isSome = (r.payload.executionState == "succeeded")
        ∧ r.payload.resultFormat.isSome = (r.payload.executionState == "succeeded"))
      ∧ validateReceiptDealState r.payload = .ok ()
      ∧ validateReceiptSettlement P r.payload = .ok () := by
  have hstart : r.payload.startedAt.any (r.payload.finishedAt < ·) = false
      ↔ ∀ started ∈ r.payload.startedAt, started ≤ r.payload.finishedAt := by
    cases r.payload.startedAt <;> simp
  unfold validateReceiptArtifact
  dsimp only
  rw [check_eq_ok, rejectIf_eq_ok, check_eq_ok, rejectIf_eq_ok, hstart, bne_eq_false_iff_eq]
  refine and_congr_right fun _ => and_congr_right (fun _ => ?_)
  cases hs : (r.payload.executionState == "succeeded") with
  | true =>
    rw [if_pos rfl, check_eq_ok, rejectIf_eq_ok, check_eq_ok]
    simp
  | false =>
    rw [if_neg Bool.false_ne_true, check_eq_ok, rejectIf_eq_ok, check_eq_ok]
    simp

end Froglet
