import Froglet.Protocol.Artifacts
import Froglet.Protocol.Serde

/-!
# Reading artifacts from documents

How each payload, and the envelope around it, is read from a JSON document.
-/

namespace Froglet

open List

/-! ## Variants -/

def decodeExecutionRuntime : Json → Option ExecutionRuntime :=
  asVariant [("any", .any), ("wasm", .wasm), ("python", .python), ("container", .container),
    ("builtin", .builtin), ("tee_service", .teeService), ("tee_wasm", .teeWasm),
    ("tee_python", .teePython)]

def decodeInvoiceBundleLegState : Json → Option InvoiceBundleLegState :=
  asVariant [("open", .opened), ("accepted", .accepted), ("settled", .settled),
    ("canceled", .canceled), ("expired", .expired)]

def decodeReceiptLegState : Json → Option ReceiptLegState :=
  asVariant [("open", .opened), ("accepted", .accepted), ("settled", .settled),
    ("canceled", .canceled), ("expired", .expired)]

@[simp] theorem decodeExecutionRuntime_toJson {x : ExecutionRuntime} :
    decodeExecutionRuntime (toJson x) = some x := by
  cases x <;> decide

@[simp] theorem decodeInvoiceBundleLegState_toJson {x : InvoiceBundleLegState} :
    decodeInvoiceBundleLegState (toJson x) = some x := by
  cases x <;> decide

@[simp] theorem decodeReceiptLegState_toJson {x : ReceiptLegState} :
    decodeReceiptLegState (toJson x) = some x := by
  cases x <;> decide

theorem LawfulSerialize.of_decode {α : Type} [Serialize α] {decode : Json → Option α}
    (h : ∀ x, decode (toJson x) = some x) : LawfulSerialize α where
  injective x y hxy := Option.some.inj ((h x).symm.trans ((congrArg decode hxy).trans (h y)))

instance : LawfulSerialize ExecutionRuntime := .of_decode fun _ => decodeExecutionRuntime_toJson

instance : LawfulSerialize InvoiceBundleLegState :=
  .of_decode fun _ => decodeInvoiceBundleLegState_toJson

instance : LawfulSerialize ReceiptLegState := .of_decode fun _ => decodeReceiptLegState_toJson

/-! ## Payloads -/

def decodeLinkedIdentity : Json → Option LinkedIdentity := decodeStruct do
  return {
    identityKind := ← required "identity_kind" asString
    identity := ← required "identity" asString
    scope := ← required "scope" (asList asString)
    createdAt := ← required "created_at" asI64
    expiresAt := ← optional "expires_at" asI64
    signatureAlgorithm := ← required "signature_algorithm" asString
    linkedSignature := ← required "linked_signature" asString }

structure LinkedIdentity.Fits (x : LinkedIdentity) : Prop where
  createdAt : FitsI64 x.createdAt
  expiresAt : ∀ n ∈ x.expiresAt, FitsI64 n

@[simp] theorem decodeLinkedIdentity_toJson {x : LinkedIdentity} (h : x.Fits) :
    decodeLinkedIdentity (toJson x) = some x := by
  cases h
  refine readsAs_struct ?_
  simp +contextual [lookup_append, *, -bind_pure_comp]

instance : LawfulSerialize LinkedIdentity where
  injective _ _ h := by
    simpa [lookup_append, LinkedIdentity.ext_iff] using lookup_eq_of_obj_eq h [
      "identity_kind", "identity", "scope", "created_at", "expires_at", "signature_algorithm",
      "linked_signature"]

def decodeTransportEndpoint : Json → Option TransportEndpoint := decodeStruct do
  return {
    transport := ← required "transport" asString
    uri := ← required "uri" asString
    createdAt := ← optionalDefaulted "created_at" asI64
    expiresAt := ← optional "expires_at" asI64
    priority := ← required "priority" asU32
    features := ← defaulted "features" (asList asString) [] }

structure TransportEndpoint.Fits (x : TransportEndpoint) : Prop where
  createdAt : ∀ n ∈ x.createdAt, FitsI64 n
  expiresAt : ∀ n ∈ x.expiresAt, FitsI64 n
  priority : FitsU32 x.priority

@[simp] theorem decodeTransportEndpoint_toJson {x : TransportEndpoint} (h : x.Fits) :
    decodeTransportEndpoint (toJson x) = some x := by
  cases h
  refine readsAs_struct ?_
  simp +contextual [lookup_append, *, -bind_pure_comp]

instance : LawfulSerialize TransportEndpoint where
  injective _ _ h := by
    simpa [lookup_append, TransportEndpoint.ext_iff] using lookup_eq_of_obj_eq h [
      "transport", "uri", "created_at", "expires_at", "priority", "features"]

def decodeDescriptorCapabilities : Json → Option DescriptorCapabilities := decodeStruct do
  return {
    serviceKinds := ← required "service_kinds" (asList asString)
    executionRuntimes := ← required "execution_runtimes" (asList asString)
    maxConcurrentDeals := ← optional "max_concurrent_deals" asU32 }

structure DescriptorCapabilities.Fits (x : DescriptorCapabilities) : Prop where
  maxConcurrentDeals : ∀ n ∈ x.maxConcurrentDeals, FitsU32 n

@[simp] theorem decodeDescriptorCapabilities_toJson {x : DescriptorCapabilities} (h : x.Fits) :
    decodeDescriptorCapabilities (toJson x) = some x := by
  cases h
  refine readsAs_struct ?_
  simp +contextual [lookup_append, *, -bind_pure_comp]

instance : LawfulSerialize DescriptorCapabilities where
  injective _ _ h := by
    simpa [lookup_append, DescriptorCapabilities.ext_iff] using lookup_eq_of_obj_eq h [
      "service_kinds", "execution_runtimes", "max_concurrent_deals"]

def decodeDescriptorPayload : Json → Option DescriptorPayload := decodeStruct do
  return {
    providerId := ← required "provider_id" asString
    descriptorSeq := ← defaulted "descriptor_seq" asU64 0
    protocolVersion := ← required "protocol_version" asString
    expiresAt := ← optional "expires_at" asI64
    linkedIdentities := ← defaulted "linked_identities" (asList decodeLinkedIdentity) []
    transportEndpoints := ← defaulted "transport_endpoints" (asList decodeTransportEndpoint) []
    capabilities := ← required "capabilities" decodeDescriptorCapabilities
    acceptedPaymentMethods := ← defaulted "accepted_payment_methods" (asList asString) [] }

structure DescriptorPayload.Fits (x : DescriptorPayload) : Prop where
  descriptorSeq : FitsU64 x.descriptorSeq
  expiresAt : ∀ n ∈ x.expiresAt, FitsI64 n
  linkedIdentities : ∀ y ∈ x.linkedIdentities, y.Fits
  transportEndpoints : ∀ y ∈ x.transportEndpoints, y.Fits
  capabilities : x.capabilities.Fits

@[simp] theorem decodeDescriptorPayload_toJson {x : DescriptorPayload} (h : x.Fits) :
    decodeDescriptorPayload (toJson x) = some x := by
  obtain ⟨hseq, hexpires, hidentities, hendpoints, hcapabilities⟩ := h
  refine readsAs_struct ?_
  simp [lookup_append, elim_listValue (fun y hy => decodeLinkedIdentity_toJson (hidentities y hy)),
    elim_listValue (fun y hy => decodeTransportEndpoint_toJson (hendpoints y hy)), hseq,
    elim_optI64 hexpires, hcapabilities, -bind_pure_comp]

instance : LawfulSerialize DescriptorPayload where
  injective _ _ h := by
    simpa [lookup_append, DescriptorPayload.ext_iff] using lookup_eq_of_obj_eq h [
      "provider_id", "descriptor_seq", "protocol_version", "expires_at", "linked_identities",
      "transport_endpoints", "capabilities", "accepted_payment_methods"]

def decodeOfferExecutionProfile : Json → Option OfferExecutionProfile := decodeStruct do
  return {
    runtime := ← required "runtime" decodeExecutionRuntime
    packageKind := ← defaulted "package_kind" asString ""
    contractVersion := ← defaulted "contract_version" asString ""
    accessHandles := ← defaulted "access_handles" (asList asString) []
    abiVersion := ← defaulted "abi_version" asString ""
    capabilities := ← defaulted "capabilities" (asList asString) []
    maxInputBytes := ← required "max_input_bytes" asU64
    maxRuntimeMs := ← required "max_runtime_ms" asU64
    maxMemoryBytes := ← required "max_memory_bytes" asU64
    maxOutputBytes := ← required "max_output_bytes" asU64
    fuelLimit := ← required "fuel_limit" asU64 }

structure OfferExecutionProfile.Fits (x : OfferExecutionProfile) : Prop where
  maxInputBytes : FitsU64 x.maxInputBytes
  maxRuntimeMs : FitsU64 x.maxRuntimeMs
  maxMemoryBytes : FitsU64 x.maxMemoryBytes
  maxOutputBytes : FitsU64 x.maxOutputBytes
  fuelLimit : FitsU64 x.fuelLimit

@[simp] theorem decodeOfferExecutionProfile_toJson {x : OfferExecutionProfile} (h : x.Fits) :
    decodeOfferExecutionProfile (toJson x) = some x := by
  cases h
  refine readsAs_struct ?_
  simp [lookup_append, *, -bind_pure_comp]

instance : LawfulSerialize OfferExecutionProfile where
  injective _ _ h := by
    simpa [lookup_append, OfferExecutionProfile.ext_iff] using lookup_eq_of_obj_eq h [
      "runtime", "package_kind", "contract_version", "access_handles", "abi_version",
      "capabilities", "max_input_bytes", "max_runtime_ms", "max_memory_bytes",
      "max_output_bytes", "fuel_limit"]

def decodeOfferPriceSchedule : Json → Option OfferPriceSchedule := decodeStruct do
  return {
    baseFeeMsat := ← required "base_fee_msat" asU64
    successFeeMsat := ← required "success_fee_msat" asU64 }

structure OfferPriceSchedule.Fits (x : OfferPriceSchedule) : Prop where
  baseFeeMsat : FitsU64 x.baseFeeMsat
  successFeeMsat : FitsU64 x.successFeeMsat

@[simp] theorem decodeOfferPriceSchedule_toJson {x : OfferPriceSchedule} (h : x.Fits) :
    decodeOfferPriceSchedule (toJson x) = some x := by
  cases h
  refine readsAs_struct ?_
  simp [lookup_append, *, -bind_pure_comp]

instance : LawfulSerialize OfferPriceSchedule where
  injective _ _ h := by
    simpa [lookup_append, OfferPriceSchedule.ext_iff] using lookup_eq_of_obj_eq h [
      "base_fee_msat", "success_fee_msat"]

def decodeOfferPayload : Json → Option OfferPayload := decodeStruct do
  return {
    providerId := ← required "provider_id" asString
    offerId := ← required "offer_id" asString
    descriptorHash := ← required "descriptor_hash" asString
    expiresAt := ← optional "expires_at" asI64
    offerKind := ← required "offer_kind" asString
    settlementMethod := ← required "settlement_method" asString
    quoteTtlSecs := ← required "quote_ttl_secs" asU64
    executionProfile := ← required "execution_profile" decodeOfferExecutionProfile
    priceSchedule := ← required "price_schedule" decodeOfferPriceSchedule
    termsHash := ← optional "terms_hash" asString
    confidentialProfileHash := ← optional "confidential_profile_hash" asString }

structure OfferPayload.Fits (x : OfferPayload) : Prop where
  expiresAt : ∀ n ∈ x.expiresAt, FitsI64 n
  quoteTtlSecs : FitsU64 x.quoteTtlSecs
  executionProfile : x.executionProfile.Fits
  priceSchedule : x.priceSchedule.Fits

@[simp] theorem decodeOfferPayload_toJson {x : OfferPayload} (h : x.Fits) :
    decodeOfferPayload (toJson x) = some x := by
  cases h
  refine readsAs_struct ?_
  simp +contextual [lookup_append, *, -bind_pure_comp]

instance : LawfulSerialize OfferPayload where
  injective _ _ h := by
    simpa [lookup_append, OfferPayload.ext_iff] using lookup_eq_of_obj_eq h ["provider_id",
      "offer_id", "descriptor_hash", "expires_at", "offer_kind", "settlement_method",
      "quote_ttl_secs", "execution_profile", "price_schedule", "terms_hash",
      "confidential_profile_hash"]

def decodeQuoteSettlementTerms : Json → Option QuoteSettlementTerms := decodeStruct do
  return {
    method := ← required "method" asString
    destinationIdentity := ← required "destination_identity" asString
    baseFeeMsat := ← required "base_fee_msat" asU64
    successFeeMsat := ← required "success_fee_msat" asU64
    maxBaseInvoiceExpirySecs := ← required "max_base_invoice_expiry_secs" asU64
    maxSuccessHoldExpirySecs := ← required "max_success_hold_expiry_secs" asU64
    minFinalCltvExpiry := ← required "min_final_cltv_expiry" asU32 }

structure QuoteSettlementTerms.Fits (x : QuoteSettlementTerms) : Prop where
  baseFeeMsat : FitsU64 x.baseFeeMsat
  successFeeMsat : FitsU64 x.successFeeMsat
  maxBaseInvoiceExpirySecs : FitsU64 x.maxBaseInvoiceExpirySecs
  maxSuccessHoldExpirySecs : FitsU64 x.maxSuccessHoldExpirySecs
  minFinalCltvExpiry : FitsU32 x.minFinalCltvExpiry

@[simp] theorem decodeQuoteSettlementTerms_toJson {x : QuoteSettlementTerms} (h : x.Fits) :
    decodeQuoteSettlementTerms (toJson x) = some x := by
  cases h
  refine readsAs_struct ?_
  simp [lookup_append, *, -bind_pure_comp]

instance : LawfulSerialize QuoteSettlementTerms where
  injective _ _ h := by
    simpa [lookup_append, QuoteSettlementTerms.ext_iff] using lookup_eq_of_obj_eq h [
      "method", "destination_identity", "base_fee_msat", "success_fee_msat",
      "max_base_invoice_expiry_secs", "max_success_hold_expiry_secs", "min_final_cltv_expiry"]

def decodeExecutionLimits : Json → Option ExecutionLimits := decodeStruct do
  return {
    maxInputBytes := ← required "max_input_bytes" asU64
    maxRuntimeMs := ← required "max_runtime_ms" asU64
    maxMemoryBytes := ← required "max_memory_bytes" asU64
    maxOutputBytes := ← required "max_output_bytes" asU64
    fuelLimit := ← required "fuel_limit" asU64 }

structure ExecutionLimits.Fits (x : ExecutionLimits) : Prop where
  maxInputBytes : FitsU64 x.maxInputBytes
  maxRuntimeMs : FitsU64 x.maxRuntimeMs
  maxMemoryBytes : FitsU64 x.maxMemoryBytes
  maxOutputBytes : FitsU64 x.maxOutputBytes
  fuelLimit : FitsU64 x.fuelLimit

@[simp] theorem decodeExecutionLimits_toJson {x : ExecutionLimits} (h : x.Fits) :
    decodeExecutionLimits (toJson x) = some x := by
  cases h
  refine readsAs_struct ?_
  simp [lookup_append, *, -bind_pure_comp]

instance : LawfulSerialize ExecutionLimits where
  injective _ _ h := by
    simpa [lookup_append, ExecutionLimits.ext_iff] using lookup_eq_of_obj_eq h [
      "max_input_bytes", "max_runtime_ms", "max_memory_bytes", "max_output_bytes", "fuel_limit"]

def decodeQuotePayload : Json → Option QuotePayload := decodeStruct do
  return {
    providerId := ← required "provider_id" asString
    requesterId := ← required "requester_id" asString
    descriptorHash := ← required "descriptor_hash" asString
    offerHash := ← required "offer_hash" asString
    expiresAt := ← required "expires_at" asI64
    workloadKind := ← required "workload_kind" asString
    workloadHash := ← required "workload_hash" asString
    confidentialSessionHash := ← optional "confidential_session_hash" asString
    capabilitiesGranted := ← defaulted "capabilities_granted" (asList asString) []
    extensionRefs := ← defaulted "extension_refs" (asList asString) []
    quoteUse := ← optionalDefaulted "quote_use" asString
    settlementTerms := ← required "settlement_terms" decodeQuoteSettlementTerms
    executionLimits := ← required "execution_limits" decodeExecutionLimits }

structure QuotePayload.Fits (x : QuotePayload) : Prop where
  expiresAt : FitsI64 x.expiresAt
  settlementTerms : x.settlementTerms.Fits
  executionLimits : x.executionLimits.Fits

@[simp] theorem decodeQuotePayload_toJson {x : QuotePayload} (h : x.Fits) :
    decodeQuotePayload (toJson x) = some x := by
  cases h
  refine readsAs_struct ?_
  simp [lookup_append, *, -bind_pure_comp]

instance : LawfulSerialize QuotePayload where
  injective _ _ h := by
    simpa [lookup_append, QuotePayload.ext_iff] using lookup_eq_of_obj_eq h ["provider_id",
      "requester_id", "descriptor_hash", "offer_hash", "expires_at", "workload_kind",
      "workload_hash", "confidential_session_hash", "capabilities_granted", "extension_refs",
      "quote_use", "settlement_terms", "execution_limits"]

def decodeInvoiceBundleLeg : Json → Option InvoiceBundleLeg := decodeStruct do
  return {
    amountMsat := ← required "amount_msat" asU64
    invoiceBolt11 := ← required "invoice_bolt11" asString
    invoiceHash := ← required "invoice_hash" asString
    paymentHash := ← required "payment_hash" asString
    state := ← required "state" decodeInvoiceBundleLegState }

structure InvoiceBundleLeg.Fits (x : InvoiceBundleLeg) : Prop where
  amountMsat : FitsU64 x.amountMsat

@[simp] theorem decodeInvoiceBundleLeg_toJson {x : InvoiceBundleLeg} (h : x.Fits) :
    decodeInvoiceBundleLeg (toJson x) = some x := by
  cases h
  refine readsAs_struct ?_
  simp [lookup_append, *, -bind_pure_comp]

instance : LawfulSerialize InvoiceBundleLeg where
  injective _ _ h := by
    simpa [lookup_append, InvoiceBundleLeg.ext_iff] using lookup_eq_of_obj_eq h [
      "amount_msat", "invoice_bolt11", "invoice_hash", "payment_hash", "state"]

def decodeInvoiceBundlePayload : Json → Option InvoiceBundlePayload := decodeStruct do
  return {
    providerId := ← required "provider_id" asString
    requesterId := ← required "requester_id" asString
    quoteHash := ← required "quote_hash" asString
    dealHash := ← required "deal_hash" asString
    expiresAt := ← required "expires_at" asI64
    destinationIdentity := ← required "destination_identity" asString
    baseFee := ← required "base_fee" decodeInvoiceBundleLeg
    successFee := ← required "success_fee" decodeInvoiceBundleLeg
    minFinalCltvExpiry := ← required "min_final_cltv_expiry" asU32 }

structure InvoiceBundlePayload.Fits (x : InvoiceBundlePayload) : Prop where
  expiresAt : FitsI64 x.expiresAt
  baseFee : x.baseFee.Fits
  successFee : x.successFee.Fits
  minFinalCltvExpiry : FitsU32 x.minFinalCltvExpiry

@[simp] theorem decodeInvoiceBundlePayload_toJson {x : InvoiceBundlePayload} (h : x.Fits) :
    decodeInvoiceBundlePayload (toJson x) = some x := by
  cases h
  refine readsAs_struct ?_
  simp [lookup_append, *, -bind_pure_comp]

instance : LawfulSerialize InvoiceBundlePayload where
  injective _ _ h := by
    simpa [lookup_append, InvoiceBundlePayload.ext_iff] using lookup_eq_of_obj_eq h [
      "provider_id", "requester_id", "quote_hash", "deal_hash", "expires_at",
      "destination_identity", "base_fee", "success_fee", "min_final_cltv_expiry"]

def decodeDealPayload : Json → Option DealPayload := decodeStruct do
  return {
    requesterId := ← required "requester_id" asString
    providerId := ← required "provider_id" asString
    quoteHash := ← required "quote_hash" asString
    workloadHash := ← required "workload_hash" asString
    confidentialSessionHash := ← optional "confidential_session_hash" asString
    extensionRefs := ← defaulted "extension_refs" (asList asString) []
    authorityRef := ← optionalDefaulted "authority_ref" asString
    supersedesDealHash := ← optionalDefaulted "supersedes_deal_hash" asString
    clientNonce := ← optionalDefaulted "client_nonce" asString
    successPaymentHash := ← required "success_payment_hash" asString
    admissionDeadline := ← required "admission_deadline" asI64
    completionDeadline := ← required "completion_deadline" asI64
    acceptanceDeadline := ← required "acceptance_deadline" asI64 }

structure DealPayload.Fits (x : DealPayload) : Prop where
  admissionDeadline : FitsI64 x.admissionDeadline
  completionDeadline : FitsI64 x.completionDeadline
  acceptanceDeadline : FitsI64 x.acceptanceDeadline

@[simp] theorem decodeDealPayload_toJson {x : DealPayload} (h : x.Fits) :
    decodeDealPayload (toJson x) = some x := by
  cases h
  refine readsAs_struct ?_
  simp [lookup_append, *, -bind_pure_comp]

instance : LawfulSerialize DealPayload where
  injective _ _ h := by
    simpa [lookup_append, DealPayload.ext_iff] using lookup_eq_of_obj_eq h ["requester_id",
      "provider_id", "quote_hash", "workload_hash", "confidential_session_hash",
      "extension_refs", "authority_ref", "supersedes_deal_hash", "client_nonce",
      "success_payment_hash", "admission_deadline", "completion_deadline", "acceptance_deadline"]

def decodeReceiptSettlementLeg : Json → Option ReceiptSettlementLeg := decodeStruct do
  return {
    amountMsat := ← required "amount_msat" asU64
    invoiceHash := ← required "invoice_hash" asString
    paymentHash := ← required "payment_hash" asString
    state := ← required "state" decodeReceiptLegState }

structure ReceiptSettlementLeg.Fits (x : ReceiptSettlementLeg) : Prop where
  amountMsat : FitsU64 x.amountMsat

@[simp] theorem decodeReceiptSettlementLeg_toJson {x : ReceiptSettlementLeg} (h : x.Fits) :
    decodeReceiptSettlementLeg (toJson x) = some x := by
  cases h
  refine readsAs_struct ?_
  simp [lookup_append, *, -bind_pure_comp]

instance : LawfulSerialize ReceiptSettlementLeg where
  injective _ _ h := by
    simpa [lookup_append, ReceiptSettlementLeg.ext_iff] using lookup_eq_of_obj_eq h [
      "amount_msat", "invoice_hash", "payment_hash", "state"]

def decodeReceiptExecutor : Json → Option ReceiptExecutor := decodeStruct do
  return {
    runtime := ← required "runtime" asString
    runtimeVersion := ← required "runtime_version" asString
    executionMode := ← optional "execution_mode" asString
    attestationPlatform := ← optional "attestation_platform" asString
    measurement := ← optional "measurement" asString
    abiVersion := ← optional "abi_version" asString
    moduleHash := ← optional "module_hash" asString
    capabilitiesGranted := ← defaulted "capabilities_granted" (asList asString) [] }

@[simp] theorem decodeReceiptExecutor_toJson {x : ReceiptExecutor} :
    decodeReceiptExecutor (toJson x) = some x := by
  refine readsAs_struct ?_
  simp [lookup_append, -bind_pure_comp]

instance : LawfulSerialize ReceiptExecutor where
  injective _ _ h := by
    simpa [lookup_append, ReceiptExecutor.ext_iff] using lookup_eq_of_obj_eq h ["runtime",
      "runtime_version", "execution_mode", "attestation_platform", "measurement", "abi_version",
      "module_hash", "capabilities_granted"]

def decodeReceiptSettlementRefs : Json → Option ReceiptSettlementRefs := decodeStruct do
  return {
    method := ← required "method" asString
    bundleHash := ← optional "bundle_hash" asString
    destinationIdentity := ← required "destination_identity" asString
    baseFee := ← required "base_fee" decodeReceiptSettlementLeg
    successFee := ← required "success_fee" decodeReceiptSettlementLeg }

structure ReceiptSettlementRefs.Fits (x : ReceiptSettlementRefs) : Prop where
  baseFee : x.baseFee.Fits
  successFee : x.successFee.Fits

@[simp] theorem decodeReceiptSettlementRefs_toJson {x : ReceiptSettlementRefs} (h : x.Fits) :
    decodeReceiptSettlementRefs (toJson x) = some x := by
  cases h
  refine readsAs_struct ?_
  simp [lookup_append, *, -bind_pure_comp]

instance : LawfulSerialize ReceiptSettlementRefs where
  injective _ _ h := by
    simpa [lookup_append, ReceiptSettlementRefs.ext_iff] using lookup_eq_of_obj_eq h [
      "method", "bundle_hash", "destination_identity", "base_fee", "success_fee"]

def decodeReceiptPayload : Json → Option ReceiptPayload := decodeStruct do
  return {
    providerId := ← required "provider_id" asString
    requesterId := ← required "requester_id" asString
    dealHash := ← required "deal_hash" asString
    quoteHash := ← required "quote_hash" asString
    extensionRefs := ← defaulted "extension_refs" (asList asString) []
    acceptanceRef := ← optionalDefaulted "acceptance_ref" asString
    startedAt := ← optional "started_at" asI64
    finishedAt := ← required "finished_at" asI64
    dealState := ← required "deal_state" asString
    executionState := ← required "execution_state" asString
    settlementState := ← required "settlement_state" asString
    resultHash := ← optional "result_hash" asString
    confidentialSessionHash := ← optional "confidential_session_hash" asString
    resultEnvelopeHash := ← optional "result_envelope_hash" asString
    resultFormat := ← optional "result_format" asString
    executor := ← required "executor" decodeReceiptExecutor
    limitsApplied := ← required "limits_applied" decodeExecutionLimits
    settlementRefs := ← required "settlement_refs" decodeReceiptSettlementRefs
    failureCode := ← optional "failure_code" asString
    failureMessage := ← optional "failure_message" asString
    resultRef := ← optional "result_ref" asString }

structure ReceiptPayload.Fits (x : ReceiptPayload) : Prop where
  startedAt : ∀ n ∈ x.startedAt, FitsI64 n
  finishedAt : FitsI64 x.finishedAt
  limitsApplied : x.limitsApplied.Fits
  settlementRefs : x.settlementRefs.Fits

@[simp] theorem decodeReceiptPayload_toJson {x : ReceiptPayload} (h : x.Fits) :
    decodeReceiptPayload (toJson x) = some x := by
  cases h
  refine readsAs_struct ?_
  simp +contextual [lookup_append, *, -bind_pure_comp]

instance : LawfulSerialize ReceiptPayload where
  injective _ _ h := by
    simpa [lookup_append, ReceiptPayload.ext_iff] using lookup_eq_of_obj_eq h [
      "provider_id", "requester_id", "deal_hash", "quote_hash", "extension_refs",
      "acceptance_ref", "started_at", "finished_at", "deal_state", "execution_state",
      "settlement_state", "result_hash", "confidential_session_hash", "result_envelope_hash",
      "result_format", "executor", "limits_applied", "settlement_refs", "failure_code",
      "failure_message", "result_ref"]

/-! ## The envelope -/

section Envelope

variable {T : Type}

def decodeSignedArtifact (decodePayload : Json → Option T) :
    Json → Option (SignedArtifact T) := decodeStruct do
  return {
    artifactType := ← required "artifact_type" asString
    schemaVersion := ← required "schema_version" asString
    signer := ← required "signer" asString
    createdAt := ← required "created_at" asI64
    payloadHash := ← required "payload_hash" asString
    hash := ← defaulted "hash" asString ""
    payload := ← required "payload" decodePayload
    signature := ← required "signature" asString }

instance [Serialize T] : Serialize (SignedArtifact T) where
  toJson x := .obj <|
    field "artifact_type" x.artifactType ++ field "schema_version" x.schemaVersion
    ++ field "signer" x.signer ++ field "created_at" x.createdAt
    ++ field "payload_hash" x.payloadHash ++ textField "hash" x.hash
    ++ field "payload" x.payload ++ field "signature" x.signature

/-- An envelope is read back, when its payload is. -/
theorem decodeSignedArtifact_toJson [Serialize T] {decodePayload : Json → Option T}
    {a : SignedArtifact T} (hcreated : FitsI64 a.createdAt)
    (hpayload : decodePayload (toJson a.payload) = some a.payload) :
    decodeSignedArtifact decodePayload (toJson a) = some a := by
  refine readsAs_struct ?_
  simp [lookup_append, hcreated, hpayload, -bind_pure_comp]

end Envelope

end Froglet
