import Froglet.Lib.Checks
import Froglet.Protocol.Json

/-!
# Signed artifacts

A deal is documented by a chain of signed artifacts: the provider's descriptor, offer
and quote, the requester's deal, the invoice bundle of a Lightning escrow deal, and the
provider's receipt.
-/

namespace Froglet
variable {signer artifactType : String} {signMessageHex : Bytes → String} {createdAt : ℤ}

/-! ## Names fixed by the protocol -/

def frogletSchemaV1 : String := "froglet/v1"

def artifactTypeDescriptor : String := "descriptor"
def artifactTypeOffer : String := "offer"
def artifactTypeQuote : String := "quote"
def artifactTypeDeal : String := "deal"
def artifactTypeReceipt : String := "receipt"
def transportTypeInvoiceBundle : String := "invoice_bundle"

def settlementMethodNone : String := "none"
def settlementMethodLightningEscrow : String := "lightning.base_fee_plus_success_fee.v1"
def settlementMethodStripeMpp : String := "stripe_mpp.v1"
def settlementMethodLightningPrepaid : String := "lightning.prepaid.v1"
def settlementMethodX402Eip3009 : String := "x402.eip3009.v1"

inductive PublicationSettlement where
  | none
  | lightning
  | stripe
deriving DecidableEq

def linkedIdentityKindNostr : String := "nostr"
def linkedIdentitySignatureAlgorithmBip340 : String := "secp256k1_schnorr_bip340"

/-! ## Payloads -/

@[ext] structure LinkedIdentity where
  (identityKind identity : String)
  scope : List String
  createdAt : ℤ
  expiresAt : Option ℤ
  (signatureAlgorithm linkedSignature : String)
deriving DecidableEq

instance : Serialize LinkedIdentity where
  toJson x := .obj <|
    field "identity_kind" x.identityKind ++ field "identity" x.identity
    ++ field "scope" x.scope ++ field "created_at" x.createdAt
    ++ optField "expires_at" x.expiresAt
    ++ field "signature_algorithm" x.signatureAlgorithm
    ++ field "linked_signature" x.linkedSignature

@[ext] structure TransportEndpoint where
  (transport uri : String)
  (createdAt expiresAt : Option ℤ)
  priority : ℕ
  features : List String
deriving DecidableEq

instance : Serialize TransportEndpoint where
  toJson x := .obj <|
    field "transport" x.transport ++ field "uri" x.uri
    ++ optField "created_at" x.createdAt ++ optField "expires_at" x.expiresAt
    ++ field "priority" x.priority ++ listField "features" x.features

@[ext] structure DescriptorCapabilities where
  (serviceKinds executionRuntimes : List String)
  maxConcurrentDeals : Option ℕ
deriving DecidableEq

instance : Serialize DescriptorCapabilities where
  toJson x := .obj <|
    field "service_kinds" x.serviceKinds
    ++ field "execution_runtimes" x.executionRuntimes
    ++ optField "max_concurrent_deals" x.maxConcurrentDeals

@[ext] structure DescriptorPayload where
  providerId : String
  descriptorSeq : ℕ
  protocolVersion : String
  expiresAt : Option ℤ
  linkedIdentities : List LinkedIdentity
  transportEndpoints : List TransportEndpoint
  capabilities : DescriptorCapabilities
  acceptedPaymentMethods : List String
deriving DecidableEq

instance : Serialize DescriptorPayload where
  toJson x := .obj <|
    field "provider_id" x.providerId ++ field "descriptor_seq" x.descriptorSeq
    ++ field "protocol_version" x.protocolVersion ++ optField "expires_at" x.expiresAt
    ++ listField "linked_identities" x.linkedIdentities
    ++ listField "transport_endpoints" x.transportEndpoints
    ++ field "capabilities" x.capabilities
    ++ listField "accepted_payment_methods" x.acceptedPaymentMethods

inductive ExecutionRuntime where
  | any | wasm | python | container | builtin | teeService | teeWasm | teePython
deriving DecidableEq

instance : Serialize ExecutionRuntime where
  toJson
    | .any => .str "any"
    | .wasm => .str "wasm"
    | .python => .str "python"
    | .container => .str "container"
    | .builtin => .str "builtin"
    | .teeService => .str "tee_service"
    | .teeWasm => .str "tee_wasm"
    | .teePython => .str "tee_python"

@[ext] structure OfferExecutionProfile where
  runtime : ExecutionRuntime
  (packageKind contractVersion : String)
  accessHandles : List String
  abiVersion : String
  capabilities : List String
  (maxInputBytes maxRuntimeMs maxMemoryBytes maxOutputBytes fuelLimit : ℕ)
deriving DecidableEq

instance : Serialize OfferExecutionProfile where
  toJson x := .obj <|
    field "runtime" x.runtime ++ textField "package_kind" x.packageKind
    ++ textField "contract_version" x.contractVersion
    ++ listField "access_handles" x.accessHandles ++ textField "abi_version" x.abiVersion
    ++ listField "capabilities" x.capabilities ++ field "max_input_bytes" x.maxInputBytes
    ++ field "max_runtime_ms" x.maxRuntimeMs ++ field "max_memory_bytes" x.maxMemoryBytes
    ++ field "max_output_bytes" x.maxOutputBytes ++ field "fuel_limit" x.fuelLimit

@[ext] structure OfferPriceSchedule where
  (baseFeeMsat successFeeMsat : ℕ)
deriving DecidableEq

instance : Serialize OfferPriceSchedule where
  toJson x := .obj <|
    field "base_fee_msat" x.baseFeeMsat ++ field "success_fee_msat" x.successFeeMsat

@[ext] structure OfferPayload where
  (providerId offerId descriptorHash : String)
  expiresAt : Option ℤ
  (offerKind settlementMethod : String)
  quoteTtlSecs : ℕ
  executionProfile : OfferExecutionProfile
  priceSchedule : OfferPriceSchedule
  (termsHash confidentialProfileHash : Option String)
deriving DecidableEq

instance : Serialize OfferPayload where
  toJson x := .obj <|
    field "provider_id" x.providerId ++ field "offer_id" x.offerId
    ++ field "descriptor_hash" x.descriptorHash ++ optField "expires_at" x.expiresAt
    ++ field "offer_kind" x.offerKind ++ field "settlement_method" x.settlementMethod
    ++ field "quote_ttl_secs" x.quoteTtlSecs
    ++ field "execution_profile" x.executionProfile
    ++ field "price_schedule" x.priceSchedule ++ optField "terms_hash" x.termsHash
    ++ optField "confidential_profile_hash" x.confidentialProfileHash

@[ext] structure QuoteSettlementTerms where
  (method destinationIdentity : String)
  (baseFeeMsat successFeeMsat maxBaseInvoiceExpirySecs maxSuccessHoldExpirySecs : ℕ)
  minFinalCltvExpiry : ℕ
deriving DecidableEq

instance : Serialize QuoteSettlementTerms where
  toJson x := .obj <|
    field "method" x.method ++ field "destination_identity" x.destinationIdentity
    ++ field "base_fee_msat" x.baseFeeMsat ++ field "success_fee_msat" x.successFeeMsat
    ++ field "max_base_invoice_expiry_secs" x.maxBaseInvoiceExpirySecs
    ++ field "max_success_hold_expiry_secs" x.maxSuccessHoldExpirySecs
    ++ field "min_final_cltv_expiry" x.minFinalCltvExpiry

@[ext] structure ExecutionLimits where
  (maxInputBytes maxRuntimeMs maxMemoryBytes maxOutputBytes fuelLimit : ℕ)
deriving DecidableEq

instance : Serialize ExecutionLimits where
  toJson x := .obj <|
    field "max_input_bytes" x.maxInputBytes ++ field "max_runtime_ms" x.maxRuntimeMs
    ++ field "max_memory_bytes" x.maxMemoryBytes
    ++ field "max_output_bytes" x.maxOutputBytes ++ field "fuel_limit" x.fuelLimit

@[ext] structure QuotePayload where
  (providerId requesterId descriptorHash offerHash : String)
  expiresAt : ℤ
  (workloadKind workloadHash : String)
  confidentialSessionHash : Option String
  (capabilitiesGranted extensionRefs : List String)
  quoteUse : Option String
  settlementTerms : QuoteSettlementTerms
  executionLimits : ExecutionLimits
deriving DecidableEq

instance : Serialize QuotePayload where
  toJson x := .obj <|
    field "provider_id" x.providerId ++ field "requester_id" x.requesterId
    ++ field "descriptor_hash" x.descriptorHash ++ field "offer_hash" x.offerHash
    ++ field "expires_at" x.expiresAt ++ field "workload_kind" x.workloadKind
    ++ field "workload_hash" x.workloadHash
    ++ optField "confidential_session_hash" x.confidentialSessionHash
    ++ listField "capabilities_granted" x.capabilitiesGranted
    ++ listField "extension_refs" x.extensionRefs ++ optField "quote_use" x.quoteUse
    ++ field "settlement_terms" x.settlementTerms
    ++ field "execution_limits" x.executionLimits

/-- The state of a leg of an invoice bundle. -/
inductive InvoiceBundleLegState where
  | opened | accepted | settled | canceled | expired
deriving DecidableEq

instance : Serialize InvoiceBundleLegState where
  toJson
    | .opened => .str "open"
    | .accepted => .str "accepted"
    | .settled => .str "settled"
    | .canceled => .str "canceled"
    | .expired => .str "expired"

@[ext] structure InvoiceBundleLeg where
  amountMsat : ℕ
  (invoiceBolt11 invoiceHash paymentHash : String)
  state : InvoiceBundleLegState
deriving DecidableEq

instance : Serialize InvoiceBundleLeg where
  toJson x := .obj <|
    field "amount_msat" x.amountMsat ++ field "invoice_bolt11" x.invoiceBolt11
    ++ field "invoice_hash" x.invoiceHash ++ field "payment_hash" x.paymentHash
    ++ field "state" x.state

@[ext] structure InvoiceBundlePayload where
  (providerId requesterId quoteHash dealHash : String)
  expiresAt : ℤ
  destinationIdentity : String
  (baseFee successFee : InvoiceBundleLeg)
  minFinalCltvExpiry : ℕ
deriving DecidableEq

instance : Serialize InvoiceBundlePayload where
  toJson x := .obj <|
    field "provider_id" x.providerId ++ field "requester_id" x.requesterId
    ++ field "quote_hash" x.quoteHash ++ field "deal_hash" x.dealHash
    ++ field "expires_at" x.expiresAt
    ++ field "destination_identity" x.destinationIdentity
    ++ field "base_fee" x.baseFee ++ field "success_fee" x.successFee
    ++ field "min_final_cltv_expiry" x.minFinalCltvExpiry

@[ext] structure DealPayload where
  (requesterId providerId quoteHash workloadHash : String)
  confidentialSessionHash : Option String
  extensionRefs : List String
  (authorityRef supersedesDealHash clientNonce : Option String)
  successPaymentHash : String
  (admissionDeadline completionDeadline acceptanceDeadline : ℤ)
deriving DecidableEq

instance : Serialize DealPayload where
  toJson x := .obj <|
    field "requester_id" x.requesterId ++ field "provider_id" x.providerId
    ++ field "quote_hash" x.quoteHash ++ field "workload_hash" x.workloadHash
    ++ optField "confidential_session_hash" x.confidentialSessionHash
    ++ listField "extension_refs" x.extensionRefs
    ++ optField "authority_ref" x.authorityRef
    ++ optField "supersedes_deal_hash" x.supersedesDealHash
    ++ optField "client_nonce" x.clientNonce
    ++ field "success_payment_hash" x.successPaymentHash
    ++ field "admission_deadline" x.admissionDeadline
    ++ field "completion_deadline" x.completionDeadline
    ++ field "acceptance_deadline" x.acceptanceDeadline

/-- The state of a settlement leg on a receipt. -/
inductive ReceiptLegState where
  | opened | accepted | settled | canceled | expired
deriving DecidableEq

instance : Serialize ReceiptLegState where
  toJson
    | .opened => .str "open"
    | .accepted => .str "accepted"
    | .settled => .str "settled"
    | .canceled => .str "canceled"
    | .expired => .str "expired"

@[ext] structure ReceiptSettlementLeg where
  amountMsat : ℕ
  (invoiceHash paymentHash : String)
  state : ReceiptLegState
deriving DecidableEq

instance : Serialize ReceiptSettlementLeg where
  toJson x := .obj <|
    field "amount_msat" x.amountMsat ++ field "invoice_hash" x.invoiceHash
    ++ field "payment_hash" x.paymentHash ++ field "state" x.state

@[ext] structure ReceiptExecutor where
  (runtime runtimeVersion : String)
  (executionMode attestationPlatform measurement abiVersion moduleHash : Option String)
  capabilitiesGranted : List String
deriving DecidableEq

instance : Serialize ReceiptExecutor where
  toJson x := .obj <|
    field "runtime" x.runtime ++ field "runtime_version" x.runtimeVersion
    ++ optField "execution_mode" x.executionMode
    ++ optField "attestation_platform" x.attestationPlatform
    ++ optField "measurement" x.measurement ++ optField "abi_version" x.abiVersion
    ++ optField "module_hash" x.moduleHash
    ++ listField "capabilities_granted" x.capabilitiesGranted

@[ext] structure ReceiptSettlementRefs where
  method : String
  bundleHash : Option String
  destinationIdentity : String
  (baseFee successFee : ReceiptSettlementLeg)
deriving DecidableEq

instance : Serialize ReceiptSettlementRefs where
  toJson x := .obj <|
    field "method" x.method ++ optField "bundle_hash" x.bundleHash
    ++ field "destination_identity" x.destinationIdentity
    ++ field "base_fee" x.baseFee ++ field "success_fee" x.successFee

@[ext] structure ReceiptPayload where
  (providerId requesterId dealHash quoteHash : String)
  extensionRefs : List String
  acceptanceRef : Option String
  startedAt : Option ℤ
  finishedAt : ℤ
  (dealState executionState settlementState : String)
  (resultHash confidentialSessionHash resultEnvelopeHash resultFormat : Option String)
  executor : ReceiptExecutor
  limitsApplied : ExecutionLimits
  settlementRefs : ReceiptSettlementRefs
  (failureCode failureMessage resultRef : Option String)
deriving DecidableEq

instance : Serialize ReceiptPayload where
  toJson x := .obj <|
    field "provider_id" x.providerId ++ field "requester_id" x.requesterId
    ++ field "deal_hash" x.dealHash ++ field "quote_hash" x.quoteHash
    ++ listField "extension_refs" x.extensionRefs
    ++ optField "acceptance_ref" x.acceptanceRef ++ optField "started_at" x.startedAt
    ++ field "finished_at" x.finishedAt ++ field "deal_state" x.dealState
    ++ field "execution_state" x.executionState
    ++ field "settlement_state" x.settlementState ++ optField "result_hash" x.resultHash
    ++ optField "confidential_session_hash" x.confidentialSessionHash
    ++ optField "result_envelope_hash" x.resultEnvelopeHash
    ++ optField "result_format" x.resultFormat ++ field "executor" x.executor
    ++ field "limits_applied" x.limitsApplied ++ field "settlement_refs" x.settlementRefs
    ++ optField "failure_code" x.failureCode
    ++ optField "failure_message" x.failureMessage ++ optField "result_ref" x.resultRef

/-! ## The envelope -/

structure SignedArtifact (T : Type) where
  (artifactType schemaVersion signer : String)
  createdAt : ℤ
  (payloadHash hash : String)
  payload : T
  signature : String
deriving DecidableEq

abbrev SignedDescriptor := SignedArtifact DescriptorPayload
abbrev SignedOffer := SignedArtifact OfferPayload
abbrev SignedQuote := SignedArtifact QuotePayload
abbrev SignedInvoiceBundle := SignedArtifact InvoiceBundlePayload
abbrev SignedDeal := SignedArtifact DealPayload
abbrev SignedReceipt := SignedArtifact ReceiptPayload

section Envelope

variable {T : Type} [Serialize T] (P : Primitives)

def payloadHash (payload : T) : Except String String := do
  let bytes ← P.canonicalJson (toJson payload)
  return P.sha256Hex bytes

def canonicalSigningBytes (schemaVersion artifactType signer : String) (createdAt : ℤ)
    (payloadHash : String) (payload : T) : Except String Bytes :=
  P.canonicalJson (.arr [toJson schemaVersion, toJson artifactType, toJson signer,
    toJson createdAt, toJson payloadHash, toJson payload])

def SignedArtifact.signingBytes (a : SignedArtifact T) : Except String Bytes :=
  canonicalSigningBytes P a.schemaVersion a.artifactType a.signer a.createdAt a.payloadHash
    a.payload

def signArtifact (signer : String) (signMessageHex : Bytes → String) (artifactType : String)
    (createdAt : ℤ) (payload : T) : Except String (SignedArtifact T) := do
  let payloadHash ← payloadHash P payload
  let bytes ← canonicalSigningBytes P frogletSchemaV1 artifactType signer createdAt
    payloadHash payload
  return { artifactType, schemaVersion := frogletSchemaV1, signer, createdAt, payloadHash
           hash := P.sha256Hex bytes, payload, signature := signMessageHex bytes }

def verifyArtifact (a : SignedArtifact T) : Bool :=
  if a.schemaVersion != frogletSchemaV1 then false
  else match payloadHash P a.payload with
  | .error _ => false
  | .ok payloadHash =>
    if payloadHash != a.payloadHash then false
    else match a.signingBytes P with
    | .error _ => false
    | .ok bytes =>
      if a.hash != P.sha256Hex bytes then false
      else P.verifyMessage a.signer a.signature bytes

/-- What a verified envelope commits to: its payload hash and its own hash
are the recomputed ones, and the signer signed the bytes of its fields. -/
structure Authentic (a : SignedArtifact T) : Prop where
  schemaVersion : a.schemaVersion = frogletSchemaV1
  payloadHash : payloadHash P a.payload = .ok a.payloadHash
  signed : ∃ bytes, a.signingBytes P = .ok bytes ∧ a.hash = P.sha256Hex bytes
    ∧ P.verifyMessage a.signer a.signature bytes = true

theorem verifyArtifact_iff (a : SignedArtifact T) : verifyArtifact P a = true ↔ Authentic P a := by
  unfold verifyArtifact
  constructor
  · intro h
    by_cases hs : a.schemaVersion = frogletSchemaV1
    · cases hp : payloadHash P a.payload with
      | error e => simp [hs, hp] at h
      | ok ph =>
        cases hb : a.signingBytes P with
        | error e => simp [hs, hp, hb] at h
        | ok bytes =>
          simp only [hs, hp, hb, bne_self_eq_false, Bool.false_eq_true, if_false, bne_iff_ne, ne_eq,
            ite_not, Bool.if_false_right, Bool.and_eq_true, decide_eq_true_eq] at h
          exact ⟨hs, hp.trans (congrArg _ h.1), bytes, hb, h.2⟩
    · simp [hs] at h
  · rintro ⟨hs, hp, bytes, hb, hh, hv⟩
    simp [hs, hp, hb, hh, hv]

/-- A signed artifact verifies, when what the signer produces verifies under
the signer's key. -/
theorem authentic_of_signArtifact
    (hsign : ∀ bytes, P.verifyMessage signer (signMessageHex bytes) bytes = true)
    {payload : T} {a : SignedArtifact T}
    (h : signArtifact P signer signMessageHex artifactType createdAt payload = .ok a) :
    Authentic P a ∧ a.artifactType = artifactType ∧ a.signer = signer ∧ a.payload = payload := by
  unfold signArtifact at h
  simp only [bind_eq_ok, pure_eq_ok] at h
  obtain ⟨ph, hp, bytes, hb, rfl⟩ := h
  exact ⟨⟨rfl, hp, bytes, hb, rfl, hsign bytes⟩, rfl, rfl, rfl⟩

variable {P}

theorem createdAt_of_signArtifact {payload : T} {a : SignedArtifact T}
    (h : signArtifact P signer signMessageHex artifactType createdAt payload = .ok a) :
    a.createdAt = createdAt := by
  unfold signArtifact at h
  simp only [bind_eq_ok, pure_eq_ok] at h
  obtain ⟨_, -, _, -, rfl⟩ := h
  rfl

end Envelope

end Froglet
