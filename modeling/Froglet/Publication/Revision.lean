import Froglet.Protocol.Decode
import Froglet.Publication.Deployment
import Froglet.Publication.Limits

/-!
# Publication revisions

A publication revision is the provider's signed statement that binds an offer to the
bytes it runs, its price, its limits and the local verification it passed.
-/

namespace Froglet

open List
open ManagedDeployment (isControlChar stripText)

variable {α : Type}

def publicationRevisionSchemaV1 : String := "froglet.publication-revision.v1"
def publicationBuildEvidenceSchemaV1 : String := "froglet.publication-build-evidence.v1"
def publicationRevisionSignatureDomain : String := "froglet-publication-revision-v1\n"
def maxRevisionSchemaBytes : ℕ := 64 * 1024
def maxRevisionTextBytes : ℕ := 16 * 1024
def maxRevisionMounts : ℕ := 64
def maxRevisionCapabilities : ℕ := 128

def objectStoreMountKind : String := "object_store"
def legacyS3MountKind : String := "s3"

def canonicalMountKind (kind : String) : Option String :=
  if kind = "postgres" then some "postgres"
  else if kind = "sqlite" then some "sqlite"
  else if kind = objectStoreMountKind ∨ kind = legacyS3MountKind then some objectStoreMountKind
  else if kind = "redis" then some "redis"
  else none

/-! ## Records -/

instance : Serialize PublicationSettlement where
  toJson
    | .none => .str "none"
    | .lightning => .str "lightning"
    | .stripe => .str "stripe"

inductive PublicationCurrency where
  | sat | usd
deriving DecidableEq

instance : Serialize PublicationCurrency where
  toJson
    | .sat => .str "sat"
    | .usd => .str "usd"

structure PublicationDependencyComponent where
  (role name version digest : String)
deriving DecidableEq

instance : Serialize PublicationDependencyComponent where
  toJson x := .obj <|
    field "role" x.role ++ field "name" x.name ++ field "version" x.version
    ++ field "digest" x.digest

structure PublicationBuildEvidence where
  (schemaVersion builder builderVersion sourceDigest artifactDigest dependencyMode : String)
  components : List PublicationDependencyComponent
  hermetic : Bool
deriving DecidableEq

instance : Serialize PublicationBuildEvidence where
  toJson x := .obj <|
    field "schema_version" x.schemaVersion ++ field "builder" x.builder
    ++ field "builder_version" x.builderVersion ++ field "source_digest" x.sourceDigest
    ++ field "artifact_digest" x.artifactDigest ++ field "dependency_mode" x.dependencyMode
    ++ listField "components" x.components ++ field "hermetic" x.hermetic

structure PublicationMount where
  (handle kind : String)
  readOnly : Bool
  binding : Option String
deriving DecidableEq

instance : Serialize PublicationMount where
  toJson x := .obj <|
    field "handle" x.handle ++ field "kind" x.kind ++ field "read_only" x.readOnly
    ++ optField "binding" x.binding

instance : Serialize ResolvedPublicationLimits where
  toJson x := .obj <|
    field "max_input_bytes" x.maxInputBytes ++ field "max_runtime_ms" x.maxRuntimeMs
    ++ field "max_memory_bytes" x.maxMemoryBytes ++ field "max_output_bytes" x.maxOutputBytes
    ++ field "fuel_limit" x.fuelLimit

structure LocalVerificationEvidence where
  (inputHash resultHash : String)
  expectedOutputMatched : Option Bool
deriving DecidableEq

instance : Serialize LocalVerificationEvidence where
  toJson x := .obj <|
    field "input_hash" x.inputHash ++ field "result_hash" x.resultHash
    ++ optField "expected_output_matched" x.expectedOutputMatched

structure PublicationRevisionPrice where
  settlementMethod : PublicationSettlement
  currency : PublicationCurrency
  (baseAmountMinor successAmountMinor : ℕ)
  offerSettlementMethod : String
deriving DecidableEq

instance : Serialize PublicationRevisionPrice where
  toJson x := .obj <|
    field "settlement_method" x.settlementMethod ++ field "currency" x.currency
    ++ field "base_amount_minor" x.baseAmountMinor
    ++ field "success_amount_minor" x.successAmountMinor
    ++ field "offer_settlement_method" x.offerSettlementMethod

structure PublicationRevisionService where
  (projectId summary starter : Option String)
  (sourceKind entrypointKind entrypoint contractVersion mode : String)
  mounts : List PublicationMount
  capabilities : List String
  (inputSchema outputSchema : Option Json)
deriving DecidableEq

instance : Serialize PublicationRevisionService where
  toJson x := .obj <|
    optField "project_id" x.projectId ++ optField "summary" x.summary
    ++ optField "starter" x.starter ++ field "source_kind" x.sourceKind
    ++ field "entrypoint_kind" x.entrypointKind ++ field "entrypoint" x.entrypoint
    ++ field "contract_version" x.contractVersion ++ field "mode" x.mode
    ++ listField "mounts" x.mounts ++ listField "capabilities" x.capabilities
    ++ optField "input_schema" x.inputSchema ++ optField "output_schema" x.outputSchema

structure PublicationRevisionPayload where
  (schemaVersion providerId serviceId offerId offerHash bindingHash packageDigest runtime : String)
  packageKind : String
  buildEvidence : Option PublicationBuildEvidence
  service : PublicationRevisionService
  limits : ResolvedPublicationLimits
  price : PublicationRevisionPrice
  localVerification : LocalVerificationEvidence
deriving DecidableEq

instance : Serialize PublicationRevisionPayload where
  toJson x := .obj <|
    field "schema_version" x.schemaVersion ++ field "provider_id" x.providerId
    ++ field "service_id" x.serviceId ++ field "offer_id" x.offerId
    ++ field "offer_hash" x.offerHash ++ field "binding_hash" x.bindingHash
    ++ field "package_digest" x.packageDigest ++ field "runtime" x.runtime
    ++ field "package_kind" x.packageKind ++ optField "build_evidence" x.buildEvidence
    ++ field "service" x.service ++ field "limits" x.limits ++ field "price" x.price
    ++ field "local_verification" x.localVerification

structure SignedPublicationRevision where
  (revisionHash signerPubkey signature : String)
  payload : PublicationRevisionPayload
deriving DecidableEq

instance : Serialize SignedPublicationRevision where
  toJson x := .obj <|
    field "revision_hash" x.revisionHash ++ field "signer_pubkey" x.signerPubkey
    ++ field "signature" x.signature ++ field "payload" x.payload

/-! ## Validation -/

inductive PublicationRevisionError where
  | invalidPayload (reason : String)
  | canonical (reason : String)
  | hashMismatch
  | signatureInvalid
deriving DecidableEq

def PublicationRevisionError.message : PublicationRevisionError → String
  | .invalidPayload reason => s!"invalid publication revision payload: {reason}"
  | .canonical reason => s!"publication revision canonicalization failed: {reason}"
  | .hashMismatch => "publication revision hash mismatch"
  | .signatureInvalid => "publication revision signature verification failed"

def validHash (value : String) : Bool := isLowerHexLen value 64

def isPrintable (value : String) : Bool :=
  !value.isEmpty && value.utf8ByteSize ≤ 128 && !value.toList.any isControlChar

def strictlyAscending (lt : α → α → Bool) (keys : List α) : Bool :=
  (keys.zip keys.tail).all fun (a, b) => lt a b

namespace PublicationBuildEvidence

def checkComponent (component : PublicationDependencyComponent) : Except String Unit := do
  [("role", component.role), ("name", component.name), ("version", component.version)].forM
    fun (field, value) => rejectIf (!isPrintable value)
      s!"build dependency {field} must be 1-128 printable bytes"
  rejectIf (!validHash component.digest)
    "build dependency digest must be 64 lowercase hex characters"

def checkComponents : Option (String × String) → List PublicationDependencyComponent →
    Except String Unit
  | _, [] => .ok ()
  | prior, component :: rest => do
    checkComponent component
    rejectIf (prior.any (fun (role, name) =>
        !(decide (role < component.role)
          || (role == component.role && decide (name < component.name)))))
      "build dependency components must be sorted and unique"
    checkComponents (some (component.role, component.name)) rest

def checkDependencyMode (evidence : PublicationBuildEvidence) : Except String Unit :=
  if evidence.dependencyMode = "none" then
    rejectIf (!evidence.components.isEmpty) "dependency_mode=none cannot include components"
  else if evidence.dependencyMode = "locked" then
    rejectIf evidence.components.isEmpty "dependency_mode=locked requires at least one component"
  else if evidence.dependencyMode = "unresolved" then
    rejectIf (!evidence.components.isEmpty)
      "dependency_mode=unresolved cannot claim locked components"
  else .error "dependency_mode must be one of: none, locked, unresolved"

def validate (evidence : PublicationBuildEvidence) : Except String Unit := do
  rejectIf (evidence.schemaVersion != publicationBuildEvidenceSchemaV1)
    "unsupported publication build evidence schema_version"
  [("builder", evidence.builder), ("builder_version", evidence.builderVersion)].forM
    fun (field, value) => rejectIf (!isPrintable value)
      s!"build evidence {field} must be 1-128 printable bytes"
  [("source_digest", evidence.sourceDigest), ("artifact_digest", evidence.artifactDigest)].forM
    fun (field, digest) => rejectIf (!validHash digest)
      s!"build evidence {field} must be 64 lowercase hex characters"
  evidence.checkDependencyMode
  checkComponents none evidence.components
  rejectIf (evidence.hermetic && evidence.dependencyMode == "unresolved")
    "a hermetic build cannot have unresolved dependencies"

end PublicationBuildEvidence

namespace PublicationMount

def validateAuthoring (mount : PublicationMount) : Except String Unit := do
  rejectIf mount.binding.isSome <| "invalid publication mount: "
    ++ "publication mounts must not include provider-owned binding material"
  let kind := mount.kind.quote
  rejectIf (canonicalMountKind mount.kind).isNone <| "invalid publication mount: "
    ++ s!"unsupported mount kind {kind}; "
    ++ "allowed: postgres, sqlite, object_store, redis (legacy alias: s3)"
  rejectIf (mount.handle.isEmpty || decide (64 < mount.handle.utf8ByteSize)
      || !mount.handle.toList.all (fun c => c.isLower || c.isDigit || c == '_')) <|
    "invalid publication mount: "
    ++ "mount handle must contain 1-64 lowercase ASCII letters, digits, or underscores"

def accessCapability (mount : PublicationMount) : String :=
  let access := if mount.readOnly then "read" else "write"
  let kind := mount.kind
  let handle := mount.handle
  s!"mount.{kind}.{access}.{handle}"

end PublicationMount

def splitChars (separator : Char) : List Char → List (List Char)
  | [] => [[]]
  | c :: rest =>
    if c = separator then [] :: splitChars separator rest
    else match splitChars separator rest with
      | [] => [[c]]
      | segment :: segments => (c :: segment) :: segments

def validCapability (capability : String) : Bool :=
  !capability.isEmpty && capability.utf8ByteSize ≤ 128
    && (splitChars '.' capability.toList).all fun segment =>
      !segment.isEmpty && segment.all (fun c => c.isAlphanum || c == '-' || c == '_')

section Validation

variable (P : Primitives)

namespace PublicationRevisionService

def checkMounts (capabilities : List String) :
    List String → List PublicationMount → Except PublicationRevisionError Unit
  | _, [] => .ok ()
  | handles, mount :: rest => do
    mount.validateAuthoring.mapError .invalidPayload
    let handle := mount.handle.quote
    rejectIf (handles.contains mount.handle) <|
      .invalidPayload s!"duplicate service mount handle {handle}"
    rejectIf (!capabilities.contains mount.accessCapability) <|
      .invalidPayload s!"service capabilities omit access declaration for mount {handle}"
    checkMounts capabilities (mount.handle :: handles) rest

def checkSchema (name : String) : Option Json → Except PublicationRevisionError Unit
  | none => .ok ()
  | some schema => do
    let encoded ← (P.canonicalJson schema).mapError .canonical
    rejectIf (decide (maxRevisionSchemaBytes < encoded.length)) <|
      .invalidPayload s!"{name} exceeds {maxRevisionSchemaBytes} canonical JSON bytes"

def validate (service : PublicationRevisionService) : Except PublicationRevisionError Unit := do
  [("service.source_kind", service.sourceKind), ("service.entrypoint_kind", service.entrypointKind),
   ("service.entrypoint", service.entrypoint),
   ("service.contract_version", service.contractVersion)].forM
    fun (field, value) => rejectIf (isBlank value) <| .invalidPayload s!"{field} must not be empty"
  rejectIf (service.mode != "sync" && service.mode != "async") <|
    .invalidPayload "service.mode must be sync or async"
  rejectIf (service.projectId.any isBlank) <|
    .invalidPayload "service.project_id must not be empty when present"
  [("service.summary", service.summary), ("service.starter", service.starter)].forM
    fun (field, value) =>
      rejectIf (value.any (fun text => decide (maxRevisionTextBytes < text.utf8ByteSize))) <|
        .invalidPayload s!"{field} exceeds {maxRevisionTextBytes} bytes"
  rejectIf (decide (maxRevisionMounts < service.mounts.length)) <|
    .invalidPayload s!"service.mounts exceeds {maxRevisionMounts} entries"
  checkMounts service.capabilities [] service.mounts
  rejectIf (decide (maxRevisionCapabilities < service.capabilities.length)) <|
    .invalidPayload s!"service.capabilities exceeds {maxRevisionCapabilities} entries"
  rejectIf (service.capabilities.any (fun capability => !validCapability capability)) <|
    .invalidPayload "service.capabilities contains an invalid capability"
  rejectIf (!strictlyAscending (fun a b => decide (a < b)) service.capabilities) <|
    .invalidPayload "service.capabilities must be sorted and unique"
  checkSchema P "service.input_schema" service.inputSchema
  checkSchema P "service.output_schema" service.outputSchema

def validateCanonicalForSigning (service : PublicationRevisionService) :
    Except PublicationRevisionError Unit :=
  rejectIf (service.mounts.any (·.kind == legacyS3MountKind)
      || service.capabilities.any (fun capability => (stripText "mount.s3." capability).isSome)) <|
    .invalidPayload "new publication revisions must use object_store, not the legacy s3 alias"

end PublicationRevisionService

namespace PublicationRevisionPayload

def checkBuildEvidence (payload : PublicationRevisionPayload) :
    Except PublicationRevisionError Unit :=
  match payload.buildEvidence with
  | none => .ok ()
  | some evidence => do
    evidence.validate.mapError .invalidPayload
    rejectIf (evidence.artifactDigest != payload.packageDigest) <|
      .invalidPayload "build evidence artifact_digest must equal package_digest"

def checkPrice (price : PublicationRevisionPrice) : Except PublicationRevisionError Unit :=
  match checkedAdd price.baseAmountMinor price.successAmountMinor with
  | none => .error (.invalidPayload "price total overflow")
  | some total =>
    match price.settlementMethod with
    | .none =>
      rejectIf (total != 0 || price.offerSettlementMethod != "none") <|
        .invalidPayload "free revision requires zero amounts and offer settlement none"
    | .lightning =>
      rejectIf (price.currency != .sat
          || (stripText "lightning." price.offerSettlementMethod).isNone) <|
        .invalidPayload "lightning revision requires sat currency and a Lightning offer method"
    | .stripe =>
      rejectIf (price.currency != .usd || price.offerSettlementMethod != "stripe_mpp.v1") <|
        .invalidPayload "Stripe revision requires usd currency and stripe_mpp.v1"

def validate (payload : PublicationRevisionPayload) : Except PublicationRevisionError Unit := do
  rejectIf (payload.schemaVersion != publicationRevisionSchemaV1) <|
    .invalidPayload "unsupported schema_version"
  [("provider_id", payload.providerId), ("offer_hash", payload.offerHash),
   ("binding_hash", payload.bindingHash), ("package_digest", payload.packageDigest),
   ("local_verification.input_hash", payload.localVerification.inputHash),
   ("local_verification.result_hash", payload.localVerification.resultHash)].forM
    fun (field, value) => rejectIf (!validHash value) <|
      .invalidPayload s!"{field} must be 64 lowercase hex characters"
  [("service_id", payload.serviceId), ("offer_id", payload.offerId),
   ("runtime", payload.runtime), ("package_kind", payload.packageKind),
   ("price.offer_settlement_method", payload.price.offerSettlementMethod)].forM
    fun (field, value) => rejectIf (isBlank value) <| .invalidPayload s!"{field} must not be empty"
  rejectIf (payload.localVerification.expectedOutputMatched == some false) <|
    .invalidPayload "a failed local verification cannot be signed as a revision"
  payload.checkBuildEvidence
  payload.service.validate P
  [("limits.max_input_bytes", payload.limits.maxInputBytes),
   ("limits.max_runtime_ms", payload.limits.maxRuntimeMs),
   ("limits.max_output_bytes", payload.limits.maxOutputBytes)].forM
    fun (field, value) => rejectIf (value == 0) <|
      .invalidPayload s!"{field} must be greater than zero"
  rejectIf (payload.runtime != "builtin" && payload.limits.maxMemoryBytes == 0) <|
    .invalidPayload "limits.max_memory_bytes must be greater than zero for non-builtin runtimes"
  checkPrice payload.price

def validateCanonicalForSigning (payload : PublicationRevisionPayload) :
    Except PublicationRevisionError Unit := do
  payload.validate P
  payload.service.validateCanonicalForSigning

end PublicationRevisionPayload

/-! ## Signing and verifying -/

def publicationRevisionSigningBytes (payload : PublicationRevisionPayload) :
    Except PublicationRevisionError Bytes := do
  let canonical ← (P.canonicalJson (toJson payload)).mapError .canonical
  return textBytes publicationRevisionSignatureDomain ++ canonical

def signPublicationRevision (payload : PublicationRevisionPayload)
    (signMessageHex : Bytes → String) :
    Except PublicationRevisionError SignedPublicationRevision := do
  payload.validateCanonicalForSigning P
  let canonical ← (P.canonicalJson (toJson payload)).mapError .canonical
  let bytes ← publicationRevisionSigningBytes P payload
  return { revisionHash := P.sha256Hex canonical, signerPubkey := payload.providerId
           signature := signMessageHex bytes, payload }

def SignedPublicationRevision.verify (revision : SignedPublicationRevision) :
    Except PublicationRevisionError Unit := do
  revision.payload.validate P
  rejectIf (revision.signerPubkey != revision.payload.providerId) <|
    .invalidPayload "signer_pubkey must equal payload.provider_id"
  let canonical ← (P.canonicalJson (toJson revision.payload)).mapError .canonical
  rejectIf (revision.revisionHash != P.sha256Hex canonical) .hashMismatch
  let bytes ← publicationRevisionSigningBytes P revision.payload
  rejectIf (!P.verifyMessage revision.signerPubkey revision.signature bytes) .signatureInvalid

end Validation

/-! ## Reading a revision -/

def asBool : Json → Option Bool
  | .bool b => some b
  | _ => none

@[simp] theorem asBool_toJson (b : Bool) : asBool (toJson b) = some b := rfl

def decodeClosedStruct (keys : List String) (read : StateT Source Option α) :
    Json → Option α
  | .obj fields => if fields.all (keys.contains ·.1) then decodeStruct read (.obj fields) else none
  | document => decodeStruct read document

def HasKeysIn (keys : List String) (fields : List (String × Json)) : Prop :=
  fields.all (keys.contains ·.1) = true

section HasKeysIn

variable {keys : List String} {key : String}

@[simp] theorem hasKeysIn_append {fields fields' : List (String × Json)} :
    HasKeysIn keys (fields ++ fields') ↔ HasKeysIn keys fields ∧ HasKeysIn keys fields' := by
  simp [HasKeysIn]

@[simp] theorem hasKeysIn_field [Serialize α] {value : α} :
    HasKeysIn keys (field key value) ↔ key ∈ keys := by
  simp [HasKeysIn, field]

@[simp] theorem hasKeysIn_optField [Serialize α] {value : Option α} :
    HasKeysIn keys (optField key value) ↔ value = none ∨ key ∈ keys := by
  cases value <;> simp [HasKeysIn, optField]

@[simp] theorem hasKeysIn_listField [Serialize α] {value : List α} :
    HasKeysIn keys (listField key value) ↔ value = [] ∨ key ∈ keys := by
  cases value <;> simp [HasKeysIn, listField, field]

theorem decodeClosedStruct_obj {fields : List (String × Json)} {read : StateT Source Option α}
    {a : α} (hkeys : HasKeysIn keys fields) (h : ReadsAs fields read a) :
    decodeClosedStruct keys read (.obj fields) = some a :=
  (if_pos hkeys).trans (readsAs_struct h)

@[simp] theorem decodeClosedStruct_null (read : StateT Source Option α) :
    decodeClosedStruct keys read .null = none := rfl

end HasKeysIn

def decodePublicationSettlement : Json → Option PublicationSettlement :=
  asVariant [("none", .none), ("lightning", .lightning), ("stripe", .stripe)]

def decodePublicationCurrency : Json → Option PublicationCurrency :=
  asVariant [("sat", .sat), ("usd", .usd)]

def decodePublicationDependencyComponent : Json → Option PublicationDependencyComponent :=
  decodeClosedStruct ["role", "name", "version", "digest"] do
    return {
      role := ← required "role" asString
      name := ← required "name" asString
      version := ← required "version" asString
      digest := ← required "digest" asString }

def decodePublicationBuildEvidence : Json → Option PublicationBuildEvidence :=
  decodeClosedStruct ["schema_version", "builder", "builder_version", "source_digest",
      "artifact_digest", "dependency_mode", "components", "hermetic"] do
    return {
      schemaVersion := ← required "schema_version" asString
      builder := ← required "builder" asString
      builderVersion := ← required "builder_version" asString
      sourceDigest := ← required "source_digest" asString
      artifactDigest := ← required "artifact_digest" asString
      dependencyMode := ← required "dependency_mode" asString
      components := ← defaulted "components" (asList decodePublicationDependencyComponent) []
      hermetic := ← required "hermetic" asBool }

def decodePublicationMount : Json → Option PublicationMount :=
  decodeClosedStruct ["handle", "kind", "read_only", "binding"] do
    return {
      handle := ← required "handle" asString
      kind := ← required "kind" asString
      readOnly := ← defaulted "read_only" asBool true
      binding := ← optionalDefaulted "binding" asString }

def decodeResolvedPublicationLimits : Json → Option ResolvedPublicationLimits :=
  decodeClosedStruct ["max_input_bytes", "max_runtime_ms", "max_memory_bytes",
      "max_output_bytes", "fuel_limit"] do
    return {
      maxInputBytes := ← required "max_input_bytes" asU64
      maxRuntimeMs := ← required "max_runtime_ms" asU64
      maxMemoryBytes := ← required "max_memory_bytes" asU64
      maxOutputBytes := ← required "max_output_bytes" asU64
      fuelLimit := ← required "fuel_limit" asU64 }

def decodeLocalVerificationEvidence : Json → Option LocalVerificationEvidence :=
  decodeClosedStruct ["input_hash", "result_hash", "expected_output_matched"] do
    return {
      inputHash := ← required "input_hash" asString
      resultHash := ← required "result_hash" asString
      expectedOutputMatched := ← optionalDefaulted "expected_output_matched" asBool }

def decodePublicationRevisionPrice : Json → Option PublicationRevisionPrice :=
  decodeClosedStruct ["settlement_method", "currency", "base_amount_minor",
      "success_amount_minor", "offer_settlement_method"] do
    return {
      settlementMethod := ← required "settlement_method" decodePublicationSettlement
      currency := ← required "currency" decodePublicationCurrency
      baseAmountMinor := ← required "base_amount_minor" asU64
      successAmountMinor := ← required "success_amount_minor" asU64
      offerSettlementMethod := ← required "offer_settlement_method" asString }

def decodePublicationRevisionService : Json → Option PublicationRevisionService :=
  decodeClosedStruct ["project_id", "summary", "starter", "source_kind", "entrypoint_kind",
      "entrypoint", "contract_version", "mode", "mounts", "capabilities", "input_schema",
      "output_schema"] do
    return {
      projectId := ← optionalDefaulted "project_id" asString
      summary := ← optionalDefaulted "summary" asString
      starter := ← optionalDefaulted "starter" asString
      sourceKind := ← required "source_kind" asString
      entrypointKind := ← required "entrypoint_kind" asString
      entrypoint := ← required "entrypoint" asString
      contractVersion := ← required "contract_version" asString
      mode := ← required "mode" asString
      mounts := ← defaulted "mounts" (asList decodePublicationMount) []
      capabilities := ← defaulted "capabilities" (asList asString) []
      inputSchema := ← optionalDefaulted "input_schema" some
      outputSchema := ← optionalDefaulted "output_schema" some }

def decodePublicationRevisionPayload : Json → Option PublicationRevisionPayload :=
  decodeClosedStruct ["schema_version", "provider_id", "service_id", "offer_id", "offer_hash",
      "binding_hash", "package_digest", "runtime", "package_kind", "build_evidence", "service",
      "limits", "price", "local_verification"] do
    return {
      schemaVersion := ← required "schema_version" asString
      providerId := ← required "provider_id" asString
      serviceId := ← required "service_id" asString
      offerId := ← required "offer_id" asString
      offerHash := ← required "offer_hash" asString
      bindingHash := ← required "binding_hash" asString
      packageDigest := ← required "package_digest" asString
      runtime := ← required "runtime" asString
      packageKind := ← required "package_kind" asString
      buildEvidence := ← optionalDefaulted "build_evidence" decodePublicationBuildEvidence
      service := ← required "service" decodePublicationRevisionService
      limits := ← required "limits" decodeResolvedPublicationLimits
      price := ← required "price" decodePublicationRevisionPrice
      localVerification := ← required "local_verification" decodeLocalVerificationEvidence }

def decodeSignedPublicationRevision : Json → Option SignedPublicationRevision :=
  decodeClosedStruct ["revision_hash", "signer_pubkey", "signature", "payload"] do
    return {
      revisionHash := ← required "revision_hash" asString
      signerPubkey := ← required "signer_pubkey" asString
      signature := ← required "signature" asString
      payload := ← required "payload" decodePublicationRevisionPayload }

/-! ## What was written is read back -/

@[simp] theorem decodePublicationSettlement_toJson (x : PublicationSettlement) :
    decodePublicationSettlement (toJson x) = some x := by
  cases x <;> decide

@[simp] theorem decodePublicationCurrency_toJson (x : PublicationCurrency) :
    decodePublicationCurrency (toJson x) = some x := by
  cases x <;> decide

theorem decodePublicationDependencyComponent_toJson (x : PublicationDependencyComponent) :
    decodePublicationDependencyComponent (toJson x) = some x := by
  refine decodeClosedStruct_obj (by simp) ?_
  simp [lookup_append, -bind_pure_comp]

theorem decodePublicationBuildEvidence_toJson (x : PublicationBuildEvidence) :
    decodePublicationBuildEvidence (toJson x) = some x := by
  refine decodeClosedStruct_obj (by simp) ?_
  simp [lookup_append,
    elim_listValue (fun c _ => decodePublicationDependencyComponent_toJson c), -bind_pure_comp]

theorem decodePublicationMount_toJson (x : PublicationMount) :
    decodePublicationMount (toJson x) = some x := by
  refine decodeClosedStruct_obj (by simp) ?_
  simp [lookup_append, -bind_pure_comp]

structure ResolvedPublicationLimits.Fits (x : ResolvedPublicationLimits) : Prop where
  maxInputBytes : FitsU64 x.maxInputBytes
  maxRuntimeMs : FitsU64 x.maxRuntimeMs
  maxMemoryBytes : FitsU64 x.maxMemoryBytes
  maxOutputBytes : FitsU64 x.maxOutputBytes
  fuelLimit : FitsU64 x.fuelLimit

theorem decodeResolvedPublicationLimits_toJson {x : ResolvedPublicationLimits} (h : x.Fits) :
    decodeResolvedPublicationLimits (toJson x) = some x := by
  cases h
  refine decodeClosedStruct_obj (by simp) ?_
  simp [lookup_append, *, -bind_pure_comp]

theorem decodeLocalVerificationEvidence_toJson (x : LocalVerificationEvidence) :
    decodeLocalVerificationEvidence (toJson x) = some x := by
  refine decodeClosedStruct_obj (by simp) ?_
  simp [lookup_append, elim_optValue (show asBool .null = none from rfl)
    (fun b _ => asBool_toJson b), -bind_pure_comp]

structure PublicationRevisionPrice.Fits (x : PublicationRevisionPrice) : Prop where
  baseAmountMinor : FitsU64 x.baseAmountMinor
  successAmountMinor : FitsU64 x.successAmountMinor

theorem decodePublicationRevisionPrice_toJson {x : PublicationRevisionPrice} (h : x.Fits) :
    decodePublicationRevisionPrice (toJson x) = some x := by
  cases h
  refine decodeClosedStruct_obj (by simp) ?_
  simp [lookup_append, *, -bind_pure_comp]

structure PublicationRevisionService.SchemasPresent (x : PublicationRevisionService) : Prop where
  inputSchema : x.inputSchema ≠ some .null
  outputSchema : x.outputSchema ≠ some .null

/-- A schema that is the JSON null is read back as absent. -/
def PublicationRevisionService.readBack (x : PublicationRevisionService) :
    PublicationRevisionService :=
  { x with inputSchema := x.inputSchema.filter (· != .null)
           outputSchema := x.outputSchema.filter (· != .null) }

theorem filter_schema {schema : Option Json} :
    schema.filter (· != .null) = schema ↔ schema ≠ some .null := by
  cases schema with
  | none => simp
  | some document => by_cases h : document = .null <;> simp [h]

theorem PublicationRevisionService.readBack_eq_self {x : PublicationRevisionService} :
    x.readBack = x ↔ x.SchemasPresent := by
  rw [show x.SchemasPresent ↔ x.inputSchema ≠ some .null ∧ x.outputSchema ≠ some .null from
    ⟨fun h => ⟨h.inputSchema, h.outputSchema⟩, fun h => ⟨h.1, h.2⟩⟩, ← filter_schema,
    ← filter_schema, readBack, PublicationRevisionService.mk.injEq]
  simp only [true_and]

theorem elim_schema (schema : Option Json) :
    schema.elim (some none) (asOption some ∘ toJson) = some (schema.filter (· != .null)) := by
  cases schema with
  | none => rfl
  | some document => cases document <;> rfl

theorem decodePublicationRevisionService_toJson (x : PublicationRevisionService) :
    decodePublicationRevisionService (toJson x) = some x.readBack := by
  refine decodeClosedStruct_obj (by simp) ?_
  simp [lookup_append, elim_listValue (fun m _ => decodePublicationMount_toJson m),
    elim_schema, PublicationRevisionService.readBack, -bind_pure_comp]

/-- The numbers of a payload are in the range of their types. -/
structure PublicationRevisionPayload.Fits (x : PublicationRevisionPayload) : Prop where
  limits : x.limits.Fits
  price : x.price.Fits

def PublicationRevisionPayload.readBack (x : PublicationRevisionPayload) :
    PublicationRevisionPayload :=
  { x with service := x.service.readBack }

theorem decodePublicationRevisionPayload_toJson {x : PublicationRevisionPayload} (h : x.Fits) :
    decodePublicationRevisionPayload (toJson x) = some x.readBack := by
  refine decodeClosedStruct_obj (by simp) ?_
  simp [lookup_append,
    elim_optValue (show decodePublicationBuildEvidence .null = none from rfl)
      (fun e _ => decodePublicationBuildEvidence_toJson e),
    decodePublicationRevisionService_toJson,
    decodeResolvedPublicationLimits_toJson h.limits, decodePublicationRevisionPrice_toJson h.price,
    decodeLocalVerificationEvidence_toJson, PublicationRevisionPayload.readBack, -bind_pure_comp]

/-- A revision is read back from its document, but for schemas that are null. -/
theorem decodeSignedPublicationRevision_toJson {x : SignedPublicationRevision}
    (h : x.payload.Fits) :
    decodeSignedPublicationRevision (toJson x) = some { x with payload := x.payload.readBack } := by
  refine decodeClosedStruct_obj (by simp) ?_
  simp [lookup_append, decodePublicationRevisionPayload_toJson h, -bind_pure_comp]

end Froglet
