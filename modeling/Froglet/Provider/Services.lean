import Froglet.Provider.Workloads

/-!
# Submissions and service-addressed executions

A WebAssembly module arrives as a submission, which is verified before the module is
run.
-/

namespace Froglet

open List

open ManagedDeployment (stripText)

variable (P : Primitives)

/-! ## Submissions -/

def validateCapabilityName (capability : String) : Except String Unit := do
  rejectIf (!((stripText "net.http.operation." capability).isSome
      || capability == wasmCapabilityHttpFetch
      || (stripText wasmCapabilityHttpFetchAuth capability).isSome
      || (stripText wasmCapabilitySqliteQueryRead capability).isSome))
    s!"unsupported requested_capability: {capability}"
  rejectIf (!(splitChars '.' capability.toList).all fun segment => !segment.isEmpty
      && segment.all fun c => c.isLower || c.isDigit || c == '-' || c == '_')
    s!"invalid requested_capability: {capability}"

theorem mem_of_mem_eraseReps {texts : List String} {text : String} (h : text ∈ texts.eraseReps) :
    text ∈ texts := by
  have hloop : ∀ (rest : List String) (last : String) (done : List String),
      text ∈ eraseRepsBy.loop (· == ·) last rest done →
        text = last ∨ text ∈ rest ∨ text ∈ done := by
    intro rest
    induction rest with
    | nil =>
      intro last done h
      simpa [eraseRepsBy.loop, or_comm] using h
    | cons next rest ih =>
      intro last done h
      unfold eraseRepsBy.loop at h
      split at h
      · obtain h | h | h := ih last done h
        · exact .inl h
        · exact .inr (.inl (mem_cons_of_mem next h))
        · exact .inr (.inr h)
      · obtain h | h | h := ih next (last :: done) h
        · exact .inr (.inl (h ▸ mem_cons_self))
        · exact .inr (.inl (mem_cons_of_mem next h))
        · exact (mem_cons.mp h).imp_right .inr
  cases texts with
  | nil => exact h
  | cons first rest =>
    obtain h | h | h := hloop rest first [] h
    · exact h ▸ mem_cons_self
    · exact mem_cons_of_mem first h
    · cases h

def normalizeRequestedCapabilities (capabilities : List String) : Except String (List String) := do
  ((capabilities.insertionSort (· ≤ ·)).eraseReps).forM validateCapabilityName
  return (capabilities.insertionSort (· ≤ ·)).eraseReps

def validateHostCapabilityDependencies (capabilities : List String) : Except String Unit :=
  capabilities.forM fun capability =>
    rejectIf ((stripText wasmCapabilityHttpFetchAuth capability).isSome
        && !capabilities.contains wasmCapabilityHttpFetch)
      (capability ++ " requires " ++ wasmCapabilityHttpFetch)

def checkAbiCapabilities (abiVersion : String) (requested : List String) : Except String Unit := do
  rejectIf (abiVersion == wasmRunJsonAbiV1 && !requested.isEmpty)
    "requested_capabilities are not supported by froglet.wasm.run_json.v1"
  if abiVersion == wasmHostJsonAbiV1 then validateHostCapabilityDependencies requested
  else pure ()

structure VerifiedWasmSubmission where
  moduleBytes : Bytes
  input : Json
  abiVersion : String
  requestedCapabilities : List String

def hashCanonical (value : Json) : Except String String := do
  let encoded ← P.canonicalJson value
  return P.sha256Hex encoded

def checkInputHash (input : Json) (inputHash : String) : Except String Unit := do
  let computed ← hashCanonical P input
  rejectIf (computed != inputHash) "input hash does not match canonical input"

def WasmSubmission.verify (submission : WasmSubmission) : Except String VerifiedWasmSubmission := do
  rejectIf (submission.schemaVersion != frogletSchemaV1)
    ("unsupported wasm submission schema_version: " ++ submission.schemaVersion)
  rejectIf (submission.submissionType != wasmSubmissionTypeV1)
    ("unsupported wasm submission_type: " ++ submission.submissionType)
  rejectIf (submission.workload.schemaVersion != frogletSchemaV1)
    ("unsupported wasm workload schema_version: " ++ submission.workload.schemaVersion)
  rejectIf (submission.workload.workloadKind != workloadKindComputeWasmV1)
    ("unsupported wasm workload_kind: " ++ submission.workload.workloadKind)
  rejectIf (submission.workload.abiVersion != wasmRunJsonAbiV1
      && submission.workload.abiVersion != wasmHostJsonAbiV1)
    ("unsupported wasm abi_version: " ++ submission.workload.abiVersion)
  rejectIf (submission.workload.moduleFormat != wasmModuleFormat)
    ("unsupported wasm module_format: " ++ submission.workload.moduleFormat)
  rejectIf (submission.workload.inputFormat != jcsJsonFormat)
    ("unsupported wasm input_format: " ++ submission.workload.inputFormat)
  let requestedCapabilities ←
    normalizeRequestedCapabilities submission.workload.requestedCapabilities
  checkAbiCapabilities submission.workload.abiVersion requestedCapabilities
  let moduleBytes ← okOr (Hex.decodeChars submission.moduleBytesHex.toList)
    "invalid hex encoding"
  rejectIf (P.sha256Hex moduleBytes != submission.workload.moduleHash)
    "module hash does not match module bytes"
  checkInputHash P submission.input submission.workload.inputHash
  return { moduleBytes, input := submission.input
           abiVersion := submission.workload.abiVersion, requestedCapabilities }

def OciWasmSubmission.verify (submission : OciWasmSubmission) : Except String Unit := do
  rejectIf (submission.schemaVersion != frogletSchemaV1)
    ("unsupported wasm oci submission schema_version: " ++ submission.schemaVersion)
  rejectIf (submission.submissionType != wasmOciSubmissionTypeV1)
    ("unsupported wasm oci submission_type: " ++ submission.submissionType)
  rejectIf (submission.workload.schemaVersion != frogletSchemaV1)
    ("unsupported wasm workload schema_version: " ++ submission.workload.schemaVersion)
  rejectIf (submission.workload.workloadKind != workloadKindComputeWasmOciV1)
    ("unsupported wasm oci workload_kind: " ++ submission.workload.workloadKind)
  rejectIf (submission.workload.abiVersion != wasmRunJsonAbiV1
      && submission.workload.abiVersion != wasmHostJsonAbiV1)
    ("unsupported wasm abi_version: " ++ submission.workload.abiVersion)
  rejectIf (submission.workload.moduleFormat != wasmModuleOciFormat)
    ("unsupported wasm module_format for OCI struct: " ++ submission.workload.moduleFormat)
  rejectIf (submission.workload.inputFormat != jcsJsonFormat)
    ("unsupported wasm input_format: " ++ submission.workload.inputFormat)
  rejectIf submission.workload.ociReference.isEmpty "missing oci_reference"
  let requestedCapabilities ←
    normalizeRequestedCapabilities submission.workload.requestedCapabilities
  checkAbiCapabilities submission.workload.abiVersion requestedCapabilities
  checkInputHash P submission.input submission.workload.inputHash

def ComputeWasmWorkload.new (moduleBytes : Bytes) (input : Json) :
    Except String ComputeWasmWorkload := do
  let inputHash ← hashCanonical P input
  return { schemaVersion := frogletSchemaV1, workloadKind := workloadKindComputeWasmV1
           abiVersion := wasmRunJsonAbiV1, moduleFormat := wasmModuleFormat
           moduleHash := P.sha256Hex moduleBytes, inputFormat := jcsJsonFormat, inputHash
           requestedCapabilities := [] }

/-! ## Executions -/

namespace ExecutionWorkload

def toWasmSubmission (execution : ExecutionWorkload) : Except String WasmSubmission := do
  rejectIf (execution.runtime != .wasm || execution.packageKind != .inlineModule)
    "execution workload is not an inline Wasm submission"
  let moduleBytesHex ← okOr execution.moduleBytesHex
    "inline Wasm submission requires module_bytes_hex"
  let moduleHash ← okOr execution.moduleHash "inline Wasm submission requires module_hash"
  return { schemaVersion := execution.schemaVersion, submissionType := wasmSubmissionTypeV1
           workload :=
             { schemaVersion := execution.schemaVersion
               workloadKind := execution.workloadKind
               abiVersion := execution.contractVersion, moduleFormat := wasmModuleFormat
               moduleHash, inputFormat := execution.inputFormat
               inputHash := execution.inputHash
               requestedCapabilities := execution.requestedAccess }
           moduleBytesHex, input := execution.input }

def toOciWasmSubmission (execution : ExecutionWorkload) : Except String OciWasmSubmission := do
  rejectIf (execution.runtime != .wasm || execution.packageKind != .ociImage)
    "execution workload is not an OCI Wasm submission"
  let ociReference ← okOr execution.ociReference "OCI Wasm submission requires oci_reference"
  let ociDigest ← okOr execution.ociDigest "OCI Wasm submission requires oci_digest"
  return { schemaVersion := execution.schemaVersion, submissionType := wasmOciSubmissionTypeV1
           workload :=
             { schemaVersion := execution.schemaVersion
               workloadKind := execution.workloadKind
               abiVersion := execution.contractVersion, moduleFormat := wasmModuleOciFormat
               ociReference, ociDigest, inputFormat := execution.inputFormat
               inputHash := execution.inputHash
               requestedCapabilities := execution.requestedAccess }
           input := execution.input }

def pythonInline (source : String) (entrypoint : ExecutionEntrypoint)
    (contractVersion : String) (input : Json) : Except String ExecutionWorkload := do
  let inputHash ← hashCanonical P input
  return { schemaVersion := frogletSchemaV1, workloadKind := workloadKindExecutionV1
           runtime := .python, packageKind := .inlineSource, entrypoint, contractVersion
           inputFormat := jcsJsonFormat, inputHash, input
           sourceHash := some (P.sha256Hex (textBytes source)), inlineSource := some source }

def containerOci (runtime : ExecutionRuntime) (ociReference ociDigest : String)
    (entrypoint : ExecutionEntrypoint) (input : Json) : Except String ExecutionWorkload := do
  let inputHash ← hashCanonical P input
  return { schemaVersion := frogletSchemaV1, workloadKind := workloadKindExecutionV1
           runtime, packageKind := .ociImage, entrypoint
           contractVersion := contractContainerJsonV1, inputFormat := jcsJsonFormat, inputHash
           input, moduleHash := some ociDigest, ociReference := some ociReference
           ociDigest := some ociDigest }

def boundBuiltinService (name contractVersion : String) (bindingHash : Option String)
    (input : Json) : Except String ExecutionWorkload := do
  let inputHash ← hashCanonical P input
  return { schemaVersion := frogletSchemaV1, workloadKind := name, runtime := .builtin
           packageKind := .builtin, entrypoint := ⟨.builtin, name⟩, contractVersion
           inputFormat := jcsJsonFormat, inputHash, input, moduleHash := bindingHash
           builtinName := some name }

def builtinEventsQuery (kinds : List String) (limit : Option ℕ) : Except String ExecutionWorkload :=
  boundBuiltinService P "events.query" contractBuiltinEventsQueryV1 none
    (.obj [("kinds", toJson kinds), ("limit", (limit.map toJson).getD .null)])

end ExecutionWorkload

/-! ## The services of a provider -/

structure ProviderServiceRecord where
  (serviceId offerId offerKind runtime packageKind entrypointKind entrypoint
    contractVersion : String)
  mounts : List WorkloadMount
  capabilities : List String
  (moduleHash bindingHash moduleBytesHex inlineSource : Option String)
  pythonBundle : Option Json
  (ociReference ociDigest : Option String)

structure VerifiedPythonBundle where
  packageDigest : String
  source : Option String

structure ServiceExecutionProfile where
  runtime : ExecutionRuntime
  packageKind : ExecutionPackageKind
  entrypointKind : ExecutionEntrypointKind
  (entrypoint contractVersion : String)

def ServiceExecutionProfile.pythonEntrypoint (profile : ServiceExecutionProfile) :
    ExecutionEntrypoint :=
  if profile.entrypointKind == .script then ⟨.script, "__main__"⟩
  else ⟨.handler, profile.entrypoint⟩

def ServiceExecutionProfile.pythonContract (profile : ServiceExecutionProfile) : String :=
  if profile.entrypointKind == .script then contractPythonScriptJsonV1
  else contractPythonHandlerJsonV1

namespace ProviderServiceRecord

variable (service : ProviderServiceRecord)

def accessCapabilities : List String :=
  ((service.capabilities ++ service.mounts.map (·.accessCapability)).insertionSort
    (· ≤ ·)).eraseReps

def parseEntrypointKind (runtime : ExecutionRuntime) : Except String ExecutionEntrypointKind :=
  if isBlank service.entrypointKind then .ok (.defaultFor runtime)
  else ExecutionEntrypointKind.parse service.entrypointKind

def usesDefaultEntrypoint (kind : ExecutionEntrypointKind) : Bool :=
  isBlank service.entrypoint
    || (kind == .handler
      && (service.entrypoint.toList.contains '/'
        || (stripText "yp." (String.ofList service.entrypoint.toList.reverse)).isSome
        || service.entrypoint.toList.contains '\\'))

def executionProfile : Except String ServiceExecutionProfile := do
  let runtime ← ExecutionRuntime.parse service.runtime
  let packageKind ← ExecutionPackageKind.parse service.packageKind
  let entrypointKind ← service.parseEntrypointKind runtime
  return { runtime, packageKind, entrypointKind
           entrypoint := if service.usesDefaultEntrypoint entrypointKind then
               defaultEntrypointFor runtime entrypointKind
             else service.entrypoint
           contractVersion := if isBlank service.contractVersion then
               defaultContractVersionFor runtime packageKind entrypointKind
             else service.contractVersion }

def bindingHashOr : Option String :=
  (service.bindingHash.or service.moduleHash).filter (!isBlank ·)

def checkBuiltin (entrypoint : String) (execution : ExecutionWorkload) : Except String Unit := do
  rejectIf (execution.builtinName != some entrypoint)
    "service-addressed builtin name does not match local service"
  rejectIf (execution.workloadKind != service.offerKind)
    "service-addressed builtin workload_kind does not match local service"

def validateExecution (execution : ExecutionWorkload) : Except String Unit := do
  let requestedServiceId ← okOr execution.security.serviceId
    "service-addressed execution requires security.service_id"
  rejectIf (requestedServiceId != service.serviceId)
    "service-addressed execution service_id does not match local service"
  let profile ← service.executionProfile
  rejectIf (execution.runtime != profile.runtime)
    "service-addressed execution runtime does not match local service"
  rejectIf (execution.packageKind != profile.packageKind)
    "service-addressed execution package_kind does not match local service"
  rejectIf (execution.entrypoint.kind != profile.entrypointKind)
    "service-addressed execution entrypoint_kind does not match local service"
  rejectIf (execution.entrypoint.value != profile.entrypoint)
    "service-addressed execution entrypoint does not match local service"
  rejectIf (execution.contractVersion != profile.contractVersion)
    "service-addressed execution contract_version does not match local service"
  if profile.packageKind == .builtin then service.checkBuiltin profile.entrypoint execution
  else pure ()
  rejectIf (execution.mounts.map (·.toExecutionMount)
      != service.mounts.map (·.toExecutionMount))
    "service-addressed execution mounts do not match local service"
  execution.requestedAccess.forM fun requestedAccess =>
    rejectIf (!service.accessCapabilities.contains requestedAccess) <|
      "service-addressed execution requested_access is not offered by local service: "
      ++ requestedAccess
  let requestedBindingHash ← okOr execution.bindingHash
    "service-addressed execution binding hash is missing"
  let localBindingHash ← okOr service.bindingHashOr "local service binding hash is missing"
  rejectIf (requestedBindingHash != localBindingHash)
    "service-addressed execution binding hash does not match local service"

variable (verifyBundle : Json → Except String VerifiedPythonBundle)

def pythonSource
    (service : ProviderServiceRecord) : Except String (String × Option Json × Option String) :=
  match service.pythonBundle with
  | some bundle => do
    let verified ← verifyBundle bundle
    let bindingHash ← okOr service.bindingHashOr "service is missing Python package binding"
    rejectIf (verified.packageDigest != bindingHash)
      "locked Python package digest does not match local service binding"
    let source ← okOr verified.source "locked Python source is not valid UTF-8"
    rejectIf (service.inlineSource != some source)
      "locked Python source does not match private service execution material"
    return (source, some bundle, some bindingHash)
  | none => do
    -- definitions from before locked bundles
    let source ← okOr service.inlineSource "legacy service is missing inline_source binding"
    return (source, none, none)

def eventKinds (input : List (String × Json)) : Except String (List String) :=
  match input.lookup "kinds" with
  | some (.arr values) => values.mapM fun value =>
    okOr (asString value) "builtin events.query kinds must be strings"
  | some _ => .error "builtin events.query kinds must be an array of strings"
  | none => .ok []

def eventLimit (input : List (String × Json)) : Except String (Option ℕ) :=
  match input.lookup "limit" with
  | some .null | none => .ok none
  | some value => do
    let limit ← okOr (asU64 value) "builtin events.query limit must be a non-negative integer"
    return some limit

def buildBoundWorkloadSpec
    (service : ProviderServiceRecord) (input : Json) : Except String Workload := do
  let profile ← service.executionProfile
  match profile.runtime, profile.packageKind with
  | .wasm, .inlineModule => do
    let moduleBytesHex ← okOr service.moduleBytesHex
      "service is missing module_bytes_hex binding"
    let moduleBytes ← okOr (Hex.decodeChars moduleBytesHex.toList) "invalid module hex"
    let workload ← ComputeWasmWorkload.new P moduleBytes input
    return .wasm
      { schemaVersion := frogletSchemaV1, submissionType := wasmSubmissionTypeV1
        workload := { workload with
          abiVersion := profile.contractVersion
          requestedCapabilities := service.accessCapabilities }
        moduleBytesHex, input }
  | .wasm, .ociImage => do
    let ociReference ← okOr service.ociReference "service is missing oci_reference binding"
    let ociDigest ← okOr service.ociDigest "service is missing oci_digest binding"
    let inputHash ← hashCanonical P input
    return .ociWasm
      { schemaVersion := frogletSchemaV1, submissionType := wasmOciSubmissionTypeV1
        workload :=
          { schemaVersion := frogletSchemaV1, workloadKind := workloadKindComputeWasmOciV1
            abiVersion := profile.contractVersion, moduleFormat := wasmModuleOciFormat
            ociReference, ociDigest, inputFormat := jcsJsonFormat, inputHash
            requestedCapabilities := service.accessCapabilities }
        input }
  | .python, .inlineSource => do
    let (source, bundle, packageBinding) ← service.pythonSource verifyBundle
    let execution ← ExecutionWorkload.pythonInline P source profile.pythonEntrypoint
      profile.pythonContract input
    return .execution
      { execution with
        requestedAccess := service.accessCapabilities, mounts := service.mounts
        sourceHash := packageBinding.or execution.sourceHash, pythonBundle := bundle }
  | .python, .ociImage | .container, .ociImage => do
    let ociReference ← okOr service.ociReference "service is missing oci_reference binding"
    let ociDigest ← okOr service.ociDigest "service is missing oci_digest binding"
    let execution ← ExecutionWorkload.containerOci P profile.runtime ociReference ociDigest
      ⟨profile.entrypointKind, profile.entrypoint⟩ input
    return .execution
      { execution with
        requestedAccess := service.accessCapabilities, mounts := service.mounts }
  | .builtin, .builtin =>
    if service.offerKind == "events.query" then
      match input with
      | .obj fields => do
        let kinds ← eventKinds fields
        let limit ← eventLimit fields
        let execution ← ExecutionWorkload.builtinEventsQuery P kinds limit
        return .execution execution
      | _ => .error "builtin events.query expects a JSON object input"
    else do
      let execution ← ExecutionWorkload.boundBuiltinService P service.offerKind
        profile.contractVersion service.bindingHashOr input
      return .execution execution
  | runtime, packageKind =>
    .error ("unsupported service execution profile runtime=" ++ runtime.asStr
      ++ " package_kind=" ++ packageKind.asStr)

end ProviderServiceRecord

end Froglet
