import Froglet.Provider.Services
import Mathlib.Data.List.ReduceOption

/-!
# The capabilities a workload runs with

A quote grants the capabilities the workload asked for, once the offer is known to have
each of them.
-/

namespace Froglet

open List Option

open ManagedDeployment (stripText)

variable {P : Primitives} {grants : List String}
variable {execution : ExecutionWorkload}
variable {hash : String} {envelope : EncryptedEnvelope}
variable {validateDigestImage : String → Except String Unit} {permit : Bool} {spec : Workload}
/-! ## Mounts -/

inductive MountAccessPolicy where
  | network | sqliteFile
deriving DecidableEq

def mountAccessPolicy (kind : String) : Option MountAccessPolicy :=
  if kind == "postgres" || kind == objectStoreMountKind || kind == "redis" then some .network
  else if kind == "sqlite" then some .sqliteFile
  else none

def validateBinding (kind binding : String) : Except String Unit :=
  if kind == "postgres" then
    rejectIf (!((stripText "postgres://" binding).isSome
        || (stripText "postgresql://" binding).isSome))
      "postgres mount bindings must use postgres:// or postgresql://"
  else if kind == objectStoreMountKind then
    rejectIf (stripText "s3://" binding).isNone "object_store mount bindings must use s3://"
  else if kind == "redis" then
    rejectIf (!((stripText "redis://" binding).isSome || (stripText "rediss://" binding).isSome))
      "redis mount bindings must use redis:// or rediss://"
  else .ok ()

def configuredBinding (environment : String → Option String) (requestedKind kind handle : String) :
    Except String String :=
  let nonempty key := (environment key).filter (!isBlank ·)
  if kind != objectStoreMountKind then
    okOr (nonempty ("FROGLET_MOUNT_" ++ kind ++ "_" ++ handle))
      ("granted " ++ kind ++ " mount '" ++ handle ++ "' is not configured; set "
        ++ "FROGLET_MOUNT_" ++ kind ++ "_" ++ handle)
  else
    let canonicalKey := "FROGLET_MOUNT_" ++ objectStoreMountKind ++ "_" ++ handle
    let legacyKey := "FROGLET_MOUNT_" ++ legacyS3MountKind ++ "_" ++ handle
    match nonempty canonicalKey, nonempty legacyKey with
    | some canonical, some legacy =>
      if canonical != legacy then
        .error ("object-store mount '" ++ handle ++ "' has conflicting bindings in "
          ++ canonicalKey ++ " and " ++ legacyKey)
      else .ok canonical
    | some binding, none | none, some binding => .ok binding
    | none, none =>
      .error ("granted " ++ requestedKind ++ " mount '" ++ handle ++ "' is not configured; set "
        ++ canonicalKey ++ " (preferred) or " ++ legacyKey ++ " (compatibility)")

structure MountedFile where
  mount : WorkloadMount
  path : String
variable {file : MountedFile}

structure DataMountPlan where
  files : List MountedFile

/-! ## Container workers -/

def canonicalMountCapability (capability : String) : String :=
  match stripText "mount.s3." capability with
  | none => capability
  | some suffix => "mount." ++ objectStoreMountKind ++ "." ++ suffix

structure OciWorkerLimits where
  (maxInputBytes maxRuntimeMs maxMemoryBytes maxOutputBytes pidsLimit cpuMillis : ℕ)

structure OciWorkerRequest where
  image : String
  entrypoint : ExecutionEntrypoint
  input : Json
  mounts : List ExecutionMount
  (secrets grantedCapabilities : List String)
  networkEgress : Bool
  limits : OciWorkerLimits
variable {request : OciWorkerRequest}

def strictlySorted (texts : List String) : Bool :=
  (texts.zip texts.tail).all fun pair => decide (pair.1 < pair.2)

def validateWorkerHandle (label value : String) : Except String Unit :=
  rejectIf (value.isEmpty || decide (64 < value.utf8ByteSize)
      || !value.toList.all fun c => c.isLower || c.isDigit || c == '_')
    s!"OCI worker {label} handle is invalid"

namespace OciWorkerRequest

def checkGrantedCapabilities (capabilities : List String) : Except String Unit :=
  rejectIf (!strictlySorted capabilities || capabilities.any (!validCapability ·))
    "OCI worker granted_capabilities must be sorted and unique"

def checkMounts (grants : List String) : List String → List ExecutionMount → Except String Unit
  | _, [] => .ok ()
  | handles, mount :: rest => do
    validateWorkerHandle "mount" mount.handle
    rejectIf (!(["postgres", "sqlite", objectStoreMountKind, "redis"].contains mount.kind))
      "OCI worker mount kind is unsupported"
    rejectIf (handles.contains mount.handle) "OCI worker mount handles must be unique"
    rejectIf (!grants.contains mount.accessCapability)
      "OCI worker mount is missing its explicit capability grant"
    checkMounts grants (mount.handle :: handles) rest

def checkSecrets (grants : List String) : List String → List String → Except String Unit
  | _, [] => .ok ()
  | handles, secret :: rest => do
    validateWorkerHandle "secret" secret
    rejectIf (handles.contains secret) "OCI worker secret handles must be unique"
    rejectIf (!grants.contains ("secret." ++ secret))
      "OCI worker secret is missing its explicit capability grant"
    checkSecrets grants (secret :: handles) rest

def validateCanonical (P : Primitives) (validateDigestImage : String → Except String Unit)
    (request : OciWorkerRequest) : Except String Unit := do
  validateDigestImage request.image
  rejectIf (!(["handler", "script", "image"].contains request.entrypoint.kind.asStr))
    "OCI worker entrypoint_kind must be handler, script, or image"
  rejectIf (request.entrypoint.value.isEmpty
      || decide (512 < request.entrypoint.value.utf8ByteSize)
      || request.entrypoint.value.toList.any ManagedDeployment.isControlChar)
    "OCI worker entrypoint is invalid"
  rejectIf (request.limits.maxInputBytes == 0 || request.limits.maxRuntimeMs == 0
      || request.limits.maxMemoryBytes == 0 || request.limits.maxOutputBytes == 0
      || request.limits.pidsLimit == 0 || request.limits.cpuMillis == 0)
    "OCI worker limits must all be greater than zero"
  let inputBytes ← P.canonicalJson request.input
  rejectIf (decide (request.limits.maxInputBytes < inputBytes.length))
    "OCI worker input exceeds max_input_bytes"
  checkGrantedCapabilities request.grantedCapabilities
  rejectIf (request.networkEgress != request.grantedCapabilities.contains "network.egress")
    "OCI worker network_egress must match its explicit grant"
  checkMounts request.grantedCapabilities [] request.mounts
  checkSecrets request.grantedCapabilities [] request.secrets

def canonicalMount (mount : ExecutionMount) : Except String ExecutionMount := do
  let kind ← okOr (canonicalMountKind mount.kind) "OCI worker mount kind is unsupported"
  return { mount with kind }

def normalized (P : Primitives) (validateDigestImage : String → Except String Unit)
    (request : OciWorkerRequest) : Except String OciWorkerRequest := do
  checkGrantedCapabilities request.grantedCapabilities
  let mounts ← request.mounts.mapM canonicalMount
  let canonical : OciWorkerRequest :=
    { request with
      mounts
      grantedCapabilities := ((request.grantedCapabilities.map
        canonicalMountCapability).insertionSort (· ≤ ·)).eraseReps }
  canonical.validateCanonical P validateDigestImage
  return canonical

end OciWorkerRequest

/-! ## What a runtime is started with -/

structure WasmExecutionOptions where
  abiVersion : String
  capabilitiesGranted : List String
  hostEnvironment : Option (List String)
  (maxMemoryBytes fuelLimit : Option ℕ)

inductive RuntimeInput where
  | wasm (moduleBytes : Bytes) (input : Json) (options : WasmExecutionOptions)
  | python (source : String) (input : Json) (mounts : List WorkloadMount) (plan : DataMountPlan)
  | worker (request : OciWorkerRequest)
  | builtin (name : Option String) (input : Json)
  | confidentialService (confidentialSessionHash serviceId : String)
    (requestEnvelope : EncryptedEnvelope)
  | eventsQuery (kinds : List String) (limit : Option ℕ)

namespace RuntimeInput

def capabilities : RuntimeInput → List String
  | wasm _ _ options => options.capabilitiesGranted
  | python _ _ mounts plan =>
    mounts.map (·.accessCapability) ++ plan.files.map (·.mount.accessCapability)
  | worker request =>
    request.grantedCapabilities ++ request.mounts.map (·.accessCapability)
      ++ request.secrets.map ("secret." ++ ·)
      ++ (if request.networkEgress then ["network.egress"] else [])
  | builtin .. | confidentialService .. | eventsQuery .. => []

def Within (granted : List String) : RuntimeInput → Prop
  | worker request => (worker request).capabilities ⊆ granted.map canonicalMountCapability
  | input => input.capabilities ⊆ granted

end RuntimeInput

/-! ## Running a deal -/

structure ExecutionNode where
  gpuCapabilities : List String
  wasmHost : Option (List String)
  services : String → Except String (Option ProviderServiceRecord)
  offerHash : String → Except String (Option String)
  environment : String → Option String
  isFile : String → Bool
  workerLimits : Json → OciWorkerLimits
  verifyBundle : Json → Except String VerifiedPythonBundle
  attestPython : Json → Except String Unit
  fetchOciWasmModule : OciWasmSubmission → Except String Bytes
  pinImage : String → String → Except String String
  validateDigestImage : String → Except String Unit
  processPermit : Except String Unit
  attestedSubmission : String → EncryptedEnvelope → Except String WasmSubmission
  checkConfidentialService : String → String → EncryptedEnvelope → Except String Unit

def capabilityRequiresGpu (capability : String) : Bool :=
  capability == "compute.gpu" || (stripText "compute.gpu." capability).isSome

namespace ExecutionNode

variable (P) (node : ExecutionNode)

def capabilityAvailable (capability : String) : Bool :=
  if capabilityRequiresGpu capability then node.gpuCapabilities.contains capability
  else if node.wasmHost.any (·.contains capability) then true
  -- what is not provider-wide was checked against the offer
  else true

def effectiveCapabilities (quote : QuotePayload) : List String :=
  quote.capabilitiesGranted.filter node.capabilityAvailable

def hostEnvironment (abiVersion : String) (requested : List String) :
    Except String (Option (List String)) :=
  if abiVersion == wasmRunJsonAbiV1 then .ok none
  else if abiVersion == wasmHostJsonAbiV1 then
    match node.wasmHost with
    | none => .error "froglet.wasm.host_json.v1 is not enabled on this provider"
    | some offered => do
      requested.forM fun capability => rejectIf (!offered.contains capability)
        ("requested_capability '" ++ capability ++ "' is not enabled on this provider")
      return some offered
  else .error s!"unsupported wasm abi_version: {abiVersion}"

def nonzero (value : ℕ) : Option ℕ := if value = 0 then none else some value

def wasmOptions (limits : ExecutionLimits) (abiVersion : String) (granted : List String)
    (hostEnvironment : Option (List String)) : WasmExecutionOptions :=
  { abiVersion, capabilitiesGranted := granted, hostEnvironment
    maxMemoryBytes := nonzero limits.maxMemoryBytes, fuelLimit := nonzero limits.fuelLimit }

def startWasm (submission : WasmSubmission) (granted : List String) (limits : ExecutionLimits) :
    Except String RuntimeInput := do
  let verified ← submission.verify P
  let host ← node.hostEnvironment verified.abiVersion verified.requestedCapabilities
  return .wasm verified.moduleBytes verified.input
    (wasmOptions limits verified.abiVersion granted host)

def startOciWasm (submission : OciWasmSubmission) (granted : List String)
    (limits : ExecutionLimits) : Except String RuntimeInput := do
  submission.verify P
  let moduleBytes ← node.fetchOciWasmModule submission
  let declared ← normalizeRequestedCapabilities submission.workload.requestedCapabilities
  let host ← node.hostEnvironment submission.workload.abiVersion declared
  return .wasm moduleBytes submission.input
    (wasmOptions limits submission.workload.abiVersion granted host)

def startAttestedWasm (confidentialSessionHash : String) (envelope : EncryptedEnvelope) :
    Except String RuntimeInput := do
  let submission ← node.attestedSubmission confidentialSessionHash envelope
  let verified ← submission.verify P
  rejectIf (!verified.requestedCapabilities.isEmpty)
    "attested confidential wasm currently requires empty requested_capabilities"
  return .wasm verified.moduleBytes verified.input
    { abiVersion := verified.abiVersion, capabilitiesGranted := [], hostEnvironment := none
      maxMemoryBytes := none, fuelLimit := none }

def mountFile (granted : List String) (mount : WorkloadMount) :
    Except String (Option MountedFile) := do
  let kind ← okOr (canonicalMountKind mount.kind) ("unsupported mount kind: " ++ mount.kind
    ++ "; allowed: postgres, sqlite, object_store, redis (legacy alias: s3)")
  let access ← okOr (mountAccessPolicy kind)
    ("mount kind " ++ kind ++ " has no configured runtime policy")
  if granted.contains mount.accessCapability then do
    let binding ← configuredBinding node.environment mount.kind kind mount.handle
    validateBinding kind binding
    rejectIf (access == .network) (kind ++ " mount '" ++ mount.handle
      ++ "' is network-backed and is disabled until endpoint-scoped proxying is available")
    rejectIf (!node.isFile binding)
      ("sqlite mount '" ++ mount.handle ++ "' must point to an existing database file")
    return some ⟨mount, binding⟩
  else return none

def collectDataMountPlan (mounts : List WorkloadMount) (granted : List String) :
    Except String DataMountPlan := do
  let files ← mounts.mapM (node.mountFile granted)
  return ⟨files.reduceOption⟩

variable (execution : ExecutionWorkload)

def checkPythonBundle (source : String) : Except String Unit :=
  match execution.pythonBundle with
  | none => .ok ()
  | some bundle => do
    let verified ← node.verifyBundle bundle
    rejectIf (execution.sourceHash != some verified.packageDigest)
      "locked Python execution source_hash does not bind the canonical bundle"
    rejectIf (verified.source != some source)
      "locked Python execution source does not match bundle"
    node.attestPython bundle

def startPython (granted : List String) : Except String RuntimeInput := do
  let source ← okOr execution.inlineSource "python execution requires inline_source"
  node.checkPythonBundle execution source
  let plan ← node.collectDataMountPlan execution.mounts granted
  return .python source execution.input
    (execution.mounts.filter (granted.contains ·.accessCapability)) plan

def secretHandles (capabilities : List String) : List String :=
  (((capabilities.filterMap (stripText "secret.")).filter
    (!·.toList.contains '.')).insertionSort (· ≤ ·)).eraseReps

def requestFromExecution (granted : List String) : Except String OciWorkerRequest := do
  let reference ← okOr execution.ociReference "OCI worker execution requires oci_reference"
  let digest ← okOr execution.ociDigest "OCI worker execution requires oci_digest"
  let image ← node.pinImage reference digest
  let declared := execution.requestedAccess ++ execution.mounts.map (·.accessCapability)
  let grantedCapabilities := (declared.dedup.filter granted.contains).insertionSort (· ≤ ·)
  let request : OciWorkerRequest :=
    { image, entrypoint := execution.entrypoint, input := execution.input
      mounts := ((execution.mounts.filter (granted.contains ·.accessCapability)).map
        (·.toExecutionMount)).insertionSort (fun left right => left.handle ≤ right.handle)
      secrets := secretHandles grantedCapabilities
      grantedCapabilities
      networkEgress := grantedCapabilities.contains "network.egress"
      limits := node.workerLimits execution.input }
  request.normalized P node.validateDigestImage

def startContainer (granted : List String) : Except String RuntimeInput := do
  rejectIf (granted.any capabilityRequiresGpu)
    "GPU execution is not supported: device attachment and accounting are not implemented"
  let request ← node.requestFromExecution P execution granted
  return .worker request

def startConfidentialService (confidentialSessionHash serviceId : String)
    (envelope : EncryptedEnvelope) : Except String RuntimeInput := do
  node.checkConfidentialService confidentialSessionHash serviceId envelope
  return .confidentialService confidentialSessionHash serviceId envelope

def startExecution (granted : List String) (permit : Bool)
    (limits : ExecutionLimits) : Except String RuntimeInput := do
  rejectIf (granted.any capabilityRequiresGpu) <|
    "GPU execution is not supported by this executor: device attachment and accounting are "
    ++ "not implemented; refusing to fall back to CPU"
  match execution.runtime, execution.packageKind, permit with
  | .wasm, .inlineModule, true => do
    let submission ← execution.toWasmSubmission
    node.startWasm P submission granted limits
  | .wasm, .inlineModule, false => .error "Wasm workloads require an execution permit"
  | .wasm, .ociImage, true => do
    let submission ← execution.toOciWasmSubmission
    node.startOciWasm P submission granted limits
  | .wasm, .ociImage, false => .error "OCI Wasm workloads require an execution permit"
  | .python, .inlineSource, _ => do
    node.processPermit
    node.startPython execution granted
  | .python, .ociImage, _ | .container, .ociImage, _ => do
    node.processPermit
    node.startContainer P execution granted
  | .builtin, .builtin, false => .ok (.builtin execution.builtinName execution.input)
  | .builtin, .builtin, true => .error "builtin workloads do not use execution permits"
  | .teeService, .builtin, false => do
    let hash ← okOr execution.security.confidentialSessionHash
      "missing confidential_session_hash"
    let serviceId ← okOr execution.security.serviceId "missing tee service_id"
    let envelope ← okOr execution.security.requestEnvelope "missing request_envelope"
    node.startConfidentialService hash serviceId envelope
  | .teeWasm, .inlineModule, true => do
    let hash ← okOr execution.security.confidentialSessionHash
      "missing confidential_session_hash"
    let envelope ← okOr execution.security.requestEnvelope "missing request_envelope"
    node.startAttestedWasm P hash envelope
  | .teeWasm, .inlineModule, false =>
    .error "attested confidential wasm workloads require an execution permit"
  | _, _, _ => .error "unsupported execution runtime/package combination"

def startWorkload (spec : Workload) (granted : List String) (permit : Bool)
    (limits : ExecutionLimits) : Except String RuntimeInput :=
  match spec, permit with
  | .execution execution, permit => node.startExecution P execution granted permit limits
  | .wasm submission, true => node.startWasm P submission granted limits
  | .wasm _, false => .error "Wasm workloads require an execution permit"
  | .ociWasm submission, true => node.startOciWasm P submission granted limits
  | .ociWasm _, false => .error "OCI Wasm workloads require an execution permit"
  | .confidentialService hash serviceId envelope, false =>
    node.startConfidentialService hash serviceId envelope
  | .confidentialService .., true =>
    .error "confidential service workloads do not use execution permits"
  | .attestedWasm hash envelope, true => node.startAttestedWasm P hash envelope
  | .attestedWasm .., false =>
    .error "attested confidential wasm workloads require an execution permit"
  | .eventsQuery kinds limit, false => .ok (.eventsQuery kinds limit)
  | .eventsQuery .., true => .error "events workloads do not use execution permits"

def workloadInputSize : Workload → Except String ℕ
  | .execution execution => (P.canonicalJson execution.input).map length
  | .wasm submission => (P.canonicalJson submission.input).map length
  | .ociWasm submission => (P.canonicalJson submission.input).map length
  | .confidentialService _ _ envelope | .attestedWasm _ envelope =>
    (P.canonicalJson (toJson envelope)).map length
  | .eventsQuery kinds limit =>
    (P.canonicalJson (toJson (Workload.eventsQuery kinds limit))).map length

def checkInputSize (spec : Workload) (limits : ExecutionLimits) : Except String Unit := do
  let inputSize ← workloadInputSize P spec
  let maxInputBytes := limits.maxInputBytes
  rejectIf (decide (limits.maxInputBytes < inputSize)) <|
    s!"workload input is {inputSize} bytes and exceeds quoted max_input_bytes {maxInputBytes}"

def checkQuotedOffer (service : ProviderServiceRecord) (expectedOfferHash : String) :
    Except String Unit := do
  match ← node.offerHash service.offerId with
  | none => .error ("service-addressed execution offer is missing: " ++ service.offerId)
  | some offerHash =>
    rejectIf (offerHash != expectedOfferHash)
      "service-addressed execution offer hash does not match the quoted offer"

def resolveServiceAddressed (expectedOfferHash : String) : Except String Workload := do
  let serviceId ← okOr execution.security.serviceId
    "service-addressed execution requires security.service_id"
  let found ← node.services serviceId
  let service ← okOr found s!"service not found: {serviceId}"
  service.validateExecution execution
  node.checkQuotedOffer service expectedOfferHash
  service.buildBoundWorkloadSpec P node.verifyBundle execution.input

def runWorkloadSpec (spec : Workload) (granted : List String) (permit : Bool)
    (expectedOfferHash : String) (limits : ExecutionLimits) : Except String RuntimeInput := do
  checkInputSize P spec limits
  match spec with
  | .execution execution =>
    if execution.isServiceAddressed then do
      let bound ← node.resolveServiceAddressed P execution expectedOfferHash
      checkInputSize P bound limits
      node.startWorkload P bound granted permit limits
    else node.startWorkload P (.execution execution) granted permit limits
  | spec => node.startWorkload P spec granted permit limits

def processDeal (quote : QuotePayload) (spec : Workload) : Except String RuntimeInput :=
  node.runWorkloadSpec P spec (node.effectiveCapabilities quote) spec.requiresWasmPermit
    quote.offerHash quote.executionLimits

end ExecutionNode

/-! ## What the parts hand on -/

section Confinement

variable {node : ExecutionNode} {granted : List String}
  {limits : ExecutionLimits} {input : RuntimeInput}

theorem within_of_startWasm {submission : WasmSubmission}
    (h : node.startWasm P submission granted limits = .ok input) : input.Within granted := by
  unfold ExecutionNode.startWasm at h
  simp only [bind_eq_ok, pure_eq_ok] at h
  obtain ⟨verified, -, host, -, rfl⟩ := h
  exact Subset.refl granted

theorem within_of_startOciWasm {submission : OciWasmSubmission}
    (h : node.startOciWasm P submission granted limits = .ok input) : input.Within granted := by
  unfold ExecutionNode.startOciWasm at h
  simp only [↓check_eq_ok, bind_eq_ok, pure_eq_ok] at h
  obtain ⟨-, moduleBytes, -, declared, -, host, -, rfl⟩ := h
  exact Subset.refl granted

theorem within_of_startAttestedWasm (h : node.startAttestedWasm P hash envelope = .ok input) :
    input.Within granted := by
  unfold ExecutionNode.startAttestedWasm at h
  simp only [↓check_eq_ok, bind_eq_ok, pure_eq_ok] at h
  obtain ⟨submission, -, verified, -, -, rfl⟩ := h
  exact nil_subset granted

theorem within_of_startConfidentialService {serviceId : String}
    (h : node.startConfidentialService hash serviceId envelope = .ok input) :
    input.Within granted := by
  unfold ExecutionNode.startConfidentialService at h
  simp only [↓check_eq_ok, pure_eq_ok] at h
  obtain ⟨-, rfl⟩ := h
  exact nil_subset granted

theorem mem_of_mountFile {mount : WorkloadMount}
    (h : node.mountFile granted mount = .ok (some file)) :
    file.mount.accessCapability ∈ granted := by
  unfold ExecutionNode.mountFile at h
  simp only [bind_eq_ok] at h
  obtain ⟨kind, -, access, -, h⟩ := h
  split at h
  case isTrue hgranted =>
    simp only [↓check_eq_ok, bind_eq_ok, pure_eq_ok, some.injEq] at h
    obtain ⟨binding, -, -, -, -, rfl⟩ := h
    exact contains_iff_mem.mp hgranted
  case isFalse => cases h

theorem mem_of_collectDataMountPlan {mounts : List WorkloadMount} {plan : DataMountPlan}
    (h : node.collectDataMountPlan mounts granted = .ok plan) (hfile : file ∈ plan.files) :
    file.mount.accessCapability ∈ granted := by
  unfold ExecutionNode.collectDataMountPlan at h
  simp only [bind_eq_ok, pure_eq_ok] at h
  obtain ⟨files, hfiles, rfl⟩ := h
  obtain ⟨mount, -, hmount⟩ := exists_of_mem_mapM hfiles (some file) (reduceOption_mem_iff.mp hfile)
  exact mem_of_mountFile hmount

theorem within_of_startPython (h : node.startPython execution granted = .ok input) :
    input.Within granted := by
  unfold ExecutionNode.startPython at h
  simp only [↓check_eq_ok, bind_eq_ok, pure_eq_ok] at h
  obtain ⟨source, -, -, plan, hplan, rfl⟩ := h
  intro capability hmem
  obtain hmem | hmem := mem_append.mp hmem
  · obtain ⟨mount, hmount, rfl⟩ := mem_map.mp hmem
    exact contains_iff_mem.mp (mem_filter.mp hmount).2
  · obtain ⟨file, hfile, rfl⟩ := mem_map.mp hmem
    exact mem_of_collectDataMountPlan hplan hfile

/-! ### Workers -/

theorem mem_of_checkMounts :
    ∀ {handles : List String} {mounts : List ExecutionMount},
      OciWorkerRequest.checkMounts grants handles mounts = .ok () →
      ∀ mount ∈ mounts, mount.accessCapability ∈ grants
  | _, [], _ => forall_mem_nil _
  | handles, mount :: rest, h => by
    simp only [OciWorkerRequest.checkMounts, check_eq_ok, rejectIf_eq_ok,
      Bool.not_eq_false', contains_iff_mem] at h
    obtain ⟨-, -, -, hgrant, hrest⟩ := h
    exact forall_mem_cons.mpr ⟨hgrant, mem_of_checkMounts hrest⟩

theorem mem_of_checkSecrets :
    ∀ {handles : List String} {secrets : List String},
      OciWorkerRequest.checkSecrets grants handles secrets = .ok () →
      ∀ secret ∈ secrets, "secret." ++ secret ∈ grants
  | _, [], _ => forall_mem_nil _
  | handles, secret :: rest, h => by
    simp only [OciWorkerRequest.checkSecrets, check_eq_ok, rejectIf_eq_ok,
      Bool.not_eq_false', contains_iff_mem] at h
    obtain ⟨-, -, hgrant, hrest⟩ := h
    exact forall_mem_cons.mpr ⟨hgrant, mem_of_checkSecrets hrest⟩

/-- A request that passes its checks asks for what it names: every mount, every
secret and the network are among its capabilities. -/
theorem capabilities_of_validateCanonical
    (h : request.validateCanonical P validateDigestImage = .ok ()) :
    (RuntimeInput.worker request).capabilities ⊆ request.grantedCapabilities := by
  unfold OciWorkerRequest.validateCanonical at h
  simp only [↓check_eq_ok, bind_eq_ok, rejectIf_eq_ok, bne_eq_false_iff_eq] at h
  obtain ⟨-, -, -, -, inputBytes, -, -, -, hnetwork, hmounts, hsecrets⟩ := h
  intro capability hmem
  simp only [RuntimeInput.capabilities, List.mem_append, List.mem_map] at hmem
  obtain ((hmem | ⟨mount, hmount, rfl⟩) | ⟨secret, hsecret, rfl⟩) | hmem := hmem
  · exact hmem
  · exact mem_of_checkMounts hmounts mount hmount
  · exact mem_of_checkSecrets hsecrets secret hsecret
  · split at hmem
    case isTrue hegress =>
      obtain rfl := mem_singleton.mp hmem
      exact contains_iff_mem.mp (hnetwork ▸ hegress)
    case isFalse => cases hmem

theorem within_of_normalized {request' : OciWorkerRequest}
    (h : request.normalized P validateDigestImage = .ok request')
    (hgranted : request.grantedCapabilities ⊆ granted) :
    (RuntimeInput.worker request').Within granted := by
  unfold OciWorkerRequest.normalized at h
  simp only [↓check_eq_ok, bind_eq_ok, pure_eq_ok] at h
  obtain ⟨-, mounts, -, hvalid, rfl⟩ := h
  intro capability hmem
  have hnamed := mem_of_mem_eraseReps (capabilities_of_validateCanonical hvalid hmem)
  obtain ⟨name, hname, rfl⟩ := mem_map.mp ((mem_insertionSort _).mp hnamed)
  exact mem_map_of_mem (hgranted hname)

theorem within_of_startContainer (h : node.startContainer P execution granted = .ok input) :
    input.Within granted := by
  unfold ExecutionNode.startContainer at h
  simp only [↓check_eq_ok, bind_eq_ok, pure_eq_ok] at h
  obtain ⟨-, request, hrequest, rfl⟩ := h
  unfold ExecutionNode.requestFromExecution at hrequest
  simp only [bind_eq_ok] at hrequest
  obtain ⟨reference, -, digest, -, image, -, hnormalized⟩ := hrequest
  refine within_of_normalized hnormalized fun capability hmem => ?_
  have hfiltered := (mem_insertionSort _).mp hmem
  exact contains_iff_mem.mp (mem_filter.mp hfiltered).2

/-! ### Every kind of workload -/

theorem within_of_startExecution
    (h : node.startExecution P execution granted permit limits = .ok input) :
    input.Within granted := by
  unfold ExecutionNode.startExecution at h
  obtain ⟨-, h⟩ := check_eq_ok.mp h
  split at h
  case h_1 =>
    obtain ⟨submission, -, h⟩ := bind_eq_ok.mp h
    exact within_of_startWasm h
  case h_3 =>
    obtain ⟨submission, -, h⟩ := bind_eq_ok.mp h
    exact within_of_startOciWasm h
  case h_5 =>
    obtain ⟨-, h⟩ := check_eq_ok.mp h
    exact within_of_startPython h
  case h_6 | h_7 =>
    obtain ⟨-, h⟩ := check_eq_ok.mp h
    exact within_of_startContainer h
  case h_8 =>
    cases h
    exact nil_subset granted
  case h_10 =>
    simp only [bind_eq_ok] at h
    obtain ⟨hash, -, serviceId, -, envelope, -, h⟩ := h
    exact within_of_startConfidentialService h
  case h_11 =>
    simp only [bind_eq_ok] at h
    obtain ⟨hash, -, envelope, -, h⟩ := h
    exact within_of_startAttestedWasm h
  all_goals cases h

theorem within_of_startWorkload (h : node.startWorkload P spec granted permit limits = .ok input) :
    input.Within granted := by
  unfold ExecutionNode.startWorkload at h
  split at h
  case h_1 => exact within_of_startExecution h
  case h_2 => exact within_of_startWasm h
  case h_4 => exact within_of_startOciWasm h
  case h_6 => exact within_of_startConfidentialService h
  case h_8 => exact within_of_startAttestedWasm h
  case h_10 =>
    cases h
    exact nil_subset granted
  all_goals cases h

/-- A workload is started within what it was granted, whatever its kind and also
when it is made from a service that asks for more. -/
theorem within_of_runWorkloadSpec {offerHash : String}
    (h : node.runWorkloadSpec P spec granted permit offerHash limits = .ok input) :
    input.Within granted := by
  unfold ExecutionNode.runWorkloadSpec at h
  obtain ⟨-, h⟩ := check_eq_ok.mp h
  split at h
  case h_1 execution =>
    split at h
    case isTrue =>
      obtain ⟨bound, -, h⟩ := bind_eq_ok.mp h
      obtain ⟨-, h⟩ := check_eq_ok.mp h
      exact within_of_startWorkload h
    case isFalse => exact within_of_startWorkload h
  case h_2 => exact within_of_startWorkload h

end Confinement

/-! ## From the quote to the run -/

def createWorkloadQuote {node : NodeIdentity P} (s : QuoteNode node)
    (spec : Workload) (offerId requesterId : String) (maxPriceSats : Option ℕ)
    (otherChecks : SignedOffer → Except String Unit) (now createdAt : ℤ) :
    Except String (SignedQuote × OfferStore node) := do
  let requestHash ← spec.requestHash P
  createQuoteRecord s
    { offerId, requesterId, spec := spec.spec requestHash, runtime := spec.runtime
      contractVersion := spec.contractVersion
      requestedCapabilities := spec.requestedCapabilities, maxPriceSats }
    otherChecks now createdAt

theorem RuntimeInput.Within.mono {granted granted' : List String} {input : RuntimeInput}
    (h : input.Within granted) (hsub : granted ⊆ granted') : input.Within granted' := by
  cases input with
  | worker request => exact Subset.trans h (map_subset _ hsub)
  | wasm | python | builtin | confidentialService | eventsQuery => exact Subset.trans h hsub

theorem effectiveCapabilities_subset (executor : ExecutionNode) (quote : QuotePayload) :
    executor.effectiveCapabilities quote ⊆ quote.capabilitiesGranted :=
  fun _ hmem => (mem_filter.mp hmem).1

theorem offerId_of_lookupOffer {node : NodeIdentity P} {config : OfferConfig}
    {bindings : List CurrentOfferBinding} {descriptorHash : String} {now : ℤ}
    {store store' : OfferStore node} {offerId : String} {offer : SignedOffer}
    (h : lookupOffer config bindings descriptorHash now store offerId
      = .ok (some offer, store')) : offer.payload.offerId = trim offerId := by
  unfold lookupOffer at h
  obtain ⟨normalized, hnormalized, h⟩ := bind_eq_ok.mp h
  obtain ⟨rfl, -⟩ := normalizeShortId_ok hnormalized
  obtain ⟨⟨records, store₁⟩, -, h⟩ := bind_eq_ok.mp h
  have hfound := (Prod.mk.inj (pure_eq_ok.mp h)).1
  simpa using find?_some hfound

/-- **Capabilities are confined.** Whatever a node is when it runs a deal, it starts
the workload within the capabilities the quote grants; it drops some of them and adds
none. Those are capabilities of the offer the quote was asked on, and capabilities
the quoted workload asked for. So did the workload of the deal, which has the hash
the quote commits to. -/
theorem capabilities_confined {node : NodeIdentity P} (s : QuoteNode node)
    (quoted : Workload) (offerId requesterId : String) (maxPriceSats : Option ℕ)
    (otherChecks : SignedOffer → Except String Unit) (now createdAt : ℤ)
    {quote : SignedQuote} {store : OfferStore node}
    (hquote : createWorkloadQuote s quoted offerId requesterId maxPriceSats otherChecks now
      createdAt = .ok (quote, store)) (executor : ExecutionNode) (spec : Workload) :
    (∀ input, executor.processDeal P quote.payload spec = .ok input →
      input.Within (executor.effectiveCapabilities quote.payload)
      ∧ input.Within quote.payload.capabilitiesGranted)
    ∧ executor.effectiveCapabilities quote.payload ⊆ quote.payload.capabilitiesGranted
    ∧ (∃ offer, lookupOffer s.config s.bindings s.descriptorHash now s.store offerId
          = .ok (some offer, store)
        ∧ offer.payload.offerId = trim offerId ∧ offer.hash = quote.payload.offerHash
        ∧ quote.payload.capabilitiesGranted ⊆ offer.payload.executionProfile.capabilities)
    ∧ quote.payload.capabilitiesGranted ⊆ quoted.requestedCapabilities ∧ (P.CanonicalFields →
        P.NoCollisionAmong ([quoted, spec].filterMap fun w =>
          (P.canonicalJson (.obj w.requestFields)).toOption) →
        spec.requestHash P = .ok quote.payload.workloadHash →
        quote.payload.capabilitiesGranted ⊆ spec.requestedCapabilities) := by
  unfold createWorkloadQuote at hquote
  obtain ⟨requestHash, hhash, hquote⟩ := bind_eq_ok.mp hquote
  obtain ⟨offer, total, terms, hfound, -, -, -, -, -, -, -, hoffer, -, -, -, -, hworkload,
    hgranted, hoffered⟩ := createQuoteRecord_ok hquote
  dsimp only [Workload.spec] at hworkload hgranted hoffered
  have heffective := effectiveCapabilities_subset executor quote.payload
  have hrequested : quote.payload.capabilitiesGranted ⊆ quoted.requestedCapabilities :=
    fun _ hmem => hgranted ▸ hmem
  refine ⟨fun input hrun => ?_, heffective, ?_, hrequested, fun hjson hsha hspec => ?_⟩
  · have hwithin := within_of_runWorkloadSpec hrun
    exact ⟨hwithin, hwithin.mono heffective⟩
  · exact ⟨offer, hfound, offerId_of_lookupOffer hfound, hoffer.symm,
      fun _ hmem => hoffered (hgranted ▸ hmem)⟩
  · have hsame := requestedCapabilities_eq_of_requestHash_eq hjson hhash (hworkload ▸ hspec) hsha
    exact fun _ hmem => hsame ▸ hrequested hmem

/-! ### A Python execution with a database -/

def sampleMountedExecution : ExecutionWorkload :=
  { schemaVersion := frogletSchemaV1, workloadKind := workloadKindExecutionV1
    runtime := .python, packageKind := .inlineSource, entrypoint := ⟨.handler, "handler"⟩
    contractVersion := contractPythonHandlerJsonV1, inputFormat := jcsJsonFormat
    inputHash := "aa", requestedAccess := ["mount.sqlite.read.data"]
    mounts := [{ kind := "sqlite", handle := "data", readOnly := true, binding := none }]
    input := .null, sourceHash := some "aa", inlineSource := some "source" }

def sampleMountOffer : QuoteNode (P := samplePrimitives)
    ⟨"p", fun _ => "sig", verifyMessage_samplePrimitives "p" "sig"⟩ :=
  let offered := sampleQuoteNode [.stripe] (some .stripe)
  { offered with
    bindings := offered.bindings.map fun binding =>
      { binding with
        definition :=
          { binding.definition with
            offerKind := workloadKindExecutionV1, runtime := "python"
            packageKind := "inline_source", contractVersion := contractPythonHandlerJsonV1
            mounts := [{ kind := "sqlite", handle := "data", readOnly := true }] } } }

def sampleExecutor : ExecutionNode where
  gpuCapabilities := []
  wasmHost := none
  services _ := .ok none
  offerHash _ := .ok none
  environment key := if key == "FROGLET_MOUNT_sqlite_data" then some "/data.db" else none
  isFile path := path == "/data.db"
  workerLimits _ := ⟨1, 1, 1, 1, 1, 1⟩
  verifyBundle _ := .error "no bundle"
  attestPython _ := .ok ()
  fetchOciWasmModule _ := .error "no registry"
  pinImage reference digest := .ok (reference ++ "@sha256:" ++ digest)
  validateDigestImage _ := .ok ()
  processPermit := .ok ()
  attestedSubmission _ _ := .error "confidential session not found"
  checkConfidentialService _ _ _ := .error "confidential session not found"

theorem capabilities_confined_sqlite :
    ∃ quote store input, createWorkloadQuote sampleMountOffer (.execution sampleMountedExecution)
        "o" sampleQuoteRequest.requesterId none (fun _ => .ok ()) 0 0 = .ok (quote, store)
      ∧ sampleExecutor.processDeal samplePrimitives quote.payload
        (.execution sampleMountedExecution) = .ok input
      ∧ input.capabilities = ["mount.sqlite.read.data", "mount.sqlite.read.data"]
      ∧ input.Within quote.payload.capabilitiesGranted
      ∧ quote.payload.capabilitiesGranted ⊆ sampleMountedExecution.requestedAccess := by
  have hrun : (createWorkloadQuote sampleMountOffer (.execution sampleMountedExecution) "o"
      sampleQuoteRequest.requesterId none (fun _ => .ok ()) 0 0).toOption.bind (fun issued =>
        (sampleExecutor.processDeal samplePrimitives issued.1.payload
          (.execution sampleMountedExecution)).toOption.map (·.capabilities))
      = some ["mount.sqlite.read.data", "mount.sqlite.read.data"] := by decide +kernel
  cases hquote : createWorkloadQuote sampleMountOffer (.execution sampleMountedExecution) "o"
      sampleQuoteRequest.requesterId none (fun _ => .ok ()) 0 0 with
  | error e =>
    rw [hquote] at hrun
    cases hrun
  | ok issued =>
    obtain ⟨quote, store⟩ := issued
    rw [hquote] at hrun
    cases hdeal : sampleExecutor.processDeal samplePrimitives quote.payload
        (.execution sampleMountedExecution) with
    | error e =>
      simp only [Except.toOption, bind_some, hdeal, map_none] at hrun
      cases hrun
    | ok input =>
      simp only [Except.toOption, bind_some, hdeal, map_some, some.injEq] at hrun
      obtain ⟨hwithin, -, -, hrequested, -⟩ := capabilities_confined sampleMountOffer
        (.execution sampleMountedExecution) "o" _ none _ 0 0 hquote sampleExecutor
        (.execution sampleMountedExecution)
      exact ⟨quote, store, input, rfl, hdeal, hrun, (hwithin input hdeal).2, hrequested⟩

end Froglet
