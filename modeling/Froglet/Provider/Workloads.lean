import Froglet.Protocol.Binding
import Froglet.Provider.Quotes
import Froglet.Publication.Revision

/-!
# Workloads

What a requester asks a provider to run. A workload is one of six kinds, and each
kind has its own place for the capabilities it asks for: an execution lists them as
its requested access, a WebAssembly module as the requested capabilities of the
workload inside its submission, and the others ask for none.
-/

namespace Froglet

open List Option
variable {hash : String}

def contractBuiltinEventsQueryV1 : String := "froglet.builtin.events_query.v1"
def contractContainerJsonV1 : String := "froglet.container.stdin_json.v1"
def contractPythonHandlerJsonV1 : String := "froglet.python.handler_json.v1"
def contractPythonScriptJsonV1 : String := "froglet.python.script_json.v1"
def workloadKindComputeWasmV1 : String := "compute.wasm.v1"
def workloadKindComputeWasmOciV1 : String := "compute.wasm.oci.v1"
def workloadKindConfidentialServiceV1 : String := "confidential.service.v1"
def workloadKindComputeWasmAttestedV1 : String := "compute.wasm.attested.v1"
def wasmSubmissionTypeV1 : String := "wasm_submission"
def wasmOciSubmissionTypeV1 : String := "wasm_oci_submission"
def wasmRunJsonAbiV1 : String := "froglet.wasm.run_json.v1"
def wasmHostJsonAbiV1 : String := "froglet.wasm.host_json.v1"
def wasmModuleFormat : String := "application/wasm"
def wasmModuleOciFormat : String := "application/vnd.oci.image.manifest.v1+json"
def wasmCapabilityHttpFetch : String := "net.http.fetch"
def wasmCapabilityHttpFetchAuth : String := "net.http.fetch.auth."
def wasmCapabilitySqliteQueryRead : String := "db.sqlite.query.read."

/-! ## Packages and entrypoints -/

inductive ExecutionPackageKind where
  | inlineModule | inlineSource | ociImage | builtin
deriving DecidableEq

namespace ExecutionPackageKind

def asStr : ExecutionPackageKind → String
  | inlineModule => "inline_module"
  | inlineSource => "inline_source"
  | ociImage => "oci_image"
  | builtin => "builtin"

def parse (value : String) : Except String ExecutionPackageKind :=
  let name := trim value
  if name == "inline_module" then .ok .inlineModule
  else if name == "inline_source" then .ok .inlineSource
  else if name == "oci_image" then .ok .ociImage
  else if name == "builtin" then .ok .builtin
  else .error s!"unsupported package_kind: {name}"

end ExecutionPackageKind

instance : Serialize ExecutionPackageKind := ⟨fun kind => .str kind.asStr⟩

inductive ExecutionEntrypointKind where
  | handler | script | module | builtin
deriving DecidableEq

namespace ExecutionEntrypointKind

def asStr : ExecutionEntrypointKind → String
  | handler => "handler"
  | script => "script"
  | module => "module"
  | builtin => "builtin"

def parse (value : String) : Except String ExecutionEntrypointKind :=
  let name := trim value
  if name == "handler" then .ok .handler
  else if name == "script" then .ok .script
  else if name == "module" then .ok .module
  else if name == "builtin" then .ok .builtin
  else .error s!"unsupported entrypoint_kind: {name}"

def defaultFor : ExecutionRuntime → ExecutionEntrypointKind
  | .builtin => .builtin
  | .wasm | .teeWasm => .module
  | _ => .handler

end ExecutionEntrypointKind

instance : Serialize ExecutionEntrypointKind := ⟨fun kind => .str kind.asStr⟩

def defaultEntrypointFor : ExecutionRuntime → ExecutionEntrypointKind → String
  | .builtin, _ => "events.query"
  | .any, _ => ""
  | _, .script => "__main__"
  | _, .module => "run"
  | .python, _ | .teePython, _ => "handler"
  | _, _ => "run"

def defaultContractVersionFor :
    ExecutionRuntime → ExecutionPackageKind → ExecutionEntrypointKind → String
  | .any, _, _ => ""
  | .python, .inlineSource, .script | .teePython, .inlineSource, .script =>
    contractPythonScriptJsonV1
  | .python, .inlineSource, _ | .teePython, .inlineSource, _ => contractPythonHandlerJsonV1
  | .container, .ociImage, _ | .python, .ociImage, _ => contractContainerJsonV1
  | .builtin, .builtin, _ => contractBuiltinEventsQueryV1
  | _, _, _ => wasmRunJsonAbiV1

structure ExecutionEntrypoint where
  kind : ExecutionEntrypointKind
  value : String

instance : Serialize ExecutionEntrypoint where
  toJson x := .obj <| field "kind" x.kind ++ field "value" x.value

/-! ## Records -/

structure EncryptedEnvelope where
  (schemaVersion envelopeType algorithm confidentialSessionHash direction payloadFormat : String)
  (nonceB64 ciphertextB64 : String)

def EncryptedEnvelope.fields (x : EncryptedEnvelope) : List (String × Json) :=
  field "schema_version" x.schemaVersion ++ field "envelope_type" x.envelopeType
  ++ field "algorithm" x.algorithm
  ++ field "confidential_session_hash" x.confidentialSessionHash
  ++ field "direction" x.direction ++ field "payload_format" x.payloadFormat
  ++ field "nonce_b64" x.nonceB64 ++ field "ciphertext_b64" x.ciphertextB64

instance : Serialize EncryptedEnvelope := ⟨fun x => .obj x.fields⟩

inductive ExecutionSecurityMode where
  | standard | tee
deriving DecidableEq

instance : Serialize ExecutionSecurityMode where
  toJson
    | .standard => .str "standard"
    | .tee => .str "tee"

structure ExecutionSecurity where
  mode : ExecutionSecurityMode := .standard
  confidentialSessionHash : Option String := none
  serviceId : Option String := none
  requestEnvelope : Option EncryptedEnvelope := none

instance : Serialize ExecutionSecurity where
  toJson x := .obj <|
    field "mode" x.mode ++ optField "confidential_session_hash" x.confidentialSessionHash
    ++ optField "service_id" x.serviceId ++ optField "request_envelope" x.requestEnvelope

structure WorkloadMount extends ExecutionMount where
  binding : Option String

instance : Serialize WorkloadMount where
  toJson x := .obj <|
    field "handle" x.handle ++ field "kind" x.kind ++ field "read_only" x.readOnly
    ++ optField "binding" x.binding

def ExecutionMount.accessCapability (mount : ExecutionMount) : String :=
  let access := if mount.readOnly then "read" else "write"
  "mount." ++ mount.kind ++ "." ++ access ++ "." ++ mount.handle

structure ExecutionWorkload where
  (schemaVersion workloadKind : String)
  runtime : ExecutionRuntime
  packageKind : ExecutionPackageKind
  entrypoint : ExecutionEntrypoint
  (contractVersion inputFormat inputHash : String)
  requestedAccess : List String := []
  security : ExecutionSecurity := {}
  mounts : List WorkloadMount := []
  input : Json
  moduleHash : Option String := none
  moduleBytesHex : Option String := none
  sourceHash : Option String := none
  inlineSource : Option String := none
  pythonBundle : Option Json := none
  ociReference : Option String := none
  ociDigest : Option String := none
  builtinName : Option String := none

def ExecutionWorkload.fields (x : ExecutionWorkload) : List (String × Json) :=
  field "schema_version" x.schemaVersion ++ field "workload_kind" x.workloadKind
  ++ field "runtime" x.runtime ++ field "package_kind" x.packageKind
  ++ field "entrypoint" x.entrypoint ++ field "contract_version" x.contractVersion
  ++ field "input_format" x.inputFormat ++ field "input_hash" x.inputHash
  ++ listField "requested_access" x.requestedAccess ++ field "security" x.security
  ++ listField "mounts" x.mounts ++ field "input" x.input
  ++ optField "module_hash" x.moduleHash ++ optField "module_bytes_hex" x.moduleBytesHex
  ++ optField "source_hash" x.sourceHash ++ optField "inline_source" x.inlineSource
  ++ optField "oci_reference" x.ociReference ++ optField "oci_digest" x.ociDigest
  ++ optField "builtin_name" x.builtinName

instance : Serialize ExecutionWorkload := ⟨fun x => .obj x.fields⟩

structure ComputeWasmWorkload where
  (schemaVersion workloadKind abiVersion moduleFormat moduleHash inputFormat inputHash : String)
  requestedCapabilities : List String

def ComputeWasmWorkload.fields (x : ComputeWasmWorkload) : List (String × Json) :=
  field "schema_version" x.schemaVersion ++ field "workload_kind" x.workloadKind
  ++ field "abi_version" x.abiVersion ++ field "module_format" x.moduleFormat
  ++ field "module_hash" x.moduleHash ++ field "input_format" x.inputFormat
  ++ field "input_hash" x.inputHash ++ field "requested_capabilities" x.requestedCapabilities

instance : Serialize ComputeWasmWorkload := ⟨fun x => .obj x.fields⟩

structure OciWasmWorkload where
  (schemaVersion workloadKind abiVersion moduleFormat ociReference ociDigest inputFormat : String)
  inputHash : String
  requestedCapabilities : List String

def OciWasmWorkload.fields (x : OciWasmWorkload) : List (String × Json) :=
  field "schema_version" x.schemaVersion ++ field "workload_kind" x.workloadKind
  ++ field "abi_version" x.abiVersion ++ field "module_format" x.moduleFormat
  ++ field "oci_reference" x.ociReference ++ field "oci_digest" x.ociDigest
  ++ field "input_format" x.inputFormat ++ field "input_hash" x.inputHash
  ++ field "requested_capabilities" x.requestedCapabilities

instance : Serialize OciWasmWorkload := ⟨fun x => .obj x.fields⟩

structure WasmSubmission where
  (schemaVersion submissionType : String)
  workload : ComputeWasmWorkload
  moduleBytesHex : String
  input : Json

instance : Serialize WasmSubmission where
  toJson x := .obj <|
    field "schema_version" x.schemaVersion ++ field "submission_type" x.submissionType
    ++ field "workload" x.workload ++ field "module_bytes_hex" x.moduleBytesHex
    ++ field "input" x.input

structure OciWasmSubmission where
  (schemaVersion submissionType : String)
  workload : OciWasmWorkload
  input : Json

instance : Serialize OciWasmSubmission where
  toJson x := .obj <|
    field "schema_version" x.schemaVersion ++ field "submission_type" x.submissionType
    ++ field "workload" x.workload ++ field "input" x.input

inductive Workload where
  | execution (execution : ExecutionWorkload)
  | wasm (submission : WasmSubmission)
  | ociWasm (submission : OciWasmSubmission)
  | confidentialService (confidentialSessionHash serviceId : String)
    (requestEnvelope : EncryptedEnvelope)
  | attestedWasm (confidentialSessionHash : String) (requestEnvelope : EncryptedEnvelope)
  | eventsQuery (kinds : List String) (limit : Option ℕ)

/-! ## What a kind of workload says -/

namespace ExecutionWorkload

variable (execution : ExecutionWorkload)

def isServiceAddressed : Bool :=
  execution.security.mode == .standard && execution.security.serviceId.any (!isBlank ·)

def bindingHash : Option String :=
  match execution.packageKind with
  | .inlineSource => execution.sourceHash
  | .inlineModule | .ociImage | .builtin => execution.moduleHash

def requiresWasmPermit : Bool :=
  execution.runtime == .wasm || execution.runtime == .teeWasm

def externalContainer : Bool :=
  execution.packageKind == .ociImage
    && (execution.runtime == .container || execution.runtime == .python)

end ExecutionWorkload

namespace Workload

def workloadKind : Workload → String
  | .execution workload => workload.workloadKind
  | wasm _ => workloadKindComputeWasmV1
  | ociWasm _ => workloadKindComputeWasmOciV1
  | confidentialService .. => workloadKindConfidentialServiceV1
  | attestedWasm .. => workloadKindComputeWasmAttestedV1
  | eventsQuery .. => "events.query"

def runtime : Workload → Option String
  | .execution workload => some workload.runtime.asStr
  | wasm _ | ociWasm _ => some "wasm"
  | confidentialService .. => none
  | attestedWasm .. => some "tee.wasm"
  | eventsQuery .. => some "builtin"

def contractVersion : Workload → Option String
  | .execution workload => some workload.contractVersion
  | wasm submission => some submission.workload.abiVersion
  | ociWasm submission => some submission.workload.abiVersion
  | confidentialService .. => some "froglet.confidential.service.v1"
  | attestedWasm .. => some "froglet.confidential.attested_wasm.v1"
  | eventsQuery .. => some "froglet.builtin.events_query.v1"

def requestedCapabilities : Workload → List String
  | .execution workload => workload.requestedAccess
  | wasm submission => submission.workload.requestedCapabilities
  | ociWasm submission => submission.workload.requestedCapabilities
  | confidentialService .. | attestedWasm .. | eventsQuery .. => []

def confidentialSessionHash : Workload → Option String
  | .execution workload => workload.security.confidentialSessionHash
  | confidentialService hash _ _ | attestedWasm hash _ => some hash
  | wasm _ | ociWasm _ | eventsQuery .. => none

def requiresWasmPermit : Workload → Bool
  | .execution workload => workload.requiresWasmPermit
  | wasm _ | ociWasm _ | attestedWasm .. => true
  | confidentialService .. | eventsQuery .. => false

def requestFields : Workload → List (String × Json)
  | .execution workload => workload.fields
  | wasm submission => submission.workload.fields
  | ociWasm submission => submission.workload.fields
  | confidentialService _ _ envelope | attestedWasm _ envelope => envelope.fields
  | eventsQuery kinds limit =>
    field "kind" "events_query" ++ field "kinds" kinds ++ optField "limit" limit

def requestHash (P : Primitives) (spec : Workload) : Except String String := do
  let encoded ← P.canonicalJson (.obj spec.requestFields)
  return P.sha256Hex encoded

instance : Serialize Workload where
  toJson
    | .execution workload => .obj <| field "kind" "execution" ++ field "execution" workload
    | wasm submission => .obj <| field "kind" "wasm" ++ field "submission" submission
    | ociWasm submission => .obj <| field "kind" "oci_wasm" ++ field "submission" submission
    | confidentialService hash serviceId envelope => .obj <|
      field "kind" "confidential_service" ++ field "confidential_session_hash" hash
      ++ field "service_id" serviceId ++ field "request_envelope" envelope
    | attestedWasm hash envelope => .obj <|
      field "kind" "attested_wasm" ++ field "confidential_session_hash" hash
      ++ field "request_envelope" envelope
    | eventsQuery kinds limit => .obj (eventsQuery kinds limit).requestFields

def spec (workload : Workload) (requestHash : String) : WorkloadSpec :=
  { workloadKind := workload.workloadKind
    requestHash
    confidentialSessionHash := workload.confidentialSessionHash
    wasmRuntime := workload.runtime == some "wasm"
    requiresWasmPermit := workload.requiresWasmPermit
    externalContainer := match workload with
      | .execution workload => workload.externalContainer
      | _ => false
    body := toJson workload }

end Workload

/-! ## The hash of a workload -/

structure Primitives.CanonicalFields (P : Primitives) : Prop where
  lookup : ∀ {fields fields' : List (String × Json)} {bytes : Bytes},
    P.canonicalJson (.obj fields) = .ok bytes → P.canonicalJson (.obj fields') = .ok bytes →
    ∀ key, (fields.lookup key).map P.canonicalJson = (fields'.lookup key).map P.canonicalJson
  texts : ∀ {texts texts' : List String},
    P.canonicalJson (toJson texts) = P.canonicalJson (toJson texts') → texts = texts'

section Hash

variable {P : Primitives}

theorem Workload.lookup_requestFields (spec : Workload) :
    spec.requestFields.lookup "runtime" = (match spec with
      | .execution workload => some (toJson workload.runtime)
      | _ => none)
    ∧ spec.requestFields.lookup "abi_version" = (match spec with
      | .wasm submission => some (toJson submission.workload.abiVersion)
      | .ociWasm submission => some (toJson submission.workload.abiVersion)
      | _ => none)
    ∧ spec.requestFields.lookup "requested_access" = (match spec with
      | .execution workload => listValue workload.requestedAccess
      | _ => none)
    ∧ spec.requestFields.lookup "requested_capabilities" = match spec with
      | .wasm submission => some (toJson submission.workload.requestedCapabilities)
      | .ociWasm submission => some (toJson submission.workload.requestedCapabilities)
      | _ => none := by
  unfold Workload.requestFields ExecutionWorkload.fields ComputeWasmWorkload.fields
    OciWasmWorkload.fields EncryptedEnvelope.fields
  cases spec <;> simp [lookup_append]

theorem Workload.requestHash_eq_ok {spec : Workload} :
    spec.requestHash P = .ok hash ↔ ∃ bytes, P.canonicalJson (.obj spec.requestFields) = .ok bytes
        ∧ P.sha256Hex bytes = hash := by
  unfold Workload.requestHash
  simp only [bind_eq_ok, pure_eq_ok]

theorem Primitives.CanonicalFields.listValue_inj (h : P.CanonicalFields) {a b : List String}
    (heq : (listValue a).map P.canonicalJson = (listValue b).map P.canonicalJson) : a = b := by
  cases a <;> cases b <;> simp only [listValue, isEmpty_nil, isEmpty_cons, if_true,
    Bool.false_eq_true, if_false, map_none, map_some, reduceCtorEq, some.injEq] at heq ⊢
  exact h.texts heq

/-- The hash of a workload commits to what it asks for. -/
theorem requestedCapabilities_eq_of_requestHash_eq (hjson : P.CanonicalFields)
    {spec spec' : Workload} (h : spec.requestHash P = .ok hash)
    (h' : spec'.requestHash P = .ok hash)
    (hsha : P.NoCollisionAmong ([spec, spec'].filterMap fun w =>
      (P.canonicalJson (.obj w.requestFields)).toOption)) :
    spec.requestedCapabilities = spec'.requestedCapabilities := by
  obtain ⟨bytes, hbytes, hhash⟩ := Workload.requestHash_eq_ok.mp h
  obtain ⟨bytes', hbytes', hhash'⟩ := Workload.requestHash_eq_ok.mp h'
  obtain rfl : bytes = bytes' :=
    hsha bytes (by simp [hbytes, hbytes', Except.toOption]) bytes'
      (by simp [hbytes, hbytes', Except.toOption]) (hhash.trans hhash'.symm)
  have hfields := hjson.lookup hbytes hbytes'
  have hruntime := hfields "runtime"
  have habi := hfields "abi_version"
  have haccess := hfields "requested_access"
  have hrequested := hfields "requested_capabilities"
  simp only [Workload.lookup_requestFields] at hruntime habi haccess hrequested
  -- the two workloads are of one shape, since the fields that are there tell it
  cases spec <;> cases spec' <;> first
    | exact hjson.listValue_inj haccess
    | exact hjson.texts (some.inj hrequested)
    | rfl
    | (simp at hruntime; done)
    | simp at habi

end Hash

end Froglet
