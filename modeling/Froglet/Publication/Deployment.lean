import Froglet.Protocol.Json
import Mathlib.Data.Finset.Basic
import Mathlib.Order.Defs.LinearOrder

/-!
# The managed-deployment contract

The records an adapter and a node exchange about one deployment: the desired state, the
plans an adapter answers and the results it reports, all in their first version.
-/

namespace Froglet.ManagedDeployment

def desiredStateSchemaV1 : String := "froglet.managed-deployment.desired-state.v1"
def adapterCapabilitiesSchemaV1 : String := "froglet.managed-deployment.adapter-capabilities.v1"
def planSchemaV1 : String := "froglet.managed-deployment.plan.v1"
def resultSchemaV1 : String := "froglet.managed-deployment.result.v1"

/-! ## Texts -/

def isControlChar (c : Char) : Bool :=
  let n := c.toNat
  n ≤ 0x1F || (0x7F ≤ n && n ≤ 0x9F)

def isIdentifierChar (c : Char) : Bool := c.isAlphanum || c == '-' || c == '_' || c == '.'

/-- 1 to 128 letters, digits, dots, hyphens and underscores. -/
def isIdentifier (value : String) : Bool :=
  !value.isEmpty && value.utf8ByteSize ≤ 128 && value.toList.all isIdentifierChar

def stripText (start value : String) : Option String :=
  (value.toList.dropPrefix? start.toList).map String.ofList

/-- `sha256:` and 64 lower-case hexadecimal digits. -/
def isDigest (value : String) : Bool := (stripText "sha256:" value).any (isLowerHexLen · 64)

/-! ## Records -/

/-- An image by its digest. -/
structure OciImage where
  (repository digest : String)
deriving DecidableEq

/-- What is deployed. -/
structure DeploymentRevision where
  (revisionId releaseBundleDigest : String)
  image : OciImage
deriving DecidableEq

/-- A destruction names what it destroys. -/
structure DestroyConfirmation where
  (deploymentId adapterId : String)
deriving DecidableEq

/-- A secret by its name, never its value. -/
structure LogicalSecretReference where
  (environmentName reference : String)
deriving DecidableEq

inductive WorkloadArchitecture where
  | amd64 | arm64
deriving DecidableEq

structure ResourceIntent where
  (cpuMillis memoryBytes : ℕ)
  architecture : WorkloadArchitecture
deriving DecidableEq

inductive PortProtocol where
  | tcp | udp
deriving DecidableEq

structure PortIntent where
  name : String
  containerPort : ℕ
  protocol : PortProtocol
deriving DecidableEq

inductive VolumeAccessMode where
  | singleWriter | multiReader
deriving DecidableEq

structure PersistentVolumeIntent where
  (name mountPath : String)
  minimumBytes : ℕ
  accessMode : VolumeAccessMode
deriving DecidableEq

structure HttpHealthCheck where
  (portName path : String)
  (intervalSeconds timeoutSeconds : ℕ)
deriving DecidableEq

inductive IngressTransport where
  | https
deriving DecidableEq

structure IngressIntent where
  portName : String
  transport : IngressTransport
  requestedHostname : Option String
deriving DecidableEq

/-- A `BTreeMap`: sorted, and each name once. -/
structure Environment where
  entries : List (String × String)
  sorted : entries.Pairwise (fun a b => a.1 < b.1)
deriving DecidableEq

/-- The state an operator asks for. -/
structure ManagedDeploymentDesiredState where
  (schemaVersion deploymentId : String)
  revision : DeploymentRevision
  environment : Environment
  secrets : List LogicalSecretReference
  resources : ResourceIntent
  ports : List PortIntent
  persistentVolumes : List PersistentVolumeIntent
  healthCheck : HttpHealthCheck
  ingress : Option IngressIntent
  (structuredLogs rollbackRequired : Bool)
deriving DecidableEq

/-- What an adapter may be able to do. -/
inductive AdapterCapability where
  | immutableOciImage | resourceIntent | containerPorts | httpHealthCheck
  | logicalSecretReferences | persistentVolumes | publicHttpsIngress | structuredLogs
  | revisionRollback | deploymentHistory | deploymentDestroy
deriving DecidableEq

structure AdapterCapabilities where
  (schemaVersion adapterId : String)
  capabilities : Finset AdapterCapability
deriving DecidableEq

/-- What an approval is for. -/
inductive ManagedDeploymentApprovalScope where
  | provision
  | deploy
  | rollback (targetRevision : DeploymentRevision)
  | destroy (confirmation : DestroyConfirmation)
deriving DecidableEq

inductive RecurringCostIntervalUnit where
  | hour | day | month | year
deriving DecidableEq

/-- What a plan says about its running cost. -/
inductive RecurringCostDisclosure where
  | known (amountMinorUnits : ℕ) (currency : String) (count : ℕ) (unit : RecurringCostIntervalUnit)
  | unknown
deriving DecidableEq

inductive PlanAction where
  | acquireCompute | configureEnvironment | resolveSecrets | attachStorage | deployRevision
  | configureIngress | verifyHealth | recordRollbackReference | destroyDeployment
deriving DecidableEq

structure PlanStep where
  sequence : ℕ
  action : PlanAction
  summary : String
deriving DecidableEq

structure PlanApprovalHash where
  bytes : Bytes
  size : bytes.length = 32
deriving DecidableEq

/-- A plan, or what the adapter lacks. -/
inductive ManagedDeploymentPlanOutcome where
  | applicable (steps : List PlanStep) (warnings : List String)
      (recurringCost : RecurringCostDisclosure) (approvalHash : Option PlanApprovalHash)
      (approvalScope : Option ManagedDeploymentApprovalScope)
  | unsupportedCapability (missingCapabilities : Finset AdapterCapability)
deriving DecidableEq

structure ManagedDeploymentPlan where
  (schemaVersion desiredStateSchemaVersion deploymentId revisionId : String)
  adapter : AdapterCapabilities
  outcome : ManagedDeploymentPlanOutcome
deriving DecidableEq

inductive ManagedDeploymentOperation where
  | provision | deploy | status | history | logs | rollback | destroy
deriving DecidableEq

inductive ManagedDeploymentOperationStatus where
  | inProgress | succeeded | failed
deriving DecidableEq

inductive EndpointTransport where
  | https | tcp
deriving DecidableEq

structure DeploymentEndpoint where
  (name url : String)
  transport : EndpointTransport
deriving DecidableEq

inductive DeploymentHealthStatus where
  | unknown | starting | healthy | unhealthy
deriving DecidableEq

structure DeploymentHealth where
  status : DeploymentHealthStatus
  (checkedUrl detail : Option String)
deriving DecidableEq

structure DeploymentFailure where
  (code message : String)
  retryable : Bool
deriving DecidableEq

/-- What an adapter reports of an operation. -/
structure ManagedDeploymentResult where
  schemaVersion : String
  operation : ManagedDeploymentOperation
  (deploymentId revisionId adapterId : String)
  status : ManagedDeploymentOperationStatus
  imageDigests : List OciImage
  endpoints : List DeploymentEndpoint
  health : DeploymentHealth
  rollbackRevisionId : Option String
  failure : Option DeploymentFailure
  observedAtEpochSeconds : ℤ
deriving DecidableEq

/-! ## Violations -/

/-- One violation, by its path and code. -/
structure ContractViolation where
  (path code message : String)
deriving DecidableEq

def violationIf (bad : Bool) (path code message : String) : List ContractViolation :=
  if bad then [⟨path, code, message⟩] else []

def requireSchema (path actual expected : String) : List ContractViolation :=
  violationIf (actual != expected) path "unsupported_schema_version"
    s!"expected {expected}, got {actual}"

def requireIdentifier (path value : String) : List ContractViolation :=
  violationIf (!isIdentifier value) path "invalid_identifier"
    "identifier must contain 1-128 ASCII letters, digits, dots, hyphens, or underscores"

def isEnvironmentName (value : String) : Bool :=
  match value.toList with
  | [] => false
  | first :: rest =>
    (first.isUpper || first == '_') && value.utf8ByteSize ≤ 128
      && rest.all fun c => c.isUpper || c.isDigit || c == '_'

def requireEnvironmentName (path value : String) : List ContractViolation :=
  violationIf (!isEnvironmentName value) path "invalid_environment_name"
    "environment name must use uppercase ASCII letters, digits, and underscores"

def requireDigest (path value : String) : List ContractViolation :=
  violationIf (!isDigest value) path "invalid_digest"
    "digest must use sha256:<64 lowercase hexadecimal characters>"

/-- Each item is checked with the items before it. -/
def violationsOfItems {α : Type} (items : List α)
    (check : ℕ → List α → α → List ContractViolation) : List ContractViolation :=
  items.zipIdx.flatMap fun (item, index) => check index (items.take index) item

/-! ## The desired state -/

namespace ManagedDeploymentDesiredState

/-- An image is named by its digest, never by a tag. -/
def imageViolations (repository : String) : List ContractViolation :=
  violationIf (isBlank repository || repository.toList.any isWhitespaceChar)
    "revision.image.repository" "invalid_repository"
    "OCI repository must be non-empty and contain no whitespace"
  ++ violationIf (repository.toList.contains '@')
    "revision.image.repository" "digest_must_be_separate"
    "OCI repository must not embed a digest; use image.digest"
  -- the last segment of the path
  ++ violationIf ((repository.toList.reverse.takeWhile (· != '/')).contains ':')
    "revision.image.repository" "mutable_tag_forbidden"
    "OCI repository must not include a tag; deploy image.digest"

/-- `secret://` and more than slashes. -/
def isLogicalSecretReference (reference : String) : Bool :=
  (stripText "secret://" reference).any fun name => name.toList.any (· != '/')

def secretViolations (environment : Environment) (index : ℕ) (earlier : List LogicalSecretReference)
    (secret : LogicalSecretReference) : List ContractViolation :=
  let name := secret.environmentName
  requireEnvironmentName s!"secrets[{index}].environment_name" name
  ++ violationIf (!isLogicalSecretReference secret.reference)
    s!"secrets[{index}].reference" "invalid_logical_secret_reference"
    "secret reference must use a non-empty secret:// logical reference"
  ++ violationIf (earlier.any (·.environmentName == name))
    s!"secrets[{index}].environment_name" "duplicate" "secret environment names must be unique"
  ++ violationIf (environment.entries.any (·.1 == name))
    s!"secrets[{index}].environment_name" "secret_value_collision"
    "a secret binding must not also appear in plain environment values"

def environmentViolations (entry : String × String) : List ContractViolation :=
  let name := entry.1
  requireEnvironmentName s!"environment.{name}" name
  ++ violationIf (stripText "secret://" entry.2).isSome
    s!"environment.{name}" "logical_secret_must_use_binding"
    "logical secret references belong in secrets, not plain environment values"

def portViolations (index : ℕ) (earlier : List PortIntent) (port : PortIntent) :
    List ContractViolation :=
  requireIdentifier s!"ports[{index}].name" port.name
  ++ violationIf (port.containerPort == 0)
    s!"ports[{index}].container_port" "must_be_positive"
    "container port must be greater than zero"
  ++ violationIf (earlier.any (·.name == port.name))
    s!"ports[{index}].name" "duplicate" "port names must be unique"

def volumeViolations (index : ℕ) (earlier : List PersistentVolumeIntent)
    (volume : PersistentVolumeIntent) : List ContractViolation :=
  requireIdentifier s!"persistent_volumes[{index}].name" volume.name
  ++ violationIf (volume.mountPath.toList.head? != some '/')
    s!"persistent_volumes[{index}].mount_path" "must_be_absolute"
    "persistent volume mount path must be absolute"
  ++ violationIf (volume.minimumBytes == 0)
    s!"persistent_volumes[{index}].minimum_bytes" "must_be_positive"
    "persistent volume size must be greater than zero"
  ++ violationIf (earlier.any (·.name == volume.name))
    s!"persistent_volumes[{index}].name" "duplicate" "persistent volume names must be unique"
  ++ violationIf (earlier.any (·.mountPath == volume.mountPath))
    s!"persistent_volumes[{index}].mount_path" "duplicate"
    "persistent volume mount paths must be unique"

def healthViolations (ports : List PortIntent) (check : HttpHealthCheck) : List ContractViolation :=
  violationIf (!ports.any (·.name == check.portName))
    "health_check.port_name" "unknown_port" "health check must reference a declared port"
  ++ violationIf (check.path.toList.head? != some '/')
    "health_check.path" "invalid_http_path" "HTTP health-check path must start with /"
  ++ violationIf (check.intervalSeconds == 0 || check.timeoutSeconds == 0
      || check.intervalSeconds < check.timeoutSeconds)
    "health_check" "invalid_timing"
    ("health-check timeout and interval must be positive and timeout must not exceed "
      ++ "interval")

def ingressViolations (ports : List PortIntent) (ingress : IngressIntent) :
    List ContractViolation :=
  violationIf (!ports.any (·.name == ingress.portName))
    "ingress.port_name" "unknown_port" "ingress must reference a declared port"
  ++ violationIf (ingress.requestedHostname.any (fun hostname =>
      isBlank hostname || hostname.toList.contains '/' || hostname.toList.contains ':'
        || hostname.toList.any isWhitespaceChar))
    "ingress.requested_hostname" "invalid_hostname"
    ("requested hostname must be a bare DNS hostname without scheme, port, path, or "
      ++ "whitespace")

variable (desired : ManagedDeploymentDesiredState)

/-- All of them, in the order of the source. -/
def violations : List ContractViolation :=
  requireSchema "schema_version" desired.schemaVersion desiredStateSchemaV1
  ++ requireIdentifier "deployment_id" desired.deploymentId
  ++ requireDigest "revision.revision_id" desired.revision.revisionId
  ++ requireDigest "revision.release_bundle_digest" desired.revision.releaseBundleDigest
  ++ imageViolations desired.revision.image.repository
  ++ requireDigest "revision.image.digest" desired.revision.image.digest
  ++ violationIf (desired.resources.cpuMillis == 0) "resources.cpu_millis" "must_be_positive"
    "CPU intent must be greater than zero"
  ++ violationIf (desired.resources.memoryBytes == 0) "resources.memory_bytes"
    "must_be_positive" "memory intent must be greater than zero"
  ++ violationsOfItems desired.secrets (secretViolations desired.environment)
  ++ desired.environment.entries.flatMap environmentViolations
  ++ violationsOfItems desired.ports portViolations
  ++ violationsOfItems desired.persistentVolumes volumeViolations
  ++ healthViolations desired.ports desired.healthCheck
  ++ desired.ingress.toList.flatMap (ingressViolations desired.ports)

def validate : Except (List ContractViolation) Unit :=
  if desired.violations.isEmpty then .ok () else .error desired.violations

/-- What an adapter must be able to do for a state. -/
def requiredCapabilities : Finset AdapterCapability :=
  {.immutableOciImage, .resourceIntent, .httpHealthCheck}
  ∪ (if desired.ports.isEmpty then ∅ else {.containerPorts})
  ∪ (if desired.secrets.isEmpty then ∅ else {.logicalSecretReferences})
  ∪ (if desired.persistentVolumes.isEmpty then ∅ else {.persistentVolumes})
  ∪ (if desired.ingress.isNone then ∅ else {.publicHttpsIngress})
  ∪ (if desired.structuredLogs then {.structuredLogs} else ∅)
  ∪ (if desired.rollbackRequired then {.revisionRollback} else ∅)

/-- And for the operation that is planned. -/
def requiredCapabilitiesForPlan : ManagedDeploymentApprovalScope → Finset AdapterCapability
  | .deploy => desired.requiredCapabilities
  | .rollback _ => desired.requiredCapabilities ∪ {.revisionRollback}
  | .provision =>
    {.resourceIntent} ∪ (if desired.persistentVolumes.isEmpty then ∅ else {.persistentVolumes})
  | .destroy _ => {.deploymentDestroy}

end ManagedDeploymentDesiredState

namespace AdapterCapabilities

def violations (adapter : AdapterCapabilities) : List ContractViolation :=
  requireSchema "schema_version" adapter.schemaVersion adapterCapabilitiesSchemaV1
  ++ requireIdentifier "adapter_id" adapter.adapterId

def validate (adapter : AdapterCapabilities) : Except (List ContractViolation) Unit :=
  if adapter.violations.isEmpty then .ok () else .error adapter.violations

end AdapterCapabilities

end Froglet.ManagedDeployment
