import Froglet.Protocol.Typed
import Froglet.Publication.Revision

/-!
# The managed-publication contract

What joins a publication to a managed deployment: the plan a provider consents to, the
capsule that carries the signed revision with its descriptor and offer, and the
operation that records how far the work has come.
-/

namespace Froglet.ManagedPublication

open ManagedDeployment Option

variable {α : Type}
variable {reason : String}

def planSchemaV1 : String := "froglet.managed-publication.plan.v1"
def packageSchemaV1 : String := "froglet.managed-publication.package.v1"
def capsuleSchemaV1 : String := "froglet.managed-publication.capsule.v1"
def operationSchemaV1 : String := "froglet.managed-publication.operation.v1"
def runnerContractV1 : String := "froglet.managed-runner.v1"
def planHashDomainV1 : String := "froglet.managed-publication.plan-hash.v1"
def operationIdDomainV1 : String := "froglet.managed-publication.operation-id.v1"

/-! ## Records -/

inductive ContentVisibility where
  | privateRegistryRequired
deriving DecidableEq

/-- What is built and deployed, by its digests. -/
structure ManagedPublicationPackage where
  (schemaVersion sourcePackageDigest buildEvidenceDigest bundleManifestDigest : String)
  releaseBundleDigest : String
  (baseRunnerImage image : OciImage)
  contentVisibility : ContentVisibility
  (runtime packageKind builderId builderFingerprint runnerContract : String)
deriving DecidableEq

/-- What a provider consents to. -/
structure ManagedPublicationPlanPayload where
  (schemaVersion operationId serviceId target profile expectedProviderId : String)
  publishRequestDigest : String
  package : ManagedPublicationPackage
  desiredState : ManagedDeploymentDesiredState
  provisionPlan : Option ManagedDeploymentPlan
  (deployPlan compensationPlan : ManagedDeploymentPlan)
  publicUrl : String
deriving DecidableEq

/-- The payload under its hash. -/
structure ManagedPublicationPlan where
  planHash : String
  payload : ManagedPublicationPlanPayload
deriving DecidableEq
variable {plan : ManagedPublicationPlan}

/-- The input on which the revision was verified. -/
structure VerificationFixture where
  input : Json
  expectedOutput : Option Json
deriving DecidableEq

/-- The signed revision and the artifacts that offer it. -/
structure ManagedPublicationCapsule where
  (schemaVersion operationId planHash consentHash : String)
  plan : ManagedPublicationPlan
  sourceRevisionHash : String
  revision : SignedPublicationRevision
  verificationFixture : VerificationFixture
  (descriptor offer : Json)
deriving DecidableEq

/-- An observation of the deployed provider. -/
structure ManagedPublicationRemoteCanary where
  (providerId revisionHash publicUrl : String)
  observedAtEpochSeconds : ℤ
deriving DecidableEq

/-- What the marketplace answered. -/
structure ManagedPublicationRegistration where
  (marketplaceUrl status providerId validatedOfferHash validatedRevisionHash : String)
  registeredAtEpochSeconds : ℤ
deriving DecidableEq

/-- How far an operation has come. -/
inductive ManagedPublicationPhase where
  | planned | localRevisionReady | provisioning | deploying | reconciling | deployed
  | canaryVerified | registering | active | compensating | compensated
  | reconciliationRequired | failed
deriving DecidableEq

/-- The evidence for its phase is part of it. -/
structure ManagedPublicationOperation where
  (schemaVersion operationId planHash consentHash : String)
  phase : ManagedPublicationPhase
  revisionHash : Option String
  (provisionResult deployResult compensationResult : Option ManagedDeploymentResult)
  remoteCanary : Option ManagedPublicationRemoteCanary
  registration : Option ManagedPublicationRegistration
  lastError : Option String
  attemptCount : ℕ
  updatedAtEpochSeconds : ℤ
deriving DecidableEq
variable {operation : ManagedPublicationOperation}

/-- The parts of a URL that the checks read. -/
structure Url where
  scheme : String
  host : Option String
  username : String
  password : Option String
  path : String
  (query fragment : Option String)

/-- What lies outside the model. -/
structure Externals where
  parseUrl : String → Option Url
  canonicalPlanPayload : ManagedPublicationPlanPayload → Option Bytes
  decodeMessage : Json → String

/-! ## Phases -/

namespace ManagedPublicationPhase

/-- The last three phases are final. -/
def canTransitionTo (phase next : ManagedPublicationPhase) : Bool :=
  phase == next || match phase with
  | planned => next ∈ [localRevisionReady, failed]
  | localRevisionReady => next ∈ [provisioning, deploying, compensating, failed]
  | provisioning => next ∈ [deploying, compensating, reconciliationRequired, failed]
  | deploying | reconciling =>
    next ∈ [reconciling, deployed, compensating, reconciliationRequired, failed]
  | deployed => next ∈ [canaryVerified, compensating, reconciliationRequired, failed]
  | canaryVerified => next ∈ [registering, compensating, failed]
  | registering => next ∈ [active, compensating, reconciliationRequired, failed]
  | compensating => next ∈ [compensated, reconciliationRequired, failed]
  | reconciliationRequired => next ∈ [reconciling, compensating, failed]
  | active | compensated | failed => false

def debugName : ManagedPublicationPhase → String
  | planned => "Planned"
  | localRevisionReady => "LocalRevisionReady"
  | provisioning => "Provisioning"
  | deploying => "Deploying"
  | reconciling => "Reconciling"
  | deployed => "Deployed"
  | canaryVerified => "CanaryVerified"
  | registering => "Registering"
  | active => "Active"
  | compensating => "Compensating"
  | compensated => "Compensated"
  | reconciliationRequired => "ReconciliationRequired"
  | failed => "Failed"

end ManagedPublicationPhase

/-! ## Errors and checks of single values -/

inductive ContractError where
  | invalidField (field reason : String)
  | hashMismatch (field : String)
  | invalidTransition (source target : ManagedPublicationPhase)
  | canonicalization
deriving DecidableEq

def ContractError.message : ContractError → String
  | invalidField field reason => s!"invalid {field}: {reason}"
  | hashMismatch field => s!"{field} does not match its canonical digest"
  | invalidTransition source target =>
    let sourceName := source.debugName
    let targetName := target.debugName
    s!"managed publication cannot transition from {sourceName} to {targetName}"
  | canonicalization => "managed publication canonicalization failed"

def refuseIf (bad : Bool) (field reason : String) : Except ContractError Unit :=
  rejectIf bad (.invalidField field reason)

@[simp] theorem refuseIf_eq_ok {bad : Bool} {field : String} :
    refuseIf bad field reason = .ok () ↔ bad = false := rejectIf_eq_ok

def needPresent (value : Option α) (field reason : String) : Except ContractError α :=
  match value with
  | none => .error (.invalidField field reason)
  | some a => .ok a

@[simp] theorem needPresent_eq_ok {value : Option α} {field : String} {a : α} :
    needPresent value field reason = .ok a ↔ value = some a := by
  cases value <;> simp [needPresent]

def requireSchema (field actual expected : String) : Except ContractError Unit :=
  refuseIf (actual != expected) field s!"expected {expected}"

/-- 1 to 512 bytes, not blank, no control characters. -/
def requireNonempty (field value : String) : Except ContractError Unit :=
  refuseIf (!(!isBlank value && decide (value.utf8ByteSize ≤ 512)
      && !value.toList.any isControlChar))
    field "must be non-empty, bounded text without control characters"

def requireIdentifier (field value : String) : Except ContractError Unit :=
  refuseIf (!isIdentifier value) field
    "must contain 1-128 ASCII letters, digits, dots, hyphens, or underscores"

def requireHash (field value : String) : Except ContractError Unit :=
  refuseIf (!isLowerHexLen value 64) field
    "must be exactly 64 lowercase hexadecimal characters"

/-- `sha256:` and a hash. -/
def requireDigest (field value : String) : Except ContractError Unit :=
  match stripText "sha256:" value with
  | none => .error (.invalidField field "must use sha256:<64 lowercase hexadecimal characters>")
  | some hash => requireHash field hash

def trimEndSlashes (s : String) : String :=
  String.ofList (s.toList.reverse.dropWhile (· == '/')).reverse

/-- No credentials, path, query or fragment. -/
def Url.isRootOrigin (url : Url) : Bool :=
  url.host.isSome && url.username.isEmpty && url.password.isNone && url.path == "/"
    && url.query.isNone && url.fragment.isNone

def isRepositorySegment (segment : List Char) : Bool :=
  !segment.isEmpty && segment != ['.'] && segment != ['.', '.']
    && segment.all fun c => c.isAlphanum || c == '.' || c == '_' || c == '-'

section Contract

variable (P : Primitives) (E : Externals)

/-- With its registry, and no tag or digest. -/
def isOciRepository (value : String) : Bool :=
  decide (value.utf8ByteSize ≤ 512) && !value.toList.contains '@'
    && !value.toList.any isWhitespaceChar && !value.toList.any isControlChar
    -- up to the first slash stands the registry, and behind it the path
    && match splitChars '/' value.toList with
      | registry :: segment :: segments =>
        !registry.isEmpty && (segment :: segments).all isRepositorySegment
          && (E.parseUrl ("https://" ++ String.ofList registry ++ "/")).any Url.isRootOrigin
      | _ => false

def requireOciRepository (field value : String) : Except ContractError Unit :=
  refuseIf (!isOciRepository E value) field <|
    "must include an explicit credential-free registry and repository path "
    ++ "without a tag or digest"

def isPublicHttpsUrl (value : String) : Bool :=
  decide (value.utf8ByteSize ≤ 2048) && !value.toList.any isWhitespaceChar
    && !value.toList.any isControlChar
    && (E.parseUrl value).any fun url => url.scheme == "https" && url.isRootOrigin

def requirePublicHttpsUrl (field value : String) : Except ContractError Unit :=
  refuseIf (!isPublicHttpsUrl E value) field
    "must be a bounded credential-free HTTPS root origin"

/-! ## Hashes -/

def canonicalHash [Serialize α] (value : α) : Except ContractError String :=
  ((P.canonicalJson (toJson value)).map P.sha256Hex).mapError fun _ => .canonicalization

def domainSeparatedHash (domain : String) (canonical : Option Bytes) :
    Except ContractError String :=
  match canonical with
  | none => .error .canonicalization
  | some bytes => .ok (P.sha256Hex (textBytes domain ++ 0x0A :: bytes))

variable (payload : ManagedPublicationPlanPayload)

/-- The same request always has the same id. -/
def operationIdentityMaterial : Json :=
  let image := payload.package.baseRunnerImage
  .obj <|
    field "schema_version" operationSchemaV1 ++ field "service_id" payload.serviceId
    ++ field "provider_id" payload.expectedProviderId
    ++ field "publish_request_digest" payload.publishRequestDigest
    ++ field "source_package_digest" payload.package.sourcePackageDigest
    ++ field "base_runner_image"
      (Json.obj (field "repository" image.repository ++ field "digest" image.digest))
    ++ field "release_bundle_digest" payload.package.releaseBundleDigest
    ++ field "output_repository" payload.package.image.repository
    ++ field "target" payload.target ++ field "profile" payload.profile

def managedPublicationOperationId : Except ContractError String := do
  requireIdentifier "operation_id.service_id" payload.serviceId
  requireHash "operation_id.provider_id" payload.expectedProviderId
  requireHash "operation_id.publish_request_digest" payload.publishRequestDigest
  requireHash "operation_id.source_package_digest" payload.package.sourcePackageDigest
  requireOciRepository E "operation_id.base_runner_image.repository"
    payload.package.baseRunnerImage.repository
  requireDigest "operation_id.base_runner_image.digest" payload.package.baseRunnerImage.digest
  requireDigest "operation_id.release_bundle_digest" payload.package.releaseBundleDigest
  requireOciRepository E "operation_id.output_repository" payload.package.image.repository
  requireIdentifier "operation_id.target" payload.target
  requireIdentifier "operation_id.profile" payload.profile
  domainSeparatedHash P operationIdDomainV1
    (P.canonicalJson (operationIdentityMaterial payload)).toOption

/-! ## Plans -/

def ManagedPublicationPackage.validate (package : ManagedPublicationPackage) :
    Except ContractError Unit := do
  requireSchema "package.schema_version" package.schemaVersion packageSchemaV1
  requireHash "package.source_package_digest" package.sourcePackageDigest
  requireHash "package.build_evidence_digest" package.buildEvidenceDigest
  requireDigest "package.bundle_manifest_digest" package.bundleManifestDigest
  requireDigest "package.release_bundle_digest" package.releaseBundleDigest
  requireOciRepository E "package.base_runner_image.repository"
    package.baseRunnerImage.repository
  requireDigest "package.base_runner_image.digest" package.baseRunnerImage.digest
  requireOciRepository E "package.image.repository" package.image.repository
  requireDigest "package.image.digest" package.image.digest
  [("package.runtime", package.runtime), ("package.package_kind", package.packageKind),
   ("package.builder_id", package.builderId)].forM fun (field, value) => requireNonempty field value
  requireHash "package.builder_fingerprint" package.builderFingerprint
  refuseIf (package.runnerContract != runnerContractV1)
    "package.runner_contract" "unsupported managed runner contract"

/-- What a plan approves, if it is bound to an approval. -/
def planApprovalScope (plan : ManagedDeploymentPlan) :
    Except ContractError ManagedDeploymentApprovalScope :=
  match plan.outcome with
  | .applicable _ _ _ (some _) (some scope) => .ok scope
  | _ => .error (.invalidField "plan.operator_plan" "operator plan has no exact approval scope")

/-- Applicable, with steps, and for exactly this scope. -/
def isApprovedFor (scope : ManagedDeploymentApprovalScope) :
    ManagedDeploymentPlanOutcome → Bool
  | .applicable steps _ _ (some _) (some approved) => !steps.isEmpty && approved == scope
  | _ => false

def validateOperatorPlan (plan : ManagedDeploymentPlan) (desired : ManagedDeploymentDesiredState)
    (expectedScope : ManagedDeploymentApprovalScope) : Except ContractError Unit := do
  refuseIf (plan.schemaVersion != ManagedDeployment.planSchemaV1
      || plan.deploymentId != desired.deploymentId
      || plan.revisionId != desired.revision.revisionId
      || plan.desiredStateSchemaVersion != desired.schemaVersion)
    "plan.operator_plan"
    "operator plan does not match desired state or claims a planning mutation"
  plan.adapter.validate.mapError fun violations =>
    let count := violations.length
    .invalidField "plan.operator_plan.adapter" s!"{count} contract violation(s)"
  refuseIf (!decide (desired.requiredCapabilitiesForPlan expectedScope ⊆ plan.adapter.capabilities))
    "plan.operator_plan.adapter.capabilities"
    "operator plan does not declare every capability required by desired state"
  refuseIf (!isApprovedFor expectedScope plan.outcome)
    "plan.operator_plan"
    "operator plan must be applicable, operation-scoped, non-empty, and approval-bound"

/-- The scopes that undo a deployment. -/
def isCompensation : ManagedDeploymentApprovalScope → Bool
  | .rollback _ | .destroy _ => true
  | .provision | .deploy => false

namespace ManagedPublicationPlanPayload

/-- All of them by one adapter. -/
def checkOperatorPlans : Except ContractError Unit := do
  payload.provisionPlan.toList.forM (validateOperatorPlan · payload.desiredState .provision)
  validateOperatorPlan payload.deployPlan payload.desiredState .deploy
  let compensationScope ← planApprovalScope payload.compensationPlan
  refuseIf (!isCompensation compensationScope)
    "plan.compensation_plan"
    "compensation must approve an exact rollback or destroy operation"
  validateOperatorPlan payload.compensationPlan payload.desiredState compensationScope
  refuseIf ((payload.provisionPlan.toList ++ [payload.compensationPlan]).any
      (·.adapter.adapterId != payload.deployPlan.adapter.adapterId))
    "plan.operator_plans"
    "provision, deploy, and compensation must use one exact adapter"

def validate (payload : ManagedPublicationPlanPayload) : Except ContractError Unit := do
  requireSchema "plan.schema_version" payload.schemaVersion planSchemaV1
  requireHash "plan.operation_id" payload.operationId
  requireIdentifier "plan.service_id" payload.serviceId
  requireIdentifier "plan.target" payload.target
  requireIdentifier "plan.profile" payload.profile
  requireHash "plan.expected_provider_id" payload.expectedProviderId
  requireHash "plan.publish_request_digest" payload.publishRequestDigest
  let expectedOperationId ← managedPublicationOperationId P E payload
  rejectIf (payload.operationId != expectedOperationId) (.hashMismatch "plan.operation_id")
  requirePublicHttpsUrl E "plan.public_url" payload.publicUrl
  payload.package.validate E
  payload.desiredState.validate.mapError fun violations =>
    let count := violations.length
    .invalidField "plan.desired_state" s!"{count} contract violation(s)"
  refuseIf (payload.desiredState.revision.image != payload.package.image
      || payload.desiredState.revision.releaseBundleDigest != payload.package.releaseBundleDigest
      || payload.desiredState.revision.revisionId != payload.package.bundleManifestDigest)
    "plan.desired_state.revision"
    "desired revision must exactly match the approved managed package"
  payload.checkOperatorPlans

end ManagedPublicationPlanPayload

/-- The payload, and the hash of it. -/
def ManagedPublicationPlan.validate (plan : ManagedPublicationPlan) :
    Except ContractError Unit := do
  plan.payload.validate P E
  requireHash "plan_hash" plan.planHash
  let expected ← domainSeparatedHash P planHashDomainV1 (E.canonicalPlanPayload plan.payload)
  rejectIf (expected != plan.planHash) (.hashMismatch "plan_hash")

/-! ## Capsules -/

def artifactHash {T : Type} [Serialize T] (artifact : SignedArtifact T) : Except String String := do
  let payloadHash ← payloadHash P artifact.payload
  let bytes ← canonicalSigningBytes P artifact.schemaVersion artifact.artifactType
    artifact.signer artifact.createdAt payloadHash artifact.payload
  return P.sha256Hex bytes

def runtimeName (runtime : ExecutionRuntime) : String :=
  match runtime with
  | .any => "any"
  | .wasm => "wasm"
  | .python => "python"
  | .container => "container"
  | .builtin => "builtin"
  | .teeService => "tee_service"
  | .teeWasm => "tee_wasm"
  | .teePython => "tee_python"

/-- One chain of the approved provider. -/
def verifyBoundArtifacts (descriptor : SignedDescriptor) (offer : SignedOffer)
    (revision : SignedPublicationRevision) (plan : ManagedPublicationPlan) :
    Except ContractError Unit := do
  refuseIf (!verifyArtifact P descriptor) "capsule.descriptor" "signature verification failed"
  (validateDescriptorArtifact P descriptor).mapError (.invalidField "capsule.descriptor")
  refuseIf (!verifyArtifact P offer) "capsule.offer" "signature verification failed"
  (validateOfferArtifact offer).mapError (.invalidField "capsule.offer")
  let descriptorHash ← (artifactHash P descriptor).mapError (.invalidField "capsule.descriptor")
  let offerHash ← (artifactHash P offer).mapError (.invalidField "capsule.offer")
  refuseIf (descriptorHash != descriptor.hash || offerHash != offer.hash
      || offerHash != revision.payload.offerHash
      || offer.payload.descriptorHash != descriptorHash
      || descriptor.payload.providerId != plan.payload.expectedProviderId
      || offer.payload.providerId != plan.payload.expectedProviderId
      || offer.payload.offerId != revision.payload.offerId
      || runtimeName offer.payload.executionProfile.runtime != revision.payload.runtime
      || offer.payload.executionProfile.packageKind != revision.payload.packageKind)
    "capsule.artifact_chain"
    "Descriptor, Offer, and Publication Revision are not one exact Provider-bound chain"

/-- One endpoint, the approved one. -/
def advertisesOnly (publicUrl : String) (endpoints : List TransportEndpoint) : Bool :=
  match endpoints with
  | [endpoint] =>
    endpoint.transport == "https" && trimEndSlashes endpoint.uri == trimEndSlashes publicUrl
  | _ => false

namespace ManagedPublicationCapsule

variable (capsule : ManagedPublicationCapsule)
variable (plan : ManagedPublicationPlan)

/-- With its build evidence and its fixture. -/
def checkRevision : Except ContractError Unit := do
  let payload := capsule.revision.payload
  (capsule.revision.verify P).mapError fun error => .invalidField "capsule.revision" error.message
  refuseIf (payload.providerId != plan.payload.expectedProviderId
      || payload.serviceId != plan.payload.serviceId
      || payload.packageDigest != plan.payload.package.sourcePackageDigest
      || payload.runtime != plan.payload.package.runtime
      || payload.packageKind != plan.payload.package.packageKind)
    "capsule.revision"
    "revision does not match the approved Provider, service, package, or runtime"
  let evidence ← needPresent payload.buildEvidence "capsule.revision.payload.build_evidence"
    "managed publication requires current immutable build evidence"
  let evidenceHash ← canonicalHash P evidence
  rejectIf (evidenceHash != plan.payload.package.buildEvidenceDigest)
    (.hashMismatch "capsule.revision.payload.build_evidence")
  let inputHash ← canonicalHash P capsule.verificationFixture.input
  rejectIf (inputHash != payload.localVerification.inputHash)
    (.hashMismatch "capsule.verification_fixture.input")

def checkArtifacts : Except ContractError Unit := do
  let descriptor ← needPresent (ArtifactKind.descriptor.decode capsule.descriptor)
    "capsule.descriptor" (E.decodeMessage capsule.descriptor)
  let offer ← needPresent (ArtifactKind.offer.decode capsule.offer)
    "capsule.offer" (E.decodeMessage capsule.offer)
  verifyBoundArtifacts P descriptor offer capsule.revision plan
  refuseIf (!advertisesOnly plan.payload.publicUrl descriptor.payload.transportEndpoints)
    "capsule.descriptor.transport_endpoints"
    "managed Descriptor must advertise only the exact approved HTTPS endpoint"

def validateAgainst : Except ContractError Unit := do
  plan.validate P E
  refuseIf (capsule.plan != plan) "capsule.plan"
    "embedded plan differs from the expected approved plan"
  requireSchema "capsule.schema_version" capsule.schemaVersion capsuleSchemaV1
  requireHash "capsule.consent_hash" capsule.consentHash
  requireHash "capsule.source_revision_hash" capsule.sourceRevisionHash
  refuseIf (capsule.operationId != plan.payload.operationId
      || capsule.planHash != plan.planHash)
    "capsule.plan" "capsule does not belong to the approved Managed Publication plan"
  capsule.checkRevision P plan
  capsule.checkArtifacts P E plan

def validate : Except ContractError Unit :=
  capsule.validateAgainst P E capsule.plan

end ManagedPublicationCapsule

/-! ## Evidence of an operation -/

def ManagedPublicationRegistration.validateAgainst (registration : ManagedPublicationRegistration)
    (plan : ManagedPublicationPlan) (revisionHash : String) : Except ContractError Unit := do
  requirePublicHttpsUrl E "registration.marketplace_url" registration.marketplaceUrl
  requireHash "registration.provider_id" registration.providerId
  requireHash "registration.validated_offer_hash" registration.validatedOfferHash
  requireHash "registration.validated_revision_hash" registration.validatedRevisionHash
  refuseIf ((registration.status != "active" && registration.status != "pending_review")
      || registration.providerId != plan.payload.expectedProviderId
      || registration.validatedRevisionHash != revisionHash
      || decide (registration.registeredAtEpochSeconds < 0))
    "registration"
    "marketplace registration does not match the approved Provider and Revision"

def ManagedPublicationRemoteCanary.validateAgainst (canary : ManagedPublicationRemoteCanary)
    (plan : ManagedPublicationPlan) (revisionHash : String) : Except ContractError Unit := do
  requireHash "remote_canary.provider_id" canary.providerId
  requireHash "remote_canary.revision_hash" canary.revisionHash
  requirePublicHttpsUrl E "remote_canary.public_url" canary.publicUrl
  refuseIf (decide (canary.observedAtEpochSeconds < 0)
      || canary.providerId != plan.payload.expectedProviderId
      || canary.revisionHash != revisionHash
      || trimEndSlashes canary.publicUrl != trimEndSlashes plan.payload.publicUrl)
    "remote_canary"
    "remote canary does not prove the exact approved Provider, revision, and endpoint"

/-- The approved image is healthy at the approved endpoint. -/
def validateDeployResult (result : ManagedDeploymentResult) (plan : ManagedPublicationPlan) :
    Except ContractError Unit :=
  let desired := plan.payload.desiredState
  refuseIf (result.schemaVersion != resultSchemaV1
      || (result.operation != .deploy && result.operation != .status)
      || result.failure.isSome
      || result.deploymentId != desired.deploymentId
      || result.revisionId != desired.revision.revisionId
      || result.adapterId != plan.payload.deployPlan.adapter.adapterId
      || result.status != .succeeded
      || result.health.status != .healthy
      || result.imageDigests != [desired.revision.image]
      || !result.endpoints.any (fun endpoint =>
        trimEndSlashes endpoint.url == trimEndSlashes plan.payload.publicUrl))
    "operation.deploy_result"
    "deployment result does not prove the exact healthy image and approved endpoint"

def expectedOperation : ManagedDeploymentApprovalScope → ManagedDeploymentOperation
  | .provision => .provision
  | .deploy => .deploy
  | .rollback _ => .rollback
  | .destroy _ => .destroy

def expectedAdapter : ManagedDeploymentApprovalScope → Option String
  | .provision => payload.provisionPlan.map (·.adapter.adapterId)
  | .deploy => some payload.deployPlan.adapter.adapterId
  | .rollback _ | .destroy _ => some payload.compensationPlan.adapter.adapterId

def validateResultForScope (result : ManagedDeploymentResult) (plan : ManagedPublicationPlan)
    (scope : ManagedDeploymentApprovalScope) : Except ContractError Unit :=
  refuseIf (result.schemaVersion != resultSchemaV1
      || result.operation != expectedOperation scope
      || result.deploymentId != plan.payload.desiredState.deploymentId
      || result.adapterId != (expectedAdapter plan.payload scope).getD ""
      || result.status != .succeeded
      || result.failure.isSome)
    "operation.operator_result"
    "operator result does not prove the exact approved successful operation"

/-! ## Operations -/

namespace ManagedPublicationPhase

variable (phase : ManagedPublicationPhase)

/-- From the first revision on, the operation names it. -/
def needsRevision : Bool := phase != planned && phase != failed

def needsProvision : Bool :=
  phase ∈ [deploying, reconciling, deployed, canaryVerified, registering, active]

def needsDeployResult : Bool :=
  phase ∈ [deployed, canaryVerified, registering, active]

def needsCanary : Bool :=
  phase ∈ [canaryVerified, registering, active]

end ManagedPublicationPhase

namespace ManagedPublicationOperation

variable (operation : ManagedPublicationOperation)

def transition (next : ManagedPublicationPhase)
    (updatedAtEpochSeconds : ℤ) : Except ContractError ManagedPublicationOperation := do
  refuseIf (decide (updatedAtEpochSeconds < operation.updatedAtEpochSeconds))
    "operation.updated_at_epoch_seconds" "operation timestamps must be monotonic"
  rejectIf (!operation.phase.canTransitionTo next) (.invalidTransition operation.phase next)
  return { operation with phase := next, updatedAtEpochSeconds }

variable (plan : ManagedPublicationPlan)

def checkIdentity : Except ContractError Unit := do
  requireSchema "operation.schema_version" operation.schemaVersion operationSchemaV1
  requireHash "operation.consent_hash" operation.consentHash
  refuseIf (operation.operationId != plan.payload.operationId
      || operation.planHash != plan.planHash)
    "operation.plan" "operation does not belong to the approved plan"
  refuseIf (decide (operation.updatedAtEpochSeconds < 0))
    "operation.updated_at_epoch_seconds" "timestamp must be non-negative"
  operation.revisionHash.toList.forM (requireHash "operation.revision_hash")
  refuseIf (operation.phase.needsRevision && operation.revisionHash.isNone)
    "operation.revision_hash" "phase requires the exact managed Publication Revision"

def checkResults : Except ContractError Unit := do
  operation.deployResult.toList.forM (validateDeployResult · plan)
  operation.provisionResult.toList.forM (validateResultForScope · plan .provision)
  refuseIf (plan.payload.provisionPlan.isNone && operation.provisionResult.isSome)
    "operation.provision_result"
    "operation carries provision evidence without an approved provision plan"
  refuseIf (plan.payload.provisionPlan.isSome && operation.phase.needsProvision
      && operation.provisionResult.isNone)
    "operation.provision_result" "phase requires normalized successful provision evidence"
  refuseIf (operation.phase.needsDeployResult && operation.deployResult.isNone)
    "operation.deploy_result" "phase requires normalized deployment evidence"

def checkCanary : Except ContractError Unit :=
  if operation.phase.needsCanary then do
    let revisionHash ← needPresent operation.revisionHash "operation.revision_hash"
      "remote canary requires an exact revision"
    let canary ← needPresent operation.remoteCanary "operation.remote_canary"
      "phase requires exact requester-side canary evidence"
    canary.validateAgainst E plan revisionHash
  else .ok ()

def checkCompensation : Except ContractError Unit := do
  refuseIf (operation.phase == .compensated && operation.compensationResult.isNone)
    "operation.compensation_result"
    "compensated phase requires normalized compensation evidence"
  operation.compensationResult.toList.forM fun result => do
    let scope ← planApprovalScope plan.payload.compensationPlan
    validateResultForScope result plan scope

def checkRegistration : Except ContractError Unit :=
  if operation.phase = .active then do
    let revisionHash ← needPresent operation.revisionHash "operation.revision_hash"
      "active registration requires an exact revision"
    let registration ← needPresent operation.registration "operation.registration"
      "active phase requires normalized marketplace registration evidence"
    registration.validateAgainst E plan revisionHash
  else .ok ()

def validateAgainst : Except ContractError Unit := do
  plan.validate P E
  operation.checkIdentity plan
  operation.checkResults plan
  operation.checkCanary E plan
  operation.checkCompensation plan
  operation.checkRegistration E plan

end ManagedPublicationOperation

/-! ## What an active operation has -/

/-- The evidence of an active operation: the hash of its revision, a deploy
result, a canary and a registration that validate against the plan, and a
provision result where the plan provisions. -/
structure ActiveEvidence (operation : ManagedPublicationOperation) (plan : ManagedPublicationPlan) :
    Prop where
  revision : ∃ revisionHash, operation.revisionHash = some revisionHash
    ∧ isLowerHexLen revisionHash 64 = true
    ∧ (∃ canary, operation.remoteCanary = some canary
      ∧ canary.validateAgainst E plan revisionHash = .ok ())
    ∧ ∃ registration, operation.registration = some registration
      ∧ registration.validateAgainst E plan revisionHash = .ok ()
  deployed : ∃ result, operation.deployResult = some result
    ∧ validateDeployResult result plan = .ok ()
  provisioned : plan.payload.provisionPlan.isSome = true →
    ∃ result, operation.provisionResult = some result
      ∧ validateResultForScope result plan .provision = .ok ()

theorem forM_toList_eq_ok {value : Option α} {check : α → Except ContractError Unit} :
    value.toList.forM check = .ok () ↔ ∀ a, value = some a → check a = .ok () := by
  cases value with
  | none => simp [pure, Except.pure]
  | some a => simp [pure, Except.pure]

theorem ManagedPublicationOperation.identity_of_checkIdentity
    (h : operation.checkIdentity plan = .ok ()) :
    operation.operationId = plan.payload.operationId ∧ operation.planHash = plan.planHash
      ∧ (∀ hash, operation.revisionHash = some hash → isLowerHexLen hash 64 = true)
      ∧ (operation.phase.needsRevision = true → operation.revisionHash.isSome = true) := by
  simp only [checkIdentity, requireSchema, requireHash, check_eq_ok, refuseIf_eq_ok,
    forM_toList_eq_ok, Bool.or_eq_false_iff, bne_eq_false_iff_eq, Bool.not_eq_false',
    Bool.and_eq_false_iff, isNone_eq_false_iff] at h
  obtain ⟨_, _, ⟨hid, hplan⟩, _, hhash, hrevision⟩ := h
  refine ⟨hid, hplan, hhash, fun hneeds => ?_⟩
  exact hrevision.resolve_left fun hnot => Bool.false_ne_true (hnot.symm.trans hneeds)

theorem ManagedPublicationOperation.active_evidence
    (h : operation.validateAgainst P E plan = .ok ()) (hactive : operation.phase = .active) :
    ActiveEvidence E operation plan := by
  simp only [validateAgainst, check_eq_ok] at h
  obtain ⟨_, hidentity, hresults, hcanary, _, hregistration⟩ := h
  obtain ⟨_, _, hhash, hrevision⟩ := identity_of_checkIdentity hidentity
  obtain ⟨revisionHash, hrevisionHash⟩ := isSome_iff_exists.mp (hrevision (by rw [hactive]; rfl))
  simp only [checkCanary, hactive, hrevisionHash, needPresent_eq_ok, bind_eq_ok,
    some.injEq, exists_eq_left', ManagedPublicationPhase.needsCanary, List.mem_cons,
    true_or, or_true, decide_true, if_true] at hcanary
  simp only [checkRegistration, hactive, hrevisionHash, needPresent_eq_ok, bind_eq_ok,
    some.injEq, exists_eq_left', if_true] at hregistration
  simp only [checkResults, check_eq_ok, forM_toList_eq_ok, refuseIf_eq_ok] at hresults
  obtain ⟨hdeploy, hprovision, _, hneedsProvision, hneedsDeploy⟩ := hresults
  refine ⟨⟨revisionHash, hrevisionHash, hhash _ hrevisionHash, hcanary, hregistration⟩, ?_, ?_⟩
  · cases hresult : operation.deployResult with
    | none => simp [hresult, hactive, ManagedPublicationPhase.needsDeployResult] at hneedsDeploy
    | some result => exact ⟨result, rfl, hdeploy result hresult⟩
  · intro hplan
    cases hresult : operation.provisionResult with
    | none =>
      simp [hresult, hplan, hactive, ManagedPublicationPhase.needsProvision] at hneedsProvision
    | some result => exact ⟨result, rfl, hprovision result hresult⟩

end Contract

/-! ## A plan -/

def sampleHash : String := "0000000000000000000000000000000000000000000000000000000000000000"

def sampleDigest : String := "sha256:" ++ sampleHash

def samplePrimitives : Primitives where
  sha256Hex _ := sampleHash
  canonicalJson _ := .ok []
  verifyMessage _ _ _ := true

def sampleExternals : Externals where
  parseUrl _ := some { scheme := "https", host := some "host", username := "", password := none
                       path := "/", query := none, fragment := none }
  canonicalPlanPayload _ := some []
  decodeMessage _ := "invalid document"

def sampleImage : OciImage := ⟨"registry/image", sampleDigest⟩

def sampleDesiredState : ManagedDeploymentDesiredState where
  schemaVersion := desiredStateSchemaV1
  deploymentId := "deployment"
  revision := ⟨sampleDigest, sampleDigest, sampleImage⟩
  environment := ⟨[], .nil⟩
  secrets := []
  resources := ⟨1, 1, .amd64⟩
  ports := [⟨"http", 80, .tcp⟩]
  persistentVolumes := []
  healthCheck := ⟨"http", "/health", 2, 1⟩
  ingress := none
  structuredLogs := false
  rollbackRequired := false

def sampleOperatorPlan (scope : ManagedDeploymentApprovalScope) (action : PlanAction) :
    ManagedDeploymentPlan where
  schemaVersion := ManagedDeployment.planSchemaV1
  desiredStateSchemaVersion := desiredStateSchemaV1
  deploymentId := "deployment"
  revisionId := sampleDigest
  adapter :=
    { schemaVersion := adapterCapabilitiesSchemaV1, adapterId := "adapter"
      capabilities := {.immutableOciImage, .resourceIntent, .httpHealthCheck, .containerPorts,
        .deploymentDestroy} }
  outcome := .applicable [⟨0, action, "step"⟩] [] .unknown
    (some ⟨List.replicate 32 0, rfl⟩) (some scope)

def samplePlan : ManagedPublicationPlan where
  planHash := sampleHash
  payload :=
    { schemaVersion := planSchemaV1, operationId := sampleHash, serviceId := "service"
      target := "target", profile := "profile", expectedProviderId := sampleHash
      publishRequestDigest := sampleHash
      package :=
        { schemaVersion := packageSchemaV1, sourcePackageDigest := sampleHash
          buildEvidenceDigest := sampleHash, bundleManifestDigest := sampleDigest
          releaseBundleDigest := sampleDigest, baseRunnerImage := sampleImage
          image := sampleImage, contentVisibility := .privateRegistryRequired
          runtime := "wasm", packageKind := "inline_module", builderId := "builder"
          builderFingerprint := sampleHash, runnerContract := runnerContractV1 }
      desiredState := sampleDesiredState
      provisionPlan := none
      deployPlan := sampleOperatorPlan .deploy .deployRevision
      compensationPlan := sampleOperatorPlan (.destroy ⟨"deployment", "adapter"⟩) .destroyDeployment
      publicUrl := "https://provider.example/" }

@[simp] theorem requireHash_sampleHash (field : String) : requireHash field sampleHash = .ok () :=
  refuseIf_eq_ok.mpr (by decide +kernel)

@[simp] theorem requireDigest_sampleDigest (field : String) :
    requireDigest field sampleDigest = .ok () := by
  have hstrip : stripText "sha256:" sampleDigest = some sampleHash := by decide +kernel
  unfold requireDigest
  rw [hstrip]
  exact requireHash_sampleHash field

theorem sampleDesiredState_valid : sampleDesiredState.validate = .ok () := by decide +kernel

theorem samplePlan_valid : samplePlan.validate samplePrimitives sampleExternals = .ok () := by
  have hid : managedPublicationOperationId samplePrimitives sampleExternals samplePlan.payload
      = .ok sampleHash := by
    simp only [managedPublicationOperationId, samplePlan, sampleImage, requireHash_sampleHash,
      requireDigest_sampleDigest]
    decide +kernel
  have hpackage : samplePlan.payload.package.validate sampleExternals = .ok () := by
    simp only [ManagedPublicationPackage.validate, samplePlan, sampleImage,
      requireHash_sampleHash, requireDigest_sampleDigest]
    decide +kernel
  have hoperators : samplePlan.payload.checkOperatorPlans = .ok () := by decide +kernel
  simp only [ManagedPublicationPlan.validate, ManagedPublicationPlanPayload.validate, hid, hpackage,
    hoperators]
  simp only [samplePlan, requireHash_sampleHash, sampleDesiredState_valid]
  decide +kernel

end Froglet.ManagedPublication
