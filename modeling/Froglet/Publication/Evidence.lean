import Froglet.Publication.Contract

/-!
# Service-link evidence

Two procedures look at a revision with its offer and its descriptor. A node accepts them
in a capsule, and the offline verifier accepts them as the evidence of a service link
(`verifyServiceLinkEvidence`).
-/

namespace Froglet.ManagedPublication

open Option

variable {descriptor : SignedDescriptor} {offer : SignedOffer}
variable {revision : SignedPublicationRevision} {payload : PublicationRevisionPayload}

/-! ## The verifier -/

structure ServiceLinkEvidenceReport where
  valid : Bool
  reason : Option String

def serviceLinkError (reason : String) : ServiceLinkEvidenceReport := ⟨false, some reason⟩

section Evidence

variable (P : Primitives) (E : Externals)

def verifyErrorMessage (document : Json) : VerifyError → String
  | .unknownKind kind => s!"unknown or unsupported artifact_kind: {kind}"
  | .signatureFailed => "artifact signature verification failed"
  | .decode => "artifact decode failed: " ++ E.decodeMessage document
  | .semantic message => s!"artifact semantic validation failed: {message}"

def evidenceDisagrees (payload : PublicationRevisionPayload) (offer : SignedOffer)
    (descriptor : SignedDescriptor) : Bool :=
  let profile := offer.payload.executionProfile
  payload.providerId != offer.payload.providerId
    || payload.providerId != descriptor.payload.providerId
    || payload.offerId != offer.payload.offerId
    || payload.offerHash != offer.hash
    || offer.payload.descriptorHash != descriptor.hash
    || payload.price.offerSettlementMethod != offer.payload.settlementMethod
    || checkedMul payload.price.baseAmountMinor 1000
      != some offer.payload.priceSchedule.baseFeeMsat
    || checkedMul payload.price.successAmountMinor 1000
      != some offer.payload.priceSchedule.successFeeMsat
    || payload.runtime != runtimeName profile.runtime
    || payload.packageKind != profile.packageKind
    || payload.service.contractVersion != profile.contractVersion
    || payload.service.contractVersion != profile.abiVersion
    || payload.service.capabilities != profile.capabilities
    || payload.service.capabilities != profile.accessHandles
    || payload.limits.maxInputBytes != profile.maxInputBytes
    || payload.limits.maxRuntimeMs != profile.maxRuntimeMs
    || payload.limits.maxMemoryBytes != profile.maxMemoryBytes
    || payload.limits.maxOutputBytes != profile.maxOutputBytes
    || payload.limits.fuelLimit != profile.fuelLimit

def compareEvidence (payload : PublicationRevisionPayload) (offer : SignedOffer)
    (descriptor : SignedDescriptor) : ServiceLinkEvidenceReport :=
  if evidenceDisagrees payload offer descriptor then
    serviceLinkError "signed revision, Offer, and Descriptor do not agree"
  else ⟨true, none⟩

def verifyServiceLinkEvidence (revisionJson offerJson descriptorJson : Json) :
    ServiceLinkEvidenceReport :=
  match decodeSignedPublicationRevision revisionJson with
  | none => serviceLinkError ("publication revision is invalid: " ++ E.decodeMessage revisionJson)
  | some revision =>
    match revision.verify P with
    | .error error =>
      serviceLinkError ("publication revision failed verification: " ++ error.message)
    | .ok () =>
      match verifyTypedDocument P offerJson artifactTypeOffer with
      | .error error =>
        serviceLinkError ("Offer failed verification: " ++ verifyErrorMessage E offerJson error)
      | .ok ⟨.offer, offer⟩ =>
        match verifyTypedDocument P descriptorJson artifactTypeDescriptor with
        | .error error =>
          serviceLinkError
            ("Descriptor failed verification: " ++ verifyErrorMessage E descriptorJson error)
        | .ok ⟨.descriptor, descriptor⟩ => compareEvidence revision.payload offer descriptor
        | .ok _ => serviceLinkError "expected a signed Descriptor"
      | .ok _ => serviceLinkError "expected a signed Offer"

theorem verifyTypedDocument_cases {k : ArtifactKind} {document : Json}
    {artifact : SignedArtifact k.Payload} (hdecode : k.decode document = some artifact) :
    (verifyTypedDocument P document k.artifactType = .ok ⟨k, artifact⟩ ∧ Authentic P artifact ∧
      artifact.artifactType = k.artifactType ∧ k.validate P artifact = .ok ())
    ∨ (∃ error, verifyTypedDocument P document k.artifactType = .error error)
      ∧ ¬ (Authentic P artifact ∧ artifact.artifactType = k.artifactType
        ∧ k.validate P artifact = .ok ()) := by
  rw [verifyTypedDocument_artifactType]
  cases hresult : verifyTypedKind P k document with
  | ok v =>
    obtain ⟨a, ha, hauthentic, htype, hvalid, rfl⟩ := (verifyTypedKind_eq_ok P).mp hresult
    obtain rfl : artifact = a := some.inj (hdecode.symm.trans ha)
    exact .inl ⟨rfl, hauthentic, htype, hvalid⟩
  | error error =>
    refine .inr ⟨⟨error, rfl⟩, fun ⟨hauthentic, htype, hvalid⟩ => ?_⟩
    have hok := (verifyTypedKind_eq_ok P).mpr ⟨artifact, hdecode, hauthentic, htype, hvalid, rfl⟩
    rw [hresult] at hok
    cases hok

/-- What the verifier accepts, of a revision, an offer and a descriptor that
can be read. -/
theorem verifyServiceLinkEvidence_valid_iff {revisionJson offerJson descriptorJson : Json}
    (hrevision : decodeSignedPublicationRevision revisionJson = some revision)
    (hoffer : ArtifactKind.offer.decode offerJson = some offer)
    (hdescriptor : ArtifactKind.descriptor.decode descriptorJson = some descriptor) :
    (verifyServiceLinkEvidence P E revisionJson offerJson descriptorJson).valid = true
      ↔ revision.verify P = .ok () ∧ (Authentic P offer ∧ offer.artifactType = artifactTypeOffer
          ∧ validateOfferArtifact offer = .ok ())
        ∧ (Authentic P descriptor ∧ descriptor.artifactType = artifactTypeDescriptor
          ∧ validateDescriptorArtifact P descriptor = .ok ())
        ∧ evidenceDisagrees revision.payload offer descriptor = false := by
  unfold verifyServiceLinkEvidence
  rw [hrevision]
  dsimp only
  cases hverify : revision.verify P with
  | error error => exact ⟨nofun, fun h => nomatch h.1⟩
  | ok _ =>
    rcases verifyTypedDocument_cases P hoffer with ⟨hoffered, hok⟩ | ⟨⟨error, hoffered⟩, hnot⟩
    · rcases verifyTypedDocument_cases P hdescriptor with
        ⟨hdescribed, hok'⟩ | ⟨⟨error, hdescribed⟩, hnot⟩
      · rw [show artifactTypeOffer = ArtifactKind.offer.artifactType from rfl,
          show artifactTypeDescriptor = ArtifactKind.descriptor.artifactType from rfl, hoffered,
          hdescribed]
        dsimp only [compareEvidence]
        cases evidenceDisagrees revision.payload offer descriptor with
        | true => exact ⟨nofun, fun h => nomatch h.2.2.2⟩
        | false => exact ⟨fun _ => ⟨rfl, hok, hok', rfl⟩, fun _ => rfl⟩
      · rw [show artifactTypeOffer = ArtifactKind.offer.artifactType from rfl,
          show artifactTypeDescriptor = ArtifactKind.descriptor.artifactType from rfl, hoffered,
          hdescribed]
        exact ⟨nofun, fun h => absurd h.2.2.1 hnot⟩
    · rw [show artifactTypeOffer = ArtifactKind.offer.artifactType from rfl, hoffered]
      exact ⟨nofun, fun h => absurd h.2.1 hnot⟩

/-! ## Capsules -/

/-- The terms a capsule is not checked for: the types of the artifacts, and
the price, contract version, access declarations and limits of the revision
against the offer. -/
structure Terms (payload : PublicationRevisionPayload) (offer : SignedOffer)
    (descriptor : SignedDescriptor) : Prop where
  offerType : offer.artifactType = artifactTypeOffer
  descriptorType : descriptor.artifactType = artifactTypeDescriptor
  settlementMethod : payload.price.offerSettlementMethod = offer.payload.settlementMethod
  baseAmount : checkedMul payload.price.baseAmountMinor 1000
    = some offer.payload.priceSchedule.baseFeeMsat
  successAmount : checkedMul payload.price.successAmountMinor 1000
    = some offer.payload.priceSchedule.successFeeMsat
  contractVersion : payload.service.contractVersion = offer.payload.executionProfile.contractVersion
  abiVersion : payload.service.contractVersion = offer.payload.executionProfile.abiVersion
  capabilities : payload.service.capabilities = offer.payload.executionProfile.capabilities
  accessHandles : payload.service.capabilities = offer.payload.executionProfile.accessHandles
  maxInputBytes : payload.limits.maxInputBytes = offer.payload.executionProfile.maxInputBytes
  maxRuntimeMs : payload.limits.maxRuntimeMs = offer.payload.executionProfile.maxRuntimeMs
  maxMemoryBytes : payload.limits.maxMemoryBytes = offer.payload.executionProfile.maxMemoryBytes
  maxOutputBytes : payload.limits.maxOutputBytes = offer.payload.executionProfile.maxOutputBytes
  fuelLimit : payload.limits.fuelLimit = offer.payload.executionProfile.fuelLimit

structure BoundCapsule (capsule : ManagedPublicationCapsule) (offer : SignedOffer)
    (descriptor : SignedDescriptor) : Prop where
  revision : capsule.revision.verify P = .ok ()
  decodeOffer : ArtifactKind.offer.decode capsule.offer = some offer
  decodeDescriptor : ArtifactKind.descriptor.decode capsule.descriptor = some descriptor
  offerAccepted : Authentic P offer ∧ validateOfferArtifact offer = .ok ()
  descriptorAccepted : Authentic P descriptor ∧ validateDescriptorArtifact P descriptor = .ok ()
  offerHash : offer.hash = capsule.revision.payload.offerHash
  descriptorHash : offer.payload.descriptorHash = descriptor.hash
  offerProvider : offer.payload.providerId = capsule.revision.payload.providerId
  descriptorProvider : descriptor.payload.providerId = capsule.revision.payload.providerId
  offerId : offer.payload.offerId = capsule.revision.payload.offerId
  runtime : runtimeName offer.payload.executionProfile.runtime = capsule.revision.payload.runtime
  packageKind : offer.payload.executionProfile.packageKind = capsule.revision.payload.packageKind

variable {capsule : ManagedPublicationCapsule}

theorem boundCapsule_of_validateAgainst
    {plan : ManagedPublicationPlan} (h : capsule.validateAgainst P E plan = .ok ()) :
    ∃ offer descriptor, BoundCapsule P capsule offer descriptor := by
  simp only [ManagedPublicationCapsule.validateAgainst, check_eq_ok] at h
  obtain ⟨_, _, _, _, _, _, hrevision, hartifacts⟩ := h
  unfold ManagedPublicationCapsule.checkRevision at hrevision
  simp only [↓check_eq_ok, mapError_eq_ok, refuseIf_eq_ok, Bool.or_eq_false_iff,
    bne_eq_false_iff_eq] at hrevision
  obtain ⟨hverify, ⟨⟨⟨⟨hprovider, _⟩, _⟩, _⟩, _⟩, _⟩ := hrevision
  unfold ManagedPublicationCapsule.checkArtifacts verifyBoundArtifacts at hartifacts
  simp only [↓check_eq_ok, bind_eq_ok, mapError_eq_ok, needPresent_eq_ok, refuseIf_eq_ok,
    Bool.or_eq_false_iff, bne_eq_false_iff_eq, Bool.not_eq_false', verifyArtifact_iff] at hartifacts
  obtain ⟨descriptor, hdescriptor, offer, hoffer, ⟨hauthentic, hvalid, hauthentic', hvalid', _, _,
    _, _, hsame⟩, _⟩ := hartifacts
  obtain ⟨⟨⟨⟨⟨⟨⟨⟨hhash, hhash'⟩, hbound⟩, hlink⟩, hprovider'⟩, hprovider''⟩, hid⟩, hruntime⟩, hkind⟩
    := hsame
  exact ⟨offer, descriptor, {
    revision := hverify, decodeOffer := hoffer, decodeDescriptor := hdescriptor
    offerAccepted := ⟨hauthentic', hvalid'⟩, descriptorAccepted := ⟨hauthentic, hvalid⟩
    offerHash := hhash'.symm.trans hbound, descriptorHash := hlink.trans hhash
    offerProvider := hprovider''.trans hprovider.symm
    descriptorProvider := hprovider'.trans hprovider.symm
    offerId := hid, runtime := hruntime, packageKind := hkind }⟩

/-- For the artifacts of a capsule the comparison of the verifier comes down to the terms. -/
theorem terms_iff (hbound : BoundCapsule P capsule offer descriptor) :
    Terms capsule.revision.payload offer descriptor
      ↔ offer.artifactType = artifactTypeOffer ∧ descriptor.artifactType = artifactTypeDescriptor
        ∧ evidenceDisagrees capsule.revision.payload offer descriptor = false := by
  simp only [evidenceDisagrees, Bool.or_eq_false_iff, bne_eq_false_iff_eq]
  constructor
  · intro h
    exact ⟨h.offerType, h.descriptorType, ⟨⟨⟨⟨⟨⟨⟨⟨⟨⟨⟨⟨⟨⟨⟨⟨⟨⟨hbound.offerProvider.symm,
      hbound.descriptorProvider.symm⟩, hbound.offerId.symm⟩, hbound.offerHash.symm⟩,
      hbound.descriptorHash⟩, h.settlementMethod⟩, h.baseAmount⟩, h.successAmount⟩,
      hbound.runtime.symm⟩, hbound.packageKind.symm⟩, h.contractVersion⟩, h.abiVersion⟩,
      h.capabilities⟩, h.accessHandles⟩, h.maxInputBytes⟩, h.maxRuntimeMs⟩, h.maxMemoryBytes⟩,
      h.maxOutputBytes⟩, h.fuelLimit⟩⟩
  · rintro ⟨hoffer, hdescriptor, ⟨⟨⟨⟨⟨⟨⟨⟨⟨⟨⟨⟨⟨⟨_, hmethod⟩, hbase⟩, hsuccess⟩, _⟩, _⟩, hcontract⟩,
      habi⟩, hcapabilities⟩, haccess⟩, hinput⟩, hruntime⟩, hmemory⟩, houtput⟩, hfuel⟩⟩
    exact ⟨hoffer, hdescriptor, hmethod, hbase, hsuccess, hcontract, habi, hcapabilities, haccess,
      hinput, hruntime, hmemory, houtput, hfuel⟩

/-- Both readings of a revision verify only if they have one hash. -/
theorem payloadHash_eq_of_verify (h : revision.verify P = .ok ())
    (h' : { revision with payload }.verify P = .ok ()) :
    payloadHash P payload = payloadHash P revision.payload := by
  unfold SignedPublicationRevision.verify at h h'
  simp only [↓check_eq_ok, bind_eq_ok, mapError_eq_ok, rejectIf_eq_ok, bne_eq_false_iff_eq] at h h'
  obtain ⟨-, -, canonical, hcanonical, hhash, -⟩ := h
  obtain ⟨-, -, canonical', hcanonical', hhash', -⟩ := h'
  rw [payloadHash, payloadHash, hcanonical, hcanonical']
  exact congrArg Except.ok (hhash'.symm.trans hhash)

/-- **When a capsule is evidence.** The verifier accepts the revision, the offer and the
descriptor of a capsule that validates exactly if they agree on the terms that the
validation leaves out, and no schema of the revision is lost in its document. -/
theorem capsule_evidence_accepted_iff (plan : ManagedPublicationPlan)
    (hfits : capsule.revision.payload.Fits) (hhash : payloadHash P capsule.revision.payload.readBack
        = payloadHash P capsule.revision.payload →
      capsule.revision.payload.readBack = capsule.revision.payload) :
    (capsule.validateAgainst P E plan = .ok () →
      (verifyServiceLinkEvidence P E (toJson capsule.revision) capsule.offer
        capsule.descriptor).valid = true) ↔ (capsule.validateAgainst P E plan = .ok () →
      capsule.revision.payload.service.SchemasPresent
      ∧ ∀ offer descriptor, ArtifactKind.offer.decode capsule.offer = some offer →
        ArtifactKind.descriptor.decode capsule.descriptor = some descriptor →
        Terms capsule.revision.payload offer descriptor) := by
  refine imp_congr_right fun hvalid => ?_
  obtain ⟨offer, descriptor, hbound⟩ := boundCapsule_of_validateAgainst P E hvalid
  rw [verifyServiceLinkEvidence_valid_iff P E (decodeSignedPublicationRevision_toJson hfits)
    hbound.decodeOffer hbound.decodeDescriptor]
  constructor
  · rintro ⟨hverify, ⟨-, hoffer, -⟩, ⟨-, hdescriptor, -⟩, hagree⟩
    have hsame := hhash (payloadHash_eq_of_verify P hbound.revision hverify)
    dsimp only at hagree
    rw [hsame] at hagree
    refine ⟨PublicationRevisionService.readBack_eq_self.mp (congrArg (·.service) hsame),
      fun o d ho hd => ?_⟩
    obtain rfl : offer = o := some.inj (hbound.decodeOffer.symm.trans ho)
    obtain rfl : descriptor = d := some.inj (hbound.decodeDescriptor.symm.trans hd)
    exact (terms_iff P hbound).mpr ⟨hoffer, hdescriptor, hagree⟩
  · rintro ⟨hschemas, hterms⟩
    have hread : capsule.revision.payload.readBack = capsule.revision.payload := by
      rw [PublicationRevisionPayload.readBack,
        PublicationRevisionService.readBack_eq_self.mpr hschemas]
    obtain ⟨hoffer, hdescriptor, hagree⟩ := (terms_iff P hbound).mp
      (hterms offer descriptor hbound.decodeOffer hbound.decodeDescriptor)
    rw [hread]
    exact ⟨hbound.revision, ⟨hbound.offerAccepted.1, hoffer, hbound.offerAccepted.2⟩,
      ⟨hbound.descriptorAccepted.1, hdescriptor, hbound.descriptorAccepted.2⟩, hagree⟩

end Evidence

/-! ## A capsule whose limits differ -/

def sampleArtifact {T : Type} (artifactType : String) (payload : T) : SignedArtifact T where
  artifactType := artifactType
  schemaVersion := frogletSchemaV1
  signer := sampleHash
  createdAt := 0
  payloadHash := sampleHash
  hash := sampleHash
  payload := payload
  signature := "signature"

theorem authentic_sampleArtifact {T : Type} [Serialize T] (artifactType : String) (payload : T) :
    Authentic samplePrimitives (sampleArtifact artifactType payload) :=
  ⟨rfl, rfl, [], rfl, rfl, rfl⟩

def sampleDescriptor : SignedDescriptor :=
  sampleArtifact artifactTypeDescriptor
    { providerId := sampleHash, descriptorSeq := 0, protocolVersion := frogletSchemaV1
      expiresAt := none, linkedIdentities := []
      transportEndpoints :=
        [{ transport := "https", uri := "https://provider.example/", createdAt := none
           expiresAt := none, priority := 0, features := [] }]
      capabilities := { serviceKinds := [], executionRuntimes := [], maxConcurrentDeals := none }
      acceptedPaymentMethods := [] }

def sampleOffer (maxInputBytes : ℕ) : SignedOffer :=
  sampleArtifact artifactTypeOffer
    { providerId := sampleHash, offerId := "offer", descriptorHash := sampleHash
      expiresAt := none, offerKind := "service", settlementMethod := settlementMethodNone
      quoteTtlSecs := 60
      executionProfile :=
        { runtime := .wasm, packageKind := "inline_module", contractVersion := "contract"
          accessHandles := [], abiVersion := "contract", capabilities := [], maxInputBytes
          maxRuntimeMs := 1, maxMemoryBytes := 1, maxOutputBytes := 1, fuelLimit := 1 }
      priceSchedule := { baseFeeMsat := 0, successFeeMsat := 0 }
      termsHash := none, confidentialProfileHash := none }

def sampleRevision : SignedPublicationRevision where
  revisionHash := sampleHash
  signerPubkey := sampleHash
  signature := "signature"
  payload :=
    { schemaVersion := publicationRevisionSchemaV1, providerId := sampleHash
      serviceId := "service", offerId := "offer", offerHash := sampleHash
      bindingHash := sampleHash, packageDigest := sampleHash, runtime := "wasm"
      packageKind := "inline_module"
      buildEvidence := some
        { schemaVersion := publicationBuildEvidenceSchemaV1, builder := "builder"
          builderVersion := "1", sourceDigest := sampleHash, artifactDigest := sampleHash
          dependencyMode := "none", components := [], hermetic := true }
      service :=
        { projectId := none, summary := none, starter := none, sourceKind := "artifact"
          entrypointKind := "handler", entrypoint := "run", contractVersion := "contract"
          mode := "sync", mounts := [], capabilities := [], inputSchema := none
          outputSchema := none }
      limits := { maxInputBytes := 1, maxRuntimeMs := 1, maxMemoryBytes := 1
                  maxOutputBytes := 1, fuelLimit := 1 }
      price := { settlementMethod := .none, currency := .sat, baseAmountMinor := 0
                 successAmountMinor := 0, offerSettlementMethod := "none" }
      localVerification := { inputHash := sampleHash, resultHash := sampleHash
                             expectedOutputMatched := none } }

def sampleCapsule (maxInputBytes : ℕ) : ManagedPublicationCapsule where
  schemaVersion := capsuleSchemaV1
  operationId := sampleHash
  planHash := sampleHash
  consentHash := sampleHash
  plan := samplePlan
  sourceRevisionHash := sampleHash
  revision := sampleRevision
  verificationFixture := { input := .null, expectedOutput := none }
  descriptor := toJson sampleDescriptor
  offer := toJson (sampleOffer maxInputBytes)

theorem sampleRevision_fits : sampleRevision.payload.Fits := by
  refine ⟨⟨?_, ?_, ?_, ?_, ?_⟩, ⟨?_, ?_⟩⟩ <;> (unfold FitsU64; decide)

theorem sampleRevision_verify : sampleRevision.verify samplePrimitives = .ok () := by
  decide +kernel

/-- **A signed revision survives its text**: what is read back is the revision, and it
verifies, when what the signer produces verifies under the provider's key and no schema is
the JSON null. -/
theorem signed_revision_reads_back {P : Primitives} {signMessageHex : Bytes → String}
    (hfits : payload.Fits) (hschemas : payload.service.SchemasPresent)
    (hsign : ∀ bytes, P.verifyMessage payload.providerId (signMessageHex bytes) bytes = true)
    (h : signPublicationRevision P payload signMessageHex = .ok revision) :
    decodeSignedPublicationRevision (toJson revision) = some revision
      ∧ revision.verify P = .ok () := by
  unfold signPublicationRevision PublicationRevisionPayload.validateCanonicalForSigning at h
  simp only [↓check_eq_ok, bind_eq_ok, pure_eq_ok] at h
  obtain ⟨⟨hvalid, -⟩, canonical, hcanonical, bytes, hbytes, rfl⟩ := h
  constructor
  · rw [decodeSignedPublicationRevision_toJson hfits, PublicationRevisionPayload.readBack,
      PublicationRevisionService.readBack_eq_self.mpr hschemas]
  · unfold SignedPublicationRevision.verify
    simp only [↓check_eq_ok, bind_eq_ok, rejectIf_eq_ok]
    exact ⟨hvalid, bne_self_eq_false _, canonical, hcanonical, bne_self_eq_false _, bytes, hbytes,
      by rw [hsign]; rfl⟩

theorem signed_revision_reads_back_sample :
    signPublicationRevision samplePrimitives sampleRevision.payload (fun _ => "signature")
        = .ok sampleRevision
      ∧ decodeSignedPublicationRevision (toJson sampleRevision) = some sampleRevision := by
  have hsigned : signPublicationRevision samplePrimitives sampleRevision.payload
      (fun _ => "signature") = .ok sampleRevision := by decide +kernel
  exact ⟨hsigned,
    (signed_revision_reads_back sampleRevision_fits ⟨nofun, nofun⟩ (fun _ => rfl) hsigned).1⟩

theorem decode_sampleDescriptor :
    ArtifactKind.descriptor.decode (toJson sampleDescriptor) = some sampleDescriptor := by
  refine ArtifactKind.descriptor.decode_toJson (by unfold FitsI64; decide) ?_
  exact ⟨by unfold FitsU64; decide, nofun, nofun, by
    simp only [sampleDescriptor, sampleArtifact, List.mem_singleton, forall_eq]
    exact ⟨nofun, nofun, by unfold FitsU32; decide⟩, ⟨nofun⟩⟩

theorem decode_sampleOffer {n : ℕ} (hn : FitsU64 n) :
    ArtifactKind.offer.decode (toJson (sampleOffer n)) = some (sampleOffer n) := by
  have htime : FitsI64 0 := by unfold FitsI64; decide
  have hsmall : ∀ m ≤ 60, FitsU64 m := fun m hm => by unfold FitsU64; omega
  have hone : FitsU64 1 := hsmall 1 (by decide)
  refine ArtifactKind.offer.decode_toJson htime ?_
  exact ⟨nofun, hsmall 60 le_rfl, ⟨hn, hone, hone, hone, hone⟩,
    ⟨hsmall 0 (by decide), hsmall 0 (by decide)⟩⟩

theorem sampleCapsule_valid {n : ℕ} (hn : FitsU64 n) :
    (sampleCapsule n).validateAgainst samplePrimitives sampleExternals samplePlan = .ok () := by
  have hrevision : (sampleCapsule n).checkRevision samplePrimitives samplePlan = .ok () := by
    unfold ManagedPublicationCapsule.checkRevision
    simp only [sampleCapsule, sampleRevision_verify]
    rfl
  have hdescriptor : validateDescriptorArtifact samplePrimitives sampleDescriptor = .ok () := by
    decide +kernel
  have hid : isBlank "offer" = false := by decide +kernel
  have hhash : isBlank sampleHash = false := by decide +kernel
  have hoffer : validateOfferArtifact (sampleOffer n) = .ok () := by
    simp only [validateOfferArtifact, check_eq_ok, rejectIf_eq_ok]
    exact ⟨by simp [sampleOffer, sampleArtifact], hid, hhash, by simp [sampleOffer, sampleArtifact]⟩
  have hartifacts :
      (sampleCapsule n).checkArtifacts samplePrimitives sampleExternals samplePlan = .ok () := by
    unfold ManagedPublicationCapsule.checkArtifacts verifyBoundArtifacts
    simp only [↓check_eq_ok, bind_eq_ok, mapError_eq_ok,
      needPresent_eq_ok, refuseIf_eq_ok, Bool.not_eq_false', verifyArtifact_iff]
    refine ⟨sampleDescriptor, decode_sampleDescriptor, sampleOffer n, decode_sampleOffer hn,
      ⟨authentic_sampleArtifact _ _, hdescriptor, authentic_sampleArtifact _ _, hoffer,
        sampleHash, rfl, sampleHash, rfl, ?_⟩, ?_⟩
    · simp [sampleDescriptor, sampleOffer, sampleArtifact, sampleCapsule, sampleRevision,
        samplePlan, runtimeName]
    · decide +kernel
  simp only [ManagedPublicationCapsule.validateAgainst, check_eq_ok]
  exact ⟨samplePlan_valid, refuseIf_eq_ok.mpr (by simp [sampleCapsule]),
    refuseIf_eq_ok.mpr (by simp [sampleCapsule]), requireHash_sampleHash _,
    requireHash_sampleHash _, refuseIf_eq_ok.mpr (by simp [sampleCapsule, samplePlan]), hrevision,
    hartifacts⟩

theorem sampleCapsule_evidence_accepted :
    (sampleCapsule 1).validateAgainst samplePrimitives sampleExternals samplePlan = .ok ()
      ∧ (verifyServiceLinkEvidence samplePrimitives sampleExternals
        (toJson (sampleCapsule 1).revision) (sampleCapsule 1).offer
        (sampleCapsule 1).descriptor).valid = true := by
  have hone : FitsU64 1 := by unfold FitsU64; decide
  refine ⟨sampleCapsule_valid hone, (capsule_evidence_accepted_iff samplePrimitives sampleExternals
    samplePlan sampleRevision_fits fun _ => rfl).mpr (fun _ => ⟨⟨nofun, nofun⟩,
      fun offer descriptor hoffer hdescriptor => ?_⟩) (sampleCapsule_valid hone)⟩
  obtain rfl : sampleOffer 1 = offer := some.inj ((decode_sampleOffer hone).symm.trans hoffer)
  obtain rfl : sampleDescriptor = descriptor :=
    some.inj (decode_sampleDescriptor.symm.trans hdescriptor)
  exact ⟨rfl, rfl, rfl, by decide, by decide, rfl, rfl, rfl, rfl, rfl, rfl, rfl, rfl, rfl⟩

/-- **A capsule validates with an offer whose limits are not the revision's.** The
revision is for inputs of one byte and the offer for inputs of two; the verifier
refuses them. -/
theorem sampleCapsule_evidence_refused :
    (sampleCapsule 2).validateAgainst samplePrimitives sampleExternals samplePlan = .ok ()
      ∧ (verifyServiceLinkEvidence samplePrimitives sampleExternals
        (toJson (sampleCapsule 2).revision) (sampleCapsule 2).offer
        (sampleCapsule 2).descriptor).valid = false := by
  have htwo : FitsU64 2 := by unfold FitsU64; decide
  refine ⟨sampleCapsule_valid htwo, Bool.eq_false_iff.mpr fun haccepted => ?_⟩
  obtain ⟨_, _, _, hagree⟩ := (verifyServiceLinkEvidence_valid_iff _ _
    (decodeSignedPublicationRevision_toJson sampleRevision_fits) (decode_sampleOffer htwo)
    decode_sampleDescriptor).mp haccepted
  simp only [evidenceDisagrees, Bool.or_eq_false_iff, bne_eq_false_iff_eq] at hagree
  obtain ⟨⟨⟨⟨⟨_, hinput⟩, _⟩, _⟩, _⟩, _⟩ := hagree
  exact absurd hinput (by decide)

end Froglet.ManagedPublication
