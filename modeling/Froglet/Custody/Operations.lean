import Froglet.Custody.Recovery

/-!
# Rotating the node identity, restoring a backup

A rotation stages the new seed, links the old one under a second name, writes its
journal, then the continuity record, and renames the new seed into place.
-/

namespace Froglet.IdentityCustody

open FileSystem List

section Operations

variable {Key : Type} (C : Custody Key)

/-! ## Rotation -/

structure RotationRequest (Key : Type) where
  continuityRecordPath : FilePath
  reason : String
  newKey : Key
  createdAtUnix : ℕ
  backupCurrent : Bool
  backupVerified : Except CustodyError Unit

def signContinuityRecord (R : RotationRequest Key) (oldKey nostrKey : Key) :
    Except CustodyError IdentityContinuityRecord := do
  let payload : IdentityContinuityPayload :=
    { schemaVersion := continuitySchemaV1, createdAtUnix := R.createdAtUnix
      oldNodeId := C.publicKeyHex oldKey, newNodeId := C.publicKeyHex R.newKey
      nostrPublicationId := C.publicKeyHex nostrKey, reason := trim R.reason }
  let bytes ← (C.continuityPayloadText payload).mapError fun error =>
    .invalid s!"continuity payload serialization failed: {error}"
  let record : IdentityContinuityRecord :=
    { payload, oldNodeSignature := C.signMessageHex oldKey bytes
      newNodeSignature := C.signMessageHex R.newKey bytes
      nostrPublicationSignature := C.signMessageHex nostrKey bytes }
  verifyContinuityRecord C record
  return record

def rotationJournalOf (R : RotationRequest Key) (oldKey nostrKey : Key) :
    Except CustodyError IdentityRotationJournal := do
  let record ← signContinuityRecord C R oldKey nostrKey
  let bytes ← recordBytes C record
  return { schemaVersion := rotationJournalSchemaV1
           continuityRecordPath := R.continuityRecordPath
           continuityRecordSha256 := C.primitives.sha256Hex bytes
           continuityRecord := record }

def performRotation (newKey : Key) (journal : IdentityRotationJournal) :
    FileProg IdentityRotationReport := do
  writeSeedNew C rotationNextSeedPath newKey
  orIo C "could not preserve the previous node identity"
    (hardLink nodeSeedPath rotationPreviousSeedPath)
  syncIdentityDir C
  installRotationJournal C rotationJournalPath journal
  ensureContinuityRecord C journal
  orIo C "could not atomically activate the new node identity"
    (rename rotationNextSeedPath nodeSeedPath)
  syncIdentityDir C
  requireSeedIdentity C nodeSeedPath journal.continuityRecord.payload.newNodeId
    "activated node identity"
  removeFileIfExists C rotationPreviousSeedPath
  syncIdentityDir C
  removeFileIfExists C rotationJournalPath
  syncIdentityDir C
  return rotationReport journal

def rotateNodeIdentity (R : RotationRequest Key) : FileProg IdentityRotationReport := do
  if isBlank R.reason || decide (512 < R.reason.utf8ByteSize) then
    .fail (.invalid "rotation reason must contain 1..=512 bytes")
  else do
    match (← recoverPendingIdentityState C).completedRotation with
    | some report => return report
    | none => do
      .ofExcept <| rejectIf (!R.backupCurrent) (.invalid <| "current node and Nostr publication "
        ++ "identities require a verified backup before rotation")
      rejectSymlink C nodeSeedPath "node identity seed"
      let oldKey ← loadSigningKey C nodeSeedPath
      let nostrKey ← loadSigningKey C nostrPublicationSeedPath
      .ofExcept R.backupVerified
      let journal ← .ofExcept (rotationJournalOf C R oldKey nostrKey)
      .ofExcept (validateRotationRecordPath R.continuityRecordPath)
      let shown := C.display R.continuityRecordPath
      if ← pathEntryExists C R.continuityRecordPath then
        .fail (.invalid s!"continuity record {shown} already exists")
      else performRotation C R.newKey journal

/-! ## Restore -/

structure OpenedBackup (Key : Type) where
  createdAtUnix : ℕ
  (nodeId nostrPublicationId protectionKind : String)
  (nodeKey nostrKey : Key)

structure RestoreRequest (Key : Type) where
  backupPath : FilePath
  opened : Bytes → Except CustodyError (OpenedBackup Key)

def restoreJournalOf (R : RestoreRequest Key) (encoded : Bytes) (backup : OpenedBackup Key)
    (stagingDir : FilePath) : Except CustodyError IdentityRestoreJournal := do
  let statusRecord : BackupStatusRecord :=
    { schemaVersion := backupStatusSchemaV1, createdAtUnix := backup.createdAtUnix
      nodeId := backup.nodeId, nostrPublicationId := backup.nostrPublicationId
      backupPath := R.backupPath, backupSha256 := C.primitives.sha256Hex encoded
      protectionKind := backup.protectionKind }
  let intent : IdentityRestoreIntent :=
    { schemaVersion := restoreJournalSchemaV1, identityDir := identityDir, stagingDir
      nodeId := backup.nodeId, nostrPublicationId := backup.nostrPublicationId, statusRecord }
  let bytes ← restoreIntentBytes C intent
  let journal : IdentityRestoreJournal :=
    { intent, nodeSignature := C.signMessageHex backup.nodeKey bytes
      nostrPublicationSignature := C.signMessageHex backup.nostrKey bytes }
  verifyRestoreJournal C journal
  return journal

def createRestoreStagingDir (stagingDir : FilePath) (nodeKey nostrKey : Key) : FileProg Unit := do
  let shown := C.display stagingDir
  orIo C s!"could not create restore staging directory {shown}" (createDir stagingDir)
  orIo C s!"could not protect {shown}" (setPrivate stagingDir)
  writeSeedNew C (inStaging stagingDir .nodeSeed) nodeKey
  writeSeedNew C (inStaging stagingDir .nostrPublicationSeed) nostrKey
  syncDirectory C stagingDir.base (stagingDir.dirs ++ [stagingDir.name])

def performRestore (R : RestoreRequest Key) (encoded : Bytes) (backup : OpenedBackup Key) :
    FileProg IdentityRestoreReport := do
  let stagingDir ← uniqueSibling identityDir .restore
  match ← (createRestoreStagingDir C stagingDir backup.nodeKey backup.nostrKey).attempt with
  | .error error => do
    let _ ← removeDirAll stagingDir
    .fail error
  | .ok () => do
    syncDataDir C
    let journal ← .ofExcept (restoreJournalOf C R encoded backup stagingDir)
    match ← (installRestoreJournal C journal).attempt with
    | .error error => do
      let _ ← removeDirAll stagingDir
      let _ ← (syncDataDir C).attempt
      .fail error
    | .ok () => do
      ensureRestoreStatus C journal
      activateRestoredIdentity C journal
      finishRestore C journal

def identityMaterialExists : FileProg Bool := do
  if ← pathEntryExists C identityDir then return true
  else if ← pathEntryExists C nodeSeedPath then return true
  else pathEntryExists C nostrPublicationSeedPath

def restoreBackup (R : RestoreRequest Key) : FileProg IdentityRestoreReport := do
  let _ ← recoverPendingIdentityState C
  let shown := C.display identityDir
  if [backupStatusPath, restoreJournalPath, identityLockPath].contains R.backupPath then
    .fail (.invalid "backup path conflicts with protected identity restore state")
  else if ← identityMaterialExists C then
    .fail (.invalid <| s!"restore target {shown} already exists; "
      ++ "refusing to overwrite any identity material")
  else do
    rejectSymlink C R.backupPath "identity backup"
    let encoded ← readLimited C R.backupPath maxBackupBytes
    let backup ← .ofExcept (R.opened encoded)
    if C.publicKeyHex backup.nodeKey != backup.nodeId
        || C.publicKeyHex backup.nostrKey != backup.nostrPublicationId then
      .fail .authentication
    else performRestore C R encoded backup

end Operations

/-! ## A custody with short texts -/

def samplePublicKey (key : UInt8) : String :=
  String.ofList (replicate 64 (Char.ofNat (97 + key.toNat)))

def sampleRecordPath : FilePath := ⟨dataDir, [.identityContinuity], .other "record.json"⟩

def sampleRotationJournal : IdentityRotationJournal :=
  { schemaVersion := rotationJournalSchemaV1, continuityRecordPath := sampleRecordPath
    continuityRecordSha256 := String.ofList (replicate 64 'a')
    continuityRecord := {
      payload := {
        schemaVersion := continuitySchemaV1, createdAtUnix := 5, oldNodeId := samplePublicKey 0
        newNodeId := samplePublicKey 1, nostrPublicationId := samplePublicKey 2, reason := "r" }
      oldNodeSignature := "s", newNodeSignature := "s", nostrPublicationSignature := "s" } }

def sampleBackupPath : FilePath := inData (.other "backup")

def sampleRestoreJournal : IdentityRestoreJournal :=
  { intent := {
      schemaVersion := restoreJournalSchemaV1, identityDir := identityDir
      stagingDir := inData (.sibling .identity .restore 1), nodeId := samplePublicKey 0
      nostrPublicationId := samplePublicKey 2
      statusRecord := {
        schemaVersion := backupStatusSchemaV1, createdAtUnix := 5, nodeId := samplePublicKey 0
        nostrPublicationId := samplePublicKey 2, backupPath := sampleBackupPath
        backupSha256 := String.ofList (replicate 64 'a')
        protectionKind := "recovery_key_file" } }
    nodeSignature := "s", nostrPublicationSignature := "s" }

def sampleCustody : Custody UInt8 where
  primitives :=
    { sha256Hex := fun _ => String.ofList (replicate 64 'a'), canonicalJson := fun _ => .ok []
      verifyMessage := fun _ _ _ => true }
  loadSigningKey
    | [key] => .ok key
    | _ => .error "not a seed"
  seedText key := [key]
  publicKeyHex := samplePublicKey
  signMessageHex _ _ := "s"
  continuityPayloadText _ := .ok [0]
  continuityRecordText _ := .ok [7]
  rotationJournalText journal :=
    if journal = sampleRotationJournal then .ok [8] else .error "no text"
  readRotationJournalText text := if text = [8] then some sampleRotationJournal else none
  backupStatusText _ := .ok [9]
  restoreIntentText _ := .ok [0]
  restoreJournalText journal :=
    if journal = sampleRestoreJournal then .ok [10] else .error "no text"
  readRestoreJournalText text := if text = [10] then some sampleRestoreJournal else none
  display _ := "path"
  errorText _ := "failed"

end Froglet.IdentityCustody
