import Froglet.Custody.Files

/-!
# Recovery of the identities

A rotation and a restore leave a journal while they are under way. At the next start the
journal says how to go on: a pending restore is completed first, since it owns the whole
identity directory, and then a pending rotation is completed or rolled back.
-/

namespace Froglet.IdentityCustody

open FileSystem

section Recovery

variable {Key : Type} (C : Custody Key)

/-! ## Rotations -/

structure IdentityRotationReport where
  (schemaVersion oldNodeId newNodeId nostrPublicationId : String)
  continuityRecordPath : FilePath
  (continuityRecordSha256 backupStatus : String)
  restartRequired : Bool
deriving DecidableEq

variable (journal : IdentityRotationJournal)

def rotationReport : IdentityRotationReport where
  schemaVersion := continuitySchemaV1
  oldNodeId := journal.continuityRecord.payload.oldNodeId
  newNodeId := journal.continuityRecord.payload.newNodeId
  nostrPublicationId := journal.continuityRecord.payload.nostrPublicationId
  continuityRecordPath := journal.continuityRecordPath
  continuityRecordSha256 := journal.continuityRecordSha256
  backupStatus := "stale_after_rotation; create a new encrypted backup before publishing"
  restartRequired := true

/-- Two different identities and three signatures. -/
def verifyContinuityRecord (record : IdentityContinuityRecord) : Except CustodyError Unit := do
  let payload := record.payload
  rejectIf (payload.schemaVersion != continuitySchemaV1
      || payload.oldNodeId == payload.newNodeId
      || isBlank payload.reason
      || decide (512 < payload.reason.utf8ByteSize))
    (.invalid "continuity record payload is invalid")
  let bytes ← (C.continuityPayloadText payload).mapError fun error =>
    .invalid s!"continuity payload serialization failed: {error}"
  rejectIf (!(C.primitives.verifyMessage payload.oldNodeId record.oldNodeSignature bytes
      && C.primitives.verifyMessage payload.newNodeId record.newNodeSignature bytes
      && C.primitives.verifyMessage payload.nostrPublicationId record.nostrPublicationSignature
        bytes))
    .authentication

def recordBytes (record : IdentityContinuityRecord) : Except CustodyError Bytes :=
  (C.continuityRecordText record).mapError fun error =>
    .invalid s!"continuity record serialization failed: {error}"

/-- The paths a continuity record must not take. -/
def protectedPaths : List FilePath :=
  [nodeSeedPath, nostrPublicationSeedPath, rotationJournalPath, rotationNextSeedPath,
    rotationPreviousSeedPath, identityLockPath, restoreJournalPath, backupStatusPath]

def validateRotationRecordPath (recordPath : FilePath) : Except CustodyError Unit :=
  rejectIf (protectedPaths.contains recordPath)
    (.invalid "continuity record path conflicts with protected identity state")

/-- Its record verifies and has the digest it names. -/
def checkRotationJournal : Except CustodyError Unit := do
  rejectIf (journal.schemaVersion != rotationJournalSchemaV1)
    (.invalid "identity rotation journal metadata is invalid")
  verifyContinuityRecord C journal.continuityRecord
  let bytes ← recordBytes C journal.continuityRecord
  rejectIf (C.primitives.sha256Hex bytes != journal.continuityRecordSha256)
    (.invalid "identity rotation journal continuity digest is invalid")

def readRotationJournal (path : FilePath) : FileProg IdentityRotationJournal := do
  let shown := C.display path
  rejectSymlink C path "identity rotation journal"
  let file ← orIo C s!"could not open identity rotation journal {shown}" (openFile path)
  requirePrivateFile C file path
  let bytes ← readLimited C path maxRotationJournalBytes
  match C.readRotationJournalText bytes with
  | none => .fail (.invalid "identity rotation journal is invalid")
  | some journal =>
    .ofExcept (checkRotationJournal C journal)
    return journal

/-- A journal found in full after an error counts. -/
def installRotationJournal (path : FilePath) (journal : IdentityRotationJournal) :
    FileProg Unit := do
  let bytes ← .ofExcept <| (C.rotationJournalText journal).mapError fun error =>
    .invalid s!"rotation journal serialization failed: {error}"
  match ← (atomicWriteNew C path bytes).attempt with
  | .ok () => return ()
  | .error error =>
    if ← pathEntryExists C path then
      let installed ← readLimited C path maxRotationJournalBytes
      if installed = bytes then syncParent C path else .fail error
    else .fail error

/-- It is written, or found as it would be written. -/
def ensureContinuityRecord : FileProg Unit := do
  let path := journal.continuityRecordPath
  let shown := C.display path
  let expected ← .ofExcept (recordBytes C journal.continuityRecord)
  if ← pathEntryExists C path then
    rejectSymlink C path "identity continuity record"
    let actual ← readLimited C path maxBackupBytes
    if actual = expected then syncParent C path
    else .fail (.invalid s!"continuity record {shown} conflicts with the pending rotation")
  else
    match ← (atomicWriteNew C path expected).attempt with
    | .ok () => return ()
    | .error error =>
      if ← pathEntryExists C path then
        rejectSymlink C path "identity continuity record"
        let actual ← readLimited C path maxBackupBytes
        if actual = expected then syncParent C path else .fail error
      else .fail error

/-- Only a record that this rotation wrote. -/
def removeContinuityRecordIfOwned : FileProg Unit := do
  let path := journal.continuityRecordPath
  let shown := C.display path
  if ← pathEntryExists C path then
    rejectSymlink C path "identity continuity record"
    let expected ← .ofExcept (recordBytes C journal.continuityRecord)
    let actual ← readLimited C path maxBackupBytes
    if actual = expected then do
      orIo C s!"could not remove rolled-back continuity record {shown}" (removeFile path)
      syncParent C path
    else .fail (.invalid s!"continuity record {shown} is not owned by the pending rotation")
  else return ()

/-- Without a journal the old seed counts. -/
def cleanupUnjournaledRotationFiles : FileProg Unit := do
  let nextId ← optionalSeedIdentity C rotationNextSeedPath "unjournaled next node identity"
  let previousId ←
    optionalSeedIdentity C rotationPreviousSeedPath "unjournaled previous node identity"
  if nextId.isNone && previousId.isNone then return ()
  else do
    let canonicalId ← optionalSeedIdentity C nodeSeedPath "canonical node identity"
    let canonicalId ← match canonicalId, previousId with
      | some id, _ => pure (some id)
      | none, none => .fail (.invalid <|
          "canonical node seed is missing and no journal or previous seed can recover it")
      | none, some id => do
        orIo C "could not restore the unjournaled previous node identity"
          (hardLink rotationPreviousSeedPath nodeSeedPath)
        syncIdentityDir C
        pure (some id)
    if previousId.isSome && canonicalId != previousId then
      .fail (.invalid "unjournaled previous seed does not match the canonical node identity")
    else do
      removeFileIfExists C rotationNextSeedPath
      removeFileIfExists C rotationPreviousSeedPath
      syncIdentityDir C

/-- The previous seed goes before the journal. -/
def rollbackIncompleteRotation (restoreCanonical : Bool) : FileProg Unit := do
  if restoreCanonical then
    orIo C "could not restore the previous node identity during rotation recovery"
      (hardLink rotationPreviousSeedPath nodeSeedPath)
    syncIdentityDir C
  requireSeedIdentity C nodeSeedPath journal.continuityRecord.payload.oldNodeId
    "rolled-back node identity"
  removeContinuityRecordIfOwned C journal
  removeFileIfExists C rotationPreviousSeedPath
  removeFileIfExists C rotationNextSeedPath
  syncIdentityDir C
  removeFileIfExists C rotationJournalPath
  syncIdentityDir C

/-- The next seed takes the canonical place. -/
def activatePendingSeed (expectedNewNodeId : String) : FileProg Unit := do
  orIo C "could not atomically recover the pending node identity"
    (rename rotationNextSeedPath nodeSeedPath)
  syncIdentityDir C
  requireSeedIdentity C nodeSeedPath expectedNewNodeId "recovered node identity"

/-- How a pending rotation goes on. -/
inductive PendingRotation where
  | activated
  | activate
  | rollBack (restoreCanonical : Bool)

/-- The decision, from the three seeds. -/
def pendingRotation (payload : IdentityContinuityPayload)
    (canonicalId nextId previousId : Option String) : Except CustodyError PendingRotation :=
  match canonicalId with
  | some current =>
    if current = payload.newNodeId then .ok .activated
    else if current = payload.oldNodeId then
      if previousId.isNone then
        .error (.invalid "pending rotation is missing its durable previous seed")
      else if nextId.isNone then .ok (.rollBack false)
      else .ok .activate
    else .error (.invalid <|
      s!"canonical node identity {current} matches neither side of the pending rotation")
  | none =>
    if previousId.isNone then
      .error (.invalid "pending rotation has neither a canonical nor previous node seed")
    else if nextId.isNone then .ok (.rollBack true)
    else .ok .activate

def checkSide (side : String) (actual : Option String) (expected : String) :
    Except CustodyError Unit :=
  match actual with
  | some id => rejectIf (id != expected)
      (.invalid s!"pending rotation {side} seed has identity {id}, expected {expected}")
  | none => .ok ()

/-- The files of a rotation are removed, the journal last. -/
def finishRotation : FileProg (Option IdentityRotationReport) := do
  removeFileIfExists C rotationNextSeedPath
  removeFileIfExists C rotationPreviousSeedPath
  syncIdentityDir C
  removeFileIfExists C rotationJournalPath
  syncIdentityDir C
  return some (rotationReport journal)

/-- Complete a rotation or roll it back. -/
def recoverPendingIdentityRotationLocked : FileProg (Option IdentityRotationReport) := do
  if ← pathEntryExists C rotationJournalPath then
    let journal ← readRotationJournal C rotationJournalPath
    .ofExcept (validateRotationRecordPath journal.continuityRecordPath)
    let payload := journal.continuityRecord.payload
    requireSeedIdentity C nostrPublicationSeedPath payload.nostrPublicationId
      "Nostr publication identity"
    let canonicalId ← optionalSeedIdentity C nodeSeedPath "canonical node identity"
    let nextId ← optionalSeedIdentity C rotationNextSeedPath "next node identity"
    let previousId ← optionalSeedIdentity C rotationPreviousSeedPath "previous node identity"
    .ofExcept (checkSide "next" nextId payload.newNodeId)
    .ofExcept (checkSide "previous" previousId payload.oldNodeId)
    match ← .ofExcept (pendingRotation payload canonicalId nextId previousId) with
    | .activated => do
      ensureContinuityRecord C journal
      finishRotation C journal
    | .activate => do
      ensureContinuityRecord C journal
      activatePendingSeed C payload.newNodeId
      finishRotation C journal
    | .rollBack restoreCanonical => do
      rollbackIncompleteRotation C journal restoreCanonical
      return none
  else do
    cleanupUnjournaledRotationFiles C
    return none

/-! ## Restores -/

structure IdentityRestoreReport where
  (schemaVersion nodeId nostrPublicationId : String)
  identityDir : FilePath
deriving DecidableEq

def inStaging (stagingDir : FilePath) (name : FileName) : FilePath :=
  ⟨stagingDir.base, stagingDir.dirs ++ [stagingDir.name], name⟩

variable (journal : IdentityRestoreJournal)

/-- Both seeds have the identities of the journal. -/
def requireRestoredSeeds (directory : FilePath) (state : String) : FileProg Unit := do
  requirePrivateDirectory C directory
  requireSeedIdentity C (inStaging directory .nodeSeed) journal.intent.nodeId
    s!"{state} node identity"
  requireSeedIdentity C (inStaging directory .nostrPublicationSeed)
    journal.intent.nostrPublicationId s!"{state} Nostr publication identity"

def requireStagedRestoreIdentity : FileProg Unit :=
  requireRestoredSeeds C journal journal.intent.stagingDir "staged restored"

def requireInstalledRestoreIdentity : FileProg Unit :=
  requireRestoredSeeds C journal identityDir "restored"

def restoreReport : FileProg IdentityRestoreReport := do
  requireInstalledRestoreIdentity C journal
  return { schemaVersion := "froglet.identity-backup.v1", nodeId := journal.intent.nodeId
           nostrPublicationId := journal.intent.nostrPublicationId, identityDir := identityDir }

def isHex64 (value : String) : Bool :=
  decide (value.utf8ByteSize = 64) && (Hex.decodeChars value.toList).isSome

def restoreIntentBytes (intent : IdentityRestoreIntent) : Except CustodyError Bytes :=
  (C.restoreIntentText intent).mapError fun error =>
    .invalid s!"restore intent serialization failed: {error}"

/-- Paths of this node, and both signatures. -/
def verifyRestoreJournal : Except CustodyError Unit := do
  let intent := journal.intent
  rejectIf (intent.schemaVersion != restoreJournalSchemaV1
      || intent.identityDir != identityDir
      || intent.stagingDir.base != dataDir
      || intent.stagingDir.dirs != []
      || !intent.stagingDir.name.isRestoreStagingName
      || !isHex64 intent.nodeId
      || !isHex64 intent.nostrPublicationId)
    (.invalid "identity restore journal metadata is invalid")
  let status := intent.statusRecord
  rejectIf (status.schemaVersion != backupStatusSchemaV1
      || status.createdAtUnix == 0
      || status.nodeId != intent.nodeId
      || status.nostrPublicationId != intent.nostrPublicationId
      || !isHex64 status.backupSha256
      || !(["recovery_key_file", "operator_command"].contains status.protectionKind))
    (.invalid "identity restore journal status is invalid")
  let bytes ← restoreIntentBytes C intent
  rejectIf (!C.primitives.verifyMessage intent.nodeId journal.nodeSignature bytes
      || !C.primitives.verifyMessage intent.nostrPublicationId journal.nostrPublicationSignature
        bytes)
    .authentication

def installRestoreJournal : FileProg Unit := do
  let bytes ← .ofExcept <| (C.restoreJournalText journal).mapError fun error =>
    .invalid s!"restore journal serialization failed: {error}"
  atomicWriteNew C restoreJournalPath bytes

def readRestoreJournal : FileProg IdentityRestoreJournal := do
  let shown := C.display restoreJournalPath
  rejectSymlink C restoreJournalPath "identity restore journal"
  let file ← orIo C s!"could not open identity restore journal {shown}"
    (openFile restoreJournalPath)
  requirePrivateFile C file restoreJournalPath
  let bytes ← readLimited C restoreJournalPath maxRestoreJournalBytes
  match C.readRestoreJournalText bytes with
  | none => .fail (.invalid "identity restore journal is invalid")
  | some journal =>
    .ofExcept (verifyRestoreJournal C journal)
    return journal

def ensureRestoreStatus : FileProg Unit := do
  let expected ← .ofExcept <| (C.backupStatusText journal.intent.statusRecord).mapError
    fun error => .invalid s!"restore status serialization failed: {error}"
  if ← pathEntryExists C backupStatusPath then
    rejectSymlink C backupStatusPath "identity backup status"
    let file ← orIo C "could not open" (openFile backupStatusPath)
    requirePrivateFile C file backupStatusPath
    let actual ← readLimited C backupStatusPath maxBackupStatusBytes
    if actual = expected then syncDataDir C
    else atomicWriteReplace C backupStatusPath expected
  else atomicWriteReplace C backupStatusPath expected

/-- One rename installs the staged directory. -/
def activateRestoredIdentity : FileProg Unit := do
  if ← pathEntryExists C identityDir then requireInstalledRestoreIdentity C journal
  else do
    requireStagedRestoreIdentity C journal
    orIo C "could not atomically install restored identity directory"
      (rename journal.intent.stagingDir identityDir)
    syncDataDir C
    requireInstalledRestoreIdentity C journal

/-- Those that no journal names. -/
def removeStagingDirectories : List FileName → FileProg Unit
  | [] => return ()
  | name :: names => do
    if name.isRestoreStagingName then
      let shown := C.display (inData name)
      match ← symlinkMetadata C s!"could not inspect {shown}" (inData name) with
      | .dir _ _ => do
        orIo C s!"could not remove unjournaled restore staging directory {shown}"
          (removeDirAll (inData name))
        removeStagingDirectories names
      | _ => .fail (.invalid s!"orphaned restore state {shown} is not a directory")
    else removeStagingDirectories names

def cleanupUnjournaledRestoreDirectories : FileProg Unit := do
  let names ← orIo C "could not read the data directory" (readDir dataDir [])
  removeStagingDirectories C names
  syncDataDir C

def finishRestore : FileProg IdentityRestoreReport := do
  removeFileIfExists C restoreJournalPath
  syncDataDir C
  restoreReport C journal

/-- Either the staged or the installed directory is there. -/
def recoverPendingIdentityRestoreLocked : FileProg (Option IdentityRestoreReport) := do
  if ← pathEntryExists C restoreJournalPath then
    let journal ← readRestoreJournal C
    let identityExists ← pathEntryExists C identityDir
    let stagingExists ← pathEntryExists C journal.intent.stagingDir
    match identityExists, stagingExists with
    | false, true => do
      requireStagedRestoreIdentity C journal
      ensureRestoreStatus C journal
      activateRestoredIdentity C journal
      return some (← finishRestore C journal)
    | true, false => do
      requireInstalledRestoreIdentity C journal
      ensureRestoreStatus C journal
      return some (← finishRestore C journal)
    | true, true => .fail (.invalid <| "pending restore has both staging and installed identity "
        ++ "directories; refusing ambiguous recovery")
    | false, false => .fail (.invalid <|
        "pending restore has lost both its staging and installed identity directories")
  else do
    cleanupUnjournaledRestoreDirectories C
    return none

/-! ## Both -/

structure IdentityRecoveryReport where
  restoredIdentity : Option IdentityRestoreReport
  completedRotation : Option IdentityRotationReport

/-- A restore owns the whole directory, so it comes first. -/
def recoverPendingIdentityState : FileProg IdentityRecoveryReport := do
  let restoredIdentity ← recoverPendingIdentityRestoreLocked C
  if ← pathEntryExists C identityDir then
    requirePrivateDirectory C identityDir
    let completedRotation ← recoverPendingIdentityRotationLocked C
    return { restoredIdentity, completedRotation }
  else return { restoredIdentity, completedRotation := none }

def recoverPendingIdentityRotation : FileProg (Option IdentityRotationReport) := do
  let report ← recoverPendingIdentityState C
  return report.completedRotation

end Recovery

end Froglet.IdentityCustody
