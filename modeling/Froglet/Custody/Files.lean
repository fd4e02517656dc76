import Froglet.Lib.Disk
import Froglet.Protocol.Artifacts

/-!
# The files of the identity custody

A node has two long-lived signing identities, its own and the one it publishes to Nostr
with. Their seeds are files of one private directory; a rotation or a restore changes
several of them, and a crash can come between any two changes.

The operations are programs of file-system calls (`Lib.Disk` says what a call does and
what a crash keeps). A file name is a constructor and not a text, so that two files are
told apart by cases.
-/

namespace Froglet.IdentityCustody

open FileSystem

/-! ## Names and paths -/

inductive SiblingLabel where
  | tmp
  | restore
deriving DecidableEq

def SiblingLabel.text : SiblingLabel → String
  | tmp => "tmp"
  | restore => "restore"

/-- The names that the custody uses; a `sibling` is hidden. -/
inductive FileName where
  | identity
  | nodeSeed
  | nostrPublicationSeed
  | rotationJournal
  | rotationNextSeed
  | rotationPreviousSeed
  | restoreJournal
  | identityLock
  | backupStatus
  | identityContinuity
  | other (text : String)
  | sibling (of : FileName) (label : SiblingLabel) (token : ℕ)
deriving DecidableEq

namespace FileName

/-- The name as the file system has it. -/
def chars : FileName → List Char
  | identity => "identity".toList
  | nodeSeed => "secp256k1.seed".toList
  | nostrPublicationSeed => "nostr-publication.secp256k1.seed".toList
  | rotationJournal => ".rotation-journal.json".toList
  | rotationNextSeed => ".rotation-next.seed".toList
  | rotationPreviousSeed => ".rotation-previous.seed".toList
  | restoreJournal => ".identity-restore-journal.json".toList
  | identityLock => ".identity-custody.lock".toList
  | backupStatus => "identity-backup-status.json".toList
  | identityContinuity => "identity-continuity".toList
  | other text => text.toList
  | sibling of label token =>
    '.' :: of.chars ++ '.' :: label.text.toList ++ '.' :: (toString token).toList

def token : FileName → ℕ
  | sibling _ _ token => token
  | _ => 0

theorem ne_sibling (name : FileName) (label : SiblingLabel) (token : ℕ) :
    name ≠ sibling name label token := by
  intro heq
  have hsize := congrArg sizeOf heq
  simp only [sibling.sizeOf_spec] at hsize
  omega

/-- The names that a recovery clears away. -/
def isRestoreStagingName (name : FileName) : Bool :=
  ".identity.restore.".toList.isPrefixOf name.chars

end FileName

abbrev FilePath : Type := Path FileName

def dataDir : ℕ := 0

def inData (name : FileName) : FilePath := ⟨dataDir, [], name⟩
def inIdentity (name : FileName) : FilePath := ⟨dataDir, [.identity], name⟩

def identityDir : FilePath := inData .identity
def restoreJournalPath : FilePath := inData .restoreJournal
def identityLockPath : FilePath := inData .identityLock
def backupStatusPath : FilePath := inData .backupStatus
def nodeSeedPath : FilePath := inIdentity .nodeSeed
def nostrPublicationSeedPath : FilePath := inIdentity .nostrPublicationSeed
def rotationJournalPath : FilePath := inIdentity .rotationJournal
def rotationNextSeedPath : FilePath := inIdentity .rotationNextSeed
def rotationPreviousSeedPath : FilePath := inIdentity .rotationPreviousSeed

/-! ## Records -/

def continuitySchemaV1 : String := "froglet.identity-continuity.v1"
def backupStatusSchemaV1 : String := "froglet.identity-backup-status.v1"
def rotationJournalSchemaV1 : String := "froglet.identity-rotation-journal.v1"
def restoreJournalSchemaV1 : String := "froglet.identity-restore-journal.v1"
def maxBackupBytes : ℕ := 2 * 1024 * 1024
def maxRotationJournalBytes : ℕ := 128 * 1024
def maxRestoreJournalBytes : ℕ := 128 * 1024
def maxBackupStatusBytes : ℕ := 64 * 1024

/-- The errors of the custody. -/
inductive CustodyError where
  | invalid (message : String)
  | authentication
  | unsupported (message : String)
  | io (message : String)
  | operator (message : String)
deriving DecidableEq

/-- What ties a new identity to the old one. -/
structure IdentityContinuityPayload where
  schemaVersion : String
  createdAtUnix : ℕ
  (oldNodeId newNodeId nostrPublicationId reason : String)
deriving DecidableEq, Inhabited

/-- Signed by both node keys and the Nostr key. -/
structure IdentityContinuityRecord where
  payload : IdentityContinuityPayload
  (oldNodeSignature newNodeSignature nostrPublicationSignature : String)
deriving DecidableEq, Inhabited

/-- Which backup is current. -/
structure BackupStatusRecord where
  schemaVersion : String
  createdAtUnix : ℕ
  (nodeId nostrPublicationId : String)
  backupPath : FilePath
  (backupSha256 protectionKind : String)
deriving DecidableEq

/-- It carries the record that the rotation publishes. -/
structure IdentityRotationJournal where
  schemaVersion : String
  continuityRecordPath : FilePath
  continuityRecordSha256 : String
  continuityRecord : IdentityContinuityRecord
deriving DecidableEq

/-- What a restore is about to install. -/
structure IdentityRestoreIntent where
  schemaVersion : String
  (identityDir stagingDir : FilePath)
  (nodeId nostrPublicationId : String)
  statusRecord : BackupStatusRecord
deriving DecidableEq

/-- The intent, signed by both identities. -/
structure IdentityRestoreJournal where
  intent : IdentityRestoreIntent
  (nodeSignature nostrPublicationSignature : String)
deriving DecidableEq

/-- Keys, signatures and JSON texts; nothing is assumed of them. -/
structure Custody (Key : Type) where
  primitives : Primitives
  loadSigningKey : Bytes → Except String Key
  seedText : Key → Bytes
  publicKeyHex : Key → String
  signMessageHex : Key → Bytes → String
  continuityPayloadText : IdentityContinuityPayload → Except String Bytes
  continuityRecordText : IdentityContinuityRecord → Except String Bytes
  rotationJournalText : IdentityRotationJournal → Except String Bytes
  readRotationJournalText : Bytes → Option IdentityRotationJournal
  backupStatusText : BackupStatusRecord → Except String Bytes
  restoreIntentText : IdentityRestoreIntent → Except String Bytes
  restoreJournalText : IdentityRestoreJournal → Except String Bytes
  readRestoreJournalText : Bytes → Option IdentityRestoreJournal
  display : FilePath → String
  errorText : IoError → String

/-! ## Programs -/

abbrev FileNode : Type := Node Bytes
abbrev FileCall : Type := Call FileName Bytes

/-- A program of file-system calls that may fail. -/
abbrev FileProg (α : Type) : Type := Prog FileCall Call.Answer CustodyError α

def stat (path : FilePath) : FileProg (Except IoError (Option FileNode)) := .call (.stat path) .ret
def openFile (path : FilePath) : FileProg (Except IoError FileNode) := .call (.openFile path) .ret
def read (path : FilePath) : FileProg (Except IoError Bytes) := .call (.read path) .ret
def createNew (path : FilePath) : FileProg (Except IoError Unit) := .call (.createNew path []) .ret
def writeAndSync (path : FilePath) (bytes : Bytes) : FileProg (Except IoError Unit) :=
  .call (.write path bytes) .ret
def setPrivate (path : FilePath) : FileProg (Except IoError Unit) := .call (.protect path) .ret
def hardLink (source target : FilePath) : FileProg (Except IoError Unit) :=
  .call (.hardLink source target) .ret
def rename (source target : FilePath) : FileProg (Except IoError Unit) :=
  .call (.rename source target) .ret
def removeFile (path : FilePath) : FileProg (Except IoError Unit) := .call (.removeFile path) .ret
def createDir (path : FilePath) : FileProg (Except IoError Unit) := .call (.createDir path) .ret
def removeDirAll (path : FilePath) : FileProg (Except IoError Unit) :=
  .call (.removeDirAll path) .ret
def readDir (base : ℕ) (dirs : List FileName) : FileProg (Except IoError (List FileName)) :=
  .call (.readDir base dirs) .ret
def syncDir (base : ℕ) (dirs : List FileName) : FileProg (Except IoError Unit) :=
  .call (.syncDir base dirs) .ret
def drawToken : FileProg ℕ := .call .token .ret

section Programs

variable {Key α : Type} (C : Custody Key)

def ioError (context : String) (error : IoError) : CustodyError :=
  .io (context ++ ": " ++ C.errorText error)

def orIo (context : String) (result : FileProg (Except IoError α)) : FileProg α := do
  match ← result with
  | .ok a => return a
  | .error error => .fail (ioError C context error)

/-- Whether an entry is there, links included. -/
def pathEntryExists (path : FilePath) : FileProg Bool := do
  let shown := C.display path
  let node ← orIo C s!"could not inspect {shown}" (stat path)
  return node.isSome

/-- `Path::exists`, which takes an error for absence. -/
def pathExists (path : FilePath) : FileProg Bool := do
  match ← stat path with
  | .ok node => return node.isSome
  | .error _ => return false

def symlinkMetadata (context : String) (path : FilePath) : FileProg FileNode := do
  match ← orIo C context (stat path) with
  | some node => return node
  | none => .fail (ioError C context .notFound)

def rejectSymlink (path : FilePath) (label : String) : FileProg Unit := do
  let shown := C.display path
  match ← symlinkMetadata C s!"could not inspect {label} {shown}" path with
  | .symlink => .fail (.invalid s!"{label} {shown} must not be a symbolic link")
  | _ => return ()

/-- A regular file that no one else may access. -/
def requirePrivateFile (node : FileNode) (path : FilePath) : FileProg Unit :=
  let shown := C.display path
  match node with
  | .file _ true => return ()
  | .file _ false => .fail (.invalid s!"{shown} must not be accessible by group or other users")
  | _ => .fail (.invalid s!"{shown} is not a regular file")

def requirePrivateDirectory (path : FilePath) : FileProg Unit := do
  let shown := C.display path
  match ← symlinkMetadata C s!"could not inspect {shown}" path with
  | .dir _ true => return ()
  | .dir _ false => .fail (.invalid s!"{shown} must not be accessible by group or other users")
  | _ => .fail (.invalid s!"{shown} is not a directory")

def loadSigningKey (path : FilePath) : FileProg Key := do
  let shown := C.display path
  let text ← orIo C s!"Failed to read node identity seed {shown}" (read path)
  .ofExcept ((C.loadSigningKey text).mapError .io)

/-- The identity of a seed file, if there is one. -/
def optionalSeedIdentity (path : FilePath) (label : String) : FileProg (Option String) := do
  if ← pathEntryExists C path then
    rejectSymlink C path label
    let file ← orIo C s!"could not open {label}" (openFile path)
    requirePrivateFile C file path
    let key ← loadSigningKey C path
    return some (C.publicKeyHex key)
  else return none

def requireSeedIdentity (path : FilePath) (expectedId label : String) : FileProg Unit := do
  let shown := C.display path
  match ← optionalSeedIdentity C path label with
  | none => .fail (.invalid s!"{label} {shown} is missing")
  | some actual =>
    if actual = expectedId then return ()
    else .fail (.invalid s!"{label} has identity {actual}, expected {expectedId}")

def readLimited (path : FilePath) (maxBytes : ℕ) : FileProg Bytes := do
  let shown := C.display path
  let _ ← orIo C s!"could not open {shown}" (openFile path)
  let bytes ← orIo C s!"could not read {shown}" (read path)
  if maxBytes < bytes.length then
    .fail (.invalid s!"{shown} exceeds the {maxBytes} byte limit")
  else return bytes

def syncDirectory (base : ℕ) (dirs : List FileName) : FileProg Unit :=
  orIo C "could not sync directory" (syncDir base dirs)

def syncParent (path : FilePath) : FileProg Unit := syncDirectory C path.base path.dirs

def syncIdentityDir : FileProg Unit := syncDirectory C dataDir [.identity]
def syncDataDir : FileProg Unit := syncDirectory C dataDir []

def cleanupFile (path : FilePath) : FileProg Unit := do
  let _ ← removeFile path

/-- Anything but a regular file is refused. -/
def removeFileIfExists (path : FilePath) : FileProg Unit := do
  let shown := C.display path
  match ← orIo C s!"could not inspect {shown} before removal" (stat path) with
  | none => return ()
  | some (.file _ _) =>
    orIo C s!"could not remove identity operation state {shown}" (removeFile path)
  | some _ => .fail (.invalid s!"identity operation state {shown} is not a regular file")

/-- From the top; no new entry is synced. -/
def createDirAll (base : ℕ) : List FileName → List FileName → FileProg Unit
  | _, [] => return ()
  | above, name :: below => do
    match ← orIo C "could not create" (stat ⟨base, above, name⟩) with
    | some (.dir _ _) => createDirAll base (above ++ [name]) below
    | some _ => .fail (ioError C "could not create" .notADirectory)
    | none => do
      orIo C "could not create" (createDir ⟨base, above, name⟩)
      createDirAll base (above ++ [name]) below

/-- A fresh name beside a file. -/
def uniqueSibling (path : FilePath) (label : SiblingLabel) : FileProg FilePath := do
  let token ← drawToken
  return { path with name := .sibling path.name label token }

def orCleanup (staging : FilePath) (error : CustodyError) : FileProg α := do
  cleanupFile staging
  .fail error

/-- A private file, synced. -/
def writeStagingFile (path : FilePath) (bytes : Bytes) : FileProg FilePath := do
  createDirAll C path.base [] path.dirs
  let staging ← uniqueSibling path .tmp
  let shown := C.display staging
  orIo C s!"could not create staging file {shown}" (createNew staging)
  match ← writeAndSync staging bytes with
  | .error error => orCleanup staging (ioError C s!"could not persist staging file {shown}" error)
  | .ok () =>
    match ← setPrivate staging with
    | .error error => orCleanup staging (ioError C s!"could not protect {shown}" error)
    | .ok () => return staging

/-- A hard link never overwrites. -/
def installStagingNew (staging destination : FilePath) : FileProg Unit := do
  let shown := C.display destination
  orIo C s!"could not atomically install {shown} without overwrite" (hardLink staging destination)
  let shown := C.display staging
  orIo C s!"could not remove staging link {shown}" (removeFile staging)

/-- Stage, link, sync the directory. -/
def atomicWriteNew (path : FilePath) (bytes : Bytes) : FileProg Unit := do
  let shown := C.display path
  if ← pathExists path then
    .fail (.invalid s!"{shown} already exists; refusing to overwrite it")
  else do
    let staging ← writeStagingFile C path bytes
    match ← (installStagingNew C staging path).attempt with
    | .error error => orCleanup staging error
    | .ok () => syncParent C path

/-- Stage, rename, sync the directory. -/
def atomicWriteReplace (path : FilePath) (bytes : Bytes) : FileProg Unit := do
  let shown := C.display path
  let staging ← writeStagingFile C path bytes
  match ← rename staging path with
  | .error error => orCleanup staging (ioError C s!"could not atomically replace {shown}" error)
  | .ok () => syncParent C path

def writeSeedNew (path : FilePath) (key : Key) : FileProg Unit :=
  atomicWriteNew C path (C.seedText key)

end Programs

end Froglet.IdentityCustody
