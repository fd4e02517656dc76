import Froglet.Custody.Steps

/-!
# Rotations that crash

A rotation changes five files: the node seed, the next and the previous seed, the
journal and the continuity record.
-/

namespace Froglet.IdentityCustody

open FileSystem List Prog Function

variable {Key : Type} {R : RotationRequest Key} {record : IdentityContinuityRecord} {text : Bytes}
variable {Q : Unit → FileDisk → Prop}
variable {node : Option FileNode} {n x p : Bool} {c s₀ : FileDisk}

/-! ## What a rotation changes -/

inductive Role where
  | node
  | journal
  | next
  | previous
  | record
deriving DecidableEq

structure Bits where
  (node journal next previous record : Bool)
deriving DecidableEq

namespace Bits

def get (b : Bits) : Role → Bool
  | .node => b.node
  | .journal => b.journal
  | .next => b.next
  | .previous => b.previous
  | .record => b.record

def set (b : Bits) : Role → Bool → Bits
  | .node, v => { b with node := v }
  | .journal, v => { b with journal := v }
  | .next, v => { b with next := v }
  | .previous, v => { b with previous := v }
  | .record, v => { b with record := v }

theorem get_set (b : Bits) (r q : Role) (v : Bool) :
    (b.set r v).get q = if q = r then v else b.get q := by
  cases r <;> cases q <;> rfl

theorem ext_get {b b' : Bits} (h : ∀ r, b.get r = b'.get r) : b = b' := by
  cases b
  cases b'
  simpa using ⟨h .node, h .journal, h .next, h .previous, h .record⟩

abbrev start : Bits := ⟨false, false, false, false, false⟩

/-- The bits a recovery can start from. -/
def safe (b : Bits) : Bool :=
  if b.journal then b.node || b.previous else !b.node || (!b.previous && b.record)

def rollsBack (b : Bits) : Bool := b.journal && !b.node && !b.next

def settled (b : Bits) (isNew : Bool) : Bool :=
  b.node == isNew && !b.journal && !b.next && !b.previous && (!isNew || b.record)

theorem safe_of_settled : ∀ (b : Bits) (isNew : Bool), b.settled isNew = true → b.safe = true := by
  rintro ⟨_ | _, _ | _, _ | _, _ | _, _ | _⟩ (_ | _) <;> simp [settled, safe]

def activated : List Bits :=
  [⟨true, true, false, false, true⟩, ⟨true, true, false, true, true⟩,
    ⟨true, true, true, false, true⟩, ⟨true, true, true, true, true⟩]

end Bits

def RotationRequest.path (R : RotationRequest Key) : Role → FilePath
  | .node => nodeSeedPath
  | .journal => rotationJournalPath
  | .next => rotationNextSeedPath
  | .previous => rotationPreviousSeedPath
  | .record => R.continuityRecordPath

def Kept (identity : ℕ) (record p : FilePlace) : Prop :=
  p ≠ ⟨identity, .nodeSeed⟩ ∧ p ≠ ⟨identity, .rotationJournal⟩
    ∧ p ≠ ⟨identity, .rotationNextSeed⟩ ∧ p ≠ ⟨identity, .rotationPreviousSeed⟩ ∧ p ≠ record
    ∧ (∀ of label token, p.name ≠ .sibling of label token)
    ∧ ¬ (p.dir = dataDir ∧ p.name.isRestoreStagingName = true)

section Journal

variable {C : Custody Key}

theorem ids_ne_of_verifyContinuityRecord (h : verifyContinuityRecord C record = .ok ()) :
    record.payload.oldNodeId ≠ record.payload.newNodeId := by
  unfold verifyContinuityRecord at h
  simp only [↓check_eq_ok, rejectIf_eq_ok, Bool.or_eq_false_iff, beq_eq_false_iff_ne] at h
  exact h.1.1.1.2

theorem signContinuityRecord_eq_ok {oldKey nostrKey : Key}
    (h : signContinuityRecord C R oldKey nostrKey = .ok record) :
    verifyContinuityRecord C record = .ok () ∧ record.payload.oldNodeId = C.publicKeyHex oldKey
      ∧ record.payload.newNodeId = C.publicKeyHex R.newKey
      ∧ record.payload.nostrPublicationId = C.publicKeyHex nostrKey := by
  unfold signContinuityRecord at h
  simp only [↓check_eq_ok, bind_eq_ok, pure_eq_ok] at h
  obtain ⟨_, _, hverify, rfl⟩ := h
  exact ⟨hverify, rfl, rfl, rfl⟩

theorem rotationJournalOf_eq_ok {oldKey nostrKey : Key} {journal : IdentityRotationJournal}
    (h : rotationJournalOf C R oldKey nostrKey = .ok journal) :
    ∃ record text, signContinuityRecord C R oldKey nostrKey = .ok record
      ∧ recordBytes C record = .ok text
      ∧ journal = ⟨rotationJournalSchemaV1, R.continuityRecordPath, C.primitives.sha256Hex text,
        record⟩ := by
  unfold rotationJournalOf at h
  simp only [bind_eq_ok, pure_eq_ok] at h
  obtain ⟨record, hrecord, text, htext, rfl⟩ := h
  exact ⟨record, text, hrecord, htext, rfl⟩

end Journal

/-- The disks a crash leaves of a rotation and of recoveries of it, any number
of them, where `mayStop` says at which disks a recovery may be stopped. -/
inductive AfterCrash (C : Custody Key) (R : RotationRequest Key) (s₀ : FileDisk)
    (mayStop : FileDisk → FileDisk → Prop) : FileDisk → Prop
  | rotation {t c : FileDisk} :
      Prog.Passes (Steps noFail) (rotateNodeIdentity C R) s₀ t → t.Crash .torn c →
        AfterCrash C R s₀ mayStop c
  | recovery {c t c' : FileDisk} : AfterCrash C R s₀ mayStop c →
      Prog.Passes (Steps noFail) (recoverPendingIdentityRotation C) c t → mayStop c t →
        t.Crash .torn c' → AfterCrash C R s₀ mayStop c'

/-- A disk a rotation may start from. -/
structure RotationStart (C : Custody Key) (R : RotationRequest Key) (s : FileDisk) where
  (identity recordDir : ℕ)
  (oldText nostrText : Bytes)
  (oldKey nostrKey : Key)
  synced : s.unsynced = []
  identity_ne : identity ≠ dataDir
  identityThere : s.view ⟨dataDir, .identity⟩ = some (.dir identity true)
  nodeSeed : s.view ⟨identity, .nodeSeed⟩ = some (.file oldText true)
  loadOld : C.loadSigningKey oldText = .ok oldKey
  nostrSeed : s.view ⟨identity, .nostrPublicationSeed⟩ = some (.file nostrText true)
  loadNostr : C.loadSigningKey nostrText = .ok nostrKey
  noJournal : s.view ⟨identity, .rotationJournal⟩ = none
  noNext : s.view ⟨identity, .rotationNextSeed⟩ = none
  noPrevious : s.view ⟨identity, .rotationPreviousSeed⟩ = none
  noRestore : s.view ⟨dataDir, .restoreJournal⟩ = none
  orphans : ∀ name : FileName, name.isRestoreStagingName = true → NoneOrDir (s.view ⟨dataDir, name⟩)
  recordDirThere : ResolvesThrough (Kept identity ⟨recordDir, R.continuityRecordPath.name⟩) s.view
    R.continuityRecordPath.base R.continuityRecordPath.dirs recordDir
  recordApart : (⟨recordDir, R.continuityRecordPath.name⟩ : FilePlace) ∉
    [⟨identity, .nodeSeed⟩, ⟨identity, .nostrPublicationSeed⟩, ⟨identity, .rotationJournal⟩,
      ⟨identity, .rotationNextSeed⟩, ⟨identity, .rotationPreviousSeed⟩, ⟨dataDir, .identity⟩,
      ⟨dataDir, .restoreJournal⟩]
  recordNamed : ∀ of label token, R.continuityRecordPath.name ≠ .sibling of label token
  recordClear : recordDir = dataDir → R.continuityRecordPath.name.isRestoreStagingName = false
    ∧ ∀ token,
      (FileName.sibling R.continuityRecordPath.name .tmp token).isRestoreStagingName = false

namespace RotationStart

variable {C : Custody Key} {s₀ : FileDisk}
  (X : RotationStart C R s₀)

def journal : IdentityRotationJournal :=
  match rotationJournalOf C R X.oldKey X.nostrKey with
  | .ok journal => journal
  | .error _ => ⟨"", R.continuityRecordPath, "", default⟩

def journalText : Bytes := (C.rotationJournalText X.journal).toOption.getD []

def recordText : Bytes := (C.continuityRecordText X.journal.continuityRecord).toOption.getD []

def recordPlace : FilePlace := ⟨X.recordDir, R.continuityRecordPath.name⟩

def place : Role → FilePlace
  | .node => ⟨X.identity, .nodeSeed⟩
  | .journal => ⟨X.identity, .rotationJournal⟩
  | .next => ⟨X.identity, .rotationNextSeed⟩
  | .previous => ⟨X.identity, .rotationPreviousSeed⟩
  | .record => X.recordPlace

def value : Role → Bool → Option FileNode
  | .node, true => some (.file (C.seedText R.newKey) true)
  | .node, false => some (.file X.oldText true)
  | .journal, true => some (.file X.journalText true)
  | .next, true => some (.file (C.seedText R.newKey) true)
  | .previous, true => some (.file X.oldText true)
  | .record, true => some (.file X.recordText true)
  | .record, false => s₀.view X.recordPlace
  | _, false => none

structure Written : Prop where
  journal : rotationJournalOf C R X.oldKey X.nostrKey = .ok X.journal
  text : C.rotationJournalText X.journal = .ok X.journalText
  path : validateRotationRecordPath R.continuityRecordPath = .ok ()
  noRecord : s₀.view X.recordPlace = none

/-- What the rotation writes can be read back: its seed, and its journal and continuity
record within the lengths that the reader accepts. -/
structure ReadsBack : Prop where
  seed : C.loadSigningKey (C.seedText R.newKey) = .ok R.newKey
  journal : X.Written → C.readRotationJournalText X.journalText = some X.journal
    ∧ X.journalText.length ≤ maxRotationJournalBytes
  record : X.Written → X.recordText.length ≤ maxBackupBytes

/-- What a view shows of the rotation. -/
structure Shape (f : FileView) (b : Bits) : Prop where
  value : ∀ r, f (X.place r) = X.value r (b.get r)
  kept : ∀ p, Kept X.identity X.recordPlace p → f p = s₀.view p
  orphans : ∀ name : FileName, name.isRestoreStagingName = true → NoneOrDir (f ⟨dataDir, name⟩)
  written : b.journal = true ∨ b.record = true → X.Written

/-- What is known of a disk: the bits it shows, and those a crash may leave. -/
structure Tracks (s : FileDisk) (w : Bits) (F : List Bits) : Prop where
  view : X.Shape s.view w
  may : ∀ f, s.May .torn f → ∃ b ∈ F, X.Shape f b

/-- A disk whose bits no crash changes. -/
abbrev Shows (s : FileDisk) (b : Bits) : Prop := X.Tracks s b [b]

theorem place_injective {r q : Role} (h : X.place r = X.place q) : r = q := by
  have hapart := X.recordApart
  simp only [mem_cons, not_or] at hapart
  cases r <;> cases q <;> simp_all [place, recordPlace]

theorem not_kept_place (r : Role) : ¬ Kept X.identity X.recordPlace (X.place r) := by
  rintro ⟨hnode, hjournal, hnext, hprevious, hrecord, _⟩
  cases r <;> contradiction

theorem place_ne_staging {name : FileName} (hname : name.isRestoreStagingName = true) (r : Role) :
    X.place r ≠ ⟨dataDir, name⟩ := by
  intro heq
  have hdir : (X.place r).dir = dataDir := by rw [heq]
  cases r with
  | record =>
    have hclear := (X.recordClear hdir).1
    rw [show R.continuityRecordPath.name = name from congrArg Place.name heq, hname] at hclear
    cases hclear
  | node => exact X.identity_ne hdir
  | journal => exact X.identity_ne hdir
  | next => exact X.identity_ne hdir
  | previous => exact X.identity_ne hdir

theorem place_ne_sibling {p : FilePlace} {of : FileName} {label : SiblingLabel} {token : ℕ}
    (hp : p.name = .sibling of label token) (r : Role) : X.place r ≠ p := by
  rintro rfl
  cases r with
  | record => exact X.recordNamed of label token hp
  | _ => cases hp

/-! ## Changes -/

variable {X} {f : FileView} {b : Bits}

theorem Shape.update (h : X.Shape f b) (r : Role) (v : Bool)
    (hwritten : (r = .journal ∨ r = .record) → v = true → X.Written) :
    X.Shape (update f (X.place r) (X.value r v)) (b.set r v) where
  value q := by
    rw [Bits.get_set]
    by_cases hq : q = r
    · subst hq
      rw [update_self, if_pos rfl]
    · rw [update_of_ne (fun heq => hq (X.place_injective heq)), if_neg hq]
      exact h.value q
  kept p hp := by
    have hne : p ≠ X.place r := fun heq => X.not_kept_place r (heq ▸ hp)
    rw [update_of_ne hne]
    exact h.kept p hp
  orphans name hname := by
    rw [update_of_ne (X.place_ne_staging hname r).symm]
    exact h.orphans name hname
  written hset := by
    by_cases hr : (r = .journal ∨ r = .record) ∧ v = true
    · exact hwritten hr.1 hr.2
    · refine h.written ?_
      cases r <;> cases v <;> simp_all [Bits.set]

theorem Shape.update_other (h : X.Shape f b) {p : FilePlace}
    (hrole : ∀ r, X.place r ≠ p) (hkept : ¬ Kept X.identity X.recordPlace p)
    (hstaging : p.dir = dataDir → p.name.isRestoreStagingName = true → NoneOrDir node) :
    X.Shape (Function.update f p node) b where
  value r := by rw [update_of_ne (hrole r)]; exact h.value r
  kept q hq := by
    have hne : q ≠ p := fun heq => hkept (heq ▸ hq)
    rw [update_of_ne hne]
    exact h.kept q hq
  orphans name hname := by
    by_cases heq : (⟨dataDir, name⟩ : FilePlace) = p
    · subst heq
      rw [update_self]
      exact hstaging rfl hname
    · rw [update_of_ne heq]
      exact h.orphans name hname
  written := h.written

theorem Tracks.mono {s : FileDisk} {w : Bits} {F G : List Bits} (h : X.Tracks s w F)
    (hsub : ∀ b ∈ F, b ∈ G) : X.Tracks s w G where
  view := h.view
  may f hf := (h.may f hf).imp fun b hb => ⟨hsub b hb.1, hb.2⟩

variable {s : FileDisk} {w : Bits} {F : List Bits}

theorem Tracks.change (h : X.Tracks s w F) {p : FilePlace} {act : Bits → Bits}
    (hact : ∀ f b, X.Shape f b → X.Shape (update f p node) (act b)) :
    X.Tracks (s.change [⟨p, node⟩]) (act w) (F ++ F.map act) where
  view := by
    rw [Disk.view_change_singleton]
    exact hact _ _ h.view
  may f hf := by
    rcases hf.of_change_singleton with hsame | ⟨g, hg, rfl⟩
    · obtain ⟨b, hb, hshape⟩ := h.may f hsame
      exact ⟨b, mem_append_left _ hb, hshape⟩
    · obtain ⟨b, hb, hshape⟩ := h.may g hg
      exact ⟨act b, mem_append_right _ (mem_map_of_mem hb), hact _ _ hshape⟩

theorem Tracks.set (h : X.Tracks s w F) (r : Role) (v : Bool)
    (hwritten : (r = .journal ∨ r = .record) → v = true → X.Written) :
    X.Tracks (s.change [⟨X.place r, X.value r v⟩]) (w.set r v) (F ++ F.map (·.set r v)) :=
  h.change fun _ _ hshape => hshape.update r v hwritten

theorem Tracks.change_other (h : X.Tracks s w F) {p : FilePlace}
    (hrole : ∀ r, X.place r ≠ p) (hkept : ¬ Kept X.identity X.recordPlace p)
    (hstaging : p.dir = dataDir → p.name.isRestoreStagingName = true → NoneOrDir node) :
    X.Tracks (s.change [⟨p, node⟩]) w F := by
  have hchange : X.Tracks (s.change [⟨p, node⟩]) (id w) (F ++ F.map id) :=
    h.change fun _ _ hshape => hshape.update_other hrole hkept hstaging
  exact hchange.mono fun b hb => by simpa using hb

/-- The rename of the next seed may be torn: a crash may keep either of its two
changes without the other. -/
theorem Tracks.activate (h : X.Tracks s w F) :
    X.Tracks (s.change [⟨X.place .node, X.value .node true⟩, ⟨X.place .next, X.value .next false⟩])
      ((w.set .next false).set .node true)
      (F ++ F.map (·.set .next false) ++ F.map (·.set .node true)
        ++ F.map (fun b => (b.set .next false).set .node true)) where
  view := by
    rw [Disk.view_change_pair]
    exact (h.view.update .next false (by rintro (h | h) <;> cases h)).update .node true
      (by rintro (h | h) <;> cases h)
  may f hf := by
    have hne : X.place .node ≠ X.place .next := fun heq => by cases X.place_injective heq
    obtain ⟨K, g, _, hg, rfl⟩ := hf.of_change_pair hne
    obtain ⟨b, hb, hshape⟩ := h.may g hg
    have hnext := hshape.update .next false (by rintro (h | h) <;> cases h)
    have hnode := hshape.update .node true (by rintro (h | h) <;> cases h)
    have hboth := hnext.update .node true (by rintro (h | h) <;> cases h)
    simp only [mem_append, mem_map]
    cases K (X.place .node) <;> cases K (X.place .next)
    · exact ⟨b, .inl (.inl (.inl hb)), hshape⟩
    · exact ⟨_, .inl (.inl (.inr ⟨b, hb, rfl⟩)), hnext⟩
    · exact ⟨_, .inl (.inr ⟨b, hb, rfl⟩), hnode⟩
    · exact ⟨_, .inr ⟨b, hb, rfl⟩, hboth⟩

theorem Shape.of_values (h : X.Shape f b) {b' : Bits}
    (hvalue : ∀ r, f (X.place r) = X.value r (b'.get r))
    (hwritten : b'.journal = true ∨ b'.record = true → X.Written) : X.Shape f b' :=
  ⟨hvalue, h.kept, h.orphans, hwritten⟩

theorem Tracks.sync (h : X.Tracks s w F) (d : ℕ) : X.Tracks (s.sync d) w F where
  view := by rw [Disk.view_sync]; exact h.view
  may f hf := h.may f hf.of_sync.1

theorem Tracks.sync_identity (h : X.Tracks s w F) :
    X.Tracks (s.sync X.identity) w (w :: F.map (fun b => w.set .record b.record)) where
  view := (h.sync X.identity).view
  may f hf := by
    obtain ⟨hmay, hsame⟩ := hf.of_sync
    obtain ⟨b, hb, hshape⟩ := h.may f hmay
    have hagree : ∀ r, (X.place r).dir = X.identity → f (X.place r) = X.value r (w.get r) :=
      fun r hr => (hsame _ hr).trans (h.view.value r)
    by_cases hdir : X.recordDir = X.identity
    · refine ⟨w, mem_cons_self, hshape.of_values (fun r => hagree r ?_) h.view.written⟩
      cases r <;> first | rfl | exact hdir
    · refine ⟨_, mem_cons_of_mem _ (mem_map_of_mem hb),
        hshape.of_values (fun r => ?_) fun hset => ?_⟩
      · cases r with
        | record => exact hshape.value .record
        | _ => exact hagree _ rfl
      · rcases hset with hjournal | hrecord
        · exact h.view.written (.inl hjournal)
        · exact hshape.written (.inr hrecord)

theorem Tracks.sync_record (h : X.Tracks s w F) :
    X.Tracks (s.sync X.recordDir) w (w :: F.map (·.set .record w.record)) where
  view := (h.sync X.recordDir).view
  may f hf := by
    obtain ⟨hmay, hsame⟩ := hf.of_sync
    obtain ⟨b, hb, hshape⟩ := h.may f hmay
    have hagree : ∀ r, (X.place r).dir = X.recordDir → f (X.place r) = X.value r (w.get r) :=
      fun r hr => (hsame _ hr).trans (h.view.value r)
    by_cases hdir : X.recordDir = X.identity
    · refine ⟨w, mem_cons_self, hshape.of_values (fun r => hagree r ?_) h.view.written⟩
      cases r <;> first | rfl | exact hdir.symm
    · refine ⟨_, mem_cons_of_mem _ (mem_map_of_mem hb),
        hshape.of_values (fun r => ?_) fun hset => ?_⟩
      · cases r with
        | record => exact hagree .record rfl
        | _ => exact hshape.value _
      · rcases hset with hjournal | hrecord
        · exact hshape.written (.inl hjournal)
        · exact h.view.written (.inr hrecord)

/-! ## Paths -/

theorem kept_identity : Kept X.identity X.recordPlace ⟨dataDir, .identity⟩ := by
  have hapart := X.recordApart
  simp only [mem_cons, not_or] at hapart
  have hdir : ∀ name, (⟨dataDir, .identity⟩ : FilePlace) ≠ ⟨X.identity, name⟩ := fun _ heq =>
    X.identity_ne (congrArg Place.dir heq).symm
  exact ⟨hdir _, hdir _, hdir _, hdir _, fun heq => hapart.2.2.2.2.2.1 heq.symm, nofun,
    fun hstaging => absurd hstaging.2 (by decide)⟩

theorem kept_restoreJournal : Kept X.identity X.recordPlace ⟨dataDir, .restoreJournal⟩ := by
  have hapart := X.recordApart
  simp only [mem_cons, not_or] at hapart
  have hdir : ∀ name, (⟨dataDir, .restoreJournal⟩ : FilePlace) ≠ ⟨X.identity, name⟩ := fun _ heq =>
    X.identity_ne (congrArg Place.dir heq).symm
  exact ⟨hdir _, hdir _, hdir _, hdir _, fun heq => hapart.2.2.2.2.2.2.1 heq.symm, nofun,
    fun hstaging => absurd hstaging.2 (by decide)⟩

theorem kept_nostrSeed : Kept X.identity X.recordPlace ⟨X.identity, .nostrPublicationSeed⟩ := by
  have hapart := X.recordApart
  simp only [mem_cons, not_or] at hapart
  exact ⟨nofun, nofun, nofun, nofun, fun heq => hapart.2.1 heq.symm, nofun,
    fun hstaging => X.identity_ne hstaging.1⟩

section

variable (h : X.Shape f b)
include h

theorem Shape.resolve_identity : resolve f dataDir [.identity] = .ok X.identity := by
  rw [resolve, h.kept _ kept_identity, X.identityThere]
  rfl

theorem Shape.resolve_record :
    resolve f R.continuityRecordPath.base R.continuityRecordPath.dirs = .ok X.recordDir :=
  X.recordDirThere.resolve h.kept

theorem Shape.place_path (r : Role) : (R.path r).place f = .ok (X.place r) := by
  cases r with
  | record => exact place_of_resolve h.resolve_record
  | _ => exact place_of_resolve h.resolve_identity

theorem Shape.place_nostr :
    nostrPublicationSeedPath.place f = .ok ⟨X.identity, .nostrPublicationSeed⟩ :=
  place_of_resolve h.resolve_identity

theorem Shape.nostrSeed : f ⟨X.identity, .nostrPublicationSeed⟩ = some (.file X.nostrText true) :=
  (h.kept _ kept_nostrSeed).trans X.nostrSeed

end

/-! ## The journal -/

structure JournalFacts : Prop where
  check : checkRotationJournal C X.journal = .ok ()
  path : X.journal.continuityRecordPath = R.continuityRecordPath
  record : recordBytes C X.journal.continuityRecord = .ok X.recordText
  oldId : X.journal.continuityRecord.payload.oldNodeId = C.publicKeyHex X.oldKey
  newId : X.journal.continuityRecord.payload.newNodeId = C.publicKeyHex R.newKey
  nostrId : X.journal.continuityRecord.payload.nostrPublicationId = C.publicKeyHex X.nostrKey
  ids_ne : C.publicKeyHex X.oldKey ≠ C.publicKeyHex R.newKey

theorem Written.facts (h : X.Written) : X.JournalFacts := by
  obtain ⟨record, text, hsigned, htext, hjournal⟩ := rotationJournalOf_eq_ok h.journal
  have hrecord : X.journal.continuityRecord = record := by rw [hjournal]
  obtain ⟨hverify, hold, hnew, hnostr⟩ := signContinuityRecord_eq_ok hsigned
  have hrecordText : X.recordText = text := by
    rw [recordText, hrecord, mapError_eq_ok.mp htext]
    rfl
  exact {
    check := by
      unfold checkRotationJournal
      simp only [↓check_eq_ok, bind_eq_ok, rejectIf_eq_ok]
      exact ⟨by simp [hjournal], hrecord ▸ hverify, text, hrecord ▸ htext, by simp [hjournal]⟩
    path := by rw [hjournal]
    record := by rw [hrecord, hrecordText, htext]
    oldId := hrecord ▸ hold
    newId := hrecord ▸ hnew
    nostrId := hrecord ▸ hnostr
    ids_ne := hold ▸ hnew ▸ ids_ne_of_verifyContinuityRecord hverify }

theorem JournalFacts.checkSide_next (h : X.JournalFacts) (x : Bool) :
    checkSide "next" (if x then some (C.publicKeyHex R.newKey) else none)
      X.journal.continuityRecord.payload.newNodeId = .ok () := by
  cases x <;> simp [checkSide, h.newId, rejectIf]

theorem JournalFacts.checkSide_previous (h : X.JournalFacts) (p : Bool) :
    checkSide "previous" (if p then some (C.publicKeyHex X.oldKey) else none)
      X.journal.continuityRecord.payload.oldNodeId = .ok () := by
  cases p <;> simp [checkSide, h.oldId, rejectIf]

theorem JournalFacts.pendingRotation_eq (h : X.JournalFacts) (hpending : (n || p) = true) :
    pendingRotation X.journal.continuityRecord.payload
        (some (C.publicKeyHex (if n then R.newKey else X.oldKey)))
        (if x then some (C.publicKeyHex R.newKey) else none)
        (if p then some (C.publicKeyHex X.oldKey) else none)
      = .ok (if n then .activated else if x then .activate else .rollBack false) := by
  cases n with
  | true => simp [pendingRotation, h.newId]
  | false =>
    obtain rfl : p = true := hpending
    cases x <;> simp [pendingRotation, h.newId, h.oldId, h.ids_ne]

/-! ## The programs -/

section Programs

variable {inv : FileDisk → Prop} {E : CustodyError → FileDisk → Prop} {label : String}

theorem Tracks.reads_seed (h : X.Tracks s w F) (r : Role) {key : Key}
    (hvalue : X.value r (w.get r) = some (.file text true))
    (hkey : C.loadSigningKey text = .ok key) :
    Reads noFail (optionalSeedIdentity C (R.path r) label) s (some (C.publicKeyHex key)) :=
  reads_optionalSeedIdentity (h.view.place_path r) ((h.view.value r).trans hvalue) hkey

theorem Tracks.lookup (h : X.Tracks s w F) (r : Role) :
    s.lookup (R.path r) = .ok (X.value r (w.get r)) := by
  rw [Disk.lookup_of_place (h.view.place_path r), h.view.value]

theorem Tracks.reads_node (hC : X.ReadsBack) (h : X.Tracks s w F) :
    Reads noFail (optionalSeedIdentity C nodeSeedPath label) s
      (some (C.publicKeyHex (if w.node then R.newKey else X.oldKey))) := by
  cases hnode : w.node with
  | true => exact h.reads_seed .node (by rw [Bits.get, hnode]; rfl) hC.seed
  | false => exact h.reads_seed .node (by rw [Bits.get, hnode]; rfl) X.loadOld

theorem Tracks.reads_next (hC : X.ReadsBack) (h : X.Tracks s w F) :
    Reads noFail (optionalSeedIdentity C rotationNextSeedPath label) s
      (if w.next then some (C.publicKeyHex R.newKey) else none) := by
  cases hnext : w.next with
  | true => exact h.reads_seed .next (by rw [Bits.get, hnext]; rfl) hC.seed
  | false =>
    exact reads_optionalSeedIdentity_none ((h.lookup .next).trans (by rw [Bits.get, hnext]; rfl))

section

variable (h : X.Tracks s w F)
include h

theorem Tracks.reads_previous :
    Reads noFail (optionalSeedIdentity C rotationPreviousSeedPath label) s
      (if w.previous then some (C.publicKeyHex X.oldKey) else none) := by
  cases hprevious : w.previous with
  | true => exact h.reads_seed .previous (by rw [Bits.get, hprevious]; rfl) X.loadOld
  | false =>
    exact reads_optionalSeedIdentity_none
      ((h.lookup .previous).trans (by rw [Bits.get, hprevious]; rfl))

theorem ensures_remove {r : Role} (hr : r = .journal ∨ r = .next ∨ r = .previous) (hinv : inv s)
    (hQ : ∀ t, X.Tracks t (w.set r false) (F ++ F.map (·.set r false)) → Q () t) :
    (removeFileIfExists C (R.path r)).Ensures (Steps noFail) inv Q E s := by
  have hnone : X.value r false = none := by rcases hr with rfl | rfl | rfl <;> rfl
  cases hthere : w.get r with
  | true =>
    obtain ⟨text, hfile⟩ : ∃ text, X.value r true = some (.file text true) := by
      rcases hr with rfl | rfl | rfl <;> exact ⟨_, rfl⟩
    refine ensures_removeFileIfExists (h.view.place_path r)
      ((h.view.value r).trans (hthere ▸ hfile)) hinv (hQ _ ?_) noFault
    rw [← hnone]
    exact h.set r false fun _ => nofun
  | false =>
    refine reads_removeFileIfExists ((h.lookup r).trans (by rw [hthere, hnone])) inv Q E hinv
      (hQ s ?_) noFault
    have hsame : w.set r false = w := Bits.ext_get fun q => by
      rw [Bits.get_set]
      split
      · next heq => rw [heq, hthere]
      · rfl
    rw [hsame]
    exact h.mono fun b hb => mem_append_left _ hb

theorem ensures_syncIdentityDir (hinv : inv s)
    (hQ : ∀ t, X.Tracks t w (w :: F.map (fun b => w.set .record b.record)) → Q () t) :
    (syncIdentityDir C).Ensures (Steps noFail) inv Q E s :=
  ensures_syncDirectory h.view.resolve_identity hinv (hQ _ h.sync_identity) noFault

theorem Tracks.change_tmp (r : Role) (token : ℕ) (node : Option FileNode) :
    X.Tracks (s.change [⟨tmpPlace (R.path r) (X.place r).dir token, node⟩]) w F := by
  refine h.change_other (X.place_ne_sibling rfl) (fun hkept => hkept.2.2.2.2.2.1 _ _ _ rfl)
    fun hdir hname => ?_
  cases r with
  | record => exact absurd (hname.symm.trans ((X.recordClear hdir).2 token)) (by decide)
  | _ => exact absurd hdir X.identity_ne

/-- A new file of the rotation. -/
theorem ensures_writeNew {r : Role}
    (hnone : X.value r (w.get r) = none) (hvalue : X.value r true = some (.file text true))
    (hwritten : (r = .journal ∨ r = .record) → X.Written) (hinv : ∀ t, X.Tracks t w F → inv t)
    (hinv' : ∀ t, X.Tracks t (w.set r true) (F ++ F.map (·.set r true)) → inv t)
    (hQ : ∀ t, X.Tracks t (w.set r true) (F ++ F.map (·.set r true)) →
      Q () (t.sync (X.place r).dir)) :
    (atomicWriteNew C (R.path r) text).Ensures (Steps noFail) inv Q E s := by
  have hplace : X.place r = ⟨(X.place r).dir, (R.path r).name⟩ := by cases r <;> rfl
  have hresolve : resolve s.view (R.path r).base (R.path r).dirs = .ok (X.place r).dir := by
    cases r with
    | record => exact h.view.resolve_record
    | _ => exact h.view.resolve_identity
  refine ensures_atomicWriteNew (I := fun t => X.Tracks t w F)
    (J := fun t => X.Tracks t (w.set r true) (F ++ F.map (·.set r true))) hresolve ?_ h
    (fun t token node ht => ht.change_tmp r token node)
    (fun t token node ht => ht.change_tmp r token node) (fun t ht _ => ?_) hinv hinv'
    (fun _ _ => noFault) (fun _ _ => noFault)
    fun t ht _ => hQ t ht
  · rw [← hplace, h.view.value, hnone]
  · rw [← hplace, ← hvalue]
    exact ht.set r true fun hr _ => hwritten hr

end

section

variable (hC : X.ReadsBack) (h : X.Tracks s w F)
include hC h

theorem ensures_ensureContinuityRecord (hwritten : X.Written) (hinv : ∀ t, X.Tracks t w F → inv t)
    (hinv' : ∀ t, X.Tracks t (w.set .record true) (F ++ F.map (·.set .record true)) → inv t)
    (hQ : ∀ t, X.Tracks t (w.set .record true)
      (w.set .record true :: F.map (·.set .record true)) → Q () t) :
    (ensureContinuityRecord C X.journal).Ensures (Steps noFail) inv Q E s := by
  have hfacts := hwritten.facts
  unfold ensureContinuityRecord
  rw [hfacts.path]
  refine (Reads.ofExcept hfacts.record).andThen (hinv s h) noFault ?_
  refine (reads_pathEntryExists (h.lookup .record)).andThen (hinv s h) noFault ?_
  cases hrecord : w.record with
  | true =>
    have hvalue : X.value .record (w.get .record) = some (.file X.recordText true) := by
      rw [Bits.get, hrecord]
      rfl
    have hfile := (h.view.value .record).trans hvalue
    rw [hvalue, if_pos (by rfl)]
    refine (reads_rejectSymlink_file (h.view.place_path .record) hfile).andThen (hinv s h)
      noFault ?_
    refine (reads_readLimited (h.view.place_path .record) hfile (hC.record hwritten)).andThen
      (hinv s h) noFault ?_
    rw [if_pos rfl]
    refine ensures_syncDirectory h.view.resolve_record (hinv s h) (hQ _ ?_) noFault
    have hsame : w.set .record true = w := by rw [← hrecord]; rfl
    rw [hsame, ← hrecord]
    exact h.sync_record
  | false =>
    have hnone : X.value .record (w.get .record) = none := by
      rw [Bits.get, hrecord]
      exact hwritten.noRecord
    rw [hnone]
    refine ensures_bind.mpr (Prog.ensures_attempt.mpr ?_)
    refine ensures_writeNew (r := .record) h hnone rfl (fun _ => hwritten) hinv hinv' fun t ht => ?_
    refine hQ _ (ht.sync_record.mono fun b hb => ?_)
    rcases mem_cons.mp hb with rfl | hmem
    · exact mem_cons_self
    · obtain ⟨b', hb', rfl⟩ := mem_map.mp hmem
      refine mem_cons_of_mem _ ?_
      rcases mem_append.mp hb' with hb' | hb'
      · exact mem_map_of_mem hb'
      · obtain ⟨b'', hb'', rfl⟩ := mem_map.mp hb'
        exact mem_map.mpr ⟨b'', hb'', rfl⟩

theorem ensures_removeContinuityRecordIfOwned
    (hwritten : X.Written) (hinv : ∀ t, X.Tracks t w F → inv t)
    (hinv' : ∀ t, X.Tracks t (w.set .record false) (F ++ F.map (·.set .record false)) → inv t)
    (hQ : ∀ t, X.Tracks t (w.set .record false)
        (w.set .record false :: F ++ F.map (·.set .record false))
      → Q () t) : (removeContinuityRecordIfOwned C X.journal).Ensures (Steps noFail) inv Q E s := by
  have hfacts := hwritten.facts
  unfold removeContinuityRecordIfOwned
  rw [hfacts.path]
  refine (reads_pathEntryExists (h.lookup .record)).andThen (hinv s h) noFault ?_
  cases hrecord : w.record with
  | true =>
    have hvalue : X.value .record (w.get .record) = some (.file X.recordText true) := by
      rw [Bits.get, hrecord]
      rfl
    have hfile := (h.view.value .record).trans hvalue
    rw [hvalue, if_pos (by rfl)]
    refine (reads_rejectSymlink_file (h.view.place_path .record) hfile).andThen (hinv s h)
      noFault ?_
    refine (Reads.ofExcept hfacts.record).andThen (hinv s h) noFault ?_
    refine (reads_readLimited (h.view.place_path .record) hfile (hC.record hwritten)).andThen
      (hinv s h) noFault ?_
    rw [if_pos rfl]
    have hremoved : X.Tracks (s.change [⟨X.place .record, none⟩]) (w.set .record false)
        (F ++ F.map (·.set .record false)) := by
      rw [← hwritten.noRecord]
      exact h.set .record false fun _ => nofun
    refine ensures_bind.mpr (ensures_orIo_of (fun R => ensures_removeFile
      (h.view.place_path .record) hfile (hinv s h)) ?_ noFault)
    refine ensures_syncDirectory hremoved.view.resolve_record (hinv' _ hremoved) (hQ _ ?_) noFault
    exact (hremoved.sync _).mono fun b hb => mem_cons_of_mem _ hb
  | false =>
    have hnone : X.value .record (w.get .record) = none := by
      rw [Bits.get, hrecord]
      exact hwritten.noRecord
    rw [hnone]
    refine hQ s ?_
    have hsame : w.set .record false = w := by rw [← hrecord]; rfl
    rw [hsame]
    exact h.mono fun b hb => mem_cons_of_mem _ (mem_append_left _ hb)

theorem reads_readRotationJournal (hjournal : w.journal = true) :
    Reads noFail (readRotationJournal C rotationJournalPath) s X.journal := by
  have hwritten := h.view.written (.inl hjournal)
  have hfile : s.view (X.place .journal) = some (.file X.journalText true) :=
    (h.view.value .journal).trans (by rw [Bits.get, hjournal]; rfl)
  obtain ⟨hread, hlength⟩ := hC.journal hwritten
  refine (reads_rejectSymlink_file (h.view.place_path .journal) hfile).bind
    ((reads_openFile (Disk.node_of_place (h.view.place_path .journal) hfile)).bind
      ((Reads.pure ()).bind
        ((reads_readLimited (h.view.place_path .journal) hfile hlength).bind ?_)))
  rw [hread]
  exact (Reads.ofExcept hwritten.facts.check).bind (Reads.pure _)

end

/-- The end of a recovery: what it leaves is there for good. -/
def Settled (X : RotationStart C R s₀) (t : FileDisk) : Prop :=
  ∃ isNew w F, X.Tracks t w F ∧ w.settled isNew = true ∧ ∀ b ∈ F, b.settled isNew = true

theorem ensures_renameNext {context : String} (h : X.Tracks s w F) (hnext : w.next = true)
    (hinv : inv s) (hQ : ∀ t, X.Tracks t ((w.set .next false).set .node true)
      (F ++ F.map (·.set .next false) ++ F.map (·.set .node true)
        ++ F.map (fun b => (b.set .next false).set .node true)) → Q () t) :
    (orIo C context (rename rotationNextSeedPath nodeSeedPath)).Ensures (Steps noFail) inv Q E
      s := by
  have hfile : s.view (X.place .next) = some (.file (C.seedText R.newKey) true) :=
    (h.view.value .next).trans (by rw [Bits.get, hnext]; rfl)
  have hover : ∃ old p, s.view (X.place .node) = some (.file old p) := by
    rw [h.view.value]
    cases w.get .node <;> exact ⟨_, _, rfl⟩
  exact ensures_orIo_of (fun _ => ensures_rename_file (h.view.place_path .next) hfile
    (h.view.place_path .node) (.inr hover) hinv) (hQ _ h.activate) noFault

theorem Tracks.reads_requireNode (hC : X.ReadsBack) (h : X.Tracks s w F) {expectedId : String}
    (hid : C.publicKeyHex (if w.node then R.newKey else X.oldKey) = expectedId) :
    Reads noFail (requireSeedIdentity C nodeSeedPath expectedId label) s () := by
  refine (h.reads_node hC).bind ?_
  dsimp only
  rw [if_pos hid]
  exact Reads.pure ()

theorem reads_cleanupUnjournaledRotationFiles (hC : X.ReadsBack) {r : Bool}
    (h : X.Tracks s ⟨n, false, false, false, r⟩ F) :
    Reads noFail (cleanupUnjournaledRotationFiles C) s () :=
  (h.reads_next hC).bind (h.reads_previous.bind (Reads.pure ()))

theorem reads_recoverPendingIdentityRotationLocked (hC : X.ReadsBack) {r : Bool}
    (h : X.Tracks s ⟨n, false, false, false, r⟩ F) :
    Reads noFail (recoverPendingIdentityRotationLocked C) s none :=
  (reads_pathEntryExists (h.lookup .journal)).bind
    ((reads_cleanupUnjournaledRotationFiles hC h).bind (Reads.pure none))

theorem ensures_recoverPendingIdentityState {Q : IdentityRecoveryReport → FileDisk → Prop}
    (h : X.Tracks s w F) (hinv : ∀ t, X.Tracks t w F → inv t)
    (hlocked : ∀ t, X.Tracks t w F → (recoverPendingIdentityRotationLocked C).Ensures (Steps noFail)
      inv (fun report => Q ⟨none, report⟩) E t) :
    (recoverPendingIdentityState C).Ensures (Steps noFail) inv Q E s := by
  have hjournal : s.lookup restoreJournalPath = .ok none := by
    have hplace : restoreJournalPath.place s.view = .ok ⟨dataDir, .restoreJournal⟩ := rfl
    rw [Disk.lookup_of_place hplace, h.view.kept _ kept_restoreJournal, X.noRestore]
  refine ensures_bind.mpr ?_
  refine (reads_pathEntryExists hjournal).andThen (hinv s h) noFault (ensures_bind.mpr ?_)
  refine ensures_cleanupUnjournaledRestoreDirectories (I := fun t => X.Tracks t w F)
    (fun t name ht hname => ht.view.orphans name hname) (fun t name ht hname => ?_) hinv
    (fun _ _ => noFault) h fun t ht => ?_
  · exact ht.change_other (X.place_ne_staging hname) (fun hkept => hkept.2.2.2.2.2.2 ⟨rfl, hname⟩)
      fun _ _ => .inl rfl
  · have ht := ht.sync dataDir
    have hidentity : (t.sync dataDir).lookup identityDir = .ok (some (.dir X.identity true)) := by
      have hplace : identityDir.place (t.sync dataDir).view = .ok ⟨dataDir, .identity⟩ := rfl
      rw [Disk.lookup_of_place hplace, ht.view.kept _ kept_identity, X.identityThere]
    refine (reads_pathEntryExists hidentity).andThen (hinv _ ht) noFault ?_
    refine (reads_requirePrivateDirectory hidentity).andThen (hinv _ ht) noFault ?_
    exact ensures_bind.mpr (hlocked _ ht)

section Recovery

variable (hinv : ∀ t w F, X.Tracks t w F → (∀ b ∈ F, b.safe = true) → inv t)
include hinv

theorem ensures_cleanupUnjournaledRotationFiles {r : Bool} (hC : X.ReadsBack)
    (h : X.Shows s ⟨n, false, x, p, r⟩) (hsafe : (Bits.mk n false x p r).safe = true)
    (hQ : ∀ t, X.Settled t → Q () t) :
    (cleanupUnjournaledRotationFiles C).Ensures (Steps noFail) inv Q E s := by
  have hstart : inv s := hinv s _ _ h (by simpa using hsafe)
  by_cases hnothing : x = false ∧ p = false
  · obtain ⟨rfl, rfl⟩ := hnothing
    have hsettled : ∀ n r : Bool, (Bits.mk n false false false r).safe = true →
        (Bits.mk n false false false r).settled n = true := by decide
    refine reads_cleanupUnjournaledRotationFiles hC h inv Q E hstart (hQ s ?_) noFault
    exact ⟨n, _, _, h, hsettled n r hsafe, by simpa using hsettled n r hsafe⟩
  · refine (h.reads_next hC).andThen hstart noFault ?_
    refine h.reads_previous.andThen hstart noFault ?_
    have hsome : ((if x then some (C.publicKeyHex R.newKey) else none).isNone
        && (if p then some (C.publicKeyHex X.oldKey) else none).isNone) = false := by
      cases x <;> cases p <;> simp_all
    rw [hsome]
    refine (h.reads_node hC).andThen hstart noFault ?_
    -- a canonical seed is always there, and a previous one is the same
    have hsame : ((if p then some (C.publicKeyHex X.oldKey) else none).isSome
        && some (C.publicKeyHex (if n then R.newKey else X.oldKey))
          != (if p then some (C.publicKeyHex X.oldKey) else none)) = false := by
      cases p with
      | false => rfl
      | true =>
        have hold : ∀ n x r : Bool, (Bits.mk n false x true r).safe = true → n = false := by decide
        simp [hold n x r hsafe]
    refine ensures_bind.mpr ?_
    show Prog.Ensures _ _ (if _ = true then _ else _) _ _ s
    rw [hsame]
    have hchecks : ∀ n x p r : Bool, (Bits.mk n false x p r).safe = true →
        (∀ b ∈ [Bits.mk n false x p r, ⟨n, false, false, p, r⟩], b.safe = true)
        ∧ (∀ b ∈ [Bits.mk n false x p r, ⟨n, false, false, p, r⟩, ⟨n, false, x, false, r⟩,
          ⟨n, false, false, false, r⟩], b.safe = true)
        ∧ (Bits.mk n false false false r).settled n = true := by decide
    obtain ⟨hsafe₁, hsafe₂, hsettled⟩ := hchecks n x p r hsafe
    refine ensures_bind.mpr (ensures_remove (r := .next) h (.inr (.inl rfl)) hstart
      fun t ht => ?_)
    refine ensures_bind.mpr (ensures_remove (r := .previous) ht (.inr (.inr rfl))
      (hinv t _ _ ht hsafe₁) fun t ht => ?_)
    refine ensures_syncIdentityDir ht (hinv t _ _ ht hsafe₂) fun t ht => ?_
    exact hQ t ⟨n, _, _, ht, hsettled, fun b hb => by
      simp only [map_cons, map_nil, cons_append, nil_append, mem_cons, not_mem_nil, or_false] at hb
      rcases hb with rfl | rfl | rfl | rfl | rfl <;> exact hsettled⟩

theorem ensures_removePreviousAndJournal {α : Type} {a : α} {Q : α → FileDisk → Prop}
    (h : X.Tracks s ⟨true, true, false, p, true⟩ Bits.activated) (hQ : ∀ t, X.Settled t → Q a t) :
    (do
      removeFileIfExists C rotationPreviousSeedPath
      syncIdentityDir C
      removeFileIfExists C rotationJournalPath
      syncIdentityDir C
      return a : FileProg α).Ensures (Steps noFail) inv Q E s := by
  refine ensures_bind.mpr (ensures_remove (r := .previous) h (.inr (.inr rfl))
    (hinv s _ _ h (by decide)) fun t ht => ?_)
  have ht : X.Tracks t ⟨true, true, false, false, true⟩ Bits.activated := ht.mono (by decide)
  refine ensures_bind.mpr (ensures_syncIdentityDir ht (hinv t _ _ ht (by decide))
    fun t ht => ?_)
  have ht : X.Shows t ⟨true, true, false, false, true⟩ := ht.mono (by decide)
  refine ensures_bind.mpr (ensures_remove (r := .journal) ht (.inl rfl)
    (hinv t _ _ ht (by decide)) fun t ht => ?_)
  refine ensures_bind.mpr (ensures_syncIdentityDir ht (hinv t _ _ ht (by decide))
    fun t ht => ?_)
  exact hQ t ⟨true, _, _, ht, rfl, by decide⟩

theorem ensures_finishRotation {Q : Option IdentityRotationReport → FileDisk → Prop}
    (h : X.Tracks s ⟨true, true, x, p, true⟩ Bits.activated)
    (hQ : ∀ report t, X.Settled t → Q report t) :
    (finishRotation C X.journal).Ensures (Steps noFail) inv Q E s := by
  refine ensures_bind.mpr (ensures_remove (r := .next) h (.inr (.inl rfl))
    (hinv s _ _ h (by decide)) fun t ht => ?_)
  have ht : X.Tracks t ⟨true, true, false, p, true⟩ Bits.activated := ht.mono (by decide)
  exact ensures_removePreviousAndJournal hinv ht (hQ _)

theorem ensures_completeActivated {Q : Option IdentityRotationReport → FileDisk → Prop}
    (hC : X.ReadsBack) {r : Bool} (h : X.Shows s ⟨true, true, x, p, r⟩)
    (hQ : ∀ report t, X.Settled t → Q report t) : (do
      ensureContinuityRecord C X.journal
      finishRotation C X.journal).Ensures (Steps noFail) inv Q E s := by
  have hsafe : ∀ x p r : Bool, (Bits.mk true true x p r).safe = true := by decide
  have hactivated : ∀ x p : Bool, (Bits.mk true true x p true) ∈ Bits.activated := by decide
  refine ensures_bind.mpr (ensures_ensureContinuityRecord hC h (h.view.written (.inl rfl))
    (fun t ht => hinv t _ _ ht ?_) (fun t ht => hinv t _ _ ht ?_) fun t ht => ?_)
  · simpa using hsafe x p r
  · simpa [Bits.set] using ⟨hsafe x p r, hsafe x p true⟩
  · refine ensures_finishRotation hinv (ht.mono fun b hb => ?_) hQ
    have hb : b = ⟨true, true, x, p, true⟩ := by simpa [Bits.set] using hb
    exact hb ▸ hactivated x p

theorem ensures_completeByActivation {Q : Option IdentityRotationReport → FileDisk → Prop}
    (hC : X.ReadsBack) {r : Bool} (h : X.Shows s ⟨false, true, true, true, r⟩)
    (hQ : ∀ report t, X.Settled t → Q report t) : (do
      ensureContinuityRecord C X.journal
      activatePendingSeed C X.journal.continuityRecord.payload.newNodeId
      finishRotation C X.journal).Ensures (Steps noFail) inv Q E s := by
  have hwritten := h.view.written (.inl rfl)
  have hsafe : ∀ r : Bool, (Bits.mk false true true true r).safe = true := by decide
  refine ensures_bind.mpr (ensures_ensureContinuityRecord hC h hwritten
    (fun t ht => hinv t _ _ ht ?_) (fun t ht => hinv t _ _ ht ?_) fun t ht => ?_)
  · simpa using hsafe r
  · simpa [Bits.set] using ⟨hsafe r, hsafe true⟩
  have ht : X.Shows t ⟨false, true, true, true, true⟩ :=
    ht.mono fun b hb => by simpa [Bits.set] using hb
  refine ensures_bind.mpr (ensures_bind.mpr (ensures_renameNext ht rfl
    (hinv t _ _ ht (by decide)) fun t ht => ?_))
  refine ensures_bind.mpr (ensures_syncIdentityDir ht (hinv t _ _ ht (by decide))
    fun t ht => ?_)
  have ht : X.Tracks t ⟨true, true, false, true, true⟩ Bits.activated := ht.mono (by decide)
  refine ht.reads_requireNode hC hwritten.facts.newId.symm inv _ E (hinv t _ _ ht (by decide))
    ?_ noFault
  exact ensures_finishRotation hinv ht hQ

/-- The rollback of a rotation. -/
theorem ensures_rollbackIncompleteRotation
    (hC : X.ReadsBack) (hwindow : ∀ t w F, X.Tracks t w F → w.previous = false → inv t) {r : Bool}
    (h : X.Shows s ⟨false, true, false, true, r⟩) (hQ : ∀ t, X.Settled t → Q () t) :
    (rollbackIncompleteRotation C X.journal false).Ensures (Steps noFail) inv Q E s := by
  have hwritten := h.view.written (.inl rfl)
  have hsafe : ∀ r : Bool, (Bits.mk false true false true r).safe = true := by decide
  refine (h.reads_requireNode hC hwritten.facts.oldId.symm).andThen
    (hinv s _ _ h (by simpa using hsafe r)) noFault ?_
  refine ensures_bind.mpr (ensures_removeContinuityRecordIfOwned hC h hwritten
    (fun t ht => hinv t _ _ ht ?_) (fun t ht => hinv t _ _ ht ?_) fun t ht => ?_)
  · simpa using hsafe r
  · simpa [Bits.set] using ⟨hsafe r, hsafe false⟩
  have hlist : ∀ r : Bool, ∀ b ∈ [Bits.mk false true false true false,
        ⟨false, true, false, true, r⟩, ⟨false, true, false, true, false⟩],
      b ∈ [Bits.mk false true false true false, ⟨false, true, false, true, true⟩] := by decide
  have ht : X.Tracks t ⟨false, true, false, true, false⟩
      [⟨false, true, false, true, false⟩, ⟨false, true, false, true, true⟩] := ht.mono (hlist r)
  refine ensures_bind.mpr (ensures_remove (r := .previous) ht (.inr (.inr rfl))
    (hinv t _ _ ht (by decide)) fun t ht => ?_)
  refine ensures_bind.mpr (ensures_remove (r := .next) ht (.inr (.inl rfl))
    (hwindow t _ _ ht rfl) fun t ht => ?_)
  refine ensures_bind.mpr (ensures_syncIdentityDir ht (hwindow t _ _ ht rfl) fun t ht => ?_)
  refine ensures_bind.mpr (ensures_remove (r := .journal) ht (.inl rfl)
    (hwindow t _ _ ht rfl) fun t ht => ?_)
  refine ensures_syncIdentityDir ht (hwindow t _ _ ht rfl) fun t ht => ?_
  exact hQ t ⟨false, _, _, ht, rfl, by decide⟩

/-- A recovery comes to an end from safe bits. -/
theorem ensures_recoverPendingIdentityRotationLocked
    {Q : Option IdentityRotationReport → FileDisk → Prop} (hC : X.ReadsBack)
    (h : X.Shows s w) (hsafe : w.safe = true)
    (hwindow : w.rollsBack = true → ∀ t w F, X.Tracks t w F → w.previous = false → inv t)
    (hQ : ∀ report t, X.Settled t → Q report t) :
    (recoverPendingIdentityRotationLocked C).Ensures (Steps noFail) inv Q E s := by
  obtain ⟨n, j, x, p, r⟩ := w
  have hstart : inv s := hinv s _ _ h (by simpa using hsafe)
  refine (reads_pathEntryExists (h.lookup .journal)).andThen hstart noFault ?_
  cases j with
  | false =>
    exact ensures_bind.mpr
      (ensures_cleanupUnjournaledRotationFiles hinv hC h hsafe fun t ht => hQ _ t ht)
  | true =>
    have hwritten := h.view.written (.inl rfl)
    have hfacts := hwritten.facts
    refine (reads_readRotationJournal hC h rfl).andThen hstart noFault ?_
    refine (Reads.ofExcept (hfacts.path ▸ hwritten.path)).andThen hstart noFault ?_
    refine (reads_requireSeedIdentity h.view.place_nostr h.view.nostrSeed X.loadNostr
      hfacts.nostrId.symm).andThen hstart noFault ?_
    refine (h.reads_node hC).andThen hstart noFault ?_
    refine (h.reads_next hC).andThen hstart noFault ?_
    refine h.reads_previous.andThen hstart noFault ?_
    refine (Reads.ofExcept (hfacts.checkSide_next x)).andThen hstart noFault ?_
    refine (Reads.ofExcept (hfacts.checkSide_previous p)).andThen hstart noFault ?_
    have hpending : (n || p) = true := by simpa [Bits.safe] using hsafe
    refine (Reads.ofExcept (hfacts.pendingRotation_eq hpending)).andThen hstart noFault ?_
    cases n with
    | true => exact ensures_completeActivated hinv hC h hQ
    | false =>
      obtain rfl : p = true := hpending
      cases x with
      | true => exact ensures_completeByActivation hinv hC h hQ
      | false =>
        exact ensures_bind.mpr (ensures_rollbackIncompleteRotation hinv hC (hwindow rfl) h
          fun t ht => hQ _ t ht)

/-! ## The rotation -/

theorem ensures_installRotationJournal
    (hjournal : rotationJournalOf C R X.oldKey X.nostrKey = .ok X.journal)
    (hpath : validateRotationRecordPath R.continuityRecordPath = .ok ())
    (hnoRecord : s₀.view X.recordPlace = none)
    (h : X.Shows s ⟨false, false, true, true, false⟩)
    (hE : ∀ e, inv s → E e s)
    (hQ : ∀ t, X.Written → X.Shows t ⟨false, true, true, true, false⟩ → Q () t) :
    (installRotationJournal C rotationJournalPath X.journal).Ensures (Steps noFail) inv Q E s := by
  refine ensures_bind.mpr (ensures_ofExcept.mpr ⟨fun text htext => ?_, fun e _ => ?_⟩)
  · have htext' : C.rotationJournalText X.journal = .ok text := mapError_eq_ok.mp htext
    have hsame : X.journalText = text := by rw [journalText, htext']; rfl
    have hwritten : X.Written := ⟨hjournal, hsame ▸ htext', hpath, hnoRecord⟩
    refine ensures_bind.mpr (Prog.ensures_attempt.mpr ?_)
    refine ensures_writeNew (r := .journal) h rfl (by rw [← hsame]; rfl) (fun _ => hwritten)
      (fun t ht => hinv t _ _ ht (by decide)) (fun t ht => hinv t _ _ ht (by decide))
      fun t ht => hQ _ hwritten (ht.sync_identity.mono (by decide))
  · exact hE e (hinv s _ _ h (by decide))

/-- The files of a rotation change in an order that is safe at each step. -/
theorem ensures_performRotation (hC : X.ReadsBack)
    (hjournal : rotationJournalOf C R X.oldKey X.nostrKey = .ok X.journal)
    (hpath : validateRotationRecordPath R.continuityRecordPath = .ok ())
    (hnoRecord : s₀.view X.recordPlace = none) (h : X.Shows s .start) :
    (performRotation C R.newKey X.journal).Ensures (Steps noFail) inv (fun _ => inv)
      (fun _ => inv) s := by
  refine ensures_bind.mpr (ensures_writeNew (r := .next) h rfl rfl
    (by rintro (h | h) <;> cases h) (fun t ht => hinv t _ _ ht (by decide))
    (fun t ht => hinv t _ _ ht (by decide)) fun t ht => ?_)
  have ht : X.Shows (t.sync X.identity) ⟨false, false, true, false, false⟩ :=
    ht.sync_identity.mono (by decide)
  refine ensures_bind.mpr (ensures_orIo_of (fun _ => ensures_hardLink
    (ht.view.place_path .node) (ht.view.value .node) (ht.view.place_path .previous)
    (ht.view.value .previous) (hinv _ _ _ ht (by decide))) ?_ noFault)
  have ht := ht.set .previous true (by rintro (h | h) <;> cases h)
  refine ensures_bind.mpr (ensures_syncIdentityDir ht (hinv _ _ _ ht (by decide))
    fun t ht => ?_)
  have ht : X.Shows t ⟨false, false, true, true, false⟩ := ht.mono (by decide)
  refine ensures_bind.mpr (ensures_installRotationJournal hinv hjournal hpath hnoRecord ht
    (fun _ hinv => hinv) fun t hwritten ht => ?_)
  refine ensures_bind.mpr (ensures_ensureContinuityRecord hC ht hwritten
    (fun t ht => hinv t _ _ ht (by decide)) (fun t ht => hinv t _ _ ht (by decide)) fun t ht => ?_)
  have ht : X.Shows t ⟨false, true, true, true, true⟩ := ht.mono (by decide)
  refine ensures_bind.mpr (ensures_renameNext ht rfl (hinv t _ _ ht (by decide))
    fun t ht => ?_)
  refine ensures_bind.mpr (ensures_syncIdentityDir ht (hinv t _ _ ht (by decide))
    fun t ht => ?_)
  have ht : X.Tracks t ⟨true, true, false, true, true⟩ Bits.activated := ht.mono (by decide)
  refine (ht.reads_requireNode hC hwritten.facts.newId.symm).andThen (hinv t _ _ ht (by decide))
    noFault ?_
  refine ensures_removePreviousAndJournal hinv ht fun t ht => ?_
  obtain ⟨isNew, w, F, ht, _, hF⟩ := ht
  exact hinv t w F ht fun b hb => Bits.safe_of_settled b isNew (hF b hb)

theorem ensures_rotateNodeIdentity (hC : X.ReadsBack) (h : X.Shows s .start) :
    (rotateNodeIdentity C R).Ensures (Steps noFail) inv (fun _ => inv) (fun _ => inv) s := by
  have hinv' : ∀ t, X.Shows t .start → inv t := fun t ht => hinv t _ _ ht (by decide)
  unfold rotateNodeIdentity
  split
  · exact hinv' s h
  refine ensures_bind.mpr (ensures_recoverPendingIdentityState h hinv' fun t ht => ?_)
  refine reads_recoverPendingIdentityRotationLocked hC ht inv _ _ (hinv' t ht) ?_ noFault
  refine ensures_bind.mpr (ensures_ofExcept.mpr ⟨fun _ _ => ?_, fun _ _ => hinv' t ht⟩)
  have hfile : t.view (X.place .node) = some (.file X.oldText true) := ht.view.value .node
  refine (reads_rejectSymlink_file (ht.view.place_path .node) hfile).andThen (hinv' t ht) noFault ?_
  refine (reads_loadSigningKey (ht.view.place_path .node) hfile X.loadOld).andThen (hinv' t ht)
    noFault ?_
  refine (reads_loadSigningKey ht.view.place_nostr ht.view.nostrSeed X.loadNostr).andThen
    (hinv' t ht) noFault ?_
  refine ensures_bind.mpr (ensures_ofExcept.mpr ⟨fun _ _ => ?_, fun _ _ => hinv' t ht⟩)
  refine ensures_bind.mpr
    (ensures_ofExcept.mpr ⟨fun journal hjournal => ?_, fun _ _ => hinv' t ht⟩)
  obtain rfl : X.journal = journal := by rw [RotationStart.journal, hjournal]
  refine ensures_bind.mpr
    (ensures_ofExcept.mpr ⟨fun _ hpath => ?_, fun _ _ => hinv' t ht⟩)
  have hlookup : t.lookup R.continuityRecordPath = .ok (s₀.view X.recordPlace) := ht.lookup .record
  refine (reads_pathEntryExists hlookup).andThen (hinv' t ht) noFault ?_
  cases hrecord : s₀.view X.recordPlace with
  | some node => exact hinv' t ht
  | none => exact ensures_performRotation hinv hC hjournal hpath hrecord ht

end Recovery

end Programs

/-! ## Crashes -/

section Crashes

variable (X)

def CrashSafe (t : FileDisk) : Prop := ∃ w F, X.Tracks t w F ∧ ∀ b ∈ F, b.safe = true

def RollsBack (c : FileDisk) : Prop :=
  c.view (X.place .journal) ≠ none ∧ c.view (X.place .next) = none
    ∧ c.view (X.place .node) = some (.file X.oldText true)

def StopsBeforeRemoval (c t : FileDisk) : Prop := X.RollsBack c → t.view (X.place .previous) ≠ none

/-- What a recovery leaves: one canonical seed, the new one only with its
continuity record, the Nostr seed as it was, and no other file of the rotation. -/
structure RecoveredTo (isNew : Bool) (f : FileView) : Prop where
  nodeSeed : f ⟨X.identity, .nodeSeed⟩
    = some (.file (if isNew then C.seedText R.newKey else X.oldText) true)
  record : isNew = true → ∃ record text, signContinuityRecord C R X.oldKey X.nostrKey = .ok record
    ∧ C.continuityRecordText record = .ok text ∧ f X.recordPlace = some (.file text true)
  nostrSeed : f ⟨X.identity, .nostrPublicationSeed⟩ = some (.file X.nostrText true)
  noJournal : f ⟨X.identity, .rotationJournal⟩ = none
  noNext : f ⟨X.identity, .rotationNextSeed⟩ = none
  noPrevious : f ⟨X.identity, .rotationPreviousSeed⟩ = none

theorem tracks_start : X.Shows s₀ .start := by
  have hshape : X.Shape s₀.view .start := {
    value := fun r => by
      cases r with
      | node => exact X.nodeSeed
      | journal => exact X.noJournal
      | next => exact X.noNext
      | previous => exact X.noPrevious
      | record => rfl
    kept := fun _ _ => rfl
    orphans := X.orphans
    written := by rintro (h | h) <;> cases h }
  refine ⟨hshape, fun f hf => ⟨_, mem_cons_self, ?_⟩⟩
  rw [Disk.may_iff_of_synced X.synced] at hf
  exact hf ▸ hshape

variable {X}

theorem CrashSafe.crash {t : FileDisk} (h : X.CrashSafe t) (hcrash : t.Crash .torn c) :
    ∃ b, b.safe = true ∧ X.Shows c b := by
  obtain ⟨w, F, htracks, hsafe⟩ := h
  obtain ⟨b, hb, hshape⟩ := htracks.may c.view hcrash.2
  refine ⟨b, hsafe b hb, hshape, fun f hf => ⟨b, mem_cons_self, ?_⟩⟩
  rw [Disk.may_iff_of_synced hcrash.1] at hf
  exact hf ▸ hshape

theorem Shape.recoveredTo (h : X.Shape f b) {isNew : Bool} (hb : b.settled isNew = true) :
    X.RecoveredTo isNew f := by
  obtain ⟨n, j, x, p, r⟩ := b
  simp only [Bits.settled, Bool.and_eq_true, beq_iff_eq, Bool.not_eq_true', Bool.or_eq_true] at hb
  obtain ⟨⟨⟨⟨rfl, rfl⟩, rfl⟩, rfl⟩, hrecord⟩ := hb
  exact {
    nodeSeed := (h.value .node).trans (by cases n <;> rfl)
    record := fun hnew => by
      obtain rfl : r = true := hrecord.resolve_left (by simp [hnew])
      have hwritten := h.written (.inr rfl)
      obtain ⟨record, text, hsigned, htext, hjournal⟩ := rotationJournalOf_eq_ok hwritten.journal
      have hsame : X.journal.continuityRecord = record := by rw [hjournal]
      exact ⟨record, X.recordText, hsigned,
        hsame ▸ mapError_eq_ok.mp hwritten.facts.record, h.value .record⟩
    nostrSeed := h.nostrSeed
    noJournal := h.value .journal
    noNext := h.value .next
    noPrevious := h.value .previous }

theorem Settled.crashSafe {t : FileDisk} (h : X.Settled t) : X.CrashSafe t := by
  obtain ⟨isNew, w, F, htracks, _, hF⟩ := h
  exact ⟨w, F, htracks, fun b hb => Bits.safe_of_settled b isNew (hF b hb)⟩

/-- A recovery, wherever it may be stopped. -/
theorem ensures_recoverPendingIdentityRotation (hC : X.ReadsBack)
    (h : X.Shows c b) (hsafe : b.safe = true) {E : CustodyError → FileDisk → Prop} :
    (recoverPendingIdentityRotation C).Ensures (Steps noFail)
      (fun t => X.CrashSafe t ∨ (X.RollsBack c ∧ t.view (X.place .previous) = none))
      (fun _ => X.Settled) E c := by
  have hinv : ∀ t w F, X.Tracks t w F → (∀ b ∈ F, b.safe = true) →
      X.CrashSafe t ∨ (X.RollsBack c ∧ t.view (X.place .previous) = none) :=
    fun t w F ht hF => .inl ⟨w, F, ht, hF⟩
  refine ensures_bind.mpr (ensures_recoverPendingIdentityState h
    (fun t ht => hinv t _ _ ht (by simpa using hsafe)) fun t ht => ?_)
  refine ensures_recoverPendingIdentityRotationLocked hinv hC ht hsafe
    (fun hrolls t w F ht hw => ?_) fun _ _ ht => ht
  refine .inr ⟨?_, (ht.view.value .previous).trans (by rw [Bits.get, hw]; rfl)⟩
  obtain ⟨n, j, x, p, r⟩ := b
  simp only [Bits.rollsBack, Bool.and_eq_true, Bool.not_eq_true'] at hrolls
  obtain ⟨⟨rfl, rfl⟩, rfl⟩ := hrolls
  exact ⟨by rw [h.view.value]; nofun, h.view.value .next, h.view.value .node⟩

theorem ensures_restoreBackup (hC : X.ReadsBack) (h : X.Shows c b)
    (hsafe : b.safe = true) (restore : RestoreRequest Key) :
    (restoreBackup C restore).Ensures (Steps noFail)
      (fun t => X.CrashSafe t ∨ (X.RollsBack c ∧ t.view (X.place .previous) = none))
      (fun _ _ => False) (fun _ => X.Settled) c := by
  refine ensures_bind.mpr ((ensures_bind.mp
    (ensures_recoverPendingIdentityRotation hC h hsafe)).mono (fun _ t ht => ?_) fun _ _ h => h)
  split
  case isTrue => exact ht
  case isFalse =>
    obtain ⟨isNew, w, F, htracks, -⟩ := id ht
    have hidentity : t.lookup identityDir = .ok (some (.dir X.identity true)) := by
      have hplace : identityDir.place t.view = .ok ⟨dataDir, .identity⟩ := rfl
      rw [Disk.lookup_of_place hplace, htracks.view.kept _ kept_identity, X.identityThere]
    have hexists : Reads noFail (identityMaterialExists C) t true :=
      (reads_pathEntryExists hidentity).bind (Reads.pure true)
    exact hexists.andThen (.inl ht.crashSafe) noFault ht

/-- Every disk that is reached can be recovered. -/
theorem tracks_of_afterCrash (hC : X.ReadsBack) (h : AfterCrash C R s₀ X.StopsBeforeRemoval c) :
    ∃ b, b.safe = true ∧ X.Shows c b := by
  induction h with
  | rotation hpasses hcrash =>
    have hsafe : X.CrashSafe _ := Prog.Ensures.passes
      (ensures_rotateNodeIdentity (fun t w F ht hF => ⟨w, F, ht, hF⟩) hC X.tracks_start) hpasses
      (fun _ _ h => h) fun _ _ h => h
    exact hsafe.crash hcrash
  | recovery _ hpasses hstop hcrash ih =>
    obtain ⟨b, hsafe, htracks⟩ := ih
    have hinv := Prog.Ensures.passes (E := fun _ _ => False)
      (ensures_recoverPendingIdentityRotation hC htracks hsafe) hpasses
      (fun _ _ h => .inl h.crashSafe) nofun
    rcases hinv with hsafe | ⟨hrolls, hgone⟩
    · exact hsafe.crash hcrash
    · exact absurd hgone (hstop hrolls)

end Crashes

end RotationStart

/-! ## The theorem -/

/-- **A rotation survives crashes.** After a crash of a rotation and of any number
of recoveries, none of which is stopped between its removal of the previous seed
and of the journal while it rolls the rotation back, a recovery returns; what it
leaves is there for good, whichever of the changes that are not synced a later
crash would keep. -/
theorem interrupted_rotation_recovers {C : Custody Key}
    (X : RotationStart C R s₀) (hC : X.ReadsBack) (h : AfterCrash C R s₀ X.StopsBeforeRemoval c) :
    ∃ report, ((recoverPendingIdentityRotation C).run (perform FileName.token) c).1 = .ok report
      ∧ ∃ isNew, ∀ f,
        ((recoverPendingIdentityRotation C).run (perform FileName.token) c).2.May .torn f →
          X.RecoveredTo isNew f := by
  obtain ⟨b, hsafe, htracks⟩ := RotationStart.tracks_of_afterCrash hC h
  obtain ⟨report, hreport, isNew, w, F, ht, _, hF⟩ :=
    Prog.Ensures.run (RotationStart.ensures_recoverPendingIdentityRotation hC htracks hsafe)
  refine ⟨report, hreport, isNew, fun f hf => ?_⟩
  obtain ⟨b, hb, hshape⟩ := ht.may f hf
  exact hshape.recoveredTo (hF b hb)

/-! ## A rotation that crashes -/

def sampleRotationDisk : FileDisk where
  synced :=
    [⟨⟨dataDir, .identity⟩, some (.dir 1 true)⟩, ⟨⟨1, .nodeSeed⟩, some (.file [0] true)⟩,
      ⟨⟨1, .nostrPublicationSeed⟩, some (.file [2] true)⟩,
      ⟨⟨dataDir, .identityContinuity⟩, some (.dir 2 true)⟩]
  unsynced := []

def sampleRotation : RotationRequest UInt8 where
  continuityRecordPath := sampleRecordPath
  reason := "r"
  newKey := 1
  createdAtUnix := 5
  backupCurrent := true
  backupVerified := .ok ()

def sampleRotationStart : RotationStart sampleCustody sampleRotation sampleRotationDisk where
  identity := 1
  recordDir := 2
  oldText := [0]
  nostrText := [2]
  oldKey := 0
  nostrKey := 2
  synced := rfl
  identity_ne := by decide
  identityThere := by decide
  nodeSeed := by decide
  loadOld := rfl
  nostrSeed := by decide
  loadNostr := rfl
  noJournal := by decide
  noNext := by decide
  noPrevious := by decide
  noRestore := by decide
  orphans name _ := by
    by_cases hidentity : name = .identity
    · exact .inr ⟨1, true, by rw [hidentity]; decide⟩
    · by_cases hcontinuity : name = .identityContinuity
      · exact .inr ⟨2, true, by rw [hcontinuity]; decide⟩
      · exact .inl (by
          simp [sampleRotationDisk, Disk.view, viewOf, Disk.durable, applyChange, dataDir,
            Ne.symm hidentity, Ne.symm hcontinuity])
  recordDirThere := by
    have hkept : Kept 1 ⟨2, .other "record.json"⟩ ⟨dataDir, .identityContinuity⟩ :=
      ⟨by decide, by decide, by decide, by decide, by decide, nofun,
        fun h => absurd h.2 (by decide)⟩
    exact ⟨hkept, 2, true, by decide, rfl⟩
  recordApart := by decide
  recordNamed := nofun
  recordClear := nofun

theorem sampleRotationStart_readsBack : sampleRotationStart.ReadsBack where
  seed := rfl
  journal _ := by decide
  record _ := by decide

def sampleTornRename : FileDisk :=
  (Prog.stopAfter (perform FileName.token) 43 (rotateNodeIdentity sampleCustody sampleRotation)
    sampleRotationDisk).crashed fun p => decide (p ≠ ⟨1, .nodeSeed⟩)

theorem sampleTornRename_afterCrash {mayStop : FileDisk → FileDisk → Prop} :
    AfterCrash sampleCustody sampleRotation sampleRotationDisk mayStop sampleTornRename :=
  .rotation (Prog.passes_stopAfter 43 _ _) (Disk.crash_crashed trivial _)

theorem torn_rename_recovers :
    AfterCrash sampleCustody sampleRotation sampleRotationDisk
        sampleRotationStart.StopsBeforeRemoval sampleTornRename
      ∧ ∃ report, ((recoverPendingIdentityRotation sampleCustody).run (perform FileName.token)
          sampleTornRename).1 = .ok report
        ∧ ∃ isNew, ∀ f, ((recoverPendingIdentityRotation sampleCustody).run
          (perform FileName.token) sampleTornRename).2.May .torn f →
            sampleRotationStart.RecoveredTo isNew f :=
  ⟨sampleTornRename_afterCrash,
    interrupted_rotation_recovers sampleRotationStart sampleRotationStart_readsBack
      sampleTornRename_afterCrash⟩

def sampleStoppedRollback : FileDisk :=
  (Prog.stopAfter (perform FileName.token) 37 (recoverPendingIdentityRotation sampleCustody)
    sampleTornRename).crashed fun _ => true

/-- **A rollback that is interrupted cannot be recovered**: the journal is still
there and the previous seed it needs is not. -/
theorem rollback_interrupted :
    AfterCrash sampleCustody sampleRotation sampleRotationDisk (fun _ _ => True)
        sampleStoppedRollback
      ∧ ((recoverPendingIdentityRotation sampleCustody).run (perform FileName.token)
          sampleStoppedRollback).1
        = .error (.invalid "pending rotation is missing its durable previous seed") :=
  ⟨.recovery sampleTornRename_afterCrash (Prog.passes_stopAfter 37 _ _) trivial
    (Disk.crash_crashed trivial _), by decide +kernel⟩

/-! ## A restore over a rotation -/

/-- **A restore never replaces an identity that is being rotated.** Wherever the rotation
crashed, `restore_backup` completes it or rolls it back, and then refuses; what it leaves
is what a recovery leaves. -/
theorem restore_refused_after_crash {C : Custody Key} (X : RotationStart C R s₀) (hC : X.ReadsBack)
    (h : AfterCrash C R s₀ X.StopsBeforeRemoval c) (restore : RestoreRequest Key) :
    ∃ error, ((restoreBackup C restore).run (perform FileName.token) c).1 = .error error
      ∧ ∃ isNew, ∀ f, ((restoreBackup C restore).run (perform FileName.token) c).2.May .torn f →
        X.RecoveredTo isNew f := by
  obtain ⟨b, hsafe, htracks⟩ := RotationStart.tracks_of_afterCrash hC h
  obtain ⟨hok, herror⟩ := (RotationStart.ensures_restoreBackup hC htracks hsafe restore).ends
    (Prog.ends_run _ c)
  cases hresult : ((restoreBackup C restore).run (perform FileName.token) c).1 with
  | ok report => exact (hok report hresult).elim
  | error error =>
    obtain ⟨isNew, w, F, ht, -, hF⟩ := herror error hresult
    refine ⟨error, rfl, isNew, fun f hf => ?_⟩
    obtain ⟨b, hb, hshape⟩ := ht.may f hf
    exact hshape.recoveredTo (hF b hb)

/-- The rename of the new seed was lost and the next seed with it: the restore rolls the
rotation back, names the identity it found and leaves the old seed. -/
theorem restore_refused_torn_rename :
    let restored := (restoreBackup sampleCustody
      ⟨sampleBackupPath, fun _ => .error .authentication⟩).run (perform FileName.token)
      sampleTornRename
    AfterCrash sampleCustody sampleRotation sampleRotationDisk
        sampleRotationStart.StopsBeforeRemoval sampleTornRename
      ∧ restored.1 = .error (.invalid
        "restore target path already exists; refusing to overwrite any identity material")
      ∧ restored.2.view ⟨1, .nodeSeed⟩ = some (.file [0] true)
      ∧ ∃ isNew, ∀ f, restored.2.May .torn f → sampleRotationStart.RecoveredTo isNew f := by
  obtain ⟨-, -, hrecovered⟩ := restore_refused_after_crash sampleRotationStart
    sampleRotationStart_readsBack sampleTornRename_afterCrash
    ⟨sampleBackupPath, fun _ => .error .authentication⟩
  exact ⟨sampleTornRename_afterCrash, by decide +kernel, by decide +kernel, hrecovered⟩

end Froglet.IdentityCustody
