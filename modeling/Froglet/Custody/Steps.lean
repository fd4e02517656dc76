import Froglet.Custody.Operations

/-!
# What the small programs of the custody ensure

A program that only looks at the disk is summed up by its answer (`Reads`), and the
programs that change it by the changes they make.
-/

namespace Froglet.IdentityCustody

open FileSystem List Option Function
open Prog (ensures_bind ensures_ofExcept)

variable {bytes : Bytes} {d : ℕ}
variable {isPrivate : Bool}
variable {node : Option FileNode} {id base : ℕ} {content : Bytes} {target : FilePath}

abbrev FileDisk : Type := Disk FileName Bytes
abbrev FileView : Type := View FileName Bytes
abbrev FilePlace : Type := Place FileName

section Steps

variable {Key α β : Type} (C : Custody Key) (mayFail : FileCall → FileDisk → Prop)

abbrev Steps : (c : FileCall) → FileDisk → c.Answer → FileDisk → Prop :=
  Prog.Step (perform FileName.token) Call.fault mayFail

def Faults (s : FileDisk) : Prop := ∃ c, mayFail c s

/-- A program that only looks at a disk and answers with a value, or with an
error where a call may fail. -/
def Reads (p : FileProg α) (s : FileDisk) (a : α) : Prop :=
  ∀ (inv : FileDisk → Prop) (Q : α → FileDisk → Prop) (E : CustodyError → FileDisk → Prop),
    inv s → Q a s → (Faults mayFail s → ∀ e, E e s) → p.Ensures (Steps mayFail) inv Q E s

variable {C mayFail} {s : FileDisk} {path : FilePath} {place : FilePlace} {context label : String}
  {inv : FileDisk → Prop} {E : CustodyError → FileDisk → Prop}

/-! ## Looking -/

theorem Reads.pure (a : α) : Reads mayFail (Pure.pure a : FileProg α) s a := fun _ _ _ _ hQ _ => hQ

theorem Reads.bind {p : FileProg α} {f : α → FileProg β} {a : α} {b : β} (hp : Reads mayFail p s a)
    (hf : Reads mayFail (f a) s b) : Reads mayFail (p >>= f) s b :=
  fun inv Q E hinv hQ hE => ensures_bind.mpr (hp inv _ E hinv (hf inv Q E hinv hQ hE) hE)

theorem Reads.ofExcept {result : Except CustodyError α} {a : α} (h : result = .ok a) :
    Reads mayFail (.ofExcept result) s a := by
  subst h
  exact Reads.pure a

theorem Reads.andThen {p : FileProg α} {f : α → FileProg β} {a : α} {Q : β → FileDisk → Prop}
    (hp : Reads mayFail p s a) (hinv : inv s) (hE : Faults mayFail s → ∀ e, E e s)
    (hf : (f a).Ensures (Steps mayFail) inv Q E s) : (p >>= f).Ensures (Steps mayFail) inv Q E s :=
  ensures_bind.mpr (hp inv _ E hinv hf hE)

theorem ensures_orIo {p : FileProg (Except IoError α)} {Q : α → FileDisk → Prop} :
    (orIo C context p).Ensures (Steps mayFail) inv Q E s ↔
      p.Ensures (Steps mayFail) inv (fun result t => match result with
        | .ok a => Q a t
        | .error error => E (ioError C context error) t) E s := by
  rw [orIo, ensures_bind]
  constructor <;> refine fun h => h.mono (fun result t ht => ?_) (fun _ _ he => he) <;>
    cases result <;> exact ht

theorem ensures_one {c : FileCall} {Q : c.Answer → FileDisk → Prop} (hinv : inv s)
    (hworks : Q (perform FileName.token c s).1 (perform FileName.token c s).2)
    (hfails : ∀ a, Call.fault c = some a → Faults mayFail s → Q a s) :
    (Prog.call c .ret : FileProg c.Answer).Ensures (Steps mayFail) inv Q E s := by
  refine ⟨hinv, ?_⟩
  rintro _ _ (_ | ⟨hmay, hfault⟩)
  · exact hworks
  · exact hfails _ hfault ⟨c, hmay⟩

theorem reads_stat (h : s.lookup path = .ok node) :
    Reads mayFail (orIo C context (stat path)) s node := by
  intro inv Q E hinv hQ hE
  rw [ensures_orIo]
  refine ensures_one (c := .stat path) hinv ?_ fun a ha hfaults => ?_
  · simpa [perform, h] using hQ
  · obtain rfl := some.inj ha
    exact hE hfaults _

theorem reads_openFile {node : FileNode} (h : s.node path = .ok node) :
    Reads mayFail (orIo C context (openFile path)) s node := by
  intro inv Q E hinv hQ hE
  rw [ensures_orIo]
  refine ensures_one (c := .openFile path) hinv ?_ fun a ha hfaults => ?_
  · simpa [perform, h] using hQ
  · obtain rfl := some.inj ha
    exact hE hfaults _

theorem reads_read (h : s.node path = .ok (.file bytes isPrivate)) :
    Reads mayFail (orIo C context (read path)) s bytes := by
  intro inv Q E hinv hQ hE
  rw [ensures_orIo]
  refine ensures_one (c := .read path) hinv ?_ fun a ha hfaults => ?_
  · simpa [perform, h, bind, Except.bind] using hQ
  · obtain rfl := some.inj ha
    exact hE hfaults _

theorem reads_pathEntryExists (h : s.lookup path = .ok node) :
    Reads mayFail (pathEntryExists C path) s node.isSome :=
  (reads_stat h).bind (Reads.pure _)

theorem reads_symlinkMetadata {node : FileNode} (h : s.lookup path = .ok (some node)) :
    Reads mayFail (symlinkMetadata C context path) s node :=
  (reads_stat h).bind (Reads.pure node)

theorem reads_rejectSymlink (h : s.lookup path = .ok (some (.file bytes isPrivate))) :
    Reads mayFail (rejectSymlink C path label) s () :=
  (reads_symlinkMetadata h).bind (Reads.pure ())

theorem reads_requirePrivateDirectory (h : s.lookup path = .ok (some (.dir id true))) :
    Reads mayFail (requirePrivateDirectory C path) s () :=
  (reads_symlinkMetadata h).bind (Reads.pure ())

section Files

variable (hplace : path.place s.view = .ok place)
  (hfile : s.view place = some (.file bytes true))
include hplace hfile

theorem reads_rejectSymlink_file : Reads mayFail (rejectSymlink C path label) s () :=
  reads_rejectSymlink (by rw [Disk.lookup_of_place hplace, hfile])

theorem reads_loadSigningKey {key : Key} (hkey : C.loadSigningKey bytes = .ok key) :
    Reads mayFail (loadSigningKey C path) s key :=
  (reads_read (Disk.node_of_place hplace hfile)).bind (Reads.ofExcept (by rw [hkey]; rfl))

theorem reads_readLimited {maxBytes : ℕ} (hlength : bytes.length ≤ maxBytes) :
    Reads mayFail (readLimited C path maxBytes) s bytes := by
  refine (reads_openFile (Disk.node_of_place hplace hfile)).bind
    ((reads_read (Disk.node_of_place hplace hfile)).bind ?_)
  rw [if_neg (not_lt.mpr hlength)]
  exact Reads.pure bytes

theorem reads_optionalSeedIdentity {key : Key} (hkey : C.loadSigningKey bytes = .ok key) :
    Reads mayFail (optionalSeedIdentity C path label) s (some (C.publicKeyHex key)) := by
  have hlookup : s.lookup path = .ok (some (.file bytes true)) := by
    rw [Disk.lookup_of_place hplace, hfile]
  refine (reads_pathEntryExists hlookup).bind ?_
  exact (reads_rejectSymlink_file hplace hfile).bind
    ((reads_openFile (Disk.node_of_place hplace hfile)).bind ((Reads.pure ()).bind
      ((reads_loadSigningKey hplace hfile hkey).bind (Reads.pure _))))

theorem reads_requireSeedIdentity {key : Key} {expectedId : String}
    (hkey : C.loadSigningKey bytes = .ok key) (hid : C.publicKeyHex key = expectedId) :
    Reads mayFail (requireSeedIdentity C path expectedId label) s () := by
  refine (reads_optionalSeedIdentity hplace hfile hkey).bind ?_
  dsimp only
  rw [if_pos hid]
  exact Reads.pure ()

end Files

theorem reads_optionalSeedIdentity_none (h : s.lookup path = .ok none) :
    Reads mayFail (optionalSeedIdentity C path label) s none :=
  (reads_pathEntryExists h).bind (Reads.pure none)

theorem reads_pathExists (h : s.lookup path = .ok none) :
    Reads mayFail (pathExists path) s false := by
  intro inv Q E hinv hQ hE
  refine ensures_bind.mpr (ensures_one (c := .stat path) hinv ?_ fun a ha hfaults => ?_)
  · simpa [perform, h] using hQ
  · obtain rfl := some.inj ha
    exact hQ

/-! ## Changing -/

section Changes

variable {Q : Except IoError Unit → FileDisk → Prop}

theorem ensures_removeFile
    (hplace : path.place s.view = .ok place) (hfile : s.view place = some (.file bytes isPrivate))
    (hinv : inv s) (hQ : Q (.ok ()) (s.change [⟨place, none⟩]))
    (hfails : Faults mayFail s → Q (.error .failed) s) :
    (removeFile path).Ensures (Steps mayFail) inv Q E s := by
  refine ensures_one (c := .removeFile path) hinv ?_ fun a ha hfaults => ?_
  · rw [perform, Disk.changeAt_of_place hplace (by rw [hfile])]
    exact hQ
  · obtain rfl := some.inj ha
    exact hfails hfaults

theorem ensures_createNew (hplace : path.place s.view = .ok place) (hnone : s.view place = none)
    (hinv : inv s) (hQ : Q (.ok ()) (s.change [⟨place, some (.file [] true)⟩]))
    (hfails : Faults mayFail s → Q (.error .failed) s) :
    (createNew path).Ensures (Steps mayFail) inv Q E s := by
  refine ensures_one (c := .createNew path []) hinv ?_ fun a ha hfaults => ?_
  · rw [perform, Disk.changeAt_of_place hplace (by rw [hnone])]
    exact hQ
  · obtain rfl := some.inj ha
    exact hfails hfaults

theorem ensures_writeAndSync
    (hplace : path.place s.view = .ok place) (hfile : s.view place = some (.file content isPrivate))
    (hinv : inv s) (hQ : Q (.ok ()) (s.change [⟨place, some (.file bytes isPrivate)⟩]))
    (hfails : Faults mayFail s → Q (.error .failed) s) :
    (writeAndSync path bytes).Ensures (Steps mayFail) inv Q E s := by
  refine ensures_one (c := .write path bytes) hinv ?_ fun a ha hfaults => ?_
  · rw [perform, Disk.changeAt_of_place hplace (by rw [hfile])]
    exact hQ
  · obtain rfl := some.inj ha
    exact hfails hfaults

theorem ensures_setPrivate_file
    (hplace : path.place s.view = .ok place) (hfile : s.view place = some (.file content isPrivate))
    (hinv : inv s) (hQ : Q (.ok ()) (s.change [⟨place, some (.file content true)⟩]))
    (hfails : Faults mayFail s → Q (.error .failed) s) :
    (setPrivate path).Ensures (Steps mayFail) inv Q E s := by
  refine ensures_one (c := .protect path) hinv ?_ fun a ha hfaults => ?_
  · rw [perform, Disk.changeAt_of_place hplace (by rw [hfile])]
    exact hQ
  · obtain rfl := some.inj ha
    exact hfails hfaults

theorem ensures_hardLink {dest : FilePlace}
    (hplace : path.place s.view = .ok place) (hfile : s.view place = some (.file bytes isPrivate))
    (htarget : target.place s.view = .ok dest) (hnone : s.view dest = none)
    (hinv : inv s) (hQ : Q (.ok ()) (s.change [⟨dest, some (.file bytes isPrivate)⟩]))
    (hfails : Faults mayFail s → Q (.error .failed) s) :
    (hardLink path target).Ensures (Steps mayFail) inv Q E s := by
  refine ensures_one (c := .hardLink path target) hinv ?_ fun a ha hfaults => ?_
  · rw [perform_hardLink hplace hfile htarget rfl hnone]
    exact hQ
  · obtain rfl := some.inj ha
    exact hfails hfaults

theorem ensures_rename_file {dest : FilePlace} (hplace : path.place s.view = .ok place)
    (hfile : s.view place = some (.file bytes isPrivate)) (htarget : target.place s.view = .ok dest)
    (hover : s.view dest = none ∨ ∃ old p, s.view dest = some (.file old p)) (hinv : inv s)
    (hQ : Q (.ok ()) (s.change [⟨dest, some (.file bytes isPrivate)⟩, ⟨place, none⟩]))
    (hfails : Faults mayFail s → Q (.error .failed) s) :
    (rename path target).Ensures (Steps mayFail) inv Q E s := by
  refine ensures_one (c := .rename path target) hinv ?_ fun a ha hfaults => ?_
  · rw [perform_rename hplace hfile htarget (hover.imp_right fun hold => ⟨⟨_, _, rfl⟩, hold⟩)]
    exact hQ
  · obtain rfl := some.inj ha
    exact hfails hfaults

theorem ensures_removeDirAll (hplace : path.place s.view = .ok place)
    (hdir : s.view place = some (.dir id isPrivate))
    (hinv : inv s) (hQ : Q (.ok ()) (s.change [⟨place, none⟩]))
    (hfails : Faults mayFail s → Q (.error .failed) s) :
    (removeDirAll path).Ensures (Steps mayFail) inv Q E s := by
  refine ensures_one (c := .removeDirAll path) hinv ?_ fun a ha hfaults => ?_
  · rw [perform, Disk.changeAt_of_place hplace (by rw [hdir])]
    exact hQ
  · obtain rfl := some.inj ha
    exact hfails hfaults

end Changes

section Changed

variable {Q : Unit → FileDisk → Prop}

theorem ensures_orIo_of {p : FileProg (Except IoError Unit)} {t : FileDisk}
    (hp : ∀ R : Except IoError Unit → FileDisk → Prop, R (.ok ()) t →
      (Faults mayFail s → R (.error .failed) s) → p.Ensures (Steps mayFail) inv R E s)
    (hQ : Q () t) (hE : Faults mayFail s → ∀ e, E e s) :
    (orIo C context p).Ensures (Steps mayFail) inv Q E s := by
  rw [ensures_orIo]
  exact hp _ hQ fun hfaults => hE hfaults _

theorem ensures_syncDirectory {dirs : List FileName} (hresolve : resolve s.view base dirs = .ok d)
    (hinv : inv s) (hQ : Q () (s.sync d)) (hE : Faults mayFail s → ∀ e, E e s) :
    (syncDirectory C base dirs).Ensures (Steps mayFail) inv Q E s := by
  rw [syncDirectory, ensures_orIo]
  refine ensures_one (c := .syncDir base dirs) hinv ?_ fun a ha hfaults => ?_
  · simpa [perform, hresolve] using hQ
  · obtain rfl := some.inj ha
    exact hE hfaults _

theorem ensures_removeFileIfExists
    (hplace : path.place s.view = .ok place) (hfile : s.view place = some (.file bytes isPrivate))
    (hinv : inv s) (hQ : Q () (s.change [⟨place, none⟩])) (hE : Faults mayFail s → ∀ e, E e s) :
    (removeFileIfExists C path).Ensures (Steps mayFail) inv Q E s := by
  have hlookup : s.lookup path = .ok (some (.file bytes isPrivate)) := by
    rw [Disk.lookup_of_place hplace, hfile]
  refine (reads_stat hlookup).andThen hinv hE ?_
  exact ensures_orIo_of (fun R => ensures_removeFile hplace hfile hinv) hQ hE

theorem reads_removeFileIfExists (h : s.lookup path = .ok none) :
    Reads mayFail (removeFileIfExists C path) s () :=
  (reads_stat h).bind (Reads.pure ())

end Changed

/-! ## Writing a file -/

theorem reads_createDirAll {above below : List FileName}
    (h : resolve s.view base (above ++ below) = .ok d) :
    Reads mayFail (createDirAll C base above below) s () := by
  induction below generalizing above with
  | nil => exact Reads.pure ()
  | cons name below ih =>
    have hsplit := h
    rw [resolve_append] at hsplit
    cases habove : resolve s.view base above with
    | error e => rw [habove] at hsplit; cases hsplit
    | ok d' =>
      rw [habove] at hsplit
      simp only [Except.bind, resolve] at hsplit
      split at hsplit
      · rename_i id isPrivate hnode
        have hplace : Path.place ⟨base, above, name⟩ s.view = .ok ⟨d', name⟩ := by
          rw [Path.place, habove]
          rfl
        have hlookup : s.lookup ⟨base, above, name⟩ = .ok (some (.dir id isPrivate)) := by
          rw [Disk.lookup_of_place hplace, hnode]
        exact (reads_stat hlookup).bind (ih (by rw [append_assoc]; exact h))
      · cases hsplit
      · cases hsplit

section Writing

variable {I J : FileDisk → Prop}

abbrev tmpPlace (path : FilePath) (d token : ℕ) : FilePlace := ⟨d, .sibling path.name .tmp token⟩

theorem place_of_resolve {f : FileView} (hresolve : resolve f path.base path.dirs = .ok d) :
    path.place f = .ok ⟨d, path.name⟩ := by
  rw [Path.place, hresolve]
  rfl

section

variable (hresolve : resolve s.view path.base path.dirs = .ok d)
include hresolve

theorem ensures_orCleanup {Q : α → FileDisk → Prop} {token : ℕ} {error : CustodyError}
    (hfile : s.view (tmpPlace path d token) = some (.file content true)) (hinv : inv s)
    (hE : E error s) (hE' : E error (s.change [⟨tmpPlace path d token, none⟩])) :
    (orCleanup { path with name := .sibling path.name .tmp token } error).Ensures
      (Steps mayFail) inv Q E s := by
  refine ensures_bind.mpr (ensures_bind.mpr ?_)
  exact ensures_removeFile (place_of_resolve hresolve) hfile hinv hE' fun _ => hE

/-- The file beside. -/
theorem ensures_writeStagingFile {Q : FilePath → FileDisk → Prop} (hI : I s)
    (htmp : ∀ t token node, I t → I (t.change [⟨tmpPlace path d token, node⟩]))
    (hinv : ∀ t, I t → inv t) (hE : ∀ t, I t → Faults mayFail t → ∀ t', I t' → ∀ e, E e t')
    (hQ : ∀ t token, I t → s.view (tmpPlace path d token) = none →
      t.view = update s.view (tmpPlace path d token) (some (.file bytes true)) →
      Q { path with name := .sibling path.name .tmp token } t) :
    (writeStagingFile C path bytes).Ensures (Steps mayFail) inv Q E s := by
  have hfaults : ∀ t, I t → Faults mayFail t → ∀ e, E e t := fun t ht hf => hE t ht hf t ht
  refine (reads_createDirAll (by rwa [nil_append])).andThen (hinv s hI) (hfaults s hI) ?_
  refine ensures_bind.mpr (ensures_bind.mpr
    (ensures_one (c := .token) (hinv s hI) ?_ nofun))
  set token := s.freshToken FileName.token with htoken
  set T : FilePlace := tmpPlace path d token with hT
  have hfresh : s.view T = none := (Disk.may_view (m := .torn)).eq_none_of_token (le_of_eq htoken)
  -- the three changes at the place beside, each seen through the ones before
  let s₁ := s.change [⟨T, some (.file [] true)⟩]
  let s₂ := s₁.change [⟨T, some (.file bytes true)⟩]
  let s₃ := s₂.change [⟨T, some (.file bytes true)⟩]
  have hview₁ : s₁.view T = some (.file [] true) := by simp [s₁]
  have hview₂ : s₂.view T = some (.file bytes true) := by simp [s₂]
  have hresolve₁ : resolve s₁.view path.base path.dirs = .ok d := by
    rw [Disk.view_change_singleton]
    exact resolve_update hresolve (by simp [hfresh])
  have hresolve₂ : resolve s₂.view path.base path.dirs = .ok d := by
    rw [Disk.view_change_singleton]
    exact resolve_update hresolve₁ (by simp [hview₁])
  have hI₁ : I s₁ := htmp s token _ hI
  have hI₂ : I s₂ := htmp s₁ token _ hI₁
  have hI₃ : I s₃ := htmp s₂ token _ hI₂
  have hview₃ : s₃.view = update s.view T (some (.file bytes true)) := by
    simp [s₁, s₂, s₃, update_idem]
  refine ensures_bind.mpr (ensures_orIo_of
    (fun R => ensures_createNew (place_of_resolve hresolve) hfresh (hinv s hI)) ?_ (hfaults s hI))
  refine ensures_bind.mpr (ensures_writeAndSync (place_of_resolve hresolve₁) hview₁
    (hinv _ hI₁) ?_ fun hf => ?_)
  · refine ensures_bind.mpr (ensures_setPrivate_file (place_of_resolve hresolve₂) hview₂
      (hinv _ hI₂) (hQ s₃ token hI₃ hfresh hview₃) fun hf => ?_)
    exact ensures_orCleanup hresolve₂ hview₂ (hinv _ hI₂) (hE _ hI₂ hf _ hI₂ _)
      (hE _ hI₂ hf _ (htmp _ _ _ hI₂) _)
  · exact ensures_orCleanup hresolve₁ hview₁ (hinv _ hI₁) (hE _ hI₁ hf _ hI₁ _)
      (hE _ hI₁ hf _ (htmp _ _ _ hI₁) _)

/-- A new file: it appears with its contents, and its directory is synced. -/
theorem ensures_atomicWriteNew {Q : Unit → FileDisk → Prop} (hnone : s.view ⟨d, path.name⟩ = none)
    (hI : I s) (htmp : ∀ t token node, I t → I (t.change [⟨tmpPlace path d token, node⟩]))
    (htmp' : ∀ t token node, J t → J (t.change [⟨tmpPlace path d token, node⟩]))
    (hlink : ∀ t, I t → t.view ⟨d, path.name⟩ = none →
      J (t.change [⟨⟨d, path.name⟩, some (.file bytes true)⟩])) (hinv : ∀ t, I t → inv t)
    (hinv' : ∀ t, J t → inv t) (hE : ∀ t, I t → Faults mayFail t → ∀ t', I t' → ∀ e, E e t')
    (hE' : ∀ t, J t → Faults mayFail t → ∀ t', J t' → ∀ e, E e t')
    (hQ : ∀ t, J t → t.view = update s.view ⟨d, path.name⟩ (some (.file bytes true)) →
      Q () (t.sync d)) : (atomicWriteNew C path bytes).Ensures (Steps mayFail) inv Q E s := by
  have hlookup : s.lookup path = .ok none := by
    rw [Disk.lookup_of_place (place_of_resolve hresolve), hnone]
  refine (reads_pathExists hlookup).andThen (hinv s hI) (fun hf => hE s hI hf s hI) ?_
  refine ensures_bind.mpr
    (ensures_writeStagingFile hresolve hI htmp hinv hE fun t token ht hfresh hview => ?_)
  set T : FilePlace := tmpPlace path d token with hT
  have hne : (⟨d, path.name⟩ : FilePlace) ≠ T := fun heq =>
    FileName.ne_sibling _ _ _ (congrArg Place.name heq)
  have hviewT : t.view T = some (.file bytes true) := by rw [hview, update_self]
  have hnone' : t.view ⟨d, path.name⟩ = none := by rw [hview, update_of_ne hne, hnone]
  have hresolve₁ : resolve t.view path.base path.dirs = .ok d := by
    rw [hview]
    exact resolve_update hresolve (by simp [hfresh])
  -- the link, and then the removal of the first name
  let t₁ := t.change [⟨⟨d, path.name⟩, some (.file bytes true)⟩]
  let t₂ := t₁.change [⟨T, none⟩]
  have hJ₁ : J t₁ := hlink t ht hnone'
  have hJ₂ : J t₂ := htmp' t₁ token none hJ₁
  have hview₁ : t₁.view T = some (.file bytes true) := by
    rw [Disk.view_change_singleton, update_of_ne hne.symm, hviewT]
  have hresolve₂ : resolve t₁.view path.base path.dirs = .ok d := by
    rw [Disk.view_change_singleton]
    exact resolve_update hresolve₁ (by simp [hnone'])
  have hresolve₃ : resolve t₂.view path.base path.dirs = .ok d := by
    rw [Disk.view_change_singleton]
    exact resolve_update hresolve₂ (by simp [hview₁])
  have hview₂ : t₂.view = update s.view ⟨d, path.name⟩ (some (.file bytes true)) := by
    rw [Disk.view_change_singleton, Disk.view_change_singleton, hview,
      Function.update_comm hne, update_idem]
    rw [show update s.view T none = s.view from by rw [← hfresh, Function.update_eq_self]]
  refine ensures_bind.mpr (Prog.ensures_attempt.mpr (ensures_bind.mpr ?_))
  refine ensures_orIo.mpr (ensures_hardLink (place_of_resolve hresolve₁) hviewT
    (place_of_resolve hresolve₁) hnone' (hinv t ht) ?_ fun hf => ?_)
  · refine ensures_orIo.mpr (ensures_removeFile (place_of_resolve hresolve₂) hview₁ (hinv' _ hJ₁)
      ?_ fun hf => ?_)
    · exact ensures_syncDirectory hresolve₃ (hinv' _ hJ₂) (hQ t₂ hJ₂ hview₂)
        fun hf => hE' _ hJ₂ hf _ hJ₂
    · exact ensures_orCleanup hresolve₂ hview₁ (hinv' _ hJ₁) (hE' _ hJ₁ hf _ hJ₁ _)
        (hE' _ hJ₁ hf _ hJ₂ _)
  · exact ensures_orCleanup hresolve₁ hviewT (hinv _ ht) (hE _ ht hf _ ht _)
      (hE _ ht hf _ (htmp _ _ _ ht) _)

end

end Writing

/-! ## Staging directories -/

def NoneOrDir (node : Option FileNode) : Prop :=
  node = none ∨ ∃ id isPrivate, node = some (.dir id isPrivate)

section Cleanup

variable {I : FileDisk → Prop} {Q : Unit → FileDisk → Prop}
  (hdirs : ∀ t name, I t → name.isRestoreStagingName = true → NoneOrDir (t.view ⟨dataDir, name⟩))
  (hremove : ∀ t name, I t → name.isRestoreStagingName = true →
    I (t.change [⟨⟨dataDir, name⟩, none⟩]))
  (hinv : ∀ t, I t → inv t) (hE : ∀ t, I t → Faults mayFail t → ∀ e, E e t)
include hdirs hremove hinv hE

theorem ensures_removeStagingDirectories (hQ : ∀ t, I t → Q () t) {names : List FileName}
    (hnodup : names.Nodup) (hI : I s)
    (hthere : ∀ name ∈ names, (s.view ⟨dataDir, name⟩).isSome = true) :
    (removeStagingDirectories C names).Ensures (Steps mayFail) inv Q E s := by
  induction names generalizing s with
  | nil => exact hQ s hI
  | cons name names ih =>
    rw [nodup_cons] at hnodup
    unfold removeStagingDirectories
    split
    · rename_i hname
      have hsome := hthere name mem_cons_self
      rcases hdirs s name hI hname with hnone | ⟨id, isPrivate, hdir⟩
      · rw [hnone] at hsome
        cases hsome
      · have hplace : (inData name).place s.view = .ok ⟨dataDir, name⟩ := rfl
        refine (reads_symlinkMetadata (Disk.lookup_of_place hplace |>.trans (by rw [hdir]))).andThen
          (hinv s hI) (hE s hI) ?_
        refine ensures_bind.mpr (ensures_orIo_of
          (fun R => ensures_removeDirAll hplace hdir (hinv s hI)) ?_ (hE s hI))
        refine ih hnodup.2 (hremove s name hI hname) fun other hother => ?_
        have hne : (⟨dataDir, other⟩ : FilePlace) ≠ ⟨dataDir, name⟩ := by
          intro heq
          obtain rfl : other = name := congrArg Place.name heq
          exact hnodup.1 hother
        rw [Disk.view_change_singleton, update_of_ne hne]
        exact hthere other (mem_cons_of_mem _ hother)
    · exact ih hnodup.2 hI fun other hother => hthere other (mem_cons_of_mem _ hother)

theorem ensures_cleanupUnjournaledRestoreDirectories (hI : I s)
    (hQ : ∀ t, I t → Q () (t.sync dataDir)) :
    (cleanupUnjournaledRestoreDirectories C).Ensures (Steps mayFail) inv Q E s := by
  have hread : Reads mayFail (orIo C "could not read the data directory" (readDir dataDir [])) s
      (s.names dataDir) := by
    intro inv Q E hinv hQ hE
    rw [ensures_orIo]
    refine ensures_one (c := .readDir dataDir []) hinv hQ fun a ha hfaults => ?_
    obtain rfl := some.inj ha
    exact hE hfaults _
  refine hread.andThen (hinv s hI) (hE s hI) ?_
  refine ensures_bind.mpr (ensures_removeStagingDirectories hdirs hremove hinv hE
    (fun t ht => ?_) (s.nodup_names dataDir) hI fun name => Disk.isSome_of_mem_names)
  exact ensures_syncDirectory rfl (hinv t ht) (hQ t ht) (hE t ht)

end Cleanup

end Steps

def noFail : FileCall → FileDisk → Prop := fun _ _ => False

theorem noFault {s : FileDisk} {p : Prop} : Faults noFail s → p := fun ⟨_, h⟩ => h.elim

end Froglet.IdentityCustody
