import Froglet.Lib.Programs
import Mathlib.Data.List.Dedup
import Mathlib.Logic.Function.Basic

/-!
# Disks that lose what was not synced

A disk is a set of directories whose entries are files, directories or symbolic links.
-/

namespace FileSystem

open List Function

structure Place (Name : Type) where
  dir : ℕ
  name : Name
deriving DecidableEq

inductive Node (Content : Type) where
  | file (content : Content) (isPrivate : Bool)
  | dir (id : ℕ) (isPrivate : Bool)
  | symlink
deriving DecidableEq

structure Assignment (Name Content : Type) where
  place : Place Name
  node : Option (Node Content)

abbrev View (Name Content : Type) : Type := Place Name → Option (Node Content)

abbrev Change (Name Content : Type) : Type := List (Assignment Name Content)

structure Disk (Name Content : Type) where
  synced : Change Name Content
  unsynced : List (Change Name Content)

variable {Name Content : Type} [DecidableEq Name]

def applyChange (change : Change Name Content) (f : View Name Content) : View Name Content :=
  fun p => match change.find? (fun a => a.place = p) with
    | some a => a.node
    | none => f p

@[simp] theorem applyChange_nil (f : View Name Content) : applyChange [] f = f := rfl

theorem applyChange_append (ch ch' : Change Name Content) (f : View Name Content) :
    applyChange (ch ++ ch') f = applyChange ch (applyChange ch' f) := by
  funext p
  simp only [applyChange, find?_append]
  cases ch.find? (fun a => a.place = p) <;> rfl

theorem applyChange_cons (a : Assignment Name Content) (ch : Change Name Content)
    (f : View Name Content) (p : Place Name) :
    applyChange (a :: ch) f p = if a.place = p then a.node else applyChange ch f p := by
  simp only [applyChange, find?_cons]
  by_cases h : a.place = p <;> simp [h]

theorem applyChange_singleton (p : Place Name) (node : Option (Node Content))
    (f : View Name Content) : applyChange [⟨p, node⟩] f = update f p node := by
  funext q
  rw [applyChange_cons, applyChange_nil, Function.update_apply]
  exact if_congr eq_comm rfl rfl

theorem applyChange_filter (K : Place Name → Bool) (ch : Change Name Content)
    (f : View Name Content) (p : Place Name) :
    applyChange (ch.filter (fun a => K a.place)) f p = if K p then applyChange ch f p else f p := by
  induction ch with
  | nil => simp
  | cons a ch ih =>
    rw [filter_cons, applyChange_cons]
    by_cases hplace : a.place = p
    · subst hplace
      by_cases hK : K a.place = true
      · simp [hK, applyChange_cons]
      · simp only [hK, Bool.false_eq_true, if_false] at ih ⊢
        exact ih
    · simp only [hplace, if_false]
      split
      · rw [applyChange_cons, if_neg hplace, ih]
      · exact ih

theorem applyChange_eq_or (ch : Change Name Content) (f : View Name Content) (p : Place Name) :
    applyChange ch f p = f p ∨ ∃ a ∈ ch, a.place = p ∧ applyChange ch f p = a.node := by
  unfold applyChange
  cases hfind : ch.find? (fun a => a.place = p) with
  | none => exact .inl rfl
  | some a =>
    exact .inr ⟨a, mem_of_find?_eq_some hfind, by simpa using find?_some hfind, rfl⟩

def viewOf : List (Change Name Content) → View Name Content → View Name Content
  | [], base => base
  | ch :: earlier, base => applyChange ch (viewOf earlier base)

theorem viewOf_eq_flatten (changes : List (Change Name Content)) (base : View Name Content) :
    viewOf changes base = applyChange changes.flatten base := by
  induction changes with
  | nil => rfl
  | cons ch earlier ih => rw [viewOf, ih, flatten_cons, applyChange_append]

namespace Disk

def durable (s : Disk Name Content) : View Name Content := applyChange s.synced fun _ => none

def view (s : Disk Name Content) : View Name Content := viewOf s.unsynced s.durable

def change (ch : Change Name Content) (s : Disk Name Content) : Disk Name Content :=
  { s with unsynced := ch :: s.unsynced }

def sync (d : ℕ) (s : Disk Name Content) : Disk Name Content where
  synced := s.unsynced.flatten.filter (fun a => decide (a.place.dir = d)) ++ s.synced
  unsynced := s.unsynced.map fun ch => ch.filter fun a => decide (a.place.dir ≠ d)

@[simp] theorem view_change_singleton (p : Place Name) (node : Option (Node Content))
    (s : Disk Name Content) : (s.change [⟨p, node⟩]).view = update s.view p node :=
  applyChange_singleton p node s.view

theorem view_change_pair (p q : Place Name) (node node' : Option (Node Content))
    (s : Disk Name Content) : (s.change [⟨p, node⟩, ⟨q, node'⟩]).view
      = update (update s.view q node') p node := by
  have hsplit := applyChange_append [⟨p, node⟩] [⟨q, node'⟩] s.view
  rw [applyChange_singleton, applyChange_singleton] at hsplit
  exact hsplit

theorem view_eq_durable {s : Disk Name Content} (h : s.unsynced = []) : s.view = s.durable := by
  simp [view, h, viewOf]

theorem durable_sync (d : ℕ) (s : Disk Name Content) (p : Place Name) :
    (s.sync d).durable p = if p.dir = d then s.view p else s.durable p := by
  show applyChange (_ ++ s.synced) _ p = _
  rw [applyChange_append, view, viewOf_eq_flatten]
  have hpart := applyChange_filter (fun q : Place Name => decide (q.dir = d)) s.unsynced.flatten
    s.durable p
  simp only [decide_eq_true_eq] at hpart
  exact hpart

@[simp] theorem view_sync (d : ℕ) (s : Disk Name Content) : (s.sync d).view = s.view := by
  funext p
  have hrest : ∀ (changes : List (Change Name Content)) (base : View Name Content),
      viewOf (changes.map fun ch => ch.filter (fun a => decide (a.place.dir ≠ d))) base p
        = if p.dir = d then base p else viewOf changes base p := by
    intro changes base
    induction changes with
    | nil => simp [viewOf]
    | cons ch earlier ih =>
      simp only [map_cons, viewOf]
      have hpart := applyChange_filter (fun q : Place Name => decide (q.dir ≠ d)) ch
        (viewOf (earlier.map fun ch => ch.filter (fun a => decide (a.place.dir ≠ d))) base) p
      rw [hpart, ih]
      by_cases hdir : p.dir = d
      · simp [hdir]
      · rw [if_pos (by simpa using hdir), if_neg hdir]
        unfold applyChange
        cases ch.find? (fun a => a.place = p) with
        | none => rw [ih, if_neg hdir]
        | some a => rfl
  show viewOf (s.unsynced.map _) (s.sync d).durable p = viewOf s.unsynced s.durable p
  have hviewOf := hrest s.unsynced s.durable
  rw [hrest, durable_sync]
  by_cases hdir : p.dir = d
  · rw [if_pos hdir, if_pos hdir, view]
  · rw [if_neg hdir]
    rw [viewOf_eq_flatten, viewOf_eq_flatten]
    unfold applyChange
    cases s.unsynced.flatten.find? (fun a => a.place = p) with
    | none => exact (durable_sync d s p).trans (if_neg hdir)
    | some a => rfl

end Disk

/-! ## Crashes -/

structure CrashMode (Name : Type) where
  Allows : (Place Name → Bool) → Prop
  all : Allows (fun _ => true)
  more : ∀ K d, Allows K → Allows fun p => decide (p.dir = d) || K p

def CrashMode.torn : CrashMode Name where
  Allows _ := True
  all := trivial
  more _ _ _ := trivial

def Outcome (m : CrashMode Name) : List (Change Name Content) → View Name Content →
    View Name Content → Prop
  | [], base, f => f = base
  | ch :: earlier, base, f => ∃ K g, m.Allows K ∧ Outcome m earlier base g
      ∧ f = fun p => if K p then applyChange ch g p else g p

theorem outcome_viewOf (m : CrashMode Name) (changes : List (Change Name Content))
    (base : View Name Content) : Outcome m changes base (viewOf changes base) := by
  induction changes with
  | nil => exact rfl
  | cons ch earlier ih => exact ⟨_, _, m.all, ih, by simp [viewOf]⟩

theorem Outcome.eq_or {m : CrashMode Name} {changes : List (Change Name Content)}
    {base f : View Name Content} (h : Outcome m changes base f) (p : Place Name) :
    f p = base p ∨ ∃ a ∈ changes.flatten, a.place = p ∧ f p = a.node := by
  induction changes generalizing f with
  | nil => exact .inl (congrFun h p)
  | cons ch earlier ih =>
    obtain ⟨K, g, _, hg, rfl⟩ := h
    have hearlier : g p = base p ∨ ∃ a ∈ (ch :: earlier).flatten, a.place = p ∧ g p = a.node := by
      refine (ih hg).imp_right fun ⟨a, ha, hplace, hnode⟩ => ⟨a, ?_, hplace, hnode⟩
      exact flatten_cons ▸ mem_append_right _ ha
    dsimp only
    split
    · rcases applyChange_eq_or ch g p with heq | ⟨a, ha, hplace, hnode⟩
      · rw [heq]
        exact hearlier
      · exact .inr ⟨a, flatten_cons ▸ mem_append_left _ ha, hplace, hnode⟩
    · exact hearlier

theorem Outcome.of_sync {m : CrashMode Name} {d : ℕ} {changes : List (Change Name Content)}
    {base base' f : View Name Content} (hbase : ∀ p, p.dir ≠ d → base' p = base p)
    (h : Outcome m (changes.map fun ch => ch.filter (fun a => decide (a.place.dir ≠ d))) base' f) :
    (∀ p, p.dir = d → f p = base' p) ∧ ∃ g, Outcome m changes base g ∧ (∀ p, p.dir ≠ d → g p = f p)
        ∧ ∀ p, p.dir = d → g p = viewOf changes base p := by
  induction changes generalizing f with
  | nil =>
    obtain rfl : f = base' := h
    exact ⟨fun _ _ => rfl, base, rfl, fun p hp => (hbase p hp).symm, fun _ _ => rfl⟩
  | cons ch earlier ih =>
    obtain ⟨K, g, hK, hg, rfl⟩ := h
    obtain ⟨hin, g', hg', hout, hview⟩ := ih hg
    have hpart : ∀ p, applyChange (ch.filter (fun a => decide (a.place.dir ≠ d))) g p
        = if p.dir ≠ d then applyChange ch g p else g p := fun p => by
      have := applyChange_filter (fun q : Place Name => decide (q.dir ≠ d)) ch g p
      simpa using this
    refine ⟨fun p hp => ?_, _, ⟨_, g', m.more K d hK, hg', rfl⟩, fun p hp => ?_, fun p hp => ?_⟩
    · dsimp only
      rw [hpart, if_neg (not_not.mpr hp)]
      split <;> exact hin p hp
    · dsimp only
      rw [hpart, if_pos hp, decide_eq_false hp, Bool.false_or]
      unfold applyChange
      cases ch.find? (fun a => a.place = p) <;> simp [hout p hp]
    · rw [decide_eq_true hp, Bool.true_or, if_pos rfl, viewOf]
      unfold applyChange
      cases ch.find? (fun a => a.place = p) <;> simp [hview p hp]

namespace Disk

def May (m : CrashMode Name) (s : Disk Name Content) (f : View Name Content) : Prop :=
  Outcome m s.unsynced s.durable f

/-- A crash: the disk starts again with something that may be left. -/
def Crash (m : CrashMode Name) (s c : Disk Name Content) : Prop := c.unsynced = [] ∧ s.May m c.view

variable {m : CrashMode Name} {s c : Disk Name Content} {f : View Name Content}

theorem may_view : s.May m s.view := outcome_viewOf m s.unsynced s.durable

def crashed (keep : Place Name → Bool) (s : Disk Name Content) : Disk Name Content where
  synced := s.unsynced.flatten.filter (fun a => keep a.place) ++ s.synced
  unsynced := []

theorem crash_crashed {keep : Place Name → Bool} (hkeep : m.Allows keep) (s : Disk Name Content) :
    s.Crash m (s.crashed keep) := by
  have houtcome : ∀ (changes : List (Change Name Content)) (base : View Name Content),
      Outcome m changes base (fun p => if keep p then viewOf changes base p else base p) := by
    intro changes base
    induction changes with
    | nil => exact funext fun p => by simp [viewOf]
    | cons ch earlier ih =>
      refine ⟨keep, _, hkeep, ih, funext fun p => ?_⟩
      split
      · next hp =>
        rw [viewOf]
        unfold applyChange
        cases ch.find? (fun a => a.place = p) <;> simp [hp]
      · rfl
  refine ⟨rfl, ?_⟩
  have hview : (s.crashed keep).view = fun p => if keep p then s.view p else s.durable p := by
    funext p
    rw [view_eq_durable rfl, durable, crashed, applyChange_append, view, viewOf_eq_flatten]
    exact applyChange_filter keep s.unsynced.flatten s.durable p
  rw [hview]
  exact houtcome s.unsynced s.durable

theorem may_change {ch : Change Name Content} : (s.change ch).May m f ↔
    ∃ K g, m.Allows K ∧ s.May m g ∧ f = fun p => if K p then applyChange ch g p else g p :=
  Iff.rfl

theorem keep_singleton (K : Place Name → Bool) (p : Place Name) (node : Option (Node Content))
    (g : View Name Content) : (fun q => if K q then applyChange [⟨p, node⟩] g q else g q)
      = if K p then update g p node else g := by
  funext q
  rw [applyChange_singleton]
  by_cases hq : q = p
  · subst hq
    split <;> rfl
  · rw [update_of_ne hq, ite_self]
    split
    · rw [update_of_ne hq]
    · rfl

theorem May.of_change_singleton {p : Place Name} {node : Option (Node Content)}
    (h : (s.change [⟨p, node⟩]).May m f) :
    s.May m f ∨ ∃ g, s.May m g ∧ f = update g p node := by
  obtain ⟨K, g, _, hg, rfl⟩ := may_change.mp h
  rw [keep_singleton]
  split
  · exact .inr ⟨g, hg, rfl⟩
  · exact .inl hg

theorem May.of_change_pair {p q : Place Name} {node node' : Option (Node Content)} (hne : p ≠ q)
    (h : (s.change [⟨p, node⟩, ⟨q, node'⟩]).May m f) :
    ∃ K g, m.Allows K ∧ s.May m g
      ∧ f = (fun h : View Name Content => if K p then update h p node else h)
        (if K q then update g q node' else g) := by
  obtain ⟨K, g, hK, hg, rfl⟩ := may_change.mp h
  refine ⟨K, g, hK, hg, ?_⟩
  rw [← keep_singleton K q node' g]
  dsimp only
  rw [← keep_singleton K p node]
  funext r
  have hsplit := congrFun (applyChange_append [⟨p, node⟩] [⟨q, node'⟩] g) r
  rw [singleton_append] at hsplit
  rw [hsplit]
  by_cases hr : r = p
  · subst hr
    simp only [applyChange_singleton, update_self, update_of_ne hne, ite_self]
  · simp only [applyChange_singleton, update_of_ne hr]
    split <;> simp_all

/-- A sync leaves fewer outcomes, and in its directory only the view. -/
theorem May.of_sync {d : ℕ} (h : (s.sync d).May m f) :
    s.May m f ∧ ∀ p, p.dir = d → f p = s.view p := by
  obtain ⟨hin, g, hg, hout, hview⟩ := Outcome.of_sync
    (fun p hp => (durable_sync d s p).trans (if_neg hp)) h
  have hsame : ∀ p, p.dir = d → f p = s.view p := fun p hp =>
    (hin p hp).trans ((durable_sync d s p).trans (if_pos hp))
  have hfg : f = g := by
    funext p
    by_cases hp : p.dir = d
    · exact (hsame p hp).trans (hview p hp).symm
    · exact (hout p hp).symm
  exact ⟨hfg ▸ hg, hsame⟩

theorem may_iff_of_synced (h : s.unsynced = []) : s.May m f ↔ f = s.view := by
  rw [view_eq_durable h, May, h]
  exact Iff.rfl

def assignments (s : Disk Name Content) : Change Name Content := s.unsynced.flatten ++ s.synced

theorem May.eq_none {p : Place Name} (h : s.May m f) (hp : ∀ a ∈ s.assignments, a.place ≠ p) :
    f p = none := by
  have hdurable : s.durable p = none := by
    rcases applyChange_eq_or s.synced (fun _ => none) p with heq | ⟨a, ha, hplace, _⟩
    · exact heq
    · exact absurd hplace (hp a (mem_append_right _ ha))
  rcases h.eq_or p with heq | ⟨a, ha, hplace, _⟩
  · exact heq.trans hdurable
  · exact absurd hplace (hp a (mem_append_left _ ha))

end Disk

/-! ## System calls -/

structure Path (Name : Type) where
  base : ℕ
  dirs : List Name
  name : Name
deriving DecidableEq

inductive IoError where
  | notFound
  | notADirectory
  | alreadyExists
  | notAFile
  | failed

def resolve (f : View Name Content) : ℕ → List Name → Except IoError ℕ
  | d, [] => .ok d
  | d, name :: rest =>
    match f ⟨d, name⟩ with
    | some (.dir id _) => resolve f id rest
    | some _ => .error .notADirectory
    | none => .error .notFound

omit [DecidableEq Name] in
theorem resolve_append (f : View Name Content) (d : ℕ) (above below : List Name) :
    resolve f d (above ++ below) = (resolve f d above).bind (resolve f · below) := by
  induction above generalizing d with
  | nil => rfl
  | cons name above ih =>
    rw [cons_append, resolve, resolve]
    split
    · exact ih _
    · rfl
    · rfl

omit [DecidableEq Name] in
theorem resolve_congr {f g : View Name Content} {d d' : ℕ} {names : List Name}
    (h : resolve f d names = .ok d')
    (hsame : ∀ p id isPrivate, f p = some (.dir id isPrivate) → g p = some (.dir id isPrivate)) :
    resolve g d names = .ok d' := by
  induction names generalizing d with
  | nil => exact h
  | cons name rest ih =>
    rw [resolve] at h ⊢
    split at h
    · rename_i id isPrivate hnode
      rw [hsame _ _ _ hnode]
      exact ih h
    · cases h
    · cases h

theorem resolve_update {f : View Name Content} {d d' : ℕ} {names : List Name} {p : Place Name}
    {node : Option (Node Content)} (h : resolve f d names = .ok d')
    (hp : ∀ id isPrivate, f p ≠ some (.dir id isPrivate)) :
    resolve (update f p node) d names = .ok d' :=
  resolve_congr h fun q id isPrivate hq => by
    have hne : q ≠ p := fun heq => hp id isPrivate (heq ▸ hq)
    rw [update_of_ne hne]
    exact hq

def ResolvesThrough (keep : Place Name → Prop) (f : View Name Content) : ℕ → List Name → ℕ → Prop
  | d, [], d' => d = d'
  | d, name :: rest, d' => keep ⟨d, name⟩
      ∧ ∃ id isPrivate, f ⟨d, name⟩ = some (.dir id isPrivate) ∧ ResolvesThrough keep f id rest d'

omit [DecidableEq Name] in
theorem ResolvesThrough.resolve {keep : Place Name → Prop} {f g : View Name Content} {d d' : ℕ}
    {names : List Name} (h : ResolvesThrough keep f d names d') (hsame : ∀ p, keep p → g p = f p) :
    resolve g d names = .ok d' := by
  induction names generalizing d with
  | nil => exact congrArg Except.ok h
  | cons name rest ih =>
    obtain ⟨hkeep, id, isPrivate, hnode, hrest⟩ := h
    rw [FileSystem.resolve, hsame _ hkeep, hnode]
    exact ih hrest

def Path.place (p : Path Name) (f : View Name Content) : Except IoError (Place Name) :=
  (resolve f p.base p.dirs).map fun d => ⟨d, p.name⟩

inductive Call (Name Content : Type) where
  | stat (p : Path Name)
  | openFile (p : Path Name)
  | read (p : Path Name)
  | createNew (p : Path Name) (content : Content)
  | write (p : Path Name) (content : Content)
  | protect (p : Path Name)
  | hardLink (source target : Path Name)
  | rename (source target : Path Name)
  | removeFile (p : Path Name)
  | createDir (p : Path Name)
  | removeDirAll (p : Path Name)
  | readDir (base : ℕ) (dirs : List Name)
  | syncDir (base : ℕ) (dirs : List Name)
  | token

def Call.Answer : Call Name Content → Type
  | .stat _ => Except IoError (Option (Node Content))
  | .openFile _ => Except IoError (Node Content)
  | .read _ => Except IoError Content
  | .readDir _ _ => Except IoError (List Name)
  | .token => ℕ
  | _ => Except IoError Unit

def Call.fault : (c : Call Name Content) → Option c.Answer
  | .stat _ => some (.error .failed)
  | .openFile _ => some (.error .failed)
  | .read _ => some (.error .failed)
  | .createNew _ _ => some (.error .failed)
  | .write _ _ => some (.error .failed)
  | .protect _ => some (.error .failed)
  | .hardLink _ _ => some (.error .failed)
  | .rename _ _ => some (.error .failed)
  | .removeFile _ => some (.error .failed)
  | .createDir _ => some (.error .failed)
  | .removeDirAll _ => some (.error .failed)
  | .readDir _ _ => some (.error .failed)
  | .syncDir _ _ => some (.error .failed)
  | .token => none

namespace Disk

variable (s : Disk Name Content)

def lookup (p : Path Name) : Except IoError (Option (Node Content)) :=
  match p.place s.view with
  | .ok place => .ok (s.view place)
  | .error .notFound => .ok none
  | .error e => .error e

def node (s : Disk Name Content) (p : Path Name) : Except IoError (Node Content) := do
  match s.view (← p.place s.view) with
  | some node => .ok node
  | none => .error .notFound

def freshDir : ℕ :=
  (s.assignments.map fun a => max a.place.dir
    (match a.node with | some (.dir id _) => id | _ => 0)).foldr max 0 + 1

def freshToken (tokenOf : Name → ℕ) (s : Disk Name Content) : ℕ :=
  (s.assignments.map fun a => tokenOf a.place.name).foldr max 0 + 1

theorem le_foldr_max {l : List ℕ} {n : ℕ} (h : n ∈ l) : n ≤ l.foldr max 0 := by
  induction l with
  | nil => cases h
  | cons m l ih =>
    rcases mem_cons.mp h with rfl | hmem
    · exact Nat.le_max_left _ _
    · exact Nat.le_trans (ih hmem) (Nat.le_max_right _ _)

variable {m : CrashMode Name} {s : Disk Name Content} {f : View Name Content}

theorem May.eq_none_of_token {tokenOf : Name → ℕ} {p : Place Name} (h : s.May m f)
    (hp : s.freshToken tokenOf ≤ tokenOf p.name) : f p = none := by
  refine h.eq_none fun a ha hplace => ?_
  have hle : tokenOf a.place.name ≤ _ :=
    le_foldr_max (mem_map_of_mem (f := fun a => tokenOf a.place.name) ha)
  rw [freshToken] at hp
  rw [hplace] at hle
  omega

def names (d : ℕ) : List Name :=
  let there := fun p => decide (p.dir = d) && (s.view p).isSome
  ((s.assignments.map (·.place)).filter there).dedup.map (·.name)

theorem isSome_of_mem_names {d : ℕ} {name : Name} (h : name ∈ s.names d) :
    (s.view ⟨d, name⟩).isSome = true := by
  obtain ⟨p, hp, rfl⟩ := mem_map.mp h
  have hfilter := (mem_filter.mp (mem_dedup.mp hp)).2
  rw [Bool.and_eq_true, decide_eq_true_eq] at hfilter
  rw [← hfilter.1]
  exact hfilter.2

theorem nodup_names (d : ℕ) : (s.names d).Nodup := by
  refine (nodup_dedup _).map_on fun p hp q hq hname => ?_
  have hdir : ∀ p, p ∈ ((s.assignments.map (·.place)).filter
      (fun p => decide (p.dir = d) && (s.view p).isSome)).dedup → p.dir = d := fun p hp => by
    have hfilter := (mem_filter.mp (mem_dedup.mp hp)).2
    rw [Bool.and_eq_true, decide_eq_true_eq] at hfilter
    exact hfilter.1
  cases p
  cases q
  simp_all

def commit : Except IoError (Change Name Content) → Except IoError Unit × Disk Name Content
  | .ok ch => (.ok (), s.change ch)
  | .error e => (.error e, s)

def changeAt (p : Path Name) (f : Option (Node Content) → Except IoError (Option (Node Content))) :
    Except IoError Unit × Disk Name Content :=
  s.commit do
    let place ← p.place s.view
    return [⟨place, ← f (s.view place)⟩]

theorem changeAt_of_place {s : Disk Name Content} {p : Path Name} {place : Place Name}
    {f : Option (Node Content) → Except IoError (Option (Node Content))}
    {node : Option (Node Content)} (hplace : p.place s.view = .ok place)
    (hf : f (s.view place) = .ok node) : s.changeAt p f = (.ok (), s.change [⟨place, node⟩]) := by
  simp only [changeAt, commit, hplace, hf, bind, Except.bind, pure, Except.pure]

theorem lookup_of_place {s : Disk Name Content} {p : Path Name} {place : Place Name}
    (hplace : p.place s.view = .ok place) : s.lookup p = .ok (s.view place) := by
  rw [lookup, hplace]

theorem node_of_place {s : Disk Name Content} {p : Path Name} {place : Place Name}
    {node : Node Content} (hplace : p.place s.view = .ok place) (hnode : s.view place = some node) :
    s.node p = .ok node := by
  simp only [Disk.node, hplace, hnode, bind, Except.bind]

end Disk

def perform (tokenOf : Name → ℕ) : (c : Call Name Content) → Disk Name Content →
    c.Answer × Disk Name Content
  | .stat p, s => (s.lookup p, s)
  | .openFile p, s => (s.node p, s)
  | .read p, s => ((do
      match ← s.node p with
      | .file content _ => .ok content
      | _ => .error .notAFile : Except IoError Content), s)
  | .createNew p content, s => s.changeAt p fun
      | none => .ok (some (.file content true))
      | some _ => .error .alreadyExists
  | .write p content, s => s.changeAt p fun
      | some (.file _ isPrivate) => .ok (some (.file content isPrivate))
      | some _ => .error .notAFile
      | none => .error .notFound
  | .protect p, s => s.changeAt p fun
      | some (.file content _) => .ok (some (.file content true))
      | some (.dir id _) => .ok (some (.dir id true))
      | some .symlink => .error .notAFile
      | none => .error .notFound
  | .hardLink source target, s => s.commit do
      match ← s.node source, s.view (← target.place s.view) with
      | .file content isPrivate, none =>
        return [⟨← target.place s.view, some (.file content isPrivate)⟩]
      | _, some _ => .error .alreadyExists
      | _, _ => .error .notAFile
  | .rename source target, s => s.commit do
      let node ← s.node source
      let place ← target.place s.view
      match node, s.view place with
      | _, none => return [⟨place, some node⟩, ⟨← source.place s.view, none⟩]
      | .file _ _, some (.file _ _) => return [⟨place, some node⟩, ⟨← source.place s.view, none⟩]
      | _, some _ => .error .alreadyExists
  | .removeFile p, s => s.changeAt p fun
      | some (.dir _ _) => .error .notAFile
      | some _ => .ok none
      | none => .error .notFound
  | .createDir p, s => s.changeAt p fun
      | none => .ok (some (.dir s.freshDir false))
      | some _ => .error .alreadyExists
  | .removeDirAll p, s => s.changeAt p fun
      | some (.dir _ _) => .ok none
      | some _ => .error .notADirectory
      | none => .error .notFound
  | .readDir base dirs, s => ((resolve s.view base dirs).map s.names, s)
  | .syncDir base dirs, s =>
    match resolve s.view base dirs with
    | .ok d => (.ok (), s.sync d)
    | .error e => (.error e, s)
  | .token, s => (s.freshToken tokenOf, s)

section Links

variable {tokenOf : Name → ℕ} {s : Disk Name Content} {source target : Path Name}
  {place dest : Place Name} {node : Node Content} (hsource : source.place s.view = .ok place)
  (hnode : s.view place = some node) (htarget : target.place s.view = .ok dest)
include hsource hnode htarget

theorem perform_hardLink {content : Content} {isPrivate : Bool}
    (hfile : node = .file content isPrivate) (hnone : s.view dest = none) :
    perform tokenOf (.hardLink source target) s
      = ((.ok () : Except IoError Unit), s.change [⟨dest, some node⟩]) := by
  subst hfile
  simp only [perform, Disk.commit, Disk.node_of_place hsource hnode, htarget, hnone, bind,
    Except.bind, pure, Except.pure]
  rfl

theorem perform_rename (hover : s.view dest = none
      ∨ (∃ content p, node = .file content p) ∧ ∃ content p, s.view dest = some (.file content p)) :
    perform tokenOf (.rename source target) s
      = ((.ok () : Except IoError Unit), s.change [⟨dest, some node⟩, ⟨place, none⟩]) := by
  simp only [perform, Disk.commit, Disk.node_of_place hsource hnode, htarget, hsource, bind,
    Except.bind, pure, Except.pure]
  rcases hover with hnone | ⟨⟨_, _, rfl⟩, _, _, hfile⟩
  · rw [hnone]
  · rw [hfile]

end Links

end FileSystem
