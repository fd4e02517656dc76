import Mathlib.Data.List.Nodup
import Mathlib.Algebra.BigOperators.Group.List.Basic
import Mathlib.Algebra.GroupWithZero.Nat

/-!
# Tables with unique columns

A relational table is the list of its rows. A guarded `UPDATE` maps the rows that meet
its `WHERE` clause, a `DELETE` filters them out, and an `INSERT` appends a row.
-/

theorem mem_concat {α : Type*} {a b : α} {l : List α} : a ∈ l ++ [b] ↔ a ∈ l ∨ a = b := by
  rw [List.mem_append, List.mem_singleton]

namespace Table

variable {ρ κ : Type*}

def updateWhere (p : ρ → Bool) (f : ρ → ρ) (t : List ρ) : List ρ :=
  t.map fun r => if p r then f r else r

def deleteWhere (p : ρ → Bool) (t : List ρ) : List ρ := t.filter fun r => !p r

def selectWhere (p : ρ → Bool) (t : List ρ) : Option ρ := t.find? p

def sumWhere (p : ρ → Bool) (w : ρ → ℕ) (t : List ρ) : ℕ := ((t.filter p).map w).sum

def Unique (key : ρ → Option κ) (t : List ρ) : Prop := (t.filterMap key).Nodup

instance [DecidableEq κ] (key : ρ → Option κ) (t : List ρ) : Decidable (Unique key t) :=
  inferInstanceAs (Decidable (t.filterMap key).Nodup)

/-! ## Membership -/

variable {t : List ρ} {f : ρ → ρ} {r : ρ}

theorem mem_updateWhere {p : ρ → Bool} :
    r ∈ updateWhere p f t ↔ ∃ r₀ ∈ t, (if p r₀ then f r₀ else r₀) = r :=
  List.mem_map

theorem updateWhere_of_forall_not {p : ρ → Bool} (h : ∀ r ∈ t, p r = false) :
    updateWhere p f t = t := by
  unfold updateWhere
  refine (List.map_congr_left (fun r hr => ?_)).trans t.map_id'
  rw [h r hr]
  rfl

theorem mem_deleteWhere {p : ρ → Bool} : r ∈ deleteWhere p t ↔ r ∈ t ∧ p r = false := by
  simp [deleteWhere]

theorem selectWhere_some {p : ρ → Bool} (h : selectWhere p t = some r) : r ∈ t ∧ p r = true :=
  ⟨List.mem_of_find?_eq_some h, List.find?_some h⟩

theorem selectWhere_none {p : ρ → Bool} (h : selectWhere p t = none) (hr : r ∈ t) :
    p r = false := by
  simpa using List.find?_eq_none.mp h r hr

variable {q : ρ → Bool}

theorem selectWhere_updateWhere_of_disjoint {p : ρ → Bool}
    (h : ∀ r, p r = true → q r = false ∧ q (f r) = false) :
    selectWhere q (updateWhere p f t) = selectWhere q t := by
  induction t with
  | nil => rfl
  | cons r t ih =>
    show List.find? q ((if p r then f r else r) :: updateWhere p f t) = List.find? q (r :: t)
    cases hp : p r with
    | true =>
      obtain ⟨hbefore, hafter⟩ := h r hp
      rw [if_pos rfl, List.find?_cons_of_neg (by simp [hafter]),
        List.find?_cons_of_neg (by simp [hbefore])]
      exact ih
    | false =>
      rw [if_neg (by simp), List.find?_cons, List.find?_cons]
      split
      · rfl
      · exact ih

theorem selectWhere_updateWhere {p : ρ → Bool} (h : ∀ r, q (f r) = q r) :
    selectWhere q (updateWhere p f t)
      = (selectWhere q t).map (fun r => if p r then f r else r) := by
  have hkeep : ∀ r, q (if p r then f r else r) = q r := fun r => by split <;> simp [h]
  unfold selectWhere updateWhere
  rw [List.find?_map]
  exact congrArg (Option.map _) (congrArg (List.find? · t) (funext hkeep))

theorem filter_updateWhere {p : ρ → Bool} (h : ∀ r, q (f r) = q r) :
    (updateWhere p f t).filter q = updateWhere p f (t.filter q) := by
  have hkeep : ∀ r, q (if p r then f r else r) = q r := fun r => by split <;> simp [h]
  unfold updateWhere
  rw [List.filter_map]
  exact congrArg (List.map _) (congrArg (List.filter · t) (funext hkeep))

/-! ## Unique columns -/

theorem unique_nil (key : ρ → Option κ) : Unique key ([] : List ρ) := List.nodup_nil

variable {key : ρ → Option κ}

theorem unique_cons :
    Unique key (r :: t) ↔ (∀ k, key r = some k → ∀ r' ∈ t, key r' ≠ some k) ∧ Unique key t := by
  unfold Unique
  cases hk : key r with
  | none => simp [hk]
  | some k =>
    simp only [List.filterMap_cons, hk, List.nodup_cons, List.mem_filterMap, not_exists,
      not_and, Option.some.injEq, forall_eq', ne_eq]

theorem Unique.eq_of_mem (h : Unique key t) {r' : ρ} (hr : r ∈ t) (hr' : r' ∈ t) {k : κ}
    (hk : key r = some k) (hk' : key r' = some k) : r = r' := by
  induction t with
  | nil => cases hr
  | cons a t ih =>
    obtain ⟨hfresh, ht⟩ := unique_cons.mp h
    rcases List.mem_cons.mp hr with rfl | hrt
    · rcases List.mem_cons.mp hr' with rfl | hrt'
      · rfl
      · exact absurd hk' (hfresh k hk r' hrt')
    · rcases List.mem_cons.mp hr' with rfl | hrt'
      · exact absurd hk (hfresh k hk' r hrt)
      · exact ih ht hrt hrt'

theorem Unique.nodup {key : ρ → κ} (h : Unique (fun r => some (key r)) t) : t.Nodup := by
  unfold Unique at h
  rw [List.filterMap_eq_map'] at h
  exact h.of_map key

theorem Unique.selectWhere_of_mem (h : Unique key t) (hr : r ∈ t) {k : κ} {p : ρ → Bool}
    (hp : ∀ r', p r' = true ↔ key r' = some k) (hk : key r = some k) :
    selectWhere p t = some r := by
  cases hfound : selectWhere p t with
  | none => exact absurd ((hp r).mpr hk) (Bool.eq_false_iff.mp (selectWhere_none hfound hr))
  | some r' =>
    obtain ⟨hmem, hpr'⟩ := selectWhere_some hfound
    rw [h.eq_of_mem hmem hr ((hp r').mp hpr') hk]

theorem Unique.filter_key [DecidableEq κ] (h : Unique key t) (hr : r ∈ t) {k : κ}
    (hk : key r = some k) : t.filter (fun r' => key r' == some k) = [r] := by
  induction t with
  | nil => cases hr
  | cons a t ih =>
    obtain ⟨hfresh, ht⟩ := unique_cons.mp h
    rcases List.mem_cons.mp hr with rfl | hrt
    · have hrest : t.filter (fun r' => key r' == some k) = [] :=
        List.filter_eq_nil_iff.mpr fun r' hr' heq => hfresh k hk r' hr' (beq_iff_eq.mp heq)
      simp only [List.filter_cons, hk, beq_self_eq_true, if_true, hrest]
    · have hother : key a ≠ some k := fun heq => hfresh k heq r hrt hk
      rw [List.filter_cons, if_neg (fun heq => hother (beq_iff_eq.mp heq)), ih ht hrt]

theorem Unique.length_filter_le_one (h : Unique key t)
    {p : ρ → Bool} {k : κ} (hp : ∀ r, p r = true → key r = some k) : (t.filter p).length ≤ 1 := by
  have hkeys : (t.filter p).filterMap key = List.replicate (t.filter p).length k := by
    rw [← List.map_const', ← List.filterMap_eq_map]
    exact List.filterMap_congr fun r hr => hp r (List.of_mem_filter hr)
  have hnodup : ((t.filter p).filterMap key).Nodup := (List.filter_sublist.filterMap key).nodup h
  rw [hkeys] at hnodup
  exact List.nodup_replicate.mp hnodup

theorem filterMap_updateWhere {p : ρ → Bool} (hf : ∀ r ∈ t, p r = true → key (f r) = key r) :
    (updateWhere p f t).filterMap key = t.filterMap key := by
  rw [updateWhere, List.filterMap_map]
  refine List.filterMap_congr fun r hr => ?_
  by_cases hp : p r = true
  · simp [hp, hf r hr hp]
  · simp [hp]

theorem Unique.updateWhere {p : ρ → Bool} (h : Unique key t)
    (hf : ∀ r ∈ t, p r = true → key (f r) = key r) : Unique key (updateWhere p f t) := by
  unfold Unique
  rw [filterMap_updateWhere hf]
  exact h

theorem Unique.deleteWhere (h : Unique key t) (p : ρ → Bool) : Unique key (deleteWhere p t) :=
  (List.filter_sublist.filterMap key).nodup h

theorem Unique.concat (h : Unique key t) (hr : ∀ r' ∈ t, ∀ k, key r' = some k → key r ≠ some k) :
    Unique key (t ++ [r]) := by
  unfold Unique
  rw [List.filterMap_append]
  refine List.Nodup.append h ?_ ?_
  · cases hk : key r <;> simp [hk]
  · intro k hk hk'
    obtain ⟨r', hr', hkr'⟩ := List.mem_filterMap.mp hk
    obtain ⟨r'', hr'', hkr''⟩ := List.mem_filterMap.mp hk'
    rw [List.mem_singleton.mp hr''] at hkr''
    exact hr r' hr' k hkr' hkr''

/-! ## Sums of a column -/

section Sums

variable (p : ρ → Bool) (w : ρ → ℕ)

def weight (r : ρ) : ℕ := if p r then w r else 0

@[simp] theorem sumWhere_nil : sumWhere p w [] = 0 := rfl

@[simp] theorem sumWhere_cons (r : ρ) (t : List ρ) :
    sumWhere p w (r :: t) = weight p w r + sumWhere p w t := by
  unfold sumWhere weight
  by_cases h : p r = true <;> simp [h]

@[simp] theorem sumWhere_append (t t' : List ρ) :
    sumWhere p w (t ++ t') = sumWhere p w t + sumWhere p w t' := by
  simp [sumWhere]

theorem le_sumWhere (hr : r ∈ t) (hp : p r = true) : w r ≤ sumWhere p w t := by
  induction t with
  | nil => cases hr
  | cons a t ih =>
    rw [sumWhere_cons]
    rcases List.mem_cons.mp hr with rfl | hrt
    · rw [weight, if_pos hp]
      exact Nat.le_add_right _ _
    · exact Nat.le_add_left_of_le (ih hrt)

theorem sumWhere_updateWhere_eq (hf : ∀ r ∈ t, q r = true → weight p w (f r) = weight p w r) :
    sumWhere p w (updateWhere q f t) = sumWhere p w t := by
  induction t with
  | nil => rfl
  | cons r t ih =>
    have hr : weight p w (if q r then f r else r) = weight p w r := by
      by_cases hq : q r = true
      · rw [if_pos hq, hf r List.mem_cons_self hq]
      · rw [if_neg hq]
    have ht := ih fun r' hr' => hf r' (List.mem_cons_of_mem r hr')
    simp only [updateWhere, List.map_cons, sumWhere_cons] at ht ⊢
    rw [hr, ht]

theorem sumWhere_updateWhere_le (hf : ∀ r ∈ t, q r = true → weight p w (f r) ≤ weight p w r) :
    sumWhere p w (updateWhere q f t) ≤ sumWhere p w t := by
  induction t with
  | nil => exact Nat.le_refl 0
  | cons r t ih =>
    have hr : weight p w (if q r then f r else r) ≤ weight p w r := by
      by_cases hq : q r = true
      · rw [if_pos hq]
        exact hf r List.mem_cons_self hq
      · exact Nat.le_of_eq (by rw [if_neg hq])
    have ht := ih fun r' hr' => hf r' (List.mem_cons_of_mem r hr')
    simp only [updateWhere, List.map_cons, sumWhere_cons] at ht ⊢
    exact Nat.add_le_add hr ht

theorem sumWhere_deleteWhere_le (q : ρ → Bool) (t : List ρ) :
    sumWhere p w (deleteWhere q t) ≤ sumWhere p w t := by
  induction t with
  | nil => exact Nat.le_refl 0
  | cons r t ih =>
    by_cases hq : q r = true
    · simp only [deleteWhere, hq, List.filter_cons, Bool.not_true, Bool.false_eq_true,
        if_false, sumWhere_cons] at ih ⊢
      exact Nat.le_add_left_of_le ih
    · simp only [deleteWhere, hq, List.filter_cons, Bool.not_false, if_true, sumWhere_cons] at ih ⊢
      exact Nat.add_le_add_left ih _

theorem sumWhere_updateWhere_key_le
    (hu : Unique key t) {k : κ} (hq : ∀ r ∈ t, q r = true → key r = some k)
    {b : ℕ} (hb : ∀ r ∈ t, q r = true → weight p w (f r) ≤ b) :
    sumWhere p w (updateWhere q f t) ≤ sumWhere p w t + b := by
  induction t with
  | nil => exact Nat.zero_le _
  | cons r t ih =>
    obtain ⟨hfresh, ht⟩ := unique_cons.mp hu
    have hq' : ∀ r' ∈ t, q r' = true → key r' = some k :=
      fun r' hr' => hq r' (List.mem_cons_of_mem r hr')
    have hb' : ∀ r' ∈ t, q r' = true → weight p w (f r') ≤ b :=
      fun r' hr' => hb r' (List.mem_cons_of_mem r hr')
    by_cases hr : q r = true
    · -- the other rows carry other keys, so the update leaves them alone
      have hrest : sumWhere p w (updateWhere q f t) = sumWhere p w t := by
        refine sumWhere_updateWhere_eq p w fun r' hr' hqr' => ?_
        exact absurd (hq' r' hr' hqr') (hfresh k (hq r List.mem_cons_self hr) r' hr')
      have hone := hb r List.mem_cons_self hr
      simp only [updateWhere, List.map_cons, sumWhere_cons, hr, if_true] at hrest ⊢
      omega
    · have hrest := ih ht hq' hb'
      simp only [updateWhere, List.map_cons, sumWhere_cons, hr, Bool.false_eq_true,
        if_false] at hrest ⊢
      omega

end Sums

end Table
