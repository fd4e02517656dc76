import Mathlib.Data.List.Basic
import Mathlib.Data.List.Induction
import Mathlib.Order.Defs.Unbundled

/-!
# Machines and their runs

A machine is a state together with a step that consumes one input. All the
nondeterminism of the modelled system – which task moves next, what a remote
party answers, what the clock shows – is in the inputs, so a run is the fold
of a list of inputs and every interleaving is one such list.
-/

variable {σ α : Type*}

structure Machine (σ α : Type*) where
  init : σ
  step : σ → α → σ

namespace Machine

open List

def runFrom (M : Machine σ α) (s : σ) (as : List α) : σ := as.foldl M.step s

def run (M : Machine σ α) (as : List α) : σ := M.runFrom M.init as

variable (M : Machine σ α)

@[simp] theorem runFrom_nil (s : σ) : M.runFrom s [] = s := rfl

@[simp] theorem runFrom_cons (s : σ) (a : α) (as : List α) :
    M.runFrom s (a :: as) = M.runFrom (M.step s a) as := rfl

theorem runFrom_append (s : σ) (as bs : List α) :
    M.runFrom s (as ++ bs) = M.runFrom (M.runFrom s as) bs :=
  foldl_append

theorem run_append (as bs : List α) : M.run (as ++ bs) = M.runFrom (M.run as) bs :=
  M.runFrom_append M.init as bs

variable {I : σ → Prop}

/-- Invariant rule. -/
theorem invariant (h₀ : I M.init) (hstep : ∀ s a, I s → I (M.step s a)) (as : List α) :
    I (M.run as) :=
  foldlRecOn as M.step h₀ fun s hs a _ => hstep s a hs

/-- Invariant rule with a history: what holds of a state and the inputs that led to it. -/
theorem invariant_history {H : List α → σ → Prop} (h₀ : H [] M.init)
    (hstep : ∀ as a, H as (M.run as) → H (as ++ [a]) (M.step (M.run as) a)) (as : List α) :
    H as (M.run as) := by
  induction as using reverseRecOn with
  | nil => exact h₀
  | append_singleton as a ih =>
    rw [run_append]
    exact hstep as a ih

/-! ## Runs under a side condition -/

def Admissible (ok : σ → α → Prop) : σ → List α → Prop
  | _, [] => True
  | s, a :: as => ok s a ∧ Admissible ok (M.step s a) as

instance (ok : σ → α → Prop) [∀ s a, Decidable (ok s a)] :
    ∀ (as : List α) (s : σ), Decidable (M.Admissible ok s as)
  | [], _ => isTrue trivial
  | a :: as, s =>
    have := instDecidableAdmissible ok as (M.step s a)
    inferInstanceAs (Decidable (ok s a ∧ M.Admissible ok (M.step s a) as))

variable {ok : σ → α → Prop}

theorem admissible_append {s : σ} {as bs : List α} :
    M.Admissible ok s (as ++ bs) ↔ M.Admissible ok s as ∧ M.Admissible ok (M.runFrom s as) bs := by
  induction as generalizing s with
  | nil => exact (and_iff_right trivial).symm
  | cons a as ih => rw [cons_append, Admissible, Admissible, ih, runFrom_cons, and_assoc]

/-- Guarded invariant rule. -/
theorem invariant_of_admissible (hstep : ∀ s a, I s → ok s a → I (M.step s a)) :
    ∀ (as : List α) (s : σ), I s → M.Admissible ok s as → I (M.runFrom s as)
  | [], _, hs, _ => hs
  | a :: as, s, hs, h => invariant_of_admissible hstep as (M.step s a) (hstep s a hs h.1) h.2

/-- When a property holds throughout. -/
theorem always_iff_admissible {J : σ → Prop} (hinv : ∀ s a, J s → J (M.step s a))
    (hstep : ∀ s a, J s → I s → (I (M.step s a) ↔ ok s a)) (as : List α) (s : σ)
    (hJ : J s) (hI : I s) : (∀ n, I (M.runFrom s (as.take n))) ↔ M.Admissible ok s as := by
  induction as generalizing s with
  | nil => exact ⟨fun _ => trivial, fun _ n => by simpa using hI⟩
  | cons a as ih =>
    constructor
    · intro h
      have hnext : I (M.step s a) := by simpa using h 1
      have hrest : ∀ n, I (M.runFrom (M.step s a) (as.take n)) := fun n => by simpa using h (n + 1)
      exact ⟨(hstep s a hJ hI).mp hnext, (ih _ (hinv s a hJ) hnext).mp hrest⟩
    · rintro ⟨hok, h⟩ n
      have hnext := (hstep s a hJ hI).mpr hok
      cases n with
      | zero => simpa using hI
      | succ n => simpa using (ih _ (hinv s a hJ) hnext).mpr h n

/-! ## Until -/

def Until (I : σ → Prop) (ends : σ → α → Prop) : σ → List α → Prop
  | s, [] => I s
  | s, a :: as => I s ∧ (ends s a ∨ Until I ends (M.step s a) as)

/-- Until rule. -/
theorem until_of_step {J : σ → Prop} {ends : σ → α → Prop} (hinv : ∀ s a, J s → J (M.step s a))
    (hstep : ∀ s a, J s → I s → ¬ ends s a → I (M.step s a)) :
    ∀ (as : List α) (s : σ), J s → I s → M.Until I ends s as
  | [], _, _, hI => hI
  | a :: as, s, hJ, hI => by
    refine ⟨hI, ?_⟩
    by_cases hends : ends s a
    · exact .inl hends
    · exact .inr (until_of_step hinv hstep as _ (hinv s a hJ) (hstep s a hJ hI hends))

/-! ## Relations between a state and a later one -/

/-- Two-state rule. -/
theorem run_rel {R : σ → σ → Prop} [IsPreorder σ R] (hinv : ∀ s a, I s → I (M.step s a))
    (hstep : ∀ s a, I s → R s (M.step s a)) (as : List α) (s : σ) (hs : I s) :
    R s (M.runFrom s as) := by
  induction as generalizing s with
  | nil => exact refl_of R s
  | cons a as ih => exact trans_of R (hstep s a hs) (ih (M.step s a) (hinv s a hs))

end Machine
