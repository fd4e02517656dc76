import Mathlib.Data.Nat.Notation
import Mathlib.Logic.Basic

/-!
# Programs that make calls

A program returns, fails, or makes a call and goes on with the answer.
-/

inductive Prog (Call : Type) (Answer : Call → Type) (ε α : Type) : Type where
  | ret (a : α)
  | fail (e : ε)
  | call (c : Call) (next : Answer c → Prog Call Answer ε α)

namespace Prog

variable {Call : Type} {Answer : Call → Type} {ε α β : Type}

def bind : Prog Call Answer ε α → (α → Prog Call Answer ε β) → Prog Call Answer ε β
  | ret a, f => f a
  | fail e, _ => fail e
  | call c next, f => call c fun a => (next a).bind f

def attempt : Prog Call Answer ε α → Prog Call Answer ε (Except ε α)
  | ret a => ret (.ok a)
  | fail e => ret (.error e)
  | call c next => call c fun a => (next a).attempt

instance : Monad (Prog Call Answer ε) where
  pure := ret
  bind := bind

def ofExcept : Except ε α → Prog Call Answer ε α
  | .ok a => ret a
  | .error e => fail e

/-! ## Runs -/

variable {p : Prog Call Answer ε α} {f : α → Prog Call Answer ε β} {result : Except ε α}

section Runs

variable {S : Type} (step : (c : Call) → S → Answer c → S → Prop)

inductive Passes : Prog Call Answer ε α → S → S → Prop
  | here (p : Prog Call Answer ε α) (s : S) : Passes p s s
  | next {c : Call} {next : Answer c → Prog Call Answer ε α} {a : Answer c} {s s' t : S} :
      step c s a s' → Passes (next a) s' t → Passes (call c next) s t

inductive Ends : Prog Call Answer ε α → S → Except ε α → S → Prop
  | ret (a : α) (s : S) : Ends (.ret a) s (.ok a) s
  | fail (e : ε) (s : S) : Ends (.fail e) s (.error e) s
  | next {c : Call} {next : Answer c → Prog Call Answer ε α} {a : Answer c} {s s' t : S}
      {result : Except ε α} :
      step c s a s' → Ends (next a) s' result t → Ends (call c next) s result t

/-- What a program ensures: every call is made in a state of the invariant, a
return leaves what was promised of it, and so does a failure. -/
def Ensures (inv : S → Prop) :
    Prog Call Answer ε α → (α → S → Prop) → (ε → S → Prop) → S → Prop
  | ret a, Q, _, s => Q a s
  | fail e, _, E, s => E e s
  | call c next, Q, E, s => inv s ∧ ∀ a s', step c s a s' → (next a).Ensures inv Q E s'

variable {step} {inv : S → Prop} {Q Q' : α → S → Prop} {E E' : ε → S → Prop} {s t : S}

@[simp] theorem ensures_pure {a : α} :
    (pure a : Prog Call Answer ε α).Ensures step inv Q E s ↔ Q a s := Iff.rfl

@[simp] theorem ensures_ret {a : α} :
    (ret a : Prog Call Answer ε α).Ensures step inv Q E s ↔ Q a s := Iff.rfl

@[simp] theorem ensures_fail {e : ε} :
    (fail e : Prog Call Answer ε α).Ensures step inv Q E s ↔ E e s := Iff.rfl

theorem ensures_bind {R : β → S → Prop} : (p >>= f).Ensures step inv R E s
      ↔ p.Ensures step inv (fun a t => (f a).Ensures step inv R E t) E s := by
  show (p.bind f).Ensures step inv R E s ↔ _
  induction p generalizing s with
  | ret a => exact Iff.rfl
  | fail e => exact Iff.rfl
  | call c next ih =>
    exact and_congr_right fun _ => forall_congr' fun a => forall_congr' fun s' =>
      imp_congr_right fun _ => ih a

theorem ensures_attempt {R : Except ε α → S → Prop} :
    p.attempt.Ensures step inv R E s
      ↔ p.Ensures step inv (fun a => R (.ok a)) (fun e => R (.error e)) s := by
  induction p generalizing s with
  | ret a => exact Iff.rfl
  | fail e => exact Iff.rfl
  | call c next ih =>
    exact and_congr_right fun _ => forall_congr' fun a => forall_congr' fun s' =>
      imp_congr_right fun _ => ih a

theorem ensures_ofExcept : (ofExcept result : Prog Call Answer ε α).Ensures step inv Q E s
      ↔ (∀ a, result = .ok a → Q a s) ∧ ∀ e, result = .error e → E e s := by
  cases result <;> simp [ofExcept]

theorem Ensures.mono (h : p.Ensures step inv Q E s)
    (hQ : ∀ a t, Q a t → Q' a t) (hE : ∀ e t, E e t → E' e t) : p.Ensures step inv Q' E' s := by
  induction p generalizing s with
  | ret a => exact hQ a s h
  | fail e => exact hE e s h
  | call c next ih => exact ⟨h.1, fun a s' hstep => ih a (h.2 a s' hstep)⟩

/-- A stopped program leaves the invariant, when its end does. -/
theorem Ensures.passes (h : p.Ensures step inv Q E s) (hpasses : Passes step p s t)
    (hQ : ∀ a t, Q a t → inv t) (hE : ∀ e t, E e t → inv t) : inv t := by
  induction hpasses with
  | here p s =>
    cases p with
    | ret a => exact hQ a s h
    | fail e => exact hE e s h
    | call c next => exact h.1
  | next hstep _ ih => exact ih (h.2 _ _ hstep)

/-- A program that ends leaves what was promised. -/
theorem Ensures.ends (h : p.Ensures step inv Q E s) (hends : Ends step p s result t) :
    (∀ a, result = .ok a → Q a t) ∧ ∀ e, result = .error e → E e t := by
  induction hends with
  | ret a s => exact ⟨fun _ heq => Except.ok.inj heq ▸ h, nofun⟩
  | fail e s => exact ⟨nofun, fun _ heq => Except.error.inj heq ▸ h⟩
  | next hstep _ ih => exact ih (h.2 _ _ hstep)

end Runs

/-! ## The calls a program may make -/

section Confined

variable (allows : Call → Prop) (answers : (c : Call) → Answer c → Prop)

/-- Every call of the program is allowed, and what it returns is as promised,
as long as the calls are answered as they may be. -/
def Confined : Prog Call Answer ε α → (α → Prop) → Prop
  | ret a, Q => Q a
  | fail _, _ => True
  | call c next, Q => allows c ∧ ∀ a, answers c a → (next a).Confined Q

variable {allows answers} {Q Q' : α → Prop}

@[simp] theorem confined_pure {a : α} :
    (pure a : Prog Call Answer ε α).Confined allows answers Q ↔ Q a := Iff.rfl

@[simp] theorem confined_ret {a : α} :
    (ret a : Prog Call Answer ε α).Confined allows answers Q ↔ Q a := Iff.rfl

@[simp] theorem confined_fail {e : ε} :
    (fail e : Prog Call Answer ε α).Confined allows answers Q := trivial

theorem confined_bind {R : β → Prop} : (p >>= f).Confined allows answers R
      ↔ p.Confined allows answers (fun a => (f a).Confined allows answers R) := by
  show (p.bind f).Confined allows answers R ↔ _
  induction p with
  | ret a => exact Iff.rfl
  | fail e => exact Iff.rfl
  | call c next ih =>
    exact and_congr_right fun _ => forall_congr' fun a => imp_congr_right fun _ => ih a

theorem confined_ofExcept : (ofExcept result : Prog Call Answer ε α).Confined allows answers Q
      ↔ ∀ a, result = .ok a → Q a := by
  cases result <;> simp [ofExcept]

section

variable (h : p.Confined allows answers Q)
include h

theorem Confined.mono (hQ : ∀ a, Q a → Q' a) : p.Confined allows answers Q' := by
  induction p with
  | ret a => exact hQ a h
  | fail e => trivial
  | call c next ih => exact ⟨h.1, fun a ha => ih a (h.2 a ha)⟩

theorem Confined.attempt :
    p.attempt.Confined allows answers (fun result => ∀ a, result = .ok a → Q a) := by
  induction p with
  | ret a => exact fun _ heq => Except.ok.inj heq ▸ h
  | fail e => exact nofun
  | call c next ih => exact ⟨h.1, fun a ha => ih a (h.2 a ha)⟩

theorem Confined.bind {R : β → Prop} (hf : ∀ a, Q a → (f a).Confined allows answers R) :
    (p >>= f).Confined allows answers R :=
  confined_bind.mpr (h.mono hf)

end

end Confined

/-! ## Calls that always do their work, and calls that fail -/

section Perform

variable {S : Type} (perform : (c : Call) → S → Answer c × S)
  (fault : (c : Call) → Option (Answer c))

inductive Step (mayFail : Call → S → Prop) (c : Call) (s : S) : Answer c → S → Prop
  | works : Step mayFail c s (perform c s).1 (perform c s).2
  | fails {a : Answer c} : mayFail c s → fault c = some a → Step mayFail c s a s

def run : Prog Call Answer ε α → S → Except ε α × S
  | ret a, s => (.ok a, s)
  | fail e, s => (.error e, s)
  | call c next, s => (next (perform c s).1).run (perform c s).2

def stopAfter : ℕ → Prog Call Answer ε α → S → S
  | 0, _, s => s
  | n + 1, call c next, s => stopAfter n (next (perform c s).1) (perform c s).2
  | _ + 1, _, s => s

variable {perform fault} {mayFail : Call → S → Prop}

theorem run_bind {s : S} : (p >>= f).run perform s = match p.run perform s with
      | (.ok a, t) => (f a).run perform t
      | (.error e, t) => (.error e, t) := by
  show (p.bind f).run perform s = _
  induction p generalizing s with
  | ret a => rfl
  | fail e => rfl
  | call c next ih => exact ih _

theorem run_bind_fst {s t : S} (h : p.run perform s = (result, t)) :
    ((p >>= f).run perform s).1 = result >>= fun a => ((f a).run perform t).1 := by
  rw [run_bind, h]
  cases result <;> rfl

theorem ends_run (p : Prog Call Answer ε α) (s : S) :
    Ends (Step perform fault mayFail) p s (p.run perform s).1 (p.run perform s).2 := by
  induction p generalizing s with
  | ret a => exact .ret a s
  | fail e => exact .fail e s
  | call c next ih => exact .next .works (ih _ _)

theorem passes_stopAfter (n : ℕ) (p : Prog Call Answer ε α) (s : S) :
    Passes (Step perform fault mayFail) p s (stopAfter perform n p s) := by
  induction n generalizing p s with
  | zero => exact .here p s
  | succ n ih =>
    cases p with
    | call c next => exact .next .works (ih _ _)
    | ret a => exact .here _ s
    | fail e => exact .here _ s

/-- A run ends as was promised, where no failure was allowed for. -/
theorem Ensures.run {inv : S → Prop} {Q : α → S → Prop} {s : S}
    (h : p.Ensures (Step perform fault mayFail) inv Q (fun _ _ => False) s) :
    ∃ a, (p.run perform s).1 = .ok a ∧ Q a (p.run perform s).2 := by
  have hends := h.ends (ends_run p s)
  cases hresult : (p.run perform s).1 with
  | ok a => exact ⟨a, rfl, hends.1 a hresult⟩
  | error e => exact (hends.2 e hresult).elim

end Perform

end Prog
