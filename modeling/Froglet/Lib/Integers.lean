import Mathlib.Algebra.Group.Int.Defs
import Mathlib.Algebra.Group.Nat.Defs

/-!
# Fixed-width integers

The unsigned and signed 64-bit ranges, with the operations that check, clamp or wrap at
their ends.
-/

def u64Max : ℕ := 2 ^ 64 - 1

def i64Max : ℕ := 2 ^ 63 - 1

theorem i64Max_le_u64Max : i64Max ≤ u64Max := by decide

def saturatingAdd (a b : ℕ) : ℕ := min (a + b) u64Max

def checkedAdd (a b : ℕ) : Option ℕ := if a + b ≤ u64Max then some (a + b) else none

def wrappingAdd (a b : ℕ) : ℕ := (a + b) % (u64Max + 1)

def saturatingMul (a b : ℕ) : ℕ := min (a * b) u64Max

def checkedMul (a b : ℕ) : Option ℕ := if a * b ≤ u64Max then some (a * b) else none

def wrapI64 (a : ℤ) : ℤ := a.bmod (2 ^ 64)

def saturatingAddI64 (a b : ℤ) : ℤ := max (-2 ^ 63) (min (a + b) i64Max)

def checkedAddI64 (a b : ℤ) : Option ℤ :=
  if -2 ^ 63 ≤ a + b ∧ a + b ≤ i64Max then some (a + b) else none

def saturatingSubI64 (a b : ℤ) : ℤ := max (-2 ^ 63) (min (a - b) i64Max)

theorem saturatingAdd_eq {a b : ℕ} (h : a + b ≤ u64Max) : saturatingAdd a b = a + b :=
  Nat.min_eq_left h

theorem wrappingAdd_eq_iff {a b : ℕ} : wrappingAdd a b = a + b ↔ a + b ≤ u64Max := by
  unfold wrappingAdd u64Max
  omega

theorem checkedMul_eq_some {a b c : ℕ} : checkedMul a b = some c ↔ a * b = c ∧ c ≤ u64Max := by
  unfold checkedMul
  split
  · next h => exact ⟨fun heq => Option.some.inj heq ▸ ⟨rfl, h⟩, fun heq => congrArg some heq.1⟩
  · next h => exact ⟨nofun, fun heq => absurd (heq.1 ▸ heq.2) h⟩

theorem checkedAddI64_eq_some {a b c : ℤ} :
    checkedAddI64 a b = some c ↔ a + b = c ∧ -2 ^ 63 ≤ c ∧ c ≤ i64Max := by
  unfold checkedAddI64
  split
  · next h => exact ⟨fun heq => Option.some.inj heq ▸ ⟨rfl, h⟩, fun heq => congrArg some heq.1⟩
  · next h => exact ⟨nofun, fun heq => absurd (heq.1 ▸ heq.2) h⟩

theorem checkedAdd_eq_some {a b c : ℕ} (h : checkedAdd a b = some c) : a + b = c := by
  unfold checkedAdd at h
  split at h
  · exact Option.some.inj h
  · cases h
