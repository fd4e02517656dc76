import Froglet.Lib.Checks
import Mathlib.Order.Basic

/-!
# Publication limits

A publisher asks for limits, and gets them within the limits of the runtime. Zero stands
for a default of the sandbox in two of them, so a limit is compared as it is used.
-/

namespace Froglet

structure ResolvedPublicationLimits where
  (maxInputBytes maxRuntimeMs maxMemoryBytes maxOutputBytes fuelLimit : ℕ)
deriving DecidableEq

def wasmFuelLimit : ℕ := 50000000

def wasmMaxMemoryBytes : ℕ := 8 * 1024 * 1024

/-- A limit as the sandbox uses it: zero is the default, which is also the most there is. -/
def sandboxed (default limit : ℕ) : ℕ := min (if limit = 0 then default else limit) default

def ResolvedPublicationLimits.effective (limits : ResolvedPublicationLimits) :
    ResolvedPublicationLimits :=
  { limits with
    maxMemoryBytes := sandboxed wasmMaxMemoryBytes limits.maxMemoryBytes
    fuelLimit := sandboxed wasmFuelLimit limits.fuelLimit }

namespace Limits

variable {requested maximum : ℕ}

structure PublicationLimits where
  (maxInputBytes maxRuntimeMs maxMemoryBytes maxOutputBytes fuelLimit : Option ℕ)

structure InvalidLimit where
  field : String
  (requested maximum : ℕ)
deriving DecidableEq

def checkLimit (field : String) (requested maximum : ℕ) : Except InvalidLimit Unit :=
  rejectIf (if maximum == 0 then requested != 0 else requested == 0 || maximum < requested)
    { field, requested, maximum }

def PublicationLimits.resolveWithin (requested : PublicationLimits)
    (available : ResolvedPublicationLimits) : Except InvalidLimit ResolvedPublicationLimits := do
  let resolved : ResolvedPublicationLimits :=
    { maxInputBytes := requested.maxInputBytes.getD available.maxInputBytes
      maxRuntimeMs := requested.maxRuntimeMs.getD available.maxRuntimeMs
      maxMemoryBytes := requested.maxMemoryBytes.getD available.maxMemoryBytes
      maxOutputBytes := requested.maxOutputBytes.getD available.maxOutputBytes
      fuelLimit := requested.fuelLimit.getD available.fuelLimit }
  checkLimit "max_input_bytes" resolved.maxInputBytes available.maxInputBytes
  checkLimit "max_runtime_ms" resolved.maxRuntimeMs available.maxRuntimeMs
  checkLimit "max_memory_bytes" resolved.maxMemoryBytes available.maxMemoryBytes
  checkLimit "max_output_bytes" resolved.maxOutputBytes available.maxOutputBytes
  rejectIf (decide (available.fuelLimit < resolved.fuelLimit) && available.fuelLimit != 0)
    { field := "fuel_limit", requested := resolved.fuelLimit, maximum := available.fuelLimit }
  return resolved

structure Narrower (limits available : ResolvedPublicationLimits) : Prop where
  maxInputBytes : limits.maxInputBytes ≤ available.maxInputBytes
  maxRuntimeMs : limits.maxRuntimeMs ≤ available.maxRuntimeMs
  maxMemoryBytes : limits.maxMemoryBytes ≤ available.maxMemoryBytes
  maxOutputBytes : limits.maxOutputBytes ≤ available.maxOutputBytes
  fuelLimit : limits.fuelLimit ≤ available.fuelLimit

theorem checkLimit_eq_ok {field : String} :
    checkLimit field requested maximum = .ok ()
      ↔ requested ≤ maximum ∧ (requested = 0 → maximum = 0) := by
  unfold checkLimit
  rw [rejectIf_eq_ok]
  by_cases hzero : maximum = 0
  · simp [hzero]
  · simp [hzero]
    omega

/-- A checked limit stays narrower in the sandbox: it is zero only where both are. -/
theorem sandboxed_le {default : ℕ} (h : requested ≤ maximum ∧ (requested = 0 → maximum = 0)) :
    sandboxed default requested ≤ sandboxed default maximum := by
  unfold sandboxed
  split <;> split <;> omega

theorem sandboxed_fuel_le (h : requested ≤ maximum ∨ maximum = 0) :
    sandboxed wasmFuelLimit requested ≤ sandboxed wasmFuelLimit maximum
      ↔ ¬ (requested = 0 ∧ maximum ≠ 0 ∧ maximum < wasmFuelLimit) := by
  unfold sandboxed
  split <;> split <;> omega

/-- **Resolved limits are narrower than the available ones exactly when the request does
not ask for zero fuel** where less than the default is available. -/
theorem resolved_narrower_iff {requested : PublicationLimits}
    {available resolved : ResolvedPublicationLimits}
    (h : requested.resolveWithin available = .ok resolved) :
    Narrower resolved.effective available.effective
      ↔ ¬ (requested.fuelLimit = some 0 ∧ available.fuelLimit ≠ 0
        ∧ available.fuelLimit < wasmFuelLimit) := by
  unfold PublicationLimits.resolveWithin at h
  simp only [↓check_eq_ok, checkLimit_eq_ok, rejectIf_eq_ok, pure_eq_ok] at h
  obtain ⟨hinput, hruntime, hmemory, houtput, hfuel, rfl⟩ := h
  have hchecked : requested.fuelLimit.getD available.fuelLimit ≤ available.fuelLimit
      ∨ available.fuelLimit = 0 := by
    simp at hfuel
    omega
  have hzero : (requested.fuelLimit.getD available.fuelLimit = 0 ∧ available.fuelLimit ≠ 0
        ∧ available.fuelLimit < wasmFuelLimit)
      ↔ (requested.fuelLimit = some 0 ∧ available.fuelLimit ≠ 0
        ∧ available.fuelLimit < wasmFuelLimit) := by
    cases requested.fuelLimit with
    | none => simp; omega
    | some fuel => simp
  rw [← hzero, ← sandboxed_fuel_le hchecked]
  exact ⟨fun hall => hall.fuelLimit, fun hfuel =>
    ⟨hinput.1, hruntime.1, sandboxed_le hmemory, houtput.1, hfuel⟩⟩

def sampleAvailable : ResolvedPublicationLimits := ⟨1, 1, 0, 1, 100⟩

theorem resolved_narrower_half :
    Narrower (ResolvedPublicationLimits.mk 1 1 0 1 50).effective sampleAvailable.effective := by
  have hresolve : PublicationLimits.resolveWithin ⟨none, none, none, none, some 50⟩
      sampleAvailable = .ok ⟨1, 1, 0, 1, 50⟩ := by decide
  exact (resolved_narrower_iff hresolve).mpr (by decide)

/-- **A request for no fuel gets all of it.** -/
theorem zero_fuel_widens :
    PublicationLimits.resolveWithin ⟨none, none, none, none, some 0⟩ sampleAvailable
        = .ok ⟨1, 1, 0, 1, 0⟩ ∧ sampleAvailable.effective.fuelLimit = 100
      ∧ (ResolvedPublicationLimits.mk 1 1 0 1 0).effective.fuelLimit = 50000000 := by
  decide

end Limits

end Froglet
