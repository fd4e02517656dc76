import Froglet.Lib.Integers
import Froglet.Lib.Runs
import Froglet.Lib.Table

/-!
# The requester's spend ledger

Every paid deal a requester commits to holds its full quoted total in the ledger, one
row per deal artifact.
-/

namespace Froglet

/-- The states of a ledger row. -/
inductive SpendState where
  | reserved
  | externalPending
  | committed
  | archived
deriving DecidableEq

def SpendState.text : SpendState → String
  | reserved => "reserved"
  | externalPending => "external_pending"
  | committed => "committed"
  | archived => "archived"

structure RequesterSpendConfig where
  (maxDealMsat spendBudgetMsat : Option ℕ)

structure SpendRow where
  dealHash : String
  dealId : Option String
  providerId : String
  amountMsat : ℕ
  settlementMethod : String
  state : SpendState
  (createdAt updatedAt : ℤ)
deriving DecidableEq

abbrev SpendLedger := List SpendRow

inductive SpendDecision where
  | reserved
  | unconfigured
  | capExceeded (maxDealMsat : ℕ)
  | budgetExceeded (spendBudgetMsat spentMsat remainingMsat : ℕ)

structure SpendTotals where
  (reservedMsat committedMsat : ℕ)

def SpendRow.counts (r : SpendRow) : Bool :=
  r.state == .reserved || r.state == .externalPending || r.state == .committed

variable (l : SpendLedger)

def SpendLedger.outstanding : ℕ :=
  Table.sumWhere SpendRow.counts SpendRow.amountMsat l

def outstandingMsat : Except String ℕ :=
  if l.outstanding ≤ i64Max then .ok l.outstanding
  else .error "spend ledger sum failed: integer overflow"

def tryReserveSpend (policy : RequesterSpendConfig) (dealHash providerId : String)
    (amountMsat : ℕ) (settlementMethod : String) (now : ℤ) (l : SpendLedger) :
    Except String SpendDecision × SpendLedger :=
  if amountMsat > i64Max then
    (.error "spend amount exceeds the signed SQLite range", l)
  else match policy.spendBudgetMsat with
  | none => (.ok .unconfigured, l)
  | some budget =>
    match policy.maxDealMsat.filter (amountMsat > ·) with
    | some cap => (.ok (.capExceeded cap), l)
    | none =>
      let existing := (Table.selectWhere (·.dealHash == dealHash) l).map (·.state)
      -- an identical replay finds its amount already held
      if existing.any (· != .archived) then (.ok .reserved, l)
      else match outstandingMsat l with
      | .error e => (.error e, l)
      | .ok spent =>
        let remaining := budget - spent
        if amountMsat > remaining then
          (.ok (.budgetExceeded budget spent remaining), l)
        else if existing = some .archived then
          -- a reset archived this hash: its replay is a fresh spend
          (.ok .reserved,
            Table.updateWhere (fun r => r.dealHash == dealHash && r.state == .archived)
              (fun r => { r with
                dealId := none, providerId, amountMsat, settlementMethod,
                state := .reserved, updatedAt := now }) l)
        else
          (.ok .reserved,
            l ++ [{ dealHash, dealId := none, providerId, amountMsat, settlementMethod,
                    state := .reserved, createdAt := now, updatedAt := now }])

def commitSpend (dealHash dealId : String) (now : ℤ) (l : SpendLedger) : SpendLedger :=
  Table.updateWhere
    (fun r => r.dealHash == dealHash && (r.state == .reserved || r.state == .externalPending))
    (fun r => { r with state := .committed, dealId := some dealId, updatedAt := now }) l

def markSpendExternalPending (dealHash : String) (now : ℤ) (l : SpendLedger) :
    Except String Unit × SpendLedger :=
  let hit : SpendRow → Bool := fun r => r.dealHash == dealHash && r.state == .reserved
  let l' := Table.updateWhere hit
    (fun r => { r with state := .externalPending, updatedAt := now }) l
  if l.countP hit = 1 then (.ok (), l')
  else match (Table.selectWhere (·.dealHash == dealHash) l').map SpendRow.state with
  | some .externalPending => (.ok (), l')
  | some .committed => (.ok (), l')
  | some state =>
    let other := state.text
    (.error s!"spend ledger cannot cross external boundary from state {other}", l')
  | none => (.error "spend ledger reservation disappeared before external effect", l')

def releaseSpend (dealHash : String) (l : SpendLedger) : SpendLedger :=
  Table.deleteWhere (fun r => r.dealHash == dealHash && r.state == .reserved) l

def resetSpend (now : ℤ) (l : SpendLedger) : ℕ × SpendLedger :=
  (l.countP (·.state == .committed),
    Table.updateWhere (·.state == .committed)
      (fun r => { r with state := .archived, updatedAt := now }) l)

def sweepStaleReservations (maxAgeSecs now : ℤ) (l : SpendLedger) : ℕ × SpendLedger :=
  let stale : SpendRow → Bool := fun r =>
    r.state == .reserved && decide (r.updatedAt < wrapI64 (now - maxAgeSecs))
  (l.countP stale, Table.deleteWhere stale l)

def groupSum (state : SpendState) : Except String ℕ :=
  let sum := Table.sumWhere (·.state == state) SpendRow.amountMsat l
  if sum ≤ i64Max then .ok sum
  else .error "spend ledger totals failed: integer overflow"

def spendTotals : Except String SpendTotals := do
  let committed ← groupSum l .committed
  let externalPending ← groupSum l .externalPending
  let reserved ← groupSum l .reserved
  return { reservedMsat := saturatingAdd (saturatingAdd 0 externalPending) reserved
           committedMsat := committed }

inductive SpendOp where
  | tryReserve (dealHash providerId : String) (amountMsat : ℕ) (settlementMethod : String) (now : ℤ)
  | markExternalPending (dealHash : String) (now : ℤ)
  | commit (dealHash dealId : String) (now : ℤ)
  | release (dealHash : String)
  | sweepStale (maxAgeSecs now : ℤ)
  | reset (now : ℤ)

def spendMachine (policy : RequesterSpendConfig) : Machine SpendLedger SpendOp where
  init := []
  step l
    | .tryReserve dealHash providerId amountMsat settlementMethod now =>
      (tryReserveSpend policy dealHash providerId amountMsat settlementMethod now l).2
    | .markExternalPending dealHash now => (markSpendExternalPending dealHash now l).2
    | .commit dealHash dealId now => commitSpend dealHash dealId now l
    | .release dealHash => releaseSpend dealHash l
    | .sweepStale maxAgeSecs now => (sweepStaleReservations maxAgeSecs now l).2
    | .reset now => (resetSpend now l).2

structure WithinPolicy (policy : RequesterSpendConfig) (budget : ℕ) (l : SpendLedger) : Prop where
  unique : Table.Unique (some ·.dealHash) l
  within : l.outstanding ≤ budget
  capped : ∀ r ∈ l, r.counts → ∀ cap ∈ policy.maxDealMsat, r.amountMsat ≤ cap

section Preservation

variable {policy : RequesterSpendConfig} {budget : ℕ} {l : SpendLedger}

theorem withinPolicy_nil : WithinPolicy policy budget [] where
  unique := Table.unique_nil _
  within := Nat.zero_le _
  capped := fun _ h => nomatch h

section

variable (h : WithinPolicy policy budget l)
include h

theorem WithinPolicy.deleteWhere (p : SpendRow → Bool) :
    WithinPolicy policy budget (Table.deleteWhere p l) where
  unique := h.unique.deleteWhere p
  within := Nat.le_trans (Table.sumWhere_deleteWhere_le _ _ p l) h.within
  capped r hr := h.capped r (Table.mem_deleteWhere.mp hr).1

/-- A change of state keeps the policy when it keeps every deal hash and amount and
starts to count no row that did not count before. -/
theorem WithinPolicy.updateState {p : SpendRow → Bool} {f : SpendRow → SpendRow}
    (hhash : ∀ r, (f r).dealHash = r.dealHash) (hamount : ∀ r, (f r).amountMsat = r.amountMsat)
    (hcounts : ∀ r, p r = true → (f r).counts = true → r.counts = true) :
    WithinPolicy policy budget (Table.updateWhere p f l) where
  unique := h.unique.updateWhere (fun r _ _ => by rw [hhash])
  within := by
    refine Nat.le_trans (Table.sumWhere_updateWhere_le _ _ (fun r _ hp => ?_)) h.within
    unfold Table.weight
    by_cases hf : (f r).counts = true
    · refine Nat.le_of_eq ?_
      rw [if_pos hf, if_pos (hcounts r hp hf), hamount]
    · rw [if_neg hf]
      exact Nat.zero_le _
  capped r hr hc cap hcap := by
    obtain ⟨r₀, hr₀, rfl⟩ := Table.mem_updateWhere.mp hr
    by_cases hp : p r₀ = true
    · rw [if_pos hp] at hc ⊢
      rw [hamount]
      exact h.capped r₀ hr₀ (hcounts r₀ hp hc) cap hcap
    · rw [if_neg hp] at hc ⊢
      exact h.capped r₀ hr₀ hc cap hcap

theorem WithinPolicy.commitSpend (dealHash dealId : String) (now : ℤ) :
    WithinPolicy policy budget (commitSpend dealHash dealId now l) := by
  refine h.updateState (fun _ => rfl) (fun _ => rfl) fun r hp _ => ?_
  simp only [Bool.and_eq_true, Bool.or_eq_true] at hp
  rcases hp.2 with hs | hs <;> simp [SpendRow.counts, hs]

theorem WithinPolicy.resetSpend (now : ℤ) : WithinPolicy policy budget (resetSpend now l).2 :=
  h.updateState (fun _ => rfl) (fun _ => rfl) fun _ _ hc => by simp [SpendRow.counts] at hc

end

theorem markSpendExternalPending_snd (dealHash : String) (now : ℤ) (l : SpendLedger) :
    (markSpendExternalPending dealHash now l).2
      = Table.updateWhere (fun r => r.dealHash == dealHash && r.state == .reserved)
          (fun r => { r with state := .externalPending, updatedAt := now }) l := by
  unfold markSpendExternalPending
  dsimp only
  split
  · rfl
  · split <;> rfl

theorem WithinPolicy.markSpendExternalPending (h : WithinPolicy policy budget l) (dealHash : String)
    (now : ℤ) : WithinPolicy policy budget (markSpendExternalPending dealHash now l).2 := by
  rw [markSpendExternalPending_snd]
  refine h.updateState (fun _ => rfl) (fun _ => rfl) fun r hp _ => ?_
  simp only [Bool.and_eq_true] at hp
  simp [SpendRow.counts, hp.2]

/-- A reservation either leaves the ledger alone or adds one counted row
that fits the remaining budget and the cap: the row is new, or it is the
archived row of the same hash brought back. -/
theorem tryReserveSpend_cases (hbudget : policy.spendBudgetMsat = some budget)
    (dealHash providerId : String) (amountMsat : ℕ) (settlementMethod : String) (now : ℤ)
    (l : SpendLedger) :
    (tryReserveSpend policy dealHash providerId amountMsat settlementMethod now l).2 = l
    ∨ amountMsat ≤ budget - l.outstanding ∧ (∀ cap ∈ policy.maxDealMsat, amountMsat ≤ cap)
      ∧ ((tryReserveSpend policy dealHash providerId amountMsat settlementMethod now l).2
          = Table.updateWhere (fun r => r.dealHash == dealHash && r.state == .archived)
              (fun r => { r with
                dealId := none, providerId, amountMsat, settlementMethod,
                state := .reserved, updatedAt := now }) l
        ∨ Table.selectWhere (·.dealHash == dealHash) l = none
          ∧ (tryReserveSpend policy dealHash providerId amountMsat settlementMethod now l).2
            = l ++ [{ dealHash, dealId := none, providerId, amountMsat, settlementMethod,
                      state := .reserved, createdAt := now, updatedAt := now }]) := by
  unfold tryReserveSpend
  rw [hbudget]
  dsimp only
  split
  · exact .inl rfl
  split
  · exact .inl rfl
  rename_i hcap
  have hcap' : ∀ cap ∈ policy.maxDealMsat, amountMsat ≤ cap := by
    intro cap hc
    rw [Option.mem_def.mp hc] at hcap
    simpa [Option.filter] using hcap
  split
  · exact .inl rfl
  rename_i hexisting
  cases hspent : outstandingMsat l with
  | error e => exact .inl rfl
  | ok spent =>
    have hout : l.outstanding = spent := by
      unfold outstandingMsat at hspent
      split at hspent
      · exact Except.ok.inj hspent
      · cases hspent
    subst hout
    dsimp only
    split
    · exact .inl rfl
    rename_i hfits
    refine .inr ⟨Nat.not_lt.mp hfits, hcap', ?_⟩
    split
    · exact .inl rfl
    · rename_i harchived
      refine .inr ⟨?_, rfl⟩
      -- a stored row is archived or not, and neither is left here
      cases hsel : Table.selectWhere (·.dealHash == dealHash) l with
      | none => rfl
      | some r =>
        rw [hsel] at hexisting harchived
        simp only [Option.map_some, Option.any_some, bne_iff_ne, ne_eq, not_not,
          Option.some.injEq] at hexisting harchived
        exact absurd hexisting harchived

theorem WithinPolicy.tryReserveSpend (h : WithinPolicy policy budget l)
    (hbudget : policy.spendBudgetMsat = some budget) (dealHash providerId : String)
    (amountMsat : ℕ) (settlementMethod : String) (now : ℤ) :
    WithinPolicy policy budget
      (tryReserveSpend policy dealHash providerId amountMsat settlementMethod now l).2 := by
  have hroom := h.within
  rcases tryReserveSpend_cases hbudget dealHash providerId amountMsat settlementMethod now l with
    hl | ⟨hfits, hcap, hl | ⟨hnew, hl⟩⟩
  · rw [hl]
    exact h
  · -- the archived row of this hash counts again, with the new amount
    rw [hl]
    refine ⟨h.unique.updateWhere (fun _ _ _ => rfl), ?_, fun r hr hc cap hcap' => ?_⟩
    · have hadd := Table.sumWhere_updateWhere_key_le SpendRow.counts SpendRow.amountMsat
        (q := fun r : SpendRow => r.dealHash == dealHash && r.state == .archived)
        (f := fun r : SpendRow => { r with
          dealId := none, providerId, amountMsat, settlementMethod,
          state := .reserved, updatedAt := now })
        h.unique (k := dealHash)
        (fun r _ hq => by
          simp only [Bool.and_eq_true, beq_iff_eq] at hq
          rw [hq.1])
        (b := amountMsat) fun r _ _ => by simp [Table.weight, SpendRow.counts]
      unfold SpendLedger.outstanding at hfits hroom ⊢
      omega
    · obtain ⟨r₀, hr₀, rfl⟩ := Table.mem_updateWhere.mp hr
      by_cases hp : (r₀.dealHash == dealHash && r₀.state == .archived) = true
      · rw [if_pos hp]
        exact hcap cap hcap'
      · rw [if_neg hp] at hc ⊢
        exact h.capped r₀ hr₀ hc cap hcap'
  · rw [hl]
    refine ⟨h.unique.concat (fun r' hr' k hk hk' => ?_), ?_, fun r hr hc cap hcap' => ?_⟩
    · have hne := Table.selectWhere_none hnew hr'
      rw [← hk'] at hk
      simp only [Option.some.injEq] at hk
      simp [hk] at hne
    · unfold SpendLedger.outstanding at hfits hroom ⊢
      rw [Table.sumWhere_append, Table.sumWhere_cons, Table.sumWhere_nil]
      simp only [Table.weight, SpendRow.counts, beq_self_eq_true, Bool.true_or, if_true]
      omega
    · rcases mem_concat.mp hr with hr | hr
      · exact h.capped r hr hc cap hcap'
      · rw [hr]
        exact hcap cap hcap'

end Preservation

theorem spendMachine_step {policy : RequesterSpendConfig} {budget : ℕ}
    (hbudget : policy.spendBudgetMsat = some budget) (l : SpendLedger) (op : SpendOp)
    (h : WithinPolicy policy budget l) :
    WithinPolicy policy budget ((spendMachine policy).step l op) := by
  cases op with
  | tryReserve dealHash providerId amountMsat settlementMethod now =>
    exact h.tryReserveSpend hbudget dealHash providerId amountMsat settlementMethod now
  | markExternalPending dealHash now => exact h.markSpendExternalPending dealHash now
  | commit dealHash dealId now => exact h.commitSpend dealHash dealId now
  | release dealHash => exact h.deleteWhere _
  | sweepStale maxAgeSecs now => exact h.deleteWhere _
  | reset now => exact h.resetSpend now

/-! ## The totals the operator sees -/

theorem outstanding_eq_groups :
    l.outstanding = Table.sumWhere (·.state == .committed) SpendRow.amountMsat l
        + Table.sumWhere (·.state == .externalPending) SpendRow.amountMsat l
        + Table.sumWhere (·.state == .reserved) SpendRow.amountMsat l := by
  unfold SpendLedger.outstanding
  induction l with
  | nil => rfl
  | cons r l ih =>
    have hr : Table.weight SpendRow.counts SpendRow.amountMsat r
        = Table.weight (·.state == .committed) SpendRow.amountMsat r
          + Table.weight (·.state == .externalPending) SpendRow.amountMsat r
          + Table.weight (·.state == .reserved) SpendRow.amountMsat r := by
      cases hs : r.state <;> simp [Table.weight, SpendRow.counts, hs]
    simp only [Table.sumWhere_cons]
    omega

theorem spendTotals_eq {l : SpendLedger} (h : l.outstanding ≤ i64Max) :
    ∃ totals, spendTotals l = .ok totals
      ∧ totals.reservedMsat + totals.committedMsat = l.outstanding := by
  have hsum := outstanding_eq_groups l
  have hmax := i64Max_le_u64Max
  have hgroup : ∀ state, Table.sumWhere (·.state == state) SpendRow.amountMsat l ≤ i64Max →
      groupSum l state = .ok (Table.sumWhere (·.state == state) SpendRow.amountMsat l) :=
    fun _ hs => if_pos hs
  refine ⟨_, by
    unfold spendTotals
    rw [hgroup .committed (by omega), hgroup .externalPending (by omega),
      hgroup .reserved (by omega)]
    rfl, ?_⟩
  dsimp only
  rw [saturatingAdd_eq (b := Table.sumWhere (·.state == .externalPending) _ l) (by omega),
    saturatingAdd_eq (by omega)]
  omega

/-! ## Every run stays within the policy -/

/-- **Spend-budget safety.** Under a fixed policy with a budget, in the state
after any sequence of calls the counted rows sum to at most the budget, each of
them is within the per-deal cap, no deal hash has two rows, and the reserved and
committed totals shown to the operator add up to the counted sum. -/
theorem spend_budget_safe (policy : RequesterSpendConfig) (budget : ℕ)
    (hbudget : policy.spendBudgetMsat = some budget) (hmax : budget ≤ i64Max) (ops : List SpendOp) :
    ((spendMachine policy).run ops).outstanding ≤ budget
    ∧ (∀ r ∈ (spendMachine policy).run ops, r.counts →
        ∀ cap ∈ policy.maxDealMsat, r.amountMsat ≤ cap)
    ∧ (((spendMachine policy).run ops).map SpendRow.dealHash).Nodup
    ∧ ∃ totals, spendTotals ((spendMachine policy).run ops) = .ok totals
        ∧ totals.reservedMsat + totals.committedMsat
          = ((spendMachine policy).run ops).outstanding := by
  have h : WithinPolicy policy budget ((spendMachine policy).run ops) :=
    (spendMachine policy).invariant withinPolicy_nil (spendMachine_step hbudget) ops
  refine ⟨h.within, h.capped, ?_, spendTotals_eq (Nat.le_trans h.within hmax)⟩
  have hunique := h.unique
  unfold Table.Unique at hunique
  rwa [show (fun r : SpendRow => some r.dealHash) = some ∘ SpendRow.dealHash from rfl,
    List.filterMap_eq_map] at hunique

theorem spend_budget_safe_replay : ((spendMachine ⟨some 6, some 10⟩).run
        [.tryReserve "a" "p" 6 "m" 0, .tryReserve "b" "p" 7 "m" 0,
          .tryReserve "c" "p" 5 "m" 0, .markExternalPending "a" 1, .commit "a" "d" 2,
          .reset 3, .tryReserve "a" "p" 4 "m" 4]).outstanding = 4
    ∧ ((spendMachine ⟨some 6, some 10⟩).run
        [.tryReserve "a" "p" 6 "m" 0, .tryReserve "b" "p" 7 "m" 0,
          .tryReserve "c" "p" 5 "m" 0, .markExternalPending "a" 1, .commit "a" "d" 2,
          .reset 3, .tryReserve "a" "p" 4 "m" 4]).outstanding ≤ 10 :=
  ⟨by decide, (spend_budget_safe ⟨some 6, some 10⟩ 10 rfl (by decide) _).1⟩

end Froglet
