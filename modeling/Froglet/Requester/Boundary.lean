import Froglet.Requester.Budget

/-!
# The external boundary

Before a deal creation sends anything that may move money, it marks its hold on the
budget as `external_pending`.
-/

namespace Froglet

open Table

variable {l : SpendLedger}
variable {r : SpendRow} {dealHash : String}

structure SpendReservationGuard where
  dealHash : String
  armed : Bool
deriving DecidableEq

structure SpendRuntime where
  ledger : SpendLedger
  guards : List SpendReservationGuard
  releases : List String

variable (s : SpendRuntime)
variable (guard : SpendReservationGuard)

def SpendRuntime.drop : SpendRuntime :=
  { s with
    guards := s.guards.erase guard
    releases := if guard.armed then s.releases ++ [guard.dealHash] else s.releases }

inductive SpendAction where
  | call (policy : RequesterSpendConfig) (op : SpendOp)
  | reserve (policy : RequesterSpendConfig) (dealHash providerId : String) (amountMsat : ℕ)
      (settlementMethod : String) (now : ℤ)
  | markExternalPending (guard : SpendReservationGuard) (now : ℤ) (fails : Bool)
  | commit (guard : SpendReservationGuard) (dealId : String) (now : ℤ) (fails : Bool)
  | drop (guard : SpendReservationGuard)
  | release (dealHash : String) (fails : Bool)
  | crash

def SpendRuntime.markExternalPending (now : ℤ) (fails : Bool) : SpendRuntime :=
  if !guard.armed || fails then s
  else match markSpendExternalPending guard.dealHash now s.ledger with
    | (.ok (), ledger) =>
      { s with ledger, guards := { guard with armed := false } :: s.guards.erase guard }
    | (.error _, ledger) => { s with ledger }

def SpendRuntime.commit (dealId : String) (now : ℤ) (fails : Bool) : SpendRuntime :=
  if fails then s.drop guard
  else { s with
    ledger := commitSpend guard.dealHash dealId now s.ledger
    guards := s.guards.erase guard }

def spendRuntimeStep : SpendAction → SpendRuntime
  | .call policy op => { s with ledger := (spendMachine policy).step s.ledger op }
  | .reserve policy dealHash providerId amountMsat settlementMethod now =>
    match tryReserveSpend policy dealHash providerId amountMsat settlementMethod now s.ledger with
    | (.ok .reserved, ledger) => { s with ledger, guards := ⟨dealHash, true⟩ :: s.guards }
    | (_, ledger) => { s with ledger }
  | .markExternalPending guard now fails =>
    if guard ∈ s.guards then s.markExternalPending guard now fails else s
  | .commit guard dealId now fails =>
    if guard ∈ s.guards then s.commit guard dealId now fails else s
  | .drop guard => if guard ∈ s.guards then s.drop guard else s
  | .release dealHash fails =>
    if dealHash ∈ s.releases then
      { s with
        releases := s.releases.erase dealHash
        ledger := if fails then s.ledger else releaseSpend dealHash s.ledger }
    else s
  | .crash => { s with guards := [], releases := [] }

def spendRuntimeMachine : Machine SpendRuntime SpendAction where
  init := ⟨[], [], []⟩
  step := spendRuntimeStep

/-- The ledger only changes by its six functions, whatever a guard does. -/
theorem ledger_step (a : SpendAction) : (spendRuntimeStep s a).ledger = s.ledger
      ∨ ∃ policy op, (spendRuntimeStep s a).ledger = (spendMachine policy).step s.ledger op
        ∧ ∀ now, op = .reset now → ∃ policy', a = .call policy' (.reset now) := by
  cases a with
  | call policy op =>
    refine .inr ⟨policy, op, rfl, fun now hop => ⟨policy, ?_⟩⟩
    rw [hop]
  | reserve policy dealHash providerId amountMsat settlementMethod now =>
    refine .inr ⟨policy, .tryReserve dealHash providerId amountMsat settlementMethod now, ?_,
      fun _ => SpendOp.noConfusion⟩
    show (spendRuntimeStep s _).ledger = (tryReserveSpend policy dealHash providerId amountMsat
      settlementMethod now s.ledger).2
    unfold spendRuntimeStep
    dsimp only
    split
    case h_1 hreserve => rw [hreserve]
    case h_2 hreserve => rw [hreserve]
  | markExternalPending guard now fails =>
    unfold spendRuntimeStep SpendRuntime.markExternalPending
    dsimp only
    split
    case isFalse => exact .inl rfl
    case isTrue =>
      split
      case isTrue => exact .inl rfl
      case isFalse =>
        refine .inr ⟨⟨none, none⟩, .markExternalPending guard.dealHash now, ?_,
          fun _ => SpendOp.noConfusion⟩
        show _ = (markSpendExternalPending guard.dealHash now s.ledger).2
        split
        case h_1 hmark => rw [hmark]
        case h_2 hmark => rw [hmark]
  | commit guard dealId now fails =>
    unfold spendRuntimeStep SpendRuntime.commit SpendRuntime.drop
    dsimp only
    split
    case isFalse => exact .inl rfl
    case isTrue =>
      cases fails with
      | true => exact .inl rfl
      | false => exact .inr ⟨⟨none, none⟩, .commit guard.dealHash dealId now, rfl,
          fun _ => SpendOp.noConfusion⟩
  | drop guard =>
    unfold spendRuntimeStep SpendRuntime.drop
    dsimp only
    split <;> exact .inl rfl
  | release dealHash fails =>
    unfold spendRuntimeStep
    dsimp only
    split
    case isFalse => exact .inl rfl
    case isTrue =>
      cases fails with
      | true => exact .inl rfl
      | false => exact .inr ⟨⟨none, none⟩, .release dealHash, rfl, fun _ => SpendOp.noConfusion⟩
  | crash => exact .inl rfl

/-! ## One row per deal, under any policies -/

def UniqueHashes (l : SpendLedger) : Prop := Table.Unique (some ·.dealHash) l

theorem UniqueHashes.step (h : UniqueHashes l) (policy : RequesterSpendConfig) (op : SpendOp) :
    UniqueHashes ((spendMachine policy).step l op) := by
  cases op with
  | tryReserve dealHash providerId amountMsat settlementMethod now =>
    show UniqueHashes
      (tryReserveSpend policy dealHash providerId amountMsat settlementMethod now l).2
    cases hbudget : policy.spendBudgetMsat with
    | none =>
      unfold tryReserveSpend
      rw [hbudget]
      dsimp only
      split <;> exact h
    | some budget =>
      rcases tryReserveSpend_cases hbudget dealHash providerId amountMsat settlementMethod now l
        with hl | ⟨-, -, hl | ⟨hnew, hl⟩⟩
      · rw [hl]
        exact h
      · rw [hl]
        exact h.updateWhere fun _ _ _ => rfl
      · rw [hl]
        refine h.concat fun r hr k hk hk' => ?_
        have hne := selectWhere_none hnew hr
        rw [Option.some.inj (hk.trans hk'.symm), beq_self_eq_true] at hne
        cases hne
  | markExternalPending dealHash now =>
    show UniqueHashes (markSpendExternalPending dealHash now l).2
    rw [markSpendExternalPending_snd]
    exact h.updateWhere fun _ _ _ => rfl
  | commit dealHash dealId now => exact h.updateWhere fun _ _ _ => rfl
  | release dealHash => exact h.deleteWhere _
  | sweepStale maxAgeSecs now => exact h.deleteWhere _
  | reset now => exact h.updateWhere fun _ _ _ => rfl

/-! ## The hold -/

def SpendState.isPastBoundary : SpendState → Bool
  | externalPending | committed => true
  | reserved | archived => false

structure SpendLedger.Holds (l : SpendLedger) (dealHash : String) (amountMsat : ℕ) : Prop where
  row : ∃ r ∈ l, r.dealHash = dealHash
  kept : ∀ r ∈ l, r.dealHash = dealHash →
    r.amountMsat = amountMsat ∧ r.state.isPastBoundary = true
  counted : amountMsat ≤ l.outstanding

theorem SpendLedger.Holds.of_row (hunique : UniqueHashes l)
    (hr : r ∈ l) (hpast : r.state.isPastBoundary = true) : l.Holds r.dealHash r.amountMsat := by
  refine ⟨⟨r, hr, rfl⟩, fun r' hr' hhash => ?_, le_sumWhere _ _ hr ?_⟩
  · rw [hunique.eq_of_mem hr' hr (congrArg some hhash) rfl]
    exact ⟨rfl, hpast⟩
  · unfold SpendRow.counts
    cases hstate : r.state <;> rw [hstate] at hpast <;> first | rfl | cases hpast

theorem row_step (policy : RequesterSpendConfig) (op : SpendOp)
    (hr : r ∈ l) (hpast : r.state.isPastBoundary = true)
    (hreset : ∀ now, op = .reset now → r.state ≠ .committed) :
    ∃ r' ∈ (spendMachine policy).step l op, r'.dealHash = r.dealHash
      ∧ r'.amountMsat = r.amountMsat ∧ r'.state.isPastBoundary = true := by
  have hreserved : (r.state == .reserved) = false := by
    cases hstate : r.state <;> rw [hstate] at hpast <;> first | rfl | cases hpast
  have harchived : (r.state == .archived) = false := by
    cases hstate : r.state <;> rw [hstate] at hpast <;> first | rfl | cases hpast
  have hsame {l' : SpendLedger} (hl' : r ∈ l') : ∃ r' ∈ l', r'.dealHash = r.dealHash
      ∧ r'.amountMsat = r.amountMsat ∧ r'.state.isPastBoundary = true :=
    ⟨r, hl', rfl, rfl, hpast⟩
  have hmissed {p : SpendRow → Bool} {f : SpendRow → SpendRow} (hp : p r = false) :
      r ∈ updateWhere p f l := by
    refine mem_updateWhere.mpr ⟨r, hr, ?_⟩
    rw [hp]
    rfl
  cases op with
  | tryReserve dealHash providerId amountMsat settlementMethod now =>
    show ∃ r' ∈ (tryReserveSpend policy dealHash providerId amountMsat settlementMethod now l).2, _
    cases hbudget : policy.spendBudgetMsat with
    | none =>
      unfold tryReserveSpend
      rw [hbudget]
      dsimp only
      split <;> exact hsame hr
    | some budget =>
      rcases tryReserveSpend_cases hbudget dealHash providerId amountMsat settlementMethod now l
        with hl | ⟨-, -, hl | ⟨-, hl⟩⟩
      · rw [hl]
        exact hsame hr
      · rw [hl]
        exact hsame (hmissed (by rw [harchived, Bool.and_false]))
      · rw [hl]
        exact hsame (List.mem_append_left _ hr)
  | markExternalPending dealHash now =>
    show ∃ r' ∈ (markSpendExternalPending dealHash now l).2, _
    rw [markSpendExternalPending_snd]
    exact hsame (hmissed (by rw [hreserved, Bool.and_false]))
  | commit dealHash dealId now =>
    by_cases hp : (r.dealHash == dealHash
        && (r.state == .reserved || r.state == .externalPending)) = true
    · refine ⟨{ r with state := .committed, dealId := some dealId, updatedAt := now }, ?_, rfl,
        rfl, rfl⟩
      exact mem_updateWhere.mpr ⟨r, hr, if_pos hp⟩
    · exact hsame (mem_updateWhere.mpr ⟨r, hr, if_neg hp⟩)
  | release dealHash => exact hsame (mem_deleteWhere.mpr ⟨hr, by rw [hreserved, Bool.and_false]⟩)
  | sweepStale maxAgeSecs now =>
    exact hsame (mem_deleteWhere.mpr ⟨hr, by rw [hreserved, Bool.false_and]⟩)
  | reset now => exact hsame (hmissed (by simpa using hreset now rfl))

theorem holds_of_markSpendExternalPending (hunique : UniqueHashes l) {now : ℤ}
    (h : (markSpendExternalPending dealHash now l).1 = .ok ()) :
    ∃ amountMsat, (markSpendExternalPending dealHash now l).2.Holds dealHash amountMsat := by
  have hnext : UniqueHashes (markSpendExternalPending dealHash now l).2 :=
    hunique.step ⟨none, none⟩ (.markExternalPending dealHash now)
  have hrow : ∃ r ∈ (markSpendExternalPending dealHash now l).2, r.dealHash = dealHash
      ∧ r.state.isPastBoundary = true := by
    have hselected {state : SpendState} (hpast : state.isPastBoundary = true) {l' : SpendLedger}
        (hstate : (selectWhere (·.dealHash == dealHash) l').map SpendRow.state
          = some state) : ∃ r ∈ l', r.dealHash = dealHash ∧ r.state.isPastBoundary = true := by
      obtain ⟨r, hr, rfl⟩ := Option.map_eq_some_iff.mp hstate
      obtain ⟨hmem, hhash⟩ := selectWhere_some hr
      exact ⟨r, hmem, beq_iff_eq.mp hhash, hpast⟩
    unfold markSpendExternalPending at h ⊢
    dsimp only at h ⊢
    split at h
    case isTrue hone =>
      -- the row that was reserved has just crossed
      rw [if_pos hone]
      have hpos : 0 < l.countP (fun r => r.dealHash == dealHash && r.state == .reserved) :=
        hone ▸ Nat.one_pos
      obtain ⟨r, hr, hhit⟩ := List.countP_pos_iff.mp hpos
      refine ⟨_, mem_updateWhere.mpr ⟨r, hr, if_pos hhit⟩, ?_, rfl⟩
      exact beq_iff_eq.mp (Bool.and_eq_true_iff.mp hhit).1
    case isFalse hnone =>
      rw [if_neg hnone]
      split at h
      case h_1 hstate => exact hselected rfl hstate
      case h_2 hstate => exact hselected rfl hstate
      case h_3 => cases h
      case h_4 => cases h
  obtain ⟨r, hr, rfl, hpast⟩ := hrow
  exact ⟨r.amountMsat, .of_row hnext hr hpast⟩

def ArchivesCommitted (dealHash : String) (s : SpendRuntime) (a : SpendAction) : Prop :=
  (∃ policy now, a = .call policy (.reset now))
    ∧ ∃ r ∈ s.ledger, r.dealHash = dealHash ∧ r.state = .committed

theorem uniqueHashes_runtimeStep (a : SpendAction) (h : UniqueHashes s.ledger) :
    UniqueHashes (spendRuntimeStep s a).ledger := by
  obtain hl | ⟨policy, op, hl, -⟩ := ledger_step s a
  · rw [hl]
    exact h
  · rw [hl]
    exact h.step policy op

theorem SpendLedger.Holds.step {s : SpendRuntime} {a : SpendAction}
    {amountMsat : ℕ} (hunique : UniqueHashes s.ledger) (h : s.ledger.Holds dealHash amountMsat)
    (hends : ¬ ArchivesCommitted dealHash s a) :
    (spendRuntimeStep s a).ledger.Holds dealHash amountMsat := by
  obtain hl | ⟨policy, op, hl, hreset⟩ := ledger_step s a
  · rw [hl]
    exact h
  · obtain ⟨r, hr, rfl⟩ := h.row
    obtain ⟨rfl, hpast⟩ := h.kept r hr rfl
    obtain ⟨r', hr', hhash, hamount, hpast'⟩ := row_step policy op hr hpast fun now hop hstate => by
      obtain ⟨policy', ha⟩ := hreset now hop
      exact hends ⟨⟨policy', now, ha⟩, r, hr, rfl, hstate⟩
    rw [hl, ← hhash, ← hamount]
    exact .of_row (hunique.step policy op) hr' hpast'

/-- **The external boundary.** Once `mark_spend_external_pending` has returned
without an error, the ledger holds the amount of the deal: along every
continuation, whatever guards and spawned releases are around, its one row keeps
its amount, stays `external_pending` or `committed` and counts against the
budget, until a reset archives it while it is committed. -/
theorem external_boundary_kept (before after : List SpendAction) (dealHash : String) (now : ℤ)
    (guards : List SpendReservationGuard) (releases : List String)
    (h : (markSpendExternalPending dealHash now (spendRuntimeMachine.run before).ledger).1
      = .ok ()) :
    ∃ amountMsat, spendRuntimeMachine.Until (·.ledger.Holds dealHash amountMsat)
      (ArchivesCommitted dealHash)
      ⟨(markSpendExternalPending dealHash now (spendRuntimeMachine.run before).ledger).2,
        guards, releases⟩ after := by
  have hunique : UniqueHashes (spendRuntimeMachine.run before).ledger :=
    spendRuntimeMachine.invariant (I := fun s => UniqueHashes s.ledger) (unique_nil _)
      uniqueHashes_runtimeStep before
  obtain ⟨amountMsat, hholds⟩ := holds_of_markSpendExternalPending hunique h
  refine ⟨amountMsat, spendRuntimeMachine.until_of_step (J := fun s => UniqueHashes s.ledger)
    uniqueHashes_runtimeStep (fun s a hJ hI => hI.step hJ) after _ ?_ hholds⟩
  exact hunique.step ⟨none, none⟩ (.markExternalPending dealHash now)

theorem external_boundary_kept_two_attempts :
    let policy : RequesterSpendConfig := ⟨none, some 10⟩
    let attempts : List SpendAction :=
      [.reserve policy "a" "p" 6 "m" 0, .reserve policy "a" "p" 6 "m" 0]
    (markSpendExternalPending "a" 1 (spendRuntimeMachine.run attempts).ledger).1 = .ok ()
      ∧ ∃ amountMsat, spendRuntimeMachine.Until (·.ledger.Holds "a" amountMsat)
        (ArchivesCommitted "a")
        ⟨(markSpendExternalPending "a" 1 (spendRuntimeMachine.run attempts).ledger).2,
          [⟨"a", true⟩, ⟨"a", false⟩], []⟩
        [.drop ⟨"a", true⟩, .release "a" false, .commit ⟨"a", false⟩ "d" 2 false,
          .call policy (.reset 3)] :=
  ⟨rfl, external_boundary_kept _ _ "a" 1 _ _ rfl⟩

end Froglet
