import Froglet.Requester.Runtime

/-!
# What one step of the requester's runtime does

The machine of `Froglet.Requester.Runtime` writes its table in two ways: an insert, and
the compare-and-set that stores a verified signed answer (`RowsChange`).
-/

namespace Froglet

open List

variable {draft : CreateDraft} {now : ℤ} {remote : DealRecord}
variable {env : RequesterEnv}

variable {s : RequesterState} {task : RequesterTask}

/-! ## Rows and what they are about -/

def StoredRequesterDeal.identity (r : StoredRequesterDeal) :
    String × String × SignedQuote × SignedDeal × String :=
  (r.dealId, r.providerId, r.quote, r.deal, r.successPreimage)

theorem dealId_eq_of_identity {r r' : StoredRequesterDeal} (h : r.identity = r'.identity) :
    r.dealId = r'.dealId := congrArg Prod.fst h

theorem SignedAnswer.of_identity {P : Primitives} {r r' : StoredRequesterDeal}
    {receipt : SignedReceipt} (h : SignedAnswer P r remote receipt)
    (hid : r.identity = r'.identity) : SignedAnswer P r' remote receipt := by
  simp only [StoredRequesterDeal.identity, Prod.mk.injEq] at hid
  obtain ⟨_, hprov, hquote, hdeal, _⟩ := hid
  have hv := h.verified
  rw [hprov, hquote, hdeal] at hv
  exact ⟨h.carried, hv, h.status⟩

def RequesterTask.snapshots : RequesterTask → List StoredRequesterDeal
  | .creating _ => []
  | .syncing stored _ => [stored]
  | .releasing stored _ synced _ => [stored, synced.deal, synced.persisted]
  | .accepting synced => [synced.deal, synced.persisted]
  | .mockPaying synced => [synced.deal, synced.persisted]

/-! ## What one step does to the table -/

def RequesterTask.dealId : RequesterTask → Option String
  | .creating _ => none
  | .syncing stored _ => some stored.dealId
  | .releasing _ _ synced _ => some synced.persisted.dealId
  | .accepting synced => some synced.persisted.dealId
  | .mockPaying synced => some synced.persisted.dealId

def RequesterAction.answered (s : RequesterState) : RequesterAction → Option (String × DealRecord)
  | .syncAnswered i remote _ => (s.tasks[i]?.bind (·.dealId)).map (·, remote)
  | .acceptAnswered i terminal _ => (s.tasks[i]?.bind (·.dealId)).map (·, terminal)
  | .release i (.ok record) _ => (s.tasks[i]?.bind (·.dealId)).map (·, record)
  | _ => none

def RequesterAction.Creates (env : RequesterEnv) (s : RequesterState) (a : RequesterAction)
    (new : NewRequesterDeal) : Prop :=
  ∃ i draft remote now, a = .createAnswered i remote now
    ∧ s.tasks[i]? = some (.creating draft)
    ∧ (verifyCreateAnswer env draft remote now).passes = true
    ∧ draft.idempotencyKey.bind (findRequesterDealByIdempotencyKey s.rows) = none
    ∧ new = draft.newDeal remote.dealId remote.status now

inductive RowsChange (env : RequesterEnv) (s : RequesterState) (a : RequesterAction) :
    RequesterDeals → Prop where
  | unchanged : RowsChange env s a s.rows
  | inserted (new : NewRequesterDeal) (hid : getRequesterDeal s.rows new.dealId = none)
      (hstatus : new.status = submissionPending ∨ a.Creates env s new) :
      RowsChange env s a (s.rows ++ [new.row])
  | stored (task : RequesterTask) (read snapshot : StoredRequesterDeal) (remote : DealRecord)
      (receipt : SignedReceipt) (now : ℤ)
      (htask : task ∈ s.tasks) (hread : read ∈ task.snapshots)
      (hsnapshot : snapshot ∈ task.snapshots)
      (hanswer : a.answered s = some (snapshot.dealId, remote))
      (hsigned : SignedAnswer env.prims read remote receipt) :
      RowsChange env s a (updateRequesterDealState snapshot.dealId remote now s.rows)

theorem insertOrGetRequesterDeal_rows (new : NewRequesterDeal) (rows : RequesterDeals) :
    (insertOrGetRequesterDeal new rows).2 = rows ∨ getRequesterDeal rows new.dealId = none
      ∧ new.idempotencyKey.bind (findRequesterDealByIdempotencyKey rows) = none
      ∧ (insertOrGetRequesterDeal new rows).2 = rows ++ [new.row] := by
  unfold insertOrGetRequesterDeal
  split
  · split <;> exact .inl rfl
  · rename_i hkey
    split
    · split <;> exact .inl rfl
    · rename_i hid
      exact .inr ⟨hid, hkey, rfl⟩

theorem storeAnswer_rows (snapshot : StoredRequesterDeal) (remote : DealRecord) (now : ℤ)
    (rows : RequesterDeals) : (storeAnswer snapshot remote now rows).2 = rows
    ∨ (storeAnswer snapshot remote now rows).2
      = updateRequesterDealState snapshot.dealId remote now rows := by
  unfold storeAnswer
  split
  · exact .inl rfl
  · split
    · exact .inr rfl
    · exact .inl rfl

theorem syncRequesterDealFromProvider_rows (env : RequesterEnv)
    (stored : StoredRequesterDeal) (remote : DealRecord) (now : ℤ) (rows : RequesterDeals) :
    (syncRequesterDealFromProvider env stored remote now rows).2 = rows
    ∨ (∃ receipt, SignedAnswer env.prims stored remote receipt)
      ∧ (syncRequesterDealFromProvider env stored remote now rows).2
        = updateRequesterDealState stored.dealId remote now rows := by
  unfold syncRequesterDealFromProvider
  split
  · exact .inl rfl
  · exact .inl rfl
  · exact .inl rfl
  · rename_i hproj
    have hsigned := signedAnswer_of_projection env.prims hproj
    have hrows := storeAnswer_rows stored remote now rows
    split
    all_goals
      rename_i hstore
      rw [hstore] at hrows
      exact hrows.imp_right fun h => ⟨hsigned, h⟩

theorem signedAnswer_of_verifyAcceptAnswer {deal : StoredRequesterDeal} {terminal : DealRecord}
    (h : verifyAcceptAnswer env deal terminal = .ok ()) :
    ∃ receipt, SignedAnswer env.prims deal terminal receipt := by
  unfold verifyAcceptAnswer at h
  rw [check_eq_ok] at h
  obtain ⟨_, h⟩ := h
  cases hr : terminal.receipt with
  | none => simp [hr] at h
  | some receipt =>
    rw [hr] at h
    simp only [check_eq_ok, rejectIf_eq_ok, bne_eq_false_iff_eq,
      verifyProviderReceiptArtifact_iff] at h
    exact ⟨receipt, hr, h.1, h.2.symm⟩

theorem acceptAnswer_rows (env : RequesterEnv) (synced : SyncedRequesterDeal)
    (terminal : DealRecord) (now : ℤ) (rows : RequesterDeals) :
    acceptAnswer env synced terminal now rows = rows
    ∨ (∃ receipt, SignedAnswer env.prims synced.deal terminal receipt)
      ∧ acceptAnswer env synced terminal now rows
        = updateRequesterDealState synced.persisted.dealId terminal now rows := by
  unfold acceptAnswer
  split
  · rename_i hcheck
    have hsigned := signedAnswer_of_verifyAcceptAnswer (passes_iff.mp hcheck)
    exact (storeAnswer_rows synced.persisted terminal now rows).imp_right fun h => ⟨hsigned, h⟩
  · exact .inl rfl

@[simp] theorem startSync_rows (dealId : String) (purpose : SyncPurpose) (s : RequesterState) :
    (startSync dealId purpose s).rows = s.rows := by
  unfold startSync
  split <;> rfl

theorem mem_of_getElem? {i : ℕ} {t : RequesterTask} (h : s.tasks[i]? = some t) :
    t ∈ s.tasks := List.mem_of_getElem? h

theorem releasePreimage_rows (env : RequesterEnv) (stored : StoredRequesterDeal)
    (remote : DealRecord) (synced : SyncedRequesterDeal) (expected : Option String)
    (a2aTask : Except ApiFailure DealRecord) (now : ℤ) (s : RequesterState) :
    (releasePreimage env stored remote synced expected a2aTask now s).rows = s.rows
    ∨ ∃ record, a2aTask = .ok record
      ∧ (releasePreimage env stored remote synced expected a2aTask now s).rows
        = acceptAnswer env synced record now s.rows := by
  unfold releasePreimage
  dsimp only
  split
  · split
    · exact .inl rfl
    · rename_i record
      split
      · exact .inl rfl
      · exact .inr ⟨record, rfl, rfl⟩
      · exact .inl rfl
  · exact .inl rfl

/-- What one step does to the table. -/
theorem requesterStep_rows (env : RequesterEnv) (s : RequesterState) (a : RequesterAction) :
    RowsChange env s a (requesterStep env s a).rows := by
  have hinsert : ∀ {new : NewRequesterDeal} {rows : RequesterDeals},
      (insertOrGetRequesterDeal new s.rows).2 = rows →
      (new.idempotencyKey.bind (findRequesterDealByIdempotencyKey s.rows) = none →
        new.status = submissionPending ∨ a.Creates env s new) →
      RowsChange env s a rows := by
    rintro new _ rfl hstatus
    rcases insertOrGetRequesterDeal_rows new s.rows with h | ⟨hid, hkey, h⟩
    · rw [h]
      exact .unchanged
    · rw [h]
      exact .inserted new hid (hstatus hkey)
  have haccept : ∀ {task : RequesterTask} {synced : SyncedRequesterDeal} {terminal : DealRecord}
      {now : ℤ}, task ∈ s.tasks → synced.deal ∈ task.snapshots →
      synced.persisted ∈ task.snapshots →
      a.answered s = some (synced.persisted.dealId, terminal) →
      RowsChange env s a (acceptAnswer env synced terminal now s.rows) := by
    intro task synced terminal now htask hdeal hpersisted hanswer
    rcases acceptAnswer_rows env synced terminal now s.rows with h | ⟨⟨receipt, hs⟩, h⟩
    · rw [h]
      exact .unchanged
    · rw [h]
      exact .stored task synced.deal synced.persisted terminal receipt now htask hdeal
        hpersisted hanswer hs
  cases a with
  | create draft now =>
    simp only [requesterStep, createDeal]
    split
    · split <;> exact .unchanged
    · split
      · exact .unchanged
      · split
        · split
          all_goals
            rename_i hi
            exact hinsert (congrArg Prod.snd hi) fun _ => .inl rfl
        · exact .unchanged
  | getDeal dealId =>
    simp only [requesterStep]
    split
    · exact .unchanged
    · rw [startSync_rows]
      exact .unchanged
  | loadPaymentIntent dealId =>
    simp only [requesterStep, startSync_rows]
    exact .unchanged
  | accept dealId expected =>
    simp only [requesterStep, startSync_rows]
    exact .unchanged
  | mockPay dealId =>
    simp only [requesterStep]
    split
    · rw [startSync_rows]
      exact .unchanged
    · exact .unchanged
  | createAnswered i remote now =>
    simp only [requesterStep]
    split
    · rename_i draft htask
      unfold createAnswer
      split
      · exact .unchanged
      · rename_i hpasses
        have hchange := hinsert
          (rfl : (insertOrGetRequesterDeal (draft.newDeal remote.dealId remote.status now)
            s.rows).2 = _)
          fun hkey => .inr ⟨i, draft, remote, now, rfl, htask, by simpa using hpasses, hkey, rfl⟩
        split
        · rename_i hi
          rw [hi] at hchange
          split <;> exact hchange
        · rename_i hi
          rw [hi] at hchange
          exact hchange
    · exact .unchanged
  | syncAnswered i remote now =>
    simp only [requesterStep]
    split
    · rename_i stored purpose htask
      have hrows := syncRequesterDealFromProvider_rows env stored remote now s.rows
      have hchange : RowsChange env s (.syncAnswered i remote now)
          (syncRequesterDealFromProvider env stored remote now s.rows).2 := by
        rcases hrows with h | ⟨⟨receipt, hs⟩, h⟩
        · rw [h]
          exact .unchanged
        · rw [h]
          exact .stored (.syncing stored purpose) stored stored remote receipt now
            (mem_of_getElem? htask) (mem_singleton.mpr rfl) (mem_singleton.mpr rfl)
            (by simp [RequesterAction.answered, htask, RequesterTask.dealId]) hs
      split
      all_goals
        rename_i hsync
        rw [hsync] at hchange
        exact hchange
    · exact .unchanged
  | release i a2aTask now =>
    simp only [requesterStep]
    split
    · rename_i stored remote synced expected htask
      rcases releasePreimage_rows env stored remote synced expected a2aTask now
        { s with tasks := s.tasks.eraseIdx i } with h | ⟨record, rfl, h⟩
      · rw [h]
        exact .unchanged
      · rw [h]
        exact haccept (mem_of_getElem? htask) (by simp [RequesterTask.snapshots])
          (by simp [RequesterTask.snapshots])
          (by simp [RequesterAction.answered, htask, RequesterTask.dealId])
    · exact .unchanged
  | acceptAnswered i terminal now =>
    simp only [requesterStep]
    split
    · rename_i synced htask
      exact haccept (mem_of_getElem? htask) (by simp [RequesterTask.snapshots])
        (by simp [RequesterTask.snapshots])
        (by simp [RequesterAction.answered, htask, RequesterTask.dealId])
    · exact .unchanged
  | mockPayAnswered i remote =>
    simp only [requesterStep]
    split
    · split
      · rw [startSync_rows]
        exact .unchanged
      · exact .unchanged
    · exact .unchanged
  | abandon i => exact .unchanged

/-! ## Where the tasks of a state come from -/

inductive TaskOrigin (env : RequesterEnv) (s : RequesterState) (a : RequesterAction) :
    RequesterTask → Prop where
  | kept (task : RequesterTask) (h : task ∈ s.tasks) : TaskOrigin env s a task
  | creating (draft : CreateDraft) : TaskOrigin env s a (.creating draft)
  | started (row : StoredRequesterDeal) (purpose : SyncPurpose)
      (h : row ∈ (requesterStep env s a).rows) : TaskOrigin env s a (.syncing row purpose)
  | synced (stored : StoredRequesterDeal) (purpose : SyncPurpose) (remote : DealRecord)
      (now : ℤ) (synced : SyncedRequesterDeal) (task : RequesterTask)
      (htask : .syncing stored purpose ∈ s.tasks)
      (hsync : syncRequesterDealFromProvider env stored remote now s.rows
        = (.ok synced, (requesterStep env s a).rows))
      (hafter : task ∈ afterSync env stored remote synced purpose) : TaskOrigin env s a task
  | released (stored : StoredRequesterDeal) (remote : DealRecord) (synced : SyncedRequesterDeal)
      (expected : Option String) (htask : .releasing stored remote synced expected ∈ s.tasks) :
      TaskOrigin env s a (.accepting synced)

theorem mem_of_getRequesterDeal {rows : RequesterDeals} {dealId : String}
    {row : StoredRequesterDeal} (h : getRequesterDeal rows dealId = some row) :
    row ∈ rows ∧ row.dealId = dealId := by
  obtain ⟨hmem, hid⟩ := Table.selectWhere_some h
  exact ⟨hmem, beq_iff_eq.mp hid⟩

theorem startSync_tasks {dealId : String} {purpose : SyncPurpose}
    (h : task ∈ (startSync dealId purpose s).tasks) :
    task ∈ s.tasks ∨ ∃ row ∈ s.rows, task = .syncing row purpose := by
  unfold startSync at h
  split at h
  · exact .inl h
  · rename_i row hrow
    rcases mem_concat.mp h with h | h
    · exact .inl h
    · exact .inr ⟨row, (mem_of_getRequesterDeal hrow).1, h⟩

theorem createDeal_tasks (h : task ∈ (createDeal env draft now s).tasks) :
    task ∈ s.tasks ∨ task = .creating draft
    ∨ ∃ row ∈ (createDeal env draft now s).rows, task = .syncing row .report := by
  unfold createDeal at h ⊢
  split at h
  · rename_i existing hexisting
    obtain ⟨key, _, hfind⟩ := Option.bind_eq_some_iff.mp hexisting
    have hmem := (Table.selectWhere_some hfind).1
    split at h
    · exact .inl h
    · rename_i hconflict
      rw [if_neg hconflict]
      rcases mem_concat.mp h with h | h
      · exact .inl h
      · exact .inr (.inr ⟨existing, hmem, h⟩)
  · have hnew : task ∈ s.tasks ++ [.creating draft] → task ∈ s.tasks ∨ task = .creating draft :=
      fun h => (mem_append.mp h).imp_right mem_singleton.mp
    split at h
    · exact .inl h
    · split at h
      · split at h
        · exact (hnew h).imp_right .inl
        · exact .inl h
      · exact (hnew h).imp_right .inl

theorem createAnswer_tasks (h : task ∈ (createAnswer env draft remote now s).tasks) :
    task ∈ s.tasks
    ∨ ∃ row ∈ (createAnswer env draft remote now s).rows, task = .syncing row .report := by
  unfold createAnswer at h ⊢
  split at h
  · exact .inl h
  · rename_i hpasses
    rw [if_neg hpasses]
    split at h
    · rename_i stored created rows hinsert
      split at h
      · rename_i row hget
        rcases mem_concat.mp h with h | h
        · exact .inl h
        · refine .inr ⟨row, ?_, h⟩
          exact (mem_of_getRequesterDeal hget).1
      · exact .inl h
    · exact .inl h

theorem releasePreimage_tasks {stored : StoredRequesterDeal} {synced : SyncedRequesterDeal}
    {expected : Option String} {a2aTask : Except ApiFailure DealRecord}
    (h : task ∈ (releasePreimage env stored remote synced expected a2aTask now s).tasks) :
    task ∈ s.tasks ∨ task = .accepting synced := by
  have hsent : task ∈ s.tasks ++ [.accepting synced] →
      task ∈ s.tasks ∨ task = .accepting synced :=
    fun h => (mem_append.mp h).imp_right mem_singleton.mp
  unfold releasePreimage at h
  dsimp only at h
  split at h
  · split at h
    · exact .inl h
    · split at h
      · exact .inl h
      · exact .inl h
      · exact hsent h
  · exact hsent h

/-- Where the tasks of a state come from. -/
theorem requesterStep_tasks (env : RequesterEnv) (s : RequesterState) (a : RequesterAction)
    (task : RequesterTask) (ht : task ∈ (requesterStep env s a).tasks) :
    TaskOrigin env s a task := by
  have herase : ∀ {i : ℕ} {t : RequesterTask}, t ∈ s.tasks.eraseIdx i → t ∈ s.tasks :=
    mem_of_mem_eraseIdx
  -- the calls and answers that start a sync, over the table as it stands
  have hsync : ∀ (dealId : String) (purpose : SyncPurpose) (s' : RequesterState),
      s'.rows = s.rows → (∀ t ∈ s'.tasks, t ∈ s.tasks) →
      requesterStep env s a = startSync dealId purpose s' → TaskOrigin env s a task := by
    intro dealId purpose s' hrows htasks hstep
    rw [hstep] at ht
    rcases startSync_tasks ht with ht | ⟨row, hrow, rfl⟩
    · exact .kept task (htasks task ht)
    · exact .started row purpose (by rwa [hstep, startSync_rows])
  cases a with
  | create draft now =>
    rcases createDeal_tasks ht with ht | rfl | ⟨row, hrow, rfl⟩
    · exact .kept task ht
    · exact .creating draft
    · exact .started row .report hrow
  | getDeal dealId =>
    by_cases hreceipt : (getRequesterDeal s.rows dealId).any (·.receipt.isSome)
    · rw [requesterStep, if_pos hreceipt] at ht
      exact .kept task ht
    · exact hsync dealId .report s rfl (fun _ h => h) (by rw [requesterStep, if_neg hreceipt])
  | loadPaymentIntent dealId => exact hsync dealId .report s rfl (fun _ h => h) rfl
  | accept dealId expected => exact hsync dealId (.accept expected) s rfl (fun _ h => h) rfl
  | mockPay dealId =>
    by_cases hmock : env.lightningBackend && env.lightningMode == .mock
    · exact hsync dealId .mockPay s rfl (fun _ h => h) (by rw [requesterStep, if_pos hmock])
    · rw [requesterStep, if_neg hmock] at ht
      exact .kept task ht
  | createAnswered i remote now =>
    simp only [requesterStep] at ht
    split at ht
    · rename_i draft hi
      rcases createAnswer_tasks ht with ht | ⟨row, hrow, rfl⟩
      · exact .kept task (herase ht)
      · exact .started row .report (by simpa only [requesterStep, hi] using hrow)
    · exact .kept task ht
  | syncAnswered i remote now =>
    simp only [requesterStep] at ht
    split at ht
    · rename_i stored purpose hi
      split at ht
      · exact .kept task (herase ht)
      · rename_i synced rows hs
        rcases mem_append.mp ht with ht | ht
        · exact .kept task (herase ht)
        · exact .synced stored purpose remote now synced task (mem_of_getElem? hi)
            (by simp only [requesterStep, hi, hs]) ht
    · exact .kept task ht
  | release i a2aTask now =>
    simp only [requesterStep] at ht
    split at ht
    · rename_i stored remote synced expected hi
      rcases releasePreimage_tasks ht with ht | rfl
      · exact .kept task (herase ht)
      · exact .released stored remote synced expected (mem_of_getElem? hi)
    · exact .kept task ht
  | acceptAnswered i terminal now =>
    simp only [requesterStep] at ht
    split at ht
    · exact .kept task (herase ht)
    · exact .kept task ht
  | mockPayAnswered i remote =>
    simp only [requesterStep] at ht
    split at ht
    · rename_i synced hi
      split at ht
      · rename_i hv
        exact hsync synced.deal.dealId .report { s with tasks := s.tasks.eraseIdx i } rfl
          (fun _ h => herase h) (by simp only [requesterStep, hi, hv, if_true])
      · exact .kept task (herase ht)
    · exact .kept task ht
  | abandon i => exact .kept task (herase ht)

end Froglet
