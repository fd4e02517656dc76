import Froglet.Publication.Store
import Mathlib.Logic.Relation

/-!
# The history of an operation

Several writers work on one store: publishing agents that create, attach and update, and
restarts that read the recoverable records and then write them back, one transaction
each.
-/

namespace Froglet.ManagedPublication

open List
variable {c : ManagedPublicationRecord} {row : Row} {db db' : List Row}
variable {result : Except String (ManagedPublicationRecord × List Row)} {created updated : ℤ}

/-! ## The writers -/

structure LoggedWrite where
  operationId : String
  expected : ℕ
  (found left : Option ℤ)

/-- The table, the records restarts have read, and the log. -/
structure WritersState where
  db : List Row
  held : List ManagedPublicationRecord
  log : List LoggedWrite
variable {s s' : WritersState}

/-- A transaction of one of the writers. -/
inductive WriterStep where
  | createPlanned (plan : ManagedPublicationPlan) (consentHash : String) (now : ℤ)
  | attachCapsule (operationId : String) (expected : ℕ) (capsule : ManagedPublicationCapsule)
      (now : ℤ)
  | updateOperation (operationId : String) (expected : ℕ) (next : ManagedPublicationOperation)
  | listRecoverable
  | recoverRecord (current : ManagedPublicationRecord) (now : ℤ)

variable {s : WritersState} {before after record : ManagedPublicationRecord}
  {operationId : String} {keepsTime : Prop} {expected : ℕ} {row row' : Row}

def versionOf (db : List Row) (operationId : String) : Option ℤ :=
  (Table.selectWhere (·.operationId == operationId) db).map (·.stateVersion)

def WritersState.commit (s : WritersState) (operationId : String) (expected : ℕ)
    (result : Except String (ManagedPublicationRecord × List Row)) : WritersState :=
  let db' := committed s.db result
  if db' = s.db then s
  else
    { s with
      db := db'
      log := s.log ++ [{ operationId, expected, found := versionOf s.db operationId
                         left := versionOf db' operationId }] }

section Writers

variable (P : Primitives) (E : Externals) (T : StoredTexts)

def writers : Machine WritersState WriterStep where
  init := ⟨[], [], []⟩
  step s
    | .createPlanned plan consentHash now =>
      { s with db := committed s.db (createPlanned P E T plan consentHash now s.db) }
    | .attachCapsule operationId expected capsule now =>
      s.commit operationId expected (attachCapsule P E T operationId expected capsule now s.db)
    | .updateOperation operationId expected next =>
      s.commit operationId expected (updateOperation P E T operationId expected next s.db)
    | .listRecoverable =>
      match listRecoverable P E T s.db with
      | .error _ => s
      | .ok records => { s with held := s.held ++ records }
    | .recoverRecord current now =>
      if current ∈ s.held ∧ wasInterrupted current.operation.phase = true then
        s.commit current.operation.operationId current.stateVersion
          (recoverRecord P E T current now s.db)
      else s

/-- The condition on a step: an update of the current version does not bring
a time before the stored one. -/
def KeepsTime (s : WritersState) : WriterStep → Prop
  | .updateOperation operationId expected next =>
    ∀ row ∈ s.db, isVersion operationId expected row = true →
      row.updatedAt ≤ next.updatedAtEpochSeconds
  | _ => True

/-! ## Laws -/

def PhaseEdge (phase next : ManagedPublicationPhase) : Prop := phase.canTransitionTo next = true

/-- What holds between a record and a later record of the same operation. -/
structure History (before after : ManagedPublicationRecord) : Prop where
  plan : after.plan = before.plan
  consentHash : after.operation.consentHash = before.operation.consentHash
  version : before.stateVersion ≤ after.stateVersion
  revisionHash : before.operation.revisionHash.isSome = true →
    after.operation.revisionHash = before.operation.revisionHash
  capsule : before.capsule.isSome = true → after.capsule = before.capsule
  phases : Relation.ReflTransGen PhaseEdge before.operation.phase after.operation.phase
  updatedAt : before.operation.updatedAtEpochSeconds ≤ after.operation.updatedAtEpochSeconds

theorem History.refl (record : ManagedPublicationRecord) : History record record :=
  ⟨rfl, rfl, le_refl _, fun _ => rfl, fun _ => rfl, .refl, le_refl _⟩

theorem History.trans {a b : ManagedPublicationRecord} (hab : History a b) (hbc : History b c) :
    History a c where
  plan := hbc.plan.trans hab.plan
  consentHash := hbc.consentHash.trans hab.consentHash
  version := hab.version.trans hbc.version
  revisionHash h := by
    have hb := hab.revisionHash h
    exact (hbc.revisionHash (hb.symm ▸ h)).trans hb
  capsule h := by
    have hb := hab.capsule h
    exact (hbc.capsule (hb.symm ▸ h)).trans hb
  phases := hab.phases.trans hbc.phases
  updatedAt := hab.updatedAt.trans hbc.updatedAt

variable {P E T}

theorem Decodes.capsuleJson_isSome (h : Decodes P E T row record)
    (hcapsule : record.capsule.isSome = true) : row.capsuleJson.isSome = true := by
  cases hjson : row.capsuleJson with
  | some json => rfl
  | none =>
    have hnone := h.capsule
    rw [hjson] at hnone
    rw [← Except.ok.inj hnone] at hcapsule
    cases hcapsule

theorem Write.history (h : Write P E T db db' row row' before after)
    (htime : row.updatedAt ≤ row'.updatedAt) : History before after := by
  have hbefore := decodes_of_decodeRecord P E T h.found
  have hafter := decodes_of_decodeRecord P E T h.left
  have hplan : after.plan = before.plan :=
    Except.ok.inj (hafter.plan.symm.trans (h.planJson ▸ hbefore.plan))
  refine ⟨hplan, ?_, ?_, fun hsome => ?_, fun hsome => ?_, .single h.phase, ?_⟩
  · rw [← hafter.consentHash, ← hbefore.consentHash, h.consentHash]
  · have hversion := h.version
    rw [hafter.version, hbefore.version] at hversion
    omega
  · rw [← hafter.revisionHash, ← hbefore.revisionHash]
    exact h.revisionHash (hbefore.revisionHash ▸ hsome)
  · have hcapsule := hafter.capsule
    rw [hplan, h.capsuleJson (hbefore.capsuleJson_isSome hsome), hbefore.capsule] at hcapsule
    exact (Except.ok.inj hcapsule).symm
  · rw [← hafter.updatedAt, ← hbefore.updatedAt]
    exact htime

/-! ## What a step can do -/

theorem Write.ne (hinv : StoreInvariant P E T db) (h : Write P E T db db' row row' before after) :
    db' ≠ db := by
  rintro rfl
  have hmem' : row' ∈ db' := (h.rows row').mpr (.inl rfl)
  have hversion := h.version
  rw [hinv.row_eq hmem' h.mem h.operationId] at hversion
  omega

theorem StoreInvariant.versionOf_eq (hinv : StoreInvariant P E T db) (hmem : row ∈ db) :
    versionOf db row.operationId = some row.stateVersion := by
  have hfound : Table.selectWhere (·.operationId == row.operationId) db = some row :=
    hinv.unique.selectWhere_of_mem hmem (by simp) rfl
  unfold versionOf
  rw [hfound]
  rfl

variable (P E T) in
/-- What a step does: it leaves the table, creates a row, or makes one write,
which is then logged. -/
inductive StepEffect (s s' : WritersState) (keepsTime : Prop) : Prop
  | unchanged (db : s'.db = s.db) (log : s'.log = s.log)
      (held : ∀ c ∈ s'.held, c ∈ s.held ∨ ∃ row ∈ s.db, decodeRecord P E T row = .ok c)
  | created {row : Row} {record : ManagedPublicationRecord}
      (creation : Creation P E T s.db s'.db row record) (log : s'.log = s.log)
      (held : s'.held = s.held)
  | written {row row' : Row} {before after : ManagedPublicationRecord} {expected : ℕ}
      (write : Write P E T s.db s'.db row row' before after)
      (version : row.stateVersion = expected)
      (log : s'.log = s.log ++
        [⟨row.operationId, expected, some row.stateVersion, some row'.stateVersion⟩])
      (held : s'.held = s.held) (time : keepsTime → row.updatedAt ≤ row'.updatedAt)

theorem stepEffect_refl : StepEffect P E T s s keepsTime := .unchanged rfl rfl fun _ hc => .inl hc

theorem stepEffect_commit {before after record : ManagedPublicationRecord}
    (hinv : StoreInvariant P E T s.db) (hwrite : Write P E T s.db db' row row' before after)
    (hversion : row.stateVersion = expected) (htime : keepsTime → row.updatedAt ≤ row'.updatedAt) :
    StepEffect P E T s (s.commit row.operationId expected (.ok (record, db'))) keepsTime := by
  have hinv' : StoreInvariant P E T db' := hinv.written hwrite
  have hleft : versionOf db' row.operationId = some row'.stateVersion :=
    hwrite.operationId ▸ hinv'.versionOf_eq ((hwrite.rows row').mpr (.inl rfl))
  have hcommit : s.commit row.operationId expected (.ok (record, db'))
      = { s with db := db', log := s.log ++
          [⟨row.operationId, expected, some row.stateVersion, some row'.stateVersion⟩] } := by
    simp only [WritersState.commit, committed, if_neg (hwrite.ne hinv),
      hinv.versionOf_eq hwrite.mem, hleft]
  rw [hcommit]
  exact .written hwrite hversion rfl rfl htime

@[simp] theorem commit_error {operationId e : String} :
    s.commit operationId expected (.error e) = s :=
  if_pos rfl

@[simp] theorem commit_same : s.commit operationId expected (.ok (record, s.db)) = s :=
  if_pos rfl

variable (P E T) in
def Behind (db : List Row) (c : ManagedPublicationRecord) : Prop :=
  ∃ row ∈ db, row.operationId = c.operation.operationId
    ∧ ((c.stateVersion : ℤ) < row.stateVersion ∨ decodeRecord P E T row = .ok c)

theorem mem_of_listRecoverable {records : List ManagedPublicationRecord}
    (hinv : StoreInvariant P E T db) (h : listRecoverable P E T db = .ok records) :
    ∀ c ∈ records, ∃ row ∈ db, decodeRecord P E T row = .ok c := by
  have hsub : ∀ row ∈ recoverableRows db, row ∈ db := fun row hrow =>
    mem_of_mem_filter ((perm_insertionSort _ _).mem_iff.mp hrow)
  obtain ⟨records', hok, hof⟩ := mapM_ok fun row hrow => hinv.decodes row (hsub row hrow)
  obtain rfl : records' = records := Except.ok.inj (hok.symm.trans h)
  intro c hc
  obtain ⟨row, hrow, hdecode⟩ := hof c hc
  exact ⟨row, hsub row hrow, hdecode⟩

theorem updatedAt_of_behind (hinv : StoreInvariant P E T db) (hbehind : Behind P E T db c)
    (hmem : row ∈ db) (hid : row.operationId = c.operation.operationId)
    (hversion : row.stateVersion = c.stateVersion) :
    row.updatedAt = c.operation.updatedAtEpochSeconds := by
  obtain ⟨row₀, hmem₀, hid₀, hread⟩ := hbehind
  obtain rfl := hinv.row_eq hmem₀ hmem (hid₀.trans hid.symm)
  obtain hlater | hdecode := hread
  · omega
  · exact (decodes_of_decodeRecord P E T hdecode).updatedAt

/-- One step of the writers. -/
theorem stepEffect_step (hinv : StoreInvariant P E T s.db)
    (hheld : ∀ c ∈ s.held, Behind P E T s.db c) (a : WriterStep) :
    StepEffect P E T s ((writers P E T).step s a) (KeepsTime s a) := by
  cases a with
  | createPlanned plan consentHash now =>
    show StepEffect P E T s { s with db := committed s.db _ } _
    cases hresult : createPlanned P E T plan consentHash now s.db with
    | error e => exact stepEffect_refl
    | ok r =>
      obtain ⟨record, db'⟩ := r
      obtain rfl | ⟨row, hcreation⟩ := createPlanned_cases hresult
      · exact stepEffect_refl
      · exact .created hcreation rfl rfl
  | attachCapsule operationId expected capsule now =>
    show StepEffect P E T s (s.commit operationId expected _) _
    cases hresult : attachCapsule P E T operationId expected capsule now s.db with
    | error e =>
      rw [commit_error]
      exact stepEffect_refl
    | ok r =>
      obtain ⟨record, db'⟩ := r
      obtain rfl | ⟨row, row', before, hwrite, rfl, hversion, hclock⟩ :=
        attachCapsule_cases hinv hresult
      · rw [commit_same]
        exact stepEffect_refl
      · refine stepEffect_commit hinv hwrite hversion (fun _ => ?_)
        exact (decodes_of_decodeRecord P E T hwrite.found).updatedAt.trans_le hclock
  | updateOperation operationId expected next =>
    show StepEffect P E T s (s.commit operationId expected _) _
    cases hresult : updateOperation P E T operationId expected next s.db with
    | error e =>
      rw [commit_error]
      exact stepEffect_refl
    | ok r =>
      obtain ⟨record, db'⟩ := r
      obtain ⟨row, row', before, hwrite, rfl, hversion, htime⟩ := updateOperation_write hinv hresult
      refine stepEffect_commit hinv hwrite hversion fun hkeeps => ?_
      rw [htime]
      exact hkeeps row hwrite.mem (by simp [isVersion, hversion])
  | listRecoverable =>
    show StepEffect P E T s (match listRecoverable P E T s.db with | .error _ => s | .ok _ => _) _
    cases hresult : listRecoverable P E T s.db with
    | error e => exact stepEffect_refl
    | ok records =>
      refine .unchanged rfl rfl fun c hc => ?_
      exact (mem_append.mp hc).imp_right (mem_of_listRecoverable hinv hresult c)
  | recoverRecord current now =>
    show StepEffect P E T s (if _ then s.commit _ _ _ else s) _
    split
    · rename_i hcurrent
      cases hresult : recoverRecord P E T current now s.db with
      | error e =>
        rw [commit_error]
        exact stepEffect_refl
      | ok r =>
        obtain ⟨record, db'⟩ := r
        obtain ⟨next, hupdate, htime, hclock⟩ := recoverRecord_eq_ok hresult
        obtain ⟨row, row', before, hwrite, hid, hversion, htime'⟩ :=
          updateOperation_write hinv hupdate
        rw [← hid]
        refine stepEffect_commit hinv hwrite hversion (fun _ => ?_)
        -- the record is as the restart read it, so its check covers the stored time
        rw [updatedAt_of_behind hinv (hheld current hcurrent.1) hwrite.mem hid hversion, htime',
          htime]
        exact hclock
    · exact stepEffect_refl

/-! ## The recovery is a sequence of steps -/

@[simp] theorem commit_db : (s.commit operationId expected result).db = committed s.db result := by
  dsimp only [WritersState.commit]
  split
  · rename_i hsame
    exact hsame.symm
  · rfl

@[simp] theorem commit_held : (s.commit operationId expected result).held = s.held := by
  dsimp only [WritersState.commit]
  split <;> rfl

variable (P E T) in
/-- Rounds of a recovery: every record is written back in one transaction, which starts from
what the one before left, and each answers with the record as it is then. -/
inductive Rounds (now : ℤ) : List ManagedPublicationRecord → List Row →
    List ManagedPublicationRecord → List Row → Prop
  | done (db : List Row) : Rounds now [] db [] db
  | round {current record : ManagedPublicationRecord} {db db' db'' : List Row}
      {rest answered : List ManagedPublicationRecord}
      (hround : recoverRecord P E T current now db = .ok (record, db'))
      (hrest : Rounds now rest db' answered db'') :
      Rounds now (current :: rest) db (record :: answered) db''

def interruptedRecords (records : List ManagedPublicationRecord) : List ManagedPublicationRecord :=
  records.filter (wasInterrupted ·.operation.phase)

theorem recoverAll_rounds (now : ℤ) (records : List ManagedPublicationRecord) (db : List Row) :
    ∃ rounds answered, Rounds P E T now rounds db answered (recoverAll P E T now records db).2
      ∧ ((recoverAll P E T now records db).1 = .ok answered ∧ rounds = interruptedRecords records
        ∨ ∃ failing rest e, interruptedRecords records = rounds ++ failing :: rest
          ∧ recoverRecord P E T failing now (recoverAll P E T now records db).2 = .error e
          ∧ (recoverAll P E T now records db).1 = .error e) := by
  induction records generalizing db with
  | nil => exact ⟨[], [], .done db, .inl ⟨rfl, rfl⟩⟩
  | cons current rest ih =>
    unfold recoverAll
    split
    case isFalse hskip =>
      have hsame : interruptedRecords (current :: rest) = interruptedRecords rest :=
        filter_cons_of_neg hskip
      rw [hsame]
      exact ih db
    case isTrue hinterrupted =>
      have hcons : interruptedRecords (current :: rest) = current :: interruptedRecords rest :=
        filter_cons_of_pos hinterrupted
      rw [hcons]
      split
      case h_1 e hround => exact ⟨[], [], .done db, .inr ⟨current, _, e, rfl, hround, rfl⟩⟩
      case h_2 record db' hround =>
        obtain ⟨rounds, answered, hrounds, hanswer⟩ := ih db'
        refine ⟨current :: rounds, record :: answered, .round hround hrounds, ?_⟩
        obtain ⟨hok, rfl⟩ | ⟨failing, rest', e, hsplit, hfails, herror⟩ := hanswer
        · exact .inl ⟨congrArg (Except.map (record :: ·)) hok, rfl⟩
        · exact .inr ⟨failing, rest', e, congrArg (current :: ·) hsplit, hfails,
            congrArg (Except.map (record :: ·)) herror⟩

theorem Rounds.run {now : ℤ} {rounds answered : List ManagedPublicationRecord}
    (h : Rounds P E T now rounds s.db answered db')
    (hheld : ∀ c ∈ rounds, c ∈ s.held ∧ wasInterrupted c.operation.phase = true) :
    ((writers P E T).runFrom s (rounds.map (.recoverRecord · now))).db = db' := by
  induction rounds generalizing s answered with
  | nil =>
    cases h
    rfl
  | cons current rest ih =>
    cases h with
    | @round _ record _ mid _ _ _ hround hrest =>
      have hstep : (writers P E T).step s (.recoverRecord current now)
          = s.commit current.operation.operationId current.stateVersion (.ok (record, mid)) := by
        show (if _ then _ else _) = _
        rw [if_pos (hheld current mem_cons_self), hround]
      rw [map_cons, Machine.runFrom_cons, hstep]
      refine ih (by rw [commit_db]; exact hrest) fun c hc => ?_
      rw [commit_held]
      exact hheld c (mem_cons_of_mem _ hc)

/-- **The recovery of the store is a sequence of steps of the writers**: it reads the
recoverable records, and then writes the interrupted ones back in their order, one
transaction a round, up to the first that is refused. It answers with the records as the
rounds left them, or with the error of the read or of the refused round. -/
theorem recoverInterrupted_run (now : ℤ) (s : WritersState) :
    (∀ e, listRecoverable P E T s.db = .error e →
      recoverInterrupted P E T now s.db = (.error e, s.db))
    ∧ ∀ records, listRecoverable P E T s.db = .ok records →
      ∃ rounds answered,
        Rounds P E T now rounds s.db answered (recoverInterrupted P E T now s.db).2
        ∧ ((writers P E T).runFrom s (.listRecoverable :: rounds.map (.recoverRecord · now))).db
          = (recoverInterrupted P E T now s.db).2
        ∧ ((recoverInterrupted P E T now s.db).1 = .ok answered
            ∧ rounds = interruptedRecords records
          ∨ ∃ failing rest e, interruptedRecords records = rounds ++ failing :: rest
            ∧ recoverRecord P E T failing now (recoverInterrupted P E T now s.db).2 = .error e
            ∧ (recoverInterrupted P E T now s.db).1 = .error e) := by
  unfold recoverInterrupted
  refine ⟨fun e he => by rw [he], fun records hlist => ?_⟩
  rw [hlist]
  obtain ⟨rounds, answered, hrounds, hanswer⟩ := recoverAll_rounds now records s.db
  refine ⟨rounds, answered, hrounds, ?_, hanswer⟩
  have hstep : (writers P E T).step s .listRecoverable
      = { s with held := s.held ++ records } := by
    show (match listRecoverable P E T s.db with | .error _ => s | .ok _ => _) = _
    rw [hlist]
  have hsub : rounds ⊆ interruptedRecords records := by
    obtain ⟨-, rfl⟩ | ⟨failing, rest, e, hsplit, -⟩ := hanswer
    · exact Subset.refl _
    · exact hsplit ▸ subset_append_left _ _
  rw [Machine.runFrom_cons, hstep]
  refine Rounds.run (s := { s with held := s.held ++ records }) hrounds fun c hc => ?_
  obtain ⟨hmem, hinterrupted⟩ := mem_filter.mp (hsub hc)
  exact ⟨mem_append_right _ hmem, hinterrupted⟩

/-! ## What every run keeps -/

structure LogEntryHolds (db : List Row) (w : LoggedWrite) : Prop where
  found : w.found = some w.expected
  left : w.left = some (w.expected + 1)
  passed : ∃ row ∈ db, row.operationId = w.operationId ∧ (w.expected : ℤ) < row.stateVersion

variable (P E T) in
structure WritersInvariant (s : WritersState) : Prop where
  store : StoreInvariant P E T s.db
  held : ∀ c ∈ s.held, Behind P E T s.db c
  log : ∀ w ∈ s.log, LogEntryHolds s.db w
  distinct : (s.log.map (fun w => (w.operationId, w.expected))).Nodup

section

variable (h : StepEffect P E T s s' keepsTime) (hinv : StoreInvariant P E T s.db)
include h hinv

theorem StepEffect.keeps
    {Q : Row → Prop} (hQ : ∀ row row' before after, Write P E T s.db s'.db row row' before after →
      (keepsTime → row.updatedAt ≤ row'.updatedAt) → Q row → Q row')
    (hrow : ∃ row ∈ s.db, row.operationId = operationId ∧ Q row) :
    ∃ row ∈ s'.db, row.operationId = operationId ∧ Q row := by
  obtain ⟨row, hmem, hid, hq⟩ := hrow
  cases h with
  | unchanged db => exact ⟨row, db ▸ hmem, hid, hq⟩
  | created creation => exact ⟨row, creation.rows ▸ mem_append_left _ hmem, hid, hq⟩
  | @written row₀ row' before after _ write _ _ _ time =>
    by_cases hsame : row.operationId = row₀.operationId
    · obtain rfl := hinv.row_eq hmem write.mem hsame
      exact ⟨row', (write.rows row').mpr (.inl rfl), write.operationId.trans hid,
        hQ _ _ _ _ write time hq⟩
    · exact ⟨row, (write.rows row).mpr (.inr ⟨hmem, hsame⟩), hid, hq⟩

theorem StepEffect.behind (hc : Behind P E T s.db c) : Behind P E T s'.db c := by
  refine h.keeps hinv (fun row row' before after hwrite _ hrow => ?_) hc
  have hversion := hwrite.version
  obtain hlater | hdecode := hrow
  · exact .inl (by omega)
  · have hread := (decodes_of_decodeRecord P E T hdecode).version
    exact .inl (by omega)

theorem StepEffect.logEntry {w : LoggedWrite} (hw : LogEntryHolds s.db w) :
    LogEntryHolds s'.db w := by
  refine ⟨hw.found, hw.left, h.keeps hinv (fun row row' before after hwrite _ hrow => ?_) hw.passed⟩
  have hversion := hwrite.version
  omega

end

theorem WritersInvariant.stepEffect (hinv : WritersInvariant P E T s)
    (h : StepEffect P E T s s' keepsTime) : WritersInvariant P E T s' := by
  have hkept : ∀ c ∈ s.held, Behind P E T s'.db c := fun c hc =>
    h.behind hinv.store (hinv.held c hc)
  have hlogged : ∀ w ∈ s.log, LogEntryHolds s'.db w := fun w hw =>
    h.logEntry hinv.store (hinv.log w hw)
  cases h with
  | unchanged db log held =>
    refine ⟨db ▸ hinv.store, fun c hc => ?_, log ▸ hlogged, log ▸ hinv.distinct⟩
    obtain hc | ⟨row, hmem, hdecode⟩ := held c hc
    · exact hkept c hc
    · exact ⟨row, db ▸ hmem, (decodes_of_decodeRecord P E T hdecode).operationId, .inr hdecode⟩
  | created creation log held =>
    exact ⟨hinv.store.created creation, held ▸ hkept, log ▸ hlogged, log ▸ hinv.distinct⟩
  | @written row row' before after expected write version log held time =>
    have hnext := write.version
    refine ⟨hinv.store.written write, held ▸ hkept, fun w hw => ?_, ?_⟩
    · rw [log] at hw
      obtain hw | rfl := mem_concat.mp hw
      · exact hlogged w hw
      · refine ⟨congrArg some version, congrArg some (hnext.trans (version ▸ rfl)), row', ?_⟩
        exact ⟨(write.rows row').mpr (.inl rfl), write.operationId, by
          show (expected : ℤ) < row'.stateVersion
          omega⟩
    · -- the writes before have been passed, this one expects the version they led to
      rw [log, map_append]
      refine Nodup.append hinv.distinct (nodup_singleton _) ?_
      intro key hkey hkey'
      obtain ⟨w, hw, rfl⟩ := mem_map.mp hkey
      obtain ⟨hid, hexpected⟩ := Prod.mk.inj (mem_singleton.mp hkey')
      obtain ⟨row₀, hmem₀, hid₀, hpassed⟩ := (hinv.log w hw).passed
      obtain rfl := hinv.store.row_eq hmem₀ write.mem (hid₀.trans hid)
      have hsame : w.expected = expected := hexpected
      omega

theorem writersInvariant_init : WritersInvariant P E T (writers P E T).init :=
  ⟨storeInvariant_nil, forall_mem_nil _, forall_mem_nil _, nodup_nil⟩

theorem writersInvariant_step (s : WritersState) (a : WriterStep)
    (hinv : WritersInvariant P E T s) : WritersInvariant P E T ((writers P E T).step s a) :=
  hinv.stepEffect (stepEffect_step hinv.store hinv.held a)

theorem writersInvariant_run (steps : List WriterStep) :
    WritersInvariant P E T ((writers P E T).run steps) :=
  Machine.invariant _ writersInvariant_init writersInvariant_step steps

/-! ## The history of a row -/

variable (P E T) in
def ContinuesFrom (operationId : String) (record : ManagedPublicationRecord) (s : WritersState) :
    Prop :=
  ∃ row ∈ s.db, row.operationId = operationId
    ∧ ∃ after, decodeRecord P E T row = .ok after ∧ History record after

theorem continuesFrom_step (s : WritersState) (a : WriterStep)
    (h : WritersInvariant P E T s ∧ ContinuesFrom P E T operationId record s)
    (hkeeps : KeepsTime s a) :
    WritersInvariant P E T ((writers P E T).step s a)
      ∧ ContinuesFrom P E T operationId record ((writers P E T).step s a) := by
  obtain ⟨hinv, hcontinues⟩ := h
  have heffect := stepEffect_step hinv.store hinv.held a
  refine ⟨hinv.stepEffect heffect, heffect.keeps hinv.store ?_ hcontinues⟩
  rintro row row' before after hwrite htime ⟨current, hcurrent, hhistory⟩
  obtain rfl : before = current := Except.ok.inj (hwrite.found.symm.trans hcurrent)
  exact ⟨after, hwrite.left, hhistory.trans (hwrite.history (htime hkeeps))⟩

theorem phaseEdge_self (phase : ManagedPublicationPhase) : PhaseEdge phase phase := by
  simp [PhaseEdge, ManagedPublicationPhase.canTransitionTo]

theorem phaseEdge_step (hinv : WritersInvariant P E T s) (a : WriterStep) (hmem : row ∈ s.db)
    (hmem' : row' ∈ ((writers P E T).step s a).db) (hid : row'.operationId = row.operationId)
    (hbefore : decodeRecord P E T row = .ok before) (hafter : decodeRecord P E T row' = .ok after) :
    PhaseEdge before.operation.phase after.operation.phase := by
  -- a row that is still in the table as it was has kept its phase
  have hstays : row' ∈ s.db → PhaseEdge before.operation.phase after.operation.phase := by
    intro hold
    obtain rfl := hinv.store.row_eq hold hmem hid
    obtain rfl : before = after := Except.ok.inj (hbefore.symm.trans hafter)
    exact phaseEdge_self _
  cases stepEffect_step hinv.store hinv.held a with
  | unchanged db => exact hstays (db ▸ hmem')
  | created creation =>
    obtain hold | hnew := mem_append.mp (creation.rows ▸ hmem')
    · exact hstays hold
    · obtain rfl := mem_singleton.mp hnew
      exact absurd hid.symm (creation.fresh row hmem)
  | written write =>
    obtain rfl | ⟨hold, _⟩ := (write.rows row').mp hmem'
    · obtain rfl := hinv.store.row_eq write.mem hmem (write.operationId.symm.trans hid)
      obtain rfl := Except.ok.inj (write.found.symm.trans hbefore)
      obtain rfl := Except.ok.inj (write.left.symm.trans hafter)
      exact write.phase
    · exact hstays hold

/-- **The history of the operations.** Over every run of the writers in which no
update brings an earlier time with it: every write found the version it expected
and left the next one, and no two writes of an operation expected the same; the
record of a row leads to a later record of the same row by `History`; and every
single step moves a phase along an edge. -/
theorem publication_history (steps : List WriterStep)
    (hkeeps : (writers P E T).Admissible KeepsTime (writers P E T).init steps) :
    (∀ w ∈ ((writers P E T).run steps).log,
      w.found = some w.expected ∧ w.left = some (w.expected + 1))
    ∧ (((writers P E T).run steps).log.map (fun w => (w.operationId, w.expected))).Nodup
    ∧ (∀ early late, steps = early ++ late → ∀ row ∈ ((writers P E T).run early).db,
      ∃ before, decodeRecord P E T row = .ok before
        ∧ ContinuesFrom P E T row.operationId before ((writers P E T).run steps))
    ∧ ∀ early step late, steps = early ++ step :: late →
      ∀ row ∈ ((writers P E T).run early).db,
      ∀ row' ∈ ((writers P E T).run (early ++ [step])).db, row'.operationId = row.operationId →
      ∀ before after, decodeRecord P E T row = .ok before →
        decodeRecord P E T row' = .ok after →
        PhaseEdge before.operation.phase after.operation.phase := by
  have hrun := writersInvariant_run (P := P) (E := E) (T := T)
  refine ⟨fun w hw => ⟨((hrun steps).log w hw).found, ((hrun steps).log w hw).left⟩,
    (hrun steps).distinct, ?_, ?_⟩
  · rintro early late rfl row hrow
    obtain ⟨before, hbefore⟩ := (hrun early).store.decodes row hrow
    have hlate : (writers P E T).Admissible KeepsTime ((writers P E T).run early) late :=
      ((writers P E T).admissible_append.mp hkeeps).2
    refine ⟨before, hbefore, ?_⟩
    rw [Machine.run_append]
    exact ((writers P E T).invariant_of_admissible continuesFrom_step late _
      ⟨hrun early, row, hrow, rfl, before, hbefore, .refl before⟩ hlate).2
  · rintro early step late rfl row hrow row' hrow' hid before after hbefore hafter
    rw [Machine.run_append] at hrow'
    exact phaseEdge_step (hrun early) step hrow hrow' hid hbefore hafter

end Writers

/-! ## An update that goes back in time -/

namespace StoresPlanned

variable {P : Primitives} {E : Externals} {T : StoredTexts} {plan : ManagedPublicationPlan}
  {consentHash planJson : String} {operationJson : ℤ → String}

theorem run_create (h : StoresPlanned P E T plan consentHash planJson operationJson)
    (hcreated : 0 ≤ created) : (writers P E T).run [.createPlanned plan consentHash created]
      = ⟨[rowAt plan consentHash planJson operationJson created created (1 : ℕ)], [], []⟩ := by
  show (⟨committed [] (createPlanned P E T plan consentHash created []), [], []⟩ : WritersState) = _
  rw [h.createPlanned_nil hcreated]
  rfl

theorem run_update (h : StoresPlanned P E T plan consentHash planJson operationJson)
    (hcreated : 0 ≤ created) (hupdated : 0 ≤ updated) :
    ((writers P E T).run [.createPlanned plan consentHash created,
        .updateOperation plan.payload.operationId 1 (plannedOperation plan consentHash updated)]).db
      = [rowAt plan consentHash planJson operationJson created updated (2 : ℕ)] := by
  rw [show ∀ a b : WriterStep, [a, b] = [a] ++ [b] from fun _ _ => rfl, Machine.run_append,
    h.run_create hcreated, Machine.runFrom_cons, Machine.runFrom_nil]
  show (WritersState.commit _ _ _ (updateOperation P E T _ 1 _ _)).db = _
  rw [commit_db, h.updateOperation_rowAt hcreated hupdated]
  rfl

end StoresPlanned

def sampleWriters : Machine WritersState WriterStep :=
  writers samplePrimitives sampleExternals sampleTexts

def sampleSteps (created updated : ℤ) : List WriterStep :=
  [.createPlanned samplePlan sampleHash created,
    .updateOperation samplePlan.payload.operationId 1
      (plannedOperation samplePlan sampleHash updated)]

def sampleTimes (steps : List WriterStep) : List ℤ := (sampleWriters.run steps).db.map (·.updatedAt)

theorem sampleTimes_create (hcreated : 0 ≤ created) :
    sampleTimes ((sampleSteps created updated).take 1) = [created] := by
  unfold sampleTimes sampleWriters sampleSteps
  rw [take_succ_cons, take_zero, sampleTexts_stores.run_create hcreated]
  rfl

theorem sampleTimes_update (hcreated : 0 ≤ created) (hupdated : 0 ≤ updated) :
    sampleTimes (sampleSteps created updated) = [updated] := by
  unfold sampleTimes sampleWriters sampleSteps
  rw [sampleTexts_stores.run_update hcreated hupdated]
  rfl

theorem publication_history_forward :
    sampleTimes (sampleSteps 0 5) = [5]
    ∧ ((sampleWriters.run (sampleSteps 0 5)).log.map
      (fun w => (w.operationId, w.expected))).Nodup := by
  refine ⟨sampleTimes_update (le_refl 0) (by decide), (publication_history _ ?_).2.1⟩
  refine ⟨trivial, fun row hrow _ => ?_, trivial⟩
  have hmem : row.updatedAt ∈ sampleTimes ((sampleSteps 0 5).take 1) := mem_map_of_mem hrow
  rw [sampleTimes_create (le_refl 0), mem_singleton] at hmem
  rw [hmem]
  decide

/-- **A plan created at 5 is updated to 0**: `update_operation` accepts it, and
the time of the row goes back. -/
theorem update_goes_back :
    sampleTimes ((sampleSteps 5 0).take 1) = [5] ∧ sampleTimes (sampleSteps 5 0) = [0] :=
  ⟨sampleTimes_create (by decide), sampleTimes_update (by decide) (le_refl 0)⟩

end Froglet.ManagedPublication
