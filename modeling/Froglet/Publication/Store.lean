import Froglet.Lib.Runs
import Froglet.Lib.Table
import Froglet.Publication.Contract
import Mathlib.Data.List.Sort

/-!
# The managed-publication store

One row per operation, with its documents as texts next to the columns they are searched
by.
-/

namespace Froglet.ManagedPublication

open ManagedDeployment List Option Table
open ContractError (message)

variable {P : Primitives} {plan : ManagedPublicationPlan}
variable {missing consentHash : String}
variable {next : ManagedPublicationOperation} {updated : ℤ} {version : ℕ}

/-! ## Rows and records -/

structure Row where
  (operationId serviceId planHash consentHash phase : String)
  revisionHash : Option String
  (planJson operationJson : String)
  capsuleJson : Option String
  (stateVersion createdAt updatedAt : ℤ)
deriving DecidableEq

structure ManagedPublicationRecord where
  plan : ManagedPublicationPlan
  operation : ManagedPublicationOperation
  capsule : Option ManagedPublicationCapsule
  stateVersion : ℕ
  createdAtEpochSeconds : ℤ
deriving DecidableEq

structure StoredTexts where
  writePlan : ManagedPublicationPlan → Except String String
  writeOperation : ManagedPublicationOperation → Except String String
  writeCapsule : ManagedPublicationCapsule → Except String String
  readPlan : String → Except String ManagedPublicationPlan
  readOperation : String → Except String ManagedPublicationOperation
  readCapsule : String → Except String ManagedPublicationCapsule

def phaseName : ManagedPublicationPhase → String
  | .planned => "planned"
  | .localRevisionReady => "local_revision_ready"
  | .provisioning => "provisioning"
  | .deploying => "deploying"
  | .reconciling => "reconciling"
  | .deployed => "deployed"
  | .canaryVerified => "canary_verified"
  | .registering => "registering"
  | .active => "active"
  | .compensating => "compensating"
  | .compensated => "compensated"
  | .reconciliationRequired => "reconciliation_required"
  | .failed => "failed"

def phaseNames : List String :=
  ["planned", "local_revision_ready", "provisioning", "deploying", "reconciling", "deployed",
    "canary_verified", "registering", "active", "compensating", "compensated",
    "reconciliation_required", "failed"]

def Row.passesChecks (row : Row) : Bool :=
  isLowerHexLen row.operationId 64 && isLowerHexLen row.planHash 64
    && isLowerHexLen row.consentHash 64 && phaseNames.contains row.phase
    && decide (1 ≤ row.stateVersion)

open ManagedPublicationPhase in
def phaseRequiresCapsule (phase : ManagedPublicationPhase) : Bool :=
  phase ∈ [localRevisionReady, provisioning, deploying, reconciling, deployed, canaryVerified,
    registering, active, compensating, compensated, reconciliationRequired]

variable {now : ℤ}

section Store

variable (P) (E : Externals) (T : StoredTexts)

def capsuleDiffers (row : Row) (operation : ManagedPublicationOperation)
    (capsule : ManagedPublicationCapsule) : Bool :=
  capsule.operationId != row.operationId || capsule.planHash != row.planHash
    || capsule.consentHash != row.consentHash
    || some capsule.revision.revisionHash != row.revisionHash
    || operation.registration.any fun registration =>
      registration.validatedOfferHash != capsule.revision.payload.offerHash

def columnsDiffer (row : Row) (plan : ManagedPublicationPlan)
    (operation : ManagedPublicationOperation) (capsule : Option ManagedPublicationCapsule) : Bool :=
  row.operationId != plan.payload.operationId || row.operationId != operation.operationId
    || row.serviceId != plan.payload.serviceId || row.planHash != plan.planHash
    || row.planHash != operation.planHash || row.consentHash != operation.consentHash
    || row.phase != phaseName operation.phase || row.revisionHash != operation.revisionHash
    || row.updatedAt != operation.updatedAtEpochSeconds || decide (row.stateVersion < 1)
    || capsule.any (capsuleDiffers row operation)
    || (phaseRequiresCapsule operation.phase && capsule.isNone)

def decodeCapsule (plan : ManagedPublicationPlan) :
    Option String → Except String (Option ManagedPublicationCapsule)
  | none => .ok none
  | some json => do
    let capsule ← (T.readCapsule json).mapError
      ("stored Managed Publication capsule is invalid: " ++ ·)
    (capsule.validateAgainst P E plan).mapError fun error =>
      "stored Managed Publication capsule failed validation: " ++ error.message
    return some capsule

def decodeRecord (row : Row) : Except String ManagedPublicationRecord := do
  rejectIf (decide (i64Max < row.stateVersion))
    "Invalid column type Real at index: 9, name: state_version"
  let plan ← (T.readPlan row.planJson).mapError
    ("stored Managed Publication plan is invalid: " ++ ·)
  (plan.validate P E).mapError fun error =>
    "stored Managed Publication plan failed validation: " ++ error.message
  let operation ← (T.readOperation row.operationJson).mapError
    ("stored Managed Publication operation is invalid: " ++ ·)
  (operation.validateAgainst P E plan).mapError fun error =>
    "stored Managed Publication operation failed validation: " ++ error.message
  let capsule ← decodeCapsule P E T plan row.capsuleJson
  rejectIf (columnsDiffer row plan operation capsule)
    "stored Managed Publication columns do not match their validated documents"
  return { plan, operation, capsule, stateVersion := row.stateVersion.toNat
           createdAtEpochSeconds := row.createdAt }

def get (db : List Row) (operationId : String) : Except String (Option ManagedPublicationRecord) :=
  match selectWhere (·.operationId == operationId) db with
  | none => .ok none
  | some row => (decodeRecord P E T row).map some

def getPresent (db : List Row) (operationId missing : String) :
    Except String ManagedPublicationRecord := do
  let found ← get P E T db operationId
  match found with
  | none => .error missing
  | some record => .ok record

/-! ## Calls -/

def insertOrIgnore (row : Row) (db : List Row) : List Row :=
  if db.any (·.operationId == row.operationId) || !row.passesChecks then db else db ++ [row]

def plannedOperation (plan : ManagedPublicationPlan) (consentHash : String) (now : ℤ) :
    ManagedPublicationOperation where
  schemaVersion := operationSchemaV1
  operationId := plan.payload.operationId
  planHash := plan.planHash
  consentHash := consentHash
  phase := .planned
  revisionHash := none
  provisionResult := none
  deployResult := none
  compensationResult := none
  remoteCanary := none
  registration := none
  lastError := none
  attemptCount := 0
  updatedAtEpochSeconds := now

def plannedRow (plan : ManagedPublicationPlan) (consentHash planJson operationJson : String)
    (now : ℤ) : Row where
  operationId := plan.payload.operationId
  serviceId := plan.payload.serviceId
  planHash := plan.planHash
  consentHash := consentHash
  phase := phaseName .planned
  revisionHash := none
  planJson := planJson
  operationJson := operationJson
  capsuleJson := none
  stateVersion := 1
  createdAt := now
  updatedAt := now

def createPlanned (plan : ManagedPublicationPlan) (consentHash : String) (now : ℤ) (db : List Row) :
    Except String (ManagedPublicationRecord × List Row) := do
  (plan.validate P E).mapError message
  rejectIf (decide (now < 0)) "Managed Publication timestamp must be non-negative"
  let operation := plannedOperation plan consentHash now
  (operation.validateAgainst P E plan).mapError message
  let planJson ← T.writePlan plan
  let operationJson ← T.writeOperation operation
  let db' := insertOrIgnore (plannedRow plan consentHash planJson operationJson now) db
  let stored ← getPresent P E T db' plan.payload.operationId
    "Managed Publication operation missing after insert"
  let operationId := plan.payload.operationId
  rejectIf (stored.plan != plan || stored.operation.consentHash != consentHash)
    (s!"Managed Publication operation {operationId} conflicts with "
      ++ "an existing immutable plan or consent")
  return (stored, db')

structure RowUpdate where
  phase : ManagedPublicationPhase
  revisionHash : Option String
  operationJson : String
  capsuleJson : Option String
  updatedAt : ℤ

def RowUpdate.apply (update : RowUpdate) (row : Row) : Row :=
  { row with
    phase := phaseName update.phase
    revisionHash := update.revisionHash
    operationJson := update.operationJson
    capsuleJson := update.capsuleJson <|> row.capsuleJson
    stateVersion := row.stateVersion + 1
    updatedAt := update.updatedAt }

def isVersion (operationId : String) (expected : ℕ) (row : Row) : Bool :=
  row.operationId == operationId && row.stateVersion == expected

def compareAndSwap (operationId : String) (expected : ℕ) (update : RowUpdate) (missing : String)
    (db : List Row) : Except String (ManagedPublicationRecord × List Row) := do
  rejectIf (decide (i64Max < expected)) "Managed Publication state version exceeds SQLite range"
  let db' := updateWhere (isVersion operationId expected) update.apply db
  rejectIf ((db.filter (isVersion operationId expected)).any
      (fun row => !(update.apply row).passesChecks))
    "CHECK constraint failed: managed_publication_operations"
  rejectIf ((db.filter (isVersion operationId expected)).length != 1)
    "Managed Publication compare-and-swap update failed"
  let stored ← getPresent P E T db' operationId missing
  return (stored, db')

def getExpected (db : List Row) (operationId : String) (expected : ℕ) :
    Except String ManagedPublicationRecord := do
  let current ← getPresent P E T db operationId
    s!"Managed Publication operation {operationId} was not found"
  let version := current.stateVersion
  rejectIf (version != expected)
    (s!"Managed Publication state version mismatch: expected {expected}, " ++ s!"current {version}")
  return current

def writeCapsule (current : ManagedPublicationRecord) (operationId : String) (expected : ℕ)
    (capsule : ManagedPublicationCapsule) (now : ℤ) (db : List Row) :
    Except String (ManagedPublicationRecord × List Row) := do
  let ready := { current.operation with revisionHash := some capsule.revision.revisionHash }
  let operation ← (ready.transition .localRevisionReady now).mapError message
  (operation.validateAgainst P E current.plan).mapError message
  let operationJson ← T.writeOperation operation
  let capsuleJson ← T.writeCapsule capsule
  compareAndSwap P E T operationId expected
    { phase := operation.phase, revisionHash := operation.revisionHash, operationJson
      capsuleJson := some capsuleJson, updatedAt := now }
    "Managed Publication operation missing after capsule attach" db

def attachCapsule (operationId : String) (expected : ℕ) (capsule : ManagedPublicationCapsule)
    (now : ℤ) (db : List Row) : Except String (ManagedPublicationRecord × List Row) := do
  (capsule.validate P E).mapError message
  let current ← getExpected P E T db operationId expected
  (capsule.validateAgainst P E current.plan).mapError message
  rejectIf (capsule.consentHash != current.operation.consentHash)
    "Managed Publication capsule consent does not match durable consent"
  let phase := phaseName current.operation.phase
  if current.operation.phase = .localRevisionReady then
    -- the same capsule again is answered from the row, and nothing is written
    if current.capsule = some capsule then .ok (current, db)
    else .error "Managed Publication already has a different immutable capsule"
  else if current.operation.phase = .planned then
    writeCapsule P E T current operationId expected capsule now db
  else .error s!"Managed Publication capsule cannot be attached in phase {phase}"

def changesCoordinates (current next : ManagedPublicationOperation) : Bool :=
  next.operationId != current.operationId || next.planHash != current.planHash
    || next.consentHash != current.consentHash || next.revisionHash != current.revisionHash

def updateOperation (operationId : String) (expected : ℕ) (next : ManagedPublicationOperation)
    (db : List Row) : Except String (ManagedPublicationRecord × List Row) := do
  let current ← getExpected P E T db operationId expected
  rejectIf (changesCoordinates current.operation next)
    "Managed Publication update changed immutable operation coordinates"
  let source := phaseName current.operation.phase
  let target := phaseName next.phase
  rejectIf (!current.operation.phase.canTransitionTo next.phase)
    s!"Managed Publication invalid durable transition from {source} to {target}"
  (next.validateAgainst P E current.plan).mapError message
  let operationJson ← T.writeOperation next
  compareAndSwap P E T operationId expected
    { phase := next.phase, revisionHash := next.revisionHash, operationJson
      capsuleJson := none, updatedAt := next.updatedAtEpochSeconds }
    "Managed Publication operation missing after update" db

/-! ## Recovery -/

def recoverableRows (db : List Row) : List Row :=
  (db.filter (fun row => !(["active", "compensated", "failed"].contains row.phase))).insertionSort
    fun a b => a.updatedAt < b.updatedAt
      ∨ (a.updatedAt = b.updatedAt ∧ a.operationId ≤ b.operationId)

def listRecoverable (db : List Row) : Except String (List ManagedPublicationRecord) :=
  (recoverableRows db).mapM (decodeRecord P E T)

open ManagedPublicationPhase in
def wasInterrupted (phase : ManagedPublicationPhase) : Bool :=
  phase ∈ [provisioning, deploying, reconciling, registering, compensating]

def interruptedOperation (operation : ManagedPublicationOperation) (now : ℤ) :
    Except ContractError ManagedPublicationOperation :=
  let phase := phaseName operation.phase
  { operation with
    lastError := some s!"node restarted while Managed Publication was in {phase}" }.transition
    .reconciliationRequired now

def recoverRecord (current : ManagedPublicationRecord) (now : ℤ) (db : List Row) :
    Except String (ManagedPublicationRecord × List Row) := do
  let operation ← (interruptedOperation current.operation now).mapError message
  updateOperation P E T current.operation.operationId current.stateVersion operation db

def recoverAll (now : ℤ) : List ManagedPublicationRecord → List Row →
    Except String (List ManagedPublicationRecord) × List Row
  | [], db => (.ok [], db)
  | current :: rest, db =>
    if wasInterrupted current.operation.phase then
      match recoverRecord P E T current now db with
      | .error e => (.error e, db)
      | .ok (record, db') =>
        let (answer, db'') := recoverAll now rest db'
        (answer.map (record :: ·), db'')
    else recoverAll now rest db

def recoverInterrupted (now : ℤ) (db : List Row) :
    Except String (List ManagedPublicationRecord) × List Row :=
  match listRecoverable P E T db with
  | .error e => (.error e, db)
  | .ok records => recoverAll P E T now records db

/-! ## What a decoded row says -/

theorem phaseName_injective : Function.Injective phaseName := by
  intro a b h
  cases a <;> cases b <;> first | rfl | exact absurd h (by decide)

/-- What decoding a row establishes: its columns are those of the documents,
the documents validate, and a phase that requires a capsule has one. -/
structure Decodes (row : Row) (record : ManagedPublicationRecord) : Prop where
  plan : T.readPlan row.planJson = .ok record.plan
  capsule : decodeCapsule P E T record.plan row.capsuleJson = .ok record.capsule
  valid : record.operation.validateAgainst P E record.plan = .ok ()
  operationId : row.operationId = record.operation.operationId
  consentHash : row.consentHash = record.operation.consentHash
  phase : row.phase = phaseName record.operation.phase
  revisionHash : row.revisionHash = record.operation.revisionHash
  updatedAt : row.updatedAt = record.operation.updatedAtEpochSeconds
  version : row.stateVersion = record.stateVersion
  capsuleMatches : ∀ capsule, record.capsule = some capsule →
    capsuleDiffers row record.operation capsule = false
  capsulePresent : phaseRequiresCapsule record.operation.phase = true →
    record.capsule.isSome = true

variable {record : ManagedPublicationRecord} {row : Row}

theorem decodes_of_decodeRecord (h : decodeRecord P E T row = .ok record) :
    Decodes P E T row record := by
  unfold decodeRecord at h
  simp only [↓check_eq_ok, bind_eq_ok, mapError_eq_ok, rejectIf_eq_ok, pure_eq_ok] at h
  obtain ⟨_, plan, hplan, _, operation, _, hvalid, capsule, hcapsule, hcolumns, rfl⟩ := h
  simp only [columnsDiffer, Bool.or_eq_false_iff, bne_eq_false_iff_eq, decide_eq_false_iff_not,
    not_lt, Bool.and_eq_false_iff, isNone_eq_false_iff] at hcolumns
  obtain ⟨⟨⟨⟨⟨⟨⟨⟨⟨⟨⟨_, hid⟩, _⟩, _⟩, _⟩, hconsent⟩, hphase⟩, hrevision⟩, hupdated⟩, hversion⟩,
    hmatches⟩, hpresent⟩ := hcolumns
  exact {
    plan := hplan, capsule := hcapsule, valid := hvalid, operationId := hid
    consentHash := hconsent, phase := hphase, revisionHash := hrevision, updatedAt := hupdated
    version := (Int.toNat_of_nonneg (by omega)).symm
    capsuleMatches := fun c hc => by
      obtain rfl : capsule = some c := hc
      exact hmatches
    capsulePresent := fun hrequires =>
      hpresent.resolve_left (fun hnot => Bool.false_ne_true (hnot.symm.trans hrequires)) }

variable {db : List Row} {operationId : String}

theorem getPresent_eq_ok (h : getPresent P E T db operationId missing = .ok record) :
    ∃ row ∈ db, row.operationId = operationId ∧ decodeRecord P E T row = .ok record := by
  unfold getPresent get at h
  cases hrow : selectWhere (·.operationId == operationId) db with
  | none => simp [hrow] at h
  | some row =>
    simp only [hrow, bind_eq_ok, map_eq_ok] at h
    obtain ⟨_, ⟨record', hdecode, rfl⟩, h⟩ := h
    obtain ⟨hmem, hid⟩ := selectWhere_some hrow
    obtain rfl := Except.ok.inj h
    exact ⟨row, hmem, beq_iff_eq.mp hid, hdecode⟩

/-! ## What a call can do -/

structure StoreInvariant (db : List Row) : Prop where
  unique : Table.Unique (some ·.operationId) db
  decodes : ∀ row ∈ db, ∃ record, decodeRecord P E T row = .ok record
  bare : ∀ row ∈ db, row.phase = phaseName .planned →
    row.revisionHash = none ∧ row.capsuleJson = none

/-- A write of one row: the row it finds and the row it leaves both decode,
every other row stays, the version goes up by one, the phase along a transition,
and the plan, the consent and, once there, the revision and the capsule stay. -/
structure Write (db db' : List Row) (row row' : Row) (before after : ManagedPublicationRecord) :
    Prop where
  mem : row ∈ db
  rows : ∀ r, r ∈ db' ↔ r = row' ∨ (r ∈ db ∧ r.operationId ≠ row.operationId)
  found : decodeRecord P E T row = .ok before
  left : decodeRecord P E T row' = .ok after
  operationId : row'.operationId = row.operationId
  planJson : row'.planJson = row.planJson
  consentHash : row'.consentHash = row.consentHash
  version : row'.stateVersion = row.stateVersion + 1
  phase : before.operation.phase.canTransitionTo after.operation.phase = true
  revisionHash : row.revisionHash.isSome = true → row'.revisionHash = row.revisionHash
  capsuleJson : row.capsuleJson.isSome = true → row'.capsuleJson = row.capsuleJson
  bare : row'.phase = phaseName .planned → row'.revisionHash = none ∧ row'.capsuleJson = none
  unique : Table.Unique (some ·.operationId) db'

/-- A new row: its id is new, it decodes, and it is still bare. -/
structure Creation (db db' : List Row) (row : Row) (record : ManagedPublicationRecord) : Prop where
  rows : db' = db ++ [row]
  fresh : ∀ r ∈ db, r.operationId ≠ row.operationId
  decodes : decodeRecord P E T row = .ok record
  version : row.stateVersion = 1
  bare : row.revisionHash = none ∧ row.capsuleJson = none

variable {P E T}

variable {db' : List Row}

theorem StoreInvariant.created (hinv : StoreInvariant P E T db)
    (h : Creation P E T db db' row record) : StoreInvariant P E T db' := by
  have hmem : ∀ r ∈ db', r ∈ db ∨ r = row := fun r hr =>
    (mem_append.mp (h.rows ▸ hr)).imp_right mem_singleton.mp
  refine ⟨?_, fun r hr => ?_, fun r hr => ?_⟩
  · rw [h.rows]
    refine hinv.unique.concat fun r hr id hid hid' => ?_
    exact h.fresh r hr (some.inj (hid.trans hid'.symm))
  · obtain hr | rfl := hmem r hr
    · exact hinv.decodes r hr
    · exact ⟨record, h.decodes⟩
  · obtain hr | rfl := hmem r hr
    · exact hinv.bare r hr
    · exact fun _ => h.bare

variable {after : ManagedPublicationRecord}

theorem StoreInvariant.written {row' : Row} {before : ManagedPublicationRecord}
    (hinv : StoreInvariant P E T db) (h : Write P E T db db' row row' before after) :
    StoreInvariant P E T db' := by
  refine ⟨h.unique, fun r hr => ?_, fun r hr => ?_⟩
  · obtain rfl | ⟨hr, _⟩ := (h.rows r).mp hr
    · exact ⟨after, h.left⟩
    · exact hinv.decodes r hr
  · obtain rfl | ⟨hr, _⟩ := (h.rows r).mp hr
    · exact h.bare
    · exact hinv.bare r hr

variable {expected : ℕ}

/-- The compare-and-swap: it finds the one row with the id, at the expected
version, and leaves the updated row, which decodes, among the others. -/
theorem compareAndSwap_spec {update : RowUpdate}
    (hunique : Table.Unique (some ·.operationId) db)
    (h : compareAndSwap P E T operationId expected update missing db = .ok (after, db')) :
    ∃ row ∈ db, row.operationId = operationId ∧ row.stateVersion = expected
      ∧ decodeRecord P E T (update.apply row) = .ok after
      ∧ Table.Unique (some ·.operationId) db'
      ∧ ∀ r, r ∈ db' ↔ r = update.apply row ∨ (r ∈ db ∧ r.operationId ≠ row.operationId) := by
  unfold compareAndSwap at h
  simp only [↓check_eq_ok, bind_eq_ok, rejectIf_eq_ok, pure_eq_ok,
    bne_eq_false_iff_eq, Prod.mk.injEq] at h
  obtain ⟨_, _, hone, stored, hstored, rfl, rfl⟩ := h
  obtain ⟨row, hrow⟩ := exists_mem_of_length_pos (Nat.lt_of_lt_of_eq Nat.zero_lt_one hone.symm)
  obtain ⟨hmem, hversion⟩ := mem_filter.mp hrow
  simp only [isVersion, Bool.and_eq_true, beq_iff_eq] at hversion
  obtain ⟨rfl, hexpected⟩ := hversion
  have hwritten : isVersion row.operationId expected row = true := by simp [isVersion, hexpected]
  have hunique' : Table.Unique (some ·.operationId)
      (updateWhere (isVersion row.operationId expected) update.apply db) :=
    hunique.updateWhere fun _ _ _ => rfl
  have hrows : ∀ r, r ∈ updateWhere (isVersion row.operationId expected) update.apply db
      ↔ r = update.apply row ∨ (r ∈ db ∧ r.operationId ≠ row.operationId) := by
    intro r
    rw [mem_updateWhere]
    constructor
    · rintro ⟨r₀, hr₀, rfl⟩
      by_cases hid : r₀.operationId = row.operationId
      · obtain rfl := hunique.eq_of_mem hr₀ hmem rfl (congrArg some hid.symm)
        exact .inl (if_pos hwritten)
      · have hother : isVersion row.operationId expected r₀ = false := by
          simp [isVersion, hid]
        rw [hother]
        exact .inr ⟨hr₀, hid⟩
    · rintro (rfl | ⟨hr, hid⟩)
      · exact ⟨row, hmem, if_pos hwritten⟩
      · have hother : isVersion row.operationId expected r = false := by
          simp [isVersion, hid]
        exact ⟨r, hr, by rw [hother]; rfl⟩
  obtain ⟨row', hmem', hid', hdecode⟩ := getPresent_eq_ok P E T hstored
  obtain rfl : row' = update.apply row :=
    hunique'.eq_of_mem hmem' ((hrows _).mpr (.inl rfl)) rfl (congrArg some hid'.symm)
  exact ⟨row, hmem, rfl, hexpected, hdecode, hunique', hrows⟩

variable {current : ManagedPublicationRecord}

theorem getExpected_eq_ok (h : getExpected P E T db operationId expected = .ok current) :
    (∃ row ∈ db, row.operationId = operationId ∧ decodeRecord P E T row = .ok current)
      ∧ current.stateVersion = expected := by
  unfold getExpected at h
  simp only [bind_eq_ok, ↓check_eq_ok, rejectIf_eq_ok, pure_eq_ok, bne_eq_false_iff_eq] at h
  obtain ⟨_, hcurrent, hversion, rfl⟩ := h
  exact ⟨getPresent_eq_ok P E T hcurrent, hversion⟩

/-! ## The calls -/

/-- `create_planned` either finds the operation or creates its row. -/
theorem createPlanned_cases {stored : ManagedPublicationRecord}
    (h : createPlanned P E T plan consentHash now db = .ok (stored, db')) :
    db' = db ∨ ∃ row, Creation P E T db db' row stored := by
  unfold createPlanned at h
  simp only [↓check_eq_ok, bind_eq_ok, rejectIf_eq_ok, pure_eq_ok, Prod.mk.injEq] at h
  obtain ⟨_, _, _, planJson, _, operationJson, _, record, hrecord, _, rfl, rfl⟩ := h
  unfold insertOrIgnore at hrecord ⊢
  split
  · exact .inl rfl
  · rename_i hfresh
    rw [if_neg hfresh] at hrecord
    simp only [Bool.or_eq_true, Bool.not_eq_true', not_or, Bool.not_eq_false,
      Bool.not_eq_true, List.any_eq_false, beq_iff_eq] at hfresh
    obtain ⟨row, hmem, hid, hdecode⟩ := getPresent_eq_ok P E T hrecord
    obtain hmem | rfl := mem_concat.mp hmem
    · exact absurd hid (hfresh.1 row hmem)
    · exact .inr ⟨_, rfl, hfresh.1, hdecode, rfl, rfl, rfl⟩

theorem StoreInvariant.row_eq (hinv : StoreInvariant P E T db) {row' : Row} (hmem : row ∈ db)
    (hmem' : row' ∈ db) (hid : row.operationId = row'.operationId) : row = row' :=
  hinv.unique.eq_of_mem hmem hmem' rfl (congrArg some hid.symm)

open ManagedPublicationPhase in
theorem eq_planned_of_canTransitionTo {phase : ManagedPublicationPhase}
    (h : phase.canTransitionTo planned = true) : phase = planned := by
  revert h
  cases phase <;> decide

theorem Decodes.of_apply {update : RowUpdate} (h : Decodes P E T (update.apply row) record) :
    record.operation.phase = update.phase
      ∧ record.operation.updatedAtEpochSeconds = update.updatedAt :=
  ⟨(phaseName_injective h.phase).symm, h.updatedAt.symm⟩

variable {capsule : ManagedPublicationCapsule}

theorem writeCapsule_write (hinv : StoreInvariant P E T db) {row₀ : Row} (hmem₀ : row₀ ∈ db)
    (hid₀ : row₀.operationId = operationId) (hcurrent : decodeRecord P E T row₀ = .ok current)
    (hplanned : current.operation.phase = .planned)
    (h : writeCapsule P E T current operationId expected capsule now db = .ok (after, db')) :
    ∃ row row', Write P E T db db' row row' current after ∧ row.operationId = operationId
      ∧ row.stateVersion = expected ∧ row'.updatedAt = now
      ∧ current.operation.updatedAtEpochSeconds ≤ now := by
  unfold writeCapsule ManagedPublicationOperation.transition at h
  simp only [↓check_eq_ok, bind_eq_ok, mapError_eq_ok, rejectIf_eq_ok,
    refuseIf_eq_ok, pure_eq_ok, decide_eq_false_iff_not, not_lt] at h
  obtain ⟨_, ⟨hclock, _, rfl⟩, _, operationJson, _, capsuleJson, _, h⟩ := h
  obtain ⟨row, hmem, hid, hversion, hdecode, hunique, hrows⟩ := compareAndSwap_spec hinv.unique h
  obtain rfl := hinv.row_eq hmem₀ hmem (hid₀.trans hid.symm)
  have hbare := hinv.bare row₀ hmem
    ((decodes_of_decodeRecord P E T hcurrent).phase.trans (congrArg phaseName hplanned))
  refine ⟨row₀, _, ⟨hmem, hrows, hcurrent, hdecode, rfl, rfl, rfl, rfl, ?_, ?_, ?_, ?_, hunique⟩,
    hid, hversion, rfl, hclock⟩
  · rw [hplanned, (decodes_of_decodeRecord P E T hdecode).of_apply.1]
    rfl
  · simp [hbare.1]
  · simp [hbare.2]
  · show phaseName .localRevisionReady = phaseName .planned → _
    exact fun hphase => absurd (phaseName_injective hphase) (by decide)

/-- `attach_capsule` either answers from the row and leaves the table, or
writes the row it found at the expected version, at a time not before its last
update. -/
theorem attachCapsule_cases (hinv : StoreInvariant P E T db)
    (h : attachCapsule P E T operationId expected capsule now db = .ok (after, db')) :
    db' = db ∨ ∃ row row' before, Write P E T db db' row row' before after
      ∧ row.operationId = operationId ∧ row.stateVersion = expected
      ∧ before.operation.updatedAtEpochSeconds ≤ row'.updatedAt := by
  unfold attachCapsule at h
  simp only [↓check_eq_ok, bind_eq_ok, mapError_eq_ok, rejectIf_eq_ok] at h
  obtain ⟨_, current, hcurrent, _, _, h⟩ := h
  obtain ⟨⟨row₀, hmem₀, hid₀, hdecode₀⟩, _⟩ := getExpected_eq_ok hcurrent
  split at h
  · split at h
    · exact .inl (Prod.mk.inj (Except.ok.inj h)).2.symm
    · cases h
  · split at h
    · rename_i hplanned
      obtain ⟨row, row', hwrite, hid, hversion, hnow, hclock⟩ :=
        writeCapsule_write hinv hmem₀ hid₀ hdecode₀ hplanned h
      exact .inr ⟨row, row', current, hwrite, hid, hversion, hnow ▸ hclock⟩
    · cases h

/-- `update_operation` writes the row it found at the expected version, with
the time of the operation it is given. -/
theorem updateOperation_write (hinv : StoreInvariant P E T db)
    (h : updateOperation P E T operationId expected next db = .ok (after, db')) :
    ∃ row row' before, Write P E T db db' row row' before after
      ∧ row.operationId = operationId ∧ row.stateVersion = expected
      ∧ row'.updatedAt = next.updatedAtEpochSeconds := by
  unfold updateOperation at h
  simp only [↓check_eq_ok, bind_eq_ok, mapError_eq_ok, rejectIf_eq_ok, changesCoordinates,
    Bool.or_eq_false_iff, bne_eq_false_iff_eq, Bool.not_eq_false'] at h
  obtain ⟨current, hcurrent, ⟨_, hrevision⟩, htransition, _, operationJson, _, h⟩ := h
  obtain ⟨⟨row₀, hmem₀, hid₀, hdecode₀⟩, _⟩ := getExpected_eq_ok hcurrent
  obtain ⟨row, hmem, hid, hversion, hdecode, hunique, hrows⟩ := compareAndSwap_spec hinv.unique h
  obtain rfl := hinv.row_eq hmem₀ hmem (hid₀.trans hid.symm)
  have hbefore := decodes_of_decodeRecord P E T hdecode₀
  have hsame : next.revisionHash = row₀.revisionHash := hrevision.trans hbefore.revisionHash.symm
  refine ⟨row₀, _, current, ⟨hmem, hrows, hdecode₀, hdecode, rfl, rfl, rfl, rfl, ?_, ?_, ?_, ?_,
    hunique⟩, hid, hversion, rfl⟩
  · rw [(decodes_of_decodeRecord P E T hdecode).of_apply.1]
    exact htransition
  · exact fun _ => hsame
  · exact fun _ => rfl
  · -- a row that is planned after the update was planned before it
    intro hphase
    have hplanned : current.operation.phase = .planned :=
      eq_planned_of_canTransitionTo (phaseName_injective hphase ▸ htransition)
    obtain ⟨hnone, hcapsule⟩ :=
      hinv.bare row₀ hmem (hbefore.phase.trans (congrArg phaseName hplanned))
    exact ⟨hsame.trans hnone, hcapsule⟩

theorem recoverRecord_eq_ok (h : recoverRecord P E T current now db = .ok (after, db')) :
    ∃ next, updateOperation P E T current.operation.operationId current.stateVersion next db
        = .ok (after, db') ∧ next.updatedAtEpochSeconds = now
      ∧ current.operation.updatedAtEpochSeconds ≤ now := by
  unfold recoverRecord interruptedOperation ManagedPublicationOperation.transition at h
  simp only [↓check_eq_ok, bind_eq_ok, mapError_eq_ok,
    rejectIf_eq_ok, refuseIf_eq_ok, pure_eq_ok, decide_eq_false_iff_not, not_lt] at h
  obtain ⟨next, ⟨hclock, _, rfl⟩, h⟩ := h
  exact ⟨_, h, rfl, hclock⟩

/-! ## Every call keeps the invariant -/

section

variable (hinv : StoreInvariant P E T db)
include hinv

theorem StoreInvariant.createPlanned
    (h : createPlanned P E T plan consentHash now db = .ok (record, db')) :
    StoreInvariant P E T db' := by
  obtain rfl | ⟨_, hcreation⟩ := createPlanned_cases h
  · exact hinv
  · exact hinv.created hcreation

theorem StoreInvariant.attachCapsule
    (h : attachCapsule P E T operationId expected capsule now db = .ok (record, db')) :
    StoreInvariant P E T db' := by
  obtain rfl | ⟨_, _, _, hwrite, _⟩ := attachCapsule_cases hinv h
  · exact hinv
  · exact hinv.written hwrite

theorem StoreInvariant.updateOperation
    (h : updateOperation P E T operationId expected next db = .ok (record, db')) :
    StoreInvariant P E T db' := by
  obtain ⟨_, _, _, hwrite, _⟩ := updateOperation_write hinv h
  exact hinv.written hwrite

theorem StoreInvariant.recoverAll {records : List ManagedPublicationRecord} :
    StoreInvariant P E T (recoverAll P E T now records db).2 := by
  induction records generalizing db with
  | nil => exact hinv
  | cons current rest ih =>
    unfold ManagedPublication.recoverAll
    split
    · split
      · exact hinv
      · rename_i record db' hround
        obtain ⟨next, hupdate, _⟩ := recoverRecord_eq_ok hround
        exact ih (hinv.updateOperation hupdate)
    · exact ih hinv

theorem StoreInvariant.recoverInterrupted :
    StoreInvariant P E T (recoverInterrupted P E T now db).2 := by
  unfold ManagedPublication.recoverInterrupted
  split
  · exact hinv
  · exact hinv.recoverAll

end

/-! ## Sequences of calls -/

inductive Call where
  | createPlanned (plan : ManagedPublicationPlan) (consentHash : String) (now : ℤ)
  | attachCapsule (operationId : String) (expected : ℕ) (capsule : ManagedPublicationCapsule)
      (now : ℤ)
  | updateOperation (operationId : String) (expected : ℕ) (next : ManagedPublicationOperation)
  | recoverInterrupted (now : ℤ)

def committed (db : List Row) :
    Except String (ManagedPublicationRecord × List Row) → List Row
  | .ok (_, db') => db'
  | .error _ => db

variable (P E T) in
def store : Machine (List Row) Call where
  init := []
  step db
    | .createPlanned plan consentHash now =>
      committed db (createPlanned P E T plan consentHash now db)
    | .attachCapsule operationId expected capsule now =>
      committed db (attachCapsule P E T operationId expected capsule now db)
    | .updateOperation operationId expected next =>
      committed db (updateOperation P E T operationId expected next db)
    | .recoverInterrupted now => (recoverInterrupted P E T now db).2

theorem storeInvariant_nil : StoreInvariant P E T [] :=
  ⟨unique_nil _, forall_mem_nil _, forall_mem_nil _⟩

theorem StoreInvariant.committed {result : Except String (ManagedPublicationRecord × List Row)}
    (hinv : StoreInvariant P E T db)
    (h : ∀ record db', result = .ok (record, db') → StoreInvariant P E T db') :
    StoreInvariant P E T (committed db result) := by
  cases result with
  | error e => exact hinv
  | ok r => exact h r.1 r.2 rfl

theorem storeInvariant_run (calls : List Call) :
    StoreInvariant P E T ((store P E T).run calls) := by
  refine Machine.invariant _ storeInvariant_nil (fun db call hinv => ?_) calls
  cases call with
  | createPlanned => exact hinv.committed fun _ _ h => hinv.createPlanned h
  | attachCapsule => exact hinv.committed fun _ _ h => hinv.attachCapsule h
  | updateOperation => exact hinv.committed fun _ _ h => hinv.updateOperation h
  | recoverInterrupted => exact hinv.recoverInterrupted

/-! ## The rows of a reachable table -/

variable (P E) in
structure CapsuleMatches (row : Row) (record : ManagedPublicationRecord)
    (capsule : ManagedPublicationCapsule) : Prop where
  valid : capsule.validateAgainst P E record.plan = .ok ()
  revision : row.revisionHash = some capsule.revision.revisionHash
  offer : ∃ offer, ArtifactKind.offer.decode capsule.offer = some offer
    ∧ offer.hash = capsule.revision.payload.offerHash
    ∧ ∀ registration, record.operation.registration = some registration →
      registration.validatedOfferHash = offer.hash

theorem offer_of_validateAgainst (h : capsule.validateAgainst P E plan = .ok ()) :
    ∃ offer, ArtifactKind.offer.decode capsule.offer = some offer
      ∧ offer.hash = capsule.revision.payload.offerHash := by
  simp only [ManagedPublicationCapsule.validateAgainst, check_eq_ok] at h
  have hartifacts := h.2.2.2.2.2.2.2
  unfold ManagedPublicationCapsule.checkArtifacts verifyBoundArtifacts at hartifacts
  simp only [↓check_eq_ok, bind_eq_ok, needPresent_eq_ok, refuseIf_eq_ok,
    Bool.or_eq_false_iff, bne_eq_false_iff_eq] at hartifacts
  obtain ⟨_, _, offer, hoffer, ⟨_, _, _, _, _, _, offerHash, _, hsame⟩, _⟩ := hartifacts
  obtain ⟨⟨⟨⟨⟨⟨⟨⟨_, hhash⟩, hbound⟩, _⟩, _⟩, _⟩, _⟩, _⟩, _⟩ := hsame
  exact ⟨offer, hoffer, hhash.symm.trans hbound⟩

theorem validateAgainst_of_decodeCapsule {json : Option String}
    (h : decodeCapsule P E T plan json = .ok (some capsule)) :
    capsule.validateAgainst P E plan = .ok () := by
  cases json with
  | none => cases h
  | some json =>
    unfold decodeCapsule at h
    simp only [↓check_eq_ok, bind_eq_ok, mapError_eq_ok, pure_eq_ok, some.injEq] at h
    obtain ⟨_, _, hvalid, rfl⟩ := h
    exact hvalid

theorem Decodes.capsule_matches (h : Decodes P E T row record)
    (hcapsule : record.capsule = some capsule) : CapsuleMatches P E row record capsule := by
  have hvalid := validateAgainst_of_decodeCapsule (hcapsule ▸ h.capsule)
  have hmatches := h.capsuleMatches capsule hcapsule
  simp only [capsuleDiffers, Bool.or_eq_false_iff, bne_eq_false_iff_eq] at hmatches
  obtain ⟨⟨_, hrevision⟩, hregistration⟩ := hmatches
  obtain ⟨offer, hoffer, hbound⟩ := offer_of_validateAgainst hvalid
  refine ⟨hvalid, hrevision.symm, offer, hoffer, hbound, fun registration hr => ?_⟩
  rw [hr] at hregistration
  exact (bne_eq_false_iff_eq.mp hregistration).trans hbound.symm

/-- **Every row of every reachable table decodes.** A row in the active phase has
its evidence, and a row in a phase that requires a capsule has one that matches
it. -/
theorem every_row_decodes (calls : List Call) :
    ∀ row ∈ (store P E T).run calls, ∃ record, decodeRecord P E T row = .ok record
      ∧ row.phase = phaseName record.operation.phase
      ∧ (record.operation.phase = .active → ActiveEvidence E record.operation record.plan)
      ∧ (phaseRequiresCapsule record.operation.phase = true →
        ∃ capsule, record.capsule = some capsule ∧ CapsuleMatches P E row record capsule) := by
  intro row hrow
  obtain ⟨record, hdecode⟩ := (storeInvariant_run calls).decodes row hrow
  have hdecodes := decodes_of_decodeRecord P E T hdecode
  refine ⟨record, hdecode, hdecodes.phase,
    ManagedPublicationOperation.active_evidence P E hdecodes.valid, fun hrequires => ?_⟩
  obtain ⟨capsule, hcapsule⟩ := isSome_iff_exists.mp (hdecodes.capsulePresent hrequires)
  exact ⟨capsule, hcapsule, hdecodes.capsule_matches hcapsule⟩

end Store

/-! ## A stored plan -/

theorem plannedOperation_valid {E : Externals} (hplan : plan.validate P E = .ok ())
    (hconsent : isLowerHexLen consentHash 64 = true) (hnow : 0 ≤ now) :
    (plannedOperation plan consentHash now).validateAgainst P E plan = .ok () := by
  unfold ManagedPublicationOperation.validateAgainst
  simp only [check_eq_ok, ManagedPublicationOperation.checkIdentity,
    ManagedPublicationOperation.checkResults, ManagedPublicationOperation.checkCompensation,
    requireSchema, requireHash, refuseIf_eq_ok, forM_toList_eq_ok]
  have htime : decide (now < 0) = false := decide_eq_false (by omega)
  refine ⟨hplan, ⟨?_, ?_, ?_, htime, ?_, ?_⟩, ⟨?_, ?_, ?_, ?_, ?_⟩, ?_, ⟨?_, ?_⟩, ?_⟩
  all_goals
    simp [plannedOperation, hconsent, ManagedPublicationPhase.needsRevision,
      ManagedPublicationPhase.needsProvision, ManagedPublicationPhase.needsDeployResult,
      ManagedPublicationOperation.checkCanary, ManagedPublicationPhase.needsCanary,
      ManagedPublicationOperation.checkRegistration]

structure StoresPlanned (P : Primitives) (E : Externals) (T : StoredTexts)
    (plan : ManagedPublicationPlan) (consentHash planJson : String) (operationJson : ℤ → String) :
    Prop where
  valid : plan.validate P E = .ok ()
  hashes : isLowerHexLen plan.payload.operationId 64 = true
    ∧ isLowerHexLen plan.planHash 64 = true ∧ isLowerHexLen consentHash 64 = true
  writePlan : T.writePlan plan = .ok planJson
  readPlan : T.readPlan planJson = .ok plan
  writeOperation : ∀ now, T.writeOperation (plannedOperation plan consentHash now)
    = .ok (operationJson now)
  readOperation : ∀ now, 0 ≤ now → T.readOperation (operationJson now)
    = .ok (plannedOperation plan consentHash now)

namespace StoresPlanned

variable {E : Externals} {T : StoredTexts}
  {consentHash planJson : String} {operationJson : ℤ → String}

def rowAt (plan : ManagedPublicationPlan) (consentHash planJson : String)
    (operationJson : ℤ → String) (created updated version : ℤ) : Row :=
  { plannedRow plan consentHash planJson (operationJson updated) created with
    stateVersion := version, updatedAt := updated }

def recordAt (plan : ManagedPublicationPlan) (consentHash : String)
    (created updated : ℤ) (version : ℕ) : ManagedPublicationRecord where
  plan := plan
  operation := plannedOperation plan consentHash updated
  capsule := none
  stateVersion := version
  createdAtEpochSeconds := created

variable {created : ℤ}

section

variable (h : StoresPlanned P E T plan consentHash planJson operationJson)
include h

theorem decodeRecord_rowAt (hupdated : 0 ≤ updated) (hlow : 1 ≤ version)
    (hhigh : version ≤ i64Max) :
    decodeRecord P E T (rowAt plan consentHash planJson operationJson created updated version)
      = .ok (recordAt plan consentHash created updated version) := by
  unfold decodeRecord
  simp only [↓check_eq_ok, bind_eq_ok, mapError_eq_ok, rejectIf_eq_ok, pure_eq_ok]
  have hinRange : ¬ (i64Max : ℤ) < version := by omega
  have hpositive : ¬ (version : ℤ) < 1 := by omega
  refine ⟨decide_eq_false hinRange, plan, h.readPlan, h.valid, _, h.readOperation updated hupdated,
    plannedOperation_valid h.valid h.hashes.2.2 hupdated, none, rfl, ?_, rfl⟩
  simp [columnsDiffer, rowAt, plannedRow, plannedOperation, phaseRequiresCapsule, hpositive]

theorem getPresent_rowAt (hupdated : 0 ≤ updated) (hlow : 1 ≤ version) (hhigh : version ≤ i64Max) :
    getPresent P E T [rowAt plan consentHash planJson operationJson created updated version]
        plan.payload.operationId missing
      = .ok (recordAt plan consentHash created updated version) := by
  have hselect : selectWhere (·.operationId == plan.payload.operationId)
        [rowAt plan consentHash planJson operationJson created updated version]
      = some (rowAt plan consentHash planJson operationJson created updated version) :=
    find?_cons_of_pos (beq_self_eq_true _)
  have hget : get P E T [rowAt plan consentHash planJson operationJson created updated version]
      plan.payload.operationId
      = .ok (some (recordAt plan consentHash created updated version)) := by
    unfold get
    rw [hselect]
    show (decodeRecord P E T _).map some = _
    rw [h.decodeRecord_rowAt hupdated hlow hhigh]
    rfl
  unfold getPresent
  rw [hget]
  rfl

theorem passesChecks_rowAt (hlow : 1 ≤ version) :
    (rowAt plan consentHash planJson operationJson created updated version).passesChecks
      = true := by
  have hnames : phaseNames.contains (phaseName .planned) = true := rfl
  have hversion : (1 : ℤ) ≤ version := by omega
  simp only [Row.passesChecks, rowAt, plannedRow, h.hashes.1, h.hashes.2.1, h.hashes.2.2, hnames,
    hversion, decide_true, Bool.and_self]

theorem createPlanned_nil (hcreated : 0 ≤ created) :
    createPlanned P E T plan consentHash created []
      = .ok (recordAt plan consentHash created created 1,
          [rowAt plan consentHash planJson operationJson created created (1 : ℕ)]) := by
  have hinsert : insertOrIgnore (plannedRow plan consentHash planJson (operationJson created)
        created) []
      = [rowAt plan consentHash planJson operationJson created created (1 : ℕ)] := by
    have hchecks : (rowAt plan consentHash planJson operationJson created created
        (1 : ℕ)).passesChecks = true := h.passesChecks_rowAt (le_refl 1)
    show insertOrIgnore (rowAt plan consentHash planJson operationJson created created _) [] = _
    exact if_neg (by simpa using hchecks)
  unfold createPlanned
  simp only [↓check_eq_ok, bind_eq_ok, mapError_eq_ok, rejectIf_eq_ok, pure_eq_ok]
  refine ⟨h.valid, decide_eq_false (not_lt.mpr hcreated),
    plannedOperation_valid h.valid h.hashes.2.2 hcreated, planJson, h.writePlan, _,
    h.writeOperation created, recordAt plan consentHash created created 1, ?_, ?_, ?_⟩
  · rw [hinsert]
    exact h.getPresent_rowAt hcreated (le_refl 1) (by decide)
  · simp [recordAt, plannedOperation]
  · rw [hinsert]

theorem store_create (hcreated : 0 ≤ created) :
    (store P E T).run [.createPlanned plan consentHash created]
      = [rowAt plan consentHash planJson operationJson created created (1 : ℕ)] := by
  show committed [] (createPlanned P E T plan consentHash created []) = _
  rw [h.createPlanned_nil hcreated]
  rfl

theorem updateOperation_rowAt (hcreated : 0 ≤ created) (hupdated : 0 ≤ updated) :
    updateOperation P E T plan.payload.operationId 1 (plannedOperation plan consentHash updated)
        [rowAt plan consentHash planJson operationJson created created (1 : ℕ)]
      = .ok (recordAt plan consentHash created updated 2,
          [rowAt plan consentHash planJson operationJson created updated (2 : ℕ)]) := by
  have hcurrent : getExpected P E T
        [rowAt plan consentHash planJson operationJson created created (1 : ℕ)]
        plan.payload.operationId 1 = .ok (recordAt plan consentHash created created 1) := by
    unfold getExpected
    rw [h.getPresent_rowAt hcreated (le_refl 1) (by decide)]
    rfl
  have hswap : compareAndSwap P E T plan.payload.operationId 1
        { phase := .planned, revisionHash := none, operationJson := operationJson updated
          capsuleJson := none, updatedAt := updated }
        "Managed Publication operation missing after update"
        [rowAt plan consentHash planJson operationJson created created (1 : ℕ)]
      = .ok (recordAt plan consentHash created updated 2,
          [rowAt plan consentHash planJson operationJson created updated (2 : ℕ)]) := by
    have hversion : isVersion plan.payload.operationId 1
        (rowAt plan consentHash planJson operationJson created created (1 : ℕ)) = true := by
      simp [isVersion, rowAt, plannedRow]
    have hchecks : (rowAt plan consentHash planJson operationJson created updated
        (2 : ℕ)).passesChecks = true := h.passesChecks_rowAt (by decide)
    unfold compareAndSwap
    simp only [↓check_eq_ok, bind_eq_ok, rejectIf_eq_ok, pure_eq_ok, updateWhere, filter_cons,
      filter_nil, map_cons, map_nil, hversion, if_true]
    refine ⟨by decide, ?_, rfl, _, ?_, rfl⟩
    · show (!(rowAt plan consentHash planJson operationJson created updated
        (2 : ℕ)).passesChecks || false) = false
      rw [hchecks]
      rfl
    · exact h.getPresent_rowAt hupdated (by decide) (by decide)
  unfold updateOperation
  simp only [↓check_eq_ok, bind_eq_ok, mapError_eq_ok, rejectIf_eq_ok]
  refine ⟨_, hcurrent, ?_, rfl, plannedOperation_valid h.valid h.hashes.2.2 hupdated, _,
    h.writeOperation updated, hswap⟩
  simp [changesCoordinates, recordAt, plannedOperation]

theorem store_update (hcreated : 0 ≤ created) (hupdated : 0 ≤ updated) :
    (store P E T).run [.createPlanned plan consentHash created,
        .updateOperation plan.payload.operationId 1 (plannedOperation plan consentHash updated)]
      = [rowAt plan consentHash planJson operationJson created updated (2 : ℕ)] := by
  show committed ((store P E T).run [.createPlanned plan consentHash created])
    (updateOperation P E T _ 1 _ ((store P E T).run [.createPlanned plan consentHash created])) = _
  rw [h.store_create hcreated, h.updateOperation_rowAt hcreated hupdated]
  rfl

end

end StoresPlanned

def sampleTexts : StoredTexts where
  writePlan _ := .ok "plan"
  writeOperation operation :=
    .ok (String.ofList (replicate operation.updatedAtEpochSeconds.toNat '.'))
  writeCapsule _ := .ok "capsule"
  readPlan _ := .ok samplePlan
  readOperation text := .ok (plannedOperation samplePlan sampleHash text.length)
  readCapsule _ := .error "no capsule"

theorem isLowerHexLen_sampleHash : isLowerHexLen sampleHash 64 = true := by decide +kernel

theorem sampleTexts_stores : StoresPlanned samplePrimitives sampleExternals sampleTexts samplePlan
    sampleHash "plan" (fun now => String.ofList (replicate now.toNat '.')) where
  valid := samplePlan_valid
  hashes := ⟨isLowerHexLen_sampleHash, isLowerHexLen_sampleHash, isLowerHexLen_sampleHash⟩
  writePlan := rfl
  readPlan := rfl
  writeOperation _ := rfl
  readOperation now hnow := by
    simp only [sampleTexts, String.length_ofList, length_replicate, Int.toNat_of_nonneg hnow]

theorem every_row_decodes_updated :
    ∃ row, (store samplePrimitives sampleExternals sampleTexts).run
        [.createPlanned samplePlan sampleHash 0, .updateOperation samplePlan.payload.operationId 1
          (plannedOperation samplePlan sampleHash 5)] = [row] ∧ row.updatedAt = 5
      ∧ ∃ record, decodeRecord samplePrimitives sampleExternals sampleTexts row = .ok record
        ∧ row.phase = phaseName record.operation.phase
        ∧ (phaseRequiresCapsule record.operation.phase = true →
          ∃ capsule, record.capsule = some capsule
            ∧ CapsuleMatches samplePrimitives sampleExternals row record capsule) := by
  have hrun := sampleTexts_stores.store_update (le_refl 0) (by decide : (0 : ℤ) ≤ 5)
  obtain ⟨record, hdecode, hphase, -, hcapsule⟩ := every_row_decodes _ _
    (hrun ▸ mem_singleton_self _)
  exact ⟨_, hrun, rfl, record, hdecode, hphase, hcapsule⟩

end Froglet.ManagedPublication
