import Froglet.Protocol.ChainSoundness
import Froglet.Requester.Steps

/-!
# The requester's table under a dishonest provider

Rows keep what they are about – provider, quote, deal, preimage – and a task keeps it
with them, so a receipt verified against the row a task once read belongs to the row it
is stored on (`RequesterInv`).
-/

namespace Froglet

open List Option Table

variable {a : RequesterAction} {s : RequesterState}
variable {env : RequesterEnv}

variable {row : StoredRequesterDeal} {remote : DealRecord}
variable {P : Primitives} {receipt : SignedReceipt} {rows rows' : RequesterDeals}
variable {task : RequesterTask} {snapshot stored : StoredRequesterDeal}
variable {now : ℤ} {synced : SyncedRequesterDeal}

/-! ## The invariant -/

/-- The evidence of a row: the stored receipt verifies against the row's own
quote, deal and result, and the row's status is the one it stands for. -/
structure StoredReceipt (P : Primitives) (row : StoredRequesterDeal) (receipt : SignedReceipt) :
    Prop where
  verified : ReceiptVerified P receipt row.quote row.deal row.providerId
    row.deal.payload.requesterId row.result row.resultHash
  status : statusBoundToReceipt receipt = some row.status

theorem SignedAnswer.storedReceipt (h : SignedAnswer P row remote receipt) (now : ℤ) :
    StoredReceipt P (row.withAnswer remote now) receipt :=
  ⟨h.verified, h.status⟩

/-- What holds of the runtime's state in every run. -/
structure RequesterInv (P : Primitives) (s : RequesterState) : Prop where
  unique : Table.Unique (fun row => some row.dealId) s.rows
  tasks : ∀ task ∈ s.tasks, ∀ read ∈ task.snapshots,
    ∃ row ∈ s.rows, ∀ other ∈ task.snapshots, other.identity = row.identity
  receipts : ∀ row ∈ s.rows, ∀ receipt, row.receipt = some receipt →
    StoredReceipt P row receipt

theorem eq_of_dealId (h : Table.Unique (fun row => some row.dealId) rows)
    {r r' : StoredRequesterDeal} (hr : r ∈ rows) (hr' : r' ∈ rows) (hid : r.dealId = r'.dealId) :
    r = r' :=
  h.eq_of_mem hr hr' rfl (by rw [hid])

namespace RowsChange

variable {rows : RequesterDeals}

theorem unique (h : RowsChange env s a rows)
    (hu : Table.Unique (fun row => some row.dealId) s.rows) :
    Table.Unique (fun row => some row.dealId) rows := by
  cases h with
  | unchanged => exact hu
  | inserted new hid _ =>
    refine hu.concat fun row hrow k hk hsame => ?_
    have hne := selectWhere_none hid hrow
    have hsame' : new.dealId = row.dealId := some.inj (hsame.trans hk.symm)
    simp [hsame'] at hne
  | stored task read snapshot remote receipt now _ _ _ _ _ =>
    exact hu.updateWhere fun _ _ _ => rfl

theorem identity (h : RowsChange env s a rows) (hrow : row ∈ s.rows) :
    ∃ row' ∈ rows, row'.identity = row.identity := by
  cases h with
  | unchanged => exact ⟨row, hrow, rfl⟩
  | inserted new _ _ => exact ⟨row, mem_append_left _ hrow, rfl⟩
  | stored task read snapshot remote receipt now _ _ _ _ _ =>
    refine ⟨if row.dealId == snapshot.dealId then row.withAnswer remote now else row,
      mem_updateWhere.mpr ⟨row, hrow, rfl⟩, ?_⟩
    split <;> rfl

end RowsChange

theorem RequesterInv.row_of_snapshot (h : RequesterInv P s) (htask : task ∈ s.tasks)
    {read : StoredRequesterDeal} (hread : read ∈ task.snapshots)
    (hsnapshot : snapshot ∈ task.snapshots) (hrow : row ∈ s.rows)
    (hid : row.dealId = snapshot.dealId) : read.identity = row.identity := by
  obtain ⟨row', hrow', hsame⟩ := h.tasks task htask read hread
  have hid' : row.dealId = row'.dealId :=
    hid.trans (dealId_eq_of_identity (hsame snapshot hsnapshot))
  rw [eq_of_dealId h.unique hrow hrow' hid']
  exact hsame read hread

theorem getRequesterDeal_of_storeAnswer {deal : StoredRequesterDeal}
    (h : storeAnswer snapshot remote now rows = (some deal, rows')) :
    getRequesterDeal rows' snapshot.dealId = some deal := by
  unfold storeAnswer at h
  split at h
  · cases h
  · rename_i current hcurrent
    split at h
    · obtain ⟨hdeal, hrows⟩ := Prod.mk.inj h
      rw [← hrows]
      exact hdeal
    · cases h
      exact hcurrent

theorem identity_of_sync
    (h : syncRequesterDealFromProvider env stored remote now rows = (.ok synced, rows'))
    (hrows : ∀ row ∈ rows', row.dealId = stored.dealId → row.identity = stored.identity) :
    synced.deal.identity = stored.identity ∧ synced.persisted.identity = stored.identity := by
  unfold syncRequesterDealFromProvider at h
  split at h
  · cases h
  · cases h
    exact ⟨rfl, rfl⟩
  · cases h
    exact ⟨rfl, rfl⟩
  · split at h
    · rename_i deal rows'' hstore
      cases h
      obtain ⟨hmem, hid⟩ := mem_of_getRequesterDeal (getRequesterDeal_of_storeAnswer hstore)
      exact ⟨hrows _ hmem hid, hrows _ hmem hid⟩
    · cases h

theorem snapshots_afterSync {purpose : SyncPurpose}
    (h : task ∈ afterSync env stored remote synced purpose) :
    ∀ read ∈ task.snapshots, read = stored ∨ read = synced.deal ∨ read = synced.persisted := by
  cases purpose with
  | report => cases h
  | accept expected =>
    cases mem_singleton.mp h
    simp [RequesterTask.snapshots]
  | mockPay =>
    simp only [afterSync] at h
    split at h
    · cases mem_singleton.mp h
      intro read hread
      exact .inr (by simpa [RequesterTask.snapshots] using hread)
    · cases h

/-- One step keeps the invariant. -/
theorem RequesterInv.step (h : RequesterInv env.prims s) (a : RequesterAction) :
    RequesterInv env.prims (requesterStep env s a) := by
  have hchange := requesterStep_rows env s a
  have hunique := hchange.unique h.unique
  refine ⟨hunique, fun task htask => ?_, ?_⟩
  · -- a task that was there, and one that goes on from it, has read a row that is still there
    have hkept : ∀ t ∈ s.tasks, ∀ read ∈ t.snapshots, ∃ row ∈ (requesterStep env s a).rows,
        ∀ other ∈ t.snapshots, other.identity = row.identity := by
      intro t ht read hread
      obtain ⟨row, hrow, hsame⟩ := h.tasks t ht read hread
      obtain ⟨row', hrow', hid⟩ := hchange.identity hrow
      exact ⟨row', hrow', fun other ho => (hsame other ho).trans hid.symm⟩
    intro read hread
    cases requesterStep_tasks env s a task htask with
    | kept _ ht => exact hkept task ht read hread
    | creating draft => cases hread
    | started row purpose hrow => exact ⟨row, hrow, fun other ho => by rw [mem_singleton.mp ho]⟩
    | synced stored purpose remote now synced _ ht hsync hafter =>
      have hstored : stored ∈ (RequesterTask.syncing stored purpose).snapshots :=
        mem_singleton.mpr rfl
      obtain ⟨row, hrow, hsame⟩ := hkept _ ht stored hstored
      have hid := hsame stored hstored
      have hrows : ∀ r ∈ (requesterStep env s a).rows, r.dealId = stored.dealId →
          r.identity = stored.identity := by
        intro r hr hrid
        rw [eq_of_dealId hunique hr hrow (hrid.trans (dealId_eq_of_identity hid)), hid]
      obtain ⟨hdeal, hpersisted⟩ := identity_of_sync hsync hrows
      refine ⟨row, hrow, fun other ho => ?_⟩
      rcases snapshots_afterSync hafter other ho with rfl | rfl | rfl
      · exact hid
      · exact hdeal.trans hid
      · exact hpersisted.trans hid
    | released stored remote synced expected ht =>
      have hsub : ∀ other ∈ (RequesterTask.accepting synced).snapshots,
          other ∈ (RequesterTask.releasing stored remote synced expected).snapshots :=
        fun other ho => mem_cons_of_mem _ ho
      obtain ⟨row, hrow, hsame⟩ := hkept _ ht read (hsub read hread)
      exact ⟨row, hrow, fun other ho => hsame other (hsub other ho)⟩
  · generalize (requesterStep env s a).rows = rows at hchange
    intro row hrow receipt hreceipt
    cases hchange with
    | unchanged => exact h.receipts row hrow receipt hreceipt
    | inserted new _ _ =>
      rcases mem_concat.mp hrow with hrow | hrow
      · exact h.receipts row hrow receipt hreceipt
      · rw [hrow] at hreceipt
        cases hreceipt
    | stored task read snapshot remote signed now htask hread hsnapshot _ hsigned =>
      obtain ⟨row₀, hrow₀, rfl⟩ := mem_updateWhere.mp hrow
      split at hreceipt
      · rename_i hid
        have hsame := h.row_of_snapshot htask hread hsnapshot hrow₀ (beq_iff_eq.mp hid)
        rw [if_pos hid]
        cases hsigned.carried.symm.trans hreceipt
        exact (hsigned.of_identity hsame).storedReceipt now
      · rename_i hid
        rw [if_neg hid]
        exact h.receipts row₀ hrow₀ receipt hreceipt

theorem requesterInv_run (env : RequesterEnv) (as : List RequesterAction) :
    RequesterInv env.prims ((requesterMachine env).run as) :=
  (requesterMachine env).invariant
    ⟨unique_nil _, fun _ h => absurd h not_mem_nil,
      fun _ h => absurd h not_mem_nil⟩
    (fun _ a h => h.step a) as

/-! ## Terminal rows and their receipts -/

/-- A sound table: every row that claims an end stores the receipt that says
so. -/
def LedgerSound (P : Primitives) (rows : RequesterDeals) : Prop :=
  ∀ row ∈ rows, isTerminalText row.status = true →
    ∃ receipt, row.receipt = some receipt ∧ StoredReceipt P row receipt

def RequesterAction.createsTerminal (env : RequesterEnv) (s : RequesterState) :
    RequesterAction → Bool
  | .createAnswered i remote now => match s.tasks[i]? with
    | some (.creating draft) =>
      isTerminalText remote.status && (verifyCreateAnswer env draft remote now).passes
        && (draft.idempotencyKey.bind (findRequesterDealByIdempotencyKey s.rows)).isNone
        && (getRequesterDeal s.rows remote.dealId).isNone
    | _ => false
  | _ => false

theorem unsigned_of_createsTerminal (h : a.createsTerminal env s = true) :
    ∃ row ∈ (requesterStep env s a).rows, isTerminalText row.status = true
      ∧ row.receipt = none := by
  unfold RequesterAction.createsTerminal at h
  split at h
  · rename_i i remote now
    split at h
    · rename_i draft htask
      simp only [Bool.and_eq_true, isNone_iff_eq_none] at h
      obtain ⟨⟨⟨hterminal, hpasses⟩, hkey⟩, hid⟩ := h
      let new := draft.newDeal remote.dealId remote.status now
      have hinsert : insertOrGetRequesterDeal new s.rows
          = (.ok (new.row, true), s.rows ++ [new.row]) := by
        have hkey' : new.idempotencyKey.bind (findRequesterDealByIdempotencyKey s.rows) = none :=
          hkey
        have hid' : getRequesterDeal s.rows new.dealId = none := hid
        rw [insertOrGetRequesterDeal, hkey', hid']
      refine ⟨new.row, ?_, hterminal, rfl⟩
      simp only [requesterStep, htask, createAnswer, hpasses, Bool.not_true, Bool.false_eq_true,
        if_false]
      rw [hinsert]
      dsimp only
      split <;> exact mem_concat_self
    · cases h
  · cases h

/-- One step keeps the table sound exactly when it does not create a terminal
row. -/
theorem ledgerSound_step (hinv : RequesterInv env.prims s)
    (hs : LedgerSound env.prims s.rows) (a : RequesterAction) :
    LedgerSound env.prims (requesterStep env s a).rows ↔ a.createsTerminal env s = false := by
  constructor
  · intro h
    by_contra hbad
    obtain ⟨row, hrow, hterminal, hnone⟩ := unsigned_of_createsTerminal (by simpa using hbad)
    obtain ⟨receipt, hreceipt, _⟩ := h row hrow hterminal
    rw [hnone] at hreceipt
    cases hreceipt
  · intro hok row hrow hterminal
    -- a receipt on the row is evidence by the invariant; it remains to find one
    suffices hsome : ∃ receipt, row.receipt = some receipt by
      obtain ⟨receipt, hreceipt⟩ := hsome
      exact ⟨receipt, hreceipt, (hinv.step a).receipts row hrow receipt hreceipt⟩
    have hold : ∀ r ∈ s.rows, isTerminalText r.status = true →
        ∃ receipt, r.receipt = some receipt :=
      fun r hr ht => (hs r hr ht).imp fun _ h => h.1
    have hchange := requesterStep_rows env s a
    generalize (requesterStep env s a).rows = rows at hchange hrow
    cases hchange with
    | unchanged => exact hold row hrow hterminal
    | inserted new hid hstatus =>
      rcases mem_concat.mp hrow with hrow | hrow
      · exact hold row hrow hterminal
      · rw [hrow] at hterminal
        replace hterminal : isTerminalText new.status = true := hterminal
        rcases hstatus with hpending | ⟨i, draft, remote, now, rfl, htask, hpasses, hkey, rfl⟩
        · rw [hpending] at hterminal
          exact absurd hterminal (by decide)
        · have hid' : getRequesterDeal s.rows remote.dealId = none := hid
          have hterminal' : isTerminalText remote.status = true := hterminal
          simp [RequesterAction.createsTerminal, htask, hterminal', hpasses, hkey, hid'] at hok
    | stored task read snapshot remote receipt now _ _ _ _ hsigned =>
      obtain ⟨row₀, hrow₀, rfl⟩ := mem_updateWhere.mp hrow
      split at hterminal
      · rename_i hmatch
        rw [if_pos hmatch]
        exact ⟨receipt, hsigned.carried⟩
      · rename_i hmatch
        rw [if_neg hmatch]
        exact hold row₀ hrow₀ hterminal

def sampleRequester : RequesterEnv where
  prims := samplePrimitives
  nodeId := "r"
  lightningBackend := true
  lightningMode := .lndRest
  buyerPhoenixd := false
  usesA2a _ := false
  prepaidInvoiceValid _ _ _ _ := false

def sampleDraft : CreateDraft :=
  { idempotencyKey := some "key", requestedProviderId := none, requestedProviderUrl := none
    maxPriceSats := none
    spec := sampleSpec
    providerId := "p", providerUrl := "u", providerSyncUrl := "u", quote := sampleFreeQuote
    deal := sampleDeal, successPreimage := "preimage" }

def sampleRecord (status : String) (result : Option Json) (resultHash : Option String)
    (receipt : Option SignedReceipt) : DealRecord :=
  { dealId := "d", idempotencyKey := some "key", status, workloadKind := "k"
    deal := sampleDeal, quote := sampleFreeQuote, result, resultHash, error := none, receipt
    prepaidInvoice := none, createdAt := 0, updatedAt := 0 }

structure SameEvidence (row row' : StoredRequesterDeal) : Prop where
  identity : row'.identity = row.identity
  receipt : row'.receipt = row.receipt
  status : row'.status = row.status
  result : row'.result = row.result
  resultHash : row'.resultHash = row.resultHash

def ReceiptsFinal (rows rows' : RequesterDeals) : Prop :=
  ∀ row ∈ rows, row.receipt.isSome = true → ∃ row' ∈ rows', SameEvidence row row'

def StoredRequesterDeal.agreesWith (P : Primitives) (row : StoredRequesterDeal)
    (remote : DealRecord) : Bool :=
  match row.receipt, remote.receipt with
  | some receipt, some signed =>
    !(verifyProviderReceiptArtifact P signed row.quote row.deal row.providerId
        row.deal.payload.requesterId remote.result remote.resultHash).passes
      || (signed == receipt && remote.result == row.result)
  | _, _ => true

def RequesterAction.agrees (env : RequesterEnv) (s : RequesterState) (a : RequesterAction) : Bool :=
  match a.answered s with
  | none => true
  | some (dealId, remote) =>
    s.rows.all fun row => row.dealId != dealId || row.agreesWith env.prims remote

theorem sameEvidence_of_agreesWith {signed : SignedReceipt}
    (hstored : StoredReceipt P row receipt) (hreceipt : row.receipt = some receipt)
    (hsigned : SignedAnswer P row remote signed) (h : row.agreesWith P remote = true) (now : ℤ) :
    SameEvidence row (row.withAnswer remote now) := by
  have hpasses := passes_iff.mpr ((verifyProviderReceiptArtifact_iff P).mpr hsigned.verified)
  simp only [StoredRequesterDeal.agreesWith, hreceipt, hsigned.carried, hpasses, Bool.not_true,
    Bool.false_or, Bool.and_eq_true, beq_iff_eq] at h
  obtain ⟨rfl, hresult⟩ := h
  have hstatus : some remote.status = some row.status := hsigned.status.symm.trans hstored.status
  exact
    { identity := rfl
      receipt := hsigned.carried.trans hreceipt.symm
      status := some.inj hstatus
      result := hresult
      resultHash := hsigned.verified.resultHash.trans hstored.verified.resultHash.symm }

theorem SameEvidence.trans {r₁ r₂ r₃ : StoredRequesterDeal} (h : SameEvidence r₁ r₂)
    (h' : SameEvidence r₂ r₃) : SameEvidence r₁ r₃ :=
  ⟨h'.identity.trans h.identity, h'.receipt.trans h.receipt, h'.status.trans h.status,
    h'.result.trans h.result, h'.resultHash.trans h.resultHash⟩

/-- One step keeps the evidence of a row whose answer agrees with it. -/
theorem sameEvidence_step (hinv : RequesterInv env.prims s) (hok : a.agrees env s = true)
    (hrow : row ∈ s.rows) (hsome : row.receipt.isSome = true) :
    ∃ row' ∈ (requesterStep env s a).rows, SameEvidence row row' := by
  have hchange := requesterStep_rows env s a
  generalize (requesterStep env s a).rows = rows at hchange
  have hself : SameEvidence row row := ⟨rfl, rfl, rfl, rfl, rfl⟩
  cases hchange with
  | unchanged => exact ⟨row, hrow, hself⟩
  | inserted new _ _ => exact ⟨row, mem_append_left _ hrow, hself⟩
  | stored task read snapshot remote signed now htask hread hsnapshot hanswer hsigned =>
    refine ⟨_, mem_updateWhere.mpr ⟨row, hrow, rfl⟩, ?_⟩
    split
    · rename_i hid
      obtain ⟨receipt, hreceipt⟩ := isSome_iff_exists.mp hsome
      have hsame := hinv.row_of_snapshot htask hread hsnapshot hrow (beq_iff_eq.mp hid)
      simp only [RequesterAction.agrees, hanswer, List.all_eq_true] at hok
      have hagrees : row.agreesWith env.prims remote = true := by
        simpa [beq_iff_eq.mp hid] using hok row hrow
      exact sameEvidence_of_agreesWith (hinv.receipts row hrow receipt hreceipt) hreceipt
        (hsigned.of_identity hsame) hagrees now
    · exact hself

def sampleClockPrimitives : Primitives where
  sha256Hex bytes := if bytes = [1] then "bb" else "aa"
  canonicalJson
    | .arr [_, _, _, .int 1, _, _] => .ok [1]
    | _ => .ok []
  verifyMessage _ _ _ := true

def sampleReceiptAt (createdAt : ℤ) (hash : String) : SignedReceipt :=
  { sampleFreeReceipt with
    createdAt, hash, payload := { sampleFreeReceipt.payload with resultHash := some "aa" } }

def sampleReceiptRun : List RequesterAction :=
  [.create sampleDraft 0,
    .createAnswered 0 (sampleRecord "accepted" none none none) 0,
    .syncAnswered 0
      (sampleRecord "succeeded" (some .null) (some "aa") (some (sampleReceiptAt 0 "aa"))) 1]

end Froglet
