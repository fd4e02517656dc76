import Froglet.Provider.Invariant

/-!
# The outbox of a provider

The end of an execution that is paid through Stripe is staged: in one transaction the
deal leaves `running` and a record of what Stripe is to be asked for goes to the outbox,
and in another the deal gets its receipt and the record is deleted.
-/

namespace Froglet

open List Option

variable {P : Primitives} {id : String}

def DealStatus.isStaged : DealStatus → Bool
  | resultReady | settlementPending => true
  | _ => false

def OutboxInv (s : ProviderState) : Prop :=
  ∀ row ∈ s.store.deals, row.paymentMethod ≠ some .lightning → row.status.isStaged = true →
    s.outbox.any (·.dealId == row.dealId) = true

/-! ## Calls that end a deal -/

variable {old new : DealStatus} {r : SignedReceipt}

theorem DealCall.apply_ends {call : DealCall} (hreceipt : call.receipt = some r)
    (htarget : call.target = some (id, old, new)) (s : DealStore) :
    ∃ set : StoredDeal → StoredDeal, (call.apply P s).deals = (compareAndSet id old set s.deals).2
      ∧ ∀ row, (set row).status = new ∧ (set row).dealId = row.dealId := by
  cases call <;> simp only [DealCall.receipt, reduceCtorEq] at hreceipt <;>
    obtain ⟨rfl, rfl, rfl⟩ := by simpa only [target, some.injEq, Prod.mk.injEq] using htarget
  all_goals exact ⟨_, rfl, fun _ => ⟨rfl, rfl⟩⟩

theorem DealCall.status_of_ends {call : DealCall} {s : DealStore}
    (hids : Table.Unique (some ·.dealId) s.deals)
    (hreceipt : call.receipt = some r) (htarget : call.target = some (id, old, new))
    (hcas : (getDeal s.deals id).any (·.status == old) = true) :
    ∀ row ∈ (call.apply P s).deals, row.dealId = id → row.status = new := by
  obtain ⟨set, hdeals, hset⟩ := call.apply_ends (P := P) hreceipt htarget s
  intro row' hrow' hid
  rw [hdeals] at hrow'
  cases hfound : getDeal s.deals id with
  | none =>
    rw [hfound] at hcas
    cases hcas
  | some found =>
    -- the row with this id is the one the guard found
    rw [hfound] at hcas
    obtain ⟨hmem, hid'⟩ := mem_of_getDeal hfound
    rw [eq_of_mem_compareAndSet hids (fun row => (hset row).2) hmem hid' (beq_iff_eq.mp hcas)
      hrow' hid]
    exact (hset found).1

theorem DealCall.staging_of_target {call : DealCall}
    (htarget : call.target = some (id, old, new)) (hstaged : new.isStaged = true) :
    (∃ result resultHash evidence now, call = .stageResultReady id result resultHash evidence now)
      ∨ ∃ error evidence now, call = .stageSettlementPending id error evidence now := by
  cases call <;> simp only [target, some.injEq, Prod.mk.injEq, reduceCtorEq] at htarget <;>
    obtain ⟨rfl, rfl, rfl⟩ := htarget
  case stageResultReady result resultHash evidence now => exact .inl ⟨_, _, _, _, rfl⟩
  case stageSettlementPending error evidence now => exact .inr ⟨_, _, _, rfl⟩
  all_goals cases hstaged

/-! ## Steps -/

section Steps

variable {env : ProviderEnv P} {s : ProviderState} {a : ProviderAction}

theorem outboxInv_init : OutboxInv (providerMachine env).init := forall_mem_nil _

theorem OutboxInv.call (h : OutboxInv s) {call : DealCall}
    (hcall : ∀ id old new, call.target = some (id, old, new) → new.isStaged = false) :
    OutboxInv (Effect.apply P s (.call call)) := by
  intro row' hrow' hmethod hstaged
  obtain hrow | ⟨row, -, hstep⟩ | ⟨new, -, rfl, -⟩ := DealCall.mem_apply hrow'
  · exact h row' hrow hmethod hstaged
  · cases (hcall _ _ _ hstep.target).symm.trans hstaged
  · -- a new deal waits for its payment or is accepted
    have hstatus : (if new.paymentMethod.isSome then DealStatus.paymentPending
        else DealStatus.accepted).isStaged = true := hstaged
    split at hstatus <;> cases hstatus

theorem OutboxInv.stage (h : OutboxInv s) {call : DealCall} {record : StripeSettlementOutboxRecord}
    (htarget : call.target = some (record.dealId, old, new)) :
    OutboxInv (Effect.apply P (Effect.apply P s (.call call)) (.insertOutbox record)) := by
  intro row' hrow' hmethod hstaged
  show (s.outbox ++ [record]).any (·.dealId == row'.dealId) = true
  rw [any_append, Bool.or_eq_true]
  obtain hrow | ⟨row, -, hstep⟩ | ⟨new, rfl, -⟩ := DealCall.mem_apply hrow'
  · exact .inl (h row' hrow hmethod hstaged)
  · refine .inr (any_eq_true.mpr ⟨record, mem_singleton_self _, beq_iff_eq.mpr ?_⟩)
    rw [hstep.dealId_eq]
    exact (Prod.mk.inj (some.inj (htarget.symm.trans hstep.target))).1
  · cases htarget

theorem OutboxInv.settle (hinv : ProviderInv env s) (h : OutboxInv s) {call : DealCall}
    (hreceipt : call.receipt = some r) (htarget : call.target = some (id, old, new))
    (hcas : s.statusIs id old = true) :
    OutboxInv (Effect.apply P (Effect.apply P s (.call call)) (.deleteOutbox id)) := by
  have hends : new.isTerminal = true := by
    rw [DealCall.terminal_of_target htarget, hreceipt]
    rfl
  have hopen : ∀ row ∈ (call.apply P s.store).deals, row.status.isStaged = true →
      row.dealId ≠ id := by
    intro row hrow hstaged hid
    rw [DealCall.status_of_ends hinv.admission.ids hreceipt htarget hcas row hrow hid] at hstaged
    revert hends hstaged
    cases new <;> decide
  have hcall : OutboxInv (Effect.apply P s (.call call)) := by
    refine h.call fun id' old' new' htarget' => ?_
    obtain ⟨-, -, rfl⟩ : id = id' ∧ old = old' ∧ new = new' := by
      simpa using htarget.symm.trans htarget'
    revert hends
    cases new <;> decide
  intro row hrow hmethod hstaged
  obtain ⟨record, hrecord, hid⟩ := any_eq_true.mp (hcall row hrow hmethod hstaged)
  refine any_eq_true.mpr ⟨record, Table.mem_deleteWhere.mpr ⟨hrecord, ?_⟩, hid⟩
  rw [beq_iff_eq.mp hid]
  exact beq_eq_false_iff_ne.mpr (hopen row hrow hstaged)

theorem OutboxInv.apply (h : OutboxInv s) {s₀ : ProviderState} {e : Effect}
    (he : Arises env s₀ a e) (hstaged : ¬ Staged env s₀ a) : OutboxInv (e.apply P s) := by
  cases e with
  | call call =>
    refine h.call fun id old new htarget => Bool.eq_false_iff.mpr (fun hnew => ?_)
    have hinert : call.isInert = true ∧ ¬ (Effect.call call).Reason env s₀ a := by
      obtain ⟨_, _, _, _, rfl⟩ | ⟨_, _, _, rfl⟩ := DealCall.staging_of_target htarget hnew <;>
        exact ⟨rfl, hstaged⟩
    cases he with
    | inert _ hreason => exact hinert.2 hreason
    | ended _ _ hreceipt _ =>
      obtain ⟨_, _, _, _, rfl⟩ | ⟨_, _, _, rfl⟩ := DealCall.staging_of_target htarget hnew <;>
        cases hreceipt
    | _ => cases hinert.1
  | insertOutbox record =>
    cases he with
    | inert _ hreason => exact absurd hreason hstaged
  | deleteOutbox id =>
    cases he with
    | inert _ hreason => exact absurd hreason hstaged
  | restart decodes => exact fun row hrow => h row (Table.mem_deleteWhere.mp hrow).1
  | _ => exact h

/-- One action keeps the invariant. -/
theorem OutboxInv.step (hinv : ProviderInv env s) (h : OutboxInv s) (a : ProviderAction) :
    OutboxInv (providerStep env s a) := by
  by_cases hstaged : Staged env s a
  · unfold providerStep
    cases hstaged with
    | capture hdeal hmethod hcas hfresh ha =>
      rw [ha]
      exact h.stage rfl
    | cancel hdeal hmethod hcas hfresh ha =>
      rw [ha]
      exact h.stage rfl
    | @result deal output evidence now hdeal hmethod ha =>
      rw [ha]
      intro row' hrow' hother hready
      obtain hrow | ⟨row, hrow, hstep⟩ | ⟨new, hisNew, -⟩ := DealCall.mem_apply hrow'
      · exact h row' hrow hother hready
      · -- the row is the deal's, so it is a Lightning deal
        have hid := (Prod.mk.inj (some.inj hstep.target)).1
        have hident := hinv.identity_eq (hinv.rows row hrow) (hinv.knows hdeal) hid.symm
        have hsame := paymentMethod_of_identity (hstep.identity.trans hident)
        exact absurd (hsame.trans hmethod) hother
      · exact nomatch hisNew
    | settled hid htarget hreceipt hcas ha =>
      rw [ha, ← hid]
      exact h.settle hinv hreceipt htarget hcas
  · refine (hinv.step_induction (I := OutboxInv) h (fun e _ he s' _ _ h' => h'.apply he hstaged)
      (fun _ => ?_) (fun _ r _ s' _ _ h' => ?_) (fun _ _ _ _ _ _ h' => h')).2
    · exact h.call fun id old new htarget => absurd htarget.symm (some_ne_none _)
    · refine h'.call (fun id old new htarget => ?_)
      obtain ⟨-, -, rfl⟩ := Prod.mk.inj (some.inj htarget) |>.imp_right Prod.mk.inj
      rfl

theorem outboxInv_run (actions : List ProviderAction) :
    OutboxInv ((providerMachine env).run actions) :=
  ((providerMachine env).invariant (I := fun s => ProviderInv env s ∧ OutboxInv s)
    ⟨providerInv_init, outboxInv_init⟩ (fun _ a h => ⟨h.1.step a, h.2.step h.1 a⟩) actions).2

end Steps

end Froglet
