import Froglet.Provider.Invariant

/-!
# One worker for a deal

A worker starts when `try_mark_deal_running` moves its deal from `accepted` to
`running`, and from then on the deal is neither accepted nor waiting for its payment
while the worker is at work.
-/

namespace Froglet

open List Option

variable {P : Primitives} {e : Effect}
variable {a : ProviderAction}

instance (s : ProviderState) (item : RecoveryItem) (recoveredAt : ℤ) :
    Decidable (item.Resets s recoveredAt) :=
  decidable_of_iff
    (item.deal.status = .running ∧ s.statusIs item.deal.dealId .running = true
      ∧ item.deal.spec.externalContainer = false
      ∧ recoveredAt ≤ item.deal.artifact.payload.completionDeadline
      ∧ (item.deal.paymentMethod = some .lightning →
        ∀ session ∈ item.answers.synced, lightningBundleIsFunded session = true))
    ⟨fun ⟨h₁, h₂, h₃, h₄, h₅⟩ => ⟨h₁, h₂, h₃, h₄, h₅⟩,
      fun ⟨h₁, h₂, h₃, h₄, h₅⟩ => ⟨h₁, h₂, h₃, h₄, h₅⟩⟩

def ProviderAction.remotePlan : ProviderAction → Option (List RecoveryItem × ℤ)
  | recoverRuntimeStateRemote plan recoveredAt => some (plan, recoveredAt)
  | _ => none

def NoLiveReset (s : ProviderState) (a : ProviderAction) : Prop :=
  ∀ p ∈ a.remotePlan, ∀ item ∈ p.1, item.Resets s p.2 →
    ∀ w ∈ s.workers, w.dealId ≠ item.deal.dealId

instance (s : ProviderState) (a : ProviderAction) : Decidable (NoLiveReset s a) :=
  inferInstanceAs (Decidable (∀ p ∈ a.remotePlan, _))

def DealStatus.isOpen : DealStatus → Bool
  | accepted | paymentPending => true
  | _ => false

structure WorkersInv (s : ProviderState) : Prop where
  idle : s.phase = .starting → s.workers = []
  single : (s.workers.map (·.dealId)).Nodup
  busy : ∀ w ∈ s.workers, ∀ row ∈ s.store.deals, row.dealId = w.dealId → row.status.isOpen = false

def Effect.KeepsWorkers (workers : List StoredDeal) : Effect → Prop
  | call (.insert _) | spawn _ => False
  | call (.resetRunningDealToAccepted dealId _) => ∀ w ∈ workers, w.dealId ≠ dealId
  | _ => True

theorem Effect.KeepsWorkers.anti {workers workers' : List StoredDeal}
    (h : e.KeepsWorkers workers) (hsub : workers' ⊆ workers) : e.KeepsWorkers workers' := by
  cases e with
  | call call =>
    cases call with
    | resetRunningDealToAccepted dealId now => exact fun w hw => h w (hsub hw)
    | insert => exact h
    | _ => exact trivial
  | spawn => exact h
  | _ => exact trivial

section Steps

variable {env : ProviderEnv P} {s : ProviderState}

theorem isOpen_of_target {call : DealCall} {id : String} {old new : DealStatus}
    (h : call.target = some (id, old, new)) (hopen : new.isOpen = true) :
    old.isOpen = true ∨ ∃ now, call = .resetRunningDealToAccepted id now := by
  cases call with
  | insert => cases h
  | resetRunningDealToAccepted dealId now =>
    obtain ⟨rfl, -⟩ := Prod.mk.inj (some.inj h)
    exact .inr ⟨now, rfl⟩
  | promote | materializeStripe | materializePrepaid =>
    obtain ⟨-, h⟩ := Prod.mk.inj (some.inj h)
    obtain ⟨rfl, -⟩ := Prod.mk.inj h
    exact .inl rfl
  | _ =>
    obtain ⟨-, h⟩ := Prod.mk.inj (some.inj h)
    obtain ⟨-, rfl⟩ := Prod.mk.inj h
    cases hopen

theorem WorkersInv.call (h : WorkersInv s) {call : DealCall}
    (hcall : Effect.KeepsWorkers s.workers (.call call)) :
    WorkersInv (Effect.apply P s (.call call)) := by
  refine ⟨h.idle, h.single, fun w hw row' hrow' hid => ?_⟩
  obtain hrow | ⟨row, hrow, hstep⟩ | ⟨new, rfl, -⟩ := DealCall.mem_apply hrow'
  · exact h.busy w hw row' hrow hid
  · rw [hstep.dealId_eq] at hid
    have hbusy := h.busy w hw row hrow hid
    refine Bool.eq_false_iff.mpr fun hopen => ?_
    obtain hold | ⟨now, rfl⟩ := isOpen_of_target hstep.target hopen
    · exact Bool.false_ne_true (hbusy.symm.trans hold)
    · exact hcall w hw hid.symm
  · exact absurd hcall id

/-- Every effect that starts no worker and resets no deal of one keeps the
invariant. -/
theorem WorkersInv.apply (h : WorkersInv s) (he : e.KeepsWorkers s.workers) :
    WorkersInv (e.apply P s) ∧ (e.apply P s).workers ⊆ s.workers := by
  cases e with
  | call call => exact ⟨h.call he, Subset.refl _⟩
  | spawn deal => exact absurd he id
  | workerReturned deal =>
    have hsub : s.workers.erase deal ⊆ s.workers := erase_subset
    refine ⟨⟨fun hphase => ?_, ?_, fun w hw => h.busy w (hsub hw)⟩, hsub⟩
    · show s.workers.erase deal = []
      rw [h.idle hphase]
      rfl
    · exact h.single.sublist (erase_sublist.map _)
  | serve =>
    exact ⟨⟨fun hphase => absurd hphase RunPhase.noConfusion, h.single, h.busy⟩,
      Subset.refl _⟩
  | restart decodes => exact ⟨⟨fun _ => rfl, nodup_nil, forall_mem_nil _⟩, nil_subset _⟩
  | _ => exact ⟨⟨h.idle, h.single, h.busy⟩, Subset.refl _⟩

/-- The start of a worker keeps the invariant: the deal was accepted, so it had
none, and it is not accepted any more. -/
theorem WorkersInv.spawn (hinv : ProviderInv env s) (h : WorkersInv s) {deal : StoredDeal}
    {now : ℤ} (hphase : s.phase = .serving)
    (hcas : (tryMarkDealRunning deal.dealId now s.store.deals).1 = true) :
    WorkersInv (Effect.apply P (Effect.apply P s (.call (.tryMarkDealRunning deal.dealId now)))
      (.spawn deal)) := by
  obtain ⟨row, hrow, hid, hstatus⟩ := exists_of_tryMarkDealRunning hcas
  have hmid : WorkersInv (Effect.apply P s (.call (.tryMarkDealRunning deal.dealId now))) :=
    h.call trivial
  refine ⟨fun hstarting => ?_, ?_, fun w hw row' hrow' hid' => ?_⟩
  · exact absurd (hphase.symm.trans hstarting) RunPhase.noConfusion
  · show ((s.workers ++ [deal]).map (·.dealId)).Nodup
    rw [map_append, map_singleton, nodup_append]
    refine ⟨h.single, nodup_singleton _, fun id hmem id' hid' heq => ?_⟩
    obtain ⟨w, hw, rfl⟩ := mem_map.mp hmem
    rw [mem_singleton] at hid'
    have hbusy := h.busy w hw row hrow (hid.trans (hid'.symm.trans heq.symm))
    rw [hstatus] at hbusy
    exact Bool.false_ne_true hbusy.symm
  · rcases mem_concat.mp hw with hw | hw
    · exact hmid.busy w hw row' hrow' hid'
    · rw [hw] at hid'
      obtain ⟨row₀, hrow₀, rfl⟩ := Table.mem_updateWhere.mp hrow'
      split
      case isTrue => rfl
      case isFalse hother =>
        -- the row with that id is the one that was accepted
        rw [if_neg hother] at hid'
        refine absurd ?_ hother
        rw [hinv.admission.ids.eq_of_mem hrow₀ hrow (congrArg some hid') (congrArg some hid),
          hid, hstatus, beq_self_eq_true, beq_self_eq_true]
        rfl

theorem keepsWorkers_of_arises (h : WorkersInv s) (hok : NoLiveReset s a) (he : Arises env s a e)
    (hspawn : ∀ deal, e ≠ .spawn deal) : e.KeepsWorkers s.workers := by
  cases he with
  | inert hinert =>
    cases e with
    | call call => cases call <;> first | exact trivial | cases hinert
    | spawn deal => exact absurd rfl (hspawn deal)
    | _ => exact trivial
  | spawned => exact absurd rfl (hspawn _)
  | resetLocal hphase =>
    rw [h.idle hphase]
    exact forall_mem_nil _
  | resetRemote ha hitem hresets =>
    rw [ha] at hok
    exact hok _ rfl _ hitem hresets
  | @ended call deal old new r hdeal htarget hreceipt hcause =>
    cases call <;> first | exact trivial | exact absurd hreceipt.symm (some_ne_none _)
  | _ => exact trivial

theorem WorkersInv.insert (hinv : ProviderInv env s) (h : WorkersInv s) {new : NewDeal}
    (hfresh : ∀ row ∈ s.store.admitted, row.dealId ≠ new.dealId) :
    WorkersInv (Effect.apply P s (.call (.insert new))) := by
  refine ⟨h.idle, h.single, fun w hw row' hrow' hid => ?_⟩
  obtain hrow | ⟨row, hrow, hstep⟩ | ⟨new', hnew, rfl, -⟩ := DealCall.mem_apply hrow'
  · exact h.busy w hw row' hrow hid
  · cases hstep.target
  · obtain rfl := DealCall.insert.inj hnew
    obtain ⟨row₀, hrow₀, hident⟩ := (hinv.workers w hw).known
    exact absurd ((dealId_of_identity hident).trans hid.symm) (hfresh row₀ hrow₀)

theorem WorkersInv.step (hinv : ProviderInv env s) (h : WorkersInv s) (hok : NoLiveReset s a) :
    ProviderInv env (providerStep env s a) ∧ WorkersInv (providerStep env s a) := by
  by_cases hspawn : ∃ deal, .spawn deal ∈ a.effects env s
  · refine ⟨hinv.step a, ?_⟩
    obtain ⟨deal, hmem⟩ := hspawn
    cases arises_of_mem_of_ne hmem rfl with
    | inert hinert => cases hinert
    | spawned hphase hdeal heffects hcas =>
      unfold providerStep
      rw [heffects, foldl_cons, foldl_cons, foldl_nil]
      exact h.spawn hinv hphase hcas
  · -- without a new worker, those there are at most return
    have hstep := hinv.step_induction (I := fun s' => WorkersInv s' ∧ s'.workers ⊆ s.workers)
      (a := a) ⟨h, Subset.refl _⟩ (fun e hmem he s' hinv' _ h' => ?_)
      (fun hadmits => ⟨h.insert hinv hadmits.fresh, Subset.refl _⟩)
      (fun _ r _ s' _ _ h' => ⟨h'.1.call trivial, h'.2⟩)
      fun _ m _ s' _ _ h' => ?_
    · exact ⟨hstep.1, hstep.2.1⟩
    · have hkeeps := keepsWorkers_of_arises h hok he (fun deal heq => hspawn ⟨deal, heq ▸ hmem⟩)
      obtain ⟨hnext, hsub⟩ := h'.1.apply (P := P) (hkeeps.anti h'.2)
      exact ⟨hnext, Subset.trans hsub h'.2⟩
    · obtain ⟨hnext, hsub⟩ := h'.1.apply (P := P) (e := .insertMaterialization _) trivial
      exact ⟨hnext, Subset.trans hsub h'.2⟩

end Steps

/-- **One worker for a deal.** In every run whose remote recoveries reset no deal
that a worker of the process executes, no two workers execute one deal. -/
theorem single_execution (env : ProviderEnv P) (actions : List ProviderAction)
    (hok : (providerMachine env).Admissible NoLiveReset (providerMachine env).init actions) :
    (((providerMachine env).run actions).workers.map (·.dealId)).Nodup := by
  have hinit : WorkersInv (providerMachine env).init := ⟨fun _ => rfl, nodup_nil, forall_mem_nil _⟩
  exact ((providerMachine env).invariant_of_admissible
    (I := fun s => ProviderInv env s ∧ WorkersInv s)
    (fun s a h hok => h.2.step h.1 hok) actions _ ⟨providerInv_init, hinit⟩ hok).2.single

/-! ## A recovery during an execution -/

def sampleFundedSession : LightningInvoiceBundleSession :=
  { sessionId := "d", baseState := .settled, successState := .accepted, createdAt := 5
    bundle := { sampleEscrowBundle with createdAt := 5 } }

def sampleLightningRequest : CreateDealRequest :=
  sampleRequest sampleEscrowQuote none

def sampleLightningRow (status : DealStatus) (updatedAt : ℤ) : StoredDeal :=
  { (sampleLightningRequest.newDeal "d" (some .lightning) 2 5).row with status, updatedAt }

def sampleBundleRequest : MaterializationRequest :=
  .lightningInvoiceBundle
    { sessionId := "d", requesterId := "r", quoteHash := "aa", dealHash := "aa"
      admissionDeadline := 10, successPaymentHash := sampleHash
      baseFeeMsat := 1000, successFeeMsat := 1000, createdAt := 5 }

def sampleIssued : IssuedInvoices :=
  { destinationIdentity := samplePayee, baseInvoiceBolt11 := "lnbc", basePaymentHash := sampleHash
    baseState := .opened, successHoldInvoiceBolt11 := "lnbc", successState := .opened
    expiresAt := 10, minFinalCltvExpiry := 1 }

def lightningStartRun : List ProviderAction :=
  [.recoverRuntimeStateLocal [] 5, sampleAdmission sampleLightningRequest,
    .claimDealMaterialization "d" "t" 5,
    .persistLightningBundle (sampleClaim sampleBundleRequest) sampleIssued,
    .syncLightningBundle "d" .settled .accepted, .readDeal "d",
    .promoteLightningDealIfFunded (sampleLightningRow .paymentPending 5) sampleFundedSession 6,
    .readDeal "d", .startExecution (sampleLightningRow .accepted 6) 7]

def lightningRecoveryRun : List ProviderAction :=
  [.syncLightningBundle "d" .settled .accepted, .readDeal "d",
    .recoverRuntimeStateRemote
      [{ deal := sampleLightningRow .running 7, failureEvidenceHash := ""
         answers :=
          { synced := some sampleFundedSession, canceled := .error ""
            stripeReleased := .error "", payment := .error "" } }] 8,
    .readDeal "d", .startExecution (sampleLightningRow .accepted 8) 9]

theorem two_workers_after_recovery :
    (((providerMachine (sampleEnv ⟨[.lightning], .lndRest, [], false⟩)).run
      (lightningStartRun ++ lightningRecoveryRun)).workers.map (·.dealId)) = ["d", "d"] := by
  decide +kernel

theorem single_execution_after_crash :
    let actions := lightningStartRun
      ++ [.restart fun _ => true, .recoverRuntimeStateLocal [] 7] ++ lightningRecoveryRun
    let s := (providerMachine (sampleEnv ⟨[.lightning], .lndRest, [], false⟩)).run actions
    s.workers.map (·.dealId) = ["d"] ∧ (s.workers.map (·.dealId)).Nodup :=
  ⟨by decide +kernel, single_execution _ _ (by decide +kernel)⟩

end Froglet
