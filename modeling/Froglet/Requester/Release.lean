import Froglet.Requester.Soundness

/-!
# When the preimage of a deal may leave the node

The preimage of a Lightning deal pays the provider. Accepting a result syncs the
deal and then releases the preimage, with the hash of the result it is released
for; the hash is the caller's, or the one on the synced row.
-/

namespace Froglet

open List Option
variable {s : RequesterState} {projection : ProviderDealProjection}
variable {receipt : SignedReceipt}

/-! ## What was synced before a release -/

def PreimageRelease.Synced (env : RequesterEnv) (rel : PreimageRelease) : Prop :=
  ∃ projection, verifyProviderDealProjection env.prims rel.stored rel.remote = .ok projection

def RequesterTask.release : RequesterTask → Option PreimageRelease
  | .releasing stored remote synced expected =>
    some { stored, remote, synced, callerHash := expected
           request := releaseRequest synced expected }
  | _ => none

def PreimageRelease.leaves (env : RequesterEnv) (rel : PreimageRelease)
    (a2aTask : Except ApiFailure DealRecord) : Bool :=
  if env.usesA2a (rel.synced.persisted.providerSyncUrl.getD rel.synced.persisted.providerUrl) then
    match a2aTask with
    | .error _ => false
    | .ok record => match verifiedAcceptanceReplay record rel.request with
      | .error _ => false
      | .ok replayed => !replayed
  else true

def RequesterAction.sends (env : RequesterEnv) (s : RequesterState) :
    RequesterAction → Option PreimageRelease
  | .release i a2aTask _ => (s.tasks[i]?.bind (·.release)).filter fun rel => rel.leaves env a2aTask
  | _ => none

variable {env : RequesterEnv} {stored : StoredRequesterDeal} {remote : DealRecord}
  {rel : PreimageRelease} {P : Primitives}

@[simp] theorem startSync_released (dealId : String) (purpose : SyncPurpose) (s : RequesterState) :
    (startSync dealId purpose s).released = s.released := by
  unfold startSync
  split <;> rfl

theorem createDeal_released (draft : CreateDraft) (now : ℤ) (s : RequesterState) :
    (createDeal env draft now s).released = s.released := by
  unfold createDeal
  split
  · split <;> rfl
  · split
    · rfl
    · split
      · split <;> rfl
      · rfl

theorem createAnswer_released (draft : CreateDraft) (remote : DealRecord) (now : ℤ)
    (s : RequesterState) : (createAnswer env draft remote now s).released = s.released := by
  unfold createAnswer
  split
  · rfl
  · split
    · split <;> rfl
    · rfl

theorem releasePreimage_released {synced : SyncedRequesterDeal} {expected : Option String}
    (hrel : (RequesterTask.releasing stored remote synced expected).release = some rel)
    (a2aTask : Except ApiFailure DealRecord) (now : ℤ) (s : RequesterState) :
    (releasePreimage env stored remote synced expected a2aTask now s).released
      = s.released ++ (if rel.leaves env a2aTask then [rel] else []) := by
  cases hrel
  unfold releasePreimage PreimageRelease.leaves
  dsimp only
  split
  · cases a2aTask with
    | error e => simp
    | ok record =>
      dsimp only
      split <;> rename_i hreplay <;> simp [hreplay]
  · simp

theorem requesterStep_released (env : RequesterEnv) (s : RequesterState) (a : RequesterAction) :
    (requesterStep env s a).released = s.released ++ (a.sends env s).toList := by
  have hsame : ∀ {l : List PreimageRelease}, l = s.released → a.sends env s = none →
      l = s.released ++ (a.sends env s).toList := by
    rintro l rfl hnone
    rw [hnone, Option.toList_none, List.append_nil]
  cases a with
  | create draft now => exact hsame (createDeal_released draft now s) rfl
  | getDeal dealId =>
    refine hsame ?_ rfl
    simp only [requesterStep]
    split
    · rfl
    · exact startSync_released dealId .report s
  | loadPaymentIntent dealId => exact hsame (startSync_released dealId .report s) rfl
  | accept dealId expected => exact hsame (startSync_released dealId (.accept expected) s) rfl
  | mockPay dealId =>
    refine hsame ?_ rfl
    simp only [requesterStep]
    split
    · exact startSync_released dealId .mockPay s
    · rfl
  | createAnswered i remote now =>
    refine hsame ?_ rfl
    simp only [requesterStep]
    split
    · rw [createAnswer_released]
    · rfl
  | syncAnswered i remote now =>
    refine hsame ?_ rfl
    simp only [requesterStep]
    split
    · split <;> rfl
    · rfl
  | release i a2aTask now =>
    simp only [requesterStep]
    split
    · rename_i stored remote synced expected htask
      rw [releasePreimage_released rfl]
      simp only [RequesterAction.sends, htask, Option.bind_some, RequesterTask.release,
        Option.filter]
      split <;> rfl
    · rename_i hnot
      refine hsame rfl ?_
      cases htask : s.tasks[i]? with
      | none => simp [RequesterAction.sends, htask]
      | some task =>
        cases task with
        | releasing stored remote synced expected => exact absurd htask (hnot _ _ _ _)
        | creating draft => simp [RequesterAction.sends, htask, RequesterTask.release]
        | syncing stored purpose => simp [RequesterAction.sends, htask, RequesterTask.release]
        | accepting synced => simp [RequesterAction.sends, htask, RequesterTask.release]
        | mockPaying synced => simp [RequesterAction.sends, htask, RequesterTask.release]
  | acceptAnswered i terminal now =>
    refine hsame ?_ rfl
    simp only [requesterStep]
    split <;> rfl
  | mockPayAnswered i remote =>
    refine hsame ?_ rfl
    simp only [requesterStep]
    split
    · split
      · rw [startSync_released]
      · rfl
    · rfl
  | abandon i => exact hsame rfl rfl

def ReleasesSynced (env : RequesterEnv) (s : RequesterState) : Prop :=
  ∀ task ∈ s.tasks, ∀ rel, task.release = some rel → rel.Synced env

theorem releasesSynced_step (h : ReleasesSynced env s) (a : RequesterAction) :
    ReleasesSynced env (requesterStep env s a) := by
  intro task htask rel hrel
  cases requesterStep_tasks env s a task htask with
  | kept _ ht => exact h task ht rel hrel
  | creating draft => cases hrel
  | started row purpose _ => cases hrel
  | released stored remote synced expected _ => cases hrel
  | synced stored purpose remote now synced _ _ hsync hafter =>
    -- only the accept path goes on to a release, of what it has just synced
    cases purpose with
    | report => cases hafter
    | mockPay =>
      simp only [afterSync] at hafter
      split at hafter
      · cases mem_singleton.mp hafter
        cases hrel
      · cases hafter
    | accept expected =>
      cases mem_singleton.mp hafter
      cases hrel
      have hok : ∀ {e}, verifyProviderDealProjection env.prims stored remote ≠ .error e := by
        intro e he
        simp [syncRequesterDealFromProvider, he] at hsync
      cases hp : verifyProviderDealProjection env.prims stored remote with
      | error e => exact absurd hp hok
      | ok projection => exact ⟨projection, hp⟩

theorem mem_of_sends {a : RequesterAction} (h : a.sends env s = some rel) :
    ∃ task ∈ s.tasks, task.release = some rel := by
  cases a with
  | release i a2aTask now =>
    obtain ⟨hrel, _⟩ := filter_eq_some_iff.mp h
    obtain ⟨task, htask, hrel⟩ := bind_eq_some_iff.mp hrel
    exact ⟨task, mem_of_getElem? htask, hrel⟩
  | _ => cases h

theorem request_of_release {task : RequesterTask} (h : task.release = some rel) :
    rel.request = releaseRequest rel.synced rel.callerHash := by
  cases task with
  | releasing stored remote synced expected =>
    cases h
    rfl
  | _ => cases h

/-! ## Safe releases -/

/-- A safe release: what was synced is a verified result, ready or under a
receipt of its execution, and the hash that goes with the preimage is the hash
of that result. -/
structure ReleasedSafely (env : RequesterEnv) (rel : PreimageRelease) : Prop where
  verified : rel.Synced env
  shown : rel.remote.receipt = none ∧ rel.remote.status = DealStatus.resultReady.text
    ∨ ∃ receipt, SignedAnswer env.prims rel.stored rel.remote receipt
      ∧ receipt.payload.executionState = "succeeded"
  result : ∃ result hash, rel.remote.result = some result ∧ rel.remote.resultHash = some hash
    ∧ canonicalResultHash env.prims result = hash
    ∧ rel.request.expectedResultHash = some hash

def PreimageRelease.due (rel : PreimageRelease) : Bool :=
  (match rel.remote.receipt with
    | none => rel.remote.status == DealStatus.resultReady.text
    | some receipt => receipt.payload.executionState == "succeeded")
    && rel.callerHash.or rel.synced.deal.resultHash == rel.remote.resultHash

theorem unsignedFields_of_projection (hnone : remote.receipt = none)
    (h : verifyProviderDealProjection P stored remote = .ok projection) :
    verifyUnsignedFields P remote = .ok () := by
  unfold verifyProviderDealProjection at h
  rw [hnone] at h
  simp only [check_eq_ok] at h
  exact h.2.2.1

theorem signedAnswer_of_receipt (hsome : remote.receipt = some receipt)
    (h : verifyProviderDealProjection P stored remote = .ok projection) :
    SignedAnswer P stored remote receipt := by
  unfold verifyProviderDealProjection at h
  rw [hsome] at h
  simp only [check_eq_ok, rejectIf_eq_ok, bne_eq_false_iff_eq,
    verifyProviderReceiptArtifact_iff] at h
  exact ⟨hsome, h.2.1, h.2.2.1.symm⟩

theorem result_of_unsignedFields (h : verifyUnsignedFields P remote = .ok ())
    (hready : remote.status = DealStatus.resultReady.text) :
    ∃ result hash, remote.result = some result ∧ remote.resultHash = some hash
      ∧ canonicalResultHash P result = hash := by
  unfold verifyUnsignedFields at h
  rw [hready] at h
  cases hr : remote.result with
  | none => simp [hr] at h
  | some result =>
    cases hh : remote.resultHash with
    | none => simp [hr, hh] at h
    | some hash =>
      simp only [hr, hh, beq_self_eq_true, if_true, rejectIf_eq_ok, Bool.or_eq_false_iff,
        bne_eq_false_iff_eq] at h
      exact ⟨result, hash, rfl, rfl, h.1⟩

theorem SignedAnswer.result_of_succeeded (h : SignedAnswer P stored remote receipt)
    (hsucceeded : receipt.payload.executionState = "succeeded") :
    ∃ result hash, remote.result = some result ∧ remote.resultHash = some hash
      ∧ canonicalResultHash P result = hash := by
  obtain ⟨_, _, _, hreceipt, _⟩ := (valid_validateQuoteDealReceipt P).mp h.verified.chain
  obtain ⟨_, _, ⟨hsome, _⟩, _⟩ := (validateReceiptArtifact_iff P receipt).mp hreceipt
  rw [hsucceeded, beq_self_eq_true] at hsome
  obtain ⟨hash, hhash⟩ := isSome_iff_exists.mp hsome
  have hresult := h.verified.result
  rw [hhash] at hresult
  obtain ⟨result, hr, hcanonical⟩ := map_eq_some_iff.mp hresult
  exact ⟨result, hash, hr, h.verified.resultHash.trans hhash, hcanonical⟩

/-- A synced release is safe exactly when it is due. -/
theorem releasedSafely_iff_due (hsynced : rel.Synced env)
    (hrequest : rel.request = releaseRequest rel.synced rel.callerHash) :
    ReleasedSafely env rel ↔ rel.due = true := by
  have hexpected : rel.request.expectedResultHash
      = rel.callerHash.or rel.synced.deal.resultHash := by rw [hrequest, releaseRequest]
  unfold PreimageRelease.due
  rw [← hexpected]
  constructor
  · intro h
    obtain ⟨result, hash, _, hhash, _, hsent⟩ := h.result
    rw [hsent, hhash, beq_self_eq_true, Bool.and_true]
    rcases h.shown with ⟨hnone, hready⟩ | ⟨receipt, hsigned, hsucceeded⟩
    · rw [hnone]
      exact beq_iff_eq.mpr hready
    · rw [hsigned.carried]
      exact beq_iff_eq.mpr hsucceeded
  · intro h
    obtain ⟨projection, hprojection⟩ := hsynced
    rw [Bool.and_eq_true, beq_iff_eq] at h
    obtain ⟨hshown, hsent⟩ := h
    cases hr : rel.remote.receipt with
    | none =>
      rw [hr, beq_iff_eq] at hshown
      obtain ⟨result, hash, hresult, hhash, hcanonical⟩ :=
        result_of_unsignedFields (unsignedFields_of_projection hr hprojection) hshown
      exact ⟨⟨projection, hprojection⟩, .inl ⟨hr, hshown⟩,
        result, hash, hresult, hhash, hcanonical, hsent.trans hhash⟩
    | some receipt =>
      rw [hr, beq_iff_eq] at hshown
      have hsigned := signedAnswer_of_receipt hr hprojection
      obtain ⟨result, hash, hresult, hhash, hcanonical⟩ := hsigned.result_of_succeeded hshown
      exact ⟨⟨projection, hprojection⟩, .inr ⟨receipt, hsigned, hshown⟩,
        result, hash, hresult, hhash, hcanonical, hsent.trans hhash⟩

/-- **When the preimage is kept safe.** In every run, against any provider, every
preimage that has left was released safely exactly when every step that sends
one sends a release that is due. -/
theorem preimage_released_safely_iff (env : RequesterEnv) (as : List RequesterAction) :
    (∀ n, ∀ rel ∈ ((requesterMachine env).run (as.take n)).released, ReleasedSafely env rel)
      ↔ (requesterMachine env).Admissible
          (fun s a => (a.sends env s).all PreimageRelease.due = true)
          (requesterMachine env).init as := by
  refine (requesterMachine env).always_iff_admissible (J := ReleasesSynced env)
    (I := fun s => ∀ rel ∈ s.released, ReleasedSafely env rel)
    (fun _ a h => releasesSynced_step h a) (fun s a hJ hI => ?_) as _
    (fun _ h => absurd h not_mem_nil) fun _ h => absurd h not_mem_nil
  have hstep : (requesterMachine env).step s a = requesterStep env s a := rfl
  rw [hstep, requesterStep_released]
  cases hsends : a.sends env s with
  | none => simpa using hI
  | some rel =>
    obtain ⟨task, htask, hrel⟩ := mem_of_sends hsends
    have hiff := releasedSafely_iff_due (hJ task htask rel hrel) (request_of_release hrel)
    simp only [toList_some, all_some, ← hiff]
    constructor
    · intro h
      exact h rel (mem_concat_self)
    · intro h r hr
      rcases mem_concat.mp hr with hr | hr
      · exact hI r hr
      · rw [hr]
        exact h

theorem preimage_released_while_running :
    ¬ ∀ rel ∈ ((requesterMachine sampleRequester).run
        [.create { sampleDraft with quote := sampleEscrowQuote } 0,
          .createAnswered 0
            { sampleRecord "accepted" none none none with quote := sampleEscrowQuote } 0,
          .abandon 0,
          .accept "d" none,
          .syncAnswered 0
            { sampleRecord "running" none none none with quote := sampleEscrowQuote } 1,
          .release 0 (.error "no task") 2]).released,
      ReleasedSafely sampleRequester rel := by
  intro h
  have hreleased : ((requesterMachine sampleRequester).run
      [.create { sampleDraft with quote := sampleEscrowQuote } 0,
        .createAnswered 0
          { sampleRecord "accepted" none none none with quote := sampleEscrowQuote } 0,
        .abandon 0,
        .accept "d" none,
        .syncAnswered 0 { sampleRecord "running" none none none with quote := sampleEscrowQuote } 1,
        .release 0 (.error "no task") 2]).released.map
      (fun rel => (rel.remote.result, rel.request.successPreimage))
      = [(none, "preimage")] := by decide +kernel
  obtain ⟨rel, hrel, hshown⟩ := mem_map.mp (hreleased ▸ mem_singleton.mpr rfl)
  obtain ⟨result, _, hresult, _⟩ := (h rel hrel).result
  rw [(Prod.mk.inj hshown).1] at hresult
  cases hresult

end Froglet
