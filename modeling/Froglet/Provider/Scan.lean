import Froglet.Provider.Claims
import Froglet.Provider.Execution

/-!
# The admission task and the scan

A Lightning deal is admitted in one transaction, which leaves its materialization
unclaimed; the task that asks the wallet for the invoices claims it in a second one.
-/

namespace Froglet

open List Option Table

variable {P : Primitives} {a : ProviderAction} {dealId : String} {record : MaterializationRecord}
variable {session : LightningInvoiceBundleSession}
variable {o : Observation}

/-! ## Tasks -/

inductive MaterializationTask where
  | admission (dealId : String)
  | scan
  | queue
deriving DecidableEq

def MaterializationTask.permits : MaterializationTask → ProviderAction → Bool
  | admission _, .renewOwnedMaterializationClaim .. | admission _, .persistLightningBundle ..
  | admission _, .rescheduleOwnedMaterialization .. | admission _, .deleteOwnedMaterialization ..
  | admission _, .failPendingDealMaterialization .. => true
  | scan, .rescheduleOwnedMaterialization .. | scan, .deleteOwnedMaterialization ..
  | scan, .failPendingDealMaterialization .. => true
  | queue, .persistLightningBundle .. => false
  | queue, _ => true
  | _, _ => false

structure ClaimOwner where
  (claimToken dealId : String)
  task : MaterializationTask

/-- The provider with its tasks. -/
structure ScanState where
  provider : ProviderState
  clock : ℤ
  owners : List ClaimOwner
  (waiting live : List String)
  cancelled : List (String × ℤ)
  bundled : List (String × MaterializationTask × LightningInvoiceBundleSession)

inductive ScanAction where
  | tick (secs : ℕ)
  | claim (task : MaterializationTask) (dealId claimToken : String)
  | provider (a : ProviderAction)

/-! ## Steps -/

def MaterializationRecord.isLightning (record : MaterializationRecord) : Bool :=
  match record.request with
  | .lightningInvoiceBundle _ => true
  | _ => false

def ProviderAction.isAt (clock : ℤ) : ProviderAction → Bool
  | createDealRecord _ _ _ _ _ _ now | renewOwnedMaterializationClaim _ now
  | failPendingDealMaterialization _ _ _ _ now => now == clock
  | _ => true

def ProviderAction.isClaim : ProviderAction → Bool
  | claimDealMaterialization .. => true
  | _ => false

def ProviderAction.isRestart : ProviderAction → Bool
  | restart _ => true
  | _ => false

namespace ScanState

variable (env : ProviderEnv P) (s : ScanState)
variable (a : ProviderAction)

def taskOf : Option MaterializationTask := do
  let record ← a.claim
  let owner ← selectWhere (fun owner => record.claimToken == some owner.claimToken) s.owners
  return owner.task

def allows : Bool :=
  !a.isClaim && a.isAt s.clock && (a.claim.isNone || (s.taskOf a).any (·.permits a))

def mayClaim (dealId : String) : MaterializationTask → Bool
  | .admission dealId' => dealId' == dealId && s.waiting.contains dealId
  | .scan => env.config.paymentBackends.contains .lightning
    && (s.provider.getMaterialization dealId).any (·.isLightning)
  | .queue => (s.provider.getMaterialization dealId).any (!·.isLightning)
    || (getDeal s.provider.store.deals dealId).isNone

def cancelledDeal : Effect → Option String
  | .call (.cancelUnadmitted dealId _ _ _) => some dealId
  | _ => none

def cancelledBy : List (String × ℤ) :=
  if s.taskOf a = some .scan then
    ((a.effects env s.provider).filterMap cancelledDeal).map (·, s.clock)
  else []

def bundledBy : List (String × MaterializationTask × LightningInvoiceBundleSession) :=
  (a.persisted env s.provider).filterMap fun
    | (dealId, .bundle session) => (s.taskOf a).map (dealId, ·, session)
    | _ => none

def admittedBy : List StoredDeal :=
  (providerStep env s.provider a).store.admitted.drop s.provider.store.admitted.length

end ScanState

section Machine

variable (env : ProviderEnv P)

def scanStep (s : ScanState) : ScanAction → ScanState
  | .tick secs => { s with clock := s.clock + secs }
  | .claim task dealId claimToken =>
    if s.mayClaim env dealId task && !s.owners.any (·.claimToken == claimToken) then
      { s with
        provider :=
          providerStep env s.provider (.claimDealMaterialization dealId claimToken s.clock)
        owners := s.owners ++ [{ claimToken, dealId, task }]
        waiting := if task = .admission dealId then s.waiting.erase dealId else s.waiting }
    else s
  | .provider a =>
    if s.allows a then
      { s with
        provider := providerStep env s.provider a
        waiting := if a.isRestart then [] else s.waiting
          ++ ((s.admittedBy env a).filter (·.paymentMethod == some .lightning)).map (·.dealId)
        live := if a.isRestart then [] else s.live ++ (s.admittedBy env a).map (·.dealId)
        cancelled := s.cancelled ++ s.cancelledBy env a
        bundled := s.bundled ++ s.bundledBy env a }
    else s

def scanMachine : Machine ScanState ScanAction where
  init :=
    { provider := (providerMachine env).init, clock := 0, owners := [], waiting := [], live := []
      cancelled := [], bundled := [] }
  step := scanStep env

end Machine

/-- A live deal is its admission task's. -/
def ScanState.Undisturbed (s : ScanState) : Prop :=
  ∀ row ∈ s.provider.store.admitted, row.paymentMethod = some .lightning →
    row.dealId ∈ s.live →
      (∀ p ∈ s.cancelled, p.1 = row.dealId → row.artifact.payload.admissionDeadline ≤ p.2)
        ∧ (∀ b ∈ s.bundled, b.1 = row.dealId → b.2.1 = .admission row.dealId)
        ∧ ∀ session ∈ s.provider.bundles, ∃ b ∈ s.bundled,
          b.2.2.sessionId = session.sessionId ∧ b.2.2.bundle = session.bundle

def ScanState.yields (s : ScanState) : ScanAction → Bool
  | .claim .scan dealId _ =>
    !(s.live.contains dealId && s.provider.store.admitted.any (fun row =>
        row.dealId == dealId && s.clock < row.artifact.payload.admissionDeadline))
      || (s.provider.getMaterialization dealId).all (·.isClaimed s.clock)
  | _ => true

/-! ## What an action admits and reads -/

section Provider

variable {env : ProviderEnv P} {s : ProviderState}

theorem ProviderInv.admitted_step (h : ProviderInv env s) (a : ProviderAction) :
    (providerStep env s a).store.admitted = s.store.admitted
      ∨ ∃ row : StoredDeal, (∀ row' ∈ s.store.admitted, row'.dealId ≠ row.dealId)
        ∧ a.isAdmission = true
        ∧ (providerStep env s a).store.admitted = s.store.admitted ++ [row] := by
  refine (h.step_induction (a := a) (I := fun s' => s'.store.admitted = s.store.admitted
      ∨ ∃ row : StoredDeal, (∀ row' ∈ s.store.admitted, row'.dealId ≠ row.dealId)
        ∧ a.isAdmission = true ∧ s'.store.admitted = s.store.admitted ++ [row])
    (.inl rfl) ?_ ?_ ?_ ?_).2
  · intro e _ he s' _ hsame _
    exact .inl ((admitted_apply (hsame ▸ h.sound he)).trans hsame)
  · intro request dealId rail totalSats rejection now hadmits
    obtain ⟨_, _, _, _, ha, -⟩ := hadmits.checked
    refine .inr ⟨(request.newDeal dealId rail totalSats now).row, hadmits.fresh, ha ▸ rfl, ?_⟩
    have hrows := hadmits.inserts.admitted
    rw [withInitialStatus_newDeal] at hrows
    exact hrows
  · intro request dealId rail totalSats rejection now hadmits r _ s' _ hrows _
    obtain ⟨_, _, _, _, ha, -⟩ := hadmits.checked
    exact .inr ⟨_, hadmits.fresh, ha ▸ rfl, (admitted_apply (sound_call rfl rfl)).trans hrows⟩
  · intro request dealId rail totalSats rejection now hadmits m _ s' _ hrows _
    obtain ⟨_, _, _, _, ha, -⟩ := hadmits.checked
    exact .inr ⟨_, hadmits.fresh, ha ▸ rfl, hrows⟩

theorem mem_held_apply {e : Effect} (h : o ∈ (e.apply P s).held) : o ∈ s.held ∨ e = .observe o := by
  cases e with
  | observe o' =>
    rcases mem_concat.mp h with h | h
    · exact .inl h
    · exact .inr (congrArg _ h.symm)
  | restart => cases h
  | _ => exact .inl h

theorem arises_of_mem_held (h : o ∈ (providerStep env s a).held) :
    o ∈ s.held ∨ Arises env s a (.observe o) := by
  have hall := foldlRecOn (a.effects env s) (Effect.apply P)
    (motive := fun s' => ∀ o ∈ s'.held, o ∈ s.held ∨ .observe o ∈ a.effects env s)
    (fun _ ho => .inl ho) fun s' hs' e he o ho => by
      obtain ho | rfl := mem_held_apply ho
      · exact hs' o ho
      · exact .inr he
  exact (hall o h).imp_right fun hmem =>
    arises_of_mem_of_ne hmem rfl

theorem not_arises_claim (ha : a.isClaim = false) (claim : MaterializationRecord) :
    ¬ Arises env s a (.observe (.claim claim)) := by
  intro h
  obtain ⟨_, -, _, _, rfl, -⟩ := claim_of_arises h
  cases ha

theorem persistLightningBundle_of_persisted (h : (dealId, .bundle session) ∈ a.persisted env s) :
    ∃ record issued, a = .persistLightningBundle record issued ∧ Owns s a record
      ∧ record.dealId = dealId := by
  obtain ⟨e, he, hres⟩ := mem_filterMap.mp h
  cases e with
  | insertBundle session' =>
    cases arises_of_mem_of_ne he rfl with
    | inert _ hreason =>
      obtain ⟨record, issued, -, ha, howns, -⟩ := hreason.persisted
      refine ⟨record, issued, ha, howns, ?_⟩
      simp only [Effect.resource, howns.claim, map_some, some.injEq, Prod.mk.injEq] at hres
      exact hres.1
  | call call =>
    cases call <;>
      simp only [Effect.resource, some.injEq, Prod.mk.injEq, reduceCtorEq, and_false] at hres
  | insertPrepaidInvoice =>
    simp only [Effect.resource, some.injEq, Prod.mk.injEq, reduceCtorEq, and_false] at hres
  | _ => cases hres

end Provider

/-! ## The invariant -/

structure ScanInv (env : ProviderEnv P) (s : ScanState) : Prop where
  provider : ProviderInv env s.provider
  ids : Table.Unique (some ·.dealId) s.provider.materializations
  tokens : Table.Unique (some ·.claimToken) s.owners
  owned : ∀ claim, .claim claim ∈ s.provider.log → ∃ owner ∈ s.owners,
    claim.claimToken = some owner.claimToken ∧ owner.dealId = claim.dealId
  admission : ∀ owner ∈ s.owners, ∀ dealId, owner.task = .admission dealId → dealId = owner.dealId
  late : ∀ claim, .claim claim ∈ s.provider.held → claim.dealId ∈ s.live →
    ∀ owner ∈ s.owners, claim.claimToken = some owner.claimToken → owner.task = .scan →
      ∀ row ∈ s.provider.store.admitted, row.dealId = claim.dealId →
        row.artifact.payload.admissionDeadline ≤ s.clock
  cancelledKnown : ∀ p ∈ s.cancelled, ∃ row ∈ s.provider.store.admitted, row.dealId = p.1
  cancelled : ∀ p ∈ s.cancelled, p.1 ∈ s.live → ∀ row ∈ s.provider.store.admitted,
    row.dealId = p.1 → row.artifact.payload.admissionDeadline ≤ p.2
  bundled : ∀ b ∈ s.bundled, b.2.1 = .admission b.1
  bundles : ∀ session ∈ s.provider.bundles, ∃ b ∈ s.bundled,
    b.2.2.sessionId = session.sessionId ∧ b.2.2.bundle = session.bundle

section Invariant

variable {env : ProviderEnv P} {s : ScanState}

theorem scanInv_init : ScanInv env (scanMachine env).init where
  provider := providerInv_init
  ids := unique_nil _
  tokens := unique_nil _
  owned _ h := nomatch h
  admission := forall_mem_nil _
  late _ h := nomatch h
  cancelledKnown := forall_mem_nil _
  cancelled := forall_mem_nil _
  bundled := forall_mem_nil _
  bundles := forall_mem_nil _

theorem ScanInv.undisturbed (h : ScanInv env s) : s.Undisturbed :=
  fun row hrow _ hlive => ⟨fun p hp hid => h.cancelled p hp (hid ▸ hlive) row hrow hid.symm,
    fun b hb hid => hid ▸ h.bundled b hb, h.bundles⟩

theorem ScanInv.tick (h : ScanInv env s) (secs : ℕ) :
    ScanInv env { s with clock := s.clock + secs } :=
  { h with
    late := fun claim hheld hlive owner howner htoken htask row hrow hid =>
      (h.late claim hheld hlive owner howner htoken htask row hrow hid).trans
        (Int.le_add_of_nonneg_right (Int.natCast_nonneg secs)) }

/-- What a scan that yields can claim: nothing of a live deal before its
deadline. -/
theorem deadline_of_yields {claimToken : String}
    (hyields : s.yields (.claim .scan dealId claimToken) = true)
    (hfound : s.provider.getMaterialization dealId = some record)
    (hfree : record.isClaimed s.clock = false) (hlive : dealId ∈ s.live) {row : StoredDeal}
    (hrow : row ∈ s.provider.store.admitted) (hid : row.dealId = dealId) :
    row.artifact.payload.admissionDeadline ≤ s.clock := by
  by_contra hearly
  have hany : s.provider.store.admitted.any (fun row =>
      row.dealId == dealId && s.clock < row.artifact.payload.admissionDeadline) = true :=
    any_eq_true.mpr ⟨row, hrow, by simpa [hid] using hearly⟩
  simp only [ScanState.yields, contains_iff_mem.mpr hlive, hany, hfound, all_some, hfree] at hyields
  cases hyields

section

variable (h : ScanInv env s)
include h

theorem ScanInv.claim {task : MaterializationTask} {claimToken : String}
    (hyields : s.yields (.claim task dealId claimToken) = true)
    (hmay : s.mayClaim env dealId task = true)
    (hfresh : s.owners.any (·.claimToken == claimToken) = false) (waiting : List String) :
    ScanInv env { s with
      provider := providerStep env s.provider (.claimDealMaterialization dealId claimToken s.clock)
      owners := s.owners ++ [{ claimToken, dealId, task }], waiting } := by
  have hnew : ∀ owner ∈ s.owners, owner.claimToken ≠ claimToken := fun owner howner heq =>
    Bool.false_ne_true (hfresh.symm.trans (any_eq_true.mpr ⟨owner, howner, beq_iff_eq.mpr heq⟩))
  have hadmitted : (providerStep env s.provider
      (.claimDealMaterialization dealId claimToken s.clock)).store.admitted
      = s.provider.store.admitted := by
    obtain hsame | ⟨_, -, ha, -⟩ := h.provider.admitted_step
      (.claimDealMaterialization dealId claimToken s.clock)
    · exact hsame
    · cases ha
  refine
    { provider := h.provider.step _
      ids := unique_materializations_step env _ h.ids
      tokens := h.tokens.concat (fun owner howner token htoken htoken' =>
        hnew owner howner (some.inj (htoken.trans htoken'.symm)))
      owned := fun claim hclaim => ?_
      admission := fun owner howner dealId' htask => ?_
      late := fun claim hheld hlive owner howner htoken htask row hrow hid => ?_
      cancelledKnown := fun p hp => hadmitted ▸ h.cancelledKnown p hp
      cancelled := fun p hp hlive row hrow => h.cancelled p hp hlive row (hadmitted ▸ hrow)
      bundled := h.bundled
      bundles := fun session hsession => ?_ }
  · obtain hold | hclaim := arises_of_mem_log hclaim
    · obtain ⟨owner, howner, howned⟩ := h.owned claim hold
      exact ⟨owner, mem_append_left _ howner, howned⟩
    · obtain ⟨record, -, token, now, ha, rfl, -⟩ := claim_of_arises hclaim
      obtain ⟨rfl, rfl, rfl⟩ := ProviderAction.claimDealMaterialization.inj ha
      exact ⟨_, mem_concat_self, rfl, rfl⟩
  · rcases mem_concat.mp howner with howner | rfl
    · exact h.admission owner howner dealId' htask
    · obtain rfl : task = .admission dealId' := htask
      exact beq_iff_eq.mp (Bool.and_eq_true_iff.mp hmay).1
  · rw [hadmitted] at hrow
    obtain hold | hclaim := arises_of_mem_held hheld
    · rcases mem_concat.mp howner with howner | howner
      · exact h.late claim hold hlive owner howner htoken htask row hrow hid
      · -- the token of an earlier claim is not drawn again
        obtain ⟨owner', howner', htoken', -⟩ := h.owned claim (h.provider.logged hold)
        rw [howner, htoken'] at htoken
        exact absurd (some.inj htoken) (hnew owner' howner')
    · obtain ⟨record, hmem, token, now, ha, rfl, hfree⟩ := claim_of_arises hclaim
      obtain ⟨rfl, rfl, rfl⟩ := ProviderAction.claimDealMaterialization.inj ha
      rcases mem_concat.mp howner with howner | howner
      · exact absurd (some.inj htoken).symm (hnew owner howner)
      · obtain rfl : task = .scan := by
          rw [howner] at htask
          exact htask
        exact deadline_of_yields hyields (getMaterialization_of_mem h.ids hmem) hfree hlive hrow hid
  · obtain ⟨session₀, hmem₀, hid, hbundle⟩ | ⟨_, _, hpersisted, -⟩ := bundle_of_mem_step hsession
    · obtain ⟨b, hb, hid', hbundle'⟩ := h.bundles session₀ hmem₀
      exact ⟨b, hb, hid'.trans hid, hbundle'.trans hbundle⟩
    · obtain ⟨_, _, ha, -⟩ := persistLightningBundle_of_persisted hpersisted
      exact ProviderAction.noConfusion ha

theorem ScanInv.task_of_owns (hallows : s.allows a = true) (hclaim : a.claim = some record)
    (hheld : .claim record ∈ s.provider.held) :
    ∃ owner ∈ s.owners, record.claimToken = some owner.claimToken ∧ owner.dealId = record.dealId
      ∧ s.taskOf a = some owner.task ∧ owner.task.permits a = true := by
  obtain ⟨owner, howner, htoken, hdeal⟩ := h.owned record (h.provider.logged hheld)
  have htask : s.taskOf a = some owner.task := by
    unfold ScanState.taskOf
    rw [hclaim]
    have hfound : selectWhere (fun owner => record.claimToken == some owner.claimToken)
        s.owners = some owner :=
      h.tokens.selectWhere_of_mem howner (k := owner.claimToken)
        (fun owner' => by
          rw [htoken, beq_iff_eq]
          exact eq_comm) rfl
    simp only [bind_eq_bind, bind_some, hfound]
    rfl
  refine ⟨owner, howner, htoken, hdeal, htask, ?_⟩
  have hpermits := (Bool.and_eq_true_iff.mp hallows).2
  rw [hclaim, htask] at hpermits
  exact hpermits

theorem ScanInv.cancelledBy (hallows : s.allows a = true) {p : String × ℤ}
    (hp : p ∈ s.cancelledBy env a) : (∃ row ∈ s.provider.store.admitted, row.dealId = p.1)
      ∧ (p.1 ∈ s.live → ∀ row ∈ s.provider.store.admitted, row.dealId = p.1 →
        row.artifact.payload.admissionDeadline ≤ p.2) := by
  unfold ScanState.cancelledBy at hp
  split at hp
  case isFalse => cases hp
  case isTrue hscan =>
    obtain ⟨dealId, hdeal, rfl⟩ := mem_map.mp hp
    obtain ⟨e, he, hcancels⟩ := mem_filterMap.mp hdeal
    have hclaimed : a.isAdmission = false := by
      cases a <;> first | rfl | cases hscan
    cases e with
    | call call =>
      cases call with
      | cancelUnadmitted dealId' =>
        obtain rfl := some.inj hcancels
        cases arises_of_mem hclaimed he with
        | inert _ hreason =>
          cases hreason with
          | @owner deal record message evidence now ha hheld hid _ =>
            obtain ⟨owner, howner, htoken, -, htask, -⟩ := h.task_of_owns hallows (ha ▸ rfl) hheld
            obtain ⟨row, hrow, hrowId, -⟩ := h.provider.held _ hheld
            refine ⟨⟨row, hrow, hrowId.trans hid⟩, fun hlive row' hrow' hid' => ?_⟩
            exact h.late record hheld (hid ▸ hlive) owner howner htoken
              (some.inj (htask.symm.trans hscan)) row' hrow' (hid'.trans hid.symm)
          | interrupted ha =>
            rw [ha] at hscan
            cases hscan
        | ended _ _ hreceipt => cases hreceipt
      | _ => cases hcancels
    | _ => cases hcancels

theorem ScanInv.task_of_persisted (hallows : s.allows a = true)
    (hpersisted : (dealId, .bundle session) ∈ a.persisted env s.provider) :
    s.taskOf a = some (.admission dealId) := by
  obtain ⟨record, issued, rfl, howns, hid⟩ := persistLightningBundle_of_persisted hpersisted
  obtain ⟨owner, howner, -, hdeal, htask, hpermits⟩ := h.task_of_owns hallows howns.claim howns.held
  rw [htask]
  cases hcase : owner.task with
  | admission dealId' => rw [h.admission owner howner dealId' hcase, hdeal, hid]
  | scan | queue =>
    rw [hcase] at hpermits
    cases hpermits

theorem ScanInv.live_cases (hrestart : a.isRestart = false) (hlive : dealId ∈ if a.isRestart then []
      else s.live ++ (s.admittedBy env a).map (·.dealId)) :
    dealId ∈ s.live ∨ ∀ row ∈ s.provider.store.admitted, row.dealId ≠ dealId := by
  rw [hrestart] at hlive
  rcases mem_append.mp hlive with hlive | hlive
  · exact .inl hlive
  · obtain ⟨row, hrow, rfl⟩ := mem_map.mp hlive
    unfold ScanState.admittedBy at hrow
    obtain hsame | ⟨row', hfresh, -, hadmitted⟩ := h.provider.admitted_step a
    · rw [hsame, drop_length] at hrow
      cases hrow
    · rw [hadmitted, drop_left] at hrow
      rw [mem_singleton.mp hrow]
      exact .inr hfresh

end

theorem ProviderInv.mem_admitted_of_step {s : ProviderState} (h : ProviderInv env s)
    {row : StoredDeal} (hrow : row ∈ (providerStep env s a).store.admitted)
    (hknown : ∃ row₀ ∈ s.store.admitted, row₀.dealId = row.dealId) : row ∈ s.store.admitted := by
  obtain hsame | ⟨row', hfresh, -, hadmitted⟩ := h.admitted_step a
  · exact hsame ▸ hrow
  · rw [hadmitted] at hrow
    rcases mem_concat.mp hrow with hrow | hrow
    · exact hrow
    · obtain ⟨row₀, hrow₀, hid⟩ := hknown
      rw [hrow] at hid
      exact absurd hid (hfresh row₀ hrow₀)

theorem ScanInv.act (h : ScanInv env s) (hallows : s.allows a = true) (waiting : List String) :
    ScanInv env { s with
      provider := providerStep env s.provider a, waiting
      live := if a.isRestart then [] else s.live ++ (s.admittedBy env a).map (·.dealId)
      cancelled := s.cancelled ++ s.cancelledBy env a
      bundled := s.bundled ++ s.bundledBy env a } := by
  have hisClaim : a.isClaim = false := by
    simpa using (Bool.and_eq_true_iff.mp (Bool.and_eq_true_iff.mp hallows).1).1
  -- a deal that was known and is live now was live before
  have hback {dealId : String} (hknown : ∃ row ∈ s.provider.store.admitted, row.dealId = dealId)
      (hlive : dealId ∈ if a.isRestart then []
        else s.live ++ (s.admittedBy env a).map (·.dealId)) : dealId ∈ s.live := by
    cases hrestart : a.isRestart with
    | true =>
      rw [hrestart] at hlive
      cases hlive
    | false =>
      obtain ⟨row, hrow, hid⟩ := hknown
      exact (h.live_cases hrestart hlive).resolve_right fun hfresh => hfresh row hrow hid
  refine
    { provider := h.provider.step a
      ids := unique_materializations_step env a h.ids
      tokens := h.tokens
      owned := fun claim hclaim => h.owned claim
        ((arises_of_mem_log hclaim).resolve_right (not_arises_claim hisClaim claim))
      admission := h.admission
      late := fun claim hheld hlive owner howner htoken htask row hrow hid => ?_
      cancelledKnown := fun p hp => ?_
      cancelled := fun p hp hlive row hrow hid => ?_
      bundled := fun b hb => ?_
      bundles := fun session hsession => ?_ }
  · have hold := (arises_of_mem_held hheld).resolve_right (not_arises_claim hisClaim claim)
    obtain ⟨row₀, hrow₀, hid₀, -⟩ := h.provider.held _ hold
    exact h.late claim hold (hback ⟨row₀, hrow₀, hid₀⟩ hlive) owner howner htoken htask row
      (h.provider.mem_admitted_of_step hrow ⟨row₀, hrow₀, hid₀.trans hid.symm⟩) hid
  · have hknown : ∃ row ∈ s.provider.store.admitted, row.dealId = p.1 :=
      (mem_append.mp hp).elim (h.cancelledKnown p) fun hp => (h.cancelledBy hallows hp).1
    exact hknown.imp fun _ hrow => ⟨admitted_subset_step env s.provider a hrow.1, hrow.2⟩
  · rcases mem_append.mp hp with hp | hp
    · obtain ⟨row₀, hrow₀, hid₀⟩ := h.cancelledKnown p hp
      exact h.cancelled p hp (hback ⟨row₀, hrow₀, hid₀⟩ hlive) row
        (h.provider.mem_admitted_of_step hrow ⟨row₀, hrow₀, hid₀.trans hid.symm⟩) hid
    · obtain ⟨⟨row₀, hrow₀, hid₀⟩, hlate⟩ := h.cancelledBy hallows hp
      exact hlate (hback ⟨row₀, hrow₀, hid₀⟩ hlive) row
        (h.provider.mem_admitted_of_step hrow ⟨row₀, hrow₀, hid₀.trans hid.symm⟩) hid
  · rcases mem_append.mp hb with hb | hb
    · exact h.bundled b hb
    · obtain ⟨⟨dealId, resource⟩, hpersisted, hsome⟩ := mem_filterMap.mp hb
      cases resource with
      | bundle session =>
        rw [h.task_of_persisted hallows hpersisted] at hsome
        obtain rfl := some.inj hsome
        rfl
      | _ => cases hsome
  · obtain ⟨session₀, hmem₀, hid, hbundle⟩ | ⟨dealId, session₀, hpersisted, hsame⟩ :=
      bundle_of_mem_step hsession
    · obtain ⟨b, hb, hid', hbundle'⟩ := h.bundles session₀ hmem₀
      exact ⟨b, mem_append_left _ hb, hid'.trans hid, hbundle'.trans hbundle⟩
    · refine ⟨(dealId, .admission dealId, session₀),
        mem_append_right _ (mem_filterMap.mpr ⟨_, hpersisted, ?_⟩), hsame⟩
      rw [h.task_of_persisted hallows hpersisted]
      rfl

/-- One step keeps the invariant, if the scan yields at it. -/
theorem ScanInv.step (h : ScanInv env s) (a : ScanAction) (hyields : s.yields a = true) :
    ScanInv env (scanStep env s a) := by
  cases a with
  | tick secs => exact h.tick secs
  | claim task dealId claimToken =>
    dsimp only [scanStep]
    split
    case isFalse => exact h
    case isTrue hguard =>
      obtain ⟨hmay, hfresh⟩ := Bool.and_eq_true_iff.mp hguard
      exact h.claim hyields hmay (by simpa using hfresh) _
  | provider a =>
    dsimp only [scanStep]
    split
    case isFalse => exact h
    case isTrue hallows => exact h.act hallows _

end Invariant

/-- **The scan leaves live deals alone** in every run in which each scan that tries
the record of a live deal before its deadline finds it under a claim that has not
run out. -/
theorem scan_leaves_live_deals (env : ProviderEnv P) (actions : List ScanAction)
    (hok : (scanMachine env).Admissible (fun s a => s.yields a = true) (scanMachine env).init
      actions) : ((scanMachine env).run actions).Undisturbed :=
  ((scanMachine env).invariant_of_admissible (I := ScanInv env)
    (fun _ a h hyields => h.step a hyields) actions _ scanInv_init hok).undisturbed

/-! ## A scan between the two transactions of an admission -/

def scanAdmissionRun : List ScanAction :=
  [.tick 5, .provider (.recoverRuntimeStateLocal [] 5),
    .provider (sampleAdmission sampleLightningRequest)]

def scanFirstRun : List ScanAction :=
  [.claim .scan "d" "t",
    .provider (.failPendingDealMaterialization (sampleLightningRow .paymentPending 5)
      (sampleClaim sampleBundleRequest) "interrupted" "" 5)]

def admissionFirstRun : List ScanAction :=
  [.claim (.admission "d") "d" "t", .tick 2, .claim .scan "d" "u",
    .provider (.persistLightningBundle (sampleClaim sampleBundleRequest) sampleIssued)]

theorem scan_leaves_live_deals_claimed :
    let s := (scanMachine (sampleEnv ⟨[.lightning], .lndRest, [], false⟩)).run
      (scanAdmissionRun ++ admissionFirstRun)
    s.live = ["d"] ∧ s.bundled.map (fun b => (b.1, b.2.1)) = [("d", .admission "d")]
      ∧ s.Undisturbed :=
  ⟨by decide +kernel, by decide +kernel, scan_leaves_live_deals _ _ (by decide +kernel)⟩

theorem scan_fails_live_deal :
    ¬ ((scanMachine (sampleEnv ⟨[.lightning], .lndRest, [], false⟩)).run
      (scanAdmissionRun ++ scanFirstRun)).Undisturbed := by
  intro h
  have hrow : ∃ row ∈ ((scanMachine (sampleEnv ⟨[.lightning], .lndRest, [], false⟩)).run
      (scanAdmissionRun ++ scanFirstRun)).provider.store.admitted,
      row.paymentMethod = some .lightning ∧ row.dealId = "d"
        ∧ row.artifact.payload.admissionDeadline = 10 := by
    decide +kernel
  have hcancelled : ("d", 5) ∈ ((scanMachine (sampleEnv ⟨[.lightning], .lndRest, [], false⟩)).run
      (scanAdmissionRun ++ scanFirstRun)).cancelled := by
    decide +kernel
  have hlive : "d" ∈ ((scanMachine (sampleEnv ⟨[.lightning], .lndRest, [], false⟩)).run
      (scanAdmissionRun ++ scanFirstRun)).live := by
    decide +kernel
  obtain ⟨row, hmem, hmethod, hid, hdeadline⟩ := hrow
  have hlate := (h row hmem hmethod (hid ▸ hlive)).1 _ hcancelled hid.symm
  rw [hdeadline] at hlate
  exact absurd hlate (by decide)

end Froglet
