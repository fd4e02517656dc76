import Froglet.Provider.Funding
import Froglet.Provider.Outbox
import Froglet.Provider.ReceiptSoundness

/-!
# The recovery of a start

Before a provider serves, `recover_runtime_state_local` goes over what the last process
left: it gives up the interrupted materializations of Lightning deals, stages the
interrupted executions of Stripe deals, decides about every other incomplete deal that
is not settled through Lightning, and writes the decisions in one transaction.
-/

namespace Froglet

open List

variable {P : Primitives} {deal : StoredDeal} {s : ProviderState}
variable {error : String} {answer : Except String IncomingPayment} {recoveredAt finishedAt : ℤ}
variable {config : NodeConfig} {spec : ReceiptSignSpec} {deals : Deals}

/-! ## The function -/

structure RecoveryInputs where
  answers : StoredDeal → RecoveryAnswers
  evidenceHash : ReceiptFailure → String → String
  (failedAt stagedAt : String → ℤ)
  recoveredAt : ℤ

def materializationInterrupted : ReceiptFailure :=
  { code := "settlement_materialization_interrupted_during_recovery"
    message := "settlement materialization did not complete before node restart" }

def completionDeadlineElapsed : ReceiptFailure :=
  { code := "completion_deadline_elapsed_during_recovery"
    message := "deal completion_deadline elapsed while recovering from node restart" }

def NodeConfig.cancelsRemotely (config : NodeConfig) : Bool :=
  config.paymentBackends.contains .lightning && config.lightningMode == .lndRest

def ProviderState.interruptedStripeDeals (s : ProviderState) : Deals :=
  s.store.deals.filter fun deal => deal.paymentMethod == some .stripe && deal.status == .running
    && !s.outbox.any (·.dealId == deal.dealId)

def ProviderState.undecidedDeals (s : ProviderState) : Deals :=
  s.store.deals.filter fun deal => !deal.status.isTerminal
    && deal.paymentMethod != some .lightning && !s.outbox.any (·.dealId == deal.dealId)

theorem mem_undecidedDeals :
    deal ∈ s.undecidedDeals ↔ deal ∈ s.store.deals
      ∧ (deal.status.isTerminal = false ∧ deal.paymentMethod ≠ some .lightning)
      ∧ s.outbox.any (·.dealId == deal.dealId) = false := by
  unfold ProviderState.undecidedDeals
  rw [mem_filter]
  simp only [Bool.and_eq_true, Bool.not_eq_true', bne_iff_ne]

section Function

variable (env : ProviderEnv P) (inputs : RecoveryInputs)

def ProviderState.readDeals (s : ProviderState) (deals : Deals) : ProviderState :=
  (providerMachine env).runFrom s (deals.map (.readDeal ·.dealId))

def recoverOrphanedMaterialization (s : ProviderState) (record : MaterializationRecord) :
    Except String ProviderState :=
  match getDeal s.store.deals record.dealId with
  | none => .ok (providerStep env s (.deleteOrphanedMaterialization record.dealId))
  | some deal =>
    match record.request with
    -- the rails behind these are asked once the node serves
    | .stripePayment .. | .prepaidInvoice .. => .ok s
    | .lightningInvoiceBundle _ =>
      if env.config.cancelsRemotely && deal.paymentMethod == some .lightning then .ok s
      else do
        let evidenceHash := inputs.evidenceHash materializationInterrupted deal.dealId
        let now := inputs.failedAt deal.dealId
        rejectIf (s.statusIs deal.dealId deal.status
            && (s.getMaterialization deal.dealId).any (·.claimToken == none)
            && !(cancelUnadmittedDeal deal.dealId materializationInterrupted.message evidenceHash
              now s.store.deals).1)
          "deal state changed despite the immediate materialization transaction"
        return providerStep env (s.readDeals env [deal])
          (.failInterruptedMaterialization deal materializationInterrupted.message evidenceHash now)

def recoverOrphanedDealMaterializationsLocal (s : ProviderState) : Except String ProviderState :=
  s.materializations.foldlM (recoverOrphanedMaterialization env inputs) s

def stageInterruptedStripeDeal (s : ProviderState) (deal : StoredDeal) :
    Except String ProviderState := do
  let evidenceHash := inputs.evidenceHash executionInterrupted deal.dealId
  let now := inputs.stagedAt deal.dealId
  rejectIf (!(stageDealSettlementPendingFailure deal.dealId executionInterrupted.message
      evidenceHash now s.store.deals).1)
    "Stripe deal could not be staged as settlement_pending"
  rejectIf (s.outbox.any (·.dealId == deal.dealId))
    "UNIQUE constraint failed: stripe_settlement_outbox.deal_id"
  return providerStep env s (.stageInterruptedStripeDeal deal evidenceHash now)

def stageInterruptedStripeDealsForRecovery (s : ProviderState) : Except String ProviderState :=
  s.interruptedStripeDeals.foldlM (stageInterruptedStripeDeal env inputs)
    (s.readDeals env s.interruptedStripeDeals)

def DealRecoveryDecision.check (s : ProviderState) (recoveredAt : ℤ) :
    DealRecoveryDecision → Except String Unit
  | .requeue resume =>
    let dealId := resume.dealId
    rejectIf (s.statusIs dealId resume.previousStatus && resume.resetRunningStatus
        && !(resetRunningDealToAccepted dealId recoveredAt s.store.deals).1)
      s!"deal {dealId} could not be returned to accepted during recovery"
  | .fail failure =>
    let dealId := failure.deal.dealId
    rejectIf (s.statusIs dealId failure.expectedStatus.status
        && !(compareAndSet dealId failure.expectedStatus.status id s.store.deals).1)
      s!"deal {dealId} changed state during recovery finalization"

def RecoveryInputs.item (deal : StoredDeal) : RecoveryItem :=
  { deal, answers := inputs.answers deal
    failureEvidenceHash := inputs.evidenceHash completionDeadlineElapsed deal.dealId }

def recoverRuntimeStateLocal (s : ProviderState) : Except String ProviderState := do
  let s ← recoverOrphanedDealMaterializationsLocal env inputs s
  let s ← stageInterruptedStripeDealsForRecovery env inputs s
  let deals := s.undecidedDeals
  let decisions ← deals.mapM fun deal =>
    classifyDealRecovery env deal (inputs.answers deal) inputs.recoveredAt
  let _ ← decisions.mapM (·.check s inputs.recoveredAt)
  return providerStep env (s.readDeals env deals)
    (.recoverRuntimeStateLocal (deals.map inputs.item) inputs.recoveredAt)

end Function

/-! ## When there is no error -/

def StoredDeal.recoverable (inputs : RecoveryInputs) (deal : StoredDeal) : Bool :=
  inputs.recoveredAt ≤ deal.artifact.payload.completionDeadline
    || match deal.paymentMethod with
      | none => deal.quote.payload.settlementTerms.method == settlementMethodNone
      | some .stripe => deal.paymentTokenHash.isSome
      | some .lightningPrepaid => deal.paymentTokenHash.isSome
        && match (inputs.answers deal).payment with
          | .ok _ => true
          | .error error => !decide ("not yet paid".toList <:+: error.toList)
      | some .lightning => true

def ProviderState.OrphansPending (config : NodeConfig) (s : ProviderState) : Prop :=
  config.cancelsRemotely = true ∨ ∀ record ∈ s.materializations, ∀ deal ∈ s.store.deals,
    deal.dealId = record.dealId → deal.paymentMethod = some .lightning →
      deal.isUnadmitted deal.dealId = true

structure ProviderState.Recoverable (env : ProviderEnv P)
    (inputs : RecoveryInputs) (s : ProviderState) : Prop where
  orphans : s.OrphansPending env.config
  deals : ∀ deal ∈ s.undecidedDeals, deal.recoverable inputs = true
  signs : ∀ deal ∈ s.store.deals, ∀ spec, ReceiptFits env.signer deal inputs.recoveredAt spec →
    ∃ r, signDealReceipt env.signer deal inputs.recoveredAt spec = .ok r

def StoredDeal.Recovered (P : Primitives) (deal : StoredDeal) (s : ProviderState) : Prop :=
  ∃ row ∈ s.store.deals, row.identity = deal.identity ∧ (row.status.isTerminal = false
    ∨ ∃ r, row.receipt = some r
      ∧ (validateQuoteDealReceipt P deal.quote deal.artifact r none).valid = true)

/-! ### A deal is admitted before its deadline -/

def StoredDeal.InTime (deal : StoredDeal) : Prop :=
  deal.createdAt ≤ deal.artifact.payload.completionDeadline

theorem StoredDeal.InTime.of_identity {row row' : StoredDeal} (h : row.InTime)
    (hid : row'.identity = row.identity) : row'.InTime := by
  have hartifact := artifact_of_identity hid
  have hcreated : row'.createdAt = row.createdAt := congrArg (·.2.2.2.2.2.2.2) hid
  unfold StoredDeal.InTime
  rw [hartifact, hcreated]
  exact h

section InTime

variable {env : ProviderEnv P}

theorem inTime_step (hinv : ProviderInv env s) (h : ∀ row ∈ s.store.admitted, row.InTime)
    (a : ProviderAction) : ∀ row ∈ (providerStep env s a).store.admitted, row.InTime := by
  have hrest {e : Effect} {s' : ProviderState} (he : e.Sound s'.store.admitted)
      (h' : ∀ row ∈ s'.store.admitted, row.InTime) :
      ∀ row ∈ (e.apply P s').store.admitted, row.InTime := by
    rw [admitted_apply he]
    exact h'
  refine (hinv.step_induction (I := fun s' => ∀ row ∈ s'.store.admitted, row.InTime) h
    (fun e _ he s' _ hsame h' => hrest (hsame ▸ hinv.sound he) h') (fun hadmits => ?_)
    (fun _ r _ s' _ _ h' => hrest (sound_call rfl rfl) h')
    (fun _ _ _ _ _ _ h' => h')).2
  obtain ⟨otherChecks, permit, laterFails, evidence, -, hcheck, -⟩ := hadmits.checked
  intro row hrow
  have hrow : row ∈ s.store.admitted ++ [_] := hadmits.inserts.admitted ▸ hrow
  rcases mem_concat.mp hrow with hrow | hrow
  · exact h row hrow
  · rw [hrow]
    exact deadline_of_checkDealRequest hcheck

structure Starting (env : ProviderEnv P) (s : ProviderState) : Prop where
  inv : ProviderInv env s
  outbox : OutboxInv s
  inTime : ∀ row ∈ s.store.admitted, row.InTime
  phase : s.phase = .starting

theorem starting_restart (actions : List ProviderAction) (decodes : StoredDeal → Bool) :
    Starting env ((providerMachine env).run (actions ++ [.restart decodes])) := by
  have hall := (providerMachine env).invariant
    (I := fun s => ProviderInv env s ∧ OutboxInv s ∧ ∀ row ∈ s.store.admitted, row.InTime)
    ⟨providerInv_init, outboxInv_init, forall_mem_nil _⟩
    (fun s a h => ⟨h.1.step a, h.2.1.step h.1 a, inTime_step h.1 h.2.2 a⟩)
    (actions ++ [.restart decodes])
  refine ⟨hall.1, hall.2.1, hall.2.2, ?_⟩
  rw [Machine.run_append]
  rfl

theorem Starting.step (h : Starting env s) {a : ProviderAction}
    (hphase : (providerStep env s a).phase = .starting) : Starting env (providerStep env s a) :=
  ⟨h.inv.step a, h.outbox.step h.inv a, inTime_step h.inv h.inTime a, hphase⟩

theorem Starting.inTime_of_mem (h : Starting env s) (hdeal : deal ∈ s.store.deals) :
    deal.InTime := by
  obtain ⟨row₀, hrow₀, hident⟩ := (h.inv.rows deal hdeal).known
  exact (h.inTime row₀ hrow₀).of_identity hident.symm

end InTime

/-! ### Every decision is reached -/

section Decisions

variable {env : ProviderEnv P} {inputs : RecoveryInputs}

theorem not_unpaid_of_validatePrepaidPaymentProof {paymentHash : String} {amountSat : ℕ}
    {payment : IncomingPayment}
    (h : validatePrepaidPaymentProof P paymentHash amountSat payment = .error error) :
    ¬ "not yet paid".toList <:+: error.toList := by
  have hdigits (n : ℕ) : 'y' ∉ (toString n).toList := by
    intro hy
    have hmem : 'y' ∈ Nat.toDigits 10 n := by simpa [Nat.toString_eq_repr] using hy
    exact absurd (Nat.isDigit_of_mem_toDigits (by decide) (by decide) hmem) (by decide)
  unfold validatePrepaidPaymentProof at h
  rw [bind_eq_error, rejectIf_eq_error] at h
  obtain ⟨-, rfl⟩ | ⟨-, -, h⟩ := h
  · decide +kernel
  rw [bind_eq_error, rejectIf_eq_error] at h
  obtain ⟨-, rfl⟩ | ⟨-, -, h⟩ := h
  · intro hinfix
    have hy := hinfix.subset (show 'y' ∈ "not yet paid".toList by decide)
    simp only [String.toList_append, mem_append, hdigits] at hy
    revert hy
    decide +kernel
  split at h
  case h_1 =>
    rw [← Except.error.inj h]
    decide +kernel
  case h_2 =>
    rw [bind_eq_error, rejectIf_eq_error] at h
    obtain ⟨-, rfl⟩ | ⟨-, -, h⟩ := h
    · decide +kernel
    split at h
    case h_1 =>
      rw [← Except.error.inj h]
      decide +kernel
    case h_2 =>
      rw [bind_eq_error, rejectIf_eq_error, rejectIf_eq_error] at h
      obtain ⟨-, rfl⟩ | ⟨-, -, -, rfl⟩ := h <;> decide +kernel

theorem not_unpaid_of_prepaidSettlementForDeal
    (h : prepaidSettlementForDeal P deal answer = .error error)
    (hanswer : ∀ error, answer = .error error → ¬ "not yet paid".toList <:+: error.toList) :
    ¬ "not yet paid".toList <:+: error.toList := by
  unfold prepaidSettlementForDeal at h
  split at h
  case h_1 =>
    rw [← Except.error.inj h]
    decide +kernel
  case h_2 =>
    rw [← Except.error.inj h]
    decide +kernel
  case h_3 =>
    rw [bind_eq_error] at h
    obtain h | ⟨payment, -, h⟩ := h
    · exact hanswer error h
    rw [bind_eq_error] at h
    obtain h | ⟨-, -, h⟩ := h
    · exact not_unpaid_of_validatePrepaidPaymentProof h
    rw [bind_eq_error, rejectIf_eq_error] at h
    obtain ⟨-, rfl⟩ | ⟨-, -, h⟩ := h
    · decide +kernel
    · exact nomatch h

theorem recoveryReceiptState_open (hopen : deal.status.isTerminal = false)
    (hstaged : deal.status.isStaged = false) :
    ∃ expected dealState executionState,
      recoveryReceiptState deal = .ok (expected, dealState, executionState, none)
        ∧ expected.status = deal.status ∧ statesAllowed dealState executionState = true
        ∧ dealState ≠ "succeeded" ∧ executionState ≠ "succeeded" := by
  unfold recoveryReceiptState
  cases hstatus : deal.status with
  | accepted => exact ⟨_, _, _, rfl, rfl, by decide, by decide, by decide⟩
  | paymentPending => exact ⟨_, _, _, rfl, rfl, by decide, by decide, by decide⟩
  | running => exact ⟨_, _, _, rfl, rfl, by decide, by decide, by decide⟩
  | resultReady | settlementPending =>
    rw [hstatus] at hstaged
    cases hstaged
  | succeeded | failed | rejected =>
    rw [hstatus] at hopen
    cases hopen

def DealRecoveryDecision.Applies (decision : DealRecoveryDecision) (deal : StoredDeal)
    (recoveredAt : ℤ) : Prop :=
  ∀ s : ProviderState, deal ∈ s.store.deals → decision.check s recoveredAt = .ok ()

theorem applies_requeue {resume : RecoveredDealResume} (h : resume.Fits deal recoveredAt) :
    (DealRecoveryDecision.requeue resume).Applies deal recoveredAt := by
  intro s hdeal
  refine rejectIf_eq_ok.mpr ?_
  by_cases hreset : resume.resetRunningStatus = true
  · have hcas : (resetRunningDealToAccepted resume.dealId recoveredAt s.store.deals).1 = true := by
      refine any_eq_true.mpr ⟨deal, hdeal, ?_⟩
      rw [h.dealId, (h.reset hreset).1]
      simp
    rw [hcas, Bool.not_true, Bool.and_false]
  · rw [Bool.not_eq_true] at hreset
    rw [hreset, Bool.and_false, Bool.false_and]

theorem applies_fail {failure : RecoveredDealFailure} (hdeal : failure.deal = deal)
    (hstatus : failure.expectedStatus.status = deal.status) :
    (DealRecoveryDecision.fail failure).Applies deal recoveredAt := by
  intro s hmem
  refine rejectIf_eq_ok.mpr ?_
  have hcas : (compareAndSet failure.deal.dealId failure.expectedStatus.status id
      s.store.deals).1 = true := by
    refine any_eq_true.mpr ⟨deal, hmem, ?_⟩
    rw [hdeal, hstatus]
    simp
  rw [hcas, Bool.not_true, Bool.and_false]

theorem buildRecoveredDealFailure_ok (refs : RecoveredDealSettlementRefs)
    (hsigns : ∀ spec, ReceiptFits env.signer deal inputs.recoveredAt spec →
      ∃ r, signDealReceipt env.signer deal inputs.recoveredAt spec = .ok r)
    (hchecked : deal.Checked env.signer.toNodeIdentity) (hopen : deal.status.isTerminal = false)
    (hstaged : deal.status.isStaged = false) (hclock : deal.createdAt ≤ inputs.recoveredAt)
    (hsettlement : ∀ spec : ReceiptSignSpec, spec.dealState ≠ "succeeded" →
      spec.bundle = refs.bundle → spec.stripeSettlement = refs.stripeSettlement →
      spec.prepaidSettlement = refs.prepaidSettlement →
        SettlementFits env.signer deal inputs.recoveredAt spec) (code message : String) :
    ∃ decision, (buildRecoveredDealFailure env deal inputs.recoveredAt refs code message).map
        DealRecoveryDecision.fail = .ok decision ∧ decision.Applies deal inputs.recoveredAt := by
  obtain ⟨expected, dealState, executionState, hstate, hexpected, hallowed, hdealState, hexec⟩ :=
    recoveryReceiptState_open hopen hstaged
  unfold buildRecoveredDealFailure
  rw [hstate]
  have hfits : ReceiptFits env.signer deal inputs.recoveredAt
      { dealState, executionState, bundle := refs.bundle
        stripeSettlement := refs.stripeSettlement, prepaidSettlement := refs.prepaidSettlement
        resultHash := none, resultFormat := none, resultEnvelopeHash := none
        failure := some { code, message } } := by
    refine ⟨fun _ => hclock, ?_, ?_, hallowed, hsettlement _ hdealState rfl rfl rfl⟩
    · exact (beq_eq_false_iff_ne.mpr hexec).symm
    · exact (beq_eq_false_iff_ne.mpr hexec).symm
  obtain ⟨r, hsign⟩ := hsigns _ hfits
  have hvalid := (valid_signDealReceipt hchecked hsign).mpr hfits
  refine ⟨.fail { deal, expectedStatus := expected, bundle := refs.bundle, errorMessage := message
                  receipt := r }, map_eq_ok.mpr ⟨_, ?_, rfl⟩, applies_fail rfl hexpected⟩
  show (signDealReceipt env.signer deal inputs.recoveredAt _ >>= _) = _
  rw [hsign]
  show (rejectIf _ _ >>= _) = _
  rw [hvalid]
  rfl

theorem applies_held (deal : StoredDeal) (recoveredAt : ℤ) : (DealRecoveryDecision.requeue
      { dealId := deal.dealId, previousStatus := deal.status, resetRunningStatus := false
        spawnAfterRecovery := false }).Applies deal recoveredAt :=
  applies_requeue ⟨rfl, rfl, fun h => absurd h Bool.false_ne_true⟩

theorem settlementFits_released {signer : ReceiptSigner P}
    (hadmitted : deal.Admitted signer.toNodeIdentity config)
    (hamount : deal.paymentMethod ≠ none → deal.paymentAmountSats = some deal.totalSats)
    (hmethod : deal.paymentMethod = some .stripe) (htoken : deal.paymentTokenHash.isSome = true)
    {released : Except String Unit}
    (h : recoveredStripeReleaseSettlement deal released = .ok spec.stripeSettlement)
    (hstate : spec.dealState ≠ "succeeded") (hprepaid : spec.prepaidSettlement = none) :
    SettlementFits signer deal finishedAt spec := by
  obtain ⟨paymentIntentId, hsome⟩ := Option.isSome_iff_exists.mp htoken
  unfold recoveredStripeReleaseSettlement at h
  rw [hsome] at h
  obtain ⟨-, h⟩ := check_eq_ok.mp h
  have hstripe := (pure_eq_ok.mp h).symm
  have hquote := hadmitted.method hmethod
  obtain ⟨-, hsuccess⟩ := terms_stripe hadmitted.checked.terms hquote
  refine (settlementFits_stripe hadmitted.checked hprepaid hstripe).mpr
    ⟨hquote, ?_, fun h => absurd h hstate⟩
  rw [hamount (hmethod ▸ Option.some_ne_none _), hadmitted.baseFee hsuccess]
  refine Nat.min_eq_left (le_trans ?_ i64Max_le_u64Max)
  rw [Option.getD_some, Nat.mul_comm]
  exact hadmitted.bounded

theorem settlementFits_recovered {signer : ReceiptSigner P}
    (hadmitted : deal.Admitted signer.toNodeIdentity config)
    (hamount : deal.paymentMethod ≠ none → deal.paymentAmountSats = some deal.totalSats)
    (hmethod : deal.paymentMethod = some .lightningPrepaid)
    (htoken : deal.paymentTokenHash.isSome = true)
    (hanswer : ∀ error, answer = .error error → ¬ "not yet paid".toList <:+: error.toList)
    (h : recoveredPrepaidSettlement P deal answer = .ok spec.prepaidSettlement)
    (hstripe : spec.stripeSettlement = none) (hbundle : spec.bundle = none) :
    SettlementFits signer deal finishedAt spec := by
  obtain ⟨paymentHash, hsome⟩ := Option.isSome_iff_exists.mp htoken
  unfold recoveredPrepaidSettlement at h
  rw [hsome] at h
  dsimp only at h
  split at h
  case h_1 settlement hsettled =>
    have hexecuted : executionSettlement P deal answer = .ok spec.prepaidSettlement := by
      unfold executionSettlement
      rw [hmethod, if_pos (by decide), hsettled]
      exact h
    refine settlementFits_execution hadmitted hamount (.inr hmethod) (fun hnone => ?_) hexecuted
      hstripe hbundle
    cases hmethod.symm.trans hnone
  case h_2 error hfailed =>
    rw [if_neg (not_unpaid_of_prepaidSettlementForDeal hfailed hanswer)] at h
    exact nomatch h

/-- Recovery decides about every deal that it can end, and the decision can be
written. -/
theorem classifyDealRecovery_applies (h : Starting env s)
    (hsigns : ∀ spec, ReceiptFits env.signer deal inputs.recoveredAt spec →
      ∃ r, signDealReceipt env.signer deal inputs.recoveredAt spec = .ok r)
    (hmem : deal ∈ s.store.deals) (hopen : deal.status.isTerminal = false)
    (hmethod : deal.paymentMethod ≠ some .lightning)
    (hstaged : deal.status.isStaged = false) (hrecoverable : deal.recoverable inputs = true) :
    ∃ decision, classifyDealRecovery env deal (inputs.answers deal) inputs.recoveredAt
        = .ok decision ∧ decision.Applies deal inputs.recoveredAt := by
  have hsnapshot := h.inv.rows deal hmem
  have hadmitted := h.inv.admitted_of_snapshot hsnapshot
  unfold classifyDealRecovery
  rw [if_neg (fun hbeq => hmethod (beq_iff_eq.mp hbeq))]
  by_cases hlate : deal.artifact.payload.completionDeadline < inputs.recoveredAt
  · have hclock : deal.createdAt ≤ inputs.recoveredAt := (h.inTime_of_mem hmem).trans hlate.le
    have hbuild (refs : RecoveredDealSettlementRefs) :=
      buildRecoveredDealFailure_ok refs hsigns hadmitted.checked hopen hstaged hclock
    have hheld := applies_held deal inputs.recoveredAt
    unfold StoredDeal.recoverable at hrecoverable
    rw [decide_eq_false (not_le.mpr hlate), Bool.false_or] at hrecoverable
    unfold requeueDeal recoverExpired
    rw [if_pos hlate]
    dsimp only
    cases hrail : deal.paymentMethod with
    | none =>
      rw [hrail] at hrecoverable
      refine hbuild _ (fun spec _ hbundle hstripe hprepaid => ?_) _ _
      exact (settlementFits_none hadmitted.checked hprepaid hstripe hbundle).mpr
        (beq_iff_eq.mp hrecoverable)
    | some rail =>
      cases rail with
      | lightning => exact absurd hrail hmethod
      | stripe =>
        rw [hrail] at hrecoverable
        dsimp only
        cases hreleased : recoveredStripeReleaseSettlement deal
            (inputs.answers deal).stripeReleased with
        | error => exact ⟨_, rfl, hheld⟩
        | ok released =>
          refine hbuild _ (fun spec hstate _ hstripe hprepaid => ?_) _ _
          exact settlementFits_released hadmitted hsnapshot.amount hrail hrecoverable
            (hreleased.trans (congrArg _ hstripe.symm)) hstate hprepaid
      | lightningPrepaid =>
        rw [hrail] at hrecoverable
        dsimp only
        cases hpayment : recoveredPrepaidSettlement P deal (inputs.answers deal).payment with
        | error => exact ⟨_, rfl, hheld⟩
        | ok prepaid =>
          obtain ⟨htoken, hanswer⟩ := Bool.and_eq_true_iff.mp hrecoverable
          refine hbuild _ (fun spec hstate hbundle hstripe hprepaid => ?_) _ _
          refine settlementFits_recovered hadmitted hsnapshot.amount hrail htoken
            (fun error herror => ?_) (hpayment.trans (congrArg _ hprepaid.symm)) hstripe hbundle
          rw [herror] at hanswer
          exact of_decide_eq_false (Bool.not_inj hanswer)
  · have hok : requeueDeal env deal none (inputs.answers deal) inputs.recoveredAt = .ok _ :=
      if_neg hlate
    obtain ⟨resume, heq, hfits⟩ | ⟨failure, heq, -⟩ := requeueDeal_ok hok
    · rw [hok, heq]
      exact ⟨_, rfl, applies_requeue hfits⟩
    · exact nomatch heq

end Decisions

/-! ### What is left open stays in reach -/

def Effect.Settles (P : Primitives) (deal : StoredDeal) : Effect → Prop
  | call c => ∀ old new, c.target = some (deal.dealId, old, new) → new.isTerminal = true →
      ∃ r, c.receipt = some r
        ∧ (validateQuoteDealReceipt P deal.quote deal.artifact r none).valid = true
  | restart _ => False
  | _ => True

section Kept

variable {env : ProviderEnv P} {s' : ProviderState}

theorem StoredDeal.Recovered.call (h : deal.Recovered P s) {call : DealCall}
    (hcall : (Effect.call call).Settles P deal) :
    deal.Recovered P (Effect.apply P s (.call call)) := by
  obtain ⟨row, hrow, hid, hend⟩ := h
  rcases call.apply_mem (P := P) hrow with hsame | ⟨row', hrow', hstep⟩
  · exact ⟨row, hsame, hid, hend⟩
  · refine ⟨row', hrow', hstep.identity.trans hid, ?_⟩
    have htarget := hstep.target
    rw [dealId_of_identity hid] at htarget
    cases hterm : row'.status.isTerminal with
    | false => exact .inl rfl
    | true =>
      obtain ⟨r, hr, hvalid⟩ := hcall _ _ htarget hterm
      exact .inr ⟨r, (hstep.receipt r hr).1, hvalid⟩

theorem StoredDeal.Recovered.apply (h : deal.Recovered P s) {e : Effect} (he : e.Settles P deal) :
    deal.Recovered P (e.apply P s) := by
  cases e with
  | call call => exact h.call he
  | restart decodes => exact absurd he id
  | _ => exact h

theorem StoredDeal.Recovered.effects (h : deal.Recovered P s) {effects : List Effect}
    (hall : ∀ e ∈ effects, e.Settles P deal) :
    deal.Recovered P (effects.foldl (Effect.apply P) s) :=
  foldlRecOn effects (Effect.apply P) h fun _ hs e he => hs.apply (hall e he)

structure Kept (P : Primitives) (s s' : ProviderState) : Prop where
  admitted : s'.store.admitted = s.store.admitted
  back : ∀ row ∈ s'.store.deals, row.paymentMethod ≠ some .lightning →
    s'.outbox.any (·.dealId == row.dealId) = false →
      row ∈ s.store.deals ∧ s.outbox.any (·.dealId == row.dealId) = false
  forth : ∀ deal : StoredDeal, deal.paymentMethod ≠ some .lightning → deal.Recovered P s →
    deal.Recovered P s'

theorem Kept.trans {s'' : ProviderState} (h : Kept P s s') (h' : Kept P s' s'') : Kept P s s'' where
  admitted := h'.admitted.trans h.admitted
  back row hrow hmethod hfree := by
    obtain ⟨hmem, hfree'⟩ := h'.back row hrow hmethod hfree
    exact h.back row hmem hmethod hfree'
  forth deal hmethod hdeal := h'.forth deal hmethod (h.forth deal hmethod hdeal)

theorem Kept.of_eq (hstore : s'.store = s.store) (houtbox : s'.outbox = s.outbox) :
    Kept P s s' where
  admitted := by rw [hstore]
  back row hrow _ hfree := ⟨hstore ▸ hrow, houtbox ▸ hfree⟩
  forth deal _ hdeal := by
    unfold StoredDeal.Recovered at hdeal ⊢
    rw [hstore]
    exact hdeal

theorem Kept.lightning {call : DealCall} (hnew : call.isInsert = false)
    (hcall : ∀ row ∈ s.store.deals, ∀ old new, call.target = some (row.dealId, old, new) →
      row.paymentMethod = some .lightning) : Kept P s (Effect.apply P s (.call call)) where
  admitted := admitted_call hnew s.store
  back row' hrow' hmethod hfree := by
    obtain hrow | ⟨row, hrow, hstep⟩ := mem_apply_of_ne_insert hnew hrow'
    · exact ⟨hrow, hfree⟩
    · have hsame := paymentMethod_of_identity hstep.identity
      exact absurd (hsame.trans (hcall row hrow _ _ hstep.target)) hmethod
  forth deal hmethod hdeal := by
    refine hdeal.call fun old new htarget _ => ?_
    obtain ⟨row, hrow, hid, -⟩ := hdeal
    rw [← dealId_of_identity hid] at htarget
    rw [← paymentMethod_of_identity hid] at hmethod
    exact absurd (hcall row hrow old new htarget) hmethod

theorem Kept.staged {call : DealCall} {record : StripeSettlementOutboxRecord} {old new : DealStatus}
    (htarget : call.target = some (record.dealId, old, new)) (hopen : new.isTerminal = false) :
    Kept P s (Effect.apply P (Effect.apply P s (.call call)) (.insertOutbox record)) where
  admitted := admitted_call (by cases call <;> first | rfl | cases htarget) s.store
  back row' hrow' _ hfree := by
    have hfree : s.outbox.any (·.dealId == row'.dealId) = false ∧ record.dealId ≠ row'.dealId := by
      simpa [Effect.apply] using hfree
    obtain hrow | ⟨row, -, hstep⟩ | ⟨new', rfl, -⟩ := DealCall.mem_apply hrow'
    · exact ⟨hrow, hfree.1⟩
    · have hid := (Prod.mk.inj (Option.some.inj (htarget.symm.trans hstep.target))).1
      exact absurd (hid.trans hstep.dealId_eq.symm) hfree.2
    · cases htarget
  forth deal _ hdeal := by
    refine (hdeal.call fun old' new' htarget' hterm => ?_).apply (e := .insertOutbox record) trivial
    obtain ⟨-, -, rfl⟩ : record.dealId = deal.dealId ∧ old = old' ∧ new = new' := by
      simpa using htarget.symm.trans htarget'
    cases hopen.symm.trans hterm

end Kept

/-! ### Step by step -/

section Phases

variable {env : ProviderEnv P} {s' : ProviderState} {inputs : RecoveryInputs}

theorem readDeals_eq (env : ProviderEnv P) (hsub : deals ⊆ s.store.deals)
    (hids : Table.Unique (some ·.dealId) s.store.deals) :
    s.readDeals env deals
      = { s with held := s.held ++ deals.map .deal, log := s.log ++ deals.map .deal } := by
  unfold ProviderState.readDeals
  induction deals generalizing s with
  | nil => simp
  | cons deal deals ih =>
    obtain ⟨hdeal, hrest⟩ := cons_subset.mp hsub
    have hread : providerStep env s (.readDeal deal.dealId)
        = { s with held := s.held ++ [.deal deal], log := s.log ++ [.deal deal] } := by
      dsimp only [providerStep, ProviderAction.effects]
      rw [getDeal_of_mem hids hdeal]
      rfl
    rw [map_cons, Machine.runFrom_cons]
    show (providerMachine env).runFrom (providerStep env s _) _ = _
    rw [hread]
    refine (ih ?_ ?_).trans ?_
    · exact hrest
    · exact hids
    · simp

theorem Starting.readDeals (h : Starting env s) (hsub : deals ⊆ s.store.deals) :
    Starting env (s.readDeals env deals) := by
  have hread := readDeals_eq env hsub h.inv.admission.ids
  have hall : ProviderInv env (s.readDeals env deals) := by
    unfold ProviderState.readDeals
    exact foldlRecOn _ _ h.inv fun _ hs a _ => hs.step a
  refine ⟨hall, ?_, ?_, ?_⟩
  all_goals rw [hread]
  · exact h.outbox
  · exact h.inTime
  · exact h.phase

theorem failInterrupted_kept (h : Starting env s) (horphans : s.OrphansPending env.config)
    (hdeal : deal ∈ s.store.deals)
    (hmethod : deal.paymentMethod = some .lightning) {message evidence : String} {now : ℤ} :
    let s' := providerStep env s (.failInterruptedMaterialization deal message evidence now)
    Starting env s' ∧ Kept P s s' ∧ s'.OrphansPending env.config := by
  have hmine (row : StoredDeal) (hrow : row ∈ s.store.deals) (hid : row.dealId = deal.dealId) :
      row.paymentMethod = some .lightning := by
    rw [h.inv.admission.ids.eq_of_mem hrow hdeal (congrArg some hid) rfl]
    exact hmethod
  dsimp only
  have heffects : ∃ effects, providerStep env s (.failInterruptedMaterialization deal message
        evidence now) = effects.foldl (Effect.apply P) s
      ∧ (effects = [] ∨ effects = [.call (.cancelUnadmitted deal.dealId message evidence now),
        .deleteMaterialization deal.dealId]) := by
    refine ⟨_, rfl, ?_⟩
    dsimp only [ProviderAction.effects, ProviderState.during, failPendingDealMaterialization]
    split
    · split
      · exact .inr rfl
      · exact .inl rfl
    · exact .inl rfl
  obtain ⟨effects, hstep, rfl | rfl⟩ := heffects
  · rw [hstep]
    exact ⟨h, .of_eq rfl rfl, horphans⟩
  · refine ⟨h.step (hstep ▸ h.phase), ?_, ?_⟩
    · rw [hstep]
      have hcancel : Kept P s (Effect.apply P s
          (.call (.cancelUnadmitted deal.dealId message evidence now))) := by
        refine .lightning rfl fun row hrow old new htarget => ?_
        exact hmine row hrow (Prod.mk.inj (Option.some.inj htarget)).1.symm
      exact hcancel.trans (.of_eq rfl rfl)
    · rw [hstep]
      refine horphans.imp_right fun hall record hrecord row' hrow' hid hlightning => ?_
      obtain ⟨hrecord, hother⟩ := Table.mem_deleteWhere.mp hrecord
      obtain hrow | ⟨row, hrow, hrs⟩ :=
        mem_apply_of_ne_insert rfl hrow'
      · exact hall record hrecord row' hrow hid hlightning
      · have hsame := (Prod.mk.inj (Option.some.inj hrs.target)).1
        rw [← hid, hrs.dealId_eq] at hother
        exact absurd hsame.symm (by simpa using hother)

/-- One record of the first step. -/
theorem recoverOrphanedMaterialization_ok (inputs : RecoveryInputs) (h : Starting env s)
    (horphans : s.OrphansPending env.config) {record : MaterializationRecord}
    (hfits : record.Fits s.store.admitted) :
    ∃ s', recoverOrphanedMaterialization env inputs s record = .ok s'
      ∧ Starting env s' ∧ Kept P s s' ∧ s'.OrphansPending env.config := by
  unfold recoverOrphanedMaterialization
  cases hdeal : getDeal s.store.deals record.dealId with
  | none =>
    have hstep : providerStep env s (.deleteOrphanedMaterialization record.dealId)
        = Effect.apply P s (.deleteMaterialization record.dealId) := by
      dsimp only [providerStep, ProviderAction.effects]
      rw [during_eq h.phase (forall_mem_nil _), hdeal]
      rfl
    refine ⟨_, rfl, h.step (hstep ▸ h.phase), ?_, ?_⟩
    · rw [hstep]
      exact .of_eq rfl rfl
    · rw [hstep]
      exact horphans.imp_right fun hall record' hrecord' =>
        hall record' (Table.mem_deleteWhere.mp hrecord').1
  | some deal =>
    obtain ⟨hmem, hid⟩ := mem_of_getDeal hdeal
    have hself : ∃ s', (.ok s : Except String ProviderState) = .ok s' ∧ Starting env s'
        ∧ Kept P s s' ∧ s'.OrphansPending env.config :=
      ⟨s, rfl, h, .of_eq rfl rfl, horphans⟩
    obtain ⟨row, hrow, hrowId, hsuits, -⟩ := hfits
    cases hrequest : record.request with
    | stripePayment | prepaidInvoice => exact hself
    | lightningInvoiceBundle request =>
      -- the request of the record is for the rail of the deal
      have hmethod : deal.paymentMethod = some .lightning := by
        rw [hrequest] at hsuits
        have hident := h.inv.known_of_id (h.inv.rows deal hmem) hrow (hrowId.trans hid.symm)
        rw [← paymentMethod_of_identity hident]
        exact hsuits.1
      dsimp only
      split
      case isTrue => exact hself
      case isFalse hlocal =>
        have hpending := horphans.resolve_left fun hremote => hlocal (by simp [hremote, hmethod])
        have hsub : [deal] ⊆ s.store.deals := cons_subset.mpr ⟨hmem, nil_subset _⟩
        have hread := readDeals_eq env hsub h.inv.admission.ids
        have hguard : (s.statusIs deal.dealId deal.status
            && (s.getMaterialization deal.dealId).any (·.claimToken == none)
            && !(cancelUnadmittedDeal deal.dealId materializationInterrupted.message
              (inputs.evidenceHash materializationInterrupted deal.dealId)
              (inputs.failedAt deal.dealId) s.store.deals).1) = false := by
          cases hfound : s.getMaterialization deal.dealId with
          | none => simp
          | some current =>
            obtain ⟨hcurrent, hsame⟩ := Table.selectWhere_some hfound
            have hopen := hpending current hcurrent deal hmem (beq_iff_eq.mp hsame).symm hmethod
            have hcancel : (cancelUnadmittedDeal deal.dealId materializationInterrupted.message
                (inputs.evidenceHash materializationInterrupted deal.dealId)
                (inputs.failedAt deal.dealId) s.store.deals).1 = true :=
              any_eq_true.mpr ⟨deal, hmem, hopen⟩
            rw [hcancel, Bool.not_true, Bool.and_false]
        have hmem' : deal ∈ (s.readDeals env [deal]).store.deals := by
          rw [hread]
          exact hmem
        have horphans' : (s.readDeals env [deal]).OrphansPending env.config := by
          rw [hread]
          exact horphans
        obtain ⟨hstart, hkept, hleft⟩ :=
          failInterrupted_kept (h.readDeals hsub) horphans' hmem' hmethod
        refine ⟨_, ?_, hstart, .trans (.of_eq ?_ ?_) hkept, hleft⟩
        · rw [hguard]
          rfl
        · rw [hread]
        · rw [hread]

/-- The first step runs to its end. -/
theorem recoverOrphanedDealMaterializationsLocal_ok (inputs : RecoveryInputs)
    (h : Starting env s) (horphans : s.OrphansPending env.config) :
    ∃ s', recoverOrphanedDealMaterializationsLocal env inputs s = .ok s'
      ∧ Starting env s' ∧ Kept P s s' := by
  have hloop := foldlM_ok (f := recoverOrphanedMaterialization env inputs)
    (I := fun records s' => (∀ record ∈ records, record.Fits s'.store.admitted)
      ∧ Starting env s' ∧ Kept P s s' ∧ s'.OrphansPending env.config)
    fun record records s₁ hI => by
      obtain ⟨hfits, hstart, hkept, hleft⟩ := hI
      obtain ⟨s₂, hround, hstart', hkept', hleft'⟩ :=
        recoverOrphanedMaterialization_ok inputs hstart hleft (hfits record mem_cons_self)
      refine ⟨s₂, hround, fun record' hrecord' => ?_, hstart', hkept.trans hkept', hleft'⟩
      rw [hkept'.admitted]
      exact hfits record' (mem_cons_of_mem record hrecord')
  obtain ⟨s', hrun, -, hstart, hkept, -⟩ :=
    hloop s.materializations s ⟨h.inv.materializations, h, .of_eq rfl rfl, horphans⟩
  exact ⟨s', hrun, hstart, hkept⟩

structure ToStage (s : ProviderState) (deals : Deals) : Prop where
  ids : Table.Unique (some ·.dealId) deals
  rows : deals ⊆ s.store.deals
  held : ∀ deal ∈ deals, .deal deal ∈ s.held
  running : ∀ deal ∈ deals, deal.paymentMethod = some .stripe ∧ deal.status = .running
  fresh : ∀ deal ∈ deals, s.outbox.any (·.dealId == deal.dealId) = false

/-- One deal of the second step. -/
theorem stageInterruptedStripeDeal_ok (inputs : RecoveryInputs) (h : Starting env s)
    (hdeals : ToStage s (deal :: deals)) :
    ∃ s', stageInterruptedStripeDeal env inputs s deal = .ok s'
      ∧ Starting env s' ∧ Kept P s s' ∧ ToStage s' deals := by
  obtain ⟨hmem, hrest⟩ := cons_subset.mp hdeals.rows
  obtain ⟨hmethod, hrunning⟩ := hdeals.running deal mem_cons_self
  have hfresh := hdeals.fresh deal mem_cons_self
  obtain ⟨hother, hunique⟩ := Table.unique_cons.mp hdeals.ids
  have hcas : (stageDealSettlementPendingFailure deal.dealId executionInterrupted.message
      (inputs.evidenceHash executionInterrupted deal.dealId) (inputs.stagedAt deal.dealId)
      s.store.deals).1 = true :=
    any_eq_true.mpr ⟨deal, hmem, by rw [hrunning]; simp⟩
  have hstep : providerStep env s (.stageInterruptedStripeDeal deal
        (inputs.evidenceHash executionInterrupted deal.dealId) (inputs.stagedAt deal.dealId))
      = Effect.apply P (Effect.apply P s (.call (.stageSettlementPending deal.dealId
          executionInterrupted.message (inputs.evidenceHash executionInterrupted deal.dealId)
          (inputs.stagedAt deal.dealId))))
        (.insertOutbox { dealId := deal.dealId, createdAt := inputs.stagedAt deal.dealId
                         details := .failed executionInterrupted }) := by
    dsimp only [providerStep, ProviderAction.effects]
    rw [during_eq h.phase (by simpa using hdeals.held deal mem_cons_self), hmethod, hrunning,
      if_pos (by decide)]
    unfold stageStripeCancel
    rw [hcas, hfresh]
    rfl
  have hphase : (providerStep env s (.stageInterruptedStripeDeal deal
      (inputs.evidenceHash executionInterrupted deal.dealId)
      (inputs.stagedAt deal.dealId))).phase = .starting := by
    rw [hstep]
    exact h.phase
  refine ⟨_, ?_, h.step hphase, ?_, ?_⟩
  · unfold stageInterruptedStripeDeal
    dsimp only
    rw [hcas, hfresh]
    rfl
  · rw [hstep]
    exact .staged rfl rfl
  · rw [hstep]
    have hne (deal' : StoredDeal) (hdeal' : deal' ∈ deals) : deal.dealId ≠ deal'.dealId :=
      fun hid => hother deal.dealId rfl deal' hdeal' (congrArg some hid.symm)
    refine ⟨hunique, fun deal' hdeal' => ?_,
      fun deal' hdeal' => hdeals.held deal' (mem_cons_of_mem deal hdeal'),
      fun deal' hdeal' => hdeals.running deal' (mem_cons_of_mem deal hdeal'),
      fun deal' hdeal' => ?_⟩
    · -- the call is about another row
      refine (DealCall.apply_mem _ (hrest hdeal')).resolve_right ?_
      rintro ⟨row', -, hrs⟩
      exact hne deal' hdeal' (Prod.mk.inj (Option.some.inj hrs.target)).1
    · have hfree := hdeals.fresh deal' (mem_cons_of_mem deal hdeal')
      simpa [Effect.apply, hne deal' hdeal'] using hfree

/-- The second step runs to its end. -/
theorem stageInterruptedStripeDealsForRecovery_ok (inputs : RecoveryInputs) (h : Starting env s) :
    ∃ s', stageInterruptedStripeDealsForRecovery env inputs s = .ok s'
      ∧ Starting env s' ∧ Kept P s s' := by
  have hsub : s.interruptedStripeDeals ⊆ s.store.deals := filter_subset_self _
  have hread := readDeals_eq env hsub h.inv.admission.ids
  have hloop := foldlM_ok (f := stageInterruptedStripeDeal env inputs)
    (I := fun deals s' => Starting env s' ∧ Kept P s s' ∧ ToStage s' deals)
    fun deal deals s₁ hI => by
      obtain ⟨hstart, hkept, hdeals⟩ := hI
      obtain ⟨s₂, hround, hstart', hkept', hdeals'⟩ :=
        stageInterruptedStripeDeal_ok inputs hstart hdeals
      exact ⟨s₂, hround, hstart', hkept.trans hkept', hdeals'⟩
  have hrow (deal : StoredDeal) (hdeal : deal ∈ s.interruptedStripeDeals) :
      (deal.paymentMethod = some .stripe ∧ deal.status = .running)
        ∧ s.outbox.any (·.dealId == deal.dealId) = false := by
    have hfound := (mem_filter.mp hdeal).2
    simpa [-any_eq_false] using hfound
  have hkept : Kept P s (s.readDeals env s.interruptedStripeDeals) := by
    rw [hread]
    exact .of_eq rfl rfl
  have hstage : ToStage (s.readDeals env s.interruptedStripeDeals) s.interruptedStripeDeals := by
    rw [hread]
    exact ⟨(filter_sublist.filterMap _).nodup h.inv.admission.ids, hsub,
      fun deal hdeal => mem_append_right _ (mem_map_of_mem hdeal),
      fun deal hdeal => (hrow deal hdeal).1, fun deal hdeal => (hrow deal hdeal).2⟩
  obtain ⟨s', hrun, hstart, hkept', -⟩ := hloop _ _ ⟨h.readDeals hsub, hkept, hstage⟩
  exact ⟨s', hrun, hstart, hkept'⟩

theorem settles_of_plan (hinv : ProviderInv env s) {plan : List RecoveryItem}
    {row : StoredDeal} (hrow : row ∈ s.store.deals) (hid : row.identity = deal.identity)
    {e : Effect}
    (he : e ∈ (ProviderAction.recoverRuntimeStateLocal plan recoveredAt).effects env s) :
    e.Settles P deal := by
  have harises := arises_of_mem rfl he
  cases e with
  | restart decodes =>
    cases harises with
    | restart ha => cases ha
    | inert hinert => cases hinert
  | call call =>
    intro old new htarget hterm
    obtain ⟨row₀, hrow₀, hident⟩ := (hinv.rows row hrow).known
    have hident := hident.trans hid
    rw [DealCall.terminal_of_target htarget, Bool.or_eq_true] at hterm
    obtain hreceipt | hcancels := hterm
    · obtain ⟨r, hr⟩ := Option.isSome_iff_exists.mp hreceipt
      refine ⟨r, hr, ?_⟩
      rw [← quote_of_identity hident, ← artifact_of_identity hident]
      rw [← dealId_of_identity hident] at htarget
      have hsigns := signsValid_of_arises (a := .recoverRuntimeStateLocal plan recoveredAt) hinv
        trivial (fun _ h => absurd h.symm (Option.some_ne_none _)) harises
      exact hsigns r hr row₀ hrow₀ old new htarget
    · -- a plan cancels nothing
      cases call <;> first | exact absurd hcancels Bool.false_ne_true | skip
      cases harises with
      | inert _ hreason =>
        cases hreason with
        | owner ha => cases ha
        | interrupted ha => cases ha
      | ended _ _ hreceipt _ => cases hreceipt
  | _ => exact trivial

end Phases

/-- **Local recovery runs to its end.** After a crash at any point of any run, if
the database is recoverable, local recovery returns no error, and every incomplete
deal that is not settled through Lightning is requeued, held, or ended with a
receipt that its quote accepts. -/
theorem local_recovery_completes (env : ProviderEnv P) (inputs : RecoveryInputs)
    (actions : List ProviderAction) (decodes : StoredDeal → Bool)
    (h : ((providerMachine env).run (actions ++ [.restart decodes])).Recoverable env inputs) :
    ∃ s', recoverRuntimeStateLocal env inputs
          ((providerMachine env).run (actions ++ [.restart decodes])) = .ok s'
      ∧ ∀ deal ∈ ((providerMachine env).run (actions ++ [.restart decodes])).store.deals,
        deal.status.isTerminal = false → deal.paymentMethod ≠ some .lightning →
          deal.Recovered P s' := by
  have hstart : Starting env _ := starting_restart actions decodes
  generalize (providerMachine env).run (actions ++ [.restart decodes]) = s at h hstart ⊢
  obtain ⟨s₁, horphans, hstart₁, hkept₁⟩ :=
    recoverOrphanedDealMaterializationsLocal_ok inputs hstart h.orphans
  obtain ⟨s₂, hstaged, hstart₂, hkept₂⟩ := stageInterruptedStripeDealsForRecovery_ok inputs hstart₁
  have hkept := hkept₁.trans hkept₂
  have hdecide (deal : StoredDeal) (hdeal : deal ∈ s₂.undecidedDeals) :
      ∃ decision, classifyDealRecovery env deal (inputs.answers deal) inputs.recoveredAt
        = .ok decision ∧ decision.Applies deal inputs.recoveredAt := by
    obtain ⟨hmem, ⟨hopen, hmethod⟩, hfree⟩ := mem_undecidedDeals.mp hdeal
    obtain ⟨hmem', hfree'⟩ := hkept.back deal hmem hmethod hfree
    refine classifyDealRecovery_applies hstart₂ (h.signs deal hmem') hmem hopen hmethod ?_
      (h.deals deal (mem_undecidedDeals.mpr ⟨hmem', ⟨hopen, hmethod⟩, hfree'⟩))
    -- a staged deal is in the outbox
    refine Bool.eq_false_iff.mpr fun hstaged => ?_
    exact Bool.false_ne_true (hfree.symm.trans (hstart₂.outbox deal hmem hmethod hstaged))
  have hsub : s₂.undecidedDeals ⊆ s₂.store.deals := filter_subset_self _
  obtain ⟨decisions, hdecisions, hof⟩ :=
    mapM_ok fun deal hdeal => (hdecide deal hdeal).imp (fun _ => And.left)
  have hchecks (decision : DealRecoveryDecision) (hmem : decision ∈ decisions) :
      ∃ passed, decision.check s₂ inputs.recoveredAt = .ok passed := by
    obtain ⟨deal, hdeal, hclassify⟩ := hof decision hmem
    obtain ⟨decision', hclassify', happlies⟩ := hdecide deal hdeal
    rw [Except.ok.inj (hclassify.symm.trans hclassify')]
    exact ⟨(), happlies s₂ (hsub hdeal)⟩
  obtain ⟨units, hunits, -⟩ := mapM_ok hchecks
  refine ⟨providerStep env (s₂.readDeals env s₂.undecidedDeals) (.recoverRuntimeStateLocal
    (s₂.undecidedDeals.map inputs.item) inputs.recoveredAt), ?_, fun deal hdeal hopen hmethod => ?_⟩
  · exact bind_eq_ok.mpr ⟨s₁, horphans, bind_eq_ok.mpr ⟨s₂, hstaged,
      bind_eq_ok.mpr ⟨decisions, hdecisions, bind_eq_ok.mpr ⟨units, hunits, rfl⟩⟩⟩⟩
  · have hread : Kept P s₂ (s₂.readDeals env s₂.undecidedDeals) := by
      rw [readDeals_eq env hsub hstart₂.inv.admission.ids]
      exact .of_eq rfl rfl
    have hrecovered := (hkept.trans hread).forth deal hmethod ⟨deal, hdeal, rfl, .inl hopen⟩
    have ⟨row, hrow, hid, _⟩ := hrecovered
    exact hrecovered.effects fun e he => settles_of_plan (hstart₂.readDeals hsub).inv hrow hid he

def lateRecovery : RecoveryInputs where
  answers _ :=
    { synced := none, canceled := .error "", stripeReleased := .ok (), payment := .error "" }
  evidenceHash _ _ := ""
  failedAt _ := 21
  stagedAt _ := 21
  recoveredAt := 21

theorem local_recovery_completes_authorised :
    let s := (providerMachine sampleStripeEnv).run (stripeIntentRun ++ [.restart fun _ => true])
    s.undecidedDeals ≠ []
      ∧ ∃ s', recoverRuntimeStateLocal sampleStripeEnv lateRecovery s = .ok s'
        ∧ ∀ deal ∈ s.store.deals, deal.status.isTerminal = false →
          deal.paymentMethod ≠ some .lightning → deal.Recovered samplePrimitives s' := by
  refine ⟨by decide +kernel, local_recovery_completes sampleStripeEnv lateRecovery stripeIntentRun
    (fun _ => true) ⟨.inr ?_, by decide +kernel, fun deal _ spec _ => ⟨_, rfl⟩⟩⟩
  decide +kernel

theorem local_recovery_aborts :
    let request := sampleRequest (samplePaidQuote settlementMethodStripeMpp "" 0)
      (some ⟨"stripe_mpp", "spt"⟩)
    let s := (providerMachine sampleStripeEnv).run [.recoverRuntimeStateLocal [] 5,
      sampleAdmission request, .restart fun _ => true]
    (∃ deal ∈ s.store.deals, deal.status = .paymentPending ∧ deal.paymentTokenHash = none)
      ∧ recoverRuntimeStateLocal sampleStripeEnv lateRecovery s
        = .error "recovered deal Receipt failed Kernel validation" := by
  refine ⟨by decide +kernel, ?_⟩
  decide +kernel

end Froglet
