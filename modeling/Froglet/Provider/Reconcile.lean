import Mathlib.Data.List.Infix
import Froglet.Provider.Tasks

/-!
# Settlement and recovery

The reconcile loops end the deals whose rail has reached an end, and the recovery of a
start decides what becomes of the deals the last process left behind.
-/

namespace Froglet

variable {P : Primitives} (env : ProviderEnv P) (s : ProviderState)

/-! ## Lightning -/

def lightningSuccessSpec (session : LightningInvoiceBundleSession) (resultHash : String) :
    ReceiptSignSpec :=
  { dealState := "succeeded", executionState := "succeeded", bundle := some session
    stripeSettlement := none, prepaidSettlement := none, resultHash := some resultHash
    resultFormat := none, resultEnvelopeHash := none, failure := none }

def persistLightningSuccessReceipt (deal : StoredDeal) (session : LightningInvoiceBundleSession)
    (now : ℤ) : List Effect :=
  match deal.result, deal.resultHash with
  | some result, some resultHash =>
    match signDealReceipt env.signer deal now (lightningSuccessSpec session resultHash) with
    | .error _ => []
    | .ok receipt =>
      if s.statusIs deal.dealId .resultReady then
        [.call (.completeSuccess .lightning deal.dealId result none receipt none now)]
      else []
  | _, _ => []

structure LightningSettlementFailureOutcome where
  site : FailureSite
  (dealState executionState : String)
  failure : ReceiptFailure

def lightningSettlementFailureDetails (deal : StoredDeal)
    (session : LightningInvoiceBundleSession) : Option LightningSettlementFailureOutcome :=
  match deal.status with
  | .paymentPending =>
    if session.baseState == .expired || session.successState == .expired then
      some { site := .lightningUnfunded, dealState := "canceled", executionState := "not_started"
             failure := { code := "payment_expired"
                          message := "lightning payment window expired before deal admission" } }
    else if session.baseState == .canceled || session.successState == .canceled then
      some { site := .lightningUnfunded, dealState := "canceled", executionState := "not_started"
             failure := { code := "payment_canceled"
                          message := "lightning payment was canceled before deal admission" } }
    else none
  | .resultReady =>
    if session.successState == .expired then
      some { site := .lightningUnreleased, dealState := "canceled", executionState := "succeeded"
             failure := { code := "success_fee_expired_before_release"
                          message := "success-fee hold expired before requester release" } }
    else if session.successState == .canceled then
      some { site := .lightningUnreleased, dealState := "canceled", executionState := "succeeded"
             failure := { code := "success_fee_canceled_before_release"
                          message := "success-fee hold was canceled before requester release" } }
    else none
  | _ => none

def lightningFailureSpec (deal : StoredDeal) (session : LightningInvoiceBundleSession)
    (outcome : LightningSettlementFailureOutcome) : ReceiptSignSpec :=
  { dealState := outcome.dealState, executionState := outcome.executionState
    bundle := some session, stripeSettlement := none, prepaidSettlement := none
    resultHash := deal.resultHash, resultFormat := none, resultEnvelopeHash := none
    failure := some outcome.failure }

def persistLightningTerminalFailureReceipt (deal : StoredDeal)
    (session : LightningInvoiceBundleSession) (failureEvidenceHash : String) (now : ℤ) :
    List Effect :=
  match lightningSettlementFailureDetails deal session with
  | none => []
  | some outcome =>
    match signDealReceipt env.signer deal now (lightningFailureSpec deal session outcome) with
    | .error _ => []
    | .ok receipt =>
      if s.statusIs deal.dealId outcome.site.expected then
        [.call (.completeFailure outcome.site deal.dealId outcome.failure.message receipt
          (some failureEvidenceHash) now)]
      else []

/-! ## Prepaid Lightning -/

def unpaidPrepaidSpec (deal : StoredDeal) : ReceiptSignSpec :=
  { dealState := "failed", executionState := "failed", bundle := none, stripeSettlement := none
    prepaidSettlement := some
      { paymentHash := deal.paymentTokenHash.getD "", preimageHex := "", chargedMsat := 0
        paid := false }
    resultHash := none, resultFormat := none, resultEnvelopeHash := none
    failure := some { code := "payment_expired"
                      message := "prepaid Lightning invoice expired before payment" } }

def failUnpaidPrepaidDeal (deal : StoredDeal) (paymentHash : String) (payment : IncomingPayment)
    (failureEvidenceHash : String) (now : ℤ) : List Effect :=
  if deal.status == .paymentPending && deal.paymentMethod == some .lightningPrepaid
      && deal.paymentTokenHash == some paymentHash && deal.paymentAmountSats.isSome
      && !payment.isPaid && deal.artifact.payload.admissionDeadline < now then
    match signDealReceipt env.signer deal now (unpaidPrepaidSpec deal) with
    | .error _ => []
    | .ok receipt =>
      if s.statusIs deal.dealId .paymentPending then
        [.call (.completeFailure .prepaidUnpaid deal.dealId "payment_expired" receipt
          (some failureEvidenceHash) now)]
      else []
  else []

/-! ## Stripe -/

def stripeSettlementForDeal (deal : StoredDeal) (captured : Bool) : Option StripeSettlementInfo :=
  match deal.paymentMethod, deal.paymentTokenHash with
  | some .stripe, some paymentIntentId =>
    if paymentIntentId == "" then none
    else some { paymentIntentId, captured
                chargedMsat := min (deal.paymentAmountSats.getD 0 * 1000) u64Max }
  | _, _ => none

def ensureValidLocalReceipt (P : Primitives) (receipt : SignedReceipt) : Bool :=
  verifyArtifact P receipt && (validateReceiptArtifact P receipt).passes

/-- Where a Stripe settlement stands once Stripe was asked. -/
inductive PaymentReservationState where
  | committed
  | released
deriving DecidableEq

def stripeSpec (deal : StoredDeal) (details : StripeSettlementOutboxDetails)
    (state : PaymentReservationState) : Option ReceiptSignSpec :=
  match details, state with
  | .succeeded resultFormat resultEnvelopeHash, .committed => do
    let resultHash ← deal.resultHash
    let stripe ← stripeSettlementForDeal deal true
    return { dealState := "succeeded", executionState := "succeeded", bundle := none
             stripeSettlement := some stripe, prepaidSettlement := none
             resultHash := some resultHash, resultFormat := some resultFormat
             resultEnvelopeHash, failure := none }
  | .succeeded resultFormat resultEnvelopeHash, .released => do
    let resultHash ← deal.resultHash
    let stripe ← stripeSettlementForDeal deal false
    return { dealState := "canceled", executionState := "succeeded", bundle := none
             stripeSettlement := some stripe, prepaidSettlement := none
             resultHash := some resultHash, resultFormat := some resultFormat
             resultEnvelopeHash
             failure := some
              { code := "stripe_capture_canceled"
                message :=
                  "Stripe authorization reached canceled state after execution completed" } }
  | .failed failure, state => do
    let stripe ← stripeSettlementForDeal deal (state == .committed)
    return { dealState := "failed", executionState := "failed", bundle := none
             stripeSettlement := some stripe, prepaidSettlement := none, resultHash := none
             resultFormat := none, resultEnvelopeHash := none, failure := some failure }

def stripeCall (deal : StoredDeal) (details : StripeSettlementOutboxDetails)
    (state : PaymentReservationState) (receipt : SignedReceipt)
    (failureEvidenceHash : String) (now : ℤ) : Option DealCall :=
  match details, state with
  | .succeeded _ _, .committed => do
    let result ← deal.result
    let resultHash ← deal.resultHash
    return .completeSuccess .stripe deal.dealId result (some resultHash) receipt none now
  | .succeeded _ _, .released =>
    some (.completeFailure .stripeCanceled deal.dealId
      "Stripe authorization was canceled after execution" receipt (some failureEvidenceHash) now)
  | .failed failure, _ =>
    some (.completeFailure .stripeFailed deal.dealId failure.message receipt none now)

def reconcileStripeSettlementRecord (record : StripeSettlementOutboxRecord) (deal : StoredDeal)
    (state : PaymentReservationState) (failureEvidenceHash : String) (now : ℤ) : List Effect :=
  match stripeSpec deal record.details state with
  | none => []
  | some spec =>
    match signDealReceipt env.signer deal record.createdAt spec with
    | .error _ => []
    | .ok receipt =>
      match stripeCall deal record.details state receipt failureEvidenceHash now with
      | none => []
      | some call =>
        if ensureValidLocalReceipt P receipt
            && call.target.any (fun (id, expected, _) => s.statusIs id expected)
            && s.outbox.any (·.dealId == record.dealId) then
          [.call call, .deleteOutbox record.dealId]
        else []

/-! ## Recovery -/

structure RecoveryAnswers where
  synced : Option LightningInvoiceBundleSession
  canceled : Except String LightningInvoiceBundleSession
  stripeReleased : Except String Unit
  payment : Except String IncomingPayment

structure RecoveredDealSettlementRefs where
  bundle : Option LightningInvoiceBundleSession
  stripeSettlement : Option StripeSettlementInfo
  prepaidSettlement : Option PrepaidSettlementInfo

structure RecoveredDealResume where
  dealId : String
  previousStatus : DealStatus
  (resetRunningStatus spawnAfterRecovery : Bool)

structure RecoveredDealFailure where
  deal : StoredDeal
  expectedStatus : IncompleteStatus
  bundle : Option LightningInvoiceBundleSession
  errorMessage : String
  receipt : SignedReceipt

inductive DealRecoveryDecision where
  | requeue (resume : RecoveredDealResume)
  | fail (failure : RecoveredDealFailure)

def recoveryReceiptState (deal : StoredDeal) :
    Except String (IncompleteStatus × String × String × Option String) :=
  match deal.status with
  | .resultReady =>
    match deal.result, deal.resultHash with
    | none, _ => .error "result_ready deal is missing its result during recovery"
    | _, none => .error "result_ready deal is missing its result_hash during recovery"
    | some _, some resultHash => .ok (.resultReady, "canceled", "succeeded", some resultHash)
  | .running => .ok (.running, "failed", "failed", none)
  | .settlementPending => .ok (.settlementPending, "failed", "failed", none)
  | .accepted => .ok (.accepted, "canceled", "not_started", none)
  | .paymentPending => .ok (.paymentPending, "canceled", "not_started", none)
  | status => let text := status.text
    .error s!"unsupported deal status during recovery receipt construction: {text}"

def buildRecoveredDealFailure (deal : StoredDeal) (recoveredAt : ℤ)
    (refs : RecoveredDealSettlementRefs) (code message : String) :
    Except String RecoveredDealFailure := do
  let (expectedStatus, dealState, executionState, resultHash) ← recoveryReceiptState deal
  let receipt ← signDealReceipt env.signer deal recoveredAt
    { dealState, executionState, bundle := refs.bundle, stripeSettlement := refs.stripeSettlement
      prepaidSettlement := refs.prepaidSettlement, resultHash, resultFormat := none
      resultEnvelopeHash := none, failure := some { code, message } }
  rejectIf (!(validateQuoteDealReceipt P deal.quote deal.artifact receipt none).valid)
    "recovered deal Receipt failed Kernel validation"
  return { deal, expectedStatus, bundle := refs.bundle, errorMessage := message, receipt }

def recoveredStripeReleaseSettlement (deal : StoredDeal) (released : Except String Unit) :
    Except String (Option StripeSettlementInfo) :=
  match deal.paymentTokenHash with
  | none => .ok none
  | some paymentIntentId => do
    released
    return some { paymentIntentId, captured := false
                  chargedMsat := min (deal.paymentAmountSats.getD 0 * 1000) u64Max }

def recoveredPrepaidSettlement (P : Primitives) (deal : StoredDeal)
    (payment : Except String IncomingPayment) : Except String (Option PrepaidSettlementInfo) :=
  match deal.paymentTokenHash with
  | none => .ok (some { paymentHash := "", preimageHex := "", chargedMsat := 0, paid := false })
  | some paymentHash =>
    match prepaidSettlementForDeal P deal payment with
    | .ok settlement => .ok (some settlement)
    | .error error =>
      if "not yet paid".toList <:+: error.toList then
        .ok (some { paymentHash, preimageHex := "", chargedMsat := 0, paid := false })
      else .error error

def recoverLightningBundle (deal : StoredDeal) (answers : RecoveryAnswers) (recoveredAt : ℤ) :
    Except String (LightningInvoiceBundleSession ⊕ RecoveredDealFailure) :=
  match answers.synced with
  | none => (buildRecoveredDealFailure env deal recoveredAt ⟨none, none, none⟩
      "recovery_invariant_violation"
      "lightning deal is missing its invoice bundle during recovery").map .inr
  | some session =>
    if session.successState == .expired then
      (buildRecoveredDealFailure env deal recoveredAt ⟨some session, none, none⟩
        "success_fee_expired_during_recovery"
        "lightning success hold expired before the deal could be recovered").map .inr
    else if session.successState == .canceled then
      (buildRecoveredDealFailure env deal recoveredAt ⟨some session, none, none⟩
        "success_fee_canceled_during_recovery"
        "lightning success hold was canceled before the deal could be recovered").map .inr
    else
      let settledSuccessCanFinish := deal.status == .resultReady && session.successState == .settled
      let paymentPendingCanWait :=
        deal.status == .paymentPending && !lightningBundleIsFunded session
      if !settledSuccessCanFinish && !paymentPendingCanWait
          && (session.successState == .settled || !lightningBundleIsFunded session) then do
        -- the legs are brought to their end before the receipt is signed
        let terminal ← answers.canceled
        (buildRecoveredDealFailure env deal recoveredAt ⟨some terminal, none, none⟩
          "recovery_invariant_violation"
          "lightning settlement state is inconsistent with the persisted deal status").map .inr
      else .ok (.inl session)

def recoverExpired (deal : StoredDeal) (bundle : Option LightningInvoiceBundleSession)
    (answers : RecoveryAnswers) (recoveredAt : ℤ) : Except String DealRecoveryDecision :=
  let held := DealRecoveryDecision.requeue
    { dealId := deal.dealId, previousStatus := deal.status, resetRunningStatus := false
      spawnAfterRecovery := false }
  let fail (refs : RecoveredDealSettlementRefs) :=
    (buildRecoveredDealFailure env deal recoveredAt refs
      "completion_deadline_elapsed_during_recovery"
      "deal completion_deadline elapsed while recovering from node restart").map
        DealRecoveryDecision.fail
  match deal.paymentMethod with
  | some .stripe => match recoveredStripeReleaseSettlement deal answers.stripeReleased with
    | .ok stripe => fail ⟨none, stripe, none⟩
    | .error _ => .ok held
  | some .lightningPrepaid => match recoveredPrepaidSettlement P deal answers.payment with
    | .ok prepaid => fail ⟨none, none, prepaid⟩
    | .error _ => .ok held
  | _ => match bundle with
    | none => fail ⟨none, none, none⟩
    | some _ => do fail ⟨some (← answers.canceled), none, none⟩

def requeueDeal (deal : StoredDeal) (bundle : Option LightningInvoiceBundleSession)
    (answers : RecoveryAnswers) (recoveredAt : ℤ) : Except String DealRecoveryDecision :=
  if deal.artifact.payload.completionDeadline < recoveredAt then
    recoverExpired env deal bundle answers recoveredAt
  else
    -- a container that is still running elsewhere must not be started twice
    let externalOutcomeUnknown := deal.status == .running && deal.spec.externalContainer
    .ok (.requeue
      { dealId := deal.dealId, previousStatus := deal.status
        resetRunningStatus := deal.status == .running && !externalOutcomeUnknown
        spawnAfterRecovery := deal.status != .paymentPending && !externalOutcomeUnknown })

def classifyDealRecovery (deal : StoredDeal) (answers : RecoveryAnswers) (recoveredAt : ℤ) :
    Except String DealRecoveryDecision :=
  if deal.paymentMethod == some .lightning then do
    match ← recoverLightningBundle env deal answers recoveredAt with
    | .inl session => requeueDeal env deal (some session) answers recoveredAt
    | .inr failure => return .fail failure
  else requeueDeal env deal none answers recoveredAt

def applyRecoveryDecision (decision : DealRecoveryDecision) (failureEvidenceHash : String)
    (recoveredAt : ℤ) : List Effect :=
  match decision with
  | .requeue resume =>
    match getDeal s.store.deals resume.dealId with
    | none => []
    | some current =>
      if current.status == resume.previousStatus then
        (if !resume.spawnAfterRecovery && current.status == .running
            && current.spec.externalContainer then
          [.call (.holdExternalOutcome resume.dealId recoveredAt)] else [])
        ++ (if resume.resetRunningStatus then
          [.call (.resetRunningDealToAccepted resume.dealId recoveredAt)] else [])
      else []
  | .fail failure =>
    let finish := Effect.call (.recoveryFailure failure.expectedStatus failure.deal.dealId
      failure.errorMessage failure.receipt failureEvidenceHash recoveredAt)
    if s.statusIs failure.deal.dealId failure.expectedStatus.status then
      match failure.bundle with
      | none => [finish]
      | some bundle =>
        match Table.selectWhere (·.sessionId == bundle.sessionId) s.bundles with
        | none => []
        | some current =>
          -- a leg that has reached another end meanwhile is not overwritten
          if (current.baseState.isTerminal && current.baseState != bundle.baseState)
              || (current.successState.isTerminal
                && current.successState != bundle.successState) then []
          else [.updateBundle bundle.sessionId bundle.baseState bundle.successState, finish]
    else []

end Froglet
