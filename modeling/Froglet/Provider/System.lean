import Froglet.Protocol.ChainSoundness
import Froglet.Provider.Reconcile

/-!
# The provider as a system

A provider takes one action after another: some task runs its next transaction, a rail
answers, a worker returns, or the process crashes and the next one starts.
-/

namespace Froglet

structure RecoveryItem where
  deal : StoredDeal
  answers : RecoveryAnswers
  failureEvidenceHash : String

inductive ProviderAction where
  | restart (decodes : StoredDeal → Bool)
  | readDeal (dealId : String)
  | readOutbox (dealId : String)
  | observePayment (paymentHash : String) (payment : IncomingPayment)
  | createDealRecord (request : CreateDealRequest) (dealId : String)
      (otherChecks permit : Except String Unit) (laterFails : Bool)
      (failureEvidenceHash : String) (now : ℤ)
  | claimDealMaterialization (dealId claimToken : String) (now : ℤ)
  | renewOwnedMaterializationClaim (record : MaterializationRecord) (now : ℤ)
  | rescheduleOwnedMaterialization (record : MaterializationRecord) (nextAttemptAt : ℤ)
  | deleteOwnedMaterialization (record : MaterializationRecord)
  | deleteOrphanedMaterialization (dealId : String)
  | failPendingDealMaterialization (deal : StoredDeal) (record : MaterializationRecord)
      (message failureEvidenceHash : String) (now : ℤ)
  | failInterruptedMaterialization (deal : StoredDeal) (message failureEvidenceHash : String)
      (now : ℤ)
  | persistLightningBundle (record : MaterializationRecord) (issued : IssuedInvoices)
  | prepareStripePayment (record : MaterializationRecord) (deal : StoredDeal)
      (answer : DriverAnswer) (now : ℤ)
  | setStripeResource (record : MaterializationRecord) (reservation : PaymentReservation)
  | finalizeStripePayment (record : MaterializationRecord) (reservation : PaymentReservation)
      (now : ℤ)
  | persistPrepaidInvoice (record : MaterializationRecord) (bolt11 paymentHash : String) (now : ℤ)
  | syncLightningBundle (sessionId : String) (baseState successState : InvoiceBundleLegState)
  | promoteLightningDealIfFunded (deal : StoredDeal) (session : LightningInvoiceBundleSession)
      (now : ℤ)
  | promotePrepaidDealIfPaid (deal : StoredDeal) (paymentHash : String)
      (payment : IncomingPayment) (now : ℤ)
  | rejectDealBeforeExecution (site : RejectSite) (deal : StoredDeal)
      (bundle : Option LightningInvoiceBundleSession) (message failureEvidenceHash : String)
      (now : ℤ)
  | startExecution (deal : StoredDeal) (now : ℤ)
  | executionSucceeded (deal : StoredDeal) (output : WorkloadRunOutput)
      (answer : Except String IncomingPayment) (resultEvidenceHash : String) (now : ℤ)
  | executionFailed (deal : StoredDeal) (failure : ReceiptFailure)
      (bundle : Option LightningInvoiceBundleSession) (answer : Except String IncomingPayment)
      (failureEvidenceHash : String) (now : ℤ)
  | workerReturned (deal : StoredDeal)
  | persistLightningSuccessReceipt (deal : StoredDeal) (session : LightningInvoiceBundleSession)
      (release : Bool) (now : ℤ)
  | persistLightningTerminalFailureReceipt (deal : StoredDeal)
      (session : LightningInvoiceBundleSession) (failureEvidenceHash : String) (now : ℤ)
  | failUnpaidPrepaidDeal (deal : StoredDeal) (paymentHash : String) (payment : IncomingPayment)
      (failureEvidenceHash : String) (now : ℤ)
  | reconcileStripeSettlementRecord (record : StripeSettlementOutboxRecord) (deal : StoredDeal)
      (state : PaymentReservationState) (failureEvidenceHash : String) (now : ℤ)
  | stageInterruptedStripeDeal (deal : StoredDeal) (failureEvidenceHash : String) (now : ℤ)
  | recoverRuntimeStateLocal (plan : List RecoveryItem) (recoveredAt : ℤ)
  | recoverRuntimeStateRemote (plan : List RecoveryItem) (recoveredAt : ℤ)

def ProviderState.during (s : ProviderState) (phase : RunPhase) (observations : List Observation)
    (effects : List Effect) : List Effect :=
  if s.phase = phase ∧ ∀ o ∈ observations, o ∈ s.held then effects else []

def Observation.bundlesOf (deal : StoredDeal) (sessions : List LightningInvoiceBundleSession) :
    Option (List Observation) :=
  if sessions.all (·.isOf deal) then some (sessions.map .bundle) else none

def ProviderState.hasReservation (s : ProviderState) (record : MaterializationRecord)
    (reservation : PaymentReservation) : Bool :=
  match record.phase, record.resource with
  | .pending, _ => decide (.reservation record.dealId reservation ∈ s.held)
  | .resourceReady, some resource =>
    match resource.intoReservation with
    | .ok stored => stored == reservation
    | .error _ => false
  | _, _ => false

def executionInterrupted : ReceiptFailure :=
  { code := "execution_interrupted"
    message := "node restarted before the Stripe execution outcome was durably staged" }

section Effects

variable {P : Primitives} (env : ProviderEnv P) (s : ProviderState)

def RecoveryItem.effects (item : RecoveryItem) (recoveredAt : ℤ) : List Effect :=
  match classifyDealRecovery env item.deal item.answers recoveredAt with
  | .ok decision => applyRecoveryDecision s decision item.failureEvidenceHash recoveredAt
  | .error _ => []

def RecoveryItem.sessions (item : RecoveryItem) : List LightningInvoiceBundleSession :=
  item.answers.synced.toList ++ item.answers.canceled.toOption.toList

def ProviderAction.effects : ProviderAction → List Effect
  | restart decodes => [.restart decodes]
  | readDeal dealId => (getDeal s.store.deals dealId).toList.map fun row => .observe (.deal row)
  | readOutbox dealId =>
    (Table.selectWhere (·.dealId == dealId) s.outbox).toList.map
      fun record => .observe (.outbox record)
  | observePayment paymentHash payment => [.observe (.payment paymentHash payment)]
  | createDealRecord request dealId otherChecks permit laterFails failureEvidenceHash now =>
    s.during .serving [] (Froglet.createDealRecord env s request dealId otherChecks permit
      laterFails failureEvidenceHash now)
  | claimDealMaterialization dealId claimToken now =>
    s.during .serving [] (Froglet.claimDealMaterialization s dealId claimToken now)
  | renewOwnedMaterializationClaim record now =>
    s.during .serving [.claim record] (Froglet.renewOwnedMaterializationClaim s record now)
  | rescheduleOwnedMaterialization record nextAttemptAt =>
    s.during .serving [.claim record]
      (Froglet.rescheduleOwnedMaterialization s record nextAttemptAt)
  | deleteOwnedMaterialization record =>
    s.during .serving [.claim record] (Froglet.deleteOwnedMaterialization s record)
  | deleteOrphanedMaterialization dealId =>
    s.during .starting []
      (if (getDeal s.store.deals dealId).isNone then [.deleteMaterialization dealId] else [])
  | failPendingDealMaterialization deal record message failureEvidenceHash now =>
    s.during .serving [.claim record, .deal deal] (if deal.dealId == record.dealId then
        Froglet.failPendingDealMaterialization s deal record.claimToken message
          failureEvidenceHash now
      else [])
  | failInterruptedMaterialization deal message failureEvidenceHash now =>
    s.during .starting [.deal deal]
      (Froglet.failPendingDealMaterialization s deal none message failureEvidenceHash now)
  | persistLightningBundle record issued =>
    s.during .serving [.claim record] (Froglet.persistLightningBundle env s record issued)
  | prepareStripePayment record deal answer now =>
    s.during .serving [.claim record, .deal deal] (if deal.dealId == record.dealId then
        Froglet.prepareStripePayment env record deal answer now
      else [])
  | setStripeResource record reservation =>
    s.during .serving [.claim record, .reservation record.dealId reservation]
      (Froglet.setStripeResource s record reservation)
  | finalizeStripePayment record reservation now =>
    s.during .serving [.claim record] (if s.hasReservation record reservation then
        Froglet.finalizeStripePayment s record reservation now
      else [])
  | persistPrepaidInvoice record bolt11 paymentHash now =>
    s.during .serving [.claim record]
      (Froglet.persistPrepaidInvoice s record bolt11 paymentHash now)
  | syncLightningBundle sessionId baseState successState =>
    s.during .serving [] (Froglet.syncLightningBundle s sessionId baseState successState)
  | promoteLightningDealIfFunded deal session now =>
    s.during .serving [.deal deal, .bundle session]
      (if session.isOf deal then Froglet.promoteLightningDealIfFunded deal session now else [])
  | promotePrepaidDealIfPaid deal paymentHash payment now =>
    s.during .serving [.deal deal, .payment paymentHash payment]
      (Froglet.promotePrepaidDealIfPaid (P := P) deal paymentHash payment now)
  | rejectDealBeforeExecution site deal bundle message failureEvidenceHash now =>
    match Observation.bundlesOf deal bundle.toList with
    | none => []
    | some bundles =>
      s.during .serving (.deal deal :: bundles)
        -- capacity is asked for at the promotion of a Lightning deal and at the start
        (if (site == .start || site == .promotion && deal.paymentMethod == some .lightning)
            && deal.status == site.expected then
          Froglet.rejectDealBeforeExecution env s site deal bundle message failureEvidenceHash now
        else [])
  | startExecution deal now =>
    s.during .serving [.deal deal] (Froglet.startExecution env s deal now)
  | executionSucceeded deal output answer resultEvidenceHash now =>
    s.during .serving []
      (if deal ∈ s.workers then
        Froglet.executionSucceeded env s deal output answer resultEvidenceHash now
      else [])
  | executionFailed deal failure bundle answer failureEvidenceHash now =>
    match Observation.bundlesOf deal bundle.toList with
    | none => []
    | some bundles =>
      s.during .serving bundles
        (if deal ∈ s.workers then
          Froglet.executionFailed env s deal failure bundle answer failureEvidenceHash now
        else [])
  | workerReturned deal =>
    s.during .serving [] (if deal ∈ s.workers then [.workerReturned deal] else [])
  | persistLightningSuccessReceipt deal session release now =>
    s.during .serving [.deal deal, .bundle session]
      (if session.isOf deal && (release || session.successState == .settled) then
        Froglet.persistLightningSuccessReceipt env s deal session now
      else [])
  | persistLightningTerminalFailureReceipt deal session failureEvidenceHash now =>
    s.during .serving [.deal deal, .bundle session]
      (if session.isOf deal then
        Froglet.persistLightningTerminalFailureReceipt env s deal session failureEvidenceHash now
      else [])
  | failUnpaidPrepaidDeal deal paymentHash payment failureEvidenceHash now =>
    s.during .serving [.deal deal, .payment paymentHash payment]
      (Froglet.failUnpaidPrepaidDeal env s deal paymentHash payment failureEvidenceHash now)
  | reconcileStripeSettlementRecord record deal state failureEvidenceHash now =>
    s.during .serving [.outbox record, .deal deal]
      (if deal.dealId == record.dealId then
        Froglet.reconcileStripeSettlementRecord env s record deal state failureEvidenceHash now
      else [])
  | stageInterruptedStripeDeal deal failureEvidenceHash now =>
    s.during .starting [.deal deal]
      (if deal.paymentMethod == some .stripe && deal.status == .running then
        stageStripeCancel s deal executionInterrupted failureEvidenceHash now
      else [])
  | recoverRuntimeStateLocal plan recoveredAt =>
    s.during .starting (plan.map (.deal ·.deal))
      ((plan.filter (fun item => item.deal.paymentMethod != some .lightning
          && !s.outbox.any (·.dealId == item.deal.dealId))).flatMap
        (·.effects env s recoveredAt) ++ [.serve])
  | recoverRuntimeStateRemote plan recoveredAt =>
    s.during .serving (plan.flatMap fun item => .deal item.deal :: item.sessions.map .bundle)
      ((plan.filter (fun item => item.deal.paymentMethod == some .lightning
          && item.sessions.all (·.isOf item.deal)
          && (s.getMaterialization item.deal.dealId).isNone)).flatMap
        (·.effects env s recoveredAt))

def providerStep (a : ProviderAction) : ProviderState := (a.effects env s).foldl (Effect.apply P) s

end Effects

def providerMachine {P : Primitives} (env : ProviderEnv P) :
    Machine ProviderState ProviderAction where
  init :=
    { store := { deals := [], usages := [], admitted := [], cancelled := [] }
      materializations := [], bundles := [], prepaidInvoices := [], outbox := []
      phase := .starting, held := [], workers := [], log := [] }
  step := providerStep env

/-! ## A node to run -/

def sampleEnv (config : NodeConfig) : ProviderEnv samplePrimitives where
  signer :=
    { nodeId := "p", signMessageHex := fun _ => "sig", verifies := fun _ => rfl
      executor := fun _ => sampleFreeReceipt.payload.executor }
  config := config

def sampleRequest (quote : SignedQuote) (payment : Option ProvidedPayment) : CreateDealRequest :=
  { quote, deal := sampleDeal, idempotencyKey := none, payment
    spec := sampleSpec }

def sampleAdmission (request : CreateDealRequest) : ProviderAction :=
  .createDealRecord request "d" (.ok ()) (.ok ()) false "" 5

def sampleClaim (request : MaterializationRequest) : MaterializationRecord :=
  { request.record "d" 5 with claimToken := some "t", claimExpiresAt := some 305 }

end Froglet
