import Froglet.Provider.System

/-!
# What an action can write

The effects of an action are computed by some twenty functions with their guards. An
invariant proved from their bodies would repeat every guard, so `Arises` says once what an
effect tells of the state and the action it comes from: the row it saw, the claim it held,
the receipt it signed.

`arises_of_mem` proves it for every action but an admission, `admits_of_isAdmission` for
that one. The invariants of the later modules are shown by cases on it and never unfold an
action.
-/

namespace Froglet

open List Option

variable {P : Primitives} {a : ProviderAction}
variable {deal : StoredDeal} {record : MaterializationRecord}
variable {bundle : Option LightningInvoiceBundleSession} {now : ℤ} {evidence : String}
variable {session : LightningInvoiceBundleSession} {recoveredAt : ℤ} {answers : RecoveryAnswers}
variable {reservation : PaymentReservation} {observations : List Observation}
variable {decision : DealRecoveryDecision}
variable {phase : RunPhase} {effects : List Effect} {p : Prop}
variable {message evidence paymentHash code : String} {output : WorkloadRunOutput}
variable {failure : ReceiptFailure} {payment : IncomingPayment}
variable {answer : Except String IncomingPayment} {state : PaymentReservationState}
variable {refs : RecoveredDealSettlementRefs} {e : Effect}

/-! ## Inert effects -/

def DealCall.isInert : DealCall → Bool
  | holdExternalOutcome .. | stageResultReady .. | stageSettlementPending ..
  | cancelUnadmitted .. => true
  | _ => false

def Effect.isInert : Effect → Bool
  | call c => c.isInert
  | observe (.deal _) | observe (.claim _) | observe (.reservation ..) => false
  | observe _ => true
  | setClaim .. | deleteMaterialization .. | insertBundle .. | updateBundle ..
  | insertOutbox .. | deleteOutbox .. => true
  | _ => false

/-! ## Staged settlements -/

def ProviderState.Knows (s : ProviderState) (deal : StoredDeal) : Prop :=
  .deal deal ∈ s.held ∨ deal ∈ s.workers

inductive Staged (env : ProviderEnv P) (s : ProviderState) (a : ProviderAction) :
    Prop
  | capture {deal : StoredDeal} {output : WorkloadRunOutput} {evidence : String} {now : ℤ}
      (hdeal : s.Knows deal) (hmethod : deal.paymentMethod = some .stripe)
      (hcas : (stageDealResultReady P deal.dealId output.persistedResult (some output.resultHash)
        (some evidence) now s.store.deals).1 = true)
      (hfresh : s.outbox.any (·.dealId == deal.dealId) = false)
      (ha : a.effects env s
        = [.call (.stageResultReady deal.dealId output.persistedResult output.resultHash
            evidence now),
          .insertOutbox
            { dealId := deal.dealId, createdAt := now
              details := .succeeded output.resultFormat output.resultEnvelopeHash }])
  | cancel {deal : StoredDeal} {failure : ReceiptFailure} {evidence : String} {now : ℤ}
      (hdeal : s.Knows deal) (hmethod : deal.paymentMethod = some .stripe)
      (hcas : (stageDealSettlementPendingFailure deal.dealId failure.message evidence now
        s.store.deals).1 = true)
      (hfresh : s.outbox.any (·.dealId == deal.dealId) = false)
      (ha : a.effects env s
        = [.call (.stageSettlementPending deal.dealId failure.message evidence now),
          .insertOutbox { dealId := deal.dealId, createdAt := now, details := .failed failure }])
  | result {deal : StoredDeal} {output : WorkloadRunOutput} {evidence : String} {now : ℤ}
      (hdeal : s.Knows deal) (hmethod : deal.paymentMethod = some .lightning)
      (ha : a.effects env s
        = [.call (.stageResultReady deal.dealId output.persistedResult output.resultHash
          evidence now)])
  | settled {record : StripeSettlementOutboxRecord} {deal : StoredDeal} {call : DealCall}
      {old new : DealStatus} {r : SignedReceipt}
      (hid : deal.dealId = record.dealId)
      (htarget : call.target = some (deal.dealId, old, new)) (hreceipt : call.receipt = some r)
      (hcas : s.statusIs deal.dealId old = true)
      (ha : a.effects env s = [.call call, .deleteOutbox record.dealId])

/-! ## Claims -/

def ProviderAction.claim : ProviderAction → Option MaterializationRecord
  | renewOwnedMaterializationClaim record _ | rescheduleOwnedMaterialization record _
  | deleteOwnedMaterialization record | failPendingDealMaterialization _ record _ _ _
  | persistLightningBundle record _ | prepareStripePayment record _ _ _
  | setStripeResource record _ | finalizeStripePayment record _ _
  | persistPrepaidInvoice record _ _ _ => some record
  | _ => none

def MaterializationRecord.claimedBy (record : MaterializationRecord) (claimToken : String)
    (now : ℤ) : MaterializationRecord :=
  { record with
    claimToken := some claimToken, claimExpiresAt := some (saturatingAddI64 now claimTtlSecs) }

structure Owns (s : ProviderState) (a : ProviderAction) (record : MaterializationRecord) :
    Prop where
  claim : a.claim = some record
  held : .claim record ∈ s.held
  owned : s.ownsClaim record = true

inductive Rewrites (s : ProviderState) (a : ProviderAction) (dealId : String) : Prop
  | owner {record : MaterializationRecord} (ha : a.claim = some record)
      (hheld : .claim record ∈ s.held) (hid : record.dealId = dealId)
      (hcurrent : ∀ current, s.getMaterialization dealId = some current →
        current.claimToken = record.claimToken)
  | claims {claimToken : String} {now : ℤ}
      (ha : a = .claimDealMaterialization dealId claimToken now)
      (hfree : ∀ current, s.getMaterialization dealId = some current →
        current.claimToken = none ∨ current.claimExpiresAt.all (· ≤ now) = true)
  | starting (h : s.phase = .starting)

inductive Cancels (s : ProviderState) (a : ProviderAction) (dealId : String) : Prop
  | owner {deal : StoredDeal} {record : MaterializationRecord} {message evidence : String} {now : ℤ}
      (ha : a = .failPendingDealMaterialization deal record message evidence now)
      (hclaim : .claim record ∈ s.held) (hid : record.dealId = dealId)
      (hcurrent : (s.getMaterialization dealId).any (·.claimToken == record.claimToken) = true)
  | interrupted {deal : StoredDeal} {message evidence : String} {now : ℤ}
      (ha : a = .failInterruptedMaterialization deal message evidence now)
      (hphase : s.phase = .starting)

/-- The bundle is signed for the session, the deal and the fees of the request. -/
structure BuildLightningInvoiceBundleRequest.Signs (request : BuildLightningInvoiceBundleRequest)
    (session : LightningInvoiceBundleSession) : Prop where
  sessionId : session.sessionId = request.sessionId
  dealHash : session.bundle.payload.dealHash = request.dealHash
  baseFee : session.bundle.payload.baseFee.amountMsat = request.baseFeeMsat
  successFee : session.bundle.payload.successFee.amountMsat = request.successFeeMsat

theorem signs_of_signLightningInvoiceBundle {node : NodeIdentity P}
    {request : BuildLightningInvoiceBundleRequest} {issued : IssuedInvoices}
    {session : LightningInvoiceBundleSession}
    (h : signLightningInvoiceBundle node request issued = .ok session) : request.Signs session := by
  obtain ⟨bundle, hsign, hsession⟩ := bind_eq_ok.mp h
  obtain rfl := Except.ok.inj hsession
  have hpayload := (authentic_of_signArtifact P node.verifies hsign).2.2.2
  constructor <;> first | rfl | rw [hpayload]

structure Bundled (env : ProviderEnv P) (s : ProviderState) (a : ProviderAction)
    (session : LightningInvoiceBundleSession) : Prop where
  persisted : ∃ record issued request, a = .persistLightningBundle record issued
    ∧ Owns s a record ∧ record.request = .lightningInvoiceBundle request
    ∧ signLightningInvoiceBundle env.signer.toNodeIdentity request issued = .ok session
    ∧ s.getBundleByDealHash request.dealHash = none
    ∧ a.effects env s = [.insertBundle session, .deleteMaterialization record.dealId]

def Effect.Reason (env : ProviderEnv P) (s : ProviderState) (a : ProviderAction) :
    Effect → Prop
  | call (.stageResultReady ..) | call (.stageSettlementPending ..) | insertOutbox _
  | deleteOutbox _ => Staged env s a
  | call (.cancelUnadmitted dealId ..) => Cancels s a dealId
  | setClaim dealId _ _ _ => Rewrites s a dealId ∧ s.phase = .serving
  | deleteMaterialization dealId => Rewrites s a dealId
  | insertBundle session => Bundled env s a session
  | observe (.outbox record) => record ∈ s.outbox
  | observe (.bundle session) => ∃ session₀ ∈ s.bundles, session₀.bundle = session.bundle
  | _ => True

/-! ## Receipts -/

def ProviderAction.Recovers (a : ProviderAction) (item : RecoveryItem) (recoveredAt : ℤ) : Prop :=
  ∃ plan, (a = .recoverRuntimeStateLocal plan recoveredAt
    ∨ a = .recoverRuntimeStateRemote plan recoveredAt) ∧ item ∈ plan

/-- Why a receipt was signed for a deal, by an action. -/
inductive ReceiptCause (env : ProviderEnv P) (a : ProviderAction)
    (deal : StoredDeal) (r : SignedReceipt) : Prop
  | rejected {site : RejectSite} {bundle : Option LightningInvoiceBundleSession}
      {message evidence : String} {now : ℤ}
      (ha : a = .rejectDealBeforeExecution site deal bundle message evidence now)
      (hbundle : ∀ session ∈ bundle, session.isOf deal = true)
      (hstatus : deal.paymentMethod ≠ some .lightning → deal.status = .accepted)
      (hsign : signDealReceipt env.signer deal now (rejectionSpec bundle message) = .ok r)
  | succeeded {output : WorkloadRunOutput} {answer : Except String IncomingPayment}
      {evidence : String} {now : ℤ} {prepaid : Option PrepaidSettlementInfo}
      (ha : a = .executionSucceeded deal output answer evidence now)
      (hmethod : deal.paymentMethod = none ∨ deal.paymentMethod = some .lightningPrepaid)
      (hsettled : executionSettlement P deal answer = .ok prepaid)
      (hsign : signDealReceipt env.signer deal now (successSpec output prepaid) = .ok r)
  | failed {failure : ReceiptFailure} {bundle : Option LightningInvoiceBundleSession}
      {answer : Except String IncomingPayment} {evidence : String} {now : ℤ}
      {prepaid : Option PrepaidSettlementInfo}
      (ha : a = .executionFailed deal failure bundle answer evidence now)
      (hbundle : ∀ session ∈ bundle, session.isOf deal = true)
      (hmethod : deal.paymentMethod ≠ some .stripe)
      (hsettled : executionSettlement P deal answer = .ok prepaid)
      (hsign : signDealReceipt env.signer deal now (failureSpec failure bundle prepaid) = .ok r)
  | lightningSuccess {session : LightningInvoiceBundleSession} {release : Bool} {now : ℤ}
      {resultHash : String}
      (ha : a = .persistLightningSuccessReceipt deal session release now)
      (hof : session.isOf deal = true)
      (hsign : signDealReceipt env.signer deal now (lightningSuccessSpec session resultHash)
        = .ok r)
  | lightningFailure {session : LightningInvoiceBundleSession} {evidence : String} {now : ℤ}
      {outcome : LightningSettlementFailureOutcome}
      (ha : a = .persistLightningTerminalFailureReceipt deal session evidence now)
      (hof : session.isOf deal = true)
      (houtcome : lightningSettlementFailureDetails deal session = some outcome)
      (hsign : signDealReceipt env.signer deal now (lightningFailureSpec deal session outcome)
        = .ok r)
  | unpaid {paymentHash : String} {payment : IncomingPayment} {evidence : String} {now : ℤ}
      (ha : a = .failUnpaidPrepaidDeal deal paymentHash payment evidence now)
      (hmethod : deal.paymentMethod = some .lightningPrepaid)
      (hpaid : payment.isPaid = false) (hdeadline : deal.artifact.payload.admissionDeadline < now)
  | stripe {record : StripeSettlementOutboxRecord} {state : PaymentReservationState}
      {spec : ReceiptSignSpec} (hspec : stripeSpec deal record.details state = some spec)
      (hsign : signDealReceipt env.signer deal record.createdAt spec = .ok r)
      (hvalid : ensureValidLocalReceipt P r = true) {evidence : String} {now : ℤ}
      (ha : a = .reconcileStripeSettlementRecord record deal state evidence now)
  | recovered (hvalid : (validateQuoteDealReceipt P deal.quote deal.artifact r none).valid = true)
      {item : RecoveryItem} {recoveredAt : ℤ} {failure : RecoveredDealFailure}
      (ha : a.Recovers item recoveredAt) (hdeal : item.deal = deal)
      (hrail : deal.paymentMethod = some .lightning
        ∨ ∃ plan, item ∈ plan ∧ a = .recoverRuntimeStateLocal plan recoveredAt)
      (hclassify : classifyDealRecovery env item.deal item.answers recoveredAt
        = .ok (.fail failure))
      (hreceipt : failure.receipt = r)

/-! ## The list -/

structure RecoveryItem.Resets (s : ProviderState) (item : RecoveryItem) (recoveredAt : ℤ) :
    Prop where
  running : item.deal.status = .running
  still : s.statusIs item.deal.dealId .running = true
  inProcess : item.deal.spec.externalContainer = false
  inTime : recoveredAt ≤ item.deal.artifact.payload.completionDeadline
  funded : item.deal.paymentMethod = some .lightning →
    ∀ session ∈ item.answers.synced, lightningBundleIsFunded session = true

/-- A holder of a claim knows a reservation: it was read, or it is the record's own. -/
def ProviderState.Reserved (s : ProviderState) (record : MaterializationRecord)
    (reservation : PaymentReservation) : Prop :=
  .reservation record.dealId reservation ∈ s.held
    ∨ ∃ resource ∈ record.resource, resource.intoReservation = .ok reservation

inductive Arises (env : ProviderEnv P) (s : ProviderState) (a : ProviderAction) :
    Effect → Prop
  | inert {e : Effect} (h : e.isInert = true) (hreason : e.Reason env s a) : Arises env s a e
  | restart {decodes : StoredDeal → Bool} (ha : a = .restart decodes) :
      Arises env s a (.restart decodes)
  | serve (hphase : s.phase = .starting) : Arises env s a .serve
  | returned (deal : StoredDeal) : Arises env s a (.workerReturned deal)
  | readDeal {row : StoredDeal} (h : row ∈ s.store.deals) : Arises env s a (.observe (.deal row))
  | claimed {record : MaterializationRecord} (h : record ∈ s.materializations)
      {claimToken : String} {now : ℤ}
      (ha : a = .claimDealMaterialization record.dealId claimToken now)
      (hfree : record.claimToken = none ∨ record.claimExpiresAt.all (· ≤ now) = true) :
      Arises env s a (.observe (.claim (record.claimedBy claimToken now)))
  | reserved {record : MaterializationRecord} {priceSats : ℕ} {payment : ProvidedPayment}
      {requestId : String} {deal : StoredDeal} {answer : DriverAnswer} {now : ℤ}
      {reservation : PaymentReservation}
      (hact : a = .prepareStripePayment record deal answer now) (hclaim : .claim record ∈ s.held)
      (hrequest : record.request = .stripePayment priceSats payment requestId)
      (hprepare : preparePaymentForAmount env.config priceSats (some payment) requestId answer
        = .ok (some reservation))
      (ha : a.effects env s = [.observe (.driverAnswer record.dealId answer),
        .observe (.reservation record.dealId reservation)]) :
      Arises env s a (.observe (.reservation record.dealId reservation))
  | stored {record : MaterializationRecord} {reservation : PaymentReservation}
      (hclaim : .claim record ∈ s.held)
      (hreservation : s.Reserved record reservation)
      (phase : MaterializationPhase) (hrewrites : Rewrites s a record.dealId)
      (hcleanup : phase = .cleanupPending → ∃ row ∈ s.store.deals, row.dealId = record.dealId
        ∧ row.status ≠ .paymentPending ∧ row.paymentTokenHash ≠ some reservation.tokenHash) :
      Arises env s a (.setResource record.dealId phase (.fromReservation reservation))
  | paidStripe {record : MaterializationRecord} {reservation : PaymentReservation}
      (hclaim : .claim record ∈ s.held)
      (hreservation : s.Reserved record reservation) (now : ℤ)
      (howns : Owns s a record)
      (ha : a.effects env s = [.call (.materializeStripe record.dealId reservation.tokenHash
        reservation.amountSats now), .deleteMaterialization record.dealId]) :
      Arises env s a (.call (.materializeStripe record.dealId reservation.tokenHash
        reservation.amountSats now))
  | invoiced {record : MaterializationRecord} {invoice : PrepaidInvoice}
      (hnew : s.getPrepaidInvoice record.dealId = none) (now : ℤ) (howns : Owns s a record)
      (ha : a.effects env s
          = [.insertPrepaidInvoice record.dealId invoice, .deleteMaterialization record.dealId]
        ∨ a.effects env s
          = [.insertPrepaidInvoice record.dealId invoice, .deleteMaterialization record.dealId,
            .call (.materializePrepaid record.dealId invoice.paymentHash invoice.amountSat now)]) :
      Arises env s a (.insertPrepaidInvoice record.dealId invoice)
  | paidPrepaid {record : MaterializationRecord} {amountSats : ℕ} {externalId : String}
      (hclaim : .claim record ∈ s.held)
      (hrequest : record.request = .prepaidInvoice amountSats externalId)
      {invoice : PrepaidInvoice}
      (hinvoice : .insertPrepaidInvoice record.dealId invoice ∈ a.effects env s)
      (paymentHash : String) (now : ℤ) :
      Arises env s a (.call (.materializePrepaid record.dealId paymentHash amountSats now))
  | promotedLightning {deal : StoredDeal} {session : LightningInvoiceBundleSession}
      (hdeal : .deal deal ∈ s.held) (hsession : .bundle session ∈ s.held)
      (hof : session.isOf deal = true) (hfunded : lightningBundleIsFunded session = true)
      (now : ℤ) : Arises env s a (.call (.promote deal.dealId now))
  | promotedPrepaid {deal : StoredDeal} {paymentHash : String} {amountSats : ℕ}
      {payment : IncomingPayment} (hdeal : .deal deal ∈ s.held)
      (hpayment : .payment paymentHash payment ∈ s.held)
      (hmethod : deal.paymentMethod = some .lightningPrepaid)
      (htoken : deal.paymentTokenHash = some paymentHash)
      (hamount : deal.paymentAmountSats = some amountSats)
      (hproof : validatePrepaidPaymentProof P paymentHash amountSats payment = .ok ())
      (now : ℤ) : Arises env s a (.call (.promote deal.dealId now))
  | started {deal : StoredDeal} (hdeal : .deal deal ∈ s.held) (now : ℤ) :
      Arises env s a (.call (.tryMarkDealRunning deal.dealId now))
  | spawned {deal : StoredDeal} (hphase : s.phase = .serving) (hdeal : .deal deal ∈ s.held)
      {now : ℤ}
      (ha : a.effects env s = [.call (.tryMarkDealRunning deal.dealId now), .spawn deal])
      (hcas : (tryMarkDealRunning deal.dealId now s.store.deals).1 = true) :
      Arises env s a (.spawn deal)
  | resetLocal (hphase : s.phase = .starting) (dealId : String) (recoveredAt : ℤ) :
      Arises env s a (.call (.resetRunningDealToAccepted dealId recoveredAt))
  | resetRemote {plan : List RecoveryItem} {recoveredAt : ℤ} {item : RecoveryItem}
      (ha : a = .recoverRuntimeStateRemote plan recoveredAt) (hitem : item ∈ plan)
      (hresets : item.Resets s recoveredAt) :
      Arises env s a (.call (.resetRunningDealToAccepted item.deal.dealId recoveredAt))
  | ended {call : DealCall} {deal : StoredDeal} {old new : DealStatus}
      {r : SignedReceipt} (hdeal : s.Knows deal)
      (htarget : call.target = some (deal.dealId, old, new)) (hreceipt : call.receipt = some r)
      (hcause : ReceiptCause env a deal r) : Arises env s a (.call call)

/-! ## Function by function -/

section Functions

variable {env : ProviderEnv P} {s : ProviderState}
  {e : Effect}

theorem mem_during (h : e ∈ s.during phase observations effects) :
    s.phase = phase ∧ (∀ o ∈ observations, o ∈ s.held) ∧ e ∈ effects := by
  unfold ProviderState.during at h
  split at h
  case isTrue hguard => exact ⟨hguard.1, hguard.2, h⟩
  case isFalse => cases h

theorem during_eq (hphase : s.phase = phase) (hheld : ∀ o ∈ observations, o ∈ s.held) :
    s.during phase observations effects = effects :=
  if_pos ⟨hphase, hheld⟩

theorem mem_guarded [Decidable p] (h : e ∈ if p then effects else []) : p ∧ e ∈ effects := by
  split at h
  case isTrue hp => exact ⟨hp, h⟩
  case isFalse => cases h

theorem Owns.rewrites (h : Owns s a record) : Rewrites s a record.dealId := by
  refine .owner h.claim h.held rfl (fun current hcurrent => ?_)
  have howns := h.owned
  unfold ProviderState.ownsClaim at howns
  rw [hcurrent] at howns
  exact beq_iff_eq.mp (Bool.and_eq_true_iff.mp howns).2

section

variable (ha : a.claim = some record) (hheld : .claim record ∈ s.held)
include ha hheld

theorem arises_deleteOwnedMaterialization (h : e ∈ deleteOwnedMaterialization s record) :
    Arises env s a e := by
  unfold deleteOwnedMaterialization at h
  obtain ⟨howns, h⟩ := mem_guarded h
  rw [mem_singleton.mp h]
  exact .inert rfl (Owns.rewrites ⟨ha, hheld, howns⟩)

theorem arises_renewOwnedMaterializationClaim (hphase : s.phase = .serving)
    (h : e ∈ renewOwnedMaterializationClaim s record now) : Arises env s a e := by
  unfold renewOwnedMaterializationClaim at h
  split at h
  case h_1 current howns _ =>
    rw [mem_singleton.mp h]
    exact .inert rfl ⟨Owns.rewrites ⟨ha, hheld, howns⟩, hphase⟩
  case h_2 => cases h

theorem arises_rescheduleOwnedMaterialization {nextAttemptAt : ℤ} (hphase : s.phase = .serving)
    (h : e ∈ rescheduleOwnedMaterialization s record nextAttemptAt) : Arises env s a e := by
  unfold rescheduleOwnedMaterialization at h
  obtain ⟨howns, h⟩ := mem_guarded h
  rw [mem_singleton.mp h]
  exact .inert rfl ⟨Owns.rewrites ⟨ha, hheld, howns⟩, hphase⟩

end

theorem arises_failPendingDealMaterialization {claimToken : Option String}
    (hreason : (s.getMaterialization deal.dealId).any (·.claimToken == claimToken) = true →
      Cancels s a deal.dealId ∧ Rewrites s a deal.dealId)
    (h : e ∈ failPendingDealMaterialization s deal claimToken message evidence now) :
    Arises env s a e := by
  unfold failPendingDealMaterialization at h
  obtain ⟨hguard, h⟩ := mem_guarded h
  simp only [Bool.and_eq_true] at hguard
  obtain rfl | rfl := mem_pair.mp h
  · exact .inert rfl (hreason hguard.1.2).1
  · exact .inert rfl (hreason hguard.1.2).2

theorem arises_persistLightningBundle {issued : IssuedInvoices}
    (ha : a = .persistLightningBundle record issued) (hheld : .claim record ∈ s.held)
    (heffects : a.effects env s = persistLightningBundle env s record issued)
    (h : e ∈ persistLightningBundle env s record issued) : Arises env s a e := by
  have hclaim : a.claim = some record := by
    rw [ha]
    rfl
  unfold persistLightningBundle at h heffects
  split at h
  case h_2 => cases h
  case h_1 request hrequest =>
    simp only [hrequest] at heffects
    split at h
    case h_1 => cases h
    case h_2 session hsign =>
      simp only [hsign] at heffects
      split at h
      case h_1 => exact arises_deleteOwnedMaterialization hclaim hheld h
      case h_2 hnew =>
        simp only [hnew] at heffects
        obtain ⟨hguard, h⟩ := mem_guarded h
        rw [if_pos hguard] at heffects
        have howns : Owns s a record := ⟨hclaim, hheld, (Bool.and_eq_true_iff.mp hguard).1⟩
        obtain rfl | rfl := mem_pair.mp h
        · exact .inert rfl ⟨record, issued, request, ha, howns, hrequest, hsign, hnew, heffects⟩
        · exact .inert rfl howns.rewrites

theorem arises_syncLightningBundle {sessionId : String}
    {baseState successState : InvoiceBundleLegState}
    (h : e ∈ syncLightningBundle s sessionId baseState successState) : Arises env s a e := by
  unfold syncLightningBundle at h
  split at h
  case h_1 => cases h
  case h_2 session hsession =>
    obtain rfl | rfl := mem_pair.mp h
    · exact .inert rfl trivial
    · exact .inert rfl ⟨session, (Table.selectWhere_some hsession).1, rfl⟩

theorem arises_of_staged {call : DealCall} {record : StripeSettlementOutboxRecord}
    (h : e ∈ [Effect.call call, .insertOutbox record]) (hstaged : Staged env s a)
    (hinert : call.isInert = true) (hreason : (Effect.call call).Reason env s a) :
    Arises env s a e := by
  obtain rfl | rfl := mem_pair.mp h
  · exact .inert hinert hreason
  · exact .inert rfl hstaged

theorem arises_stageStripeCapture (hdeal : s.Knows deal)
    (hmethod : deal.paymentMethod = some .stripe)
    (ha : a.effects env s = stageStripeCapture (P := P) s deal output evidence now)
    (h : e ∈ stageStripeCapture (P := P) s deal output evidence now) : Arises env s a e := by
  unfold stageStripeCapture at h ha
  obtain ⟨hguard, h⟩ := mem_guarded h
  rw [if_pos hguard] at ha
  have ⟨hcas, hfresh⟩ := Bool.and_eq_true_iff.mp hguard
  have hstaged := Staged.capture hdeal hmethod hcas (Bool.not_eq_true' _ ▸ hfresh) ha
  exact arises_of_staged h hstaged rfl hstaged

theorem arises_stageStripeCancel (hdeal : s.Knows deal)
    (hmethod : deal.paymentMethod = some .stripe)
    (ha : a.effects env s = stageStripeCancel s deal failure evidence now)
    (h : e ∈ stageStripeCancel s deal failure evidence now) : Arises env s a e := by
  unfold stageStripeCancel at h ha
  obtain ⟨hguard, h⟩ := mem_guarded h
  rw [if_pos hguard] at ha
  have ⟨hcas, hfresh⟩ := Bool.and_eq_true_iff.mp hguard
  have hstaged := Staged.cancel hdeal hmethod hcas (Bool.not_eq_true' _ ▸ hfresh) ha
  exact arises_of_staged h hstaged rfl hstaged

theorem arises_claimDealMaterialization {dealId claimToken : String}
    (ha : a = .claimDealMaterialization dealId claimToken now) (hphase : s.phase = .serving)
    (h : e ∈ claimDealMaterialization s dealId claimToken now) : Arises env s a e := by
  unfold claimDealMaterialization at h
  split at h
  case h_1 => cases h
  case h_2 record hrecord =>
    obtain ⟨hguard, h⟩ := mem_guarded h
    obtain ⟨hmem, hid⟩ := Table.selectWhere_some hrecord
    have hfree := (Bool.or_eq_true_iff.mp (Bool.and_eq_true_iff.mp hguard).2).imp_left
      isNone_iff_eq_none.mp
    simp only [List.cons_append, List.nil_append, List.mem_cons, List.mem_map, mem_toList] at h
    obtain rfl | rfl | ⟨row, hrow, rfl⟩ := h
    · refine .inert rfl ⟨.claims ha (fun current hcurrent => ?_), hphase⟩
      obtain rfl := some.inj (hrecord.symm.trans hcurrent)
      exact hfree
    · exact .claimed hmem (beq_iff_eq.mp hid ▸ ha) hfree
    · exact .readDeal (mem_of_getDeal hrow).1

theorem arises_prepareStripePayment {answer : DriverAnswer}
    (hact : a = .prepareStripePayment record deal answer now) (hclaim : .claim record ∈ s.held)
    (ha : a.effects env s = prepareStripePayment env record deal answer now)
    (h : e ∈ prepareStripePayment env record deal answer now) : Arises env s a e := by
  unfold prepareStripePayment at h ha
  split at h
  case h_2 => cases h
  case h_1 priceSats payment requestId hrequest hphase =>
    simp only [hrequest, hphase] at ha
    obtain ⟨htime, h⟩ := mem_guarded h
    rw [if_pos htime] at ha
    split at h
    case h_2 => cases h
    case h_1 reservation hprepare =>
      simp only [hprepare] at ha
      obtain rfl | rfl := mem_pair.mp h
      · exact .inert rfl trivial
      · exact .reserved hact hclaim hrequest hprepare ha

theorem arises_setStripeResource (ha : a.claim = some record)
    (hclaim : .claim record ∈ s.held) (hheld : .reservation record.dealId reservation ∈ s.held)
    (h : e ∈ setStripeResource s record reservation) : Arises env s a e := by
  unfold setStripeResource at h
  obtain ⟨howns, h⟩ := mem_guarded h
  rw [mem_singleton.mp h]
  exact .stored hclaim (.inl hheld) _ (Owns.rewrites ⟨ha, hclaim, howns⟩)
    MaterializationPhase.noConfusion

theorem hasReservation_cases (h : s.hasReservation record reservation = true) :
    s.Reserved record reservation := by
  unfold ProviderState.hasReservation at h
  split at h
  case h_1 => exact .inl (of_decide_eq_true h)
  case h_2 resource _ hresource =>
    split at h
    case h_1 stored hstored =>
      obtain rfl : stored = reservation := beq_iff_eq.mp h
      exact .inr ⟨resource, hresource, hstored⟩
    case h_2 => cases h
  case h_3 => cases h

theorem arises_finalizeStripePayment (hisClaim : a.claim = some record)
    (hclaim : .claim record ∈ s.held) (hhas : s.hasReservation record reservation = true)
    (ha : a.effects env s = finalizeStripePayment s record reservation now)
    (h : e ∈ finalizeStripePayment s record reservation now) : Arises env s a e := by
  have hreservation := hasReservation_cases hhas
  unfold finalizeStripePayment at h ha
  split at h
  case h_2 => cases h
  case h_1 current materialization hcurrent hrecord =>
    simp only [hcurrent, hrecord] at ha
    obtain ⟨hguard, h⟩ := mem_guarded h
    rw [if_pos hguard] at ha
    have howns : Owns s a record := ⟨hisClaim, hclaim, (Bool.and_eq_true_iff.mp hguard).1⟩
    split at h
    case isTrue =>
      rw [mem_singleton.mp h]
      exact .inert rfl howns.rewrites
    case isFalse htoken =>
      rw [if_neg htoken] at ha
      split at h
      case isTrue hstatus =>
        rw [mem_singleton.mp h]
        refine .stored hclaim hreservation _ howns.rewrites (fun _ => ⟨current, ?_⟩)
        obtain ⟨hmem, hid⟩ := mem_of_getDeal hcurrent
        exact ⟨hmem, hid, bne_iff_ne.mp hstatus, fun h => htoken (beq_iff_eq.mpr h)⟩
      case isFalse hstatus =>
        rw [if_neg hstatus] at ha
        split at h
        case h_2 => cases h
        case h_1 hpaid =>
          simp only [hpaid] at ha
          obtain rfl | rfl := mem_pair.mp h
          · exact .paidStripe hclaim hreservation now howns ha
          · exact .inert rfl howns.rewrites

theorem arises_persistPrepaidInvoice {bolt11 : String} (hisClaim : a.claim = some record)
    (hclaim : .claim record ∈ s.held)
    (ha : a.effects env s = persistPrepaidInvoice s record bolt11 paymentHash now)
    (h : e ∈ persistPrepaidInvoice s record bolt11 paymentHash now) : Arises env s a e := by
  unfold persistPrepaidInvoice at h ha
  split at h
  case h_2 => cases h
  case h_1 amountSats externalId current hrequest hphase hcurrent =>
    simp only [hrequest, hphase, hcurrent] at ha
    split at h
    case h_1 existing _ =>
      obtain ⟨-, h⟩ := mem_guarded h
      exact arises_deleteOwnedMaterialization hisClaim hclaim h
    case h_2 hnew =>
      obtain ⟨howns, h⟩ := mem_guarded h
      have hisOwner : Owns s a record := ⟨hisClaim, hclaim, howns⟩
      simp only [hnew, howns, if_true] at ha
      split at h
      case isTrue hbound =>
        rw [if_pos hbound] at ha
        obtain rfl | rfl := mem_pair.mp h
        · exact .invoiced hnew now hisOwner (.inl ha)
        · exact .inert rfl hisOwner.rewrites
      case isFalse hbound =>
        rw [if_neg hbound] at ha
        split at h
        case h_2 => cases h
        case h_1 deals hpaid =>
          simp only [hpaid] at ha
          have hinvoice : .insertPrepaidInvoice record.dealId
              { bolt11, paymentHash, amountSat := amountSats } ∈ a.effects env s := by
            rw [ha]
            exact mem_cons_self
          simp only [cons_append, nil_append, mem_cons, not_mem_nil, or_false] at h
          obtain rfl | rfl | rfl := h
          · exact .invoiced hnew now hisOwner (.inr ha)
          · exact .inert rfl hisOwner.rewrites
          · exact .paidPrepaid hclaim hrequest hinvoice paymentHash now

theorem arises_promoteLightningDealIfFunded (hdeal : .deal deal ∈ s.held)
    (hsession : .bundle session ∈ s.held) (hof : session.isOf deal = true)
    (h : e ∈ promoteLightningDealIfFunded deal session now) : Arises env s a e := by
  unfold promoteLightningDealIfFunded at h
  obtain ⟨hguard, h⟩ := mem_guarded h
  rw [mem_singleton.mp h]
  exact .promotedLightning hdeal hsession hof (Bool.and_eq_true_iff.mp hguard).2 now

theorem arises_promotePrepaidDealIfPaid (hdeal : .deal deal ∈ s.held)
    (hpayment : .payment paymentHash payment ∈ s.held)
    (h : e ∈ promotePrepaidDealIfPaid (P := P) deal paymentHash payment now) :
    Arises env s a e := by
  unfold promotePrepaidDealIfPaid at h
  split at h
  case h_2 => cases h
  case h_1 token amountSats htoken hamount =>
    obtain ⟨hguard, hmem⟩ := mem_guarded h
    simp only [Bool.and_eq_true, beq_iff_eq, passes_iff] at hguard
    obtain ⟨⟨⟨-, hmethod⟩, rfl⟩, hproof⟩ := hguard
    rw [mem_singleton.mp hmem]
    exact .promotedPrepaid hdeal hpayment hmethod htoken hamount hproof now

theorem arises_startExecution (hphase : s.phase = .serving) (hdeal : .deal deal ∈ s.held)
    (ha : a.effects env s = startExecution env s deal now) (h : e ∈ startExecution env s deal now) :
    Arises env s a e := by
  unfold startExecution at h ha
  obtain ⟨hguard, h⟩ := mem_guarded h
  rw [if_pos hguard] at ha
  obtain rfl | rfl := mem_pair.mp h
  · exact .started hdeal now
  · exact .spawned hphase hdeal ha (Bool.and_eq_true_iff.mp hguard).2

section

variable (hdeal : s.Knows deal)
include hdeal

theorem arises_of_ended {call : DealCall} {old new : DealStatus} {r : SignedReceipt}
    (htarget : call.target = some (deal.dealId, old, new)) (hreceipt : call.receipt = some r)
    (hcause : ReceiptCause env a deal r) [Decidable p]
    (h : e ∈ if p then [Effect.call call] else []) : Arises env s a e := by
  obtain ⟨-, h⟩ := mem_guarded h
  rw [mem_singleton.mp h]
  exact .ended hdeal htarget hreceipt hcause

theorem arises_rejectDealBeforeExecution {site : RejectSite}
    (ha : a = .rejectDealBeforeExecution site deal bundle message evidence now)
    (hbundle : ∀ session ∈ bundle, session.isOf deal = true)
    (hstatus : deal.paymentMethod ≠ some .lightning → deal.status = .accepted)
    (h : e ∈ rejectDealBeforeExecution env s site deal bundle message evidence now) :
    Arises env s a e := by
  unfold rejectDealBeforeExecution at h
  split at h
  case h_1 => cases h
  case h_2 receipt hsign =>
    exact arises_of_ended hdeal rfl rfl (.rejected ha hbundle hstatus hsign) h

theorem arises_executionSucceeded (ha : a = .executionSucceeded deal output answer evidence now)
    (heffects : a.effects env s = executionSucceeded env s deal output answer evidence now)
    (h : e ∈ executionSucceeded env s deal output answer evidence now) : Arises env s a e := by
  unfold executionSucceeded at h heffects
  split at h
  case h_1 hmethod =>
    simp only [hmethod] at heffects
    exact arises_stageStripeCapture hdeal hmethod heffects h
  case h_2 hmethod =>
    simp only [hmethod] at heffects
    obtain ⟨hguard, h⟩ := mem_guarded h
    rw [if_pos hguard] at heffects
    rw [mem_singleton.mp h]
    exact .inert rfl (.result hdeal hmethod heffects)
  case h_3 hstripe hlightning =>
    have hmethod : deal.paymentMethod = none
        ∨ deal.paymentMethod = some .lightningPrepaid := by
      cases hm : deal.paymentMethod with
      | none => exact .inl rfl
      | some method =>
        cases method with
        | lightning => exact absurd hm hlightning
        | lightningPrepaid => exact .inr rfl
        | stripe => exact absurd hm hstripe
    split at h
    case h_1 => cases h
    case h_2 prepaid hsettled =>
      split at h
      case h_1 => cases h
      case h_2 receipt hsign =>
        exact arises_of_ended hdeal rfl rfl (.succeeded ha hmethod hsettled hsign) h

theorem arises_executionFailed (hbundle : ∀ session ∈ bundle, session.isOf deal = true)
    (ha : a = .executionFailed deal failure bundle answer evidence now) (heffects : a.effects env s
      = executionFailed env s deal failure bundle answer evidence now)
    (h : e ∈ executionFailed env s deal failure bundle answer evidence now) : Arises env s a e := by
  unfold executionFailed at h heffects
  split at h
  case h_1 hmethod =>
    simp only [hmethod] at heffects
    exact arises_stageStripeCancel hdeal hmethod heffects h
  case h_2 hstripe =>
    split at h
    case h_1 => cases h
    case h_2 prepaid hsettled =>
      split at h
      case h_1 => cases h
      case h_2 receipt hsign =>
        exact arises_of_ended hdeal rfl rfl (.failed ha hbundle hstripe hsettled hsign) h

theorem arises_persistLightningSuccessReceipt {release : Bool}
    (ha : a = .persistLightningSuccessReceipt deal session release now)
    (hof : session.isOf deal = true)
    (h : e ∈ persistLightningSuccessReceipt env s deal session now) : Arises env s a e := by
  unfold persistLightningSuccessReceipt at h
  split at h
  case h_2 => cases h
  case h_1 result resultHash _ _ =>
    split at h
    case h_1 => cases h
    case h_2 receipt hsign => exact arises_of_ended hdeal rfl rfl (.lightningSuccess ha hof hsign) h

theorem arises_persistLightningTerminalFailureReceipt
    (ha : a = .persistLightningTerminalFailureReceipt deal session evidence now)
    (hof : session.isOf deal = true)
    (h : e ∈ persistLightningTerminalFailureReceipt env s deal session evidence now) :
    Arises env s a e := by
  unfold persistLightningTerminalFailureReceipt at h
  split at h
  case h_1 => cases h
  case h_2 outcome houtcome =>
    split at h
    case h_1 => cases h
    case h_2 receipt hsign =>
      exact arises_of_ended hdeal rfl rfl (.lightningFailure ha hof houtcome hsign) h

theorem arises_failUnpaidPrepaidDeal
    (ha : a = .failUnpaidPrepaidDeal deal paymentHash payment evidence now)
    (h : e ∈ failUnpaidPrepaidDeal env s deal paymentHash payment evidence now) :
    Arises env s a e := by
  unfold failUnpaidPrepaidDeal at h
  obtain ⟨hguard, h⟩ := mem_guarded h
  simp only [Bool.and_eq_true, Bool.not_eq_true', decide_eq_true_eq, beq_iff_eq] at hguard
  obtain ⟨⟨⟨⟨⟨-, hmethod⟩, -⟩, -⟩, hpaid⟩, hdeadline⟩ := hguard
  split at h
  case h_1 => cases h
  case h_2 receipt _ => exact arises_of_ended hdeal rfl rfl (.unpaid ha hmethod hpaid hdeadline) h

end

theorem stripeCall_target {details : StripeSettlementOutboxDetails} {receipt : SignedReceipt}
    {call : DealCall} (h : stripeCall deal details state receipt evidence now = some call) :
    (∃ old new, call.target = some (deal.dealId, old, new)) ∧ call.receipt = some receipt := by
  unfold stripeCall at h
  split at h
  case h_1 =>
    cases hresult : deal.result <;> cases hhash : deal.resultHash <;>
      simp only [hresult, hhash, bind_eq_bind, bind_none, bind_some,
        Option.pure_def, Option.some.injEq, reduceCtorEq] at h
    subst h
    exact ⟨⟨_, _, rfl⟩, rfl⟩
  case h_2 =>
    rw [← some.inj h]
    exact ⟨⟨_, _, rfl⟩, rfl⟩
  case h_3 =>
    rw [← some.inj h]
    exact ⟨⟨_, _, rfl⟩, rfl⟩

theorem arises_reconcileStripeSettlementRecord {record : StripeSettlementOutboxRecord}
    (hdeal : s.Knows deal) (hid : deal.dealId = record.dealId)
    (ha : a = .reconcileStripeSettlementRecord record deal state evidence now)
    (heffects : a.effects env s
      = reconcileStripeSettlementRecord env s record deal state evidence now)
    (h : e ∈ reconcileStripeSettlementRecord env s record deal state evidence now) :
    Arises env s a e := by
  unfold reconcileStripeSettlementRecord at h heffects
  split at h
  case h_1 => cases h
  case h_2 spec hspec =>
    simp only [hspec] at heffects
    split at h
    case h_1 => cases h
    case h_2 receipt hsign =>
      simp only [hsign] at heffects
      split at h
      case h_1 => cases h
      case h_2 call hcall =>
        simp only [hcall] at heffects
        obtain ⟨hguard, h⟩ := mem_guarded h
        rw [if_pos hguard] at heffects
        obtain ⟨⟨old, new, htarget⟩, hreceipt⟩ := stripeCall_target hcall
        simp only [htarget, Bool.and_eq_true, any_some] at hguard
        obtain rfl | rfl := mem_pair.mp h
        · exact .ended hdeal htarget hreceipt (.stripe hspec hsign hguard.1.1 ha)
        · exact .inert rfl (.settled hid htarget hreceipt hguard.1.2 heffects)

/-! ### Recovery -/

def RecoveredDealFailure.Validated (P : Primitives) (deal : StoredDeal)
    (failure : RecoveredDealFailure) : Prop :=
  failure.deal = deal
    ∧ (validateQuoteDealReceipt P deal.quote deal.artifact failure.receipt none).valid = true

theorem validated_buildRecoveredDealFailure {failure : RecoveredDealFailure}
    (h : buildRecoveredDealFailure env deal recoveredAt refs code message = .ok failure) :
    failure.Validated P deal := by
  unfold buildRecoveredDealFailure at h
  obtain ⟨state, -, h⟩ := bind_eq_ok.mp h
  obtain ⟨receipt, -, h⟩ := bind_eq_ok.mp h
  obtain ⟨hvalid, h⟩ := check_eq_ok.mp h
  obtain rfl := pure_eq_ok.mp h
  exact ⟨rfl, by simpa using hvalid⟩

theorem validated_of_map {α : Type} {f : RecoveredDealFailure → α} {y : α}
    (h : (buildRecoveredDealFailure env deal recoveredAt refs code message).map f = .ok y) :
    ∃ failure, y = f failure ∧ failure.Validated P deal := by
  obtain ⟨failure, hbuilt, rfl⟩ := map_eq_ok.mp h
  exact ⟨failure, rfl, validated_buildRecoveredDealFailure hbuilt⟩

theorem recoverLightningBundle_ok {result : LightningInvoiceBundleSession ⊕ RecoveredDealFailure}
    (h : recoverLightningBundle env deal answers recoveredAt = .ok result) :
    (∃ session, result = .inl session ∧ answers.synced = some session
        ∧ (deal.status = .running → lightningBundleIsFunded session = true))
      ∨ ∃ failure, result = .inr failure ∧ failure.Validated P deal := by
  unfold recoverLightningBundle at h
  split at h
  case h_1 => exact .inr (validated_of_map h)
  case h_2 session hsynced =>
    split at h
    case isTrue => exact .inr (validated_of_map h)
    case isFalse =>
      split at h
      case isTrue => exact .inr (validated_of_map h)
      case isFalse =>
        dsimp only at h
        split at h
        case isTrue =>
          obtain ⟨terminal, -, h⟩ := bind_eq_ok.mp h
          exact .inr (validated_of_map h)
        case isFalse hgoOn =>
          refine .inl ⟨session, (Except.ok.inj h).symm, hsynced, fun hrunning => ?_⟩
          simp only [hrunning, Bool.and_eq_true, Bool.or_eq_true, Bool.not_eq_true', not_and_or,
            not_or, Bool.not_eq_false] at hgoOn
          exact (by simpa using hgoOn : session.successState ≠ .settled ∧ _).2

structure RecoveredDealResume.Fits (deal : StoredDeal) (recoveredAt : ℤ)
    (resume : RecoveredDealResume) : Prop where
  dealId : resume.dealId = deal.dealId
  previousStatus : resume.previousStatus = deal.status
  reset : resume.resetRunningStatus = true → deal.status = .running
    ∧ deal.spec.externalContainer = false
    ∧ recoveredAt ≤ deal.artifact.payload.completionDeadline

theorem recoverExpired_ok (h : recoverExpired env deal bundle answers recoveredAt = .ok decision) :
    (∃ resume, decision = .requeue resume ∧ resume.Fits deal recoveredAt)
      ∨ ∃ failure, decision = .fail failure ∧ failure.Validated P deal := by
  have hheld (h : Except.ok (DealRecoveryDecision.requeue
      { dealId := deal.dealId, previousStatus := deal.status, resetRunningStatus := false
        spawnAfterRecovery := false }) = (.ok decision : Except String _)) :
      ∃ resume, decision = .requeue resume ∧ resume.Fits deal recoveredAt :=
    ⟨_, (Except.ok.inj h).symm, rfl, rfl, fun h => absurd h Bool.false_ne_true⟩
  unfold recoverExpired at h
  dsimp only at h
  split at h
  case h_1 =>
    split at h
    case h_1 => exact .inr (validated_of_map h)
    case h_2 => exact .inl (hheld h)
  case h_2 =>
    split at h
    case h_1 => exact .inr (validated_of_map h)
    case h_2 => exact .inl (hheld h)
  case h_3 =>
    split at h
    case h_1 => exact .inr (validated_of_map h)
    case h_2 =>
      obtain ⟨terminal, -, h⟩ := bind_eq_ok.mp h
      exact .inr (validated_of_map h)

theorem requeueDeal_ok (h : requeueDeal env deal bundle answers recoveredAt = .ok decision) :
    (∃ resume, decision = .requeue resume ∧ resume.Fits deal recoveredAt)
      ∨ ∃ failure, decision = .fail failure ∧ failure.Validated P deal := by
  unfold requeueDeal at h
  split at h
  case isTrue => exact recoverExpired_ok h
  case isFalse hlate =>
    refine .inl ⟨_, (Except.ok.inj h).symm, rfl, rfl, fun hreset => ?_⟩
    simp only [Bool.and_eq_true, beq_iff_eq, Bool.not_eq_true', Bool.and_eq_false_iff] at hreset
    obtain ⟨hrunning, hnot⟩ := hreset
    refine ⟨hrunning, hnot.resolve_left ?_, not_lt.mp hlate⟩
    rw [hrunning]
    exact Bool.noConfusion

theorem classifyDealRecovery_ok
    (h : classifyDealRecovery env deal answers recoveredAt = .ok decision) :
    (∃ resume, decision = .requeue resume ∧ resume.Fits deal recoveredAt
        ∧ (deal.status = .running → deal.paymentMethod = some .lightning →
          ∀ session ∈ answers.synced, lightningBundleIsFunded session = true))
      ∨ ∃ failure, decision = .fail failure ∧ failure.Validated P deal := by
  unfold classifyDealRecovery at h
  split at h
  case isTrue =>
    obtain ⟨result, hbundle, h⟩ := bind_eq_ok.mp h
    obtain ⟨session, rfl, hsynced, hfunded⟩ | ⟨failure, rfl, hvalid⟩ :=
      recoverLightningBundle_ok hbundle
    · obtain ⟨resume, rfl, hfits⟩ | hfailed := requeueDeal_ok h
      · refine .inl ⟨resume, rfl, hfits, fun hrunning _ session' hsession' => ?_⟩
        rw [hsynced] at hsession'
        rw [← some.inj hsession']
        exact hfunded hrunning
      · exact .inr hfailed
    · exact .inr ⟨failure, (pure_eq_ok.mp h).symm, hvalid⟩
  case isFalse hmethod =>
    obtain ⟨resume, rfl, hfits⟩ | hfailed := requeueDeal_ok h
    · refine .inl ⟨resume, rfl, hfits, fun _ hlightning => ?_⟩
      exact absurd (beq_iff_eq.mpr hlightning) hmethod
    · exact .inr hfailed

theorem arises_recoveryItem {item : RecoveryItem} (hdeal : s.Knows item.deal)
    (hplan : a.Recovers item recoveredAt) (hrail : item.deal.paymentMethod = some .lightning
      ∨ ∃ plan, item ∈ plan ∧ a = .recoverRuntimeStateLocal plan recoveredAt)
    (hreset : item.Resets s recoveredAt →
      Arises env s a (.call (.resetRunningDealToAccepted item.deal.dealId recoveredAt)))
    (h : e ∈ item.effects env s recoveredAt) : Arises env s a e := by
  unfold RecoveryItem.effects at h
  split at h
  case h_2 => cases h
  case h_1 decision hclassify =>
    obtain ⟨resume, rfl, hfits, hfunded⟩ | ⟨failure, rfl, hsame, hvalid⟩ :=
      classifyDealRecovery_ok hclassify
    · -- the deal is taken up again
      dsimp only [applyRecoveryDecision] at h
      split at h
      case h_1 => cases h
      case h_2 current hcurrent =>
        obtain ⟨hstatus, h⟩ := mem_guarded h
        rw [mem_append] at h
        obtain h | h := h
        · obtain ⟨-, h⟩ := mem_guarded h
          rw [mem_singleton.mp h]
          exact .inert rfl trivial
        · obtain ⟨hflag, h⟩ := mem_guarded h
          obtain ⟨hrunning, hinProcess, hinTime⟩ := hfits.reset hflag
          rw [mem_singleton.mp h, hfits.dealId]
          refine hreset ⟨hrunning, ?_, hinProcess, hinTime, hfunded hrunning⟩
          rw [hfits.dealId] at hcurrent
          rw [hfits.previousStatus, hrunning] at hstatus
          rw [ProviderState.statusIs, hcurrent]
          exact hstatus
    · -- the deal fails
      rw [← hsame] at hdeal hvalid hrail
      have hended : Arises env s a (.call (.recoveryFailure failure.expectedStatus
          failure.deal.dealId failure.errorMessage failure.receipt item.failureEvidenceHash
          recoveredAt)) :=
        .ended hdeal rfl rfl (.recovered hvalid hplan hsame.symm hrail hclassify rfl)
      dsimp only [applyRecoveryDecision] at h
      obtain ⟨-, h⟩ := mem_guarded h
      split at h
      case h_1 =>
        rw [mem_singleton.mp h]
        exact hended
      case h_2 bundle _ =>
        split at h
        case h_1 => cases h
        case h_2 current _ =>
          split at h
          case isTrue => cases h
          case isFalse =>
            obtain rfl | rfl := mem_pair.mp h
            · exact .inert rfl trivial
            · exact hended

end Functions

/-! ## Every action but admission -/

def ProviderAction.isAdmission : ProviderAction → Bool
  | createDealRecord .. => true
  | _ => false

theorem bundlesOf_some (h : Observation.bundlesOf deal bundle.toList = some observations) :
    ∀ session ∈ bundle, session.isOf deal = true := by
  intro session hsession
  unfold Observation.bundlesOf at h
  split at h
  case isTrue hall => exact all_eq_true.mp hall session (mem_toList.mpr hsession)
  case isFalse => cases h

/-- What an action can write. -/
theorem arises_of_mem {env : ProviderEnv P} {s : ProviderState} (ha : a.isAdmission = false)
    (h : e ∈ a.effects env s) : Arises env s a e := by
  cases a with
  | createDealRecord => cases ha
  | restart decodes =>
    rw [mem_singleton.mp h]
    exact .restart rfl
  | readDeal dealId =>
    obtain ⟨row, hrow, rfl⟩ := mem_map.mp h
    exact .readDeal (mem_of_getDeal (mem_toList.mp hrow)).1
  | readOutbox dealId =>
    obtain ⟨record, hrecord, rfl⟩ := mem_map.mp h
    exact .inert rfl (Table.selectWhere_some (mem_toList.mp hrecord)).1
  | observePayment paymentHash payment =>
    rw [mem_singleton.mp h]
    exact .inert rfl trivial
  | claimDealMaterialization dealId claimToken now =>
    obtain ⟨hphase, -, h⟩ := mem_during h
    exact arises_claimDealMaterialization rfl hphase h
  | renewOwnedMaterializationClaim record now =>
    obtain ⟨hphase, hheld, h⟩ := mem_during h
    exact arises_renewOwnedMaterializationClaim rfl (hheld _ (by simp)) hphase h
  | rescheduleOwnedMaterialization record nextAttemptAt =>
    obtain ⟨hphase, hheld, h⟩ := mem_during h
    exact arises_rescheduleOwnedMaterialization rfl (hheld _ (by simp)) hphase h
  | deleteOwnedMaterialization record =>
    obtain ⟨-, hheld, h⟩ := mem_during h
    exact arises_deleteOwnedMaterialization rfl (hheld _ (by simp)) h
  | deleteOrphanedMaterialization dealId =>
    obtain ⟨hphase, -, h⟩ := mem_during h
    obtain ⟨-, h⟩ := mem_guarded h
    rw [mem_singleton.mp h]
    exact .inert rfl (.starting hphase)
  | failPendingDealMaterialization deal record message failureEvidenceHash now =>
    obtain ⟨-, hheld, h⟩ := mem_during h
    obtain ⟨hid, h⟩ := mem_guarded h
    have hid := beq_iff_eq.mp hid
    have hclaim : .claim record ∈ s.held := hheld _ (by simp)
    refine arises_failPendingDealMaterialization (fun hcurrent =>
      ⟨.owner rfl hclaim hid.symm hcurrent, .owner rfl hclaim hid.symm (fun current hsome => ?_)⟩) h
    rw [hsome] at hcurrent
    exact beq_iff_eq.mp hcurrent
  | failInterruptedMaterialization deal message failureEvidenceHash now =>
    obtain ⟨hphase, -, h⟩ := mem_during h
    exact arises_failPendingDealMaterialization
      (fun _ => ⟨.interrupted rfl hphase, .starting hphase⟩) h
  | persistLightningBundle record issued =>
    obtain ⟨hphase, hheld, h⟩ := mem_during h
    exact arises_persistLightningBundle rfl (hheld _ (by simp)) (during_eq hphase hheld) h
  | syncLightningBundle sessionId baseState successState =>
    exact arises_syncLightningBundle (mem_during h).2.2
  | prepareStripePayment record deal answer now =>
    obtain ⟨hphase, hheld, h⟩ := mem_during h
    obtain ⟨hsame, h⟩ := mem_guarded h
    refine arises_prepareStripePayment rfl (hheld _ (by simp)) ?_ h
    dsimp only [ProviderAction.effects]
    rw [during_eq hphase hheld, if_pos hsame]
  | setStripeResource record reservation =>
    obtain ⟨-, hheld, h⟩ := mem_during h
    exact arises_setStripeResource rfl (hheld _ (by simp)) (hheld _ (by simp)) h
  | finalizeStripePayment record reservation now =>
    obtain ⟨hphase, hheld, h⟩ := mem_during h
    obtain ⟨hhas, h⟩ := mem_guarded h
    exact arises_finalizeStripePayment rfl (hheld _ (by simp)) hhas
      ((during_eq hphase hheld).trans (if_pos hhas)) h
  | persistPrepaidInvoice record bolt11 paymentHash now =>
    obtain ⟨hphase, hheld, h⟩ := mem_during h
    exact arises_persistPrepaidInvoice rfl (hheld _ (by simp)) (during_eq hphase hheld) h
  | promoteLightningDealIfFunded deal session now =>
    obtain ⟨-, hheld, h⟩ := mem_during h
    obtain ⟨hof, h⟩ := mem_guarded h
    exact arises_promoteLightningDealIfFunded (hheld _ (by simp)) (hheld _ (by simp)) hof h
  | promotePrepaidDealIfPaid deal paymentHash payment now =>
    obtain ⟨-, hheld, h⟩ := mem_during h
    exact arises_promotePrepaidDealIfPaid (hheld _ (by simp)) (hheld _ (by simp)) h
  | rejectDealBeforeExecution site deal bundle message failureEvidenceHash now =>
    dsimp only [ProviderAction.effects] at h
    split at h
    case h_1 => cases h
    case h_2 observations hbundles =>
      obtain ⟨-, hheld, h⟩ := mem_during h
      obtain ⟨hsite, h⟩ := mem_guarded h
      refine arises_rejectDealBeforeExecution (.inl (hheld _ mem_cons_self)) rfl
        (bundlesOf_some hbundles) (fun hrail => ?_) h
      -- off the escrow rail a deal is rejected at its start only
      cases site with
      | admission => cases hsite
      | promotion =>
        simp only [Bool.and_eq_true, Bool.or_eq_true, beq_iff_eq] at hsite
        exact absurd (hsite.1.resolve_left RejectSite.noConfusion).2 hrail
      | start => exact beq_iff_eq.mp (Bool.and_eq_true_iff.mp hsite).2
  | startExecution deal now =>
    obtain ⟨hphase, hheld, h⟩ := mem_during h
    exact arises_startExecution hphase (hheld _ (by simp)) (during_eq hphase hheld) h
  | executionSucceeded deal output answer resultEvidenceHash now =>
    obtain ⟨hphase, hheld, h⟩ := mem_during h
    obtain ⟨hworker, h⟩ := mem_guarded h
    exact arises_executionSucceeded (.inr hworker) rfl
      ((during_eq hphase hheld).trans (if_pos hworker)) h
  | executionFailed deal failure bundle answer failureEvidenceHash now =>
    dsimp only [ProviderAction.effects] at h
    split at h
    case h_1 => cases h
    case h_2 observations hbundles =>
      obtain ⟨hphase, hheld, h⟩ := mem_during h
      obtain ⟨hworker, h⟩ := mem_guarded h
      refine arises_executionFailed (.inr hworker) (bundlesOf_some hbundles) rfl ?_ h
      dsimp only [ProviderAction.effects]
      rw [hbundles]
      exact (during_eq hphase hheld).trans (if_pos hworker)
  | workerReturned deal =>
    obtain ⟨-, -, h⟩ := mem_during h
    obtain ⟨-, h⟩ := mem_guarded h
    rw [mem_singleton.mp h]
    exact .returned deal
  | persistLightningSuccessReceipt deal session release now =>
    obtain ⟨-, hheld, h⟩ := mem_during h
    obtain ⟨hof, h⟩ := mem_guarded h
    exact arises_persistLightningSuccessReceipt (.inl (hheld _ (by simp))) rfl
      (Bool.and_eq_true_iff.mp hof).1 h
  | persistLightningTerminalFailureReceipt deal session failureEvidenceHash now =>
    obtain ⟨-, hheld, h⟩ := mem_during h
    obtain ⟨hof, h⟩ := mem_guarded h
    exact arises_persistLightningTerminalFailureReceipt (.inl (hheld _ (by simp))) rfl hof h
  | failUnpaidPrepaidDeal deal paymentHash payment failureEvidenceHash now =>
    obtain ⟨-, hheld, h⟩ := mem_during h
    exact arises_failUnpaidPrepaidDeal (.inl (hheld _ (by simp))) rfl h
  | reconcileStripeSettlementRecord record deal state failureEvidenceHash now =>
    obtain ⟨hphase, hheld, h⟩ := mem_during h
    obtain ⟨hid, h⟩ := mem_guarded h
    exact arises_reconcileStripeSettlementRecord (.inl (hheld _ (by simp))) (beq_iff_eq.mp hid)
      rfl ((during_eq hphase hheld).trans (if_pos hid)) h
  | stageInterruptedStripeDeal deal failureEvidenceHash now =>
    obtain ⟨hphase, hheld, h⟩ := mem_during h
    obtain ⟨hguard, h⟩ := mem_guarded h
    exact arises_stageStripeCancel (.inl (hheld _ (by simp)))
      (beq_iff_eq.mp (Bool.and_eq_true_iff.mp hguard).1)
      ((during_eq hphase hheld).trans (if_pos hguard)) h
  | recoverRuntimeStateLocal plan recoveredAt =>
    obtain ⟨hphase, hheld, h⟩ := mem_during h
    rw [mem_append, mem_singleton] at h
    obtain h | rfl := h
    · obtain ⟨item, hitem, h⟩ := mem_flatMap.mp h
      have hplan := mem_of_mem_filter hitem
      exact arises_recoveryItem (.inl (hheld _ (mem_map_of_mem hplan)))
        ⟨plan, .inl rfl, hplan⟩ (.inr ⟨plan, hplan, rfl⟩) (fun _ => .resetLocal hphase _ _) h
    · exact .serve hphase
  | recoverRuntimeStateRemote plan recoveredAt =>
    obtain ⟨-, hheld, h⟩ := mem_during h
    obtain ⟨item, hitem, h⟩ := mem_flatMap.mp h
    obtain ⟨hplan, hguard⟩ := mem_filter.mp hitem
    simp only [Bool.and_eq_true, beq_iff_eq] at hguard
    refine arises_recoveryItem (.inl (hheld _ ?_)) ⟨plan, .inr rfl, hplan⟩ (.inl hguard.1.1)
      (fun hresets => .resetRemote rfl hplan hresets) h
    exact mem_flatMap.mpr ⟨item, hplan, mem_cons_self⟩

/-! ## Admission -/

structure Admits (env : ProviderEnv P) (s : ProviderState) (a : ProviderAction)
    (request : CreateDealRequest) (dealId : String) (rail : Option PaymentMethod) (totalSats : ℕ)
    (rejection : Option AdmissionRejection) (now : ℤ) : Prop where
  checked : ∃ otherChecks permit laterFails evidence,
    a = .createDealRecord request dealId otherChecks permit laterFails evidence now
      ∧ checkDealRequest P env.signer.toNodeIdentity env.config request otherChecks now
        = .ok (rail, totalSats)
      ∧ immediateRejection env (request.newDeal dealId rail totalSats now) permit evidence
        = .ok rejection
  fresh : ∀ row ∈ s.store.admitted, row.dealId ≠ dealId
  inserts : s.store.Inserts P (request.newDeal dealId rail totalSats now)

/-- What an admission writes: nothing, or the row of a request that passed the
checks, under a fresh id, with its rejection and its materialization. -/
theorem admits_of_isAdmission (env : ProviderEnv P) (s : ProviderState)
    (ha : a.isAdmission = true) :
    a.effects env s = [] ∨ ∃ request dealId rail totalSats rejection now,
        Admits env s a request dealId rail totalSats rejection now ∧ a.effects env s
            = (createDealCalls (request.newDeal dealId rail totalSats now) rejection).map .call
              ++ (request.materialization dealId rail totalSats now).toList.map
                (fun m => .insertMaterialization (m.record dealId now)) := by
  cases a
  case createDealRecord request dealId otherChecks permit laterFails evidence now =>
    dsimp only [ProviderAction.effects, ProviderState.during]
    split
    case isFalse => exact .inl rfl
    case isTrue =>
      unfold createDealRecord
      split
      case h_1 => exact .inl rfl
      case h_2 rail totalSats hcheck =>
        dsimp only
        split
        case h_1 => exact .inl rfl
        case h_2 rejection hrejection =>
          split
          case isTrue => exact .inl rfl
          case isFalse hfresh =>
            split
            case h_1 => exact .inl rfl
            case h_2 store hstore =>
              refine .inr ⟨request, dealId, rail, totalSats, rejection, now, ⟨⟨otherChecks, permit,
                laterFails, evidence, rfl, hcheck, hrejection⟩, fun row hrow hid => ?_,
                (createDealRecord_some hstore).1⟩, rfl⟩
              exact hfresh (any_eq_true.mpr ⟨row, hrow, beq_iff_eq.mpr hid⟩)
  all_goals cases ha

def Effect.admits : Effect → Bool
  | call _ | insertMaterialization _ => true
  | _ => false

theorem arises_of_mem_of_ne {env : ProviderEnv P} {s : ProviderState} (h : e ∈ a.effects env s)
    (he : e.admits = false) : Arises env s a e := by
  cases ha : a.isAdmission with
  | false => exact arises_of_mem ha h
  | true =>
    obtain hnone | ⟨request, dealId, rail, totalSats, rejection, now, -, heffects⟩ :=
      admits_of_isAdmission env s ha
    · rw [hnone] at h
      cases h
    · rw [heffects, List.mem_append, List.mem_map, List.mem_map] at h
      obtain ⟨call, -, rfl⟩ | ⟨m, -, rfl⟩ := h <;> cases he

end Froglet
