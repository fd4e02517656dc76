import Froglet.Lib.Runs
import Froglet.Provider.Deals

/-!
# The life of a deal

The provider changes a deal's status at some twenty places, each a call of one of the
compare-and-sets of `Froglet.Provider.Deals` under the expected status of that place.
-/

namespace Froglet

open List Option Table
variable {cancelled : List String}
variable {row row' : StoredDeal}

/-! ## Calls -/

def DealStatus.canBecome : DealStatus → DealStatus → Bool
  | .paymentPending, .accepted | .paymentPending, .rejected | .paymentPending, .failed => true
  | .accepted, .running | .accepted, .rejected | .accepted, .failed => true
  | .running, .accepted | .running, .resultReady | .running, .settlementPending => true
  | .running, .succeeded | .running, .failed => true
  | .resultReady, .succeeded | .resultReady, .failed => true
  | .settlementPending, .failed => true
  | _, _ => false

inductive SuccessSite where
  | lightning
  | stripe
  | execution

def SuccessSite.expected : SuccessSite → DealStatus
  | lightning => .resultReady
  | stripe => .resultReady
  | execution => .running

inductive RejectSite where
  | admission
  | promotion
  | start
deriving DecidableEq

def RejectSite.expected : RejectSite → DealStatus
  | admission => .accepted
  | promotion => .paymentPending
  | start => .accepted

inductive FailureSite where
  | lightningUnfunded
  | lightningUnreleased
  | prepaidUnpaid
  | stripeCanceled
  | stripeFailed
  | execution

def FailureSite.expected : FailureSite → DealStatus
  | lightningUnfunded => .paymentPending
  | lightningUnreleased => .resultReady
  | prepaidUnpaid => .paymentPending
  | stripeCanceled => .resultReady
  | stripeFailed => .settlementPending
  | execution => .running

inductive IncompleteStatus where
  | accepted
  | paymentPending
  | running
  | resultReady
  | settlementPending
deriving DecidableEq

def IncompleteStatus.status : IncompleteStatus → DealStatus
  | accepted => .accepted
  | paymentPending => .paymentPending
  | running => .running
  | resultReady => .resultReady
  | settlementPending => .settlementPending

inductive DealCall where
  | insert (new : NewDeal)
  | tryMarkDealRunning (dealId : String) (now : ℤ)
  | resetRunningDealToAccepted (dealId : String) (now : ℤ)
  | holdExternalOutcome (dealId : String) (now : ℤ)
  | promote (dealId : String) (now : ℤ)
  | materializeStripe (dealId tokenHash : String) (amountSats : ℕ) (now : ℤ)
  | materializePrepaid (dealId tokenHash : String) (amountSats : ℕ) (now : ℤ)
  | completeSuccess (site : SuccessSite) (dealId : String) (result : Json)
      (explicitResultHash : Option String) (receipt : SignedReceipt)
      (resultEvidenceHash : Option String) (now : ℤ)
  | stageResultReady (dealId : String) (result : Json) (resultHash resultEvidenceHash : String)
      (now : ℤ)
  | stageSettlementPending (dealId error failureEvidenceHash : String) (now : ℤ)
  | recoveryFailure (status : IncompleteStatus) (dealId error : String)
      (receipt : SignedReceipt) (failureEvidenceHash : String) (now : ℤ)
  | reject (site : RejectSite) (dealId error : String)
      (receipt : SignedReceipt) (failureEvidenceHash : String) (now : ℤ)
  | completeFailure (site : FailureSite) (dealId error : String)
      (receipt : SignedReceipt) (failureEvidenceHash : Option String) (now : ℤ)
  | cancelUnadmitted (dealId message failureEvidenceHash : String) (now : ℤ)

def DealCall.isInsert : DealCall → Bool
  | insert _ => true
  | _ => false

structure DealStore where
  deals : Deals
  usages : List QuoteUsage
  admitted : List StoredDeal
  cancelled : List String
deriving DecidableEq

variable {s : DealStore} {P : Primitives} {old new : DealStatus} {id : String}

def externalOutcomeUnknown : String :=
  "external execution outcome is unknown after restart; held for reconciliation without retry"

def NewDeal.withInitialStatus (new : NewDeal) : NewDeal :=
  { new with initialStatus := if new.paymentMethod.isSome then .paymentPending else .accepted }

def DealCall.apply (P : Primitives) (s : DealStore) : DealCall → DealStore
  | insert new => match insertOrGetDeal new.withInitialStatus s.deals s.usages with
    | .ok ((row, true), deals, usages) => { s with deals, usages, admitted := s.admitted ++ [row] }
    | .ok ((_, false), deals, usages) => { s with deals, usages }
    | .error _ => s
  | tryMarkDealRunning dealId now =>
    { s with deals := (Froglet.tryMarkDealRunning dealId now s.deals).2 }
  | resetRunningDealToAccepted dealId now =>
    { s with deals := (Froglet.resetRunningDealToAccepted dealId now s.deals).2 }
  | holdExternalOutcome dealId now =>
    { s with deals := (compareAndSet dealId .running
        ({ · with error := some externalOutcomeUnknown, updatedAt := now }) s.deals).2 }
  | promote dealId now =>
    { s with deals := (tryMarkDealAcceptedFromPaymentPending dealId now s.deals).2 }
  | materializeStripe dealId tokenHash amountSats now =>
    match materializePaymentForPendingDeal dealId tokenHash amountSats .accepted now s.deals with
    | .ok (_, deals) => { s with deals }
    | .error _ => s
  | materializePrepaid dealId tokenHash amountSats now =>
    match materializePaymentForPendingDeal dealId tokenHash amountSats .paymentPending now
        s.deals with
    | .ok (_, deals) => { s with deals }
    | .error _ => s
  | completeSuccess site dealId result explicitResultHash receipt resultEvidenceHash now =>
    { s with deals := (completeDealSuccessIfStatus P
        { dealId, expectedStatus := site.expected, result, explicitResultHash, receipt
          resultEvidenceHash, receiptArtifactHash := some receipt.hash, now } s.deals).2 }
  | stageResultReady dealId result resultHash resultEvidenceHash now =>
    { s with deals := (stageDealResultReady P dealId result (some resultHash)
        (some resultEvidenceHash) now s.deals).2 }
  | stageSettlementPending dealId error failureEvidenceHash now =>
    { s with deals := (stageDealSettlementPendingFailure dealId error failureEvidenceHash now
        s.deals).2 }
  | recoveryFailure status dealId error receipt failureEvidenceHash now =>
    { s with deals := (completeRecoveryFailureIfStatus
        { dealId, expectedStatus := status.status, error, receipt
          failureEvidenceHash := some failureEvidenceHash
          receiptArtifactHash := some receipt.hash, now }
        (status == .resultReady) s.deals).2 }
  | reject site dealId error receipt failureEvidenceHash now =>
    { s with deals := (rejectDealIfStatus
        { dealId, expectedStatus := site.expected, error, receipt
          failureEvidenceHash := some failureEvidenceHash
          receiptArtifactHash := some receipt.hash, now } s.deals).2 }
  | completeFailure site dealId error receipt failureEvidenceHash now =>
    { s with deals := (completeDealFailureIfStatus
        { dealId, expectedStatus := site.expected, error, receipt, failureEvidenceHash
          receiptArtifactHash := some receipt.hash, now } s.deals).2 }
  | cancelUnadmitted dealId message failureEvidenceHash now =>
    match cancelUnadmittedDeal dealId message failureEvidenceHash now s.deals with
    | (true, deals) => { s with deals, cancelled := s.cancelled ++ [dealId] }
    | (false, deals) => { s with deals }
variable {call : DealCall}

def dealMachine (P : Primitives) : Machine DealStore DealCall where
  init := { deals := [], usages := [], admitted := [], cancelled := [] }
  step := DealCall.apply P

/-! ## What one call does -/

def StoredDeal.identity (deal : StoredDeal) :=
  (deal.dealId, deal.idempotencyKey, deal.quote, deal.spec, deal.artifact,
    deal.dealArtifactHash, deal.paymentMethod, deal.createdAt)

namespace DealCall

def target : DealCall → Option (String × DealStatus × DealStatus)
  | insert _ => none
  | tryMarkDealRunning id _ => some (id, .accepted, .running)
  | resetRunningDealToAccepted id _ => some (id, .running, .accepted)
  | holdExternalOutcome id _ => some (id, .running, .running)
  | promote id _ => some (id, .paymentPending, .accepted)
  | materializeStripe id _ _ _ => some (id, .paymentPending, .accepted)
  | materializePrepaid id _ _ _ => some (id, .paymentPending, .paymentPending)
  | completeSuccess site id _ _ _ _ _ => some (id, site.expected, .succeeded)
  | stageResultReady id _ _ _ _ => some (id, .running, .resultReady)
  | stageSettlementPending id _ _ _ => some (id, .running, .settlementPending)
  | recoveryFailure status id _ _ _ _ => some (id, status.status, .failed)
  | reject site id _ _ _ _ => some (id, site.expected, .rejected)
  | completeFailure site id _ _ _ _ => some (id, site.expected, .failed)
  | cancelUnadmitted id _ _ _ => some (id, .paymentPending, .failed)

def receipt : DealCall → Option SignedReceipt
  | completeSuccess _ _ _ _ receipt _ _ => some receipt
  | recoveryFailure _ _ _ receipt _ _ => some receipt
  | reject _ _ _ receipt _ _ => some receipt
  | completeFailure _ _ _ receipt _ _ => some receipt
  | _ => none

def payment : DealCall → Option (String × ℕ)
  | materializeStripe _ tokenHash amountSats _ => some (tokenHash, amountSats)
  | materializePrepaid _ tokenHash amountSats _ => some (tokenHash, amountSats)
  | _ => none

def cancels : DealCall → Bool
  | cancelUnadmitted .. => true
  | _ => false

end DealCall

structure StoredDeal.ResultFits (row : StoredDeal) : Prop where
  pending : row.status = .paymentPending → row.resultHash = none
  ready : row.status = .resultReady → row.resultHash.isSome = true

theorem StoredDeal.ResultFits.of_status (h : row.status ≠ .paymentPending)
    (h' : row.status ≠ .resultReady) : row.ResultFits :=
  ⟨fun hs => absurd hs h, fun hs => absurd hs h'⟩

/-- What a call makes of a row it changes. -/
structure RowStep (call : DealCall) (row row' : StoredDeal) : Prop where
  identity : row'.identity = row.identity
  target : call.target = some (row.dealId, row.status, row'.status)
  receipt : ∀ r, call.receipt = some r →
    row'.receipt = some r ∧ row'.receiptArtifactHash = some r.hash
  noReceipt : call.receipt = none → (row.receipt = none → row'.receipt = none)
    ∧ (row.receiptArtifactHash = none → row'.receiptArtifactHash = none)
  payment : ∀ token amount, call.payment = some (token, amount) →
    row'.paymentTokenHash = some token ∧ row'.paymentAmountSats = some amount
  noPayment : call.payment = none → row'.paymentTokenHash = row.paymentTokenHash
    ∧ row'.paymentAmountSats = row.paymentAmountSats
  result : row.ResultFits → row'.ResultFits
  cancelled : call.cancels = true → row.receipt = none ∧ row.receiptArtifactHash = none

section

variable (hid : row'.identity = row.identity)
  (htarget : call.target = some (row.dealId, row.status, row'.status))
include hid htarget

theorem RowStep.plain (hreceipt : call.receipt = none) (hpayment : call.payment = none)
    (hnone : row.receipt = none → row'.receipt = none)
    (hnone' : row.receiptArtifactHash = none → row'.receiptArtifactHash = none)
    (hkept : row'.paymentTokenHash = row.paymentTokenHash
      ∧ row'.paymentAmountSats = row.paymentAmountSats) (hresult : row.ResultFits → row'.ResultFits)
    (hcancels : call.cancels = true → row.receipt = none ∧ row.receiptArtifactHash = none) :
    RowStep call row row' where
  identity := hid
  target := htarget
  receipt r h := absurd (hreceipt.symm.trans h).symm (some_ne_none r)
  noReceipt _ := ⟨hnone, hnone'⟩
  payment _ _ h := absurd (hpayment.symm.trans h).symm (some_ne_none _)
  noPayment _ := hkept
  result := hresult
  cancelled := hcancels

theorem RowStep.ends {receipt : SignedReceipt}
    (hreceipt : call.receipt = some receipt) (hpayment : call.payment = none)
    (hwritten : row'.receipt = some receipt ∧ row'.receiptArtifactHash = some receipt.hash)
    (hkept : row'.paymentTokenHash = row.paymentTokenHash
      ∧ row'.paymentAmountSats = row.paymentAmountSats) (hends : row'.status.isTerminal = true)
    (hcancels : call.cancels = false) : RowStep call row row' where
  identity := hid
  target := htarget
  receipt _ h := some.inj (hreceipt.symm.trans h) ▸ hwritten
  noReceipt h := absurd (hreceipt.symm.trans h) (some_ne_none receipt)
  payment _ _ h := absurd (hpayment.symm.trans h).symm (some_ne_none _)
  noPayment _ := hkept
  result _ := by
    refine .of_status (fun h => ?_) (fun h => ?_) <;> rw [h] at hends <;>
      cases hends
  cancelled h := absurd (hcancels.symm.trans h) Bool.false_ne_true

theorem RowStep.pays {token : String} {amount : ℕ} (hreceipt : call.receipt = none)
    (hpayment : call.payment = some (token, amount))
    (hsame : row'.receipt = row.receipt ∧ row'.receiptArtifactHash = row.receiptArtifactHash)
    (hwritten : row'.paymentTokenHash = some token ∧ row'.paymentAmountSats = some amount)
    (hresult : row.ResultFits → row'.ResultFits) (hcancels : call.cancels = false) :
    RowStep call row row' where
  identity := hid
  target := htarget
  receipt r h := absurd (hreceipt.symm.trans h).symm (some_ne_none r)
  noReceipt _ := ⟨hsame.1.trans, hsame.2.trans⟩
  payment _ _ h := by
    obtain ⟨rfl, rfl⟩ := Prod.mk.inj (some.inj (hpayment.symm.trans h))
    exact hwritten
  noPayment h := absurd (hpayment.symm.trans h) (some_ne_none _)
  result := hresult
  cancelled h := absurd (hcancels.symm.trans h) Bool.false_ne_true

end

/-- What a call makes of the table. -/
inductive TableStep (P : Primitives) (s : DealStore) (call : DealCall) : Prop
  | updated (p : StoredDeal → Bool) (f : StoredDeal → StoredDeal)
      (hdeals : (call.apply P s).deals = updateWhere p f s.deals)
      (hrows : ∀ row, p row = true → RowStep call row (f row))
      (husages : (call.apply P s).usages = s.usages)
      (hadmitted : (call.apply P s).admitted = s.admitted)
      (hcancelled : ∀ id, id ∈ (call.apply P s).cancelled
        ↔ id ∈ s.cancelled ∨ call.cancels = true ∧ ∃ row ∈ s.deals, p row = true ∧ row.dealId = id)
  | inserted (new : NewDeal) (hcall : call = .insert new)
      (hinsert : Inserted new.withInitialStatus s.deals s.usages (call.apply P s).usages)
      (hdeals : (call.apply P s).deals = s.deals ++ [new.withInitialStatus.row])
      (hadmitted : (call.apply P s).admitted = s.admitted ++ [new.withInitialStatus.row])
      (hcancelled : (call.apply P s).cancelled = s.cancelled)

theorem TableStep.same (h : call.apply P s = s) : TableStep P s call := by
  refine .updated (fun _ => false) id ?_ (fun _ hrow => nomatch hrow) ?_ ?_ fun id => ?_
  · rw [h, updateWhere_of_forall_not (fun _ _ => rfl)]
  · rw [h]
  · rw [h]
  · rw [h]
    simp

theorem TableStep.ofCompareAndSet {expected : DealStatus} {set : StoredDeal → StoredDeal}
    (h : call.apply P s = { s with deals := (compareAndSet id expected set s.deals).2 })
    (hcancels : call.cancels = false)
    (hrow : ∀ row, row.dealId = id → row.status = expected → RowStep call row (set row)) :
    TableStep P s call := by
  refine .updated (fun row => row.dealId == id && row.status == expected) set ?_
    (fun row hp => ?_) ?_ ?_ fun id' => ?_
  · rw [h]
    rfl
  · obtain ⟨hid, hexpected⟩ : row.dealId = id ∧ row.status = expected := by simpa using hp
    exact hrow row hid hexpected
  · rw [h]
  · rw [h]
  · rw [h, hcancels]
    simp

theorem TableStep.ofMaterialize {id tokenHash : String} {amountSats : ℕ} {next : DealStatus}
    {now : ℤ} (htarget : call.target = some (id, .paymentPending, next))
    (hpayment : call.payment = some (tokenHash, amountSats)) (hreceipt : call.receipt = none)
    (hcancels : call.cancels = false) (hnext : next ≠ .resultReady)
    (h : call.apply P s = match materializePaymentForPendingDeal id tokenHash amountSats next now
      s.deals with
      | .ok (_, deals) => { s with deals }
      | .error _ => s) : TableStep P s call := by
  cases hm : materializePaymentForPendingDeal id tokenHash amountSats next now s.deals with
  | error e =>
    rw [hm] at h
    exact .same h
  | ok result =>
    rw [hm] at h
    simp only [materializePaymentForPendingDeal, check_eq_ok, pure_eq_ok] at hm
    obtain ⟨-, -, rfl⟩ := hm
    refine .ofCompareAndSet h hcancels fun row hid hexpected => .pays rfl ?_ hreceipt hpayment
      ⟨rfl, rfl⟩ ⟨rfl, rfl⟩ (fun hfits => ⟨fun _ => hfits.pending hexpected,
        fun hready => absurd hready hnext⟩) hcancels
    rw [htarget, hid, hexpected]

theorem tableStep_cancel (P : Primitives) (s : DealStore)
    (dealId message failureEvidenceHash : String) (now : ℤ) :
    TableStep P s (.cancelUnadmitted dealId message failureEvidenceHash now) := by
  refine .updated (StoredDeal.isUnadmitted dealId) ({ · with
      status := .failed, error := some message
      failureEvidenceHash := some failureEvidenceHash, updatedAt := now }) ?_
    (fun row hrow => ?_) ?_ ?_ fun id => ?_
  · simp only [DealCall.apply]
    split <;> rename_i deals h <;> exact (congrArg Prod.snd h).symm
  · obtain ⟨⟨⟨hid, hstatus⟩, hreceipt⟩, hhash⟩ : ((row.dealId = dealId
        ∧ row.status = .paymentPending) ∧ row.receipt = none)
        ∧ row.receiptArtifactHash = none := by
      simpa [StoredDeal.isUnadmitted] using hrow
    refine .plain rfl ?_ rfl rfl id id ⟨rfl, rfl⟩
      (fun _ => .of_status DealStatus.noConfusion DealStatus.noConfusion)
      fun _ => ⟨hreceipt, hhash⟩
    rw [hid, hstatus]
    rfl
  · simp only [DealCall.apply]
    split <;> rfl
  · simp only [DealCall.apply]
    split <;> rfl
  · -- the ghost column is extended exactly when a row was found
    have hany : (cancelUnadmittedDeal dealId message failureEvidenceHash now s.deals).1
        = s.deals.any (StoredDeal.isUnadmitted dealId) := rfl
    have hmine {row : StoredDeal} (hrow : row.isUnadmitted dealId = true) :
        row.dealId = dealId := by
      simp only [StoredDeal.isUnadmitted, Bool.and_eq_true, beq_iff_eq] at hrow
      exact hrow.1.1.1
    simp only [DealCall.apply]
    split <;> rename_i deals h
    · rw [h] at hany
      obtain ⟨row, hrow, hun⟩ := any_eq_true.mp hany.symm
      simp only [mem_append, mem_singleton]
      refine or_congr_right ⟨fun hid => ⟨rfl, row, hrow, hun, (hmine hun).trans hid.symm⟩, ?_⟩
      rintro ⟨-, row', -, hun', rfl⟩
      exact hmine hun'
    · rw [h] at hany
      refine ⟨.inl, fun hid => hid.resolve_right ?_⟩
      rintro ⟨-, row', hrow', hun', -⟩
      exact absurd (any_eq_true.mpr ⟨row', hrow', hun'⟩) (hany.symm ▸ Bool.false_ne_true)

theorem tableStep_admit (P : Primitives) (s : DealStore) (new : NewDeal) :
    TableStep P s (.insert new) := by
  cases h : insertOrGetDeal new.withInitialStatus s.deals s.usages with
  | error e => exact .same (by simp only [DealCall.apply, h])
  | ok result =>
    obtain ⟨⟨row, created⟩, deals, usages⟩ := result
    cases created with
    | false =>
      obtain ⟨-, rfl, rfl⟩ := insertOrGetDeal_found h
      exact .same (by simp only [DealCall.apply, h])
    | true =>
      have happly : DealCall.apply P s (.insert new)
          = { s with deals, usages, admitted := s.admitted ++ [row] } := by
        simp only [DealCall.apply, h]
      obtain ⟨hinsert, rfl, rfl⟩ := insertOrGetDeal_created h
      refine .inserted new rfl ?_ ?_ ?_ ?_
      · rw [happly]
        exact hinsert
      · rw [happly]
      · rw [happly]
      · rw [happly]

/-- One call does to the table what its tables say. -/
theorem DealCall.apply_rows (P : Primitives) (s : DealStore) (call : DealCall) :
    TableStep P s call := by
  cases call with
  | insert new => exact tableStep_admit P s new
  | cancelUnadmitted dealId message failureEvidenceHash now =>
    exact tableStep_cancel P s dealId message failureEvidenceHash now
  | materializeStripe dealId tokenHash amountSats now =>
    exact .ofMaterialize rfl rfl rfl rfl (by decide) rfl
  | materializePrepaid dealId tokenHash amountSats now =>
    exact .ofMaterialize rfl rfl rfl rfl (by decide) rfl
  -- the others are one compare-and-set each, and their tables list what it sets
  | tryMarkDealRunning dealId now | resetRunningDealToAccepted dealId now
  | promote dealId now =>
    refine .ofCompareAndSet rfl rfl fun row hid hexpected =>
      .plain rfl ?_ rfl rfl id id ⟨rfl, rfl⟩
        (fun _ => .of_status DealStatus.noConfusion DealStatus.noConfusion)
        (fun h => absurd h Bool.false_ne_true)
    rw [hid, hexpected]
    rfl
  | stageResultReady dealId result resultHash resultEvidenceHash now =>
    refine .ofCompareAndSet rfl rfl fun row hid hexpected =>
      .plain rfl ?_ rfl rfl (fun _ => rfl) (fun _ => rfl) ⟨rfl, rfl⟩
        (fun _ => ⟨DealStatus.noConfusion, fun _ => rfl⟩)
        (fun h => absurd h Bool.false_ne_true)
    rw [hid, hexpected]
    rfl
  | stageSettlementPending dealId error failureEvidenceHash now =>
    refine .ofCompareAndSet rfl rfl fun row hid hexpected =>
      .plain rfl ?_ rfl rfl (fun _ => rfl) (fun _ => rfl) ⟨rfl, rfl⟩
        (fun _ => .of_status DealStatus.noConfusion DealStatus.noConfusion)
        (fun h => absurd h Bool.false_ne_true)
    rw [hid, hexpected]
    rfl
  | holdExternalOutcome dealId now =>
    refine .ofCompareAndSet rfl rfl fun row hid hexpected =>
      .plain rfl ?_ rfl rfl id id ⟨rfl, rfl⟩ (fun hfits => ⟨hfits.pending, hfits.ready⟩)
        (fun h => absurd h Bool.false_ne_true)
    show _ = some (row.dealId, row.status, row.status)
    rw [hid, hexpected]
    rfl
  | completeSuccess site dealId result explicitResultHash receipt resultEvidenceHash now
  | recoveryFailure status dealId error receipt failureEvidenceHash now
  | reject site dealId error receipt failureEvidenceHash now
  | completeFailure site dealId error receipt failureEvidenceHash now =>
    refine .ofCompareAndSet rfl rfl fun row hid hexpected =>
      .ends rfl ?_ rfl rfl ⟨rfl, rfl⟩ ⟨rfl, rfl⟩ rfl rfl
    rw [hid, hexpected]
    rfl

theorem DealCall.mem_apply (h : row' ∈ (call.apply P s).deals) :
    row' ∈ s.deals ∨ (∃ row ∈ s.deals, RowStep call row row')
      ∨ ∃ new, call = .insert new ∧ row' = new.withInitialStatus.row
        ∧ Inserted new.withInitialStatus s.deals s.usages (call.apply P s).usages := by
  cases call.apply_rows P s with
  | updated p f hdeals hrows _ _ _ =>
    rw [hdeals] at h
    obtain ⟨row, hrow, rfl⟩ := mem_updateWhere.mp h
    by_cases hp : p row = true
    · rw [if_pos hp]
      exact .inr (.inl ⟨row, hrow, hrows row hp⟩)
    · rw [if_neg hp]
      exact .inl hrow
  | inserted new hcall hinsert hdeals _ _ =>
    rw [hdeals] at h
    refine (mem_append.mp h).imp_right fun h => .inr ⟨new, hcall, ?_, hinsert⟩
    exact mem_singleton.mp h

theorem mem_apply_of_ne_insert
    (hcall : call.isInsert = false) (h : row' ∈ (call.apply P s).deals) :
    row' ∈ s.deals ∨ ∃ row ∈ s.deals, RowStep call row row' := by
  obtain hrow | hstep | ⟨new, hisNew, -⟩ := DealCall.mem_apply h
  · exact .inl hrow
  · exact .inr hstep
  · rw [hisNew] at hcall
    cases hcall

theorem admitted_call (hcall : call.isInsert = false) (store : DealStore) :
    (call.apply P store).admitted = store.admitted := by
  cases call.apply_rows P store with
  | updated p f hdeals hrows husages hadmitted _ => exact hadmitted
  | inserted new hisNew _ _ _ _ =>
    rw [hisNew] at hcall
    cases hcall

theorem DealCall.apply_mem (call : DealCall) (h : row ∈ s.deals) :
    row ∈ (call.apply P s).deals ∨ ∃ row' ∈ (call.apply P s).deals, RowStep call row row' := by
  cases call.apply_rows P s with
  | updated p f hdeals hrows _ _ _ =>
    rw [hdeals]
    by_cases hp : p row = true
    · exact .inr ⟨f row, mem_updateWhere.mpr ⟨row, h, if_pos hp⟩, hrows row hp⟩
    · exact .inl (mem_updateWhere.mpr ⟨row, h, if_neg hp⟩)
  | inserted new hcall hinsert hdeals _ _ =>
    rw [hdeals]
    exact .inl (mem_append_left _ h)

section

variable (h : row'.identity = row.identity)
include h

theorem dealId_of_identity : row'.dealId = row.dealId := congrArg Prod.fst h

theorem idempotencyKey_of_identity : row'.idempotencyKey = row.idempotencyKey :=
  congrArg (·.2.1) h

theorem quote_of_identity : row'.quote = row.quote := congrArg (·.2.2.1) h

theorem artifact_of_identity : row'.artifact = row.artifact :=
  congrArg (·.2.2.2.2.1) h

theorem dealArtifactHash_of_identity : row'.dealArtifactHash = row.dealArtifactHash :=
  congrArg (·.2.2.2.2.2.1) h

end

/-! ## The statuses of the calls -/

theorem SuccessSite.canBecome (site : SuccessSite) :
    site.expected.canBecome .succeeded = true := by cases site <;> rfl

theorem RejectSite.canBecome (site : RejectSite) :
    site.expected.canBecome .rejected = true := by cases site <;> rfl

theorem FailureSite.canBecome (site : FailureSite) :
    site.expected.canBecome .failed = true := by cases site <;> rfl

theorem IncompleteStatus.canBecome (status : IncompleteStatus) :
    status.status.canBecome .failed = true := by cases status <;> rfl

theorem DealStatus.not_terminal_of_canBecome (h : old.canBecome new = true) :
    old.isTerminal = false := by
  cases old <;> first | rfl | cases h

section

variable (h : call.target = some (id, old, new))
include h

theorem DealCall.canBecome_of_target :
    new = old ∧ old.isTerminal = false ∨ old.canBecome new = true := by
  cases call <;> simp only [target, some.injEq, Prod.mk.injEq, reduceCtorEq] at h <;>
    obtain ⟨-, rfl, rfl⟩ := h
  case holdExternalOutcome | materializePrepaid => exact .inl ⟨rfl, rfl⟩
  case completeSuccess => exact .inr (SuccessSite.canBecome _)
  case reject => exact .inr (RejectSite.canBecome _)
  case completeFailure => exact .inr (FailureSite.canBecome _)
  case recoveryFailure => exact .inr (IncompleteStatus.canBecome _)
  all_goals exact .inr rfl

theorem DealCall.not_terminal_of_target : old.isTerminal = false :=
  (canBecome_of_target h).elim And.right DealStatus.not_terminal_of_canBecome

theorem DealCall.terminal_of_target : new.isTerminal = (call.receipt.isSome || call.cancels) := by
  cases call <;> simp only [target, some.injEq, Prod.mk.injEq, reduceCtorEq] at h <;>
    obtain ⟨-, rfl, rfl⟩ := h <;> rfl

end

theorem DealCall.failed_of_cancels (hcancels : call.cancels = true)
    (h : call.target = some (id, old, new)) : new = .failed ∧ call.receipt = none := by
  cases call
  case cancelUnadmitted dealId message failureEvidenceHash now =>
    exact ⟨(congrArg (·.2.2) (some.inj h)).symm, rfl⟩
  all_goals cases hcancels

section RowStep

variable {call : DealCall} {row row' : StoredDeal} (h : RowStep call row row')
include h

theorem RowStep.not_terminal : row.status.isTerminal = false :=
  DealCall.not_terminal_of_target h.target

theorem RowStep.canBecome : row'.status = row.status ∨ row.status.canBecome row'.status = true :=
  (DealCall.canBecome_of_target h.target).imp_left And.left

theorem RowStep.dealId_eq : row'.dealId = row.dealId := dealId_of_identity h.identity

end RowStep

/-! ## What every run keeps -/

def StoredDeal.ReceiptFits (cancelled : List String) (row : StoredDeal) : Prop :=
  if row.dealId ∈ cancelled then
    row.status = .failed ∧ row.receipt = none ∧ row.receiptArtifactHash = none
  else
    (row.receipt.isSome = true ↔ row.status.isTerminal = true)
      ∧ (row.receiptArtifactHash.isSome = true ↔ row.status.isTerminal = true)
variable {row row' : StoredDeal}

theorem RowStep.not_cancelled (h : RowStep call row row') (hfits : row.ReceiptFits cancelled) :
    row.dealId ∉ cancelled := by
  intro hmem
  have hopen := h.not_terminal
  rw [((if_pos hmem).mp hfits).1] at hopen
  cases hopen

theorem RowStep.receiptFits
    (h : RowStep call row row') (hfits : row.ReceiptFits cancelled) {cancelled' : List String}
    (hmem : row.dealId ∈ cancelled' ↔ row.dealId ∈ cancelled ∨ call.cancels = true) :
    row'.ReceiptFits cancelled' := by
  have hnot := h.not_cancelled hfits
  have hfits := (if_neg hnot).mp hfits
  rw [h.not_terminal] at hfits
  have hnone : row.receipt = none := by simpa using hfits.1
  have hnone' : row.receiptArtifactHash = none := by simpa using hfits.2
  have hmem : row'.dealId ∈ cancelled' ↔ call.cancels = true := by
    rw [h.dealId_eq, hmem, or_iff_right hnot]
  have hends := DealCall.terminal_of_target h.target
  cases hcancels : call.cancels with
  | true =>
    obtain ⟨hfailed, hreceipt⟩ := DealCall.failed_of_cancels hcancels h.target
    obtain ⟨hkept, hkept'⟩ := h.noReceipt hreceipt
    exact (if_pos (hmem.mpr hcancels)).mpr ⟨hfailed, hkept hnone, hkept' hnone'⟩
  | false =>
    refine (if_neg (fun hid => ?_)).mpr ?_
    · exact Bool.false_ne_true (hcancels.symm.trans (hmem.mp hid))
    rw [hends, hcancels, Bool.or_false]
    cases hreceipt : call.receipt with
    | none =>
      obtain ⟨hkept, hkept'⟩ := h.noReceipt hreceipt
      rw [hkept hnone, hkept' hnone']
      exact ⟨Iff.rfl, Iff.rfl⟩
    | some receipt =>
      obtain ⟨hwritten, hwritten'⟩ := h.receipt receipt hreceipt
      rw [hwritten, hwritten']
      exact ⟨Iff.rfl, Iff.rfl⟩

structure DealsInv (s : DealStore) : Prop where
  ids : Table.Unique (some ·.dealId) s.deals
  known : ∀ id ∈ s.cancelled, ∃ row ∈ s.deals, row.dealId = id
  receipts : ∀ row ∈ s.deals, row.ReceiptFits s.cancelled

theorem DealsInv.init (P : Primitives) : DealsInv (dealMachine P).init :=
  ⟨unique_nil _, forall_mem_nil _, forall_mem_nil _⟩

theorem unique_dealId_step (P : Primitives) (call : DealCall)
    (h : Table.Unique (some ·.dealId) s.deals) :
    Table.Unique (some ·.dealId) (call.apply P s).deals := by
  cases call.apply_rows P s with
  | updated p f hdeals hrows _ _ _ =>
    rw [hdeals]
    exact h.updateWhere fun row _ hp => congrArg some (hrows row hp).dealId_eq
  | inserted new _ hinsert hdeals _ _ =>
    rw [hdeals]
    refine h.concat fun row hrow id hid hid' => ?_
    exact hinsert.newId row hrow (some.inj (hid.trans hid'.symm))

theorem exists_dealId_step (P : Primitives) (call : DealCall)
    (h : ∃ row ∈ s.deals, row.dealId = id) : ∃ row ∈ (call.apply P s).deals, row.dealId = id := by
  obtain ⟨row, hrow, rfl⟩ := h
  rcases call.apply_mem (P := P) hrow with hsame | ⟨row', hrow', hstep⟩
  · exact ⟨row, hsame, rfl⟩
  · exact ⟨row', hrow', hstep.dealId_eq⟩

theorem NewDeal.row_not_terminal (new : NewDeal) :
    new.withInitialStatus.row.status.isTerminal = false := by
  show (if new.paymentMethod.isSome then DealStatus.paymentPending
    else DealStatus.accepted).isTerminal = false
  split <;> rfl

theorem DealsInv.step (P : Primitives) (s : DealStore) (call : DealCall) (h : DealsInv s) :
    DealsInv (call.apply P s) := by
  have hids := unique_dealId_step P call h.ids
  have hknown (id : String) (hid : ∃ row ∈ s.deals, row.dealId = id) :=
    exists_dealId_step P call hid
  cases call.apply_rows P s with
  | updated p f hdeals hrows _ _ hcancelled =>
    refine ⟨hids, fun id hid => hknown id ?_, fun row' hrow' => ?_⟩
    · rcases (hcancelled id).mp hid with hid | ⟨-, row, hrow, -, hid⟩
      · exact h.known id hid
      · exact ⟨row, hrow, hid⟩
    · rw [hdeals] at hrow'
      obtain ⟨row, hrow, rfl⟩ := mem_updateWhere.mp hrow'
      have hfits := h.receipts row hrow
      by_cases hp : p row = true
      · rw [if_pos hp]
        refine (hrows row hp).receiptFits hfits ?_
        rw [hcancelled]
        exact or_congr_right ⟨And.left, fun hc => ⟨hc, row, hrow, hp, rfl⟩⟩
      · -- another row has another id, so it is cancelled only if it was
        rw [if_neg hp]
        have hmem : row.dealId ∈ (call.apply P s).cancelled ↔ row.dealId ∈ s.cancelled := by
          refine (hcancelled _).trans ⟨fun hid => hid.resolve_right ?_, .inl⟩
          rintro ⟨-, other, hother, hpother, hid⟩
          have heq := h.ids.eq_of_mem hrow hother rfl (congrArg some hid)
          exact hp (heq ▸ hpother)
        unfold StoredDeal.ReceiptFits at hfits ⊢
        simpa only [hmem] using hfits
  | inserted new _ hinsert hdeals _ hcancelled =>
    refine ⟨hids, fun id hid => hknown id (h.known id (hcancelled ▸ hid)), fun row hrow => ?_⟩
    rw [hcancelled]
    rw [hdeals] at hrow
    rcases mem_append.mp hrow with hrow | hrow
    · exact h.receipts row hrow
    · rw [mem_singleton.mp hrow]
      have hmem : new.withInitialStatus.row.dealId ∉ s.cancelled := fun hmem => by
        obtain ⟨row, hrow, hid⟩ := h.known _ hmem
        exact hinsert.newId row hrow hid
      refine (if_neg hmem).mpr ?_
      rw [new.row_not_terminal]
      exact ⟨Iff.rfl, Iff.rfl⟩

theorem dealsInv_run (P : Primitives) (calls : List DealCall) :
    DealsInv ((dealMachine P).run calls) :=
  (dealMachine P).invariant (DealsInv.init P) (DealsInv.step P) calls

def TerminalKept (s s' : DealStore) : Prop :=
  ∀ row ∈ s.deals, row.status.isTerminal = true → row ∈ s'.deals

instance : IsPreorder DealStore TerminalKept where
  refl _ _ hrow _ := hrow
  trans _ _ _ h h' row hrow hterm := h' row (h row hrow hterm) hterm

theorem terminalKept_step (P : Primitives) (s : DealStore) (call : DealCall) :
    TerminalKept s (call.apply P s) := by
  intro row hrow hterm
  refine (call.apply_mem hrow).resolve_right ?_
  rintro ⟨row', -, hstep⟩
  rw [hstep.not_terminal] at hterm
  cases hterm

theorem canBecome_step (P : Primitives) (call : DealCall) (h : DealsInv s) (hrow : row ∈ s.deals)
    (hrow' : row' ∈ (call.apply P s).deals) (hid : row'.dealId = row.dealId) :
    row'.status = row.status ∨ row.status.canBecome row'.status = true := by
  have hids := (h.step P s call).ids
  rcases call.apply_mem (P := P) hrow with hsame | ⟨next, hnext, hstep⟩
  · rw [hids.eq_of_mem hrow' hsame (congrArg some hid) rfl]
    exact .inl rfl
  · rw [hids.eq_of_mem hrow' hnext (congrArg some hid) (congrArg some hstep.dealId_eq)]
    exact hstep.canBecome

/-- **The life of a deal.** After any sequence of calls, a further call changes
a status only along `DealStatus.canBecome`; the row of a deal that has ended is
the same after any further calls; and a row has a receipt and its hash exactly
when the deal has ended, except that a deal cancelled before its admission has
failed with neither. -/
theorem deal_lifecycle (P : Primitives) (calls : List DealCall) :
    (∀ call, ∀ row ∈ ((dealMachine P).run calls).deals,
      ∀ row' ∈ ((dealMachine P).run (calls ++ [call])).deals, row'.dealId = row.dealId →
        row'.status = row.status ∨ row.status.canBecome row'.status = true)
    ∧ (∀ row ∈ ((dealMachine P).run calls).deals, row.status.isTerminal = true →
      ∀ more, row ∈ ((dealMachine P).run (calls ++ more)).deals
        ∧ ∀ row' ∈ ((dealMachine P).run (calls ++ more)).deals,
          row'.dealId = row.dealId → row' = row) ∧ ∀ row ∈ ((dealMachine P).run calls).deals,
      row.ReceiptFits ((dealMachine P).run calls).cancelled := by
  refine ⟨fun call row hrow row' hrow' hid => ?_, fun row hrow hterm more => ?_,
    (dealsInv_run P calls).receipts⟩
  · rw [(dealMachine P).run_append] at hrow'
    exact canBecome_step P call (dealsInv_run P calls) hrow hrow' hid
  · have hkept : TerminalKept ((dealMachine P).run calls)
        ((dealMachine P).run (calls ++ more)) := by
      rw [(dealMachine P).run_append]
      exact (dealMachine P).run_rel (I := fun _ => True) (fun _ _ _ => trivial)
        (fun s call _ => terminalKept_step P s call) more _ trivial
    have hmem := hkept row hrow hterm
    refine ⟨hmem, fun row' hrow' hid => ?_⟩
    exact (dealsInv_run P _).ids.eq_of_mem hrow' hmem (congrArg some hid) rfl

end Froglet
