import Froglet.Provider.Recovery

/-!
# Recovery of prepaid deals

A prepaid deal whose invoice nobody paid is to end once its completion deadline has
passed, with a receipt that says the settlement was canceled.
-/

namespace Froglet

structure StoredDeal.UnpaidPastDeadline (deal : StoredDeal) (answers : RecoveryAnswers)
    (recoveredAt : ℤ) : Prop where
  status : deal.status = .paymentPending
  method : deal.paymentMethod = some .lightningPrepaid
  hash : deal.paymentTokenHash.isSome = true
  late : deal.artifact.payload.completionDeadline < recoveredAt
  unpaid : ∃ payment, answers.payment = .ok payment ∧ payment.isPaid = false

variable {P : Primitives} (env : ProviderEnv P) (deal : StoredDeal) (answers : RecoveryAnswers)
  (recoveredAt : ℤ)

def ReleasedByRecovery : Prop :=
  ∃ failure, classifyDealRecovery env deal answers recoveredAt = .ok (.fail failure)
    ∧ failure.receipt.payload.settlementState = "canceled"
    ∧ (validateQuoteDealReceipt P deal.quote deal.artifact failure.receipt none).valid = true

variable {env deal answers recoveredAt}

theorem recoveredPrepaidSettlement_unpaid {payment : IncomingPayment}
    (hhash : deal.paymentTokenHash.isSome = true) (hunpaid : payment.isPaid = false) :
    ∃ error, recoveredPrepaidSettlement P deal (.ok payment) = .error error := by
  obtain ⟨paymentHash, hhash⟩ := Option.isSome_iff_exists.mp hhash
  obtain ⟨error, herror⟩ : ∃ error, prepaidSettlementForDeal P deal (.ok payment)
      = .error error := by
    unfold prepaidSettlementForDeal
    rw [hhash]
    cases deal.paymentAmountSats with
    | none => exact ⟨_, rfl⟩
    | some amountSats =>
      have hproof : validatePrepaidPaymentProof P paymentHash amountSats payment
          = .error "prepaid invoice is not paid" := by
        unfold validatePrepaidPaymentProof
        rw [hunpaid]
        rfl
      exact ⟨_, bind_eq_error.mpr (.inr ⟨payment, rfl, bind_eq_error.mpr (.inl hproof)⟩)⟩
  have htext := not_unpaid_of_prepaidSettlementForDeal herror fun _ h => nomatch h
  refine ⟨error, ?_⟩
  unfold recoveredPrepaidSettlement
  simp only [hhash, herror, if_neg htext]

/-- An unpaid prepaid deal is held, however late it is. -/
theorem unpaid_prepaid_held (h : deal.UnpaidPastDeadline answers recoveredAt) :
    classifyDealRecovery env deal answers recoveredAt = .ok (.requeue
        { dealId := deal.dealId, previousStatus := .paymentPending
          resetRunningStatus := false, spawnAfterRecovery := false }) := by
  obtain ⟨payment, hanswer, hunpaid⟩ := h.unpaid
  obtain ⟨error, herror⟩ := recoveredPrepaidSettlement_unpaid (P := P) h.hash hunpaid
  unfold classifyDealRecovery requeueDeal recoverExpired
  simp only [if_pos h.late, h.method, hanswer, herror, h.status]
  rfl

/-- **What an expired prepaid deal gets is never a release**: recovery releases a deal
that is unpaid past its deadline only if there is none. -/
theorem expired_prepaid_released_iff : (deal.UnpaidPastDeadline answers recoveredAt
        → ReleasedByRecovery env deal answers recoveredAt)
      ↔ ¬ deal.UnpaidPastDeadline answers recoveredAt := by
  constructor
  · intro hreleased h
    obtain ⟨failure, hfail, -⟩ := hreleased h
    rw [unpaid_prepaid_held h] at hfail
    exact nomatch hfail
  · exact fun h hunpaid => absurd hunpaid h

/-! ## A deal that is never given up -/

def sampleUnpaidHash : String := "00000000000000000000000000000000000000000000000000000000000000bb"

def sampleUnpaidDeal : StoredDeal :=
  let request := sampleRequest
    (samplePaidQuote settlementMethodLightningPrepaid samplePayee 0) none
  { (request.newDeal "d" (some .lightningPrepaid) 1 5).row with
    paymentTokenHash := some sampleUnpaidHash, updatedAt := 6 }

def sampleUnpaidRun : List ProviderAction :=
  [.recoverRuntimeStateLocal [] 5,
    sampleAdmission (sampleRequest
      (samplePaidQuote settlementMethodLightningPrepaid samplePayee 0) none),
    .claimDealMaterialization "d" "t" 5,
    .persistPrepaidInvoice (sampleClaim (.prepaidInvoice 1 "d")) "lnbc" sampleUnpaidHash 6]

def sampleUnpaidAnswers : RecoveryAnswers :=
  { synced := none, canceled := .error "", stripeReleased := .error ""
    payment := .ok { isPaid := false, receivedSat := 0, preimageHex := "" } }

/-- **An unpaid deal of the store outlives its deadline**: a second after it, recovery
holds the deal as it is. -/
theorem expired_prepaid_not_released :
    let env := sampleEnv ⟨[.lightning], .phoenixd, [], false⟩
    sampleUnpaidDeal ∈ ((providerMachine env).run sampleUnpaidRun).store.deals
    ∧ sampleUnpaidDeal.artifact.payload.completionDeadline = 20
    ∧ sampleUnpaidDeal.UnpaidPastDeadline sampleUnpaidAnswers 21
    ∧ classifyDealRecovery env sampleUnpaidDeal sampleUnpaidAnswers 21
      = .ok (.requeue
        { dealId := "d", previousStatus := .paymentPending
          resetRunningStatus := false, spawnAfterRecovery := false })
    ∧ ¬ ReleasedByRecovery env sampleUnpaidDeal sampleUnpaidAnswers 21 := by
  have hunpaid : sampleUnpaidDeal.UnpaidPastDeadline sampleUnpaidAnswers 21 :=
    ⟨rfl, rfl, rfl, by decide, _, rfl, rfl⟩
  refine ⟨by decide +kernel, rfl, hunpaid, unpaid_prepaid_held hunpaid, ?_⟩
  rintro ⟨failure, hfail, -⟩
  rw [unpaid_prepaid_held hunpaid] at hfail
  exact nomatch hfail

end Froglet
