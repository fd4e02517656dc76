import Froglet.Deals.Record
import Froglet.Lib.Integers
import Froglet.Lib.Table

/-!
# The provider's table of deals

A row per deal, and the statements that write it. Every statement that changes a status
is a compare-and-set: it names the deal and the status it expects, and touches nothing
when the row has moved on.
-/

namespace Froglet

open List Option Table
variable {expected : DealStatus}

inductive PaymentMethod where
  | lightning
  | lightningPrepaid
  | stripe
deriving DecidableEq

structure StoredDeal where
  dealId : String
  idempotencyKey : Option String
  quote : SignedQuote
  spec : WorkloadSpec
  artifact : SignedDeal
  dealArtifactHash : Option String
  status : DealStatus
  result : Option Json
  (resultHash error : Option String)
  paymentMethod : Option PaymentMethod
  paymentTokenHash : Option String
  paymentAmountSats : Option ℕ
  receipt : Option SignedReceipt
  (receiptArtifactHash resultEvidenceHash failureEvidenceHash : Option String)
  (createdAt updatedAt : ℤ)
deriving DecidableEq
variable {set : StoredDeal → StoredDeal}

abbrev Deals := List StoredDeal

variable {deals : Deals} {dealId : String}

/-! ## Lookups -/

def getDeal (deals : Deals) (dealId : String) : Option StoredDeal :=
  selectWhere (·.dealId == dealId) deals

def findDealByIdempotencyKey (deals : Deals) (key : String) : Option StoredDeal :=
  selectWhere (·.idempotencyKey == some key) deals

def getDealByArtifactHash (deals : Deals) (hash : String) : Option StoredDeal :=
  selectWhere (·.dealArtifactHash == some hash) deals

theorem mem_of_getDeal {deal : StoredDeal} (h : getDeal deals dealId = some deal) :
    deal ∈ deals ∧ deal.dealId = dealId := by
  obtain ⟨hmem, hid⟩ := selectWhere_some h
  exact ⟨hmem, beq_iff_eq.mp hid⟩

theorem getDeal_of_mem (hids : Table.Unique (some ·.dealId) deals)
    {deal : StoredDeal} (h : deal ∈ deals) : getDeal deals deal.dealId = some deal :=
  hids.selectWhere_of_mem h (fun row => by simp) rfl

/-! ## Admission -/

structure QuoteUsage where
  (quoteHash dealId dealArtifactHash : String)
  createdAt : ℤ
deriving DecidableEq

structure NewDeal where
  dealId : String
  idempotencyKey : Option String
  quote : SignedQuote
  spec : WorkloadSpec
  artifact : SignedDeal
  dealArtifactHash : String
  paymentMethod : Option PaymentMethod
  paymentTokenHash : Option String
  paymentAmountSats : Option ℕ
  initialStatus : DealStatus
  createdAt : ℤ

def NewDeal.row (new : NewDeal) : StoredDeal :=
  { dealId := new.dealId, idempotencyKey := new.idempotencyKey, quote := new.quote
    spec := new.spec, artifact := new.artifact, dealArtifactHash := some new.dealArtifactHash
    status := new.initialStatus, result := none, resultHash := none, error := none
    paymentMethod := new.paymentMethod, paymentTokenHash := new.paymentTokenHash
    paymentAmountSats := new.paymentAmountSats, receipt := none, receiptArtifactHash := none
    resultEvidenceHash := none, failureEvidenceHash := none
    createdAt := new.createdAt, updatedAt := new.createdAt }

def quoteAlreadyUsedError : String := "quote already used by a different deal"

def reserveQuoteUsage (usages : List QuoteUsage) (usage : QuoteUsage) :
    Except String (List QuoteUsage) :=
  if usages.any fun u =>
      u.quoteHash == usage.quoteHash || u.dealArtifactHash == usage.dealArtifactHash then
    match selectWhere (·.quoteHash == usage.quoteHash) usages with
    | some existing =>
      if existing.dealArtifactHash == usage.dealArtifactHash then .ok usages
      else .error quoteAlreadyUsedError
    | none => .error quoteAlreadyUsedError
  else .ok (usages ++ [usage])

variable {usages usages' : List QuoteUsage}

abbrev UniqueQuotes (usages : List QuoteUsage) : Prop := Table.Unique (some ·.quoteHash) usages

theorem reserveQuoteUsage_ok {usage : QuoteUsage}
    (hunique : UniqueQuotes usages) (h : reserveQuoteUsage usages usage = .ok usages') :
    usages ⊆ usages' ∧ UniqueQuotes usages' ∧ ∃ u ∈ usages', u.quoteHash = usage.quoteHash
        ∧ u.dealArtifactHash = usage.dealArtifactHash := by
  unfold reserveQuoteUsage at h
  split at h
  case isTrue =>
    split at h
    case h_1 existing hexisting =>
      split at h
      case isTrue heq =>
        cases h
        obtain ⟨hmem, hquote⟩ := selectWhere_some hexisting
        exact ⟨Subset.refl _, hunique, existing, hmem, beq_iff_eq.mp hquote, beq_iff_eq.mp heq⟩
      case isFalse => cases h
    case h_2 => cases h
  case isFalse hfresh =>
    cases h
    have hnew : ∀ u ∈ usages, u.quoteHash ≠ usage.quoteHash := by
      intro u hu heq
      refine hfresh (any_eq_true.mpr ⟨u, hu, ?_⟩)
      rw [heq, beq_self_eq_true, Bool.true_or]
    refine ⟨subset_append_left _ _, hunique.concat (fun u hu k hk hk' => ?_), usage,
      mem_concat_self, rfl, rfl⟩
    exact hnew u hu (some.inj (hk.trans hk'.symm))

def insertOrGetDeal (new : NewDeal) (deals : Deals) (usages : List QuoteUsage) :
    Except String ((StoredDeal × Bool) × Deals × List QuoteUsage) :=
  match getDealByArtifactHash deals new.dealArtifactHash with
  | some existing => .ok ((existing, false), deals, usages)
  | none =>
    match new.idempotencyKey.bind (findDealByIdempotencyKey deals) with
    | some existing =>
      if existing.artifact.hash != new.artifact.hash then
        .error "idempotency key reused with different deal payload"
      else .ok ((existing, false), deals, usages)
    | none => do
      rejectIf (new.paymentAmountSats.any (i64Max < ·))
        "deal payment_amount_sats exceeds the signed range"
      let usages ← reserveQuoteUsage usages
        { quoteHash := new.quote.hash, dealId := new.dealId
          dealArtifactHash := new.dealArtifactHash, createdAt := new.createdAt }
      rejectIf (getDeal deals new.dealId).isSome "UNIQUE constraint failed: deals.deal_id"
      return ((new.row, true), deals ++ [new.row], usages)

structure Inserted (new : NewDeal) (deals : Deals) (usages usages' : List QuoteUsage) : Prop where
  newId : ∀ row ∈ deals, row.dealId ≠ new.dealId
  newHash : ∀ row ∈ deals, row.dealArtifactHash ≠ some new.dealArtifactHash
  newKey : ∀ row ∈ deals, ∀ key, new.idempotencyKey = some key → row.idempotencyKey ≠ some key
  reserved : reserveQuoteUsage usages
    { quoteHash := new.quote.hash, dealId := new.dealId
      dealArtifactHash := new.dealArtifactHash, createdAt := new.createdAt } = .ok usages'

theorem insertOrGetDeal_ok {new : NewDeal} {deals deals' : Deals}
    {row : StoredDeal} {created : Bool}
    (h : insertOrGetDeal new deals usages = .ok ((row, created), deals', usages')) :
    (created = false ∧ row ∈ deals ∧ deals' = deals ∧ usages' = usages)
      ∨ (created = true ∧ Inserted new deals usages usages' ∧ row = new.row
        ∧ deals' = deals ++ [new.row]) := by
  unfold insertOrGetDeal at h
  split at h
  case h_1 existing hexisting =>
    cases h
    exact .inl ⟨rfl, (selectWhere_some hexisting).1, rfl, rfl⟩
  case h_2 hhash =>
    split at h
    case h_1 existing hexisting =>
      split at h
      · cases h
      · cases h
        obtain ⟨key, -, hkey⟩ := bind_eq_some_iff.mp hexisting
        exact .inl ⟨rfl, (selectWhere_some hkey).1, rfl, rfl⟩
    case h_2 hkey =>
      simp only [bind_eq_ok, pure_eq_ok, Prod.mk.injEq] at h
      obtain ⟨-, -, usages₁, hreserve, _, hid, ⟨rfl, rfl⟩, rfl, rfl⟩ := h
      refine .inr ⟨rfl, ⟨fun row hrow => ?_, fun row hrow => ?_, fun row hrow key hnew => ?_,
        hreserve⟩, rfl, rfl⟩
      · have hnone : getDeal deals new.dealId = none := by
          simpa using rejectIf_eq_ok.mp hid
        simpa using selectWhere_none hnone hrow
      · simpa using selectWhere_none hhash hrow
      · rw [hnew, bind_some] at hkey
        simpa using selectWhere_none hkey hrow

theorem insertOrGetDeal_created {new : NewDeal} {deals deals' : Deals} {row : StoredDeal}
    (h : insertOrGetDeal new deals usages = .ok ((row, true), deals', usages')) :
    Inserted new deals usages usages' ∧ row = new.row ∧ deals' = deals ++ [new.row] :=
  (insertOrGetDeal_ok h).elim (fun h => nomatch h.1) And.right

theorem insertOrGetDeal_found {new : NewDeal} {deals deals' : Deals} {row : StoredDeal}
    (h : insertOrGetDeal new deals usages = .ok ((row, false), deals', usages')) :
    row ∈ deals ∧ deals' = deals ∧ usages' = usages :=
  (insertOrGetDeal_ok h).elim And.right fun h => nomatch h.1

def quarantineInvalidDeals (decodes : StoredDeal → Bool) (deals : Deals) : Deals :=
  deleteWhere (fun deal => !decodes deal) deals

/-! ## Status changes -/

def compareAndSet (dealId : String) (expected : DealStatus) (set : StoredDeal → StoredDeal)
    (deals : Deals) : Bool × Deals :=
  (deals.any fun deal => deal.dealId == dealId && deal.status == expected,
    updateWhere (fun deal => deal.dealId == dealId && deal.status == expected) set deals)

theorem exists_of_compareAndSet (h : (compareAndSet dealId expected set deals).1 = true) :
    ∃ row ∈ deals, row.dealId = dealId ∧ row.status = expected := by
  obtain ⟨row, hrow, hmatch⟩ := any_eq_true.mp h
  simp only [Bool.and_eq_true, beq_iff_eq] at hmatch
  exact ⟨row, hrow, hmatch⟩

theorem eq_of_mem_compareAndSet (hids : Table.Unique (some ·.dealId) deals)
    (hset : ∀ row, (set row).dealId = row.dealId) {row row' : StoredDeal} (hrow : row ∈ deals)
    (hid : row.dealId = dealId) (hstatus : row.status = expected)
    (hrow' : row' ∈ (compareAndSet dealId expected set deals).2) (hid' : row'.dealId = dealId) :
    row' = set row := by
  obtain ⟨row₀, hrow₀, rfl⟩ := mem_updateWhere.mp hrow'
  have hid₀ : row₀.dealId = dealId := by
    split at hid'
    case isTrue => rwa [hset] at hid'
    case isFalse => exact hid'
  obtain rfl := hids.eq_of_mem hrow₀ hrow (congrArg some hid₀) (congrArg some hid)
  rw [if_pos]
  exact Bool.and_eq_true_iff.mpr ⟨beq_iff_eq.mpr hid, beq_iff_eq.mpr hstatus⟩

def tryMarkDealRunning (dealId : String) (now : ℤ) (deals : Deals) : Bool × Deals :=
  compareAndSet dealId .accepted ({ · with status := .running, updatedAt := now }) deals

theorem exists_of_tryMarkDealRunning {now : ℤ}
    (h : (tryMarkDealRunning dealId now deals).1 = true) :
    ∃ row ∈ deals, row.dealId = dealId ∧ row.status = .accepted :=
  exists_of_compareAndSet h

def resetRunningDealToAccepted (dealId : String) (now : ℤ) (deals : Deals) : Bool × Deals :=
  compareAndSet dealId .running ({ · with status := .accepted, updatedAt := now }) deals

def tryMarkDealAcceptedFromPaymentPending (dealId : String) (now : ℤ) (deals : Deals) :
    Bool × Deals :=
  compareAndSet dealId .paymentPending ({ · with status := .accepted, updatedAt := now }) deals

def materializePaymentForPendingDeal (dealId tokenHash : String) (amountSats : ℕ)
    (nextStatus : DealStatus) (now : ℤ) (deals : Deals) : Except String (Bool × Deals) := do
  rejectIf (nextStatus != .accepted && nextStatus != .paymentPending)
    s!"unsupported materialized deal status: {nextStatus.text}"
  rejectIf (i64Max < amountSats) "deal payment_amount_sats exceeds the signed range"
  return compareAndSet dealId .paymentPending
    ({ · with
      paymentTokenHash := some tokenHash, paymentAmountSats := some amountSats
      status := nextStatus, updatedAt := now }) deals

structure DealSuccessCompletion where
  dealId : String
  expectedStatus : DealStatus
  result : Json
  explicitResultHash : Option String
  receipt : SignedReceipt
  (resultEvidenceHash receiptArtifactHash : Option String)
  now : ℤ

def completeDealSuccessIfStatus (P : Primitives) (update : DealSuccessCompletion) (deals : Deals) :
    Bool × Deals :=
  compareAndSet update.dealId update.expectedStatus
    (fun deal => { deal with
      status := .succeeded
      result := some update.result
      resultHash := some (update.explicitResultHash.getD (canonicalResultHash P update.result))
      error := none
      receipt := some update.receipt
      resultEvidenceHash := update.resultEvidenceHash.or deal.resultEvidenceHash
      failureEvidenceHash := none
      receiptArtifactHash := update.receiptArtifactHash.or deal.receiptArtifactHash
      updatedAt := update.now }) deals

def stageDealResultReady (P : Primitives) (dealId : String) (result : Json)
    (explicitResultHash resultEvidenceHash : Option String) (now : ℤ) (deals : Deals) :
    Bool × Deals :=
  compareAndSet dealId .running
    (fun deal => { deal with
      status := .resultReady
      result := some result
      resultHash := some (explicitResultHash.getD (canonicalResultHash P result))
      error := none
      receipt := none
      resultEvidenceHash := resultEvidenceHash.or deal.resultEvidenceHash
      failureEvidenceHash := none
      receiptArtifactHash := none
      updatedAt := now }) deals

def stageDealSettlementPendingFailure (dealId error failureEvidenceHash : String) (now : ℤ)
    (deals : Deals) : Bool × Deals :=
  compareAndSet dealId .running
    ({ · with
      status := .settlementPending, result := none, resultHash := none, error := some error
      receipt := none, resultEvidenceHash := none
      failureEvidenceHash := some failureEvidenceHash, receiptArtifactHash := none
      updatedAt := now }) deals

structure DealTerminalTransition where
  dealId : String
  expectedStatus : DealStatus
  error : String
  receipt : SignedReceipt
  (failureEvidenceHash receiptArtifactHash : Option String)
  now : ℤ

variable (update : DealTerminalTransition)

def completeRecoveryFailureIfStatus (preserveResult : Bool) (deals : Deals) : Bool × Deals :=
  compareAndSet update.dealId update.expectedStatus
    (fun deal => { deal with
      status := .failed
      result := if preserveResult then deal.result else none
      resultHash := if preserveResult then deal.resultHash else none
      error := some update.error
      receipt := some update.receipt
      resultEvidenceHash := if preserveResult then deal.resultEvidenceHash else none
      failureEvidenceHash := update.failureEvidenceHash
      receiptArtifactHash := update.receiptArtifactHash
      updatedAt := update.now }) deals

def rejectDealIfStatus (deals : Deals) : Bool × Deals :=
  compareAndSet update.dealId update.expectedStatus
    (fun deal => { deal with
      status := .rejected
      error := some update.error
      receipt := some update.receipt
      resultEvidenceHash := none
      failureEvidenceHash := update.failureEvidenceHash.or deal.failureEvidenceHash
      receiptArtifactHash := update.receiptArtifactHash.or deal.receiptArtifactHash
      updatedAt := update.now }) deals

def completeDealFailureIfStatus (deals : Deals) : Bool × Deals :=
  compareAndSet update.dealId update.expectedStatus
    (fun deal => { deal with
      status := .failed
      error := some update.error
      receipt := some update.receipt
      failureEvidenceHash := update.failureEvidenceHash.or deal.failureEvidenceHash
      receiptArtifactHash := update.receiptArtifactHash.or deal.receiptArtifactHash
      updatedAt := update.now }) deals

def StoredDeal.isUnadmitted (dealId : String) (deal : StoredDeal) : Bool :=
  deal.dealId == dealId && deal.status == .paymentPending
    && deal.receipt.isNone && deal.receiptArtifactHash.isNone

def cancelUnadmittedDeal (dealId message failureEvidenceHash : String) (now : ℤ) (deals : Deals) :
    Bool × Deals :=
  (deals.any (StoredDeal.isUnadmitted dealId),
    updateWhere (StoredDeal.isUnadmitted dealId)
      ({ · with
        status := .failed, error := some message
        failureEvidenceHash := some failureEvidenceHash, updatedAt := now }) deals)

end Froglet
