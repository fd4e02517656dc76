import Froglet.Deals.Record
import Froglet.Lib.Table

/-!
# What a requester accepts from a provider

A requester keeps its own row for every deal it asked for, and reads the deal back from
the provider: a party it does not trust.
-/

namespace Froglet

variable (P : Primitives)

/-! ## Verification -/

abbrev ApiFailure := String

def verifyProviderReceiptArtifact (receipt : SignedReceipt) (quote : SignedQuote)
    (deal : SignedDeal) (expectedProviderId expectedRequesterId : String) (result : Option Json)
    (resultHash : Option String) : Except ApiFailure Unit := do
  let report := validateQuoteDealReceipt P quote deal receipt none
  let details := "; ".intercalate
    (report.issues.map fun issue => issue.code ++ ": " ++ issue.message)
  rejectIf (!report.valid) s!"provider Artifact Chain validation failed: {details}"
  rejectIf (receipt.payload.providerId != expectedProviderId)
    "provider receipt provider_id does not match selected provider"
  rejectIf (receipt.payload.requesterId != expectedRequesterId)
    "provider receipt requester_id does not match local runtime identity"
  match receipt.payload.resultHash, result, resultHash with
  | none, none, none => pure ()
  | some receiptHash, some result, some responseHash =>
    rejectIf (receiptHash != responseHash || receiptHash != canonicalResultHash P result)
      "provider receipt, result_hash, and result payload do not match"
  | _, _, _ => throw "provider receipt result fields do not match the provider response"

/-- What a verified receipt binds: it validates against the quote and the
deal, names the expected parties, and its result hash is the hash shown and the
hash of the result shown. -/
structure ReceiptVerified (receipt : SignedReceipt) (quote : SignedQuote) (deal : SignedDeal)
    (providerId requesterId : String) (result : Option Json) (resultHash : Option String) :
    Prop where
  chain : (validateQuoteDealReceipt P quote deal receipt none).valid = true
  providerId : receipt.payload.providerId = providerId
  requesterId : receipt.payload.requesterId = requesterId
  resultHash : resultHash = receipt.payload.resultHash
  result : result.map (canonicalResultHash P) = receipt.payload.resultHash

theorem verifyProviderReceiptArtifact_iff {receipt : SignedReceipt}
    {quote : SignedQuote} {deal : SignedDeal}
    {providerId requesterId : String} {result : Option Json} {resultHash : Option String} :
    verifyProviderReceiptArtifact P receipt quote deal providerId requesterId result resultHash
        = .ok ()
      ↔ ReceiptVerified P receipt quote deal providerId requesterId result resultHash := by
  unfold verifyProviderReceiptArtifact
  simp only [check_eq_ok, rejectIf_eq_ok, Bool.not_eq_false', bne_eq_false_iff_eq]
  have hfields : (match receipt.payload.resultHash, result, resultHash with
      | none, none, none => (pure () : Except ApiFailure Unit)
      | some receiptHash, some result, some responseHash =>
        rejectIf (receiptHash != responseHash || receiptHash != canonicalResultHash P result)
          "provider receipt, result_hash, and result payload do not match"
      | _, _, _ => throw "provider receipt result fields do not match the provider response")
        = .ok ()
      ↔ resultHash = receipt.payload.resultHash
        ∧ result.map (canonicalResultHash P) = receipt.payload.resultHash := by
    cases receipt.payload.resultHash <;> cases result <;> cases resultHash <;> simp
    constructor <;> rintro ⟨h₁, h₂⟩ <;> exact ⟨h₁.symm, h₂.symm⟩
  rw [hfields]
  exact ⟨fun h => ⟨h.1, h.2.1, h.2.2.1, h.2.2.2.1, h.2.2.2.2⟩,
    fun h => ⟨h.chain, h.providerId, h.requesterId, h.resultHash, h.result⟩⟩

def verifyProviderDealArtifactChain (remote : DealRecord) (expectedQuote : SignedQuote)
    (expectedDeal : SignedDeal) : Except ApiFailure Unit := do
  rejectIf (remote.quote.hash != expectedQuote.hash || remote.deal.hash != expectedDeal.hash)
    "provider deal does not match local requester artifacts"
  let report := validateQuoteDeal P remote.quote remote.deal none
  let details := "; ".intercalate
    (report.issues.map fun issue => issue.code ++ ": " ++ issue.message)
  rejectIf (!report.valid) s!"provider Quote-to-Deal chain validation failed: {details}"

def submissionPending : String := "submission_pending"

def unsignedProviderTransitionIsForward (source target : String) : Bool :=
  let oneOf (allowed : List DealStatus) : Bool := allowed.any (·.text == target)
  if source == submissionPending || source == DealStatus.paymentPending.text then
    oneOf [.paymentPending, .accepted, .running, .resultReady, .settlementPending]
  else if source == DealStatus.accepted.text then
    oneOf [.accepted, .running, .resultReady, .settlementPending]
  else if source == DealStatus.running.text then
    oneOf [.running, .resultReady, .settlementPending]
  else if source == DealStatus.resultReady.text then
    oneOf [.resultReady, .settlementPending]
  else if source == DealStatus.settlementPending.text then
    oneOf [.settlementPending]
  else false

structure StoredRequesterDeal where
  dealId : String
  idempotencyKey : Option String
  (providerId providerUrl : String)
  providerSyncUrl : Option String
  spec : WorkloadSpec
  quote : SignedQuote
  deal : SignedDeal
  status : String
  result : Option Json
  (resultHash error : Option String)
  receipt : Option SignedReceipt
  successPreimage : String
  (createdAt updatedAt : ℤ)
deriving DecidableEq

inductive ProviderDealProjection where
  | unchanged
  | provisional
  | signedTerminal

def verifyUnsignedFields (remote : DealRecord) : Except ApiFailure Unit :=
  if remote.status == DealStatus.resultReady.text then
    match remote.result, remote.resultHash with
    | none, _ => throw "provider result_ready projection is missing its result"
    | some _, none => throw "provider result_ready projection is missing its result_hash"
    | some result, some resultHash =>
      rejectIf (canonicalResultHash P result != resultHash || remote.error.isSome)
        "provider result_ready projection has inconsistent result fields"
  else if remote.status == DealStatus.settlementPending.text then
    match remote.result, remote.resultHash with
    | some result, some hash =>
      rejectIf (canonicalResultHash P result != hash)
        "provider settlement_pending projection has inconsistent result fields"
    | none, none => pure ()
    | _, _ => throw "provider settlement_pending projection has inconsistent result fields"
  else
    rejectIf (remote.result.isSome || remote.resultHash.isSome || remote.error.isSome)
      "provider non-terminal projection has unexpected result or error fields"

def verifyProviderDealProjection (stored : StoredRequesterDeal) (remote : DealRecord) :
    Except ApiFailure ProviderDealProjection := do
  verifyProviderDealArtifactChain P remote stored.quote stored.deal
  match remote.receipt with
  | some receipt => do
    verifyProviderReceiptArtifact P receipt stored.quote stored.deal stored.providerId
      stored.deal.payload.requesterId remote.result remote.resultHash
    rejectIf (some remote.status != statusBoundToReceipt receipt)
      "provider status does not match its signed Receipt"
    return .signedTerminal
  | none => do
    rejectIf (!unsignedProviderTransitionIsForward stored.status remote.status)
      "provider attempted to change requester state without a signed Receipt"
    verifyUnsignedFields P remote
    if remote.status == stored.status && remote.result == stored.result
        && remote.resultHash == stored.resultHash && remote.error == stored.error then
      return .unchanged
    else return .provisional

/-- A signed terminal answer: its receipt is verified against the row's own
quote and deal, and its status is the one the receipt stands for. -/
structure SignedAnswer (stored : StoredRequesterDeal) (remote : DealRecord)
    (receipt : SignedReceipt) : Prop where
  carried : remote.receipt = some receipt
  verified : ReceiptVerified P receipt stored.quote stored.deal stored.providerId
    stored.deal.payload.requesterId remote.result remote.resultHash
  status : statusBoundToReceipt receipt = some remote.status

theorem signedAnswer_of_projection {stored : StoredRequesterDeal} {remote : DealRecord}
    (h : verifyProviderDealProjection P stored remote = .ok .signedTerminal) :
    ∃ receipt, SignedAnswer P stored remote receipt := by
  unfold verifyProviderDealProjection at h
  rw [check_eq_ok] at h
  obtain ⟨_, h⟩ := h
  cases hr : remote.receipt with
  | none =>
    rw [hr] at h
    simp only [check_eq_ok] at h
    obtain ⟨_, _, h⟩ := h
    split at h <;> cases h
  | some receipt =>
    rw [hr] at h
    simp only [check_eq_ok, rejectIf_eq_ok, bne_eq_false_iff_eq,
      verifyProviderReceiptArtifact_iff] at h
    exact ⟨receipt, hr, h.1, h.2.1.symm⟩

/-! ## The table -/

structure NewRequesterDeal where
  dealId : String
  idempotencyKey : Option String
  (providerId providerUrl : String)
  providerSyncUrl : Option String
  spec : WorkloadSpec
  quote : SignedQuote
  deal : SignedDeal
  (status successPreimage : String)
  createdAt : ℤ

abbrev RequesterDeals := List StoredRequesterDeal

def getRequesterDeal (rows : RequesterDeals) (dealId : String) : Option StoredRequesterDeal :=
  Table.selectWhere (·.dealId == dealId) rows

def findRequesterDealByIdempotencyKey (rows : RequesterDeals) (key : String) :
    Option StoredRequesterDeal :=
  Table.selectWhere (·.idempotencyKey == some key) rows

def NewRequesterDeal.row (new : NewRequesterDeal) : StoredRequesterDeal :=
  { dealId := new.dealId, idempotencyKey := new.idempotencyKey, providerId := new.providerId
    providerUrl := new.providerUrl, providerSyncUrl := new.providerSyncUrl, spec := new.spec
    quote := new.quote, deal := new.deal, status := new.status, result := none
    resultHash := none, error := none, receipt := none, successPreimage := new.successPreimage
    createdAt := new.createdAt, updatedAt := new.createdAt }

def NewRequesterDeal.sameDeal (new : NewRequesterDeal) (existing : StoredRequesterDeal) : Bool :=
  existing.deal.hash == new.deal.hash && existing.quote.hash == new.quote.hash
    && existing.providerId == new.providerId
    && existing.successPreimage == new.successPreimage

def insertOrGetRequesterDeal (new : NewRequesterDeal) (rows : RequesterDeals) :
    Except String (StoredRequesterDeal × Bool) × RequesterDeals :=
  match new.idempotencyKey.bind (findRequesterDealByIdempotencyKey rows) with
  | some existing =>
    if new.sameDeal existing then (.ok (existing, false), rows)
    else (.error "idempotency key reused with different requester deal", rows)
  | none =>
    match getRequesterDeal rows new.dealId with
    | some existing =>
      if new.sameDeal existing then (.ok (existing, false), rows)
      else (.error "provider deal_id collision with different requester artifacts", rows)
    | none => (.ok (new.row, true), rows ++ [new.row])

def StoredRequesterDeal.withAnswer (row : StoredRequesterDeal) (remote : DealRecord)
    (updatedAt : ℤ) : StoredRequesterDeal :=
  { row with
    status := remote.status, result := remote.result, resultHash := remote.resultHash
    error := remote.error, receipt := remote.receipt, updatedAt := updatedAt }

def updateRequesterDealState (dealId : String) (remote : DealRecord) (updatedAt : ℤ)
    (rows : RequesterDeals) : RequesterDeals :=
  Table.updateWhere (·.dealId == dealId) (·.withAnswer remote updatedAt) rows

def StoredRequesterDeal.unchangedSince (current snapshot : StoredRequesterDeal) : Bool :=
  current.status == snapshot.status && current.result == snapshot.result
    && current.resultHash == snapshot.resultHash && current.error == snapshot.error
    && current.receipt.map (·.hash) == snapshot.receipt.map (·.hash)
    && current.updatedAt == snapshot.updatedAt

def storeAnswer (snapshot : StoredRequesterDeal) (remote : DealRecord) (updatedAt : ℤ)
    (rows : RequesterDeals) : Option StoredRequesterDeal × RequesterDeals :=
  match getRequesterDeal rows snapshot.dealId with
  | none => (none, rows)
  | some current =>
    if current.unchangedSince snapshot then
      let rows' := updateRequesterDealState snapshot.dealId remote updatedAt rows
      (getRequesterDeal rows' snapshot.dealId, rows')
    else (some current, rows)

end Froglet
