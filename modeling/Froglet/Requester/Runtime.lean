import Froglet.Lib.Integers
import Froglet.Lib.Runs
import Froglet.Requester.Projection

/-!
# The requester's runtime against an arbitrary provider

Every runtime operation is a task: it reads a row, sends a request, and goes on when the
provider answers.
-/

namespace Froglet

/-- What the runtime reads of the node it runs on. -/
structure RequesterEnv where
  prims : Primitives
  nodeId : String
  lightningBackend : Bool
  lightningMode : LightningMode
  buyerPhoenixd : Bool
  usesA2a : String → Bool
  prepaidInvoiceValid :
    PrepaidInvoice → SignedQuote → SignedDeal → ℤ → Bool

structure CreateDraft where
  (idempotencyKey requestedProviderId requestedProviderUrl : Option String)
  maxPriceSats : Option ℕ
  spec : WorkloadSpec
  (providerId providerUrl providerSyncUrl : String)
  quote : SignedQuote
  deal : SignedDeal
  successPreimage : String

inductive SyncPurpose where
  | report
  | accept (expectedResultHash : Option String)
  | mockPay

structure ReleaseDealPreimageRequest where
  successPreimage : String
  expectedResultHash : Option String

structure SyncedRequesterDeal where
  (deal persisted : StoredRequesterDeal)

inductive RequesterTask where
  | creating (draft : CreateDraft)
  | syncing (stored : StoredRequesterDeal) (purpose : SyncPurpose)
  | releasing (stored : StoredRequesterDeal) (remote : DealRecord)
      (synced : SyncedRequesterDeal) (expectedResultHash : Option String)
  | accepting (synced : SyncedRequesterDeal)
  | mockPaying (synced : SyncedRequesterDeal)

structure PreimageRelease where
  stored : StoredRequesterDeal
  remote : DealRecord
  synced : SyncedRequesterDeal
  callerHash : Option String
  request : ReleaseDealPreimageRequest

structure RequesterState where
  rows : RequesterDeals
  tasks : List RequesterTask
  released : List PreimageRelease

/-! ## Creating a deal -/

def trimSlashes (url : String) : String :=
  String.ofList (url.toList.reverse.dropWhile (· == '/')).reverse

def replayConflict (draft : CreateDraft) (existing : StoredRequesterDeal) : Bool :=
  let terms := existing.quote.payload.settlementTerms
  draft.requestedProviderId.any (· != existing.providerId)
    || draft.requestedProviderUrl.any fun url =>
        trimSlashes url != trimSlashes existing.providerUrl
          && existing.providerSyncUrl.all (fun sync => trimSlashes url != trimSlashes sync)
    || existing.spec != draft.spec
    || draft.maxPriceSats.any fun maximum =>
        (checkedAdd terms.baseFeeMsat terms.successFeeMsat).all
          (fun price => min (maximum * 1000) u64Max < price)

variable (env : RequesterEnv)

def verifyRuntimeQuote (draft : CreateDraft) : Except ApiFailure Unit := do
  let payload := draft.quote.payload
  let terms := payload.settlementTerms
  rejectIf (!verifyArtifact env.prims draft.quote)
    "provider quote signature verification failed"
  rejectIf (draft.quote.artifactType != artifactTypeQuote
      || !(validateQuoteArtifact draft.quote).passes)
    "provider quote validation failed"
  rejectIf (payload.providerId != draft.providerId)
    "provider quote provider_id does not match selected provider"
  rejectIf (payload.requesterId != env.nodeId)
    "provider quote requester_id does not match local runtime identity"
  rejectIf (payload.workloadKind != draft.spec.workloadKind)
    "provider quote workload_kind does not match requested workload"
  rejectIf (payload.workloadHash != draft.spec.requestHash)
    "provider quote workload_hash does not match requested workload"
  rejectIf (payload.confidentialSessionHash != draft.spec.confidentialSessionHash)
    "provider quote confidential_session_hash does not match requested workload"
  rejectIf ((checkedAdd terms.baseFeeMsat terms.successFeeMsat).all (i64Max < ·))
    "provider quote total exceeds the supported signed range"
  rejectIf (terms.method == settlementMethodLightningPrepaid && terms.baseFeeMsat % 1000 != 0)
    "prepaid Lightning quote amount must be a whole number of satoshis"

def CreateDraft.newDeal (draft : CreateDraft) (dealId status : String) (now : ℤ) :
    NewRequesterDeal :=
  { dealId, idempotencyKey := draft.idempotencyKey, providerId := draft.providerId
    providerUrl := draft.providerUrl, providerSyncUrl := some draft.providerSyncUrl
    spec := draft.spec, quote := draft.quote, deal := draft.deal, status
    successPreimage := draft.successPreimage, createdAt := now }

def createDeal (draft : CreateDraft) (now : ℤ) (s : RequesterState) : RequesterState :=
  match draft.idempotencyKey.bind (findRequesterDealByIdempotencyKey s.rows) with
  | some existing =>
    if replayConflict draft existing then s
    else { s with tasks := s.tasks ++ [.syncing existing .report] }
  | none =>
    if !(verifyRuntimeQuote env draft).passes then s
    else if env.usesA2a draft.providerSyncUrl then
      match insertOrGetRequesterDeal
          (draft.newDeal draft.deal.hash submissionPending now) s.rows with
      | (.ok (_, true), rows) => { s with rows, tasks := s.tasks ++ [.creating draft] }
      -- a concurrent intent already exists
      | (_, rows) => { s with rows }
    else { s with tasks := s.tasks ++ [.creating draft] }

def verifyCreateAnswer (draft : CreateDraft) (remote : DealRecord) (now : ℤ) :
    Except ApiFailure Unit := do
  verifyProviderDealArtifactChain env.prims remote draft.quote draft.deal
  match remote.receipt with
  | some receipt =>
    verifyProviderReceiptArtifact env.prims receipt draft.quote draft.deal draft.providerId
      draft.deal.payload.requesterId remote.result remote.resultHash
  | none => pure ()
  if draft.quote.payload.settlementTerms.method == settlementMethodLightningPrepaid then
    match remote.prepaidInvoice with
    | none => throw "provider accepted a prepaid Lightning deal but did not return an invoice"
    | some invoice => do
      rejectIf (!env.buyerPhoenixd) "this buyer node has no phoenixd configured"
      rejectIf (!env.prepaidInvoiceValid invoice draft.quote draft.deal now)
        "provider returned an invalid prepaid Lightning invoice"
  else pure ()

def createAnswer (draft : CreateDraft) (remote : DealRecord) (now : ℤ)
    (s : RequesterState) : RequesterState :=
  if !(verifyCreateAnswer env draft remote now).passes then s
  else match insertOrGetRequesterDeal (draft.newDeal remote.dealId remote.status now) s.rows with
  | (.ok (stored, _), rows) =>
    match getRequesterDeal rows stored.dealId with
    | some row => { s with rows, tasks := s.tasks ++ [.syncing row .report] }
    | none => { s with rows }
  | (.error _, rows) => { s with rows }

/-! ## Syncing a row -/

def StoredRequesterDeal.projected (stored : StoredRequesterDeal) (remote : DealRecord) :
    StoredRequesterDeal :=
  { stored with
    status := remote.status, result := remote.result, resultHash := remote.resultHash
    error := remote.error }

def syncRequesterDealFromProvider (stored : StoredRequesterDeal)
    (remote : DealRecord) (now : ℤ) (rows : RequesterDeals) :
    Except ApiFailure SyncedRequesterDeal × RequesterDeals :=
  match verifyProviderDealProjection env.prims stored remote with
  | .error e => (.error e, rows)
  | .ok .unchanged => (.ok { deal := stored, persisted := stored }, rows)
  | .ok .provisional => (.ok { deal := stored.projected remote, persisted := stored }, rows)
  | .ok .signedTerminal =>
    match storeAnswer stored remote now rows with
    | (some deal, rows') => (.ok { deal, persisted := deal }, rows')
    | (none, rows') => (.error "deal not found after sync", rows')

/-! ## Accepting a result -/

def releaseRequest (synced : SyncedRequesterDeal) (expectedResultHash : Option String) :
    ReleaseDealPreimageRequest :=
  { successPreimage := synced.deal.successPreimage
    expectedResultHash := expectedResultHash.or synced.deal.resultHash }

def verifiedAcceptanceReplay (record : DealRecord) (request : ReleaseDealPreimageRequest) :
    Except ApiFailure Bool :=
  match request.expectedResultHash with
  | none => .error "A2A acceptance requires expected_result_hash"
  | some hash => match normalizeHash hash with
  | none => .error "expected_result_hash must be 64 lowercase hex characters"
  | some expected =>
    if record.quote.payload.settlementTerms.method != settlementMethodLightningEscrow then
      .error "Acceptance requires a Lightning success-fee Deal"
    else if record.receipt.isSome && record.status == DealStatus.succeeded.text then
      if record.resultHash != some expected then
        .error "Acceptance result hash conflicts with verified terminal evidence"
      else .ok true
    else .ok false

def verifyAcceptAnswer (deal : StoredRequesterDeal) (terminal : DealRecord) :
    Except ApiFailure Unit := do
  verifyProviderDealArtifactChain env.prims terminal deal.quote deal.deal
  match terminal.receipt with
  | none => throw "provider accept response omitted its terminal signed Receipt"
  | some receipt => do
    verifyProviderReceiptArtifact env.prims receipt deal.quote deal.deal deal.providerId
      deal.deal.payload.requesterId terminal.result terminal.resultHash
    rejectIf (some terminal.status != statusBoundToReceipt receipt)
      "provider accept status does not match its signed Receipt"

def acceptAnswer (synced : SyncedRequesterDeal) (terminal : DealRecord)
    (now : ℤ) (rows : RequesterDeals) : RequesterDeals :=
  if (verifyAcceptAnswer env synced.deal terminal).passes then
    (storeAnswer synced.persisted terminal now rows).2
  else rows

def releasePreimage (stored : StoredRequesterDeal) (remote : DealRecord)
    (synced : SyncedRequesterDeal) (expectedResultHash : Option String)
    (a2aTask : Except ApiFailure DealRecord) (now : ℤ) (s : RequesterState) : RequesterState :=
  let request := releaseRequest synced expectedResultHash
  let sent : RequesterState := { s with
    tasks := s.tasks ++ [.accepting synced]
    released := s.released
      ++ [{ stored, remote, synced, callerHash := expectedResultHash, request }] }
  if env.usesA2a (synced.persisted.providerSyncUrl.getD synced.persisted.providerUrl) then
    match a2aTask with
    | .error _ => s
    | .ok record => match verifiedAcceptanceReplay record request with
      | .error _ => s
      | .ok true => { s with rows := acceptAnswer env synced record now s.rows }
      | .ok false => sent
  else sent

/-! ## Mock payments -/

def QuoteSettlementTerms.uncheckedTotalMsat (terms : QuoteSettlementTerms) : ℕ :=
  wrappingAdd terms.baseFeeMsat terms.successFeeMsat

def quoteUsesLightningBundle (quote : SignedQuote) : Bool :=
  let terms := quote.payload.settlementTerms
  env.lightningBackend && 0 < terms.uncheckedTotalMsat
    && terms.method == settlementMethodLightningEscrow

def verifyMockPayAnswer (synced : SyncedRequesterDeal) (remote : DealRecord) :
    Except ApiFailure Unit := do
  verifyProviderDealArtifactChain env.prims remote synced.deal.quote synced.deal.deal
  rejectIf (isTerminalText remote.status && remote.receipt.isNone)
    "provider mock-pay terminal response omitted its signed Receipt"
  match remote.receipt with
  | none => pure ()
  | some receipt => do
    verifyProviderReceiptArtifact env.prims receipt synced.deal.quote synced.deal.deal
      synced.deal.providerId synced.deal.deal.payload.requesterId remote.result remote.resultHash
    rejectIf (some remote.status != statusBoundToReceipt receipt)
      "provider mock-pay status does not match its signed Receipt"

/-! ## The machine -/

/-- What happens next: a call of the operator, or an answer to the `i`-th task. -/
inductive RequesterAction where
  | create (draft : CreateDraft) (now : ℤ)
  | getDeal (dealId : String)
  | loadPaymentIntent (dealId : String)
  | accept (dealId : String) (expectedResultHash : Option String)
  | mockPay (dealId : String)
  | createAnswered (i : ℕ) (remote : DealRecord) (now : ℤ)
  | syncAnswered (i : ℕ) (remote : DealRecord) (now : ℤ)
  | release (i : ℕ) (a2aTask : Except ApiFailure DealRecord) (now : ℤ)
  | acceptAnswered (i : ℕ) (terminal : DealRecord) (now : ℤ)
  | mockPayAnswered (i : ℕ) (remote : DealRecord)
  | abandon (i : ℕ)

def startSync (dealId : String) (purpose : SyncPurpose) (s : RequesterState) : RequesterState :=
  match getRequesterDeal s.rows dealId with
  | none => s
  | some row => { s with tasks := s.tasks ++ [.syncing row purpose] }

def afterSync (stored : StoredRequesterDeal) (remote : DealRecord)
    (synced : SyncedRequesterDeal) : SyncPurpose → List RequesterTask
  | .report => []
  | .accept expected => [.releasing stored remote synced expected]
  | .mockPay => if quoteUsesLightningBundle env synced.deal.quote then [.mockPaying synced] else []

def requesterStep (s : RequesterState) : RequesterAction → RequesterState
  | .create draft now => createDeal env draft now s
  | .getDeal dealId =>
    -- a stored receipt is returned without asking the provider
    if (getRequesterDeal s.rows dealId).any (·.receipt.isSome) then s
    else startSync dealId .report s
  | .loadPaymentIntent dealId => startSync dealId .report s
  | .accept dealId expected => startSync dealId (.accept expected) s
  | .mockPay dealId =>
    if env.lightningBackend && env.lightningMode == .mock then startSync dealId .mockPay s
    else s
  | .createAnswered i remote now => match s.tasks[i]? with
    | some (.creating draft) =>
      createAnswer env draft remote now { s with tasks := s.tasks.eraseIdx i }
    | _ => s
  | .syncAnswered i remote now => match s.tasks[i]? with
    | some (.syncing stored purpose) =>
      match syncRequesterDealFromProvider env stored remote now s.rows with
      | (.error _, rows) => { s with rows, tasks := s.tasks.eraseIdx i }
      | (.ok synced, rows) =>
        { s with rows, tasks := s.tasks.eraseIdx i ++ afterSync env stored remote synced purpose }
    | _ => s
  | .release i a2aTask now => match s.tasks[i]? with
    | some (.releasing stored remote synced expected) =>
      releasePreimage env stored remote synced expected a2aTask now
        { s with tasks := s.tasks.eraseIdx i }
    | _ => s
  | .acceptAnswered i terminal now => match s.tasks[i]? with
    | some (.accepting synced) =>
      { s with
        rows := acceptAnswer env synced terminal now s.rows, tasks := s.tasks.eraseIdx i }
    | _ => s
  | .mockPayAnswered i remote => match s.tasks[i]? with
    | some (.mockPaying synced) =>
      let s' := { s with tasks := s.tasks.eraseIdx i }
      if (verifyMockPayAnswer env synced remote).passes then
        startSync synced.deal.dealId .report s'
      else s'
    | _ => s
  | .abandon i => { s with tasks := s.tasks.eraseIdx i }

def requesterMachine : Machine RequesterState RequesterAction where
  init := { rows := [], tasks := [], released := [] }
  step := requesterStep env

end Froglet
