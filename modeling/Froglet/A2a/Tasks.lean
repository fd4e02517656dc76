import Froglet.Lightning.Wallet
import Froglet.Publication.Contract
import Froglet.Requester.Projection

/-!
# The deals of a provider as tasks of another agent

A provider shows its deals to configured clients over a second protocol (A2A), in which a
deal is a task: a client reads one task, lists its tasks page by page, or asks for a
cancellation, which is always refused.

A handler is a program of single calls (`TaskCall`). `Tables.perform` answers the calls
that the database decides and leaves the others to an arbitrary environment (`Outside`),
so that what is proved of a response holds whatever the wallet, the clock and the sandbox
answer.
-/

namespace Froglet.A2a

open Table
open Prog (fail ofExcept)

open ManagedDeployment (stripText)
open LightningCall (ask)

variable {α : Type}

/-! ## Responses -/

/-- An HTTP response. -/
structure Response where
  status : ℕ
  body : Json
  retryAfter : Bool := false
deriving DecidableEq

/-- The protocol's name of an HTTP status. -/
def canonicalStatus (status : ℕ) (reason : String) : String :=
  match status with
  | 401 => "UNAUTHENTICATED"
  | 403 => "PERMISSION_DENIED"
  | 404 => "NOT_FOUND"
  | 429 => "RESOURCE_EXHAUSTED"
  | 500 | 502 => "INTERNAL"
  | 503 => "UNAVAILABLE"
  | 504 => "DEADLINE_EXCEEDED"
  | _ =>
    if reason == "INVALID_REQUEST" || reason == "INVALID_ARGUMENT" then "INVALID_ARGUMENT"
    else "FAILED_PRECONDITION"

/-- The error body that every refusal has. -/
def errorResponse (status : ℕ) (reason message : String) : Response where
  status
  body := .obj [("error", .obj [("code", .int status),
    ("status", .str (canonicalStatus status reason)), ("message", .str message),
    ("details", .arr [.obj [("@type", .str "type.googleapis.com/google.rpc.ErrorInfo"),
      ("reason", .str reason), ("domain", .str "a2a-protocol.org")]])])]

/-- A failure of the provider's own API. -/
structure Failure where
  status : ℕ
  body : List (String × Json)

def Failure.of (status : ℕ) (message : String) : Failure := ⟨status, [("error", .str message)]⟩

def providerBadGateway (message : String) : Failure := .of 502 message

def databaseError : Failure := .of 500 "database error"

def isQuoteIssuanceCollision (failure : Failure) : Bool :=
  failure.status == 503 && failure.body.lookup "code" == some (.str "quote_issuance_collision")
    && failure.body.lookup "retry_after_secs" == some (.int 1)

/-- A failure as this protocol shows it. -/
def fromFailure (failure : Failure) : Response :=
  let message := ((failure.body.lookup "error").bind asString).getD "Froglet operation rejected"
  let reason := ((failure.body.lookup "a2a_reason").bind asString).getD
    (if failure.status == 400 then "INVALID_ARGUMENT" else "FROGLET_OPERATION_REJECTED")
  { errorResponse failure.status reason message with
    retryAfter := isQuoteIssuanceCollision failure }

/-- The same for no task and for a task of another client. -/
def taskNotFound : Response := errorResponse 404 "TASK_NOT_FOUND" "Task not found or inaccessible"

/-! ## Clients -/

/-- A client acts for one requester, on some offers. -/
structure Client where
  (requesterId token : String)
  offerHashes : List String
deriving DecidableEq

structure Headers where
  (authorization a2aVersion a2aExtensions : Option String)

def extensionUri : String := "https://froglet.dev/a2a/bounded-deal/v1"

def schemaName : String := "froglet.a2a.v1"

def isHash (value : String) : Bool := isLowerHexLen value 64

def splitText (separator : Char) (text : String) : List String :=
  (splitChars separator text.toList).map String.ofList

def parsesU64 (text : String) : Bool :=
  let digits := (text.toList.dropPrefix? ['+']).getD text.toList
  !digits.isEmpty && digits.all Char.isDigit
    && digits.foldl (fun n c => 10 * n + (c.toNat - '0'.toNat)) 0 < 2 ^ 64

/-- The version and extension a client must name. -/
def negotiate (headers : Headers) : Except Response Unit := do
  let supported := match splitText '.' (headers.a2aVersion.getD "0.3") with
    | [major, minor] => major == "1" && minor == "0"
    | [major, minor, fix] => major == "1" && minor == "0" && parsesU64 fix
    | _ => false
  rejectIf (!supported) <|
    errorResponse 400 "VERSION_NOT_SUPPORTED" "This interface requires A2A-Version: 1.0"
  rejectIf (!(splitText ',' (headers.a2aExtensions.getD "")).any (trim · == extensionUri)) <|
    errorResponse 400 "EXTENSION_SUPPORT_REQUIRED"
      "The Froglet bounded Deal v1 extension is required"

/-- Whether a deal is one of the client's tasks. -/
def permitted (client : Client) (deal : StoredDeal) : Bool :=
  deal.artifact.payload.requesterId == client.requesterId
    && client.offerHashes.contains deal.quote.payload.offerHash

/-! ## The node -/

/-- Where a list goes on, with the hash of its filters. -/
structure Cursor where
  updatedAt : ℤ
  (dealId scope : String)

/-- The node; its parser finds the text fields that its printer wrote. -/
structure Node (P : Primitives) where
  lnd : LndNode P
  signer : ReceiptSigner P
  clients : List Client
  controlTokens : List String
  parseJson : String → Option Json
  jsonText : Json → String
  parse_text : ∀ {fields key text parsed}, fields.lookup key = some (.str text) →
    parseJson (jsonText (.obj fields)) = some parsed →
      ∃ fields', parsed = .obj fields' ∧ fields'.lookup key = some (.str text)
  decodeSpec : Json → Option WorkloadSpec
  sessionJson : LightningInvoiceBundleSession → Json
  laterThan : String → Option (ℤ → Bool)
  encodeCursor : Cursor → Bytes
  decodeCursor : Bytes → Option Cursor

variable {P : Primitives} (n : Node P)

/-- The client of a request; a control token is never accepted. -/
def Node.authenticate (headers : Headers) : Except Response Client := do
  rejectIf n.clients.isEmpty <|
    errorResponse 404 "TASK_NOT_FOUND" "A2A provider transport is disabled"
  let separate := errorResponse 401 "UNAUTHENTICATED" "A separate A2A bearer credential is required"
  let presented ← okOr (headers.authorization.bind (stripText "Bearer ")) separate
  rejectIf (n.controlTokens.contains presented) separate
  let client ← okOr (n.clients.find? (·.token == presented))
    (errorResponse 401 "UNAUTHENTICATED" "Invalid A2A bearer credential")
  negotiate headers
  return client

/-! ## The table of deals -/

/-- A row with the evidence documents that its query joins. -/
structure DealRow where
  dealId : String
  idempotencyKey : Option String
  quoteJson : String
  quoteDocument : Option String
  specJson : String
  workloadEvidence : Option String
  dealArtifactJson : String
  (dealArtifactHash dealDocument : Option String)
  status : DealStatus
  (resultJson resultEvidenceHash resultEvidence resultHash error
    failureEvidenceHash : Option String)
  paymentMethod : Option PaymentMethod
  paymentTokenHash : Option String
  paymentAmountSats : Option ℕ
  (receiptArtifactJson receiptArtifactHash receiptDocument : Option String)
  prepaidInvoice : Option PrepaidInvoice
  (createdAt updatedAt : ℤ)

namespace Node

def column (decode : Json → Option α) (text : String) : Except String α :=
  okOr ((n.parseJson text).bind decode) "Conversion error from type Text"

def optionalColumn (decode : Json → Option α) :
    Option String → Except String (Option α)
  | none => .ok none
  | some text => (n.column decode text).map some

def quoteOf (row : DealRow) : Except String SignedQuote :=
  n.column (decodeSignedArtifact decodeQuotePayload) (row.quoteDocument.getD row.quoteJson)

def artifactOf (row : DealRow) : Except String SignedDeal :=
  n.column (decodeSignedArtifact decodeDealPayload) (row.dealDocument.getD row.dealArtifactJson)

/-- A document stands before the inline column. -/
def decodeDealRow (row : DealRow) : Except String StoredDeal := do
  let quote ← n.quoteOf row
  let spec ← n.column n.decodeSpec (row.workloadEvidence.getD row.specJson)
  let artifact ← n.artifactOf row
  let result ← n.optionalColumn some (row.resultEvidence.or row.resultJson)
  let receipt ← n.optionalColumn (decodeSignedArtifact decodeReceiptPayload)
    (row.receiptDocument.or row.receiptArtifactJson)
  return { dealId := row.dealId, idempotencyKey := row.idempotencyKey, quote, spec, artifact
           dealArtifactHash := row.dealArtifactHash, status := row.status, result
           resultHash := row.resultHash, error := row.error, paymentMethod := row.paymentMethod
           paymentTokenHash := row.paymentTokenHash, paymentAmountSats := row.paymentAmountSats
           receipt, receiptArtifactHash := row.receiptArtifactHash
           resultEvidenceHash := row.resultEvidenceHash
           failureEvidenceHash := row.failureEvidenceHash
           createdAt := row.createdAt, updatedAt := row.updatedAt }

def readRow (row : Option DealRow) : Except String (Option StoredDeal) :=
  row.elim (.ok none) fun row => (n.decodeDealRow row).map some

end Node

/-! ## The list query -/

/-- The value at a path, as `json_extract` finds it. -/
def extract : List String → Json → Option Json
  | [], value => some value
  | key :: path, .obj fields => (fields.lookup key).bind (extract path)
  | _ :: _, _ => none

/-- The parameters of the list query. -/
structure ListFilter where
  requesterId : String
  offerHashes : List String
  (contextHash status after : Option String)
  cursor : Option Cursor
  size : ℕ

namespace Node

def extractText (path : List String) (document : String) : Except String (Option String) := do
  let value ← okOr (n.parseJson document) "malformed JSON"
  return (extract path value).bind asString

/-- Without a receipt, as the query computes it. -/
def unsignedStateOf (status : DealStatus) (quoteDocument : String) : Except String String :=
  match status with
  | .accepted => .ok "TASK_STATE_SUBMITTED"
  | .paymentPending => .ok "TASK_STATE_INPUT_REQUIRED"
  | .running | .settlementPending => .ok "TASK_STATE_WORKING"
  | .failed => .ok "TASK_STATE_FAILED"
  | .resultReady => do
    let method ← n.extractText ["payload", "settlement_terms", "method"] quoteDocument
    return if method == some "lightning.base_fee_plus_success_fee.v1" then
        "TASK_STATE_INPUT_REQUIRED"
      else "TASK_STATE_WORKING"
  | .succeeded | .rejected => .ok "TASK_STATE_UNSPECIFIED"

/-- The state of a task in the query: its receipt decides. -/
def stateOf (row : DealRow) (quoteDocument : String) : Except String String := do
  let signed ← row.receiptDocument.elim (.ok none) (n.extractText ["payload", "deal_state"])
  match signed with
  | some "succeeded" => return "TASK_STATE_COMPLETED"
  | some "failed" => return "TASK_STATE_FAILED"
  | some "canceled" => return "TASK_STATE_CANCELED"
  | some "rejected" => return "TASK_STATE_REJECTED"
  | _ => n.unsignedStateOf row.status quoteDocument

def hasState (wanted : Option String) (row : DealRow) (quoteDocument : String) :
    Except String Bool :=
  wanted.elim (.ok true) fun status => (n.stateOf row quoteDocument).map (· == status)

/-- Whether a row is listed. -/
def selects (filter : ListFilter) (row : DealRow) : Except String Bool :=
  match row.dealArtifactHash, row.dealDocument, row.quoteDocument with
  | some hash, some document, some quoteDocument => do
    let requester ← n.extractText ["payload", "requester_id"] document
    let offer ← n.extractText ["payload", "offer_hash"] quoteDocument
    let hasState ← n.hasState filter.status row quoteDocument
    return requester == some filter.requesterId && offer.any filter.offerHashes.contains
      && filter.contextHash.all (· == hash) && hasState
      && filter.after.all fun after => (n.laterThan after).any (· row.updatedAt)
  | _, _, _ => .ok false

end Node

/-- Whether a row is behind the cursor. -/
def isBehind (cursor : Option Cursor) (row : DealRow) : Bool :=
  cursor.all fun cursor =>
    row.updatedAt < cursor.updatedAt
      || (row.updatedAt == cursor.updatedAt && cursor.dealId < row.dealId)

/-- The latest first, ids break ties. -/
def listedBefore (a b : DealRow) : Bool :=
  b.updatedAt < a.updatedAt || (a.updatedAt == b.updatedAt && a.dealId ≤ b.dealId)

/-! ## The database -/

/-- The tables of the handlers. -/
structure Tables where
  deals : List DealRow
  bundles : List LightningInvoiceBundleSession

namespace Tables

variable (t : Tables)

def bundlesOf (dealHash : String) : List LightningInvoiceBundleSession :=
  t.bundles.filter (·.bundle.payload.dealHash == dealHash)

def rowById (dealId : String) : Option DealRow := selectWhere (·.dealId == dealId) t.deals

def rowByHash (hash : String) : Option DealRow :=
  selectWhere (·.dealArtifactHash == some hash) t.deals

/-- A page, one row more, and the number of all rows. -/
def listDeals (filter : ListFilter) : Except String (List StoredDeal × ℕ) := do
  rejectIf (filter.after.any fun after => (n.laterThan after).isNone)
    "invalid statusTimestampAfter"
  let selected ← t.deals.filterM (n.selects filter)
  let page := ((selected.filter (isBehind filter.cursor)).mergeSort listedBefore).take
    (filter.size + 1)
  let deals ← (page.filterMap (·.dealArtifactHash)).mapM fun hash => n.readRow (t.rowByHash hash)
  return (deals.reduceOption, selected.length)

/-- `payment_pending` to `accepted`. -/
def promote (dealId : String) (now : ℤ) : Bool × Tables :=
  let pending (row : DealRow) : Bool := row.dealId == dealId && row.status == .paymentPending
  (t.deals.any pending, { t with
    deals := (updateWhere pending ({ · with status := .accepted, updatedAt := now }) t.deals) })

def evidenceHash (P : Primitives) (content : Json) : Except String String :=
  (P.canonicalJson content).map P.sha256Hex

def setRejected (message failureEvidenceHash receiptJson receiptHash : String) (now : ℤ)
    (row : DealRow) : DealRow :=
  { row with
    status := .rejected, error := some message, receiptArtifactJson := some receiptJson
    resultEvidenceHash := none, resultEvidence := none
    failureEvidenceHash := some failureEvidenceHash, receiptArtifactHash := some receiptHash
    receiptDocument := some receiptJson, updatedAt := now }

def reject (dealId : String) (expected : DealStatus) (message : String)
    (receipt : SignedReceipt) (now : ℤ) : Except String Tables := do
  let some current ← n.readRow (t.rowById dealId) | return t
  if current.status != expected then return t
  let failureHash ← evidenceHash P
    (.obj [("code", .str "capacity_exhausted"), ("message", .str message)])
  let _ ← evidenceHash P (.obj [("artifact_hash", .str receipt.hash)])
  return { t with
    deals := (updateWhere (fun row => row.dealId == dealId && row.status == expected)
      (setRejected message failureHash (n.jsonText (toJson receipt)) receipt.hash now) t.deals) }

end Tables

/-! ## Calls -/

/-- The calls of the handlers. -/
inductive TaskCall where
  | dealByArtifactHash (hash : String)
  | deal (dealId : String)
  | prepaidInvoice (dealId : String)
  | list (filter : ListFilter)
  | lightning (c : LightningCall)
  | executionPermit
  | promote (dealId : String) (now : ℤ)
  | reject (dealId : String) (expected : DealStatus) (message : String)
      (receipt : SignedReceipt) (now : ℤ)
  | spawn (dealId : String)

def TaskCall.Answer : TaskCall → Type
  | dealByArtifactHash _ | deal _ => Except String (Option StoredDeal)
  | prepaidInvoice _ => Except String (Option PrepaidInvoice)
  | list _ => Except String (List StoredDeal × ℕ)
  | lightning c => c.Answer
  | executionPermit => Except String Unit
  | promote _ _ => Bool
  | reject _ _ _ _ _ => Except String Unit
  | spawn _ => Unit

abbrev TaskProg (α : Type) : Type := Prog TaskCall TaskCall.Answer Failure α

def query (c : TaskCall) : TaskProg c.Answer := .call c .ret

/-- A Lightning program; its error is an answer. -/
def lightning : LightningProg α → TaskProg (Except String α)
  | .ret a => .ret (.ok a)
  | .fail e => .ret (.error e)
  | .call c next => .call (.lightning c) fun answer => lightning (next answer)

/-! ## Lightning deals -/

def phoenixdNoEscrow : String :=
  "phoenixd backend does not support hold-invoice escrow; it uses lightning.prepaid.v1"

namespace Node

/-- Both legs, brought up to date. -/
def syncSession (session : LightningInvoiceBundleSession) :
    LightningProg LightningInvoiceBundleSession :=
  match n.lnd.config.lightningMode with
  | .mock => do
    let now ← ask .clock
    let (baseState, successState) ←
      ofExcept (expireOpenInvoiceLegsIfDue n.lnd.parser session now)
    storeStates session baseState successState
      "lightning invoice bundle disappeared during expiry normalization"
  | .phoenixd => fail phoenixdNoEscrow
  | .lndRest => n.lnd.syncLightningInvoiceBundleSession session

def bundleByDealHash (dealHash : String) :
    LightningProg (Option LightningInvoiceBundleSession) := do
  let answer ← ask (.bundleByDealHash dealHash)
  match ← ofExcept answer with
  | none => return none
  | some session => do
    let synced ← n.syncSession session
    return some synced

variable (deal : StoredDeal)

def dealLightningInvoiceBundle : LightningProg (Option LightningInvoiceBundleSession) :=
  if deal.paymentMethod != some .lightning then pure none else n.bundleByDealHash deal.artifact.hash

def canceledLeg (state : InvoiceBundleLegState) : InvoiceBundleLegState :=
  if state.isOpenOrAccepted then .canceled else state

def cancelAndSyncSession (session : LightningInvoiceBundleSession) :
    LightningProg LightningInvoiceBundleSession :=
  match n.lnd.config.lightningMode with
  | .mock =>
    storeStates session
      (if 0 < session.bundle.payload.baseFee.amountMsat then canceledLeg session.baseState
        else session.baseState)
      (canceledLeg session.successState) "lightning invoice bundle not found"
  | .phoenixd => fail phoenixdNoEscrow
  | .lndRest => n.lnd.cancelAndSyncLightningInvoiceBundle session

def cancelDealBundle : LightningProg (Option LightningInvoiceBundleSession) := do
  match ← n.dealLightningInvoiceBundle deal with
  | none => return none
  | some bundle => do
    let canceled ← n.cancelAndSyncSession bundle
    return some canceled

def clock : TaskProg ℤ := query (.lightning .clock)

/-- Errors are logged only. -/
def rejectDealBeforeExecution (expected : DealStatus) (message : String) : TaskProg Unit := do
  let completedAt ← clock
  let canceled ← lightning (n.cancelDealBundle deal)
  match signDealReceipt n.signer deal completedAt
      (rejectionSpec (canceled.toOption.join) message) with
  | .error _ => return ()
  | .ok receipt => do
    let _ ← query (.reject deal.dealId expected message receipt completedAt)
    return ()

def promoteDeal : TaskProg Unit := do
  let now ← clock
  let promoted : Bool ← query (.promote deal.dealId now)
  if promoted then query (.spawn deal.dealId) else return ()

/-- A funded deal is accepted and its execution spawned. -/
def promoteLightningDealIfFunded (bundle : LightningInvoiceBundleSession) : TaskProg Unit :=
  if deal.status != .paymentPending || !lightningBundleIsFunded bundle then return ()
  else if deal.spec.wasmRuntime then do
    match ← query .executionPermit with
    | .ok _ => promoteDeal deal
    | .error message => n.rejectDealBeforeExecution deal .paymentPending message
  else promoteDeal deal

def syncAndMaybePromoteLightningDeal :
    TaskProg (Except String (Option LightningInvoiceBundleSession)) := do
  match ← lightning (n.dealLightningInvoiceBundle deal) with
  | .ok (some bundle) => do
    n.promoteLightningDealIfFunded deal bundle
    return .ok (some bundle)
  | other => return other

/-! ## Deals as the provider's own interface reads them -/

def loadDeal (dealId : String) : TaskProg StoredDeal := do
  match ← query (.deal dealId) with
  | .ok (some deal) => return deal
  | .ok none => fail (.of 404 "deal not found")
  | .error _ => fail databaseError

end Node

/-- A deal without its workload. -/
def publicRecord (deal : StoredDeal) : DealRecord :=
  { dealId := deal.dealId, idempotencyKey := deal.idempotencyKey, status := deal.status.text
    workloadKind := deal.spec.workloadKind, deal := deal.artifact, quote := deal.quote
    result := deal.result, resultHash := deal.resultHash, error := deal.error
    receipt := deal.receipt, prepaidInvoice := none
    createdAt := deal.createdAt, updatedAt := deal.updatedAt }

instance : Serialize PrepaidInvoice where
  toJson x := .obj <|
    field "bolt11" x.bolt11 ++ field "payment_hash" x.paymentHash ++ field "amount_sat" x.amountSat

instance : Serialize DealRecord where
  toJson x := .obj <|
    field "deal_id" x.dealId ++ optField "idempotency_key" x.idempotencyKey
    ++ field "status" x.status ++ field "workload_kind" x.workloadKind ++ field "deal" x.deal
    ++ field "quote" x.quote ++ optField "result" x.result ++ optField "result_hash" x.resultHash
    ++ optField "error" x.error ++ optField "receipt" x.receipt
    ++ optField "prepaid_invoice" x.prepaidInvoice ++ field "created_at" x.createdAt
    ++ field "updated_at" x.updatedAt

def decodePrepaidInvoice : Json → Option PrepaidInvoice := decodeStruct do
  return {
    bolt11 := ← required "bolt11" asString
    paymentHash := ← required "payment_hash" asString
    amountSat := ← required "amount_sat" asU64 }

def decodeDealRecord : Json → Option DealRecord := decodeStruct do
  let dealId ← required "deal_id" asString
  let idempotencyKey ← optional "idempotency_key" asString
  let status ← required "status" asString
  let workloadKind ← required "workload_kind" asString
  let deal ← required "deal" (decodeSignedArtifact decodeDealPayload)
  let quote ← required "quote" (decodeSignedArtifact decodeQuotePayload)
  let result ← optional "result" some
  let resultHash ← optional "result_hash" asString
  let error ← optional "error" asString
  let receipt ← optional "receipt" (decodeSignedArtifact decodeReceiptPayload)
  let prepaidInvoice ← optionalDefaulted "prepaid_invoice" decodePrepaidInvoice
  let createdAt ← required "created_at" asI64
  let updatedAt ← required "updated_at" asI64
  return { dealId, idempotencyKey, status, workloadKind, deal, quote, result, resultHash, error
           receipt, prepaidInvoice, createdAt, updatedAt }

def maxUpstreamJsonBytes : ℕ := 1048576

namespace Node

/-- A Lightning deal is synced before it is shown. -/
def getDealStatus (dealId : String) : TaskProg DealRecord := do
  let deal ← loadDeal dealId
  if deal.paymentMethod == some .lightning then
    match ← n.syncAndMaybePromoteLightningDeal deal with
    | .ok _ => do
      let reloaded ← loadDeal dealId
      return publicRecord reloaded
    | .error _ => fail (.of 500 "failed to sync lightning settlement state")
  else return publicRecord deal

/-- Only a bundle that still validates is shown. -/
def getDealInvoiceBundle (dealId : String) : TaskProg LightningInvoiceBundleSession := do
  let deal ← loadDeal dealId
  match ← n.syncAndMaybePromoteLightningDeal deal with
  | .ok (some bundle) =>
    if (validateLightningInvoiceBundle P n.lnd.parser bundle.bundle deal.quote deal.artifact
        none).valid then return bundle
    else fail (.of 409 "stored lightning invoice bundle failed commitment validation")
  | .ok none => fail (.of 404 "lightning invoice bundle not found")
  | .error _ => fail databaseError

def responseValue (value : Json) : Except Failure Json := do
  rejectIf (decide (maxUpstreamJsonBytes < (n.jsonText value).utf8ByteSize))
    (providerBadGateway "Froglet response exceeded the A2A transport limit")
  okOr (n.parseJson (n.jsonText value)) (providerBadGateway "Invalid Froglet response")

def attachPersistedPrepaidInvoice (record : DealRecord) : TaskProg DealRecord := do
  match ← query (.prepaidInvoice record.dealId) with
  | .ok prepaidInvoice => return { record with prepaidInvoice }
  | .error _ => fail (providerBadGateway "Failed to load the committed prepaid invoice")

def refreshedRecord (deal : StoredDeal) : TaskProg DealRecord := do
  let shown ← n.getDealStatus deal.dealId
  let value ← ofExcept (n.responseValue (toJson shown))
  let record ← ofExcept
    (okOr (decodeDealRecord value) (providerBadGateway "Invalid Froglet Deal response"))
  if deal.paymentMethod == some .lightningPrepaid then attachPersistedPrepaidInvoice record
  else return record

end Node

/-! ## Tasks -/

def padded (width : ℕ) (value : ℤ) : String :=
  let sign := if value < 0 then "-" else ""
  let digits := toString value.natAbs
  sign ++ String.ofList (List.replicate (width - sign.length - digits.length) '0') ++ digits

/-- By the days of the eras of 400 years. -/
def timestamp (seconds : ℤ) : String :=
  let days := seconds / 86400 + 719468
  let era := days / 146097
  let dayOfEra := days - era * 146097
  let yearOfEra := (dayOfEra - dayOfEra / 1460 + dayOfEra / 36524 - dayOfEra / 146096) / 365
  let dayOfYear := dayOfEra - (365 * yearOfEra + yearOfEra / 4 - yearOfEra / 100)
  let monthPrime := (5 * dayOfYear + 2) / 153
  let day := dayOfYear - (153 * monthPrime + 2) / 5 + 1
  let month := monthPrime + if monthPrime < 10 then 3 else -9
  let year := yearOfEra + era * 400 + if month ≤ 2 then 1 else 0
  let secondOfDay := seconds % 86400
  padded 4 year ++ "-" ++ padded 2 month ++ "-" ++ padded 2 day ++ "T"
    ++ padded 2 (secondOfDay / 3600) ++ ":" ++ padded 2 (secondOfDay % 3600 / 60) ++ ":"
    ++ padded 2 (secondOfDay % 60) ++ "Z"

example : timestamp 951827696 = "2000-02-29T12:34:56Z" := by decide +kernel

def contextId (taskId : String) : String := "froglet-" ++ taskId

/-- What a task shows. -/
structure Task where
  (id state : String)
  updatedAt : ℤ
  (recordText dealStatus : String)
  signedReceipt : Bool
  invoiceBundle : Option String

def Task.toJson (task : Task) (includeArtifacts : Bool) : Json := .obj <|
  [("id", .str task.id), ("contextId", .str (contextId task.id)),
   ("status", .obj [("state", .str task.state), ("timestamp", .str (timestamp task.updatedAt))])]
  ++ (if includeArtifacts then
      [("artifacts", .arr [.obj [("artifactId", .str "froglet-deal"),
        ("parts", .arr [.obj [("mediaType", .str "application/json"),
          ("data", .obj [("schema", .str schemaName), ("operation", .str "deal"),
            ("payload", .str task.recordText)])]]),
        ("extensions", .arr [.str extensionUri])]])]
    else [])
  ++ [("metadata", .obj [("froglet", .obj <|
    [("schema", .str schemaName), ("dealStatus", .str task.dealStatus),
     ("terminalEvidence", .str (if task.signedReceipt then "signed_receipt" else "none"))]
    ++ optField "invoiceBundle" task.invoiceBundle)])]

/-- The state that a valid receipt gives a task. -/
def signedState (P : Primitives) (record : DealRecord) (receipt : SignedReceipt) :
    Except Failure String := do
  (verifyProviderReceiptArtifact P receipt record.quote record.deal record.quote.payload.providerId
    record.deal.payload.requesterId record.result record.resultHash).mapError providerBadGateway
  rejectIf (some record.status != statusBoundToReceipt receipt)
    (providerBadGateway "A2A task status conflicts with its signed Receipt")
  match receipt.payload.dealState with
  | "succeeded" => return "TASK_STATE_COMPLETED"
  | "rejected" => return "TASK_STATE_REJECTED"
  | "failed" => return "TASK_STATE_FAILED"
  | "canceled" => return "TASK_STATE_CANCELED"
  | _ => throw (providerBadGateway "Unknown A2A Receipt state")

def resultReadyState (P : Primitives) (record : DealRecord) : Except Failure String :=
  match record.result, record.resultHash with
  | some result, some hash => do
    rejectIf (canonicalResultHash P result != hash)
      (providerBadGateway "A2A provisional result hash mismatch")
    return if record.quote.payload.settlementTerms.method
        == "lightning.base_fee_plus_success_fee.v1" then "TASK_STATE_INPUT_REQUIRED"
      else "TASK_STATE_WORKING"
  | _, _ => throw (providerBadGateway "A2A result_ready is missing its committed result")

def unsignedState (P : Primitives) (record : DealRecord) : Except Failure String :=
  if record.status == DealStatus.accepted.text then .ok "TASK_STATE_SUBMITTED"
  else if record.status == DealStatus.paymentPending.text then .ok "TASK_STATE_INPUT_REQUIRED"
  else if record.status == DealStatus.running.text
      || record.status == DealStatus.settlementPending.text then .ok "TASK_STATE_WORKING"
  else if record.status == DealStatus.resultReady.text then resultReadyState P record
  else if record.status == DealStatus.failed.text && record.result.isNone
      && record.resultHash.isNone then .ok "TASK_STATE_FAILED"
  else .error (providerBadGateway "A2A terminal state lacks valid terminal evidence")

/-- The task of a record whose quote and deal form a chain. -/
def Node.task (record : DealRecord) : Except Failure Task := do
  rejectIf (!(validateQuoteDeal P record.quote record.deal none).valid)
    (providerBadGateway "A2A Deal chain failed validation")
  let state ← record.receipt.elim (unsignedState P record) (signedState P record)
  let id ← (ManagedPublication.artifactHash P record.deal).mapError fun _ =>
    providerBadGateway "Invalid A2A Deal hash"
  return { id, state, updatedAt := record.updatedAt, recordText := n.jsonText (toJson record)
           dealStatus := record.status, signedReceipt := record.receipt.isSome
           invoiceBundle := none }

/-! ## The handlers -/

namespace Node

/-- The deal behind a task id, if it is the client's. -/
def ownedDeal (client : Client) (id : String) : TaskProg (Except Response StoredDeal) := do
  if !isHash id then return .error taskNotFound
  else
    match ← query (.dealByArtifactHash id) with
    | .error _ => return .error (fromFailure databaseError)
    | .ok found => return okOr (found.filter (permitted client)) taskNotFound

def taskBundle (deal : StoredDeal) : TaskProg (Option String) := do
  match ← (n.getDealInvoiceBundle deal.dealId).attempt with
  | .ok session => do
    let value ← ofExcept (n.responseValue (n.sessionJson session))
    return some (n.jsonText value)
  | .error failure => if failure.status == 404 then return none else fail failure

/-- A deal as a task, with its bundle if it is an escrow deal. -/
def project (deal : StoredDeal) : TaskProg Task := do
  let record ← n.refreshedRecord deal
  let task ← ofExcept (n.task record)
  if record.quote.payload.settlementTerms.method == "lightning.base_fee_plus_success_fee.v1" then
    let invoiceBundle ← n.taskBundle deal
    return { task with invoiceBundle }
  else return task

/-- A response never contains the credential of its client. -/
def taskResponse (client : Client) : Except Failure Task → Response
  | .error failure => fromFailure failure
  | .ok task =>
    if client.token.toList <:+: (n.jsonText (task.toJson true)).toList then
      errorResponse 500 "INTERNAL" "Response contained access credentials"
    else { status := 200, body := task.toJson true }

def getTaskOf (client : Client) (id : String) : TaskProg Response :=
  if ":subscribe".toList <:+ id.toList then
    return errorResponse 400 "UNSUPPORTED_OPERATION" "This profile supports task polling only"
  else do
    match ← ownedDeal client id with
    | .error response => return response
    | .ok deal => do
      let projection ← (n.project deal).attempt
      return n.taskResponse client projection

end Node

structure ListQuery where
  pageSize : Option ℕ
  (pageToken contextId status : Option String)
  historyLength : Option ℕ
  includeArtifacts : Option Bool
  statusTimestampAfter : Option String

def taskStates : List String :=
  ["TASK_STATE_SUBMITTED", "TASK_STATE_WORKING", "TASK_STATE_COMPLETED", "TASK_STATE_FAILED",
   "TASK_STATE_CANCELED", "TASK_STATE_INPUT_REQUIRED", "TASK_STATE_REJECTED",
   "TASK_STATE_AUTH_REQUIRED"]

def invalidArgument (message : String) : Response := errorResponse 400 "INVALID_ARGUMENT" message

def nullable [Serialize α] (value : Option α) : Json := value.elim .null toJson

namespace Node

/-- The hash that ties a page token to its client and filters. -/
def scopeOf (client : Client) (query : ListQuery) : String :=
  P.sha256Hex (textBytes (n.jsonText (.obj [("requester", .str client.requesterId),
    ("offers", toJson client.offerHashes), ("context", nullable query.contextId),
    ("status", nullable query.status), ("after", nullable query.statusTimestampAfter),
    ("artifacts", nullable query.includeArtifacts), ("history", nullable query.historyLength)])))

def cursorOf (scope : String) (pageToken : Option String) : Except Response (Option Cursor) :=
  match pageToken.filter (!·.isEmpty) with
  | none => .ok none
  | some token =>
    let cursor := ((Hex.decodeChars token.toList).filter (·.length ≤ 512)).bind n.decodeCursor
    (okOr (cursor.filter fun cursor => cursor.scope == scope && cursor.dealId.utf8ByteSize ≤ 128)
      (invalidArgument "Invalid pageToken or changed filters")).map some

/-- The filter of a query, or why it is refused. -/
def listFilter (client : Client) (query : ListQuery) : Except Response ListFilter := do
  let size := query.pageSize.getD 50
  rejectIf (!(1 ≤ size && size ≤ 100)) (invalidArgument "pageSize must be 1–100")
  let cursor ← n.cursorOf (n.scopeOf client query) query.pageToken
  let contextHash := query.contextId.map fun context => (stripText "froglet-" context).filter isHash
  rejectIf (contextHash == some none) (invalidArgument "Unknown contextId")
  rejectIf (query.status.any (!taskStates.contains ·)) (invalidArgument "Unknown Task status")
  return { requesterId := client.requesterId, offerHashes := client.offerHashes
           contextHash := contextHash.join, status := query.status
           after := query.statusTimestampAfter, cursor, size }

def listedTask (client : Client) (query : ListQuery) (deal : StoredDeal) :
    Except Response Json := do
  rejectIf (!permitted client deal) (errorResponse 500 "INTERNAL" "Task scope mismatch")
  let task ← (n.task (publicRecord deal)).mapError fromFailure
  return task.toJson (query.includeArtifacts.getD false)

def nextPageToken (scope : String) (page : List StoredDeal) (hasMore : Bool) : String :=
  match hasMore, page.getLast? with
  | true, some last =>
    Hex.encode (n.encodeCursor { updatedAt := last.updatedAt, dealId := last.dealId, scope })
  | _, _ => ""

def listResponse (client : Client) (query : ListQuery) (size : ℕ) (found : List StoredDeal)
    (total : ℕ) : Except Response Response := do
  let page := found.take size
  let tasks ← page.mapM (n.listedTask client query)
  return { status := 200
           body := .obj [("tasks", .arr tasks), ("nextPageToken", .str <|
              n.nextPageToken (n.scopeOf client query) page (decide (size < found.length))),
             ("pageSize", .int size), ("totalSize", .int total)] }

def either : Except Response Response → Response
  | .ok response | .error response => response

def listTasksOf (client : Client) (listQuery : ListQuery) : TaskProg Response :=
  match n.listFilter client listQuery with
  | .error response => return response
  | .ok filter => do
    match ← query (.list filter) with
    | .error message =>
      return errorResponse (if message == "invalid statusTimestampAfter" then 400 else 500)
        "INVALID_ARGUMENT" "Failed to list Tasks or invalid timestamp filter"
    | .ok (found, total) => return either (n.listResponse client listQuery filter.size found total)

def taskActionOf (client : Client) (id : String) : TaskProg Response :=
  match id.toList.reverse.dropPrefix? ":cancel".toList.reverse with
  | none => return errorResponse 400 "UNSUPPORTED_OPERATION" "Unsupported Task operation"
  | some taskId => do
    match ← ownedDeal client (String.ofList taskId.reverse) with
    | .error response => return response
    | .ok _ =>
      return errorResponse 400 "TASK_NOT_CANCELABLE" <|
        "Froglet has no provider cancellation operation; "
        ++ "execution and payment are unchanged"

end Node

/-- The three routes. -/
inductive TaskRequest where
  | getTask (id : String)
  | listTasks (query : ListQuery)
  | taskAction (id : String)

/-- Every route authenticates before it reads. -/
def Node.handle (headers : Headers) (request : TaskRequest) : TaskProg Response :=
  match n.authenticate headers with
  | .error response => return response
  | .ok client =>
    match request with
    | .getTask id => n.getTaskOf client id
    | .listTasks query => n.listTasksOf client query
    | .taskAction id => Node.taskActionOf client id

/-! ## Runs -/

/-- The tables and the calls so far. -/
structure World where
  tables : Tables
  history : List TaskCall

/-- What lies outside the tables answers by the calls before. -/
abbrev Outside : Type := List TaskCall → (c : TaskCall) → c.Answer

def Tables.sessionById (t : Tables) (sessionId : String) : Option LightningInvoiceBundleSession :=
  selectWhere (·.sessionId == sessionId) t.bundles

/-- The answer of a call, and the tables after it. -/
def Tables.perform (outside : Outside) (history : List TaskCall) (t : Tables) :
    (c : TaskCall) → c.Answer × Tables
  | .dealByArtifactHash hash => (n.readRow (t.rowByHash hash), t)
  | .deal dealId => (n.readRow (t.rowById dealId), t)
  | .prepaidInvoice dealId => (.ok ((t.rowById dealId).bind (·.prepaidInvoice)), t)
  | .list filter => (t.listDeals n filter, t)
  | .lightning (.bundleByDealHash dealHash) => (.ok (t.bundlesOf dealHash).head?, t)
  | .lightning (.updateStates sessionId baseState successState) =>
    let updated : Tables := { t with
      bundles := (updateLightningInvoiceBundleStates sessionId baseState successState t.bundles) }
    (.ok (updated.sessionById sessionId), updated)
  | .promote dealId now => t.promote dealId now
  | .reject dealId expected message receipt now =>
    match t.reject n dealId expected message receipt now with
    | .ok t' => (.ok (), t')
    | .error e => (.error e, t)
  | c => (outside history c, t)

def World.perform (outside : Outside) (c : TaskCall) (w : World) : c.Answer × World :=
  let (answer, tables) := w.tables.perform n outside w.history c
  (answer, ⟨tables, w.history ++ [c]⟩)

/-- The response to a request, from tables and with given answers from outside. -/
def Node.respond (outside : Outside) (headers : Headers) (request : TaskRequest) (t : Tables) :
    Response :=
  match ((n.handle headers request).run (World.perform n outside) ⟨t, []⟩).1 with
  | .ok response => response
  | .error failure => fromFailure failure

end Froglet.A2a
