import Froglet.Provider.Runtime

/-!
# What the tasks do

The transactions of a provider's tasks, each with what it reads from the database at
that moment.
-/

namespace Froglet

variable {P : Primitives} (env : ProviderEnv P) (s : ProviderState)

/-! ## Admission -/

def immediateRejection (new : NewDeal) (permit : Except String Unit)
    (failureEvidenceHash : String) : Except String (Option AdmissionRejection) :=
  match new.paymentMethod.isNone && new.spec.wasmRuntime, permit with
  | true, .error message => do
    let receipt ← signDealReceipt env.signer new.row new.createdAt (rejectionSpec none message)
    return some { error := message, receipt, failureEvidenceHash }
  | _, _ => .ok none

def MaterializationRequest.record (request : MaterializationRequest) (dealId : String) (now : ℤ) :
    MaterializationRecord :=
  { dealId, request, phase := .pending, resource := none, nextAttemptAt := now
    claimToken := none, claimExpiresAt := none }

def createDealRecord (request : CreateDealRequest) (dealId : String)
    (otherChecks permit : Except String Unit) (laterFails : Bool)
    (failureEvidenceHash : String) (now : ℤ) : List Effect :=
  match checkDealRequest P env.signer.toNodeIdentity env.config request otherChecks now with
  | .error _ => []
  | .ok (rail, totalSats) =>
    let new := request.newDeal dealId rail totalSats now
    match immediateRejection env new permit failureEvidenceHash with
    | .error _ => []
    | .ok rejection =>
      if s.drew dealId then []
      else match s.store.createDealRecord P new rejection laterFails with
        | none => []
        | some _ => (createDealCalls new rejection).map .call
          ++ (request.materialization dealId rail totalSats now).toList.map
            fun m => .insertMaterialization (m.record dealId now)

/-! ## Materialization -/

def claimTtlSecs : ℤ := 300

def claimDealMaterialization (dealId claimToken : String) (now : ℤ) : List Effect :=
  match s.getMaterialization dealId with
  | none => []
  | some record =>
    if record.nextAttemptAt ≤ now
        && (record.claimToken.isNone || record.claimExpiresAt.all (· ≤ now)) then
      let claimed := { record with
        claimToken := some claimToken, claimExpiresAt := some (saturatingAddI64 now claimTtlSecs) }
      [.setClaim dealId claimed.claimToken claimed.claimExpiresAt claimed.nextAttemptAt,
        .observe (.claim claimed)]
        ++ (getDeal s.store.deals dealId).toList.map fun row => .observe (.deal row)
    else []

variable (record : MaterializationRecord)

def renewOwnedMaterializationClaim (now : ℤ) : List Effect :=
  match s.ownsClaim record, s.getMaterialization record.dealId with
  | true, some current => [.setClaim record.dealId record.claimToken
      (some (saturatingAddI64 now claimTtlSecs)) current.nextAttemptAt]
  | _, _ => []

def rescheduleOwnedMaterialization (nextAttemptAt : ℤ) : List Effect :=
  if s.ownsClaim record then [.setClaim record.dealId none none nextAttemptAt] else []

def deleteOwnedMaterialization : List Effect :=
  if s.ownsClaim record then [.deleteMaterialization record.dealId] else []

variable (deal : StoredDeal)

def failPendingDealMaterialization (expectedClaimToken : Option String)
    (message failureEvidenceHash : String) (now : ℤ) : List Effect :=
  if s.statusIs deal.dealId deal.status
      && (s.getMaterialization deal.dealId).any (·.claimToken == expectedClaimToken)
      && (cancelUnadmittedDeal deal.dealId message failureEvidenceHash now s.store.deals).1 then
    [.call (.cancelUnadmitted deal.dealId message failureEvidenceHash now),
      .deleteMaterialization deal.dealId]
  else []

def persistLightningBundle (issued : IssuedInvoices) : List Effect :=
  match record.request with
  | .lightningInvoiceBundle request =>
    match signLightningInvoiceBundle env.signer.toNodeIdentity request issued with
    | .error _ => []
    | .ok session =>
      match s.getBundleByDealHash request.dealHash with
      -- a bundle that is already there stays the deal's bundle
      | some _ => deleteOwnedMaterialization s record
      | none =>
        if s.ownsClaim record && s.statusIs record.dealId .paymentPending then
          [.insertBundle session, .deleteMaterialization record.dealId]
        else []
  | _ => []

def prepareStripePayment (deal : StoredDeal) (answer : DriverAnswer) (now : ℤ) : List Effect :=
  match record.request, record.phase with
  | .stripePayment priceSats payment requestId, .pending =>
    if now < deal.artifact.payload.admissionDeadline then
      match preparePaymentForAmount env.config priceSats (some payment) requestId answer with
      | .ok (some reservation) =>
        [.observe (.driverAnswer record.dealId answer),
          .observe (.reservation record.dealId reservation)]
      | _ => []
    else []
  | _, _ => []

def setStripeResource (reservation : PaymentReservation) : List Effect :=
  if s.ownsClaim record then
    [.setResource record.dealId .resourceReady (.fromReservation reservation)]
  else []

def finalizeStripePayment (reservation : PaymentReservation) (now : ℤ) : List Effect :=
  match getDeal s.store.deals record.dealId, s.getMaterialization record.dealId with
  | some current, some materialization =>
    if s.ownsClaim record
        && materialization.resource
          == some (StripePaymentMaterializationResource.fromReservation reservation) then
      if current.paymentTokenHash == some reservation.tokenHash then
        [.deleteMaterialization record.dealId]
      else if current.status != .paymentPending then
        [.setResource record.dealId .cleanupPending (.fromReservation reservation)]
      else match materializePaymentForPendingDeal record.dealId reservation.tokenHash
          reservation.amountSats .accepted now s.store.deals with
        | .ok (true, _) =>
          [.call (.materializeStripe record.dealId reservation.tokenHash
              reservation.amountSats now), .deleteMaterialization record.dealId]
        | _ => []
    else []
  | _, _ => []

def persistPrepaidInvoice (bolt11 paymentHash : String) (now : ℤ) : List Effect :=
  match record.request, record.phase, getDeal s.store.deals record.dealId with
  | .prepaidInvoice amountSats _, .pending, some current =>
    match s.getPrepaidInvoice record.dealId with
    | some existing =>
      if existing == { bolt11, paymentHash, amountSat := amountSats } then
        deleteOwnedMaterialization s record
      else []
    | none =>
      if s.ownsClaim record then
        let bind := [.insertPrepaidInvoice record.dealId
            { bolt11, paymentHash, amountSat := amountSats },
          .deleteMaterialization record.dealId]
        if current.paymentTokenHash == some paymentHash || current.status != .paymentPending then
          bind
        else match materializePaymentForPendingDeal record.dealId paymentHash amountSats
            .paymentPending now s.store.deals with
          | .ok (true, _) =>
            bind ++ [.call (.materializePrepaid record.dealId paymentHash amountSats now)]
          | _ => []
      else []
  | _, _, _ => []

/-! ## Observation of the payment -/

def syncLightningBundle (sessionId : String) (baseState successState : InvoiceBundleLegState) :
    List Effect :=
  match Table.selectWhere (·.sessionId == sessionId) s.bundles with
  | none => []
  | some session =>
    [.updateBundle sessionId baseState successState,
      .observe (.bundle { session with
        baseState := session.baseState.updated baseState
        successState := session.successState.updated successState })]

def promoteLightningDealIfFunded (session : LightningInvoiceBundleSession)
    (now : ℤ) : List Effect :=
  if deal.status == .paymentPending && lightningBundleIsFunded session then
    [.call (.promote deal.dealId now)]
  else []

def promotePrepaidDealIfPaid (paymentHash : String)
    (payment : IncomingPayment) (now : ℤ) : List Effect :=
  match deal.paymentTokenHash, deal.paymentAmountSats with
  | some token, some amountSats =>
    if deal.status == .paymentPending && deal.paymentMethod == some .lightningPrepaid
        && paymentHash == token
        && (validatePrepaidPaymentProof P token amountSats payment).passes then
      [.call (.promote deal.dealId now)]
    else []
  | _, _ => []

/-! ## Execution -/

def rejectDealBeforeExecution (site : RejectSite) (deal : StoredDeal)
    (bundle : Option LightningInvoiceBundleSession) (message failureEvidenceHash : String)
    (now : ℤ) : List Effect :=
  match signDealReceipt env.signer deal now (rejectionSpec bundle message) with
  | .error _ => []
  | .ok receipt =>
    if s.statusIs deal.dealId site.expected then
      [.call (.reject site deal.dealId message receipt failureEvidenceHash now)]
    else []

def startExecution (now : ℤ) : List Effect :=
  if deal.status == .accepted
      && (enforceProviderPaymentPolicy env.config deal.quote.payload.settlementTerms).passes
      && (tryMarkDealRunning deal.dealId now s.store.deals).1 then
    [.call (.tryMarkDealRunning deal.dealId now), .spawn deal]
  else []

structure WorkloadRunOutput where
  persistedResult : Json
  (resultHash resultFormat : String)
  resultEnvelopeHash : Option String

def stageStripeCapture (output : WorkloadRunOutput)
    (resultEvidenceHash : String) (now : ℤ) : List Effect :=
  if (stageDealResultReady P deal.dealId output.persistedResult (some output.resultHash)
        (some resultEvidenceHash) now s.store.deals).1
      && !s.outbox.any (·.dealId == deal.dealId) then
    [.call (.stageResultReady deal.dealId output.persistedResult output.resultHash
        resultEvidenceHash now),
      .insertOutbox { dealId := deal.dealId, createdAt := now
                      details := .succeeded output.resultFormat output.resultEnvelopeHash }]
  else []

def stageStripeCancel (failure : ReceiptFailure)
    (failureEvidenceHash : String) (now : ℤ) : List Effect :=
  if (stageDealSettlementPendingFailure deal.dealId failure.message failureEvidenceHash now
        s.store.deals).1
      && !s.outbox.any (·.dealId == deal.dealId) then
    [.call (.stageSettlementPending deal.dealId failure.message failureEvidenceHash now),
      .insertOutbox { dealId := deal.dealId, createdAt := now, details := .failed failure }]
  else []

def prepaidSettlementForDeal (P : Primitives) (deal : StoredDeal)
    (answer : Except String IncomingPayment) : Except String PrepaidSettlementInfo :=
  match deal.paymentTokenHash, deal.paymentAmountSats with
  | none, _ => .error "prepaid deal is missing its payment hash"
  | some _, none => .error "prepaid deal is missing its payment amount"
  | some paymentHash, some amountSats => do
    let payment ← answer
    validatePrepaidPaymentProof P paymentHash amountSats payment
    rejectIf (u64Max < amountSats * 1000) "prepaid receipt amount overflowed millisatoshis"
    return { paymentHash, preimageHex := payment.preimageHex
             chargedMsat := amountSats * 1000, paid := true }

def executionSettlement (P : Primitives) (deal : StoredDeal)
    (answer : Except String IncomingPayment) : Except String (Option PrepaidSettlementInfo) :=
  if deal.paymentMethod == some .lightningPrepaid then
    (prepaidSettlementForDeal P deal answer).map some
  else .ok none

def successSpec (output : WorkloadRunOutput) (prepaidSettlement : Option PrepaidSettlementInfo) :
    ReceiptSignSpec :=
  { dealState := "succeeded", executionState := "succeeded", bundle := none
    stripeSettlement := none, prepaidSettlement, resultHash := some output.resultHash
    resultFormat := some output.resultFormat, resultEnvelopeHash := output.resultEnvelopeHash
    failure := none }

def executionSucceeded (output : WorkloadRunOutput)
    (answer : Except String IncomingPayment) (resultEvidenceHash : String) (now : ℤ) :
    List Effect :=
  match deal.paymentMethod with
  | some .stripe => stageStripeCapture (P := P) s deal output resultEvidenceHash now
  | some .lightning =>
    if (stageDealResultReady P deal.dealId output.persistedResult (some output.resultHash)
        (some resultEvidenceHash) now s.store.deals).1 then
      [.call (.stageResultReady deal.dealId output.persistedResult output.resultHash
        resultEvidenceHash now)]
    else []
  | _ =>
    match executionSettlement P deal answer with
    | .error _ => []
    | .ok prepaidSettlement =>
      match signDealReceipt env.signer deal now (successSpec output prepaidSettlement) with
      | .error _ => []
      | .ok receipt =>
        if s.statusIs deal.dealId .running then
          [.call (.completeSuccess .execution deal.dealId output.persistedResult
            (some output.resultHash) receipt (some resultEvidenceHash) now)]
        else []

def failureSpec (failure : ReceiptFailure) (bundle : Option LightningInvoiceBundleSession)
    (prepaidSettlement : Option PrepaidSettlementInfo) : ReceiptSignSpec :=
  { dealState := "failed", executionState := "failed", bundle, stripeSettlement := none
    prepaidSettlement, resultHash := none, resultFormat := none, resultEnvelopeHash := none
    failure := some failure }

def executionFailed (failure : ReceiptFailure)
    (bundle : Option LightningInvoiceBundleSession) (answer : Except String IncomingPayment)
    (failureEvidenceHash : String) (now : ℤ) : List Effect :=
  match deal.paymentMethod with
  | some .stripe => stageStripeCancel s deal failure failureEvidenceHash now
  | _ =>
    match executionSettlement P deal answer with
    | .error _ => []
    | .ok prepaidSettlement =>
      match signDealReceipt env.signer deal now (failureSpec failure bundle prepaidSettlement) with
      | .error _ => []
      | .ok receipt =>
        if s.statusIs deal.dealId .running then
          [.call (.completeFailure .execution deal.dealId failure.message receipt
            (some failureEvidenceHash) now)]
        else []

end Froglet
