import Froglet.Provider.DealRequest

/-!
# The tasks of a provider

A provider runs many tasks at once: requests, the materialization queue, the reconcile
loops and a worker for each deal it executes.
-/

namespace Froglet

open Table

/-! ## State -/

inductive MaterializationPhase where
  | pending
  | resourceReady
  | cleanupPending
deriving DecidableEq

/-- A row of `deal_settlement_materializations`. -/
structure MaterializationRecord where
  dealId : String
  request : MaterializationRequest
  phase : MaterializationPhase
  resource : Option StripePaymentMaterializationResource
  nextAttemptAt : ℤ
  claimToken : Option String
  claimExpiresAt : Option ℤ
deriving DecidableEq

inductive StripeSettlementOutboxDetails where
  | succeeded (resultFormat : String) (resultEnvelopeHash : Option String)
  | failed (failure : ReceiptFailure)
deriving DecidableEq

structure StripeSettlementOutboxRecord where
  dealId : String
  details : StripeSettlementOutboxDetails
  createdAt : ℤ
deriving DecidableEq

/-- What a task can have read. -/
inductive Observation where
  | deal (row : StoredDeal)
  | claim (record : MaterializationRecord)
  | driverAnswer (dealId : String) (answer : DriverAnswer)
  | reservation (dealId : String) (reservation : PaymentReservation)
  | bundle (session : LightningInvoiceBundleSession)
  | payment (paymentHash : String) (payment : IncomingPayment)
  | outbox (record : StripeSettlementOutboxRecord)
deriving DecidableEq

/-- Before and after the local recovery of a start. -/
inductive RunPhase where
  | starting
  | serving
deriving DecidableEq

structure ProviderState where
  store : DealStore
  materializations : List MaterializationRecord
  bundles : List LightningInvoiceBundleSession
  prepaidInvoices : List (String × PrepaidInvoice)
  outbox : List StripeSettlementOutboxRecord
  phase : RunPhase
  held : List Observation
  workers : List StoredDeal
  log : List Observation
deriving DecidableEq

/-- The node: its key and its configuration. -/
structure ProviderEnv (P : Primitives) where
  signer : ReceiptSigner P
  config : NodeConfig

/-! ## Effects -/

/-- The statements of a transaction, and what changes in the process. -/
inductive Effect where
  | call (call : DealCall)
  | observe (observation : Observation)
  | insertMaterialization (record : MaterializationRecord)
  | setClaim (dealId : String) (claimToken : Option String) (claimExpiresAt : Option ℤ)
      (nextAttemptAt : ℤ)
  | setResource (dealId : String) (phase : MaterializationPhase)
      (resource : StripePaymentMaterializationResource)
  | deleteMaterialization (dealId : String)
  | insertBundle (session : LightningInvoiceBundleSession)
  | updateBundle (sessionId : String) (baseState successState : InvoiceBundleLegState)
  | insertPrepaidInvoice (dealId : String) (invoice : PrepaidInvoice)
  | insertOutbox (record : StripeSettlementOutboxRecord)
  | deleteOutbox (dealId : String)
  | spawn (deal : StoredDeal)
  | workerReturned (deal : StoredDeal)
  | serve
  | restart (decodes : StoredDeal → Bool)

def InvoiceBundleLegState.updated (current new : InvoiceBundleLegState) : InvoiceBundleLegState :=
  if current.isTerminal || (current == .accepted && new == .opened) then current else new

def updateLightningInvoiceBundleStates (sessionId : String)
    (baseState successState : InvoiceBundleLegState)
    (bundles : List LightningInvoiceBundleSession) : List LightningInvoiceBundleSession :=
  updateWhere (·.sessionId == sessionId)
    (fun session => { session with
      baseState := session.baseState.updated baseState
      successState := session.successState.updated successState }) bundles

def Effect.apply (P : Primitives) (s : ProviderState) : Effect → ProviderState
  | call c => { s with store := c.apply P s.store }
  | observe o => { s with held := s.held ++ [o], log := s.log ++ [o] }
  | insertMaterialization record =>
    -- on a conflict of the deal id nothing is inserted
    { s with materializations :=
        if s.materializations.any (·.dealId == record.dealId) then s.materializations
        else s.materializations ++ [record] }
  | setClaim dealId claimToken claimExpiresAt nextAttemptAt =>
    { s with materializations := (updateWhere (·.dealId == dealId)
        ({ · with claimToken, claimExpiresAt, nextAttemptAt }) s.materializations) }
  | setResource dealId phase resource =>
    { s with materializations := (updateWhere (·.dealId == dealId)
        ({ · with phase, resource := some resource }) s.materializations) }
  | deleteMaterialization dealId =>
    { s with materializations := deleteWhere (·.dealId == dealId) s.materializations }
  | insertBundle session =>
    -- a bundle of the same session is replaced
    { s with bundles := deleteWhere (·.sessionId == session.sessionId) s.bundles ++ [session] }
  | updateBundle sessionId baseState successState =>
    { s with bundles :=
        updateLightningInvoiceBundleStates sessionId baseState successState s.bundles }
  | insertPrepaidInvoice dealId invoice =>
    { s with prepaidInvoices := s.prepaidInvoices ++ [(dealId, invoice)] }
  | insertOutbox record => { s with outbox := s.outbox ++ [record] }
  | deleteOutbox dealId => { s with outbox := deleteWhere (·.dealId == dealId) s.outbox }
  | spawn deal => { s with workers := s.workers ++ [deal] }
  | workerReturned deal => { s with workers := s.workers.erase deal }
  | serve => { s with phase := .serving }
  | restart decodes =>
    { s with
      store := { s.store with deals := quarantineInvalidDeals decodes s.store.deals }
      materializations := (s.materializations.map
        ({ · with claimToken := none, claimExpiresAt := none }))
      phase := .starting, held := [], workers := [] }

theorem mem_insertMaterialization {P : Primitives} {s : ProviderState}
    {record new : MaterializationRecord}
    (h : record ∈ (Effect.apply P s (.insertMaterialization new)).materializations) :
    record ∈ s.materializations ∨ record = new := by
  dsimp only [Effect.apply] at h
  split at h
  · exact .inl h
  · exact mem_concat.mp h

/-! ## Lookups -/

namespace ProviderState

variable (s : ProviderState)

def getMaterialization (dealId : String) : Option MaterializationRecord :=
  selectWhere (·.dealId == dealId) s.materializations

def getBundleByDealHash (dealHash : String) : Option LightningInvoiceBundleSession :=
  selectWhere (·.bundle.payload.dealHash == dealHash) s.bundles

def getPrepaidInvoice (dealId : String) : Option PrepaidInvoice :=
  (selectWhere (·.1 == dealId) s.prepaidInvoices).map Prod.snd

def ownsClaim (record : MaterializationRecord) : Bool :=
  record.claimToken.isSome
    && (s.getMaterialization record.dealId).any (·.claimToken == record.claimToken)

/-- The id was drawn before. `new_artifact_id` draws 16 random bytes, and the model lets
no id be drawn twice. -/
def drew (dealId : String) : Bool := s.store.admitted.any (·.dealId == dealId)

def statusIs (dealId : String) (status : DealStatus) : Bool :=
  (getDeal s.store.deals dealId).any (·.status == status)

end ProviderState

def LightningInvoiceBundleSession.isOf (session : LightningInvoiceBundleSession)
    (deal : StoredDeal) : Bool :=
  deal.paymentMethod == some .lightning && session.bundle.payload.dealHash == deal.artifact.hash

end Froglet
