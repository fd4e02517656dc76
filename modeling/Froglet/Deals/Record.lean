import Froglet.Protocol.Chain

/-!
# Deals as the two parties see them

The statuses of a deal, the wallets it is settled with, and the record of a deal a
provider shows to the outside.
-/

namespace Froglet

inductive DealStatus where
  | accepted
  | paymentPending
  | running
  | resultReady
  | settlementPending
  | succeeded
  | failed
  | rejected
deriving DecidableEq

namespace DealStatus

def text : DealStatus → String
  | accepted => "accepted"
  | paymentPending => "payment_pending"
  | running => "running"
  | resultReady => "result_ready"
  | settlementPending => "settlement_pending"
  | succeeded => "succeeded"
  | failed => "failed"
  | rejected => "rejected"

def isTerminal : DealStatus → Bool
  | succeeded | failed | rejected => true
  | _ => false

end DealStatus

def isTerminalText (status : String) : Bool :=
  status == DealStatus.succeeded.text || status == DealStatus.failed.text
    || status == DealStatus.rejected.text

structure WorkloadSpec where
  (workloadKind requestHash : String)
  confidentialSessionHash : Option String
  (wasmRuntime requiresWasmPermit externalContainer : Bool)
  body : Json
deriving DecidableEq

def sampleSpec : WorkloadSpec :=
  { workloadKind := "k", requestHash := "w", confidentialSessionHash := none, wasmRuntime := true
    requiresWasmPermit := true, externalContainer := false, body := .null }

inductive LightningMode where
  | mock
  | lndRest
  | phoenixd
deriving DecidableEq

structure PrepaidInvoice where
  (bolt11 paymentHash : String)
  amountSat : ℕ
deriving DecidableEq

/-- A deal as the provider shows it. -/
structure DealRecord where
  dealId : String
  idempotencyKey : Option String
  (status workloadKind : String)
  deal : SignedDeal
  quote : SignedQuote
  result : Option Json
  (resultHash error : Option String)
  receipt : Option SignedReceipt
  prepaidInvoice : Option PrepaidInvoice
  (createdAt updatedAt : ℤ)

def canonicalResultHash (P : Primitives) (result : Json) : String :=
  match P.canonicalJson result with
  | .ok bytes => P.sha256Hex bytes
  | .error _ => P.sha256Hex []

def statusBoundToReceipt (receipt : SignedReceipt) : Option String :=
  if receipt.payload.dealState == "succeeded" then some DealStatus.succeeded.text
  else if receipt.payload.dealState == "rejected" then some DealStatus.rejected.text
  else if receipt.payload.dealState == "failed" || receipt.payload.dealState == "canceled" then
    some DealStatus.failed.text
  else none

end Froglet
