import Froglet.Lib.Programs
import Froglet.Lightning.Bundles
import Froglet.Provider.Runtime

/-!
# What the node asks of its wallet

The Lightning side of the provider with LND behind it, as programs that make one call
after another: to the wallet, to the table of invoice bundles and to the clock.
-/

namespace Froglet

open List
open Prog (fail ofExcept)

variable {P : Primitives} {session : LightningInvoiceBundleSession} {α : Type}
variable {hash : String}

inductive WalletError where
  | notFound
  | alreadySettled
  | backend (message : String)
deriving DecidableEq

def WalletError.text : WalletError → String
  | notFound => "invoice not found"
  | alreadySettled => "invoice already settled"
  | backend message => s!"wallet backend error: {message}"

inductive InvoiceState where
  | opened
  | accepted
  | settled
  | canceled
deriving DecidableEq

def mapInvoiceState : InvoiceState → InvoiceBundleLegState
  | .opened => .opened
  | .accepted => .accepted
  | .settled => .settled
  | .canceled => .canceled

inductive MaterializationDisposition where
  | persisted
  | alreadyBound
  | lostOwnership
  | authoritativeConflict (error : String)
  | cleanupOwned
deriving DecidableEq

/-- The calls. Of an invoice that is added only the payment hash is kept. -/
inductive LightningCall where
  | destinationIdentity
  | addHoldInvoice (paymentHash : String)
  | lookupInvoice (paymentHash : String)
  | settleInvoice (preimageHex : String)
  | cancelInvoice (paymentHash : String)
  | bundleByDealHash (dealHash : String)
  | updateStates (sessionId : String) (baseState successState : InvoiceBundleLegState)
  | persistBundle (session : LightningInvoiceBundleSession)
  | renewClaim
  | clock

def LightningCall.Answer : LightningCall → Type
  | destinationIdentity => Except String String
  | addHoldInvoice _ => Except WalletError String
  | lookupInvoice _ => Except WalletError InvoiceState
  | settleInvoice _ | cancelInvoice _ => Except WalletError Unit
  | bundleByDealHash _ | updateStates _ _ _ => Except String (Option LightningInvoiceBundleSession)
  | persistBundle _ => Except String MaterializationDisposition
  | renewClaim => Except String Bool
  | clock => ℤ

abbrev LightningProg (α : Type) : Type := Prog LightningCall LightningCall.Answer String α

namespace LightningCall

def ask (c : LightningCall) : LightningProg c.Answer := .call c .ret

def orFail (answer : Except WalletError α) : LightningProg α :=
  .ofExcept (answer.mapError WalletError.text)

end LightningCall

open LightningCall

/-! ## Cancellation -/

def cancelAllowing (tolerated : WalletError → Bool) (paymentHash : String) :
    LightningProg (Except String Unit) := do
  match ← ask (.cancelInvoice paymentHash) with
  | .ok _ => return .ok ()
  | .error error => return if tolerated error then .ok () else .error error.text

def cancelInvoices (tolerated : WalletError → Bool) (paymentHashes : List String) :
    LightningProg Unit := do
  let failures ← cancelLndInvoices (cancelAllowing tolerated) paymentHashes
  if failures.isEmpty then return () else fail ("; ".intercalate failures)

def addHoldInvoice (paymentHash : String) : LightningProg (Except String String) := do
  let answer ← ask (.addHoldInvoice paymentHash)
  return answer.mapError WalletError.text

/-- The wallet as the issue of a bundle calls it. -/
def lndClient : LndClient LightningProg where
  configured := true
  ofExcept := ofExcept
  destinationIdentity := ask .destinationIdentity
  addBaseInvoice := addHoldInvoice
  addSuccessInvoice := addHoldInvoice
  cancelInvoice := cancelAllowing fun _ => false

def InvoiceBundleLegState.isOpenOrAccepted (state : InvoiceBundleLegState) : Bool :=
  state == .opened || state == .accepted

def cancelLightningInvoiceBundle (session : LightningInvoiceBundleSession) : LightningProg Unit :=
  let legs := session.bundle.payload
  cancelInvoices (fun _ => false)
    ((if 0 < legs.baseFee.amountMsat && session.baseState.isOpenOrAccepted then
        [legs.baseFee.paymentHash] else [])
      ++ (if session.successState.isOpenOrAccepted then [legs.successFee.paymentHash] else []))

/-! ## The node -/

structure LndNode (P : Primitives) where
  identity : NodeIdentity P
  keyedHmacHex : Bytes → String
  config : OfferConfig
  parser : Bolt11Parser

def expireOpenLegIfDue (parser : Bolt11Parser) (state : InvoiceBundleLegState)
    (invoiceBolt11 : String) (now : ℤ) : Except String InvoiceBundleLegState :=
  if state == .opened then do
    let decoded ← decodeLightningInvoice parser invoiceBolt11
    return if decoded.expiresAt ≤ now then .expired else state
  else return state

def expireOpenInvoiceLegsIfDue (parser : Bolt11Parser) (session : LightningInvoiceBundleSession)
    (now : ℤ) : Except String (InvoiceBundleLegState × InvoiceBundleLegState) := do
  let legs := session.bundle.payload
  let baseState ← expireOpenLegIfDue parser session.baseState legs.baseFee.invoiceBolt11 now
  let successState ←
    expireOpenLegIfDue parser session.successState legs.successFee.invoiceBolt11 now
  return (baseState, successState)

def lookupLeg (paymentHash : String) : LightningProg InvoiceBundleLegState := do
  let answer ← ask (.lookupInvoice paymentHash)
  let state ← orFail answer
  return mapInvoiceState state

def storeStates (session : LightningInvoiceBundleSession)
    (baseState successState : InvoiceBundleLegState) (missing : String) :
    LightningProg LightningInvoiceBundleSession :=
  if baseState == session.baseState && successState == session.successState then pure session
  else do
    let answer ← ask (.updateStates session.sessionId baseState successState)
    let row ← ofExcept answer
    ofExcept (okOr row missing)

namespace LndNode

variable (n : LndNode P)

def baseFeePreimageHex (sessionId : String) : String :=
  n.keyedHmacHex (textBytes s!"lightning-base-preimage:{sessionId}")

def baseFeePaymentHash (sessionId : String) : Except String String :=
  deterministicBaseFeePaymentHash P n.keyedHmacHex sessionId

def preimageHash (_ : LndNode P) (preimageHex : String) : Option String :=
  (Hex.decodeChars preimageHex.toList).map P.sha256Hex

def issueLndRestInvoiceBundle (request : BuildLightningInvoiceBundleRequest) :
    LightningProg LightningInvoiceBundleSession :=
  Froglet.issueLndRestInvoiceBundle lndClient n.identity n.keyedHmacHex n.config n.parser request

variable (request : BuildLightningInvoiceBundleRequest)

def materializePendingLightningBundle : LightningProg Unit := do
  let bundle ← n.issueLndRestInvoiceBundle request
  match ← ask (.persistBundle bundle) with
  | .ok .cleanupOwned => cancelLightningInvoiceBundle bundle
  | .ok (.authoritativeConflict error) => fail error
  | .ok _ => return ()
  | .error error => do
    let answer ← ask .renewClaim
    let renewed ← ofExcept answer
    if renewed then
      cancelLightningInvoiceBundle bundle
      fail error
    else fail s!"{error}; lightning materialization ownership changed before cleanup"

def pendingBaseHashes : Except String (List String) :=
  if 0 < request.baseFeeMsat then (n.baseFeePaymentHash request.sessionId).map ([·]) else .ok []

def cancelPendingLightningMaterializationRequest : LightningProg Unit := do
  let base ← ofExcept (n.pendingBaseHashes request)
  cancelInvoices (· == .notFound)
    ((if 0 < request.successFeeMsat then [request.successPaymentHash] else []) ++ base)

def syncBaseLeg (session : LightningInvoiceBundleSession) :
    LightningProg InvoiceBundleLegState := do
  if session.bundle.payload.baseFee.amountMsat == 0 then return .settled
  else
    let state ← lookupLeg session.bundle.payload.baseFee.paymentHash
    if state == .accepted then
      match ← ask (.settleInvoice (n.baseFeePreimageHex session.sessionId)) with
      | .ok _ | .error .alreadySettled => lookupLeg session.bundle.payload.baseFee.paymentHash
      | .error error => fail error.text
    else return state

def syncLightningInvoiceBundleSession (session : LightningInvoiceBundleSession) :
    LightningProg LightningInvoiceBundleSession := do
  let baseState ← n.syncBaseLeg session
  let successState ← lookupLeg session.bundle.payload.successFee.paymentHash
  let session ← storeStates session baseState successState
    "lightning invoice bundle disappeared during sync"
  let now ← ask .clock
  let (baseState, successState) ←
    ofExcept (expireOpenInvoiceLegsIfDue n.parser session now)
  storeStates session baseState successState
    "lightning invoice bundle disappeared during expiry normalization"

def getLightningInvoiceBundleByDealHash (dealHash : String) :
    LightningProg (Option LightningInvoiceBundleSession) := do
  let answer ← ask (.bundleByDealHash dealHash)
  match ← ofExcept answer with
  | none => return none
  | some session => do
    let synced ← n.syncLightningInvoiceBundleSession session
    return some synced

def settleLightningSuccessHoldInvoice (session : LightningInvoiceBundleSession)
    (successPreimageHex : String) : LightningProg LightningInvoiceBundleSession := do
  let answer ← ask (.settleInvoice successPreimageHex)
  orFail answer
  let refreshed ← n.syncLightningInvoiceBundleSession session
  if refreshed.successState == .settled then return refreshed
  else fail "success hold invoice did not reach settled state"

def cancelAndSyncLightningInvoiceBundle (session : LightningInvoiceBundleSession) :
    LightningProg LightningInvoiceBundleSession := do
  cancelLightningInvoiceBundle session
  n.syncLightningInvoiceBundleSession session

/-! ## What is run for a deal -/

def canSettleSuccess (session : LightningInvoiceBundleSession) : Bool :=
  session.baseState == .settled
    && (session.successState == .accepted || session.successState == .settled)

def releaseDeal (successPreimageHex : String) : LightningProg Unit := do
  let computed ← ofExcept (okOr (n.preimageHash successPreimageHex)
    "success_preimage must be valid lowercase hex")
  ofExcept (rejectIf (computed != request.successPaymentHash)
    "success_preimage does not match the deal payment lock")
  match ← n.getLightningInvoiceBundleByDealHash request.dealHash with
  | none => fail "lightning invoice bundle not found"
  | some bundle =>
    if !canSettleSuccess bundle then
      fail "lightning invoice bundle is not ready for requester release"
    else if bundle.successState == .settled then return ()
    else do
      let _ ← n.settleLightningSuccessHoldInvoice bundle successPreimageHex
      return ()

def cancelDeal : LightningProg Unit := do
  match ← n.getLightningInvoiceBundleByDealHash request.dealHash with
  | none => return ()
  | some bundle => do
    let _ ← n.cancelAndSyncLightningInvoiceBundle bundle
    return ()

def inconsistentWith (status : DealStatus) (session : LightningInvoiceBundleSession) : Bool :=
  let funded := lightningBundleIsFunded session
  !(status == .resultReady && session.successState == .settled)
    && !(status == .paymentPending && !funded) && (session.successState == .settled || !funded)

def recoverDeal (status : DealStatus) (pastCompletionDeadline : Bool) : LightningProg Unit := do
  match ← n.getLightningInvoiceBundleByDealHash request.dealHash with
  | none => return ()
  | some existing => do
    let synced ← n.syncLightningInvoiceBundleSession existing
    if synced.successState == .expired || synced.successState == .canceled then return ()
    else if inconsistentWith status synced || pastCompletionDeadline then do
      let _ ← n.cancelAndSyncLightningInvoiceBundle synced
      return ()
    else return ()

end LndNode

inductive LightningJob where
  | materialize
  | cancelPending
  | sync
  | release (successPreimageHex : String)
  | cancel
  | recover (status : DealStatus) (pastCompletionDeadline : Bool)

def LndNode.start (n : LndNode P) (request : BuildLightningInvoiceBundleRequest) :
    LightningJob → LightningProg Unit
  | .materialize => n.materializePendingLightningBundle request
  | .cancelPending => n.cancelPendingLightningMaterializationRequest request
  | .sync => do
    let _ ← n.getLightningInvoiceBundleByDealHash request.dealHash
    return ()
  | .release successPreimageHex => n.releaseDeal request successPreimageHex
  | .cancel => n.cancelDeal request
  | .recover status pastCompletionDeadline => n.recoverDeal request status pastCompletionDeadline

/-! ## The hashes of a deal -/

namespace LndNode

variable (n : LndNode P) (request : BuildLightningInvoiceBundleRequest)

def paymentHashes : List String :=
  request.successPaymentHash
    :: if request.baseFeeMsat == 0 then []
      else (n.baseFeePaymentHash request.sessionId).toOption.toList

structure Issues (session : LightningInvoiceBundleSession) : Prop where
  sessionId : session.sessionId = request.sessionId
  dealHash : session.bundle.payload.dealHash = request.dealHash
  amount : session.bundle.payload.baseFee.amountMsat = request.baseFeeMsat
  base : request.baseFeeMsat ≠ 0 →
    session.bundle.payload.baseFee.paymentHash ∈ n.paymentHashes request
  success : session.bundle.payload.successFee.paymentHash = request.successPaymentHash

def Allows : LightningCall → Prop
  | .addHoldInvoice paymentHash | .lookupInvoice paymentHash | .cancelInvoice paymentHash =>
    paymentHash ∈ n.paymentHashes request
  | .settleInvoice preimageHex =>
    ∀ paymentHash, n.preimageHash preimageHex = some paymentHash →
      paymentHash ∈ n.paymentHashes request
  | .bundleByDealHash dealHash => dealHash = request.dealHash
  | .updateStates sessionId _ _ => sessionId = request.sessionId
  | .persistBundle session => n.Issues request session
  | .destinationIdentity | .renewClaim | .clock => True

def MayAnswer : (c : LightningCall) → c.Answer → Prop
  | .bundleByDealHash _, answer | .updateStates _ _ _, answer =>
    ∀ session, answer = Except.ok (some session) → n.Issues request session
  | _, _ => True

def Keeps (p : LightningProg α) (Q : α → Prop) : Prop :=
  p.Confined (n.Allows request) (n.MayAnswer request) Q

variable {n request}

theorem successPaymentHash_mem : request.successPaymentHash ∈ n.paymentHashes request :=
  mem_cons_self

theorem baseFeePaymentHash_mem (hfee : request.baseFeeMsat ≠ 0)
    (hhash : n.baseFeePaymentHash request.sessionId = .ok hash) :
    hash ∈ n.paymentHashes request := by
  simp [paymentHashes, hfee, hhash, Except.toOption]

theorem preimageHash_baseFeePreimageHex (sessionId : String) :
    n.preimageHash (n.baseFeePreimageHex sessionId)
      = (n.baseFeePaymentHash sessionId).toOption := by
  unfold preimageHash baseFeePreimageHex baseFeePaymentHash deterministicBaseFeePaymentHash
  cases Hex.decodeChars (n.keyedHmacHex _).toList <;> rfl

theorem Keeps.bind {β : Type} {p : LightningProg α} {f : α → LightningProg β} {Q : α → Prop}
    {R : β → Prop} (h : n.Keeps request p Q) (hf : ∀ a, Q a → n.Keeps request (f a) R) :
    n.Keeps request (p >>= f) R :=
  Prog.Confined.bind h hf

theorem keeps_pure {a : α} {Q : α → Prop} (h : Q a) : n.Keeps request (pure a) Q := h

theorem keeps_ask (c : LightningCall) (hallows : n.Allows request c) :
    n.Keeps request (ask c) (n.MayAnswer request c) :=
  ⟨hallows, fun _ h => h⟩

theorem keeps_orFail {answer : Except WalletError α} : n.Keeps request (orFail answer)
    (fun _ => True) :=
  Prog.confined_ofExcept.mpr fun _ _ => trivial

theorem keeps_ofExcept (result : Except String α) :
    n.Keeps request (ofExcept result) (fun a => result = .ok a) :=
  Prog.confined_ofExcept.mpr fun _ h => h

/-! ### Cancellation -/

variable {paymentHashes : List String}

theorem keeps_cancelLndInvoices (tolerated : WalletError → Bool)
    (h : ∀ hash ∈ paymentHashes, hash ∈ n.paymentHashes request) :
    n.Keeps request (cancelLndInvoices (cancelAllowing tolerated) paymentHashes)
      (fun _ => True) := by
  induction paymentHashes with
  | nil => trivial
  | cons hash rest ih =>
    have hrest := ih fun hash hmem => h hash (mem_cons_of_mem _ hmem)
    have hcancel : n.Keeps request (cancelAllowing tolerated hash) (fun _ => True) := by
      refine (keeps_ask (.cancelInvoice hash) (h hash mem_cons_self)).bind fun answer _ => ?_
      split <;> trivial
    refine hcancel.bind fun answer _ => hrest.bind fun failures _ => ?_
    split <;> trivial

theorem keeps_cancelInvoices (tolerated : WalletError → Bool)
    (h : ∀ hash ∈ paymentHashes, hash ∈ n.paymentHashes request) :
    n.Keeps request (cancelInvoices tolerated paymentHashes) (fun _ => True) := by
  refine (keeps_cancelLndInvoices tolerated h).bind fun failures _ => ?_
  split <;> trivial

theorem keeps_orCleanup (result : Except String α)
    (h : ∀ hash ∈ paymentHashes, hash ∈ n.paymentHashes request) :
    n.Keeps request (orCleanup lndClient paymentHashes result) (fun _ => True) := by
  cases result with
  | ok a => trivial
  | error error => exact (keeps_cancelLndInvoices _ h).bind fun _ _ => trivial

theorem keeps_cancelLightningInvoiceBundle (h : n.Issues request session) :
    n.Keeps request (cancelLightningInvoiceBundle session) (fun _ => True) := by
  refine keeps_cancelInvoices _ fun hash hmem => ?_
  rcases mem_append.mp hmem with hbase | hsuccess
  · split at hbase
    case isTrue hopen =>
      obtain rfl := mem_singleton.mp hbase
      have hfee : request.baseFeeMsat ≠ 0 := by
        simp only [Bool.and_eq_true, decide_eq_true_eq, h.amount] at hopen
        omega
      exact h.base hfee
    case isFalse => cases hbase
  · split at hsuccess
    case isTrue =>
      obtain rfl := mem_singleton.mp hsuccess
      rw [h.success]
      exact successPaymentHash_mem
    case isFalse => cases hsuccess

/-! ### Issuing -/

theorem keeps_addHoldInvoice (h : hash ∈ n.paymentHashes request) :
    n.Keeps request (addHoldInvoice hash) (fun _ => True) :=
  (keeps_ask (.addHoldInvoice hash) h).bind fun _ _ => trivial

theorem keeps_lndBaseLeg {expirySecs : ℕ}
    (hhash : n.baseFeePaymentHash request.sessionId = .ok hash) :
    n.Keeps request (lndBaseLeg lndClient request expirySecs hash) (fun _ => True) := by
  unfold lndBaseLeg
  split
  case isTrue => trivial
  case isFalse hfee =>
    have hmem := baseFeePaymentHash_mem (by simpa using hfee) hhash
    refine (keeps_addHoldInvoice hmem).bind fun answer _ => ?_
    exact (keeps_orCleanup answer (forall_mem_nil _)).bind fun _ _ => trivial

theorem issues_of_sign {createdAt : ℤ} {issued : IssuedInvoices}
    (hhash : n.baseFeePaymentHash request.sessionId = .ok issued.basePaymentHash)
    (h : signLightningInvoiceBundle n.identity { request with createdAt } issued = .ok session) :
    n.Issues request session := by
  unfold signLightningInvoiceBundle at h
  simp only [bind_eq_ok, pure_eq_ok] at h
  obtain ⟨bundle, hsigned, rfl⟩ := h
  have hpayload := (authentic_of_signArtifact P n.identity.verifies hsigned).2.2.2
  refine ⟨rfl, ?_, ?_, fun hfee => ?_, ?_⟩
  · rw [hpayload]
  · rw [hpayload]
  · rw [hpayload]
    exact baseFeePaymentHash_mem hfee hhash
  · rw [hpayload]

theorem keeps_issueLndRestInvoiceBundle :
    n.Keeps request (n.issueLndRestInvoiceBundle request) (n.Issues request) := by
  unfold issueLndRestInvoiceBundle Froglet.issueLndRestInvoiceBundle
  refine (keeps_ofExcept _).bind fun expiry _ => ?_
  refine (keeps_ask .destinationIdentity trivial).bind fun answer _ => ?_
  refine (keeps_ofExcept _).bind fun destination _ => ?_
  refine (keeps_ofExcept _).bind fun basePaymentHash hhash => ?_
  refine (keeps_lndBaseLeg hhash).bind fun base _ => ?_
  refine (keeps_addHoldInvoice successPaymentHash_mem).bind fun success _ => ?_
  have hissued : ∀ hash ∈ (if request.baseFeeMsat == 0 then [] else [basePaymentHash]),
      hash ∈ n.paymentHashes request := by
    intro hash hmem
    split at hmem
    case isTrue => cases hmem
    case isFalse hfee =>
      obtain rfl := mem_singleton.mp hmem
      exact baseFeePaymentHash_mem (by simpa using hfee) hhash
  have hboth : ∀ hash ∈ (if request.baseFeeMsat == 0 then [] else [basePaymentHash])
      ++ [request.successPaymentHash], hash ∈ n.paymentHashes request := by
    intro hash hmem
    rcases mem_concat.mp hmem with hmem | rfl
    · exact hissued hash hmem
    · exact successPaymentHash_mem
  refine (keeps_orCleanup _ hissued).bind fun invoice _ => ?_
  refine (keeps_orCleanup _ hboth).bind fun baseCreatedAt _ => ?_
  refine (keeps_orCleanup _ hboth).bind fun decoded _ => ?_
  refine Prog.confined_ofExcept.mpr fun session hsession => issues_of_sign ?_ hsession
  exact hhash

theorem keeps_materializePendingLightningBundle :
    n.Keeps request (n.materializePendingLightningBundle request) (fun _ => True) := by
  refine keeps_issueLndRestInvoiceBundle.bind fun bundle hbundle => ?_
  refine (keeps_ask (.persistBundle bundle) hbundle).bind fun answer _ => ?_
  have hcancel := keeps_cancelLightningInvoiceBundle hbundle
  match answer with
  | .ok .cleanupOwned => exact hcancel
  | .ok (.authoritativeConflict _) | .ok .persisted | .ok .alreadyBound | .ok .lostOwnership =>
    trivial
  | .error error =>
    refine (keeps_ask .renewClaim trivial).bind fun answer _ => ?_
    refine (keeps_ofExcept _).bind fun renewed _ => ?_
    split
    · exact hcancel.bind fun _ _ => trivial
    · trivial

theorem keeps_cancelPendingLightningMaterializationRequest :
    n.Keeps request (n.cancelPendingLightningMaterializationRequest request) (fun _ => True) := by
  refine (keeps_ofExcept _).bind fun base hbase => keeps_cancelInvoices _ fun hash hmem => ?_
  rcases mem_append.mp hmem with hmem | hmem
  · split at hmem
    case isTrue =>
      obtain rfl := mem_singleton.mp hmem
      exact successPaymentHash_mem
    case isFalse => cases hmem
  · unfold pendingBaseHashes at hbase
    split at hbase
    case isTrue hfee =>
      obtain ⟨derived, hderived, rfl⟩ := map_eq_ok.mp hbase
      obtain rfl := mem_singleton.mp hmem
      exact baseFeePaymentHash_mem (by omega) hderived
    case isFalse =>
      cases hbase
      cases hmem

/-! ### Reading a bundle -/

theorem keeps_lookupLeg (h : hash ∈ n.paymentHashes request) :
    n.Keeps request (lookupLeg hash) (fun _ => True) :=
  (keeps_ask (.lookupInvoice hash) h).bind fun _ _ => keeps_orFail.bind fun _ _ => trivial

theorem keeps_storeStates (h : n.Issues request session)
    (baseState successState : InvoiceBundleLegState) (missing : String) :
    n.Keeps request (storeStates session baseState successState missing) (n.Issues request) := by
  unfold storeStates
  split
  · exact h
  · refine (keeps_ask (.updateStates _ _ _) h.sessionId).bind fun answer hanswer => ?_
    refine (keeps_ofExcept _).bind fun row hrow => ?_
    refine (keeps_ofExcept _).mono fun found hfound => ?_
    rw [okOr_eq_ok] at hfound
    exact hanswer found (hrow.trans (hfound ▸ rfl))

theorem keeps_syncBaseLeg (h : n.Issues request session) :
    n.Keeps request (n.syncBaseLeg session) (fun _ => True) := by
  unfold syncBaseLeg
  split
  case isTrue => trivial
  case isFalse hamount =>
    have hfee : request.baseFeeMsat ≠ 0 := by
      rw [h.amount] at hamount
      simpa using hamount
    refine (keeps_lookupLeg (h.base hfee)).bind fun state _ => ?_
    split
    case isFalse => trivial
    case isTrue =>
      have hsettle : n.Allows request
          (.settleInvoice (n.baseFeePreimageHex session.sessionId)) := by
        intro hash hhash
        rw [preimageHash_baseFeePreimageHex, h.sessionId] at hhash
        cases hbase : n.baseFeePaymentHash request.sessionId with
        | error error => rw [hbase] at hhash; cases hhash
        | ok hash' =>
          rw [hbase] at hhash
          cases hhash
          exact baseFeePaymentHash_mem hfee hbase
      refine (keeps_ask (.settleInvoice _) hsettle).bind fun answer _ => ?_
      match answer with
      | .ok _ | .error .alreadySettled => exact keeps_lookupLeg (h.base hfee)
      | .error .notFound | .error (.backend _) => trivial

theorem keeps_syncLightningInvoiceBundleSession (h : n.Issues request session) :
    n.Keeps request (n.syncLightningInvoiceBundleSession session) (n.Issues request) := by
  have hsuccess : session.bundle.payload.successFee.paymentHash ∈ n.paymentHashes request := by
    rw [h.success]
    exact successPaymentHash_mem
  refine (keeps_syncBaseLeg h).bind fun baseState _ => ?_
  refine (keeps_lookupLeg hsuccess).bind fun successState _ => ?_
  refine (keeps_storeStates h _ _ _).bind fun stored hstored => ?_
  refine (keeps_ask .clock trivial).bind fun now _ => ?_
  refine (keeps_ofExcept _).bind fun states _ => ?_
  exact keeps_storeStates hstored _ _ _

theorem keeps_getLightningInvoiceBundleByDealHash :
    n.Keeps request (n.getLightningInvoiceBundleByDealHash request.dealHash)
      (fun found => ∀ session, found = some session → n.Issues request session) := by
  unfold getLightningInvoiceBundleByDealHash
  refine (keeps_ask (.bundleByDealHash request.dealHash) rfl).bind fun answer hanswer => ?_
  refine (keeps_ofExcept _).bind fun row hrow => ?_
  match row with
  | none => exact keeps_pure (by simp)
  | some session =>
    refine (keeps_syncLightningInvoiceBundleSession (hanswer session hrow)).bind
      fun synced hsynced => keeps_pure ?_
    rintro session' ⟨⟩
    exact hsynced

theorem keeps_cancelAndSyncLightningInvoiceBundle (h : n.Issues request session) :
    n.Keeps request (n.cancelAndSyncLightningInvoiceBundle session) (n.Issues request) :=
  (keeps_cancelLightningInvoiceBundle h).bind fun _ _ => keeps_syncLightningInvoiceBundleSession h

theorem keeps_settleLightningSuccessHoldInvoice (h : n.Issues request session)
    {successPreimageHex : String} (hsettle : n.Allows request (.settleInvoice successPreimageHex)) :
    n.Keeps request (n.settleLightningSuccessHoldInvoice session successPreimageHex)
      (fun _ => True) := by
  refine (keeps_ask (.settleInvoice _) hsettle).bind fun answer _ => ?_
  refine keeps_orFail.bind fun _ _ => ?_
  refine (keeps_syncLightningInvoiceBundleSession h).bind fun refreshed _ => ?_
  split <;> trivial

/-! ### Jobs -/

theorem keeps_releaseDeal (successPreimageHex : String) :
    n.Keeps request (n.releaseDeal request successPreimageHex) (fun _ => True) := by
  unfold releaseDeal
  refine (keeps_ofExcept _).bind fun computed hcomputed => ?_
  refine (keeps_ofExcept _).bind fun _ hmatches => ?_
  refine keeps_getLightningInvoiceBundleByDealHash.bind fun found hfound => ?_
  match found with
  | none => trivial
  | some bundle =>
    have hbundle := hfound bundle rfl
    have hsettle : n.Allows request (.settleInvoice successPreimageHex) := by
      intro hash hhash
      rw [okOr_eq_ok, hhash, Option.some_inj] at hcomputed
      rw [rejectIf_eq_ok, bne_eq_false_iff_eq] at hmatches
      rw [hcomputed, hmatches]
      exact successPaymentHash_mem
    dsimp only
    split
    · trivial
    · split
      · trivial
      · refine (keeps_settleLightningSuccessHoldInvoice hbundle hsettle).bind fun _ _ => ?_
        trivial

theorem keeps_cancelDeal : n.Keeps request (n.cancelDeal request) (fun _ => True) := by
  refine keeps_getLightningInvoiceBundleByDealHash.bind fun found hfound => ?_
  match found with
  | none => trivial
  | some bundle =>
    exact (keeps_cancelAndSyncLightningInvoiceBundle (hfound bundle rfl)).bind fun _ _ => trivial

theorem keeps_recoverDeal (status : DealStatus) (pastCompletionDeadline : Bool) :
    n.Keeps request (n.recoverDeal request status pastCompletionDeadline) (fun _ => True) := by
  refine keeps_getLightningInvoiceBundleByDealHash.bind fun found hfound => ?_
  match found with
  | none => trivial
  | some existing =>
    refine (keeps_syncLightningInvoiceBundleSession (hfound existing rfl)).bind
      fun synced hsynced => ?_
    split
    · trivial
    · split
      · exact (keeps_cancelAndSyncLightningInvoiceBundle hsynced).bind fun _ _ => trivial
      · trivial

/-- What is run for a deal stays within the deal, whatever it is answered. -/
theorem keeps_start (job : LightningJob) :
    n.Keeps request (n.start request job) (fun _ => True) := by
  cases job with
  | materialize => exact keeps_materializePendingLightningBundle
  | cancelPending => exact keeps_cancelPendingLightningMaterializationRequest
  | sync => exact keeps_getLightningInvoiceBundleByDealHash.bind fun _ _ => trivial
  | release successPreimageHex => exact keeps_releaseDeal successPreimageHex
  | cancel => exact keeps_cancelDeal
  | recover status pastCompletionDeadline => exact keeps_recoverDeal status pastCompletionDeadline

end LndNode

end Froglet
