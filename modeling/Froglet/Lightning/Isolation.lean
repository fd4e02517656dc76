import Froglet.Lightning.Wallet

/-!
# One wallet, many deals

All Lightning deals of a node share one LND, which is a map from payment hashes to
invoices: adding a hash that is there fails, and an invoice is canceled by its hash and
settled by a preimage of it.
-/

namespace Froglet

open List Table

variable {dealId paymentHash : String} {α : Type}
variable {P : Primitives}
variable {session : LightningInvoiceBundleSession} {c : LightningCall}
/-! ## The wallet -/

structure LndInvoice where
  (paymentHash issuedFor : String)
  state : InvoiceState
deriving DecidableEq

namespace LndWallet

variable (invoices : List LndInvoice)

def lookup (paymentHash : String) : Option LndInvoice :=
  selectWhere (·.paymentHash == paymentHash) invoices

def setState (paymentHash : String) (state : InvoiceState) : List LndInvoice :=
  updateWhere (·.paymentHash == paymentHash) ({ · with state }) invoices

def addHoldInvoice (paymentHash dealId bolt11 : String)
    (error : WalletError) : Except WalletError String × List LndInvoice :=
  match lookup invoices paymentHash with
  | some _ => (.error error, invoices)
  | none => (.ok bolt11, invoices ++ [{ paymentHash, issuedFor := dealId, state := .opened }])

def cancelInvoice (paymentHash : String) (error : WalletError) :
    Except WalletError Unit × List LndInvoice :=
  match lookup invoices paymentHash with
  | none => (.error .notFound, invoices)
  | some invoice =>
    if invoice.state == .settled then (.error error, invoices)
    else (.ok (), setState invoices paymentHash .canceled)

def settleInvoice (paymentHash : Option String) (error : WalletError) :
    Except WalletError Unit × List LndInvoice :=
  match paymentHash with
  | none => (.error error, invoices)
  | some paymentHash =>
    match lookup invoices paymentHash with
    | none => (.error .notFound, invoices)
    | some invoice =>
      if invoice.state == .accepted then (.ok (), setState invoices paymentHash .settled)
      else if invoice.state == .settled then (.error .alreadySettled, invoices)
      else (.error error, invoices)

end LndWallet

/-! ## The system -/

structure LightningTask where
  dealId : String
  rest : LightningProg Unit

structure LightningState where
  invoices : List LndInvoice
  admitted : List BuildLightningInvoiceBundleRequest
  bundles : List LightningInvoiceBundleSession
  tasks : List LightningTask

structure CallOutcome where
  (arrives returns : Bool)
  error : WalletError
  bolt11 : String
  destination : Except String String
  database : Except String Unit
  disposition : MaterializationDisposition
  renewed : Bool
  now : ℤ

inductive LightningAction where
  | createDeal (request : CreateDealRequest) (dealId : String) (otherChecks : Except String Unit)
      (now : ℤ)
  | start (dealId : String) (job : LightningJob)
  | perform (task : ℕ) (outcome : CallOutcome)
  | pay (paymentHash : String) (state : InvoiceState)
  | restart

def CallOutcome.deliver (outcome : CallOutcome) (invoices : List LndInvoice)
    (result : Except WalletError α × List LndInvoice) : Except WalletError α × List LndInvoice :=
  if !outcome.arrives then (.error outcome.error, invoices)
  else if !outcome.returns then (.error outcome.error, result.2)
  else result

namespace LightningState

def bundleByDealHash (s : LightningState) (dealHash : String) :
    Option LightningInvoiceBundleSession :=
  selectWhere (·.bundle.payload.dealHash == dealHash) s.bundles

def bundleBySession (s : LightningState) (sessionId : String) :
    Option LightningInvoiceBundleSession :=
  selectWhere (·.sessionId == sessionId) s.bundles

def deal (s : LightningState) (dealId : String) : Option BuildLightningInvoiceBundleRequest :=
  selectWhere (·.sessionId == dealId) s.admitted

end LightningState

namespace LndNode

variable (n : LndNode P)

def perform (outcome : CallOutcome) (dealId : String) (s : LightningState) :
    (c : LightningCall) → c.Answer × LightningState
  | .destinationIdentity => (outcome.destination, s)
  | .addHoldInvoice paymentHash =>
    let (answer, invoices) := outcome.deliver s.invoices
      (LndWallet.addHoldInvoice s.invoices paymentHash dealId outcome.bolt11 outcome.error)
    (answer, { s with invoices })
  | .lookupInvoice paymentHash =>
    (if outcome.arrives && outcome.returns then
      match LndWallet.lookup s.invoices paymentHash with
      | none => Except.error .notFound
      | some invoice => Except.ok invoice.state
    else Except.error outcome.error, s)
  | .settleInvoice preimageHex =>
    let (answer, invoices) := outcome.deliver s.invoices
      (LndWallet.settleInvoice s.invoices (n.preimageHash preimageHex) outcome.error)
    (answer, { s with invoices })
  | .cancelInvoice paymentHash =>
    let (answer, invoices) := outcome.deliver s.invoices
      (LndWallet.cancelInvoice s.invoices paymentHash outcome.error)
    (answer, { s with invoices })
  | .bundleByDealHash dealHash => (outcome.database.map fun _ => s.bundleByDealHash dealHash, s)
  | .updateStates sessionId baseState successState =>
    match outcome.database with
    | .error error => (Except.error error, s)
    | .ok _ =>
      let s' := { s with bundles :=
        updateLightningInvoiceBundleStates sessionId baseState successState s.bundles }
      (Except.ok (s'.bundleBySession sessionId), s')
  | .persistBundle session =>
    match outcome.database with
    | .error error => (Except.error error, s)
    | .ok _ => (Except.ok outcome.disposition,
        if outcome.disposition == .persisted then
          -- a bundle of the same session is replaced
          { s with bundles :=
              deleteWhere (·.sessionId == session.sessionId) s.bundles ++ [session] }
        else s)
  | .renewClaim => (outcome.database.map fun _ => outcome.renewed, s)
  | .clock => (outcome.now, s)

def admission (s : LightningState) (request : CreateDealRequest) (dealId : String)
    (otherChecks : Except String Unit) (now : ℤ) : Option BuildLightningInvoiceBundleRequest :=
  match checkDealRequest P n.identity n.config.toNodeConfig request otherChecks now with
  | .error _ => none
  | .ok (rail, totalSats) =>
    match request.materialization dealId rail totalSats now with
    | some (.lightningInvoiceBundle pending) =>
      -- `insert_or_get_deal` returns the deal that has the artifact hash, if one does
      if s.admitted.any fun other =>
          other.sessionId == pending.sessionId || other.dealHash == pending.dealHash then none
      else some pending
    | _ => none

def step (s : LightningState) : LightningAction → LightningState
  | .createDeal request dealId otherChecks now =>
    match n.admission s request dealId otherChecks now with
    | none => s
    | some pending => { s with admitted := s.admitted ++ [pending] }
  | .start dealId job =>
    match s.deal dealId with
    | none => s
    | some request => { s with tasks := s.tasks ++ [{ dealId, rest := n.start request job }] }
  | .perform i outcome =>
    match s.tasks[i]? with
    | none => s
    | some task =>
      match task.rest with
      | .call c next =>
        let (answer, s') := n.perform outcome task.dealId s c
        { s' with tasks := s.tasks.set i { task with rest := next answer } }
      | _ => { s with tasks := s.tasks.eraseIdx i }
  | .pay paymentHash state => { s with invoices := LndWallet.setState s.invoices paymentHash state }
  | .restart => { s with tasks := [] }

def machine : Machine LightningState LightningAction where
  init := ⟨[], [], [], []⟩
  step := n.step

end LndNode

/-! ## What one call can change -/

structure WalletStep (dealId paymentHash : String) (invoices invoices' : List LndInvoice) :
    Prop where
  others : ∀ hash, hash ≠ paymentHash →
    LndWallet.lookup invoices' hash = LndWallet.lookup invoices hash
  origin : ∀ invoice ∈ invoices',
    (∃ before ∈ invoices, before.paymentHash = invoice.paymentHash
      ∧ before.issuedFor = invoice.issuedFor)
    ∨ (invoice.paymentHash = paymentHash ∧ invoice.issuedFor = dealId)

namespace WalletStep

variable {invoices : List LndInvoice}

theorem refl : WalletStep dealId paymentHash invoices invoices :=
  ⟨fun _ _ => rfl, fun invoice hmem => .inl ⟨invoice, hmem, rfl, rfl⟩⟩

theorem setState (state : InvoiceState) :
    WalletStep dealId paymentHash invoices (LndWallet.setState invoices paymentHash state) := by
  refine ⟨fun hash hne => ?_, fun invoice hmem => ?_⟩
  · refine selectWhere_updateWhere_of_disjoint fun invoice hinvoice => ?_
    obtain rfl := beq_iff_eq.mp hinvoice
    exact ⟨beq_false_of_ne hne.symm, beq_false_of_ne hne.symm⟩
  · obtain ⟨before, hbefore, rfl⟩ := mem_updateWhere.mp hmem
    refine .inl ⟨before, hbefore, ?_⟩
    split <;> exact ⟨rfl, rfl⟩

theorem addHoldInvoice (bolt11 : String) (error : WalletError) :
    WalletStep dealId paymentHash invoices
      (LndWallet.addHoldInvoice invoices paymentHash dealId bolt11 error).2 := by
  unfold LndWallet.addHoldInvoice
  split
  · exact refl
  · refine ⟨fun hash hne => ?_, fun invoice hmem => ?_⟩
    · simp [LndWallet.lookup, selectWhere, find?_append, hne.symm]
    · rcases mem_concat.mp hmem with hmem | rfl
      · exact .inl ⟨invoice, hmem, rfl, rfl⟩
      · exact .inr ⟨rfl, rfl⟩

theorem cancelInvoice (error : WalletError) :
    WalletStep dealId paymentHash invoices
      (LndWallet.cancelInvoice invoices paymentHash error).2 := by
  unfold LndWallet.cancelInvoice
  split
  · exact refl
  · split
    · exact refl
    · exact setState _

theorem settleInvoice {key : Option String} (hkey : ∀ hash, key = some hash → hash = paymentHash)
    (error : WalletError) :
    WalletStep dealId paymentHash invoices (LndWallet.settleInvoice invoices key error).2 := by
  unfold LndWallet.settleInvoice
  split
  · exact refl
  · rename_i hash
    obtain rfl := hkey hash rfl
    split
    · exact refl
    · split
      · exact setState _
      · split <;> exact refl

theorem deliver (outcome : CallOutcome) {result : Except WalletError α × List LndInvoice}
    (h : WalletStep dealId paymentHash invoices result.2) :
    WalletStep dealId paymentHash invoices (outcome.deliver invoices result).2 := by
  unfold CallOutcome.deliver
  split
  · exact refl
  · split <;> exact h

end WalletStep

/-! ## What holds in every state -/

namespace LndNode

variable (n : LndNode P)

structure IsolationInv (s : LightningState) : Prop where
  invoices : ∀ invoice ∈ s.invoices, ∃ deal ∈ s.admitted,
    deal.sessionId = invoice.issuedFor ∧ invoice.paymentHash ∈ n.paymentHashes deal
  bundles : ∀ session ∈ s.bundles, ∃ deal ∈ s.admitted, n.Issues deal session
  tasks : ∀ task ∈ s.tasks, ∃ deal ∈ s.admitted,
    deal.sessionId = task.dealId ∧ n.Keeps deal task.rest (fun _ => True)
  sessionIds : ∀ deal ∈ s.admitted, ∀ other ∈ s.admitted,
    deal.sessionId = other.sessionId → deal = other
  dealHashes : ∀ deal ∈ s.admitted, ∀ other ∈ s.admitted,
    deal.dealHash = other.dealHash → deal = other
  disjoint : ∀ deal ∈ s.admitted, ∀ other ∈ s.admitted, ∀ paymentHash,
    paymentHash ∈ n.paymentHashes deal → paymentHash ∈ n.paymentHashes other → deal = other

def freshHashes (s : LightningState) : LightningAction → Bool
  | .createDeal request dealId otherChecks now =>
    (n.admission s request dealId otherChecks now).all fun pending =>
      s.admitted.all fun other =>
        (n.paymentHashes pending).all fun hash => !(n.paymentHashes other).contains hash
  | _ => true

variable {n} {s : LightningState}

theorem IsolationInv.bundleByDealHash (h : n.IsolationInv s)
    {deal : BuildLightningInvoiceBundleRequest} (hdeal : deal ∈ s.admitted)
    (hfound : s.bundleByDealHash deal.dealHash = some session) : n.Issues deal session := by
  obtain ⟨hmem, hhash⟩ := selectWhere_some hfound
  obtain ⟨other, hother, hissues⟩ := h.bundles session hmem
  have heq : other.dealHash = deal.dealHash := hissues.dealHash ▸ beq_iff_eq.mp hhash
  exact h.dealHashes other hother deal hdeal heq ▸ hissues

theorem IsolationInv.bundleBySession (h : n.IsolationInv s)
    {deal : BuildLightningInvoiceBundleRequest} (hdeal : deal ∈ s.admitted)
    (hfound : s.bundleBySession deal.sessionId = some session) : n.Issues deal session := by
  obtain ⟨hmem, hid⟩ := selectWhere_some hfound
  obtain ⟨other, hother, hissues⟩ := h.bundles session hmem
  have heq : other.sessionId = deal.sessionId := hissues.sessionId ▸ beq_iff_eq.mp hid
  exact h.sessionIds other hother deal hdeal heq ▸ hissues

theorem Issues.of_states {deal : BuildLightningInvoiceBundleRequest} (h : n.Issues deal session)
    (baseState successState : InvoiceBundleLegState) :
    n.Issues deal { session with baseState, successState } :=
  { h with }

section

variable (h : n.IsolationInv s)
include h

theorem IsolationInv.setBundles {bundles : List LightningInvoiceBundleSession}
    (hbundles : ∀ session ∈ bundles, ∃ deal ∈ s.admitted, n.Issues deal session) :
    n.IsolationInv { s with bundles } :=
  { h with bundles := hbundles }

theorem IsolationInv.setTasks {tasks : List LightningTask}
    (htasks : ∀ task ∈ tasks, ∃ deal ∈ s.admitted,
      deal.sessionId = task.dealId ∧ n.Keeps deal task.rest (fun _ => True)) :
    n.IsolationInv { s with tasks } :=
  { h with tasks := htasks }

theorem IsolationInv.setInvoices
    {deal : BuildLightningInvoiceBundleRequest} (hdeal : deal ∈ s.admitted)
    (hhash : paymentHash ∈ n.paymentHashes deal) {invoices : List LndInvoice}
    (hstep : WalletStep deal.sessionId paymentHash s.invoices invoices) :
    n.IsolationInv { s with invoices } := by
  refine { h with invoices := fun invoice hmem => ?_ }
  rcases hstep.origin invoice hmem with ⟨before, hbefore, hsame, hfor⟩ | ⟨hsame, hfor⟩
  · rw [← hsame, ← hfor]
    exact h.invoices before hbefore
  · exact ⟨deal, hdeal, hfor.symm, hsame ▸ hhash⟩

theorem IsolationInv.updateStates (sessionId : String)
    (baseState successState : InvoiceBundleLegState) :
    n.IsolationInv { s with bundles :=
      updateLightningInvoiceBundleStates sessionId baseState successState s.bundles } := by
  refine h.setBundles fun session hmem => ?_
  obtain ⟨before, hbefore, rfl⟩ := mem_updateWhere.mp hmem
  obtain ⟨deal, hdeal, hissues⟩ := h.bundles before hbefore
  refine ⟨deal, hdeal, ?_⟩
  split
  · exact hissues.of_states _ _
  · exact hissues

end

structure CallSpec (s : LightningState) (deal : BuildLightningInvoiceBundleRequest)
    (c : LightningCall) (result : c.Answer × LightningState) : Prop where
  answer : n.MayAnswer deal c result.1
  inv : n.IsolationInv result.2
  admitted : result.2.admitted = s.admitted
  others : ∀ hash, hash ∉ n.paymentHashes deal →
    LndWallet.lookup result.2.invoices hash = LndWallet.lookup s.invoices hash

variable {deal : BuildLightningInvoiceBundleRequest}

theorem callSpec_of_wallet (h : n.IsolationInv s) (hdeal : deal ∈ s.admitted)
    {answer : c.Answer} (hanswer : n.MayAnswer deal c answer)
    (hhash : paymentHash ∈ n.paymentHashes deal) {invoices : List LndInvoice}
    (hstep : WalletStep deal.sessionId paymentHash s.invoices invoices) :
    n.CallSpec s deal c (answer, { s with invoices }) where
  answer := hanswer
  inv := h.setInvoices hdeal hhash hstep
  admitted := rfl
  others hash hnot := hstep.others hash fun heq => hnot (heq ▸ hhash)

theorem callSpec_of_unchanged (h : n.IsolationInv s) {answer : c.Answer}
    (hanswer : n.MayAnswer deal c answer) : n.CallSpec s deal c (answer, s) :=
  ⟨hanswer, h, rfl, fun _ _ => rfl⟩

/-- One call of a deal, whatever happens to it. -/
theorem callSpec_perform (h : n.IsolationInv s) (hdeal : deal ∈ s.admitted) (outcome : CallOutcome)
    (hallows : n.Allows deal c) : n.CallSpec s deal c (n.perform outcome deal.sessionId s c) := by
  cases c with
  | destinationIdentity => exact callSpec_of_unchanged h trivial
  | addHoldInvoice paymentHash =>
    exact callSpec_of_wallet (c := .addHoldInvoice paymentHash) h hdeal trivial hallows
      ((WalletStep.addHoldInvoice _ _).deliver outcome)
  | lookupInvoice paymentHash =>
    exact callSpec_of_unchanged (c := .lookupInvoice paymentHash) h trivial
  | settleInvoice preimageHex =>
    obtain ⟨paymentHash, hmem, hkey⟩ : ∃ paymentHash ∈ n.paymentHashes deal,
        ∀ hash, n.preimageHash preimageHex = some hash → hash = paymentHash := by
      cases hhash : n.preimageHash preimageHex with
      | none => exact ⟨_, successPaymentHash_mem, fun _ => nofun⟩
      | some hash => exact ⟨hash, hallows hash hhash, fun _ heq => (Option.some.inj heq).symm⟩
    exact callSpec_of_wallet (c := .settleInvoice preimageHex) h hdeal trivial hmem
      ((WalletStep.settleInvoice hkey _).deliver outcome)
  | cancelInvoice paymentHash =>
    exact callSpec_of_wallet (c := .cancelInvoice paymentHash) h hdeal trivial hallows
      ((WalletStep.cancelInvoice _).deliver outcome)
  | bundleByDealHash dealHash =>
    refine callSpec_of_unchanged (c := .bundleByDealHash dealHash) h fun session hfound => ?_
    obtain rfl : dealHash = deal.dealHash := hallows
    obtain ⟨_, -, hrow⟩ := map_eq_ok.mp hfound
    exact h.bundleByDealHash hdeal hrow
  | updateStates sessionId baseState successState =>
    obtain rfl : sessionId = deal.sessionId := hallows
    unfold perform
    cases outcome.database with
    | error error => exact callSpec_of_unchanged (c := .updateStates _ _ _) h fun _ => nofun
    | ok =>
      have hinv := h.updateStates deal.sessionId baseState successState
      refine ⟨fun session hfound => ?_, hinv, rfl, fun _ _ => rfl⟩
      exact hinv.bundleBySession hdeal (Except.ok.inj hfound)
  | persistBundle session =>
    unfold perform
    cases outcome.database with
    | error error => exact callSpec_of_unchanged (c := .persistBundle _) h trivial
    | ok =>
      dsimp only
      split
      · refine ⟨trivial, h.setBundles fun row hmem => ?_, rfl, fun _ _ => rfl⟩
        rcases mem_concat.mp hmem with hmem | rfl
        · exact h.bundles row (mem_deleteWhere.mp hmem).1
        · exact ⟨deal, hdeal, hallows⟩
      · exact callSpec_of_unchanged (c := .persistBundle _) h trivial
  | renewClaim => exact callSpec_of_unchanged (c := .renewClaim) h trivial
  | clock => exact callSpec_of_unchanged (c := .clock) h trivial

/-! ## Steps -/

theorem IsolationInv.createDeal (h : n.IsolationInv s) {request : CreateDealRequest}
    {otherChecks : Except String Unit} {now : ℤ} {pending : BuildLightningInvoiceBundleRequest}
    (hadmitted : n.admission s request dealId otherChecks now = some pending)
    (hfresh : n.freshHashes s (.createDeal request dealId otherChecks now) = true) :
    n.IsolationInv { s with admitted := s.admitted ++ [pending] } := by
  have hnew : ∀ other ∈ s.admitted,
      other.sessionId ≠ pending.sessionId ∧ other.dealHash ≠ pending.dealHash := by
    unfold admission at hadmitted
    split at hadmitted
    case h_1 => cases hadmitted
    case h_2 rail totalSats hchecked =>
      split at hadmitted
      case h_2 => cases hadmitted
      case h_1 pending' hpending =>
        split at hadmitted
        case isTrue => cases hadmitted
        case isFalse hnone =>
          cases hadmitted
          simpa using hnone
  have hdisjoint : ∀ other ∈ s.admitted, ∀ hash ∈ n.paymentHashes pending,
      hash ∉ n.paymentHashes other := by
    simpa [freshHashes, hadmitted] using hfresh
  -- a relation that holds between the old deals, and never between an old one and the new
  have hextend : ∀ {R : BuildLightningInvoiceBundleRequest →
      BuildLightningInvoiceBundleRequest → Prop},
      (∀ deal ∈ s.admitted, ∀ other ∈ s.admitted, R deal other → deal = other) →
      (∀ other ∈ s.admitted, ¬ R other pending ∧ ¬ R pending other) →
      ∀ deal ∈ s.admitted ++ [pending], ∀ other ∈ s.admitted ++ [pending],
        R deal other → deal = other := by
    intro R hold hno deal hdeal other hother hR
    simp only [mem_append, mem_singleton] at hdeal hother
    rcases hdeal with hdeal | rfl
    · rcases hother with hother | rfl
      · exact hold deal hdeal other hother hR
      · exact absurd hR (hno deal hdeal).1
    · rcases hother with hother | rfl
      · exact absurd hR (hno other hother).2
      · rfl
  have hmono : ∀ {Q : BuildLightningInvoiceBundleRequest → Prop},
      (∃ deal ∈ s.admitted, Q deal) → ∃ deal ∈ s.admitted ++ [pending], Q deal :=
    fun ⟨deal, hdeal, hQ⟩ => ⟨deal, mem_append_left _ hdeal, hQ⟩
  refine ⟨fun invoice hmem => hmono (h.invoices invoice hmem),
    fun session hmem => hmono (h.bundles session hmem),
    fun task hmem => hmono (h.tasks task hmem), ?_, ?_, ?_⟩
  · exact hextend h.sessionIds fun other hother =>
      ⟨(hnew other hother).1, fun heq => (hnew other hother).1 heq.symm⟩
  · exact hextend h.dealHashes fun other hother =>
      ⟨(hnew other hother).2, fun heq => (hnew other hother).2 heq.symm⟩
  · intro deal hdeal other hother hash hhash hhash'
    refine hextend (R := fun deal other => ∃ hash, hash ∈ n.paymentHashes deal
      ∧ hash ∈ n.paymentHashes other) ?_ ?_ deal hdeal other hother ⟨hash, hhash, hhash'⟩
    · rintro deal hdeal other hother ⟨hash, hhash, hhash'⟩
      exact h.disjoint deal hdeal other hother hash hhash hhash'
    · exact fun other hother => ⟨fun ⟨hash, hold, hnew⟩ => hdisjoint other hother hash hnew hold,
        fun ⟨hash, hnew, hold⟩ => hdisjoint other hother hash hnew hold⟩

theorem IsolationInv.perform (h : n.IsolationInv s) {i : ℕ} {task : LightningTask}
    (htask : s.tasks[i]? = some task) {next : c.Answer → LightningProg Unit}
    (hcall : task.rest = .call c next) (outcome : CallOutcome) :
    n.IsolationInv (n.step s (.perform i outcome))
    ∧ ∃ deal ∈ s.admitted, deal.sessionId = task.dealId ∧ ∀ hash, hash ∉ n.paymentHashes deal →
        LndWallet.lookup (n.step s (.perform i outcome)).invoices hash
          = LndWallet.lookup s.invoices hash := by
  obtain ⟨deal, hdeal, hid, hkeeps⟩ := h.tasks task (mem_of_getElem? htask)
  rw [hcall] at hkeeps
  have hspec := callSpec_perform h hdeal outcome hkeeps.1
  rw [hid] at hspec
  have hstep : n.step s (.perform i outcome)
      = { (n.perform outcome task.dealId s c).2 with
          tasks := s.tasks.set i
            { task with rest := next (n.perform outcome task.dealId s c).1 } } := by
    unfold step
    simp only [htask, hcall]
  rw [hstep]
  refine ⟨hspec.inv.setTasks fun other hmem => ?_, deal, hdeal, hid, hspec.others⟩
  rw [hspec.admitted]
  rcases mem_or_eq_of_mem_set hmem with hmem | rfl
  · exact h.tasks other hmem
  · exact ⟨deal, hdeal, hid, hkeeps.2 _ hspec.answer⟩

/-- A step keeps the invariant, if a new deal brings new hashes. -/
theorem IsolationInv.step (h : n.IsolationInv s) {a : LightningAction}
    (hfresh : n.freshHashes s a = true) : n.IsolationInv (n.step s a) := by
  cases a with
  | createDeal request dealId otherChecks now =>
    unfold LndNode.step
    dsimp only
    split
    · exact h
    · rename_i pending hadmitted
      exact h.createDeal hadmitted hfresh
  | start dealId job =>
    unfold LndNode.step
    dsimp only
    split
    · exact h
    · rename_i request hdeal
      obtain ⟨hmem, hid⟩ := selectWhere_some hdeal
      refine h.setTasks fun task htask => ?_
      rcases mem_concat.mp htask with htask | rfl
      · exact h.tasks task htask
      · exact ⟨request, hmem, beq_iff_eq.mp hid, keeps_start job⟩
  | perform i outcome =>
    cases htask : s.tasks[i]? with
    | none =>
      unfold LndNode.step
      simpa only [htask] using h
    | some task =>
      cases hrest : task.rest with
      | call c next => exact (h.perform htask hrest outcome).1
      | ret _ | fail _ =>
        unfold LndNode.step
        simp only [htask, hrest]
        exact h.setTasks fun task hmem => h.tasks task (mem_of_mem_eraseIdx hmem)
  | pay paymentHash state =>
    refine { h with invoices := fun invoice hmem => ?_ }
    obtain ⟨before, hbefore, rfl⟩ := mem_updateWhere.mp hmem
    have hinvoice := h.invoices before hbefore
    split <;> exact hinvoice
  | restart => exact h.setTasks fun _ hmem => nomatch hmem

variable (n)

theorem isolationInv_of_admissible {as : List LightningAction}
    (h : n.machine.Admissible (fun s a => n.freshHashes s a = true) n.machine.init as) :
    n.IsolationInv (n.machine.run as) := by
  refine n.machine.invariant_of_admissible (fun s a hs hok => hs.step hok) as _ ?_ h
  constructor <;> exact fun _ hmem => nomatch hmem

end LndNode

/-! ## Isolation -/

def LightningAction.performedFor (s : LightningState) : LightningAction → Option String
  | .perform i _ => s.tasks[i]?.map (·.dealId)
  | _ => none

def LeavesOtherDeals (dealId : String) (s s' : LightningState) : Prop :=
  ∀ paymentHash invoice, LndWallet.lookup s.invoices paymentHash = some invoice →
    invoice.issuedFor ≠ dealId → LndWallet.lookup s'.invoices paymentHash = some invoice

theorem LndNode.IsolationInv.leavesOtherDeals {n : LndNode P} {s : LightningState}
    (h : n.IsolationInv s) {a : LightningAction} (hfor : a.performedFor s = some dealId) :
    LeavesOtherDeals dealId s (n.step s a) := by
  intro paymentHash invoice hfound hother
  cases a with
  | perform i outcome =>
    obtain ⟨task, htask, rfl⟩ := Option.map_eq_some_iff.mp hfor
    cases hrest : task.rest with
    | ret _ | fail _ =>
      unfold LndNode.step
      simpa only [htask, hrest] using hfound
    | call c next =>
      obtain ⟨-, deal, hdeal, hid, hothers⟩ := h.perform htask hrest outcome
      rw [hothers paymentHash, hfound]
      intro hmem
      -- the hash would be one of both deals, and the two deals one
      obtain ⟨hinvoice, hhash⟩ := selectWhere_some hfound
      obtain ⟨owner, howner, hissued, howns⟩ := h.invoices invoice hinvoice
      rw [beq_iff_eq.mp hhash] at howns
      obtain rfl := h.disjoint owner howner deal hdeal paymentHash howns hmem
      exact hother (hissued.symm.trans hid)
  | createDeal | start | pay | restart => cases hfor

/-- **Deals are isolated.** In a run in which every deal brought payment hashes of its
own, no step that is performed for a deal – of its materialization, the clean-up
after it, a cancellation, a settlement or a recovery, with every call answered,
refused or lost – changes an invoice that was issued for another deal. -/
theorem deals_isolated (n : LndNode P) (as : List LightningAction)
    (hfresh : n.machine.Admissible (fun s a => n.freshHashes s a = true) n.machine.init as)
    (a : LightningAction) (dealId : String)
    (hfor : a.performedFor (n.machine.run as) = some dealId) :
    LeavesOtherDeals dealId (n.machine.run as) (n.step (n.machine.run as) a) :=
  (n.isolationInv_of_admissible hfresh).leavesOtherDeals hfor

/-! ## Two deals -/

def sampleOtherHash : String := "00000000000000000000000000000000000000000000000000000000000000bb"

def sampleNamedRequester (document : Json) : String :=
  let fields := match document with
    | .obj fields => fields
    | .arr items => match items.getLast? with
      | some (.obj fields) => fields
      | _ => []
    | _ => []
  match fields.lookup "requester_id" with
  | some (.str requester) => requester
  | _ => ""

def sampleTwoPrimitives : Primitives where
  sha256Hex bytes := if bytes == textBytes "q" then sampleOtherHash else sampleHash
  canonicalJson document := .ok (textBytes (sampleNamedRequester document))
  verifyMessage _ _ _ := true

def sampleTwoNode : LndNode sampleTwoPrimitives where
  identity := { nodeId := "p", signMessageHex := fun _ => "sig", verifies := fun _ => rfl }
  keyedHmacHex _ := "aa"
  config := sampleLndConfig 60
  parser := sampleBolt11Parser 61

def sampleHashedRequest (requester hash successPaymentHash : String) : CreateDealRequest :=
  let quote := { sampleHoldQuote with
    payloadHash := hash, hash
    payload := { sampleHoldQuote.payload with requesterId := requester } }
  let deal := sampleHoldDeal none
  { sampleHoldRequest with
    quote
    deal := { deal with
      signer := requester, payloadHash := hash, hash
      payload := { deal.payload with
        requesterId := requester, quoteHash := hash, successPaymentHash } } }

def sampleAnswered : CallOutcome :=
  { arrives := true, returns := true, error := .backend "", bolt11 := "lnbc"
    destination := .ok samplePayee, database := .ok (), disposition := .persisted
    renewed := true, now := 0 }

def sampleRecoveryRun (successPaymentHash : String) : List LightningAction :=
  [.createDeal (sampleHashedRequest "r" sampleHash sampleHash) "a" (.ok ()) 0,
    .start "a" .materialize, .perform 0 sampleAnswered, .perform 0 sampleAnswered,
    .perform 0 sampleAnswered, .pay sampleHash .accepted,
    .createDeal (sampleHashedRequest "q" sampleOtherHash successPaymentHash) "b" (.ok ()) 0,
    .start "b" .cancelPending]

def sampleRecoveryState (successPaymentHash : String) : LightningState :=
  sampleTwoNode.machine.run (sampleRecoveryRun successPaymentHash)

theorem deals_isolated_other_hash :
    LeavesOtherDeals "b" (sampleRecoveryState sampleOtherHash)
      (sampleTwoNode.step (sampleRecoveryState sampleOtherHash) (.perform 1 sampleAnswered))
    ∧ LndWallet.lookup (sampleRecoveryState sampleOtherHash).invoices sampleHash
      = some { paymentHash := sampleHash, issuedFor := "a", state := .accepted } := by
  have hrun : sampleTwoNode.machine.Admissible
        (fun s a => sampleTwoNode.freshHashes s a = true) sampleTwoNode.machine.init
        (sampleRecoveryRun sampleOtherHash)
      ∧ LightningAction.performedFor (sampleRecoveryState sampleOtherHash)
        (.perform 1 sampleAnswered) = some "b"
      ∧ LndWallet.lookup (sampleRecoveryState sampleOtherHash).invoices sampleHash
        = some { paymentHash := sampleHash, issuedFor := "a", state := .accepted } := by
    decide +kernel
  exact ⟨deals_isolated sampleTwoNode _ hrun.1 _ _ hrun.2.1, hrun.2.2⟩

/-- **A recovery cancels the invoice of another deal.** Both deals are admitted with
one success hash. The payment held for the first is canceled by a step performed for
the second, which never had an invoice. -/
theorem recovery_cancels_other_deal :
    (sampleRecoveryState sampleHash).admitted.map (·.sessionId) = ["a", "b"]
    ∧ LightningAction.performedFor (sampleRecoveryState sampleHash) (.perform 1 sampleAnswered)
      = some "b" ∧ LndWallet.lookup (sampleRecoveryState sampleHash).invoices sampleHash
      = some { paymentHash := sampleHash, issuedFor := "a", state := .accepted }
    ∧ LndWallet.lookup (sampleTwoNode.step (sampleRecoveryState sampleHash)
        (.perform 1 sampleAnswered)).invoices sampleHash
      = some { paymentHash := sampleHash, issuedFor := "a", state := .canceled }
    ∧ ¬ LeavesOtherDeals "b" (sampleRecoveryState sampleHash)
      (sampleTwoNode.step (sampleRecoveryState sampleHash) (.perform 1 sampleAnswered)) := by
  have hrun : (sampleRecoveryState sampleHash).admitted.map (·.sessionId) = ["a", "b"]
      ∧ LightningAction.performedFor (sampleRecoveryState sampleHash) (.perform 1 sampleAnswered)
        = some "b"
      ∧ LndWallet.lookup (sampleRecoveryState sampleHash).invoices sampleHash
        = some { paymentHash := sampleHash, issuedFor := "a", state := .accepted }
      ∧ LndWallet.lookup (sampleTwoNode.step (sampleRecoveryState sampleHash)
          (.perform 1 sampleAnswered)).invoices sampleHash
        = some { paymentHash := sampleHash, issuedFor := "a", state := .canceled } := by
    decide +kernel
  obtain ⟨hadmitted, hfor, hbefore, hafter⟩ := hrun
  refine ⟨hadmitted, hfor, hbefore, hafter, fun hleaves => ?_⟩
  have hsame := hleaves sampleHash _ hbefore (by decide)
  rw [hafter] at hsame
  exact absurd hsame (by decide)

end Froglet
