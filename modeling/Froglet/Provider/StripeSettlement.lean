import Froglet.Provider.Outbox
import Froglet.Provider.StripeDeals

/-!
# The provider and Stripe

The provider next to Stripe, which creates PaymentIntents, moves each of them at most
once – to captured or to canceled, asked or not – and answers what became of it.
-/

namespace Froglet

open List Option Table

variable {P : Primitives} {a : ProviderAction} {dealId id token : String} {p : ProviderState}
variable {row : StoredDeal}
variable {r : SignedReceipt} {deal : StoredDeal}
variable {record : StripeSettlementOutboxRecord} {row' : StoredDeal}
variable {call : DealCall} {finishedAt : ℤ} {spec : ReceiptSignSpec}
variable {row' : StoredDeal}

/-! ## Stripe -/

inductive StripeOrder where
  | capture
  | cancel

def StripeSettlementOutboxDetails.order : StripeSettlementOutboxDetails → StripeOrder
  | succeeded .. => .capture
  | failed _ => .cancel

structure PaymentIntent where
  (id requestId : String)
  authorised : Bool
  outcome : Option PaymentReservationState
deriving DecidableEq

def isPaymentIntentId (id : String) : Bool := "pi_".toList.isPrefixOf id.toList

inductive StripeEvent where
  | staged (dealId intent : String) (order : StripeOrder)
  | issued (intent : String) (order : StripeOrder)

structure WrittenReceipt where
  dealId : String
  intent : Option String
  receipt : SignedReceipt
  outcome : Option PaymentReservationState
variable {w : WrittenReceipt}

structure StripeState where
  provider : ProviderState
  intents : List PaymentIntent
  answers : List (String × PaymentReservationState)
  obsolete : List (String × String)
  events : List StripeEvent
  written : List WrittenReceipt

inductive StripeAction where
  | provider (a : ProviderAction)
  | createPaymentIntent (id requestId : String) (authorised : Bool)
  | settle (id : String) (outcome : PaymentReservationState)
  | answer (id : String)
  | issueRecord (record : StripeSettlementOutboxRecord) (deal : StoredDeal)
  | releaseRecovered (dealId : String) (now : ℤ)
  | releaseObsolete (dealId id : String)
  | releaseUnauthorised (id : String)

namespace StripeState

def outcomeOf (s : StripeState) (id : String) : Option PaymentReservationState :=
  (selectWhere (·.id == id) s.intents).bind (·.outcome)

def backs (s : StripeState) : ProviderAction → Bool
  | .prepareStripePayment record _ answer _ =>
    match record.request, answer with
    | .stripePayment _ _ requestId, .paymentIntent id status => s.intents.any fun intent =>
        intent.id == id && intent.requestId == requestId
          && (status == "requires_capture") == intent.authorised
    | .stripePayment _ payment _, .verified => !isPaymentIntentId payment.token
    | _, _ => true
  | .reconcileStripeSettlementRecord _ deal state _ _ =>
    deal.paymentTokenHash.all fun token => decide ((token, state) ∈ s.answers)
  | .recoverRuntimeStateLocal plan _ => plan.all fun item =>
      item.deal.paymentMethod != some .stripe || !item.answers.stripeReleased.passes
        || item.deal.paymentTokenHash.all fun token => decide ((token, .released) ∈ s.answers)
  | _ => true

def issue (s : StripeState) (id : String) (order : StripeOrder) : StripeState :=
  { s with events := s.events ++ [.issued id order] }

end StripeState

section Machine

variable (env : ProviderEnv P)

def stagedBy (s : ProviderState) (a : ProviderAction) : List StripeEvent :=
  (a.effects env s).filterMap fun
    | .insertOutbox record =>
      ((getDeal s.store.deals record.dealId).bind (·.paymentTokenHash)).map
        fun token => .staged record.dealId token record.details.order
    | _ => none

def obsoleteBy (s : ProviderState) (a : ProviderAction) : List (String × String) :=
  (a.effects env s).filterMap fun
    | .setResource dealId .cleanupPending resource => some (dealId, resource.paymentIntentId)
    | _ => none

def StripeState.newReceipt (s : StripeState) (row' : StoredDeal) : Option WrittenReceipt :=
  if row'.paymentMethod == some .stripe
      && !s.provider.store.deals.any (fun row =>
        row.dealId == row'.dealId && row.receipt.isSome) then
    row'.receipt.map fun receipt =>
      { dealId := row'.dealId, intent := row'.paymentTokenHash, receipt
        outcome := row'.paymentTokenHash.bind s.outcomeOf }
  else none

def StripeState.writtenBy (s : StripeState) (a : ProviderAction) : List WrittenReceipt :=
  (providerStep env s.provider a).store.deals.filterMap s.newReceipt

def StripeState.afterProvider (s : StripeState) (a : ProviderAction) : StripeState :=
  { s with
    provider := providerStep env s.provider a
    obsolete := s.obsolete ++ obsoleteBy env s.provider a
    events := s.events ++ stagedBy env s.provider a
    written := s.written ++ s.writtenBy env a }

def stripeStep (s : StripeState) : StripeAction → StripeState
  | .provider a => if s.backs a then s.afterProvider env a else s
  | .createPaymentIntent id requestId authorised =>
    if isPaymentIntentId id && !s.intents.any (·.id == id) then
      { s with intents := s.intents ++ [{ id, requestId, authorised, outcome := none }] }
    else s
  | .settle id outcome =>
    { s with intents :=
        (updateWhere (fun intent => intent.id == id && intent.outcome.isNone)
          ({ · with outcome := some outcome }) s.intents) }
  | .answer id =>
    match s.outcomeOf id with
    | some outcome => { s with answers := s.answers ++ [(id, outcome)] }
    | none => s
  | .issueRecord record deal =>
    match deal.paymentTokenHash with
    | some token =>
      if .outbox record ∈ s.provider.held ∧ .deal deal ∈ s.provider.held
          ∧ deal.dealId = record.dealId ∧ deal.paymentMethod = some .stripe then
        s.issue token record.details.order
      else s
    | none => s
  | .releaseRecovered dealId now =>
    match getDeal s.provider.store.deals dealId with
    | some row =>
      match row.paymentTokenHash with
      | some token =>
        if s.provider.phase = .starting ∧ row.paymentMethod = some .stripe
            ∧ row.status.isTerminal = false
            ∧ s.provider.outbox.any (·.dealId == dealId) = false
            ∧ row.artifact.payload.completionDeadline < now then
          s.issue token .cancel
        else s
      | none => s
    | none => s
  | .releaseObsolete dealId id => if (dealId, id) ∈ s.obsolete then s.issue id .cancel else s
  | .releaseUnauthorised id =>
    if s.intents.any fun intent => intent.id == id && !intent.authorised then s.issue id .cancel
    else s

def stripeMachine : Machine StripeState StripeAction where
  init := { provider := (providerMachine env).init, intents := [], answers := [], obsolete := []
            events := [], written := [] }
  step := stripeStep env

end Machine

/-! ## The two properties -/

def StripeState.OneSided (s : StripeState) : Prop :=
  ∀ intent ∈ s.intents, s.events.Pairwise fun earlier later => ∀ dealId order order',
    earlier = .staged dealId intent.id order → later = .issued intent.id order' → order' = order

def StateAgrees (settlementState : String) (outcome : Option PaymentReservationState) : Prop :=
  (settlementState = "settled" ↔ outcome = some .committed)
    ∧ (settlementState = "canceled" ↔ outcome = some .released)

def WrittenReceipt.Agrees (w : WrittenReceipt) : Prop :=
  StateAgrees w.receipt.payload.settlementState w.outcome

def StripeState.Consistent (s : StripeState) : Prop :=
  ∀ row ∈ s.provider.store.deals, row.paymentMethod = some .stripe → ∀ intent ∈ s.intents,
    row.paymentTokenHash = some intent.id → row.status.isTerminal = true →
      ∃ w, s.written.filter (·.dealId == row.dealId) = [w] ∧ row.receipt = some w.receipt
        ∧ w.intent = some intent.id ∧ w.Agrees

def RejectsPending (s : StripeState) : StripeAction → Prop
  | .provider (.rejectDealBeforeExecution _ deal _ _ _ _) =>
    deal.paymentMethod = some .stripe → ∀ token, deal.paymentTokenHash = some token →
      s.outcomeOf token = none
  | _ => True

/-! ## What Stripe keeps -/

def StripeState.own (s : StripeState) (dealId token : String) : Prop :=
  isPaymentIntentId token = true →
    ∃ intent ∈ s.intents, intent.id = token ∧ intent.requestId = dealId ∧ intent.authorised = true

/-- The PaymentIntents and the answers. -/
structure IntentsInv (s : StripeState) : Prop where
  ids : Table.Unique (some ·.id) s.intents
  shaped : ∀ intent ∈ s.intents, isPaymentIntentId intent.id = true
  answered : ∀ p ∈ s.answers, ∃ intent ∈ s.intents, intent.id = p.1 ∧ intent.outcome = some p.2

theorem IntentsInv.outcomeOf_eq {s : StripeState} (h : IntentsInv s) {intent : PaymentIntent}
    (hmem : intent ∈ s.intents) : s.outcomeOf intent.id = intent.outcome := by
  unfold StripeState.outcomeOf
  rw [h.ids.selectWhere_of_mem hmem (fun intent' => by simp) rfl]
  rfl

theorem IntentsInv.owner_eq {s : StripeState} (h : IntentsInv s) {dealId' : String}
    (hpi : isPaymentIntentId token = true) (hown : s.own dealId token)
    (hown' : s.own dealId' token) : dealId = dealId' := by
  obtain ⟨intent, hmem, hid, rfl, -⟩ := hown hpi
  obtain ⟨intent', hmem', hid', rfl, -⟩ := hown' hpi
  rw [h.ids.eq_of_mem hmem hmem' (congrArg some hid) (congrArg some hid')]

/-! ## Orders -/

def DealStatus.isPast : DealStatus → Bool
  | paymentPending | accepted | running => false
  | _ => true

theorem RowStep.past (h : RowStep call row row') (hpast : row.status.isPast = true) :
    row'.status.isPast = true ∧ row'.paymentTokenHash = row.paymentTokenHash := by
  constructor
  · obtain hsame | hbecome := h.canBecome
    · rw [hsame, hpast]
    · revert hpast hbecome
      cases row.status <;> cases row'.status <;> decide
  · refine (h.noPayment ?_).1
    by_contra hpay
    rw [pending_of_payment h.target hpay] at hpast
    cases hpast

theorem RowStep.token_of_ne_pending
    (h : RowStep call row row') (hstatus : row.status ≠ .paymentPending) :
    row'.status ≠ .paymentPending ∧ row'.paymentTokenHash = row.paymentTokenHash := by
  refine ⟨fun hpending => hstatus (h.pending_of_pending hpending), (h.noPayment ?_).1⟩
  by_contra hpay
  exact hstatus (pending_of_payment h.target hpay)

def ProviderState.Admitted (s : ProviderState) (dealId : String) : Prop :=
  ∃ row ∈ s.store.admitted, row.dealId = dealId

structure StripeState.StagedFits (s : StripeState) (dealId token : String) (order : StripeOrder) :
    Prop where
  own : s.own dealId token
  admitted : s.provider.Admitted dealId
  rows : ∀ row ∈ s.provider.store.deals, row.dealId = dealId →
    row.paymentTokenHash = some token ∧ row.status.isPast = true
  once : ∀ token' order', .staged dealId token' order' ∈ s.events → order' = order

structure StripeState.ObsoleteFits (s : StripeState) (dealId token : String) : Prop where
  own : s.own dealId token
  admitted : s.provider.Admitted dealId
  rows : ∀ row ∈ s.provider.store.deals, row.dealId = dealId →
    row.status ≠ .paymentPending ∧ row.paymentTokenHash ≠ some token
  unstaged : ∀ order, .staged dealId token order ∉ s.events

structure StripeInv (env : ProviderEnv P) (s : StripeState) : Prop where
  provider : ProviderInv env s.provider
  outbox : OutboxInv s.provider
  tokens : TokensInv s.own s.provider
  intents : IntentsInv s
  staged : ∀ dealId token order, .staged dealId token order ∈ s.events →
    s.StagedFits dealId token order
  recorded : ∀ record, record ∈ s.provider.outbox ∨ .outbox record ∈ s.provider.log →
    ∃ token, .staged record.dealId token record.details.order ∈ s.events
  obsolete : ∀ dealId token, (dealId, token) ∈ s.obsolete → s.ObsoleteFits dealId token
  sided : s.events.Pairwise fun earlier later => ∀ dealId token order order',
    isPaymentIntentId token = true → earlier = .staged dealId token order →
      later = .issued token order' → order' = order

section Orders

variable {env : ProviderEnv P} {s : StripeState}

theorem StripeInv.oneSided (h : StripeInv env s) : s.OneSided := by
  intro intent hintent
  refine h.sided.imp fun hpair dealId order order' hstaged hissued => ?_
  exact hpair dealId intent.id order order' (h.intents.shaped intent hintent) hstaged hissued

theorem stripeInv_init : StripeInv env (stripeMachine env).init where
  provider := providerInv_init
  outbox := forall_mem_nil _
  tokens := ⟨forall_mem_nil _, forall_mem_nil _, forall_mem_nil _, forall_mem_nil _⟩
  intents := ⟨unique_nil _, forall_mem_nil _, forall_mem_nil _⟩
  staged _ _ _ h := nomatch h
  recorded _ h := h.elim (fun h => nomatch h) (fun h => nomatch h)
  obsolete _ _ h := nomatch h
  sided := Pairwise.nil

/-! ### Stripe moves -/

section

variable (h : StripeInv env s)
include h

theorem StripeInv.of_intents (intents : List PaymentIntent)
    (answers : List (String × PaymentReservationState))
    (hintents : IntentsInv { s with intents, answers }) (hown : ∀ dealId token, s.own dealId token →
      StripeState.own { s with intents, answers } dealId token) :
    StripeInv env { s with intents, answers } :=
  { h with
    tokens := h.tokens.mono hown, intents := hintents
    staged := fun dealId token order hmem =>
      have hfits := h.staged dealId token order hmem
      { hfits with own := hown _ _ hfits.own }
    obsolete := fun dealId token hmem =>
      have hfits := h.obsolete dealId token hmem
      { hfits with own := hown _ _ hfits.own } }

theorem StripeInv.createPaymentIntent (requestId : String) (authorised : Bool)
    (hpi : isPaymentIntentId id = true) (hfresh : s.intents.any (·.id == id) = false) :
    StripeInv env { s with
      intents := s.intents ++ [{ id, requestId, authorised, outcome := none }] } := by
  have hnew : ∀ intent ∈ s.intents, intent.id ≠ id := fun intent hmem heq =>
    Bool.false_ne_true (hfresh.symm.trans (any_eq_true.mpr ⟨intent, hmem, beq_iff_eq.mpr heq⟩))
  refine h.of_intents _ s.answers ⟨?_, fun intent hmem => ?_, fun p hp => ?_⟩
    fun dealId token hown htoken => ?_
  · refine h.intents.ids.concat (fun intent hmem k hk hk' => hnew intent hmem ?_)
    exact some.inj (hk.trans hk'.symm)
  · rcases mem_concat.mp hmem with hmem | hmem
    · exact h.intents.shaped intent hmem
    · rw [hmem]
      exact hpi
  · obtain ⟨intent, hmem, hanswer⟩ := h.intents.answered p hp
    exact ⟨intent, mem_append_left _ hmem, hanswer⟩
  · obtain ⟨intent, hmem, howner⟩ := hown htoken
    exact ⟨intent, mem_append_left _ hmem, howner⟩

theorem StripeInv.settle (id : String) (outcome : PaymentReservationState) :
    StripeInv env (stripeStep env s (.settle id outcome)) := by
  refine h.of_intents _ s.answers ⟨?_, fun intent hmem => ?_, fun p hp => ?_⟩
    fun dealId token hown htoken => ?_
  · exact h.intents.ids.updateWhere fun _ _ _ => rfl
  · obtain ⟨intent₀, hmem₀, rfl⟩ := mem_updateWhere.mp hmem
    split <;> exact h.intents.shaped intent₀ hmem₀
  · -- a PaymentIntent that was answered about does not move any more
    obtain ⟨intent, hmem, hid, houtcome⟩ := h.intents.answered p hp
    refine ⟨intent, mem_updateWhere.mpr ⟨intent, hmem, if_neg (fun hopen => ?_)⟩, hid, houtcome⟩
    rw [houtcome] at hopen
    exact absurd (Bool.and_eq_true_iff.mp hopen).2 Bool.false_ne_true
  · obtain ⟨intent, hmem, howner⟩ := hown htoken
    refine ⟨_, mem_updateWhere.mpr ⟨intent, hmem, rfl⟩, ?_⟩
    split <;> exact howner

theorem StripeInv.answer (id : String) : StripeInv env (stripeStep env s (.answer id)) := by
  dsimp only [stripeStep]
  split
  case h_2 => exact h
  case h_1 outcome houtcome =>
    refine h.of_intents s.intents _ ⟨h.intents.ids, h.intents.shaped, fun p hp => ?_⟩
      fun _ _ hown => hown
    rcases mem_concat.mp hp with hp | hp
    · exact h.intents.answered p hp
    · rw [hp]
      obtain ⟨intent, hfound, hsome⟩ := bind_eq_some_iff.mp houtcome
      obtain ⟨hmem, hid⟩ := selectWhere_some hfound
      exact ⟨intent, hmem, beq_iff_eq.mp hid, hsome⟩

end

/-! ### The provider sends an order -/

theorem mem_events_issue {order : StripeOrder} {order' : StripeOrder} :
    .staged dealId token order' ∈ (s.issue id order).events
      ↔ .staged dealId token order' ∈ s.events := by
  simp [StripeState.issue]

section

variable (h : StripeInv env s)
include h

theorem StripeInv.issue {order : StripeOrder}
    (horder : isPaymentIntentId id = true → ∀ dealId order',
      .staged dealId id order' ∈ s.events → order = order') : StripeInv env (s.issue id order) where
  provider := h.provider
  outbox := h.outbox
  tokens := h.tokens
  intents := { h.intents with }
  staged dealId token order' hmem := by
    have hfits := h.staged dealId token order' (mem_events_issue.mp hmem)
    exact { hfits with
      once := fun token'' order'' hmem' => hfits.once token'' order'' (mem_events_issue.mp hmem') }
  recorded record hrecord := by
    obtain ⟨token, hmem⟩ := h.recorded record hrecord
    exact ⟨token, mem_events_issue.mpr hmem⟩
  obsolete dealId token hmem := by
    have hfits := h.obsolete dealId token hmem
    exact { hfits with
      unstaged := fun order' hmem' => hfits.unstaged order' (mem_events_issue.mp hmem') }
  sided := by
    refine pairwise_append.mpr ⟨h.sided, pairwise_singleton _ _, ?_⟩
    intro earlier hearlier later hlater dealId token order₁ order₂ hpi hstaged hissued
    rw [mem_singleton.mp hlater] at hissued
    obtain ⟨rfl, rfl⟩ := StripeEvent.issued.inj hissued
    exact horder hpi dealId order₁ (hstaged ▸ hearlier)

theorem StripeInv.issueRecord (record : StripeSettlementOutboxRecord) (deal : StoredDeal) :
    StripeInv env (stripeStep env s (.issueRecord record deal)) := by
  dsimp only [stripeStep]
  split
  case h_2 => exact h
  case h_1 token htoken =>
    split
    case isFalse => exact h
    case isTrue hguard =>
      obtain ⟨hrecord, hdeal, hid, hstripe⟩ := hguard
      refine h.issue (fun hpi dealId order' hstaged => ?_)
      -- the PaymentIntent is that of the deal, for which one order was staged
      obtain ⟨hfits, -⟩ := h.tokens.log _ (h.provider.logged hdeal) hstripe
      obtain ⟨token', hmem⟩ := h.recorded record (.inr (h.provider.logged hrecord))
      have hsame := h.intents.owner_eq hpi (h.staged _ _ _ hstaged).own (hfits.owned token htoken)
      rw [hsame, hid] at hstaged
      exact (h.staged _ _ _ hstaged).once token' _ hmem

theorem StripeInv.releaseRecovered (dealId : String) (now : ℤ) :
    StripeInv env (stripeStep env s (.releaseRecovered dealId now)) := by
  dsimp only [stripeStep]
  split
  case h_2 => exact h
  case h_1 row hrow =>
    split
    case h_2 => exact h
    case h_1 token htoken =>
      split
      case isFalse => exact h
      case isTrue hguard =>
        obtain ⟨-, hstripe, hopen, houtbox, -⟩ := hguard
        obtain ⟨hmem, rfl⟩ := mem_of_getDeal hrow
        refine h.issue fun hpi dealId' order' hstaged => ?_
        have hfits := h.tokens.rows row hmem hstripe
        have hsame := h.intents.owner_eq hpi (h.staged _ _ _ hstaged).own (hfits.owned token htoken)
        rw [hsame] at hstaged
        have hpast := ((h.staged _ _ _ hstaged).rows row hmem rfl).2
        -- a deal that waits for Stripe has its record
        have hwaits : row.status.isStaged = true := by
          revert hpast hopen
          cases row.status <;> decide
        have hrail : row.paymentMethod ≠ some .lightning := by
          rw [hstripe]
          decide
        cases houtbox.symm.trans (h.outbox row hmem hrail hwaits)

theorem StripeInv.releaseObsolete (dealId id : String) :
    StripeInv env (stripeStep env s (.releaseObsolete dealId id)) := by
  dsimp only [stripeStep]
  split
  case isFalse => exact h
  case isTrue hobsolete =>
    have hfits := h.obsolete dealId id hobsolete
    refine h.issue fun hpi dealId' order' hstaged => ?_
    have hsame := h.intents.owner_eq hpi (h.staged _ _ _ hstaged).own hfits.own
    rw [hsame] at hstaged
    exact absurd hstaged (hfits.unstaged order')

theorem StripeInv.releaseUnauthorised (id : String) :
    StripeInv env (stripeStep env s (.releaseUnauthorised id)) := by
  dsimp only [stripeStep]
  split
  case isFalse => exact h
  case isTrue hguard =>
    obtain ⟨intent, hmem, hmatch⟩ := any_eq_true.mp hguard
    obtain ⟨hid, hunauthorised⟩ := Bool.and_eq_true_iff.mp hmatch
    refine h.issue fun hpi dealId' order' hstaged => ?_
    obtain ⟨intent', hmem', hid', -, hauthorised⟩ := (h.staged _ _ _ hstaged).own hpi
    rw [h.intents.ids.eq_of_mem hmem' hmem (congrArg some hid')
      (congrArg some (beq_iff_eq.mp hid))] at hauthorised
    rw [hauthorised] at hunauthorised
    cases hunauthorised

end

/-! ### The provider stages an order -/

theorem reserves_of_backs (config : NodeConfig) (h : s.backs a = true) :
    a.Reserves s.own config := by
  cases a with
  | prepareStripePayment record deal answer now =>
    intro priceSats payment reservation hrequest hprepare
    dsimp only [StripeState.backs] at h
    rw [hrequest] at h
    obtain ⟨-, -, rfl⟩ | ⟨-, -, rfl, htoken⟩ := answer_of_preparePaymentForAmount hprepare
    · obtain ⟨intent, hmem, hmatch⟩ := any_eq_true.mp h
      simp only [Bool.and_eq_true, beq_iff_eq] at hmatch
      obtain ⟨⟨hid, hrequestId⟩, hauthorised⟩ := hmatch
      exact fun _ => ⟨intent, hmem, hid, hrequestId, by simpa using hauthorised.symm⟩
    · intro hpi
      replace h : (!isPaymentIntentId payment.token) = true := h
      rw [← htoken, hpi] at h
      cases h
  | _ => exact trivial

structure Stages (env : ProviderEnv P) (p : ProviderState) (a : ProviderAction) (row : StoredDeal)
    (record : StripeSettlementOutboxRecord) (token : String) : Prop where
  mem : row ∈ p.store.deals
  dealId : row.dealId = record.dealId
  stripe : row.paymentMethod = some .stripe
  running : row.status = .running
  hasToken : row.paymentTokenHash = some token
  events : stagedBy env p a = [.staged record.dealId token record.details.order]
  outbox : (providerStep env p a).outbox = p.outbox ++ [record]
  rows : ∀ row' ∈ (providerStep env p a).store.deals, row'.dealId = record.dealId →
    row'.paymentTokenHash = some token ∧ row'.status.isPast = true

section Staging

variable {own : String → String → Prop}

section

variable (hinv : ProviderInv env p)
include hinv

theorem stages_of_effects (htokens : TokensInv own p) (hdeal : p.Knows deal)
    (hmethod : deal.paymentMethod = some .stripe) (hid : deal.dealId = record.dealId)
    (ha : a.effects env p = [.call call, .insertOutbox record]) {set : StoredDeal → StoredDeal}
    (hcall : (call.apply P p.store).deals
      = (compareAndSet record.dealId .running set p.store.deals).2)
    (hcas : (compareAndSet record.dealId .running set p.store.deals).1 = true)
    (hset : ∀ row, (set row).dealId = row.dealId
      ∧ (set row).paymentTokenHash = row.paymentTokenHash ∧ (set row).status.isPast = true) :
    ∃ row token, Stages env p a row record token := by
  obtain ⟨row, hrow, hrowId, hrunning⟩ := exists_of_compareAndSet hcas
  have hids := hinv.admission.ids
  have hident := hinv.identity_eq (hinv.rows row hrow) (hinv.knows hdeal) (hrowId.trans hid.symm)
  have hstripe := (paymentMethod_of_identity hident).trans hmethod
  obtain ⟨token, htoken⟩ := ne_none_iff_exists'.mp
    ((htokens.rows row hrow hstripe).cleared (hrunning ▸ rfl))
  have hget : getDeal p.store.deals record.dealId = some row := hrowId ▸ getDeal_of_mem hids hrow
  refine ⟨row, token, hrow, hrowId, hstripe, hrunning, htoken, ?_, ?_, fun row' hrow' hid' => ?_⟩
  · simp [stagedBy, ha, hget, htoken]
  · rw [providerStep, ha]
    rfl
  · rw [providerStep, ha] at hrow'
    replace hrow' : row' ∈ (call.apply P p.store).deals := hrow'
    rw [hcall] at hrow'
    rw [eq_of_mem_compareAndSet hids (fun r => (hset r).1) hrow hrowId hrunning hrow' hid']
    exact ⟨(hset row).2.1.trans htoken, (hset row).2.2⟩

/-- What an action stages: one order, or none. -/
theorem staged_cases (htokens : TokensInv own p) (a : ProviderAction) :
    (stagedBy env p a = [] ∧ (providerStep env p a).outbox ⊆ p.outbox)
      ∨ ∃ row record token, Stages env p a row record token := by
  by_cases hstaged : Staged env p a
  · cases hstaged with
    | capture hdeal hmethod hcas hfresh ha =>
      obtain ⟨row, token, hstages⟩ := stages_of_effects hinv htokens hdeal hmethod
        rfl ha rfl hcas fun _ => ⟨rfl, rfl, rfl⟩
      exact .inr ⟨row, _, token, hstages⟩
    | cancel hdeal hmethod hcas hfresh ha =>
      obtain ⟨row, token, hstages⟩ := stages_of_effects hinv htokens hdeal hmethod
        rfl ha rfl hcas fun _ => ⟨rfl, rfl, rfl⟩
      exact .inr ⟨row, _, token, hstages⟩
    | result hdeal hmethod ha =>
      refine .inl ⟨by simp [stagedBy, ha], ?_⟩
      rw [providerStep, ha]
      exact Subset.refl _
    | settled hid htarget hreceipt hcas ha =>
      refine .inl ⟨by simp [stagedBy, ha], ?_⟩
      rw [providerStep, ha]
      exact fun record hrecord => (mem_deleteWhere.mp hrecord).1
  · refine .inl ⟨filterMap_eq_nil_iff.mpr (fun e he => ?_), ?_⟩
    · split
      case h_2 => rfl
      case h_1 record =>
        cases arises_of_mem_of_ne he rfl with
        | inert _ hreason => exact absurd hreason hstaged
    · refine (hinv.step_induction (I := fun p' => p'.outbox ⊆ p.outbox) (Subset.refl _)
        (fun e _ he p' _ _ hsub => ?_) (fun _ => Subset.refl _)
        (fun _ _ _ _ _ _ hsub => hsub) (fun _ _ _ _ _ _ hsub => hsub)).2
      cases e with
      | insertOutbox record =>
        cases he with
        | inert _ hreason => exact absurd hreason hstaged
      | deleteOutbox id =>
        cases he with
        | inert _ hreason => exact absurd hreason hstaged
      | _ => exact hsub

theorem outbox_of_logged (a : ProviderAction) :
    ∀ record, .outbox record ∈ (providerStep env p a).log →
      .outbox record ∈ p.log ∨ record ∈ p.outbox := by
  refine (hinv.step_induction (I := fun p' => ∀ record, .outbox record ∈ p'.log →
      .outbox record ∈ p.log ∨ record ∈ p.outbox) (fun _ => .inl)
    (fun e _ he p' _ _ hlog => ?_) (fun _ _ => .inl) (fun _ _ _ _ _ _ hlog => hlog)
    (fun _ _ _ _ _ _ hlog => hlog)).2
  cases e with
  | observe o =>
    intro record hmem
    rcases mem_concat.mp hmem with hmem | rfl
    · exact hlog record hmem
    · cases he with
      | inert _ hreason => exact .inr hreason
  | _ => exact hlog

theorem obsolete_cases (htokens : TokensInv own p) (h : (dealId, token) ∈ obsoleteBy env p a) :
    own dealId token ∧ ∃ row ∈ p.store.deals, row.dealId = dealId
      ∧ row.status ≠ .paymentPending ∧ row.paymentTokenHash ≠ some token := by
  obtain ⟨e, he, hmatch⟩ := mem_filterMap.mp h
  split at hmatch
  case h_2 => cases hmatch
  case h_1 dealId' resource =>
    obtain ⟨rfl, rfl⟩ := Prod.mk.inj (some.inj hmatch)
    cases arises_of_mem_of_ne he rfl with
    | stored hclaim hreservation _ hrewrites hcleanup =>
      exact ⟨htokens.reserved hinv hclaim hreservation, hcleanup rfl⟩
    | inert hinert => cases hinert

end

end Staging

theorem StripeInv.unstaged (h : StripeInv env s)
    (hstages : Stages env s.provider a row record token) (token' : String) (order : StripeOrder) :
    .staged record.dealId token' order ∉ s.events := by
  intro hstaged
  have hpast := ((h.staged _ _ _ hstaged).rows row hstages.mem hstages.dealId).2
  rw [hstages.running] at hpast
  cases hpast

theorem StripeInv.event_cases (h : StripeInv env s) {event : StripeEvent}
    (hmem : event ∈ (s.afterProvider env a).events) :
    event ∈ s.events ∨ ∃ row record token, Stages env s.provider a row record token
      ∧ event = .staged record.dealId token record.details.order := by
  rcases mem_append.mp hmem with hmem | hmem
  · exact .inl hmem
  · obtain ⟨hnone, -⟩ | ⟨row, record, token, hstages⟩ := staged_cases h.provider h.tokens a
    · rw [hnone] at hmem
      cases hmem
    · rw [hstages.events, mem_singleton] at hmem
      exact .inr ⟨row, record, token, hstages, hmem⟩

theorem ProviderState.Admitted.step (h : p.Admitted dealId)
    (env : ProviderEnv P) (a : ProviderAction) : (providerStep env p a).Admitted dealId :=
  h.imp fun _ hrow => ⟨admitted_subset_step env p a hrow.1, hrow.2⟩

theorem ProviderInv.admitted_of_row (h : ProviderInv env p) (hrow : row ∈ p.store.deals) :
    p.Admitted row.dealId := by
  obtain ⟨row₀, hrow₀, hident⟩ := (h.rows row hrow).known
  exact ⟨row₀, hrow₀, dealId_of_identity hident⟩

section

variable (h : StripeInv env s)
include h

theorem StripeInv.staged_step {order : StripeOrder}
    (hmem : .staged dealId token order ∈ (s.afterProvider env a).events) :
    (s.afterProvider env a).StagedFits dealId token order := by
  obtain hmem | ⟨row, record, token', hstages, heq⟩ := h.event_cases hmem
  · have hfits := h.staged dealId token order hmem
    refine ⟨hfits.own, hfits.admitted.step env a, h.provider.rows_of_id a hfits.admitted
      (fun call row row' hstep _ hrow => ?_) hfits.rows, fun token' order' hmem' => ?_⟩
    · obtain ⟨hpast, htoken⟩ := hstep.past hrow.2
      exact ⟨htoken.trans hrow.1, hpast⟩
    · obtain hmem' | ⟨row, record, token'', hstages, heq⟩ := h.event_cases hmem'
      · exact hfits.once token' order' hmem'
      · obtain ⟨rfl, -, -⟩ := StripeEvent.staged.inj heq
        exact absurd hmem (h.unstaged hstages token order)
  · obtain ⟨rfl, rfl, rfl⟩ := StripeEvent.staged.inj heq
    have hid := hstages.dealId
    refine ⟨hid ▸ ?_, (hid ▸ h.provider.admitted_of_row hstages.mem).step env a, hstages.rows,
      fun token' order' hmem' => ?_⟩
    · exact (h.tokens.rows row hstages.mem hstages.stripe).owned _ hstages.hasToken
    · obtain hmem' | ⟨row', record', token'', hstages', heq'⟩ := h.event_cases hmem'
      · exact absurd hmem' (h.unstaged hstages token' order')
      · have hsame := hstages.events.symm.trans hstages'.events
        rw [singleton_inj] at hsame
        rw [← hsame] at heq'
        exact (StripeEvent.staged.inj heq').2.2

theorem StripeInv.recorded_step (hrecord : record ∈ (s.afterProvider env a).provider.outbox
      ∨ .outbox record ∈ (s.afterProvider env a).provider.log) :
    ∃ token, .staged record.dealId token record.details.order ∈ (s.afterProvider env a).events := by
  have hold (hmem : record ∈ s.provider.outbox ∨ .outbox record ∈ s.provider.log) :
      ∃ token, .staged record.dealId token record.details.order
        ∈ (s.afterProvider env a).events := by
    obtain ⟨token, hstaged⟩ := h.recorded record hmem
    exact ⟨token, mem_append_left _ hstaged⟩
  obtain hmem | hmem := hrecord
  · obtain ⟨-, houtbox⟩ | ⟨row, record', token, hstages⟩ := staged_cases h.provider h.tokens a
    · exact hold (.inl (houtbox hmem))
    · replace hmem : record ∈ s.provider.outbox ++ [record'] := hstages.outbox ▸ hmem
      rcases mem_concat.mp hmem with hmem | hmem
      · exact hold (.inl hmem)
      · refine ⟨token, mem_append_right _ ?_⟩
        rw [hmem, hstages.events]
        exact mem_singleton_self _
  · exact hold (outbox_of_logged h.provider a record hmem).symm

theorem StripeInv.obsolete_before (hmem : (dealId, token) ∈ (s.afterProvider env a).obsolete) :
    s.ObsoleteFits dealId token := by
  rcases mem_append.mp hmem with hmem | hmem
  · exact h.obsolete dealId token hmem
  · obtain ⟨hown, row, hrow, rfl, hstatus, htoken⟩ := obsolete_cases h.provider h.tokens hmem
    refine ⟨hown, h.provider.admitted_of_row hrow, fun row' hrow' hid' => ?_,
      fun order hstaged => htoken ((h.staged _ _ _ hstaged).rows row hrow rfl).1⟩
    rw [h.provider.admission.ids.eq_of_mem hrow' hrow (congrArg some hid') rfl]
    exact ⟨hstatus, htoken⟩

theorem StripeInv.obsolete_step (hmem : (dealId, token) ∈ (s.afterProvider env a).obsolete) :
    (s.afterProvider env a).ObsoleteFits dealId token := by
  have hfits := h.obsolete_before hmem
  refine ⟨hfits.own, hfits.admitted.step env a, h.provider.rows_of_id a hfits.admitted
    (fun call row row' hstep _ hrow => ?_) hfits.rows, fun order hstaged => ?_⟩
  · obtain ⟨hstatus, htoken⟩ := hstep.token_of_ne_pending hrow.1
    exact ⟨hstatus, htoken ▸ hrow.2⟩
  · obtain hstaged | ⟨row, record, token', hstages, heq⟩ := h.event_cases hstaged
    · exact hfits.unstaged order hstaged
    · obtain ⟨rfl, rfl, -⟩ := StripeEvent.staged.inj heq
      exact (hfits.rows row hstages.mem hstages.dealId).2 hstages.hasToken

/-- An action of the provider keeps the invariant. -/
theorem StripeInv.afterProvider (hbacks : s.backs a = true) :
    StripeInv env (s.afterProvider env a) where
  provider := h.provider.step a
  outbox := h.outbox.step h.provider a
  tokens := (h.tokens.step h.provider (reserves_of_backs env.config hbacks)).inv
  intents := { h.intents with }
  staged _ _ _ := h.staged_step
  recorded _ := h.recorded_step
  obsolete _ _ := h.obsolete_step
  sided := by
    -- what an action stages is no order that is issued
    have hissued : ∀ event ∈ stagedBy env s.provider a, ∀ token order,
        event ≠ .issued token order := by
      intro event hevent token order heq
      obtain ⟨e, -, hmatch⟩ := mem_filterMap.mp hevent
      split at hmatch
      case h_1 =>
        obtain ⟨token', -, rfl⟩ := map_eq_some_iff.mp hmatch
        cases heq
      case h_2 => cases hmatch
    refine pairwise_append.mpr ⟨h.sided, pairwise_of_forall_mem_list ?_, ?_⟩ <;>
      exact fun _ _ later hlater _ token _ order' _ _ heq =>
        absurd heq (hissued later hlater token order')

/-- Every action keeps the invariant. -/
theorem StripeInv.step (a : StripeAction) : StripeInv env (stripeStep env s a) := by
  cases a with
  | provider a =>
    cases hbacks : s.backs a with
    | true =>
      dsimp only [stripeStep]
      rw [if_pos hbacks]
      exact h.afterProvider hbacks
    | false =>
      dsimp only [stripeStep]
      rw [hbacks]
      exact h
  | createPaymentIntent id requestId authorised =>
    dsimp only [stripeStep]
    split
    case isFalse => exact h
    case isTrue hguard =>
      obtain ⟨hpi, hfresh⟩ := Bool.and_eq_true_iff.mp hguard
      exact h.createPaymentIntent requestId authorised hpi (by simpa using hfresh)
  | settle id outcome => exact h.settle id outcome
  | answer id => exact h.answer id
  | issueRecord record deal => exact h.issueRecord record deal
  | releaseRecovered dealId now => exact h.releaseRecovered dealId now
  | releaseObsolete dealId id => exact h.releaseObsolete dealId id
  | releaseUnauthorised id => exact h.releaseUnauthorised id

end

end Orders

/-! ## Receipts -/

section Receipts

variable {env : ProviderEnv P} {s : StripeState}

theorem settlementState_of_sign {signer : ReceiptSigner P}
    (h : signDealReceipt signer deal finishedAt spec = .ok r) :
    r.payload.settlementState
      = (spec.settlement deal.quote.payload.settlementTerms.destinationIdentity).2 := by
  obtain ⟨-, -, -, hpayload⟩ := authentic_of_signArtifact P signer.verifies h
  rw [hpayload]
  rfl

theorem settlementState_of_stripeSpec {signer : ReceiptSigner P}
    {details : StripeSettlementOutboxDetails} {state : PaymentReservationState}
    (hspec : stripeSpec deal details state = some spec)
    (hsign : signDealReceipt signer deal finishedAt spec = .ok r) :
    (∃ token, deal.paymentTokenHash = some token)
      ∧ r.payload.settlementState = if state = .committed then "settled" else "canceled" := by
  rw [settlementState_of_sign hsign]
  -- the settlement is that of the PaymentIntent, captured or not
  have hsettled : ∃ stripe, stripeSettlementForDeal deal (state == .committed) = some stripe
      ∧ spec.stripeSettlement = some stripe ∧ spec.prepaidSettlement = none := by
    unfold stripeSpec at hspec
    split at hspec
    case h_1 =>
      obtain ⟨resultHash, -, hspec⟩ := bind_eq_some_iff.mp hspec
      obtain ⟨stripe, hstripe, hspec⟩ := bind_eq_some_iff.mp hspec
      exact ⟨stripe, hstripe, some.inj hspec ▸ ⟨rfl, rfl⟩⟩
    case h_2 =>
      obtain ⟨resultHash, -, hspec⟩ := bind_eq_some_iff.mp hspec
      obtain ⟨stripe, hstripe, hspec⟩ := bind_eq_some_iff.mp hspec
      exact ⟨stripe, hstripe, some.inj hspec ▸ ⟨rfl, rfl⟩⟩
    case h_3 =>
      obtain ⟨stripe, hstripe, hspec⟩ := bind_eq_some_iff.mp hspec
      exact ⟨stripe, hstripe, some.inj hspec ▸ ⟨rfl, rfl⟩⟩
  obtain ⟨stripe, hstripe, hsome, hnone⟩ := hsettled
  unfold stripeSettlementForDeal at hstripe
  split at hstripe
  case h_2 => cases hstripe
  case h_1 token _ htoken =>
    refine ⟨⟨token, htoken⟩, ?_⟩
    split at hstripe
    case isTrue => cases hstripe
    case isFalse =>
      rw [ReceiptSignSpec.settlement, hnone, hsome, ← some.inj hstripe]
      cases state <;> rfl

theorem settlementState_of_recovered
    (hadmitted : deal.Admitted env.signer.toNodeIdentity env.config)
    (hstripe : deal.paymentMethod = some .stripe) {answers : RecoveryAnswers} {recoveredAt : ℤ}
    {failure : RecoveredDealFailure}
    (h : classifyDealRecovery env deal answers recoveredAt = .ok (.fail failure)) :
    ∃ token, deal.paymentTokenHash = some token ∧ answers.stripeReleased.passes = true
      ∧ failure.receipt.payload.settlementState = "canceled" := by
  have hrail : (deal.paymentMethod == some .lightning) = false := by
    rw [hstripe]
    rfl
  unfold classifyDealRecovery requeueDeal at h
  rw [hrail, if_neg Bool.false_ne_true] at h
  split at h
  case isFalse => cases h
  case isTrue =>
    unfold recoverExpired at h
    simp only [hstripe] at h
    split at h
    case h_2 => cases h
    case h_1 stripe hreleased =>
      obtain ⟨failure', hbuilt, heq⟩ := map_eq_ok.mp h
      obtain rfl := DealRecoveryDecision.fail.inj heq
      unfold buildRecoveredDealFailure at hbuilt
      obtain ⟨⟨status, dealState, executionState, resultHash⟩, -, hbuilt⟩ := bind_eq_ok.mp hbuilt
      obtain ⟨receipt, hsign, hbuilt⟩ := bind_eq_ok.mp hbuilt
      obtain ⟨hvalid, hbuilt⟩ := check_eq_ok.mp hbuilt
      obtain rfl := pure_eq_ok.mp hbuilt
      unfold recoveredStripeReleaseSettlement at hreleased
      split at hreleased
      case h_1 =>
        -- without a PaymentIntent the receipt would not be valid for the quote
        obtain rfl := Except.ok.inj hreleased
        have hfits := (valid_signDealReceipt hadmitted.checked hsign).mp (by simpa using hvalid)
        have hfree := (settlementFits_none hadmitted.checked rfl rfl rfl).mp hfits.settlement
        rw [hadmitted.method hstripe] at hfree
        exact absurd hfree (by decide)
      case h_2 token htoken =>
        obtain ⟨u, hok, hreleased⟩ := bind_eq_ok.mp hreleased
        obtain rfl := pure_eq_ok.mp hreleased
        refine ⟨token, htoken, by rw [hok]; rfl, ?_⟩
        rw [settlementState_of_sign hsign]
        rfl

theorem TokensInv.knows {own : String → String → Prop} (hinv : ProviderInv env p)
    (h : TokensInv own p) (hdeal : p.Knows deal) (hstripe : deal.paymentMethod = some .stripe) :
    .deal deal ∈ p.log ∧ deal.TokenFits own := by
  have hlogged : .deal deal ∈ p.log := hdeal.elim (fun h => hinv.logged h) (h.workers deal)
  exact ⟨hlogged, (h.log _ hlogged hstripe).1⟩

theorem stateAgrees_none : StateAgrees "none" none := ⟨by decide, by decide⟩

theorem stateAgrees_some (state : PaymentReservationState) :
    StateAgrees (if state = .committed then "settled" else "canceled") (some state) := by
  cases state <;> exact ⟨by decide, by decide⟩

/-- The receipt of an action agrees with Stripe, if a deal is rejected only while
its PaymentIntent is pending. -/
theorem ReceiptCause.stateAgrees (h : StripeInv env s) (hbacks : s.backs a = true)
    (hok : RejectsPending s (.provider a)) (hdeal : s.provider.Knows deal)
    (hstripe : deal.paymentMethod = some .stripe) (hcause : ReceiptCause env a deal r) :
    ∃ token, deal.paymentTokenHash = some token
      ∧ StateAgrees r.payload.settlementState (s.outcomeOf token) := by
  have hadmitted := h.provider.admitted_of_snapshot (h.provider.knows hdeal)
  have hnot {session : LightningInvoiceBundleSession} (hof : session.isOf deal = true) : False := by
    have hrail := beq_iff_eq.mp (Bool.and_eq_true_iff.mp hof).1
    exact absurd (hstripe.symm.trans hrail) (by decide)
  have hanswered {token : String} {state : PaymentReservationState}
      (hmem : (token, state) ∈ s.answers) : s.outcomeOf token = some state := by
    obtain ⟨intent, hintent, rfl, houtcome⟩ := h.intents.answered _ hmem
    rw [h.intents.outcomeOf_eq hintent, houtcome]
  cases hcause with
  | @rejected site bundle message evidence now ha hbundle hstatus hsign =>
    have haccepted := hstatus (hstripe ▸ by decide)
    obtain ⟨token, htoken⟩ := ne_none_iff_exists'.mp
      ((h.tokens.knows h.provider hdeal hstripe).2.cleared (haccepted ▸ rfl))
    obtain rfl : bundle = none :=
      eq_none_iff_forall_not_mem.mpr fun session hsession => hnot (hbundle _ hsession)
    rw [ha] at hok
    refine ⟨token, htoken, ?_⟩
    rw [settlementState_of_sign hsign, hok hstripe token htoken]
    exact stateAgrees_none
  | stripe hspec hsign hvalid ha =>
    obtain ⟨⟨token, htoken⟩, hstate⟩ := settlementState_of_stripeSpec hspec hsign
    rw [ha] at hbacks
    dsimp only [StripeState.backs] at hbacks
    rw [htoken] at hbacks
    refine ⟨token, htoken, ?_⟩
    rw [hstate, hanswered (of_decide_eq_true hbacks)]
    exact stateAgrees_some _
  | recovered hvalid ha hitem hrail hclassify hreceipt =>
    obtain hlightning | ⟨plan, hplan, rfl⟩ := hrail
    · exact absurd (hstripe.symm.trans hlightning) (by decide)
    · rw [hitem] at hclassify
      obtain ⟨token, htoken, hreleased, hstate⟩ :=
        settlementState_of_recovered hadmitted hstripe hclassify
      have hback := all_eq_true.mp hbacks _ hplan
      simp only [hitem, hstripe, htoken, hreleased] at hback
      rw [hreceipt] at hstate
      refine ⟨token, htoken, ?_⟩
      rw [hstate, hanswered (of_decide_eq_true hback)]
      exact stateAgrees_some .released
  | succeeded ha hmethod =>
    rw [hstripe] at hmethod
    exact absurd hmethod (by decide)
  | failed ha hbundle hmethod => exact absurd hstripe hmethod
  | lightningSuccess ha hof => exact (hnot hof).elim
  | lightningFailure ha hof => exact (hnot hof).elim
  | unpaid ha hmethod => exact absurd (hstripe.symm.trans hmethod) (by decide)

structure WrittenInv (s : StripeState) : Prop where
  entries : ∀ w ∈ s.written,
    (∃ row ∈ s.provider.store.admitted, row.dealId = w.dealId ∧ row.paymentMethod = some .stripe)
      ∧ ∀ row ∈ s.provider.store.deals, row.dealId = w.dealId → row.receipt ≠ none
  rows : ∀ row ∈ s.provider.store.deals, row.paymentMethod = some .stripe → ∀ token,
    row.paymentTokenHash = some token → ∀ r, row.receipt = some r →
      ∃ w, s.written.filter (·.dealId == row.dealId) = [w] ∧ w.receipt = r
        ∧ w.intent = some token ∧ w.Agrees

theorem StripeInv.receipted_kept (h : StripeInv env s) (hrow : row ∈ s.provider.store.deals)
    (hstripe : row.paymentMethod = some .stripe) (hreceipt : row.receipt ≠ none)
    (hrow' : row' ∈ (providerStep env s.provider a).store.deals) (hid : row'.dealId = row.dealId) :
    row' = row := by
  refine h.provider.terminal_kept a hrow ?_ hrow' hid
  by_contra hopen
  exact hreceipt ((h.tokens.rows row hrow hstripe).opened (Bool.eq_false_iff.mpr hopen))

theorem ProviderInv.rail_eq (h : ProviderInv env p) (a : ProviderAction)
    (hrow : Snapshot p.store.admitted row) (hrow' : row' ∈ (providerStep env p a).store.deals)
    (hid : row'.dealId = row.dealId) : row'.paymentMethod = row.paymentMethod := by
  have h' := h.step a
  have hident := h'.identity_eq (h'.rows row' hrow') (hrow.mono (admitted_subset_step env p a)) hid
  exact paymentMethod_of_identity hident

theorem StripeState.newReceipt_some (h : s.newReceipt row' = some w) :
    row'.paymentMethod = some .stripe
      ∧ (∀ row ∈ s.provider.store.deals, row.dealId = row'.dealId → row.receipt = none)
      ∧ w.dealId = row'.dealId ∧ row'.receipt = some w.receipt := by
  unfold StripeState.newReceipt at h
  split at h
  case isFalse => cases h
  case isTrue hguard =>
    obtain ⟨hstripe, hnone⟩ := Bool.and_eq_true_iff.mp hguard
    obtain ⟨receipt, hreceipt, rfl⟩ := map_eq_some_iff.mp h
    refine ⟨beq_iff_eq.mp hstripe, fun row hrow hid => ?_, rfl, hreceipt⟩
    by_contra hsome
    rw [Bool.not_eq_true'] at hnone
    refine absurd (any_eq_true.mpr ⟨row, hrow, ?_⟩) (Bool.eq_false_iff.mp hnone)
    exact Bool.and_eq_true_iff.mpr ⟨beq_iff_eq.mpr hid, isSome_iff_ne_none.mpr hsome⟩

theorem StripeState.newReceipt_of_none (hstripe : row'.paymentMethod = some .stripe)
    (hnone : ∀ row ∈ s.provider.store.deals, row.dealId = row'.dealId → row.receipt = none)
    (hr : row'.receipt = some r) (htoken : row'.paymentTokenHash = some token) :
    s.newReceipt row' = some
      { dealId := row'.dealId, intent := some token, receipt := r
        outcome := s.outcomeOf token } := by
  have hfree : s.provider.store.deals.any (fun row =>
      row.dealId == row'.dealId && row.receipt.isSome) = false := by
    refine any_eq_false.mpr fun row hrow hmatch => ?_
    obtain ⟨hid, hsome⟩ := Bool.and_eq_true_iff.mp hmatch
    rw [hnone row hrow (beq_iff_eq.mp hid)] at hsome
    cases hsome
  unfold StripeState.newReceipt
  rw [hfree, hstripe, if_pos (by decide), hr, htoken]
  rfl

theorem WrittenInv.entries_step (h : StripeInv env s) (hwritten : WrittenInv s)
    (hw : w ∈ (s.afterProvider env a).written) :
    (∃ row ∈ (providerStep env s.provider a).store.admitted,
        row.dealId = w.dealId ∧ row.paymentMethod = some .stripe)
      ∧ ∀ row ∈ (providerStep env s.provider a).store.deals, row.dealId = w.dealId →
        row.receipt ≠ none := by
  rcases mem_append.mp hw with hw | hw
  · obtain ⟨⟨row₀, hrow₀, hid₀, hstripe₀⟩, hrows⟩ := hwritten.entries w hw
    refine ⟨⟨row₀, admitted_subset_step env _ a hrow₀, hid₀, hstripe₀⟩, fun row' hrow' hid' => ?_⟩
    obtain ⟨row, hrow, hid⟩ := h.provider.row_of_id a ⟨row₀, hrow₀, hid₀.trans hid'.symm⟩ hrow'
    have hreceipt := hrows row hrow (hid.trans hid')
    have hident := h.provider.known_of_id (h.provider.rows row hrow) hrow₀
      (hid₀.trans (hid.trans hid').symm)
    have hstripe := (paymentMethod_of_identity hident).symm.trans hstripe₀
    rw [h.receipted_kept hrow hstripe hreceipt hrow' hid.symm]
    exact hreceipt
  · obtain ⟨row', hrow', hnew⟩ := mem_filterMap.mp hw
    obtain ⟨hstripe, -, hid, hreceipt⟩ := StripeState.newReceipt_some hnew
    have hinv' := h.provider.step a
    obtain ⟨row₀, hrow₀, hident⟩ := (hinv'.rows row' hrow').known
    refine ⟨⟨row₀, hrow₀, (dealId_of_identity hident).trans hid.symm,
      (paymentMethod_of_identity hident).trans hstripe⟩, fun row hrow hid' => ?_⟩
    rw [hinv'.admission.ids.eq_of_mem hrow hrow' (congrArg some hid') (congrArg some hid.symm),
      hreceipt]
    exact some_ne_none _

theorem filter_writtenBy (h : StripeInv env s)
    (hrow' : row' ∈ (providerStep env s.provider a).store.deals) :
    (s.writtenBy env a).filter (·.dealId == row'.dealId) = (s.newReceipt row').toList := by
  have hids := (h.provider.step a).admission.ids
  have hone := hids.filter_key hrow' rfl
  have hfilter : (s.writtenBy env a).filter (·.dealId == row'.dealId)
      = ((providerStep env s.provider a).store.deals.filter
        (fun row => some row.dealId == some row'.dealId)).filterMap s.newReceipt := by
    unfold StripeState.writtenBy
    rw [List.filter_filterMap, List.filterMap_filter]
    refine List.filterMap_congr fun row _ => ?_
    cases hnew : s.newReceipt row with
    | none => simp
    | some w =>
      rw [← (StripeState.newReceipt_some hnew).2.2.1]
      simp [Option.filter]
  rw [hfilter, hone]
  cases hnew : s.newReceipt row' <;> simp [hnew]

/-- An action keeps the invariant of the receipts, if it rejects no deal whose
PaymentIntent has moved. -/
theorem WrittenInv.afterProvider (h : StripeInv env s) (hwritten : WrittenInv s)
    (hbacks : s.backs a = true) (hok : RejectsPending s (.provider a)) :
    WrittenInv (s.afterProvider env a) := by
  refine ⟨fun w hw => hwritten.entries_step h hw, fun row' hrow' hstripe token htoken r hr => ?_⟩
  show ∃ w, (s.written ++ s.writtenBy env a).filter _ = [w] ∧ _
  rw [filter_append, filter_writtenBy h hrow']
  have horigin := receiptOrigin_step h.provider h.tokens (reserves_of_backs env.config hbacks)
    row' hrow' hstripe r hr
  by_cases hold : ∃ row ∈ s.provider.store.deals, row.dealId = row'.dealId ∧ row.receipt ≠ none
  · -- the receipt was there
    obtain ⟨row, hrow, hid, hreceipt⟩ := hold
    have hrail := (h.provider.rail_eq a (h.provider.rows row hrow) hrow' hid.symm).symm.trans
      hstripe
    obtain rfl := h.receipted_kept hrow hrail hreceipt hrow' hid.symm
    have hnone : s.newReceipt row' = none := by
      by_contra hnew
      obtain ⟨w, hw⟩ := ne_none_iff_exists'.mp hnew
      exact hreceipt ((StripeState.newReceipt_some hw).2.1 row' hrow rfl)
    rw [hnone, toList_none, append_nil]
    exact hwritten.rows row' hrow hstripe token htoken r hr
  · -- the receipt is that of the action
    have hnone : ∀ row ∈ s.provider.store.deals, row.dealId = row'.dealId → row.receipt = none :=
      fun row hrow hid => by_contra fun hsome => hold ⟨row, hrow, hid, hsome⟩
    obtain ⟨row, hrow, hid, hsome⟩ | ⟨deal, hdeal, hid, hcause⟩ := horigin
    · cases hnone row hrow hid ▸ hsome
    have hsnapshot := h.provider.knows hdeal
    have hrail := (h.provider.rail_eq a hsnapshot hrow' hid.symm).symm.trans hstripe
    obtain ⟨token', htoken', hagrees⟩ := hcause.stateAgrees h hbacks hok hdeal hrail
    -- the token of the loaded row is still that of the deal
    have hstep := h.tokens.step h.provider (reserves_of_backs env.config hbacks)
    have hlogged := (h.tokens.knows h.provider hdeal hrail).1
    have hkept := (hstep.inv.log _ (hstep.log hlogged) hrail).2 token' htoken' row' hrow' hid.symm
    obtain rfl := some.inj (hkept.symm.trans htoken)
    have hempty : s.written.filter (·.dealId == row'.dealId) = [] := by
      refine filter_eq_nil_iff.mpr fun w hw hid' => ?_
      obtain ⟨row₀, hrow₀, hident⟩ := hsnapshot.known
      obtain ⟨row, hrow, hrowId⟩ := h.provider.row_of_id a
        ⟨row₀, hrow₀, (dealId_of_identity hident).trans hid⟩ hrow'
      exact (hwritten.entries w hw).2 row hrow (hrowId.trans (beq_iff_eq.mp hid').symm)
        (hnone row hrow hrowId)
    rw [StripeState.newReceipt_of_none hstripe hnone hr htoken, hempty]
    exact ⟨_, rfl, rfl, rfl, hagrees⟩

theorem writtenInv_init : WrittenInv (stripeMachine env).init :=
  ⟨forall_mem_nil _, forall_mem_nil _⟩

/-- Every action keeps the invariant of the receipts under that condition: only
the provider writes any. -/
theorem WrittenInv.step (h : StripeInv env s) (hwritten : WrittenInv s) (a : StripeAction)
    (hok : RejectsPending s a) : WrittenInv (stripeStep env s a) := by
  have hkept {s' : StripeState} (hprovider : s'.provider = s.provider)
      (hsame : s'.written = s.written) : WrittenInv s' := by
    refine ⟨?_, ?_⟩
    · rw [hsame, hprovider]
      exact hwritten.entries
    · rw [hsame, hprovider]
      exact hwritten.rows
  cases a with
  | provider a =>
    dsimp only [stripeStep]
    split
    case isTrue hbacks => exact hwritten.afterProvider h hbacks hok
    case isFalse => exact hwritten
  | settle id outcome => exact hkept rfl rfl
  | createPaymentIntent | answer | issueRecord | releaseRecovered | releaseObsolete
  | releaseUnauthorised =>
    dsimp only [stripeStep]
    repeat' split
    all_goals exact hkept rfl rfl

theorem WrittenInv.consistent (h : StripeInv env s) (hwritten : WrittenInv s) : s.Consistent := by
  intro row hrow hstripe intent _ htoken hterm
  have hreceipt := (h.tokens.rows row hrow hstripe).ended hterm (htoken ▸ some_ne_none _)
  obtain ⟨r, hr⟩ := ne_none_iff_exists'.mp hreceipt
  obtain ⟨w, hfilter, rfl, hintent, hagrees⟩ := hwritten.rows row hrow hstripe _ htoken r hr
  exact ⟨w, hfilter, hr, hintent, hagrees⟩

end Receipts

/-- **Settlement on Stripe is consistent.** In every run in which a deal is rejected
before its execution only while its PaymentIntent is neither captured nor canceled –
whatever else is interrupted, lost or repeated –, every deal with a PaymentIntent
that has ended has one receipt, whose settlement state is what had become of the
PaymentIntent when it was written; and after a capture or a cancellation was staged
for a PaymentIntent, the other one is never issued. -/
theorem stripe_settlement_consistent (env : ProviderEnv P) (actions : List StripeAction)
    (hok : (stripeMachine env).Admissible RejectsPending (stripeMachine env).init actions) :
    ((stripeMachine env).run actions).Consistent ∧ ((stripeMachine env).run actions).OneSided := by
  obtain ⟨h, hwritten⟩ := (stripeMachine env).invariant_of_admissible
    (I := fun s => StripeInv env s ∧ WrittenInv s)
    (fun s a h hok => ⟨h.1.step a, h.2.step h.1 a hok⟩) actions _
    ⟨stripeInv_init, writtenInv_init⟩ hok
  exact ⟨hwritten.consistent h, h.oneSided⟩

/-! ## A deal that is rejected after its authorisation was canceled -/

def authorisedRun : List StripeAction :=
  let payment : ProvidedPayment := ⟨"stripe_mpp", "spt"⟩
  .createPaymentIntent "pi_1" "d" true
    :: (stripeRun payment (.paymentIntent "pi_1" "requires_capture")
      ⟨"d", "stripe_mpp", 1, "pi_1"⟩ ++ [ProviderAction.readDeal "d"]).map .provider

def authorisedDeal : StoredDeal :=
  let request := sampleRequest (samplePaidQuote settlementMethodStripeMpp "" 0)
    (some ⟨"stripe_mpp", "spt"⟩)
  { (request.newDeal "d" (some .stripe) 1 5).row with
    status := .accepted, paymentTokenHash := some "pi_1", updatedAt := 7 }

def rejection : StripeAction :=
  .provider (.rejectDealBeforeExecution .start authorisedDeal none "busy" "" 8)

def sampleOutput : WorkloadRunOutput :=
  { persistedResult := .null, resultHash := "aa", resultFormat := jcsJsonFormat
    resultEnvelopeHash := none }

def capturedRun : List StripeAction :=
  let record : StripeSettlementOutboxRecord :=
    { dealId := "d", createdAt := 9, details := .succeeded jcsJsonFormat none }
  let ready : StoredDeal :=
    { authorisedDeal with
      status := .resultReady, result := some .null, resultHash := some "aa"
      resultEvidenceHash := some "", updatedAt := 9 }
  authorisedRun ++
    [.provider (.startExecution authorisedDeal 8),
      .provider (.executionSucceeded authorisedDeal sampleOutput (.error "") "" 9),
      .provider (.readOutbox "d"), .provider (.readDeal "d"), .issueRecord record ready,
      .settle "pi_1" .committed, .answer "pi_1",
      .provider (.reconcileStripeSettlementRecord record ready .committed "" 10)]

theorem stripe_settlement_consistent_captured :
    (stripeMachine sampleStripeEnv).Admissible RejectsPending
        (stripeMachine sampleStripeEnv).init capturedRun
      ∧ ((stripeMachine sampleStripeEnv).run capturedRun).written.map
          (fun w => (w.receipt.payload.settlementState, w.outcome)) = [("settled", some .committed)]
      ∧ ((stripeMachine sampleStripeEnv).run capturedRun).Consistent
      ∧ ((stripeMachine sampleStripeEnv).run capturedRun).OneSided := by
  have hok : (stripeMachine sampleStripeEnv).Admissible RejectsPending
      (stripeMachine sampleStripeEnv).init capturedRun := by
    repeat' constructor
  exact ⟨hok, by decide +kernel, stripe_settlement_consistent sampleStripeEnv _ hok⟩

theorem stripe_rejection_inconsistent :
    ¬ ((stripeMachine sampleStripeEnv).run
      (authorisedRun ++ [.settle "pi_1" .released, rejection])).Consistent := by
  intro h
  have hrow : ∃ row ∈ ((stripeMachine sampleStripeEnv).run
      (authorisedRun ++ [.settle "pi_1" .released, rejection])).provider.store.deals,
      row.paymentMethod = some .stripe ∧ row.paymentTokenHash = some "pi_1"
        ∧ row.status.isTerminal = true := by
    decide +kernel
  have hintent : (⟨"pi_1", "d", true, some .released⟩ : PaymentIntent)
      ∈ ((stripeMachine sampleStripeEnv).run
        (authorisedRun ++ [.settle "pi_1" .released, rejection])).intents := by
    decide +kernel
  have hstate : ∀ w ∈ ((stripeMachine sampleStripeEnv).run
      (authorisedRun ++ [.settle "pi_1" .released, rejection])).written,
      w.outcome = some .released ∧ w.receipt.payload.settlementState = "none" := by
    decide +kernel
  obtain ⟨row, hmem, hstripe, htoken, hterm⟩ := hrow
  obtain ⟨w, hfilter, -, -, -, hcanceled⟩ := h row hmem hstripe _ hintent htoken hterm
  have hw := mem_of_mem_filter (hfilter ▸ mem_singleton_self w)
  obtain ⟨houtcome, hnone⟩ := hstate w hw
  rw [hcanceled.mpr houtcome] at hnone
  exact absurd hnone (by decide)

end Froglet
