import Froglet.Requester.Soundness

/-!
# The buyer pays at most once

A create call on a prepaid quote ends with the payment of the provider's invoice. Several
calls may run at once, so the payments of a buyer are those of a history of interleaved
steps (`buyerStep`).

A call may pay only if it inserted the row of its deal, with the provider's answer or,
over A2A, as the intent before it submitted. A key has one row, so the row is the right to
pay, and the invariant ties every payment to the call that has it.
-/

namespace Froglet

open List Table

variable {dealHash : String} {rows : RequesterDeals}
variable {draft : CreateDraft}
variable {a2aIntentCreated : Bool}

/-- Where a create call stands. -/
inductive CreatePhase where
  | quoted
  | submitting (a2aIntentCreated : Bool)
  | persisted (invoice : Option PrepaidInvoice) (created a2aIntentCreated : Bool)
  | paid
  | ended
deriving DecidableEq

structure CreateCall where
  draft : CreateDraft
  phase : CreatePhase
variable {call : CreateCall}

structure BuyerPayment where
  idempotencyKey : Option String
  (dealHash bolt11 : String)

def CreateDraft.payment (draft : CreateDraft) (invoice : PrepaidInvoice) : BuyerPayment :=
  { idempotencyKey := draft.idempotencyKey, dealHash := draft.deal.hash, bolt11 := invoice.bolt11 }

structure BuyerState where
  rows : RequesterDeals
  calls : List CreateCall
  payments : List BuyerPayment

namespace BuyerState

def callOf (s : BuyerState) (dealHash : String) : Option CreateCall :=
  selectWhere (·.draft.deal.hash == dealHash) s.calls

/-- A deal of this hash was signed before. A draft commits to a preimage drawn for it, so
the model lets no second call sign the deal of a first. -/
def signed (s : BuyerState) (dealHash : String) : Bool := (s.callOf dealHash).isSome

def setPhase (s : BuyerState) (dealHash : String) (phase : CreatePhase) : BuyerState :=
  { s with
    calls := updateWhere (·.draft.deal.hash == dealHash) ({ · with phase }) s.calls }

def createDeal (s : BuyerState) (draft : CreateDraft) : BuyerState :=
  match draft.idempotencyKey.bind (findRequesterDealByIdempotencyKey s.rows) with
  | some _ => s
  | none => { s with calls := s.calls ++ [{ draft, phase := .quoted }] }

def submit (env : RequesterEnv) (s : BuyerState) (draft : CreateDraft) (now : ℤ) : BuyerState :=
  if !(verifyRuntimeQuote env draft).passes then s.setPhase draft.deal.hash .ended
  else if env.usesA2a draft.providerSyncUrl then
    match insertOrGetRequesterDeal (draft.newDeal draft.deal.hash submissionPending now) s.rows with
    | (.ok (_, true), rows) => { s with rows }.setPhase draft.deal.hash (.submitting true)
    | (_, rows) => { s with rows }.setPhase draft.deal.hash .ended
  else s.setPhase draft.deal.hash (.submitting false)

def answer (env : RequesterEnv) (s : BuyerState) (draft : CreateDraft) (a2aIntentCreated : Bool)
    (remote : DealRecord) (now : ℤ) : BuyerState :=
  if !(verifyCreateAnswer env draft remote now).passes then s.setPhase draft.deal.hash .ended
  else
    match insertOrGetRequesterDeal (draft.newDeal remote.dealId remote.status now) s.rows with
    | (.ok (_, created), rows) =>
      let invoice :=
        if draft.quote.payload.settlementTerms.method == settlementMethodLightningPrepaid then
          remote.prepaidInvoice
        else none
      { s with rows }.setPhase draft.deal.hash (.persisted invoice created a2aIntentCreated)
    | (.error _, rows) => { s with rows }.setPhase draft.deal.hash .ended

def pay (s : BuyerState) (draft : CreateDraft) (invoice : Option PrepaidInvoice)
    (created a2aIntentCreated : Bool) : BuyerState :=
  match invoice with
  | some invoice =>
    if created || a2aIntentCreated then
      { s with payments := s.payments ++ [draft.payment invoice] }.setPhase draft.deal.hash .paid
    else s.setPhase draft.deal.hash .ended
  | none => s.setPhase draft.deal.hash .ended

end BuyerState

/-- What happens next. A call is named by the deal it signed. -/
inductive BuyerAction where
  | createDeal (draft : CreateDraft)
  | submit (dealHash : String) (now : ℤ)
  | answer (dealHash : String) (remote : DealRecord) (now : ℤ)
  | pay (dealHash : String)
  | endCall (dealHash : String)
  | restart
  | storeAnswer (snapshot : StoredRequesterDeal) (remote : DealRecord) (updatedAt : ℤ)

def CreateCall.abandoned (call : CreateCall) : CreateCall :=
  if call.phase == .paid then call else { call with phase := .ended }

theorem CreateCall.abandoned_draft (call : CreateCall) : call.abandoned.draft = call.draft := by
  unfold abandoned
  split <;> rfl

def buyerStep (env : RequesterEnv) (s : BuyerState) : BuyerAction → BuyerState
  | .createDeal draft =>
    if s.signed draft.deal.hash then s else s.createDeal draft
  | .submit dealHash now => match s.callOf dealHash with
    | some { draft, phase := .quoted } => s.submit env draft now
    | _ => s
  | .answer dealHash remote now => match s.callOf dealHash with
    | some { draft, phase := .submitting a2aIntentCreated } =>
      s.answer env draft a2aIntentCreated remote now
    | _ => s
  | .pay dealHash => match s.callOf dealHash with
    | some { draft, phase := .persisted invoice created a2aIntentCreated } =>
      s.pay draft invoice created a2aIntentCreated
    | _ => s
  | .endCall dealHash => match s.callOf dealHash with
    | some { phase := .paid, .. } | none => s
    | some _ => s.setPhase dealHash .ended
  | .restart => { s with calls := s.calls.map CreateCall.abandoned }
  | .storeAnswer snapshot remote updatedAt =>
    { s with rows := (Froglet.storeAnswer snapshot remote updatedAt s.rows).2 }

def buyerMachine (env : RequesterEnv) : Machine BuyerState BuyerAction where
  init := { rows := [], calls := [], payments := [] }
  step := buyerStep env

/-! ## The row is the right to pay -/

def CreatePhase.entitled : CreatePhase → Bool
  | .submitting a2aIntentCreated => a2aIntentCreated
  | .persisted _ created a2aIntentCreated => created || a2aIntentCreated
  | .paid => true
  | .quoted | .ended => false

def CreateDraft.Durable (draft : CreateDraft) (rows : RequesterDeals) : Prop :=
  ∃ row ∈ rows, row.deal.hash = draft.deal.hash ∧ row.idempotencyKey = draft.idempotencyKey

structure BuyerInv (s : BuyerState) : Prop where
  keys : Table.Unique StoredRequesterDeal.idempotencyKey s.rows
  calls : Table.Unique (some ·.draft.deal.hash) s.calls
  entitled : ∀ call ∈ s.calls, call.phase.entitled = true → call.draft.Durable s.rows
  paid : ∀ payment ∈ s.payments, ∃ call ∈ s.calls, call.phase = .paid
    ∧ call.draft.idempotencyKey = payment.idempotencyKey
    ∧ call.draft.deal.hash = payment.dealHash
  paidKeys : Table.Unique BuyerPayment.idempotencyKey s.payments
  paidDeals : Table.Unique (some ·.dealHash) s.payments

structure RowsKept (rows rows' : RequesterDeals) : Prop where
  keys : Table.Unique StoredRequesterDeal.idempotencyKey rows →
    Table.Unique StoredRequesterDeal.idempotencyKey rows'
  durable : ∀ draft : CreateDraft, draft.Durable rows → draft.Durable rows'

theorem RowsKept.refl (rows : RequesterDeals) : RowsKept rows rows := ⟨id, fun _ => id⟩

theorem rowsKept_insertOrGet (new : NewRequesterDeal) (rows : RequesterDeals) :
    RowsKept rows (insertOrGetRequesterDeal new rows).2 := by
  obtain h | ⟨-, hkey, h⟩ := insertOrGetRequesterDeal_rows new rows
  · rw [h]
    exact .refl rows
  · rw [h]
    refine ⟨fun hkeys => hkeys.concat fun row hrow key hrowKey hnew => ?_, ?_⟩
    · -- the lookup of the key came first
      change new.idempotencyKey = some key at hnew
      rw [hnew] at hkey
      have hne := selectWhere_none hkey hrow
      rw [hrowKey, beq_self_eq_true] at hne
      exact Bool.false_ne_true hne.symm
    · rintro draft ⟨row, hrow, hsame⟩
      exact ⟨row, mem_append_left _ hrow, hsame⟩

theorem rowsKept_storeAnswer (snapshot : StoredRequesterDeal) (remote : DealRecord) (updatedAt : ℤ)
    (rows : RequesterDeals) : RowsKept rows (storeAnswer snapshot remote updatedAt rows).2 := by
  obtain h | h := storeAnswer_rows snapshot remote updatedAt rows
  · rw [h]
    exact .refl rows
  · rw [h]
    refine ⟨fun hkeys => hkeys.updateWhere fun _ _ _ => rfl, ?_⟩
    rintro draft ⟨row, hrow, hdeal, hkey⟩
    refine ⟨_, mem_updateWhere.mpr ⟨row, hrow, rfl⟩, ?_, ?_⟩
    · split <;> exact hdeal
    · split <;> exact hkey

theorem durable_of_created {dealId status : String} {now : ℤ}
    {rows' : RequesterDeals} {stored : StoredRequesterDeal}
    (h : insertOrGetRequesterDeal (draft.newDeal dealId status now) rows
      = (.ok (stored, true), rows')) : draft.Durable rows' := by
  unfold insertOrGetRequesterDeal at h
  split at h
  case h_1 => split at h <;> cases h
  case h_2 =>
    split at h
    case h_1 => split at h <;> cases h
    case h_2 =>
      cases h
      exact ⟨_, mem_concat_self, rfl, rfl⟩

namespace BuyerInv

variable {s : BuyerState}

theorem callOf_some (h : s.callOf dealHash = some call) :
    call ∈ s.calls ∧ call.draft.deal.hash = dealHash :=
  (selectWhere_some h).imp_right beq_iff_eq.mp

section

variable (h : BuyerInv s)
include h

/-- Moving a call on. -/
theorem setPhase (hrows : RowsKept s.rows rows)
    (hcall : call ∈ s.calls) (hpaid : call.phase ≠ .paid)
    (phase : CreatePhase) (hphase : phase.entitled = true → call.draft.Durable rows) :
    BuyerInv ({ s with rows }.setPhase call.draft.deal.hash phase) := by
  have hmoved : ∀ call' ∈ s.calls, call'.draft.deal.hash = call.draft.deal.hash →
      call' = call := fun call' hcall' heq =>
    h.calls.eq_of_mem hcall' hcall rfl (congrArg some heq.symm)
  refine ⟨hrows.keys h.keys, h.calls.updateWhere fun _ _ _ => rfl, ?_, ?_, h.paidKeys,
    h.paidDeals⟩
  · intro call' hcall' hentitled
    obtain ⟨old, hold, rfl⟩ := mem_updateWhere.mp hcall'
    split at hentitled
    case isTrue hsame =>
      rw [if_pos hsame]
      obtain rfl := hmoved old hold (beq_iff_eq.mp hsame)
      exact hphase hentitled
    case isFalse hother =>
      rw [if_neg hother]
      exact hrows.durable _ (h.entitled old hold hentitled)
  · intro payment hpayment
    obtain ⟨payer, hpayer, hphase', hkey, hdeal⟩ := h.paid payment hpayment
    refine ⟨payer, mem_updateWhere.mpr ⟨payer, hpayer, if_neg fun hsame => ?_⟩, hphase',
      hkey, hdeal⟩
    obtain rfl := hmoved payer hpayer (beq_iff_eq.mp hsame)
    exact hpaid hphase'

/-- Two payments are never for one key or one deal: the row of the call that is
about to pay belongs to no call that has paid. -/
theorem pay (hcall : call ∈ s.calls) (hpaid : call.phase ≠ .paid)
    (hentitled : call.phase.entitled = true) (invoice : PrepaidInvoice) :
    BuyerInv ({ s with payments := s.payments ++ [call.draft.payment invoice] }.setPhase
      call.draft.deal.hash .paid) := by
  have hfresh : ∀ payment ∈ s.payments, payment.dealHash ≠ call.draft.deal.hash := by
    intro payment hpayment heq
    obtain ⟨payer, hpayer, hphase, -, hdeal⟩ := h.paid payment hpayment
    obtain rfl := h.calls.eq_of_mem hpayer hcall rfl (congrArg some (hdeal.trans heq).symm)
    exact hpaid hphase
  obtain ⟨row, hrow, hrowDeal, hrowKey⟩ := h.entitled call hcall hentitled
  have hmove := h.setPhase (.refl s.rows) hcall hpaid .paid
    fun _ => h.entitled call hcall hentitled
  refine ⟨hmove.keys, hmove.calls, hmove.entitled, ?_, ?_, ?_⟩
  · intro payment hpayment
    rcases mem_concat.mp hpayment with hold | hnew
    · exact hmove.paid payment hold
    · rw [hnew]
      exact ⟨{ call with phase := .paid }, mem_updateWhere.mpr
        ⟨call, hcall, if_pos (beq_self_eq_true _)⟩, rfl, rfl, rfl⟩
  · refine h.paidKeys.concat fun payment hpayment key hkey hnew => ?_
    obtain ⟨payer, hpayer, hphase, hpayerKey, hdeal⟩ := h.paid payment hpayment
    obtain ⟨row', hrow', hrowDeal', hrowKey'⟩ := h.entitled payer hpayer (hphase ▸ rfl)
    -- both rows have the key, so they are one row, and both calls signed its deal
    obtain rfl := h.keys.eq_of_mem hrow hrow' (hrowKey.trans hnew)
      (hrowKey'.trans (hpayerKey.trans hkey))
    exact hfresh payment hpayment (hdeal.symm.trans (hrowDeal'.symm.trans hrowDeal))
  · exact h.paidDeals.concat fun payment hpayment key hkey hnew =>
      hfresh payment hpayment (Option.some.inj (hkey.trans hnew.symm))

theorem createDeal (hfresh : s.callOf draft.deal.hash = none) : BuyerInv (s.createDeal draft) := by
  unfold BuyerState.createDeal
  split
  case h_1 => exact h
  case h_2 =>
    refine ⟨h.keys, h.calls.concat fun call hcall key hkey hnew => ?_, fun call hcall hent => ?_,
      fun payment hpayment => ?_, h.paidKeys, h.paidDeals⟩
    · have hne := selectWhere_none hfresh hcall
      rw [Option.some.inj (hkey.trans hnew.symm), beq_self_eq_true] at hne
      exact Bool.false_ne_true hne.symm
    · rcases mem_concat.mp hcall with hold | hnew
      · exact h.entitled call hold hent
      · rw [hnew] at hent
        cases hent
    · obtain ⟨payer, hpayer, hfacts⟩ := h.paid payment hpayment
      exact ⟨payer, mem_append_left _ hpayer, hfacts⟩

theorem submit (env : RequesterEnv) (hcall : { draft, phase := .quoted } ∈ s.calls) (now : ℤ) :
    BuyerInv (s.submit env draft now) := by
  have hne : ({ draft, phase := .quoted } : CreateCall).phase ≠ .paid := CreatePhase.noConfusion
  unfold BuyerState.submit
  split
  case isTrue => exact h.setPhase (.refl _) hcall hne _ fun hent => absurd hent Bool.false_ne_true
  case isFalse =>
    split
    case isFalse =>
      exact h.setPhase (.refl _) hcall hne _ fun hent => absurd hent Bool.false_ne_true
    case isTrue =>
      have hrows :=
        rowsKept_insertOrGet (draft.newDeal draft.deal.hash submissionPending now) s.rows
      split
      case h_1 hinsert =>
        rw [hinsert] at hrows
        exact h.setPhase hrows hcall hne _ fun _ => durable_of_created hinsert
      case h_2 hinsert =>
        rw [hinsert] at hrows
        exact h.setPhase hrows hcall hne _ fun hent => absurd hent Bool.false_ne_true

theorem answer (env : RequesterEnv)
    (hcall : { draft, phase := .submitting a2aIntentCreated } ∈ s.calls) (remote : DealRecord)
    (now : ℤ) : BuyerInv (s.answer env draft a2aIntentCreated remote now) := by
  have hne : ({ draft, phase := .submitting a2aIntentCreated } : CreateCall).phase ≠ .paid :=
    CreatePhase.noConfusion
  unfold BuyerState.answer
  split
  case isTrue => exact h.setPhase (.refl _) hcall hne _ fun hent => absurd hent Bool.false_ne_true
  case isFalse =>
    have hrows := rowsKept_insertOrGet (draft.newDeal remote.dealId remote.status now) s.rows
    split
    case h_1 created rows hinsert =>
      rw [hinsert] at hrows
      refine h.setPhase hrows hcall hne _ fun hent => ?_
      -- the row came with this insert, or with the intent before it
      rcases Bool.or_eq_true_iff.mp hent with rfl | rfl
      · exact durable_of_created hinsert
      · exact hrows.durable _ (h.entitled _ hcall rfl)
    case h_2 hinsert =>
      rw [hinsert] at hrows
      exact h.setPhase hrows hcall hne _ fun hent => absurd hent Bool.false_ne_true

theorem restart : BuyerInv { s with calls := s.calls.map CreateCall.abandoned } := by
  refine ⟨h.keys, ?_, fun call hcall hent => ?_, fun payment hpayment => ?_, h.paidKeys,
    h.paidDeals⟩
  · have hkeys := h.calls
    unfold Table.Unique at hkeys ⊢
    rw [filterMap_map]
    simpa only [Function.comp_def, CreateCall.abandoned_draft] using hkeys
  · obtain ⟨old, hold, rfl⟩ := mem_map.mp hcall
    rw [CreateCall.abandoned_draft]
    unfold CreateCall.abandoned at hent
    split at hent
    case isTrue => exact h.entitled old hold hent
    case isFalse => cases hent
  · obtain ⟨payer, hpayer, hphase, hfacts⟩ := h.paid payment hpayment
    exact ⟨payer, mem_map.mpr ⟨payer, hpayer, if_pos (beq_iff_eq.mpr hphase)⟩, hphase, hfacts⟩

end

theorem step (env : RequesterEnv) (s : BuyerState) (a : BuyerAction) (h : BuyerInv s) :
    BuyerInv (buyerStep env s a) := by
  cases a with
  | createDeal draft =>
    dsimp only [buyerStep]
    split
    case isTrue => exact h
    case isFalse hfresh => exact h.createDeal (by simpa [BuyerState.signed] using hfresh)
  | submit dealHash now =>
    dsimp only [buyerStep]
    split
    case h_1 draft hcall => exact h.submit env (callOf_some hcall).1 now
    case h_2 => exact h
  | answer dealHash remote now =>
    dsimp only [buyerStep]
    split
    case h_1 draft a2a hcall => exact h.answer env (callOf_some hcall).1 remote now
    case h_2 => exact h
  | pay dealHash =>
    dsimp only [buyerStep]
    split
    case h_2 => exact h
    case h_1 draft invoice created a2a hcall =>
      obtain ⟨hmem, -⟩ := callOf_some hcall
      have hended := h.setPhase (.refl _) hmem CreatePhase.noConfusion .ended
        fun hent => absurd hent Bool.false_ne_true
      unfold BuyerState.pay
      split
      case h_2 => exact hended
      case h_1 invoice =>
        split
        case isTrue hentitled => exact h.pay hmem CreatePhase.noConfusion hentitled invoice
        case isFalse => exact hended
  | endCall dealHash =>
    dsimp only [buyerStep]
    split
    case h_1 => exact h
    case h_2 => exact h
    case h_3 call hne hcall =>
      obtain ⟨hmem, rfl⟩ := callOf_some hcall
      refine h.setPhase (.refl _) hmem (fun hpaid => ?_) _
        fun hent => absurd hent Bool.false_ne_true
      exact hne call.draft (by rw [← hpaid])
  | restart => exact h.restart
  | storeAnswer snapshot remote updatedAt =>
    have hrows := rowsKept_storeAnswer snapshot remote updatedAt s.rows
    exact ⟨hrows.keys h.keys, h.calls,
      fun call hcall hent => hrows.durable _ (h.entitled call hcall hent), h.paid, h.paidKeys,
      h.paidDeals⟩

end BuyerInv

theorem buyerInv_run (env : RequesterEnv) (actions : List BuyerAction) :
    BuyerInv ((buyerMachine env).run actions) :=
  (buyerMachine env).invariant
    ⟨unique_nil _, unique_nil _, forall_mem_nil _, forall_mem_nil _,
      unique_nil _, unique_nil _⟩ (BuyerInv.step env) actions

theorem payments_buyerStep (env : RequesterEnv) {s : BuyerState} (h : BuyerInv s)
    (a : BuyerAction) : (buyerStep env s a).payments = s.payments
      ∨ ∃ (draft : CreateDraft) (invoice : PrepaidInvoice),
        (buyerStep env s a).payments = s.payments ++ [draft.payment invoice]
        ∧ draft.Durable s.rows := by
  cases a with
  | pay dealHash =>
    dsimp only [buyerStep]
    split
    case h_2 => exact .inl rfl
    case h_1 draft invoice created a2a hcall =>
      unfold BuyerState.pay
      split
      case h_2 => exact .inl rfl
      case h_1 invoice =>
        split
        case isFalse => exact .inl rfl
        case isTrue hentitled =>
          exact .inr ⟨draft, invoice, rfl, h.entitled _ (BuyerInv.callOf_some hcall).1 hentitled⟩
  | createDeal draft =>
    dsimp only [buyerStep, BuyerState.createDeal]
    split
    · exact .inl rfl
    · split <;> exact .inl rfl
  | submit dealHash now =>
    dsimp only [buyerStep, BuyerState.submit]
    split
    · split
      · exact .inl rfl
      · split
        · split <;> exact .inl rfl
        · exact .inl rfl
    · exact .inl rfl
  | answer dealHash remote now =>
    dsimp only [buyerStep, BuyerState.answer]
    split
    · split
      · exact .inl rfl
      · split <;> exact .inl rfl
    · exact .inl rfl
  | endCall dealHash =>
    dsimp only [buyerStep]
    split <;> exact .inl rfl
  | restart => exact .inl rfl
  | storeAnswer snapshot remote updatedAt => exact .inl rfl

/-- **The buyer pays at most once.** In every run, no two payments are for one
idempotency key and no two for one deal; and a payment is only ever started when
the row of its deal is in the table, under the key of the call. -/
theorem buyer_pays_once (env : RequesterEnv) (actions : List BuyerAction) :
    let s := (buyerMachine env).run actions
    (s.payments.filterMap (·.idempotencyKey)).Nodup
    ∧ (s.payments.map (·.dealHash)).Nodup
    ∧ ∀ a, (buyerStep env s a).payments = s.payments
      ∨ ∃ payment, (buyerStep env s a).payments = s.payments ++ [payment]
        ∧ ∃ row ∈ s.rows, row.deal.hash = payment.dealHash
          ∧ row.idempotencyKey = payment.idempotencyKey := by
  intro s
  have h : BuyerInv s := buyerInv_run env actions
  refine ⟨h.paidKeys, ?_, fun a => ?_⟩
  · have hdeals := h.paidDeals
    unfold Table.Unique at hdeals
    rwa [show (fun payment : BuyerPayment => some payment.dealHash)
      = some ∘ BuyerPayment.dealHash from rfl, filterMap_eq_map] at hdeals
  · obtain hsame | ⟨draft, invoice, hpaid, hdurable⟩ := payments_buyerStep env h a
    · exact .inl hsame
    · exact .inr ⟨_, hpaid, hdurable⟩

/-! ## What is paid was accepted -/

/-- The invoice came with an answer to the call, among `actions`, that passed every check. -/
def CreateDraft.Accepted (draft : CreateDraft) (env : RequesterEnv) (actions : List BuyerAction)
    (invoice : PrepaidInvoice) : Prop :=
  draft.quote.payload.settlementTerms.method = settlementMethodLightningPrepaid
    ∧ ∃ remote now, .answer draft.deal.hash remote now ∈ actions
      ∧ remote.prepaidInvoice = some invoice ∧ verifyCreateAnswer env draft remote now = .ok ()

def CreatePhase.invoice : CreatePhase → Option PrepaidInvoice
  | .persisted invoice _ _ => invoice
  | _ => none

/-- After `actions`, an invoice that is held by a call was accepted for it, and so was every
invoice that a call has paid. -/
structure PaysAccepted (env : RequesterEnv) (actions : List BuyerAction) (s : BuyerState) :
    Prop where
  calls : ∀ call ∈ s.calls, ∀ invoice ∈ call.phase.invoice,
    call.draft.Accepted env actions invoice
  payments : ∀ payment ∈ s.payments, ∃ draft ∈ s.calls.map (·.draft), ∃ invoice,
    draft.payment invoice = payment ∧ draft.Accepted env actions invoice

theorem drafts_setPhase (s : BuyerState) (dealHash : String) (phase : CreatePhase) :
    (s.setPhase dealHash phase).calls.map (·.draft) = s.calls.map (·.draft) := by
  show map _ (updateWhere _ _ s.calls) = _
  unfold updateWhere
  rw [map_map]
  refine map_congr_left fun call _ => ?_
  dsimp only [Function.comp_apply]
  split <;> rfl

namespace PaysAccepted

variable {env : RequesterEnv} {actions : List BuyerAction} {s : BuyerState}
  {phase : CreatePhase} {invoice : PrepaidInvoice}
  (h : PaysAccepted env actions s)
include h

theorem concat (a : BuyerAction) : PaysAccepted env (actions ++ [a]) s := by
  have hmore : ∀ {draft invoice}, CreateDraft.Accepted draft env actions invoice →
      draft.Accepted env (actions ++ [a]) invoice := by
    rintro draft invoice ⟨hmethod, remote, now, hanswer, haccepted⟩
    exact ⟨hmethod, remote, now, mem_append_left _ hanswer, haccepted⟩
  refine ⟨fun call hcall invoice hinvoice => hmore (h.calls call hcall invoice hinvoice),
    fun payment hpayment => ?_⟩
  obtain ⟨draft, hdraft, invoice, hpaid, haccepted⟩ := h.payments payment hpayment
  exact ⟨draft, hdraft, invoice, hpaid, hmore haccepted⟩

theorem setPhase (hphase : ∀ call ∈ s.calls, call.draft.deal.hash = dealHash →
      ∀ invoice ∈ phase.invoice, call.draft.Accepted env actions invoice) :
    PaysAccepted env actions ({ s with rows }.setPhase dealHash phase) := by
  refine ⟨fun call' hcall' => ?_, ?_⟩
  · obtain ⟨call, hcall, rfl⟩ := mem_updateWhere.mp hcall'
    split
    case isTrue hmine => exact hphase call hcall (beq_iff_eq.mp hmine)
    case isFalse => exact h.calls call hcall
  · rw [drafts_setPhase]
    exact h.payments

theorem leave (hphase : phase.invoice = none) :
    PaysAccepted env actions ({ s with rows }.setPhase dealHash phase) :=
  h.setPhase fun _ _ _ _ hinvoice => by cases hphase.symm.trans hinvoice

theorem pay (hdraft : draft ∈ s.calls.map (·.draft))
    (haccepted : draft.Accepted env actions invoice) :
    PaysAccepted env actions { s with payments := s.payments ++ [draft.payment invoice] } := by
  refine ⟨h.calls, fun payment hpayment => ?_⟩
  rcases mem_concat.mp hpayment with hold | rfl
  · exact h.payments payment hold
  · exact ⟨draft, hdraft, invoice, rfl, haccepted⟩

theorem answer (hinv : BuyerInv s)
    (hcall : { draft, phase := .submitting a2aIntentCreated } ∈ s.calls) {remote : DealRecord}
    {now : ℤ} (hanswer : .answer draft.deal.hash remote now ∈ actions) :
    PaysAccepted env actions (s.answer env draft a2aIntentCreated remote now) := by
  unfold BuyerState.answer
  split
  case isTrue => exact h.leave rfl
  case isFalse hverify =>
    split
    case h_2 => exact h.leave rfl
    case h_1 =>
      refine h.setPhase fun call hmem hhash invoice hinvoice => ?_
      -- the call is the one that was answered
      obtain rfl := hinv.calls.eq_of_mem hmem hcall rfl (congrArg some hhash.symm)
      obtain ⟨hmethod, hinvoice⟩ : draft.quote.payload.settlementTerms.method
          = settlementMethodLightningPrepaid ∧ remote.prepaidInvoice = some invoice := by
        simpa [CreatePhase.invoice] using hinvoice
      exact ⟨hmethod, remote, now, hanswer, hinvoice, passes_iff.mp (by simpa using hverify)⟩

theorem step (hinv : BuyerInv s) (a : BuyerAction) :
    PaysAccepted env (actions ++ [a]) (buyerStep env s a) := by
  replace h := h.concat a
  cases a with
  | createDeal draft =>
    dsimp only [buyerStep, BuyerState.createDeal]
    split
    · exact h
    · split
      · exact h
      · refine ⟨fun call hcall => ?_, fun payment hpayment => ?_⟩
        · rcases mem_concat.mp hcall with hold | rfl
          · exact h.calls call hold
          · exact fun _ hinvoice => by cases hinvoice
        · obtain ⟨draft, hdraft, hpaid⟩ := h.payments payment hpayment
          exact ⟨draft, by rw [map_append]; exact mem_append_left _ hdraft, hpaid⟩
  | submit dealHash now =>
    dsimp only [buyerStep, BuyerState.submit]
    repeat' split
    all_goals first | exact h | exact h.leave rfl
  | answer dealHash remote now =>
    dsimp only [buyerStep]
    split
    case h_1 draft a2a hcall =>
      obtain ⟨hmem, rfl⟩ := BuyerInv.callOf_some hcall
      exact h.answer hinv hmem mem_concat_self
    case h_2 => exact h
  | pay dealHash =>
    dsimp only [buyerStep, BuyerState.pay]
    split
    case h_2 => exact h
    case h_1 draft invoice created a2a hcall =>
      split
      case h_2 => exact h.leave rfl
      case h_1 invoice =>
        have hmem := (BuyerInv.callOf_some hcall).1
        split
        · exact (h.pay (mem_map_of_mem hmem) (h.calls _ hmem invoice rfl)).leave rfl
        · exact h.leave rfl
  | endCall dealHash =>
    dsimp only [buyerStep]
    split
    · exact h
    · exact h
    · exact h.leave rfl
  | restart =>
    refine ⟨fun call' hcall' => ?_, ?_⟩
    · obtain ⟨call, hcall, rfl⟩ := mem_map.mp hcall'
      unfold CreateCall.abandoned
      split
      · exact h.calls call hcall
      · exact fun _ hinvoice => by cases hinvoice
    · simpa only [buyerStep, map_map, Function.comp_def, CreateCall.abandoned_draft]
        using h.payments
  | storeAnswer snapshot remote updatedAt => exact ⟨h.calls, h.payments⟩

end PaysAccepted

/-- What is paid was accepted: a payment is the one of a call that has paid, and its
invoice came with an answer to that call. -/
theorem paid_accepted (env : RequesterEnv) (actions : List BuyerAction) {payment : BuyerPayment}
    (hpayment : payment ∈ ((buyerMachine env).run actions).payments) :
    ∃ call ∈ ((buyerMachine env).run actions).calls, call.phase = .paid
      ∧ ∃ invoice, call.draft.payment invoice = payment
        ∧ call.draft.Accepted env actions invoice := by
  have hinv := buyerInv_run env actions
  have haccepted : PaysAccepted env actions ((buyerMachine env).run actions) :=
    (buyerMachine env).invariant_history ⟨forall_mem_nil _, forall_mem_nil _⟩
      (fun actions a h => h.step (buyerInv_run env actions) a) actions
  obtain ⟨draft, hdraft, invoice, hpaid, hinvoice⟩ := haccepted.payments payment hpayment
  obtain ⟨call, hcall, rfl⟩ := mem_map.mp hdraft
  obtain ⟨payer, hpayer, hphase, -, hdeal⟩ := hinv.paid payment hpayment
  obtain rfl := hinv.calls.eq_of_mem hpayer hcall rfl
    (congrArg some ((congrArg BuyerPayment.dealHash hpaid).trans hdeal.symm))
  exact ⟨payer, hpayer, hphase, invoice, hpaid, hinvoice⟩

end Froglet
