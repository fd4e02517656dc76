import Froglet.Provider.Invariant

/-!
# No execution before funding

A deal on a quote with a positive total is executed from the status `accepted`, and
there are three ways into it: the promotion of a Lightning deal on a funded bundle, that
of a prepaid deal on a proven payment, and the materialization of a Stripe payment.
-/

namespace Froglet

open List Option Table

variable {P : Primitives} {config : NodeConfig} {new : DealStatus} {o : Observation}
variable {log : List Observation} {admitted : List StoredDeal} {id : String} {old : DealStatus}
variable {amountSats totalSats : ℕ} {e : Effect} {request : CreateDealRequest}
variable {rail : Option PaymentMethod}

def StripePaymentOk (config : NodeConfig) : ProviderAction → Prop
  | .createDealRecord request _ _ _ _ _ _ =>
    request.quote.payload.settlementTerms.method = settlementMethodStripeMpp →
      ∀ payment ∈ request.payment, config.driverFor payment.kind ≠ some .x402
  | _ => True

def Observation.authorized (dealId intent : String) : Observation :=
  .driverAnswer dealId (.paymentIntent intent "requires_capture")

inductive Funded (P : Primitives) (log : List Observation) (row : StoredDeal) : Prop
  | lightning {session : LightningInvoiceBundleSession} (hsession : .bundle session ∈ log)
      (hof : session.isOf row = true) (hfunded : lightningBundleIsFunded session = true)
  | prepaid {hash : String} {amountSats : ℕ} {payment : IncomingPayment}
      (hmethod : row.paymentMethod = some .lightningPrepaid)
      (htoken : row.paymentTokenHash = some hash)
      (hamount : row.paymentAmountSats = some amountSats)
      (hpayment : .payment hash payment ∈ log)
      (hproof : validatePrepaidPaymentProof P hash amountSats payment = .ok ())
  | stripe {intent : String} (hmethod : row.paymentMethod = some .stripe)
      (htoken : row.paymentTokenHash = some intent)
      (hauthorized : .authorized row.dealId intent ∈ log)

/-! ## What the way to funding rests on -/

def DealStatus.isCleared : DealStatus → Bool
  | accepted | running => true
  | _ => false

structure MaterializationRecord.Authorized (config : NodeConfig) (log : List Observation)
    (record : MaterializationRecord) : Prop where
  driver : ∀ {priceSats payment requestId},
    record.request = .stripePayment priceSats payment requestId →
      config.driverFor payment.kind ≠ some .x402
  resource : ∀ resource ∈ record.resource, .authorized record.dealId resource.paymentIntentId ∈ log

def StoredDeal.Invoiced (invoices : List (String × PrepaidInvoice)) (deal : StoredDeal) : Prop :=
  deal.paymentMethod = some .lightningPrepaid → deal.paymentTokenHash ≠ none →
    ∃ invoice ∈ invoices, invoice.1 = deal.dealId

def StoredDeal.Kept (deals : Deals) (deal : StoredDeal) : Prop :=
  deal.paymentMethod = some .lightningPrepaid → ∀ hash, deal.paymentTokenHash = some hash →
    ∀ row ∈ deals, row.dealId = deal.dealId → row.paymentTokenHash = some hash

def Observation.Backed (config : NodeConfig) (s : ProviderState) : Observation → Prop
  | claim record => record.Authorized config s.log
  | reservation dealId r => .authorized dealId r.tokenHash ∈ s.log
  | deal row => row.Invoiced s.prepaidInvoices ∧ row.Kept s.store.deals
  | _ => True

structure FundingInv (P : Primitives) (config : NodeConfig) (s : ProviderState) : Prop where
  rows : ∀ row ∈ s.store.deals, row.status.isCleared = true → row.totalSats ≠ 0 →
    Funded P s.log row
  records : ∀ record ∈ s.materializations, record.Authorized config s.log
  invoiced : ∀ row ∈ s.store.deals, row.Invoiced s.prepaidInvoices
  log : ∀ o ∈ s.log, o.Backed config s

variable {row : StoredDeal} {record : MaterializationRecord}

section Mono

variable {log log' : List Observation} (hlog : log ⊆ log')
include hlog

theorem Funded.mono (h : Funded P log row) : Funded P log' row := by
  cases h with
  | lightning hsession hof hfunded => exact .lightning (hlog hsession) hof hfunded
  | prepaid hmethod htoken hamount hpayment hproof =>
    exact .prepaid hmethod htoken hamount (hlog hpayment) hproof
  | stripe hmethod htoken hauthorized => exact .stripe hmethod htoken (hlog hauthorized)

theorem MaterializationRecord.Authorized.mono (h : record.Authorized config log) :
    record.Authorized config log' :=
  ⟨h.driver, fun resource hresource => hlog (h.resource resource hresource)⟩

end Mono

variable {row' : StoredDeal}

theorem Funded.step {call : DealCall} (h : Funded P log row) (hstep : RowStep call row row')
    (hpayment : call.payment = none) : Funded P log row' := by
  obtain ⟨htoken', hamount'⟩ := hstep.noPayment hpayment
  have hmethod' := paymentMethod_of_identity hstep.identity
  cases h with
  | lightning hsession hof hfunded =>
    refine .lightning hsession ?_ hfunded
    rwa [LightningInvoiceBundleSession.isOf, hmethod', artifact_of_identity hstep.identity]
  | prepaid hmethod htoken hamount hpaid hproof =>
    exact .prepaid (hmethod'.trans hmethod) (htoken'.trans htoken) (hamount'.trans hamount) hpaid
      hproof
  | stripe hmethod htoken hauthorized =>
    refine .stripe (hmethod'.trans hmethod) (htoken'.trans htoken) ?_
    rwa [hstep.dealId_eq]

section Effects

variable {env : ProviderEnv P} {s : ProviderState}

def DealCall.PaysNoPrepaid (admitted : List StoredDeal) (call : DealCall) : Prop :=
  call.payment ≠ none → ∀ row ∈ admitted, ∀ old new,
    call.target = some (row.dealId, old, new) → row.paymentMethod ≠ some .lightningPrepaid

theorem DealCall.PaysNoPrepaid.of_none {call : DealCall} (h : call.payment = none) :
    call.PaysNoPrepaid admitted :=
  fun hpayment => absurd h hpayment

theorem DealCall.PaysNoPrepaid.token_eq {call : DealCall}
    (h : call.PaysNoPrepaid admitted) (hrow : Snapshot admitted row)
    (hstep : RowStep call row row') (hmethod : row.paymentMethod = some .lightningPrepaid) :
    row'.paymentTokenHash = row.paymentTokenHash := by
  cases hpayment : call.payment with
  | none => exact (hstep.noPayment hpayment).1
  | some payment =>
    obtain ⟨row₀, hrow₀, hident⟩ := hrow.known
    have hid₀ := dealId_of_identity hident
    refine absurd ?_ (h (hpayment ▸ some_ne_none _) row₀ hrow₀ _ _ (hid₀ ▸ hstep.target))
    rw [paymentMethod_of_identity hident, hmethod]

theorem StoredDeal.Kept.call (hinv : ProviderInv env s) {call : DealCall} {deal : StoredDeal}
    (hdeal : Snapshot s.store.admitted deal) (h : deal.Kept s.store.deals)
    (hcall : call.isInsert = false) (hpayment : call.PaysNoPrepaid s.store.admitted) :
    deal.Kept (call.apply P s.store).deals := by
  intro hmethod hash htoken row' hrow' hid
  obtain hrow | ⟨row, hrow, hstep⟩ := mem_apply_of_ne_insert hcall hrow'
  · exact h hmethod hash htoken row' hrow hid
  · rw [hstep.dealId_eq] at hid
    have hident := hinv.identity_eq (hinv.rows row hrow) hdeal hid
    rw [hpayment.token_eq (hinv.rows row hrow) hstep
      ((paymentMethod_of_identity hident).trans hmethod)]
    exact h hmethod hash htoken row hrow hid

theorem pending_of_payment {call : DealCall} (h : call.target = some (id, old, new))
    (hpayment : call.payment ≠ none) : old = .paymentPending := by
  cases call with
  | materializeStripe | materializePrepaid =>
    obtain ⟨-, h⟩ := Prod.mk.inj (some.inj h)
    exact (Prod.mk.inj h).1.symm
  | _ => exact absurd rfl hpayment

/-- A call keeps the invariant if it pays no prepaid deal and clears none that
is not funded. -/
theorem FundingInv.call (hinv : ProviderInv env s) (h : FundingInv P env.config s) {call : DealCall}
    (hcall : call.isInsert = false) (hpayment : call.PaysNoPrepaid s.store.admitted)
    (hfund : ∀ row ∈ s.store.deals, ∀ row', RowStep call row row' → row.status.isCleared = false →
      row'.status.isCleared = true → Funded P s.log row') :
    FundingInv P env.config (Effect.apply P s (.call call)) := by
  refine ⟨fun row' hrow' hcleared htotal => ?_, h.records, fun row' hrow' => ?_, fun o ho => ?_⟩
  · obtain hrow | ⟨row, hrow, hstep⟩ := mem_apply_of_ne_insert hcall hrow'
    · exact h.rows row' hrow hcleared htotal
    · cases hold : row.status.isCleared with
      | false => exact hfund row hrow row' hstep hold hcleared
      | true =>
        have hnone : call.payment = none := by
          by_contra hpay
          rw [pending_of_payment hstep.target hpay] at hold
          exact Bool.false_ne_true hold
        rw [totalSats_of_identity hstep.identity] at htotal
        exact (h.rows row hrow hold htotal).step hstep hnone
  · obtain hrow | ⟨row, hrow, hstep⟩ := mem_apply_of_ne_insert hcall hrow'
    · exact h.invoiced row' hrow
    · intro hmethod htoken
      rw [paymentMethod_of_identity hstep.identity] at hmethod
      rw [hpayment.token_eq (hinv.rows row hrow) hstep hmethod] at htoken
      rw [hstep.dealId_eq]
      exact h.invoiced row hrow hmethod htoken
  · have hback := h.log o ho
    cases o with
    | deal row => exact ⟨hback.1, hback.2.call hinv (hinv.log _ ho) hcall hpayment⟩
    | _ => exact hback

theorem Observation.Backed.mono {s s' : ProviderState} (h : o.Backed config s)
    (hlog : s.log ⊆ s'.log) (hinvoices : s.prepaidInvoices ⊆ s'.prepaidInvoices)
    (hdeals : s'.store.deals ⊆ s.store.deals) : o.Backed config s' := by
  cases o with
  | claim record => exact MaterializationRecord.Authorized.mono hlog h
  | reservation dealId r => exact hlog h
  | deal row =>
    refine ⟨fun hmethod htoken => ?_, fun hmethod hash htoken row' hrow' => ?_⟩
    · obtain ⟨invoice, hmem, hid⟩ := h.1 hmethod htoken
      exact ⟨invoice, hinvoices hmem, hid⟩
    · exact h.2 hmethod hash htoken row' (hdeals hrow')
  | _ => exact trivial

/-- What is read keeps the invariant if it can be relied on. -/
theorem FundingInv.observe (h : FundingInv P env.config s) (ho : o.Backed env.config s) :
    FundingInv P env.config (Effect.apply P s (.observe o)) := by
  have hlog : s.log ⊆ s.log ++ [o] := subset_append_left _ _
  refine ⟨fun row hrow hcleared htotal => (h.rows row hrow hcleared htotal).mono hlog,
    fun record hrecord => (h.records record hrecord).mono hlog, h.invoiced, fun o' ho' => ?_⟩
  have hback : o'.Backed env.config s := by
    rcases mem_concat.mp ho' with ho' | ho'
    · exact h.log o' ho'
    · rw [ho']
      exact ho
  exact hback.mono hlog (Subset.refl _) (Subset.refl _)

theorem FundingInv.materializations (h : FundingInv P env.config s)
    {materializations : List MaterializationRecord}
    (hrecords : ∀ record ∈ materializations, record.Authorized env.config s.log) :
    FundingInv P env.config { s with materializations } :=
  ⟨h.rows, hrecords, h.invoiced, h.log⟩

end Effects

/-! ## Steps -/

section Steps

variable {env : ProviderEnv P} {s s' : ProviderState} {a : ProviderAction}

structure FundingStep (env : ProviderEnv P) (s s' : ProviderState) : Prop where
  inv : FundingInv P env.config s'
  log : s.log ⊆ s'.log
  invoices : s.prepaidInvoices ⊆ s'.prepaidInvoices
  kept : ∀ row ∈ s.store.deals, row.Kept s'.store.deals

theorem FundingStep.refl (hinv : ProviderInv env s) (h : FundingInv P env.config s) :
    FundingStep env s s where
  inv := h
  log := Subset.refl _
  invoices := Subset.refl _
  kept row hrow _ hash htoken row' hrow' hid := by
    rw [hinv.admission.ids.eq_of_mem hrow' hrow (congrArg some hid) rfl]
    exact htoken

theorem FundingInv.reserved (hinv : ProviderInv env s) (h : FundingInv P env.config s)
    {reservation : PaymentReservation} (hclaim : .claim record ∈ s.held)
    (hreservation : s.Reserved record reservation) :
    .authorized record.dealId reservation.tokenHash ∈ s.log := by
  obtain hheld | ⟨resource, hresource, hinto⟩ := hreservation
  · exact h.log _ (hinv.logged hheld)
  · have hauthorized := (h.log _ (hinv.logged hclaim)).resource resource hresource
    rw [← fromReservation_of_intoReservation hinto] at hauthorized
    exact hauthorized

theorem FundingStep.call (hinv : ProviderInv env s) (hinv' : ProviderInv env s')
    (hsub : s.store.admitted ⊆ s'.store.admitted) (h : FundingStep env s s') {call : DealCall}
    (hcall : call.isInsert = false) (hpayment : call.PaysNoPrepaid s'.store.admitted)
    (hfund : ∀ row ∈ s'.store.deals, ∀ row', RowStep call row row' → row.status.isCleared = false →
      row'.status.isCleared = true → Funded P s'.log row') :
    FundingStep env s (Effect.apply P s' (.call call)) where
  inv := h.inv.call hinv' hcall hpayment hfund
  log := h.log
  invoices := h.invoices
  kept row hrow := (h.kept row hrow).call hinv' ((hinv.rows row hrow).mono hsub) hcall hpayment

theorem clears_of_target {call : DealCall} (h : call.target = some (id, old, new))
    (hold : old.isCleared = false) (hnew : new.isCleared = true) :
    (∃ now, call = .promote id now) ∨ call.payment ≠ none := by
  cases call with
  | insert => cases h
  | promote dealId now =>
    obtain ⟨rfl, -⟩ := Prod.mk.inj (some.inj h)
    exact .inl ⟨now, rfl⟩
  | materializeStripe | materializePrepaid => exact .inr (some_ne_none _)
  | _ =>
    obtain ⟨-, h⟩ := Prod.mk.inj (some.inj h)
    obtain ⟨rfl, rfl⟩ := Prod.mk.inj h
    first
      | exact absurd hnew Bool.false_ne_true
      | exact absurd hold.symm Bool.false_ne_true

theorem FundingStep.plain (hinv : ProviderInv env s) (hinv' : ProviderInv env s')
    (hsub : s.store.admitted ⊆ s'.store.admitted) (h : FundingStep env s s') {call : DealCall}
    (hcall : call.isInsert = false) (hpromote : ∀ id now, call ≠ .promote id now)
    (hpayment : call.payment = none) : FundingStep env s (Effect.apply P s' (.call call)) := by
  refine h.call hinv hinv' hsub hcall (.of_none hpayment) fun row _ row' hstep hold hnew => ?_
  obtain ⟨now, heq⟩ | hpay := clears_of_target hstep.target hold hnew
  · exact absurd heq (hpromote _ now)
  · exact absurd hpayment hpay

variable {now : ℤ}

theorem funded_of_bundle (hinv' : ProviderInv env s') {deal : StoredDeal}
    {session : LightningInvoiceBundleSession} (hdeal : .deal deal ∈ s'.log)
    (hsession : .bundle session ∈ s'.log) (hof : session.isOf deal = true)
    (hfunded : lightningBundleIsFunded session = true) (hrow : row ∈ s'.store.deals)
    (hstep : RowStep (.promote deal.dealId now) row row') : Funded P s'.log row' := by
  have hid : deal.dealId = row.dealId := (Prod.mk.inj (some.inj hstep.target)).1
  have hident := hinv'.identity_eq (hinv'.log _ hdeal) (hinv'.rows row hrow) hid
  have hident := hstep.identity.trans hident.symm
  refine .lightning hsession ?_ hfunded
  rwa [LightningInvoiceBundleSession.isOf, paymentMethod_of_identity hident,
    artifact_of_identity hident]

theorem funded_of_payment (hinv' : ProviderInv env s') (h' : FundingInv P env.config s')
    {deal : StoredDeal} {paymentHash : String} {payment : IncomingPayment}
    (hdeal : .deal deal ∈ s'.log) (hpayment : .payment paymentHash payment ∈ s'.log)
    (hmethod : deal.paymentMethod = some .lightningPrepaid)
    (htoken : deal.paymentTokenHash = some paymentHash)
    (hamount : deal.paymentAmountSats = some amountSats)
    (hproof : validatePrepaidPaymentProof P paymentHash amountSats payment = .ok ())
    (hrow : row ∈ s'.store.deals) (hstep : RowStep (.promote deal.dealId now) row row') :
    Funded P s'.log row' := by
  have hid : deal.dealId = row.dealId := (Prod.mk.inj (some.inj hstep.target)).1
  have hsnapshot : Snapshot s'.store.admitted deal := hinv'.log _ hdeal
  have hident := hinv'.identity_eq hsnapshot (hinv'.rows row hrow) hid
  have hmethod' := paymentMethod_of_identity hident
  have hpaid : deal.paymentMethod ≠ none := hmethod ▸ some_ne_none _
  obtain ⟨htoken', hamount'⟩ := hstep.noPayment rfl
  have hkept := (h'.log _ hdeal).2 hmethod paymentHash htoken row hrow hid.symm
  refine .prepaid ?_ (htoken'.trans hkept) (hamount'.trans ?_) hpayment hproof
  · rw [paymentMethod_of_identity hstep.identity, ← hmethod', hmethod]
  · rw [(hinv'.rows row hrow).amount (hmethod' ▸ hpaid),
      ← totalSats_of_identity hident, ← hsnapshot.amount hpaid, hamount]

theorem funded_of_authorized {tokenHash : String} (hinv' : ProviderInv env s')
    (hmethod : ∀ row₀ ∈ s'.store.admitted, row₀.dealId = row.dealId →
      row₀.paymentMethod = some .stripe)
    (hauthorized : .authorized row.dealId tokenHash ∈ s'.log) (hrow : row ∈ s'.store.deals)
    (hstep : RowStep (.materializeStripe row.dealId tokenHash amountSats now) row row') :
    Funded P s'.log row' := by
  obtain ⟨row₀, hrow₀, hident⟩ := (hinv'.rows row hrow).known
  have hident' := hstep.identity.trans hident.symm
  refine .stripe ?_ (hstep.payment _ _ rfl).1 ?_
  · rw [paymentMethod_of_identity hident']
    exact hmethod row₀ hrow₀ (dealId_of_identity hident)
  · rw [hstep.dealId_eq]
    exact hauthorized

theorem FundingStep.observe (h : FundingStep env s s') (ho : o.Backed env.config s') :
    FundingStep env s (Effect.apply P s' (.observe o)) where
  inv := h.inv.observe ho
  log := subset_append_of_subset_left _ h.log
  invoices := h.invoices
  kept := h.kept

def Effect.isPaired : Effect → Bool
  | observe (.reservation ..) | insertPrepaidInvoice .. => true
  | _ => false

theorem not_paired_of_inert (h : e.isInert = true) : e.isPaired = false := by
  cases e with
  | observe o =>
    cases o with
    | reservation => cases h
    | _ => rfl
  | insertPrepaidInvoice => cases h
  | _ => rfl

theorem FundingStep.inert (hinv : ProviderInv env s) (hinv' : ProviderInv env s')
    (hsub : s.store.admitted ⊆ s'.store.admitted) (h : FundingStep env s s')
    (he : e.isInert = true) : FundingStep env s (e.apply P s') := by
  cases e with
  | call call =>
    cases call with
    | holdExternalOutcome | stageResultReady | stageSettlementPending | cancelUnadmitted =>
      exact h.plain hinv hinv' hsub rfl
        (fun _ _ => DealCall.noConfusion) rfl
    | _ => cases he
  | observe o =>
    cases o with
    | deal | claim | reservation => cases he
    | _ => exact h.observe trivial
  | setClaim dealId claimToken claimExpiresAt nextAttemptAt =>
    refine { h with inv := h.inv.materializations (fun record' hmem => ?_) }
    obtain ⟨record, hrecord, rfl⟩ := mem_updateWhere.mp hmem
    have hauthorized := h.inv.records record hrecord
    split
    case isTrue => exact ⟨hauthorized.driver, hauthorized.resource⟩
    case isFalse => exact hauthorized
  | deleteMaterialization dealId =>
    refine { h with inv := h.inv.materializations (fun record hmem => ?_) }
    exact h.inv.records record (mem_deleteWhere.mp hmem).1
  | insertBundle | updateBundle | insertOutbox | deleteOutbox =>
    exact { h with inv := { h.inv with } }
  | _ => cases he

/-- An effect of an action keeps the invariant, where it does not rely on the
one before it. -/
theorem FundingStep.apply (hinv : ProviderInv env s) (h₀ : FundingInv P env.config s)
    (hinv' : ProviderInv env s') (hsame : s'.store.admitted = s.store.admitted)
    (h : FundingStep env s s') (he : Arises env s a e)
    (hpaired : ∀ e ∈ a.effects env s, e.isPaired = false) (hmem : e ∈ a.effects env s) :
    FundingStep env s (e.apply P s') := by
  have hsub : s.store.admitted ⊆ s'.store.admitted := hsame ▸ Subset.refl _
  have hheld {o : Observation} (ho : o ∈ s.held) : o ∈ s'.log := h.log (hinv.logged ho)
  cases he with
  | inert hinert => exact h.inert hinv hinv' hsub hinert
  | @restart decodes ha =>
    have hdeals : quarantineInvalidDeals decodes s'.store.deals ⊆ s'.store.deals :=
      fun row hrow => (mem_deleteWhere.mp hrow).1
    refine ⟨⟨fun row hrow => h.inv.rows row (hdeals hrow), fun record' hrecord' => ?_,
      fun row hrow => h.inv.invoiced row (hdeals hrow), fun o ho => ?_⟩, h.log, h.invoices,
      fun row hrow hmethod hash htoken row' hrow' =>
        h.kept row hrow hmethod hash htoken row' (hdeals hrow')⟩
    · obtain ⟨record, hrecord, rfl⟩ := mem_map.mp hrecord'
      have hauthorized := h.inv.records record hrecord
      exact ⟨hauthorized.driver, hauthorized.resource⟩
    · exact (h.inv.log o ho).mono (Subset.refl _) (Subset.refl _) hdeals
  | serve | returned | spawned =>
    exact { h with inv := { h.inv with } }
  | readDeal hrow =>
    refine h.observe ⟨fun hmethod htoken => ?_, h.kept _ hrow⟩
    obtain ⟨invoice, hinvoice, hid⟩ := h₀.invoiced _ hrow hmethod htoken
    exact ⟨invoice, h.invoices hinvoice, hid⟩
  | claimed hrecord =>
    have hauthorized := (h₀.records _ hrecord).mono h.log
    exact h.observe ⟨hauthorized.driver, hauthorized.resource⟩
  | reserved hact hclaim hrequest hprepare ha => exact absurd (hpaired _ hmem) Bool.noConfusion
  | invoiced => exact absurd (hpaired _ hmem) Bool.noConfusion
  | paidPrepaid hclaim hrequest hinvoice paymentHash now =>
    exact absurd (hpaired _ hinvoice) Bool.noConfusion
  | stored hclaim hreservation phase =>
    have hauthorized := h.log (h₀.reserved hinv hclaim hreservation)
    refine { h with inv := h.inv.materializations (fun record' hrecord' => ?_) }
    obtain ⟨record, hrecord, rfl⟩ := mem_updateWhere.mp hrecord'
    split
    case isTrue hmine =>
      refine ⟨(h.inv.records record hrecord).driver, fun resource hresource => ?_⟩
      rw [← some.inj hresource, beq_iff_eq.mp hmine]
      exact hauthorized
    case isFalse => exact h.inv.records record hrecord
  | paidStripe hclaim hreservation =>
    have hmethod := fun row₀ hrow₀ hid => (hinv.reserved hclaim hreservation row₀ hrow₀ hid).1
    rw [← hsame] at hmethod
    refine h.call hinv hinv' hsub rfl
      (fun _ row₀ hrow₀ old new htarget => ?_) fun row hrow row' hstep _ _ => ?_
    · have hid := (Prod.mk.inj (some.inj htarget)).1
      rw [hmethod row₀ hrow₀ hid.symm]
      decide
    · have hid := (Prod.mk.inj (some.inj hstep.target)).1
      have hauthorized := h.log (h₀.reserved hinv hclaim hreservation)
      rw [hid] at hstep hauthorized hmethod
      exact funded_of_authorized hinv' hmethod hauthorized hrow hstep
  | promotedLightning hdeal hsession hof hfunded now =>
    exact h.call hinv hinv' hsub rfl (.of_none rfl)
      fun row hrow row' hstep _ _ =>
        funded_of_bundle hinv' (hheld hdeal) (hheld hsession) hof hfunded hrow hstep
  | promotedPrepaid hdeal hpayment hmethod htoken hamount hproof now =>
    exact h.call hinv hinv' hsub rfl (.of_none rfl)
      fun row hrow row' hstep _ _ => funded_of_payment hinv' h.inv (hheld hdeal) (hheld hpayment)
        hmethod htoken hamount hproof hrow hstep
  | started | resetLocal | resetRemote =>
    exact h.plain hinv hinv' hsub rfl
      (fun _ _ => DealCall.noConfusion) rfl
  | @ended call deal old new r hdeal htarget hreceipt hcause =>
    cases call <;> first
      | exact absurd hreceipt.symm (some_ne_none r)
      | exact h.plain hinv hinv' hsub rfl
          (fun _ _ => DealCall.noConfusion) rfl

theorem FundingInv.reservation (hinv : ProviderInv env s) (h : FundingInv P env.config s)
    {priceSats : ℕ} {payment : ProvidedPayment} {requestId : String} {answer : DriverAnswer}
    {reservation : PaymentReservation} (hclaim : .claim record ∈ s.held)
    (hrequest : record.request = .stripePayment priceSats payment requestId)
    (hprepare : preparePaymentForAmount env.config priceSats (some payment) requestId answer
      = .ok (some reservation)) :
    FundingInv P env.config (Effect.apply P
      (Effect.apply P s (.observe (.driverAnswer record.dealId answer)))
      (.observe (.reservation record.dealId reservation))) := by
  have hdriver := (h.log _ (hinv.logged hclaim)).driver hrequest
  have hanswer := h.observe (o := .driverAnswer record.dealId answer) trivial
  obtain ⟨-, -, rfl⟩ | ⟨hx402, -⟩ := answer_of_preparePaymentForAmount hprepare
  · refine hanswer.observe ?_
    exact mem_concat_self
  · exact absurd hx402 hdriver

theorem FundingInv.insertPrepaidInvoice (h : FundingInv P env.config s) (dealId : String)
    (invoice : PrepaidInvoice) :
    FundingInv P env.config (Effect.apply P s (.insertPrepaidInvoice dealId invoice)) := by
  have hsub : s.prepaidInvoices ⊆ s.prepaidInvoices ++ [(dealId, invoice)] := subset_append_left _ _
  refine ⟨h.rows, h.records, fun row hrow hmethod htoken => ?_, fun o ho => ?_⟩
  · obtain ⟨invoice', hmem, hid⟩ := h.invoiced row hrow hmethod htoken
    exact ⟨invoice', hsub hmem, hid⟩
  · exact (h.log o ho).mono (Subset.refl _) hsub (Subset.refl _)

variable {dealId : String}

theorem FundingInv.materializePrepaid (h : FundingInv P env.config s)
    (hinvoice : ∃ invoice ∈ s.prepaidInvoices, invoice.1 = dealId)
    (hunset : ∀ deal, .deal deal ∈ s.log → deal.dealId = dealId →
      deal.paymentMethod = some .lightningPrepaid → deal.paymentTokenHash = none)
    (tokenHash : String) (amountSats : ℕ) (now : ℤ) :
    FundingInv P env.config
      (Effect.apply P s (.call (.materializePrepaid dealId tokenHash amountSats now))) := by
  have hrows {row' : StoredDeal}
      (hrow' : row' ∈ (DealCall.apply P s.store
        (.materializePrepaid dealId tokenHash amountSats now)).deals) :
      row' ∈ s.store.deals ∨ row'.dealId = dealId ∧ row'.status = .paymentPending := by
    refine (mem_apply_of_ne_insert rfl hrow').imp_right ?_
    rintro ⟨row, -, hstep⟩
    obtain ⟨hid, hstatus⟩ := Prod.mk.inj (some.inj hstep.target)
    exact ⟨hstep.dealId_eq.trans hid.symm, (Prod.mk.inj hstatus).2.symm⟩
  refine ⟨fun row' hrow' hcleared htotal => ?_, h.records, fun row' hrow' => ?_, fun o ho => ?_⟩
  · obtain hrow | ⟨-, hstatus⟩ := hrows hrow'
    · exact h.rows row' hrow hcleared htotal
    · rw [hstatus] at hcleared
      cases hcleared
  · obtain hrow | ⟨hid, -⟩ := hrows hrow'
    · exact h.invoiced row' hrow
    · exact fun _ _ => hid ▸ hinvoice
  · have hback := h.log o ho
    cases o with
    | deal deal =>
      refine ⟨hback.1, fun hmethod hash htoken row' hrow' hid => ?_⟩
      obtain hrow | ⟨hid', -⟩ := hrows hrow'
      · exact hback.2 hmethod hash htoken row' hrow hid
      · have hnone := hunset deal ho (hid.symm.trans hid') hmethod
        cases htoken.symm.trans hnone
    | _ => exact hback

theorem FundingInv.invoice (h : FundingInv P env.config s)
    {invoice : PrepaidInvoice} (hnew : s.getPrepaidInvoice dealId = none) (ha : a.effects env s
        = [.insertPrepaidInvoice dealId invoice, .deleteMaterialization dealId] ∨ a.effects env s
        = [.insertPrepaidInvoice dealId invoice, .deleteMaterialization dealId,
          .call (.materializePrepaid dealId invoice.paymentHash invoice.amountSat now)]) :
    FundingInv P env.config (providerStep env s a) := by
  have hbound : FundingInv P env.config (Effect.apply P
      (Effect.apply P s (.insertPrepaidInvoice dealId invoice))
      (.deleteMaterialization dealId)) := by
    refine (h.insertPrepaidInvoice dealId invoice).materializations fun record hmem => ?_
    exact h.records record (mem_deleteWhere.mp hmem).1
  unfold providerStep
  obtain ha | ha := ha
  · rw [ha]
    exact hbound
  · rw [ha]
    refine hbound.materializePrepaid ⟨_, mem_concat_self, rfl⟩
      (fun deal hdeal hid hmethod => ?_) _ _ _
    by_contra htoken
    obtain ⟨invoice', hmem, hid'⟩ := (h.log _ hdeal).1 hmethod htoken
    have hnone := selectWhere_none (map_eq_none_iff.mp hnew) hmem
    rw [hid', hid, beq_self_eq_true] at hnone
    cases hnone

theorem FundingStep.insert (hinv : ProviderInv env s) (h : FundingInv P env.config s)
    {rejection : Option AdmissionRejection}
    (hadmits : Admits env s a request dealId rail totalSats rejection now) :
    FundingStep env s (Effect.apply P s
      (.call (.insert (request.newDeal dealId rail totalSats now)))) := by
  obtain ⟨otherChecks, permit, laterFails, evidence, -, hcheck, -⟩ := hadmits.checked
  obtain ⟨hadmitted, -⟩ := admitted_of_checkDealRequest hcheck dealId
  have hdeals : (Effect.apply P s (.call (.insert (request.newDeal dealId rail totalSats
      now)))).store.deals = s.store.deals ++ [(request.newDeal dealId rail totalSats now).row] :=
    hadmits.inserts.deals
  have hkept {deal : StoredDeal} (hdeal : Snapshot s.store.admitted deal)
      (hkept : deal.Kept s.store.deals) :
      deal.Kept (s.store.deals ++ [(request.newDeal dealId rail totalSats now).row]) := by
    intro hmethod hash htoken row hrow hid
    rcases mem_concat.mp hrow with hrow | hrow
    · exact hkept hmethod hash htoken row hrow hid
    · rw [hrow] at hid
      obtain ⟨row₀, hrow₀, hident⟩ := hdeal.known
      exact absurd ((dealId_of_identity hident).trans hid.symm)
        (hadmits.fresh row₀ hrow₀)
  refine ⟨⟨fun row hrow hcleared htotal => ?_, h.records, fun row hrow => ?_, fun o ho => ?_⟩,
    Subset.refl _, Subset.refl _, fun row hrow => ?_⟩
  · rw [hdeals] at hrow
    rcases mem_concat.mp hrow with hrow | hrow
    · exact h.rows row hrow hcleared htotal
    · rw [hrow] at hcleared htotal
      obtain ⟨method, hrail⟩ := ne_none_iff_exists'.mp (hadmitted.paid htotal)
      replace hrail : rail = some method := hrail
      rw [hrail] at hcleared
      cases hcleared
  · rw [hdeals] at hrow
    rcases mem_concat.mp hrow with hrow | hrow
    · exact h.invoiced row hrow
    · rw [hrow]
      intro hmethod htoken
      replace hmethod : rail = some .lightningPrepaid := hmethod
      rw [hmethod] at htoken
      exact absurd rfl htoken
  · have hback := h.log o ho
    cases o with
    | deal deal =>
      refine ⟨hback.1, ?_⟩
      rw [hdeals]
      exact hkept (hinv.log _ ho) hback.2
    | _ => exact hback
  · rw [hdeals]
    exact hkept (hinv.rows row hrow) ((FundingStep.refl hinv h).kept row hrow)

theorem authorized_record {m : MaterializationRequest}
    (h : request.materialization dealId rail totalSats now = some m)
    (hstripe : rail = some .stripe →
      ∀ payment ∈ request.payment, config.driverFor payment.kind ≠ some .x402) :
    (m.record dealId now).Authorized config log := by
  refine ⟨fun {priceSats payment requestId} hrequest => ?_,
    fun resource hresource => absurd hresource (not_mem_none resource)⟩
  obtain rfl : m = .stripePayment priceSats payment requestId := hrequest
  unfold CreateDealRequest.materialization at h
  split at h
  case h_3 =>
    obtain ⟨payment', hpayment, heq⟩ := map_eq_some_iff.mp h
    obtain ⟨-, rfl, -⟩ := MaterializationRequest.stripePayment.inj heq
    exact hstripe rfl payment' hpayment
  all_goals cases h

/-- One action keeps the invariant of funding. -/
theorem FundingInv.step (hinv : ProviderInv env s) (h : FundingInv P env.config s)
    (hok : StripePaymentOk env.config a) :
    ProviderInv env (providerStep env s a) ∧ FundingInv P env.config (providerStep env s a) := by
  by_cases hpaired : ∃ e ∈ a.effects env s, e.isPaired = true
  · refine ⟨hinv.step a, ?_⟩
    obtain ⟨e, hmem, he⟩ := hpaired
    have hkind : e.admits = false := by cases e <;> first | rfl | cases he
    cases arises_of_mem_of_ne hmem hkind with
    | reserved hact hclaim hrequest hprepare heffects =>
      unfold providerStep
      rw [heffects]
      exact h.reservation hinv hclaim hrequest hprepare
    | invoiced hnew now howns heffects => exact h.invoice hnew heffects
    | inert hinert => exact absurd (he.symm.trans (not_paired_of_inert hinert)) Bool.noConfusion
    | _ => cases he
  · have hall : ∀ e ∈ a.effects env s, e.isPaired = false := fun e hmem =>
      Bool.eq_false_iff.mpr fun he => hpaired ⟨e, hmem, he⟩
    have hstep := hinv.step_induction (I := FundingStep env s) (a := a) (FundingStep.refl hinv h)
      (fun e hmem he s' hinv' hsame h' => h'.apply hinv h hinv' hsame he hall hmem)
      (fun hadmits => FundingStep.insert hinv h hadmits)
      (fun _ r _ s' hinv' hsame h' => ?_) fun hadmits m hm s' _ _ h' => ?_
    · exact ⟨hstep.1, hstep.2.inv⟩
    · exact h'.plain hinv hinv' (hsame ▸ subset_append_left _ _)
        rfl (fun _ _ => DealCall.noConfusion) rfl
    · refine { h' with inv := h'.inv.materializations (fun record hrecord => ?_) }
      rcases mem_insertMaterialization (P := P) hrecord with hrecord | rfl
      · exact h'.inv.records record hrecord
      · obtain ⟨otherChecks, permit, laterFails, evidence, rfl, hcheck, -⟩ := hadmits.checked
        obtain ⟨-, -, -, -, hrail, -, -⟩ := checkDealRequest_ok hcheck
        refine authorized_record hm fun hstripe => hok ?_
        exact (NodeConfig.rail_method (hrail.symm.trans hstripe)).2

end Steps

/-- **No execution before funding.** In every run in which the payments sent along
for Stripe deals do not go to the x402 driver, `try_mark_deal_running` succeeds on
a deal with a positive total only after its rail was seen funded. -/
theorem execution_funded (env : ProviderEnv P) (actions : List ProviderAction)
    (hok : (providerMachine env).Admissible (fun _ a => StripePaymentOk env.config a)
      (providerMachine env).init actions) (dealId : String) (now : ℤ) :
    (tryMarkDealRunning dealId now ((providerMachine env).run actions).store.deals).1 = true →
      ∀ row ∈ ((providerMachine env).run actions).store.deals, row.dealId = dealId →
        0 < row.quote.payload.settlementTerms.baseFeeMsat
          + row.quote.payload.settlementTerms.successFeeMsat →
        Funded P ((providerMachine env).run actions).log row := by
  have hinit : FundingInv P env.config (providerMachine env).init :=
    ⟨forall_mem_nil _, forall_mem_nil _, forall_mem_nil _, forall_mem_nil _⟩
  obtain ⟨hinv, h⟩ := (providerMachine env).invariant_of_admissible
    (I := fun s => ProviderInv env s ∧ FundingInv P env.config s)
    (fun s a h hok => h.2.step h.1 hok) actions _ ⟨providerInv_init, hinit⟩ hok
  intro hcas row hrow hid hpositive
  obtain ⟨row', hrow', hid', hstatus⟩ := exists_of_tryMarkDealRunning hcas
  obtain rfl := hinv.admission.ids.eq_of_mem hrow' hrow (congrArg some hid') (congrArg some hid)
  refine h.rows row' hrow (hstatus ▸ rfl) fun hzero => ?_
  have hwhole := (hinv.admitted_of_snapshot (hinv.rows row' hrow)).whole
  rw [hzero] at hwhole
  exact absurd hwhole hpositive.ne'

/-! ## A Stripe deal paid with a token of another kind -/

theorem not_funded_of_stripe {intent : String} (hmethod : row.paymentMethod = some .stripe)
    (htoken : row.paymentTokenHash = some intent) (h : .authorized row.dealId intent ∉ log) :
    ¬ Funded P log row := by
  rintro (⟨-, hof, -⟩ | ⟨hmethod', -, -, -, -⟩ | ⟨-, htoken', hauthorized⟩)
  · rw [LightningInvoiceBundleSession.isOf, hmethod] at hof
    exact Bool.false_ne_true hof
  · exact absurd (hmethod.symm.trans hmethod') (by decide)
  · obtain rfl := some.inj (htoken.symm.trans htoken')
    exact h hauthorized

def stripeRun (payment : ProvidedPayment) (answer : DriverAnswer)
    (reservation : PaymentReservation) : List ProviderAction :=
  let request := sampleRequest (samplePaidQuote settlementMethodStripeMpp "" 0) (some payment)
  let claim := sampleClaim (.stripePayment 1 payment "d")
  [.recoverRuntimeStateLocal [] 5, sampleAdmission request, .claimDealMaterialization "d" "t" 5,
    .prepareStripePayment claim (request.newDeal "d" (some .stripe) 1 5).row answer 6,
    .setStripeResource claim reservation, .finalizeStripePayment claim reservation 7]

def sampleStripeEnv : ProviderEnv samplePrimitives :=
  sampleEnv ⟨[.stripe, .x402], .mock, [.stripe, .x402], true⟩

def stripeIntentRun : List ProviderAction :=
  stripeRun ⟨"stripe_mpp", "spt"⟩ (.paymentIntent "pi" "requires_capture")
    ⟨"d", "stripe_mpp", 1, "pi"⟩

def stripeX402Run : List ProviderAction :=
  stripeRun ⟨"x402_usdc", "token"⟩ .verified ⟨"d", "x402_usdc", 1, "token"⟩

theorem execution_funded_stripe :
    let s := (providerMachine sampleStripeEnv).run stripeIntentRun
    (tryMarkDealRunning "d" 8 s.store.deals).1 = true
      ∧ ∀ row ∈ s.store.deals, row.dealId = "d" →
        0 < row.quote.payload.settlementTerms.baseFeeMsat
          + row.quote.payload.settlementTerms.successFeeMsat →
        Funded samplePrimitives s.log row := by
  have hcas : (tryMarkDealRunning "d" 8
      ((providerMachine sampleStripeEnv).run stripeIntentRun).store.deals).1 = true := by
    decide +kernel
  refine ⟨hcas, execution_funded sampleStripeEnv stripeIntentRun ?_ "d" 8 hcas⟩
  refine ⟨trivial, ⟨fun _ payment hpayment => ?_, ⟨trivial, ⟨trivial, ⟨trivial, ⟨trivial,
    trivial⟩⟩⟩⟩⟩⟩
  rw [← some.inj hpayment]
  decide

theorem execution_unfunded_x402 :
    let s := (providerMachine sampleStripeEnv).run stripeX402Run
    (tryMarkDealRunning "d" 8 s.store.deals).1 = true
      ∧ ∃ row ∈ s.store.deals, row.dealId = "d"
        ∧ 0 < row.quote.payload.settlementTerms.baseFeeMsat
          + row.quote.payload.settlementTerms.successFeeMsat
        ∧ ¬ Funded samplePrimitives s.log row := by
  have hcas : (tryMarkDealRunning "d" 8
      ((providerMachine sampleStripeEnv).run stripeX402Run).store.deals).1 = true := by
    decide +kernel
  have hrow : ∃ row ∈ ((providerMachine sampleStripeEnv).run stripeX402Run).store.deals,
      row.dealId = "d"
        ∧ 0 < row.quote.payload.settlementTerms.baseFeeMsat
          + row.quote.payload.settlementTerms.successFeeMsat
        ∧ row.paymentMethod = some .stripe ∧ row.paymentTokenHash = some "token"
        ∧ .authorized row.dealId "token"
          ∉ ((providerMachine sampleStripeEnv).run stripeX402Run).log := by
    decide +kernel
  obtain ⟨row, hrow, hid, hpositive, hmethod, htoken, hnone⟩ := hrow
  exact ⟨hcas, row, hrow, hid, hpositive, not_funded_of_stripe hmethod htoken hnone⟩

end Froglet
