import Froglet.Provider.Funding
import Froglet.Provider.ReceiptSoundness

/-!
# The rows of Stripe deals

A Stripe deal waits for its payment without a token, gets one when it is accepted and
keeps it from then on: whatever row of it a task has loaded, the token of that row is
still the token of the deal.
-/

namespace Froglet

open List Option Table

variable {own : String → String → Prop}
variable {request : CreateDealRequest} {rail : Option PaymentMethod}
variable {e : Effect} {dealId : String} {totalSats : ℕ} {rejection : Option AdmissionRejection}
variable {now : ℤ}

structure StoredDeal.TokenFits (own : String → String → Prop) (row : StoredDeal) : Prop where
  pending : row.status = .paymentPending → row.paymentTokenHash = none
  cleared : row.status.isCleared = true → row.paymentTokenHash ≠ none
  owned : ∀ token, row.paymentTokenHash = some token → own row.dealId token
  ended : row.status.isTerminal = true → row.paymentTokenHash ≠ none → row.receipt ≠ none
  opened : row.status.isTerminal = false → row.receipt = none

def StoredDeal.TokenKept (deals : Deals) (deal : StoredDeal) : Prop :=
  ∀ token, deal.paymentTokenHash = some token →
    ∀ row ∈ deals, row.dealId = deal.dealId → row.paymentTokenHash = some token
variable {admitted : List StoredDeal}

structure MaterializationRecord.Owned (own : String → String → Prop)
    (record : MaterializationRecord) : Prop where
  request : ∀ {priceSats payment requestId},
    record.request = .stripePayment priceSats payment requestId → requestId = record.dealId
  resource : ∀ resource ∈ record.resource, own record.dealId resource.paymentIntentId

def Observation.Owned (own : String → String → Prop) (deals : Deals) : Observation → Prop
  | claim record => record.Owned own
  | reservation dealId r => own dealId r.tokenHash
  | deal row => row.paymentMethod = some .stripe → row.TokenFits own ∧ row.TokenKept deals
  | _ => True

structure TokensInv (own : String → String → Prop) (s : ProviderState) : Prop where
  rows : ∀ row ∈ s.store.deals, row.paymentMethod = some .stripe → row.TokenFits own
  records : ∀ record ∈ s.materializations, record.Owned own
  log : ∀ o ∈ s.log, o.Owned own s.store.deals
  workers : ∀ deal ∈ s.workers, .deal deal ∈ s.log

def ProviderAction.Reserves (own : String → String → Prop) (config : NodeConfig) :
    ProviderAction → Prop
  | prepareStripePayment record _ answer _ => ∀ priceSats payment reservation,
      record.request = .stripePayment priceSats payment record.dealId →
      preparePaymentForAmount config priceSats (some payment) record.dealId answer
        = .ok (some reservation) →
      own record.dealId reservation.tokenHash
  | _ => True

theorem TokensInv.mono {own' : String → String → Prop} {s : ProviderState} (h : TokensInv own s)
    (hown : ∀ dealId token, own dealId token → own' dealId token) : TokensInv own' s := by
  have hfits {row : StoredDeal} (h : row.TokenFits own) : row.TokenFits own' :=
    ⟨h.pending, h.cleared, fun token htoken => hown _ _ (h.owned token htoken), h.ended, h.opened⟩
  have hrecord {record : MaterializationRecord} (h : record.Owned own) : record.Owned own' :=
    ⟨h.request, fun resource hresource => hown _ _ (h.resource resource hresource)⟩
  refine ⟨fun row hrow hstripe => hfits (h.rows row hrow hstripe),
    fun record hmem => hrecord (h.records record hmem), fun o ho => ?_, h.workers⟩
  have howned := h.log o ho
  cases o with
  | claim record => exact hrecord howned
  | reservation dealId r => exact hown _ _ howned
  | deal row => exact fun hstripe => ⟨hfits (howned hstripe).1, (howned hstripe).2⟩
  | _ => exact trivial

/-! ## Rows -/

section Rows

variable {call : DealCall} {row row' : StoredDeal}

theorem RowStep.pending_of_pending (h : RowStep call row row')
    (hpending : row'.status = .paymentPending) : row.status = .paymentPending := by
  obtain hsame | hbecome := h.canBecome
  · exact hsame ▸ hpending
  · rw [hpending] at hbecome
    revert hbecome
    cases row.status <;> decide

theorem RowStep.pending_of_cancels (h : RowStep call row row') (hcancels : call.cancels = true) :
    row.status = .paymentPending := by
  have htarget := h.target
  cases call
  case cancelUnadmitted => exact (congrArg (·.2.1) (some.inj htarget)).symm
  all_goals cases hcancels

/-- A call keeps the token in line with the status if it promotes no Stripe
deal, and pays it by accepting it, with a token of its own. -/
theorem StoredDeal.TokenFits.step (h : row.TokenFits own) (hstep : RowStep call row row')
    (hpromote : ∀ now, call ≠ .promote row.dealId now)
    (hpayment : ∀ token amount, call.payment = some (token, amount) →
      own row.dealId token ∧ row'.status = .accepted) : row'.TokenFits own := by
  have hends := DealCall.terminal_of_target hstep.target
  have hopened (hopen : row'.status.isTerminal = false) : row'.receipt = none := by
    rw [hopen] at hends
    obtain ⟨hreceipt, -⟩ := Bool.or_eq_false_iff.mp hends.symm
    exact (hstep.noReceipt (isNone_iff_eq_none.mp (by simpa using hreceipt))).1
      (h.opened hstep.not_terminal)
  cases hpay : call.payment with
  | none =>
    have htoken := (hstep.noPayment hpay).1
    refine ⟨fun hpending => ?_, fun hcleared => ?_, fun token hsome => ?_, fun hterm hsome => ?_,
      hopened⟩
    · rw [htoken, h.pending (hstep.pending_of_pending hpending)]
    · rw [htoken]
      cases hold : row.status.isCleared with
      | true => exact h.cleared hold
      | false =>
        obtain ⟨now, heq⟩ | hne := clears_of_target hstep.target hold hcleared
        · exact absurd heq (hpromote now)
        · exact absurd hpay hne
    · rw [hstep.dealId_eq]
      exact h.owned token (htoken ▸ hsome)
    · rw [hterm] at hends
      obtain hreceipt | hcancels := Bool.or_eq_true_iff.mp hends.symm
      · obtain ⟨r, hr⟩ := isSome_iff_exists.mp hreceipt
        rw [(hstep.receipt r hr).1]
        exact some_ne_none r
      · rw [htoken] at hsome
        exact absurd (h.pending (hstep.pending_of_cancels hcancels)) hsome
  | some payment =>
    obtain ⟨token, amount⟩ := payment
    obtain ⟨hown, haccepted⟩ := hpayment token amount hpay
    have htoken := (hstep.payment token amount hpay).1
    refine ⟨fun hpending => ?_, fun _ => htoken ▸ some_ne_none token,
      fun token' hsome => ?_, fun hterm => ?_, hopened⟩
    · exact absurd (haccepted.symm.trans hpending) DealStatus.noConfusion
    · obtain rfl := some.inj (htoken.symm.trans hsome)
      rw [hstep.dealId_eq]
      exact hown
    · rw [haccepted] at hterm
      cases hterm

end Rows

/-! ## Steps -/

section Steps

variable {P : Primitives} {env : ProviderEnv P}
  {s s' : ProviderState} {a : ProviderAction}

def DealCall.SuitsStripe (own : String → String → Prop) (admitted : List StoredDeal)
    (call : DealCall) : Prop :=
  ∀ row ∈ admitted, row.paymentMethod = some .stripe → ∀ old new,
    call.target = some (row.dealId, old, new) →
      (∀ now, call ≠ .promote row.dealId now)
        ∧ ∀ token amount, call.payment = some (token, amount) →
          own row.dealId token ∧ new = .accepted

theorem DealCall.SuitsStripe.plain {call : DealCall} (hpromote : ∀ id now, call ≠ .promote id now)
    (hpayment : call.payment = none) : call.SuitsStripe own admitted :=
  fun _ _ _ _ _ _ => ⟨hpromote _, fun _ _ hpay =>
    absurd (hpayment.symm.trans hpay).symm (some_ne_none _)⟩

theorem DealCall.SuitsStripe.of_rail {call : DealCall} {id : String}
    {old new : DealStatus} (htarget : call.target = some (id, old, new))
    (hrail : ∀ row ∈ admitted, row.dealId = id → row.paymentMethod ≠ some .stripe) :
    call.SuitsStripe own admitted := by
  intro row hrow hstripe old' new' htarget'
  have hid := (Prod.mk.inj (some.inj (htarget.symm.trans htarget'))).1
  exact absurd hstripe (hrail row hrow hid.symm)

theorem DealCall.SuitsStripe.tokenFits (hinv : ProviderInv env s) {call : DealCall}
    (h : call.SuitsStripe own s.store.admitted) {row row' : StoredDeal}
    (hrow : row ∈ s.store.deals) (hfits : row.TokenFits own) (hstep : RowStep call row row')
    (hstripe : row.paymentMethod = some .stripe) : row'.TokenFits own := by
  obtain ⟨row₀, hrow₀, hident⟩ := (hinv.rows row hrow).known
  have hid := dealId_of_identity hident
  have hrail := (paymentMethod_of_identity hident).trans hstripe
  obtain ⟨hpromote, hpayment⟩ := h row₀ hrow₀ hrail _ _ (hid ▸ hstep.target)
  rw [hid] at hpromote hpayment
  exact hfits.step hstep hpromote hpayment

theorem StoredDeal.TokenKept.call (hinv : ProviderInv env s)
    (hrows : ∀ row ∈ s.store.deals, row.paymentMethod = some .stripe → row.TokenFits own)
    {call : DealCall} {deal : StoredDeal} (hdeal : Snapshot s.store.admitted deal)
    (hstripe : deal.paymentMethod = some .stripe) (h : deal.TokenKept s.store.deals)
    (hcall : call.isInsert = false) : deal.TokenKept (call.apply P s.store).deals := by
  intro token htoken row' hrow' hid
  obtain hrow | ⟨row, hrow, hstep⟩ := mem_apply_of_ne_insert hcall hrow'
  · exact h token htoken row' hrow hid
  · rw [hstep.dealId_eq] at hid
    have hkept := h token htoken row hrow hid
    have hident := hinv.identity_eq (hinv.rows row hrow) hdeal hid
    have hrail := (paymentMethod_of_identity hident).trans hstripe
    cases hpay : call.payment with
    | none => rw [(hstep.noPayment hpay).1, hkept]
    | some payment =>
      have hpending := pending_of_payment hstep.target (hpay ▸ some_ne_none _)
      have hnone := (hrows row hrow hrail).pending hpending
      cases hkept.symm.trans hnone

structure TokensStep (own : String → String → Prop) (s s' : ProviderState) : Prop where
  inv : TokensInv own s'
  log : s.log ⊆ s'.log
  kept : ∀ row ∈ s.store.deals, row.paymentMethod = some .stripe → row.TokenKept s'.store.deals

theorem TokensStep.refl (hinv : ProviderInv env s) (h : TokensInv own s) : TokensStep own s s where
  inv := h
  log := Subset.refl _
  kept row hrow _ token htoken row' hrow' hid := by
    rw [hinv.admission.ids.eq_of_mem hrow' hrow (congrArg some hid) rfl]
    exact htoken

theorem TokensInv.call (hinv : ProviderInv env s) (h : TokensInv own s) {call : DealCall}
    (hcall : call.isInsert = false) (hsuits : call.SuitsStripe own s.store.admitted) :
    TokensInv own (Effect.apply P s (.call call)) := by
  refine ⟨fun row' hrow' hstripe => ?_, h.records, fun o ho => ?_, h.workers⟩
  · obtain hrow | ⟨row, hrow, hstep⟩ := mem_apply_of_ne_insert hcall hrow'
    · exact h.rows row' hrow hstripe
    · have hrail := (paymentMethod_of_identity hstep.identity).symm.trans hstripe
      exact hsuits.tokenFits hinv hrow (h.rows row hrow hrail) hstep hrail
  · have howned := h.log o ho
    cases o with
    | deal deal =>
      exact fun hstripe => ⟨(howned hstripe).1,
        (howned hstripe).2.call hinv h.rows (hinv.log _ ho) hstripe hcall⟩
    | _ => exact howned

theorem TokensStep.call (hinv : ProviderInv env s) (hinv' : ProviderInv env s')
    (hsub : s.store.admitted ⊆ s'.store.admitted) (h : TokensStep own s s') {call : DealCall}
    (hcall : call.isInsert = false) (hsuits : call.SuitsStripe own s'.store.admitted) :
    TokensStep own s (Effect.apply P s' (.call call)) where
  inv := h.inv.call hinv' hcall hsuits
  log := h.log
  kept row hrow hstripe := (h.kept row hrow hstripe).call hinv' h.inv.rows
    ((hinv.rows row hrow).mono hsub) hstripe hcall

theorem TokensStep.observe (h : TokensStep own s s') {o : Observation}
    (ho : o.Owned own s'.store.deals) : TokensStep own s (Effect.apply P s' (.observe o)) where
  inv := by
    refine ⟨h.inv.rows, h.inv.records, fun o' ho' => ?_,
      fun deal hdeal => mem_append_left _ (h.inv.workers deal hdeal)⟩
    rcases mem_concat.mp ho' with ho' | ho'
    · exact h.inv.log o' ho'
    · rw [ho']
      exact ho
  log := subset_append_of_subset_left _ h.log
  kept := h.kept

theorem TokensStep.materializations (h : TokensStep own s s')
    {materializations : List MaterializationRecord}
    (hrecords : ∀ record ∈ materializations, record.Owned own) :
    TokensStep own s { s' with materializations } :=
  ⟨⟨h.inv.rows, hrecords, h.inv.log, h.inv.workers⟩, h.log, h.kept⟩

section

variable (hinv : ProviderInv env s)
include hinv

theorem TokensInv.reserved (h : TokensInv own s) {record : MaterializationRecord}
    {reservation : PaymentReservation} (hclaim : .claim record ∈ s.held)
    (hreservation : s.Reserved record reservation) :
    own record.dealId reservation.tokenHash := by
  obtain hheld | ⟨resource, hresource, hinto⟩ := hreservation
  · exact h.log _ (hinv.logged hheld)
  · have howned := (h.log _ (hinv.logged hclaim)).resource resource hresource
    rw [← fromReservation_of_intoReservation hinto] at howned
    exact howned

theorem TokensStep.inert (hinv' : ProviderInv env s') (hsub : s.store.admitted ⊆ s'.store.admitted)
    (h : TokensStep own s s') (he : e.isInert = true) : TokensStep own s (e.apply P s') := by
  cases e with
  | call call =>
    cases call with
    | holdExternalOutcome | stageResultReady | stageSettlementPending | cancelUnadmitted =>
      exact h.call hinv hinv' hsub rfl
        (.plain (fun _ _ => DealCall.noConfusion) rfl)
    | _ => cases he
  | observe o =>
    cases o with
    | deal | claim | reservation => cases he
    | _ => exact h.observe trivial
  | setClaim dealId claimToken claimExpiresAt nextAttemptAt =>
    refine h.materializations fun record' hmem => ?_
    obtain ⟨record, hrecord, rfl⟩ := mem_updateWhere.mp hmem
    have howned := h.inv.records record hrecord
    split
    case isTrue => exact ⟨howned.request, howned.resource⟩
    case isFalse => exact howned
  | deleteMaterialization dealId =>
    exact h.materializations fun record hmem => h.inv.records record (mem_deleteWhere.mp hmem).1
  | insertBundle | updateBundle | insertOutbox | deleteOutbox =>
    exact { h with inv := { h.inv with } }
  | _ => cases he

theorem ProviderInv.not_stripe {deal : StoredDeal}
    (hdeal : Snapshot s.store.admitted deal) (hrail : deal.paymentMethod ≠ some .stripe) :
    ∀ row ∈ s.store.admitted, row.dealId = deal.dealId → row.paymentMethod ≠ some .stripe := by
  intro row hrow hid
  rw [paymentMethod_of_identity (hinv.known_of_id hdeal hrow hid)]
  exact hrail

/-- An effect of an action keeps the invariant. -/
theorem TokensStep.apply (h₀ : TokensInv own s) (hreserves : a.Reserves own env.config)
    (hinv' : ProviderInv env s') (hsame : s'.store.admitted = s.store.admitted)
    (h : TokensStep own s s') (he : Arises env s a e) : TokensStep own s (e.apply P s') := by
  have hsub : s.store.admitted ⊆ s'.store.admitted := hsame ▸ Subset.refl _
  cases he with
  | inert hinert => exact h.inert hinv hinv' hsub hinert
  | @restart decodes ha =>
    have hdeals : quarantineInvalidDeals decodes s'.store.deals ⊆ s'.store.deals :=
      fun row hrow => (mem_deleteWhere.mp hrow).1
    refine ⟨⟨fun row hrow => h.inv.rows row (hdeals hrow), fun record' hrecord' => ?_,
      fun o ho => ?_, forall_mem_nil _⟩, h.log, fun row hrow hstripe token htoken row' hrow' =>
        h.kept row hrow hstripe token htoken row' (hdeals hrow')⟩
    · obtain ⟨record, hrecord, rfl⟩ := mem_map.mp hrecord'
      have howned := h.inv.records record hrecord
      exact ⟨howned.request, howned.resource⟩
    · have howned := h.inv.log o ho
      cases o with
      | deal deal => exact fun hstripe => ⟨(howned hstripe).1, fun token htoken row' hrow' =>
          (howned hstripe).2 token htoken row' (hdeals hrow')⟩
      | _ => exact howned
  | serve | invoiced => exact { h with inv := { h.inv with } }
  | returned deal =>
    exact { h with inv := { h.inv with
      workers := fun deal' hmem => h.inv.workers deal' (mem_of_mem_erase hmem) } }
  | spawned hphase hdeal ha hcas =>
    refine { h with inv := { h.inv with workers := fun deal' hmem => ?_ } }
    rcases mem_concat.mp hmem with hmem | hmem
    · exact h.inv.workers deal' hmem
    · rw [hmem]
      exact h.log (hinv.logged hdeal)
  | readDeal hrow => exact h.observe fun hstripe => ⟨h₀.rows _ hrow hstripe, h.kept _ hrow hstripe⟩
  | claimed hrecord =>
    have howned := h₀.records _ hrecord
    exact h.observe ⟨howned.request, howned.resource⟩
  | reserved hact hclaim hrequest hprepare ha =>
    have hid := (h₀.log _ (hinv.logged hclaim)).request hrequest
    rw [hact] at hreserves
    exact h.observe (hreserves _ _ _ (hid ▸ hrequest) (hid ▸ hprepare))
  | @stored record reservation hclaim hreservation phase hrewrites hcleanup =>
    refine h.materializations fun record' hrecord' => ?_
    obtain ⟨record₀, hrecord₀, rfl⟩ := mem_updateWhere.mp hrecord'
    split
    case isTrue hmine =>
      refine ⟨(h.inv.records record₀ hrecord₀).request, fun resource hresource => ?_⟩
      rw [← some.inj hresource, beq_iff_eq.mp hmine]
      exact h₀.reserved hinv hclaim hreservation
    case isFalse => exact h.inv.records record₀ hrecord₀
  | paidStripe hclaim hreservation =>
    refine h.call hinv hinv' hsub rfl
      fun row hrow hstripe old new htarget =>
        ⟨fun _ => DealCall.noConfusion, fun token amount hpay => ?_⟩
    obtain ⟨rfl, -⟩ := Prod.mk.inj (some.inj hpay)
    obtain ⟨hid, hstatus⟩ := Prod.mk.inj (some.inj htarget)
    exact ⟨hid ▸ h₀.reserved hinv hclaim hreservation, (Prod.mk.inj hstatus).2.symm⟩
  | paidPrepaid hclaim hrequest hinvoice paymentHash now =>
    refine h.call hinv hinv' hsub rfl
      (.of_rail rfl (fun row hrow hid => ?_))
    have hsuits := hinv.claimed hclaim row (hsame ▸ hrow) hid
    rw [hrequest] at hsuits
    rw [hsuits.1]
    decide
  | promotedLightning hdeal hsession hof hfunded now =>
    refine h.call hinv hinv' hsub rfl (.of_rail rfl ?_)
    rw [hsame]
    refine hinv.not_stripe (hinv.held _ hdeal) ?_
    rw [beq_iff_eq.mp (Bool.and_eq_true_iff.mp hof).1]
    decide
  | promotedPrepaid hdeal hpayment hmethod htoken hamount hproof now =>
    refine h.call hinv hinv' hsub rfl (.of_rail rfl ?_)
    rw [hsame]
    refine hinv.not_stripe (hinv.held _ hdeal) ?_
    rw [hmethod]
    decide
  | started | resetLocal | resetRemote =>
    exact h.call hinv hinv' hsub rfl
      (.plain (fun _ _ => DealCall.noConfusion) rfl)
  | @ended call deal old new r hdeal htarget hreceipt hcause =>
    cases call <;> first
      | exact absurd hreceipt.symm (some_ne_none r)
      | exact h.call hinv hinv' hsub rfl
          (.plain (fun _ _ => DealCall.noConfusion) rfl)

theorem TokensStep.insert (h : TokensInv own s)
    (hadmits : Admits env s a request dealId rail totalSats rejection now) :
    TokensStep own s (Effect.apply P s
      (.call (.insert (request.newDeal dealId rail totalSats now)))) := by
  have hdeals : (Effect.apply P s (.call (.insert (request.newDeal dealId rail totalSats
      now)))).store.deals = s.store.deals ++ [(request.newDeal dealId rail totalSats now).row] :=
    hadmits.inserts.deals
  have hkept {deal : StoredDeal} (hdeal : Snapshot s.store.admitted deal)
      (hkept : deal.TokenKept s.store.deals) :
      deal.TokenKept (s.store.deals ++ [(request.newDeal dealId rail totalSats now).row]) := by
    intro token htoken row hrow hid
    rcases mem_concat.mp hrow with hrow | hrow
    · exact hkept token htoken row hrow hid
    · rw [hrow] at hid
      obtain ⟨row₀, hrow₀, hident⟩ := hdeal.known
      exact absurd ((dealId_of_identity hident).trans hid.symm)
        (hadmits.fresh row₀ hrow₀)
  refine ⟨⟨fun row hrow hstripe => ?_, h.records, fun o ho => ?_, h.workers⟩,
    Subset.refl _, fun row hrow hstripe => ?_⟩
  · rw [hdeals] at hrow
    rcases mem_concat.mp hrow with hrow | hrow
    · exact h.rows row hrow hstripe
    · rw [hrow] at hstripe ⊢
      replace hstripe : rail = some .stripe := hstripe
      rw [hstripe]
      exact ⟨fun _ => rfl, fun hcleared => absurd hcleared Bool.false_ne_true,
        fun token htoken => absurd htoken.symm (some_ne_none token),
        fun hterm => absurd hterm Bool.false_ne_true, fun _ => rfl⟩
  · have howned := h.log o ho
    cases o with
    | deal deal =>
      rw [hdeals]
      exact fun hstripe => ⟨(howned hstripe).1, hkept (hinv.log _ ho) (howned hstripe).2⟩
    | _ => exact howned
  · rw [hdeals]
    exact hkept (hinv.rows row hrow) ((TokensStep.refl hinv h).kept row hrow hstripe)

end

theorem owned_record {m : MaterializationRequest}
    (h : request.materialization dealId rail totalSats now = some m) :
    (m.record dealId now).Owned own := by
  refine ⟨fun {priceSats payment requestId} hrequest => ?_,
    fun resource hresource => absurd hresource (not_mem_none resource)⟩
  obtain rfl : m = .stripePayment priceSats payment requestId := hrequest
  unfold CreateDealRequest.materialization at h
  split at h
  case h_3 =>
    obtain ⟨payment', -, heq⟩ := map_eq_some_iff.mp h
    exact (MaterializationRequest.stripePayment.inj heq).2.2.symm
  all_goals cases h

/-- The rule for one action on the Stripe deals: the invariant holds after it, and
whatever else each of its effects keeps. -/
theorem TokensInv.step_induction {I : ProviderState → Prop} (hinv : ProviderInv env s)
    (h : TokensInv own s) (hreserves : a.Reserves own env.config) (hI : I s)
    (heffect : ∀ e ∈ a.effects env s, Arises env s a e → ∀ s', ProviderInv env s' →
      s'.store.admitted = s.store.admitted → TokensStep own s s' → I s' → I (e.apply P s'))
    (hisNew : ∀ {request dealId rail totalSats rejection now},
      Admits env s a request dealId rail totalSats rejection now →
      I (Effect.apply P s (.call (.insert (request.newDeal dealId rail totalSats now)))))
    (hreject : ∀ {request dealId rail totalSats rejection now},
      Admits env s a request dealId rail totalSats rejection now → ∀ r ∈ rejection, ∀ s',
      ProviderInv env s' → s'.store.admitted
        = s.store.admitted ++ [(request.newDeal dealId rail totalSats now).row] →
      TokensStep own s s' → I s' →
      I (Effect.apply P s' (.call (.reject .admission dealId r.error r.receipt
        r.failureEvidenceHash now))))
    (hmaterialize : ∀ record s', I s' → I (Effect.apply P s' (.insertMaterialization record))) :
    TokensStep own s (providerStep env s a) ∧ I (providerStep env s a) := by
  refine (hinv.step_induction (I := fun s' => TokensStep own s s' ∧ I s') (a := a)
    ⟨TokensStep.refl hinv h, hI⟩
    (fun e hmem he s' hinv' hsame h' => ⟨h'.1.apply hinv h hreserves hinv' hsame he,
      heffect e hmem he s' hinv' hsame h'.1 h'.2⟩)
    (fun hadmits => ⟨TokensStep.insert hinv h hadmits, hisNew hadmits⟩)
    (fun hadmits r hr s' hinv' hsame h' => ⟨?_, hreject hadmits r hr s' hinv' hsame h'.1 h'.2⟩)
    (fun hadmits m hm s' _ _ h' => ⟨?_, hmaterialize _ s' h'.2⟩)).2
  · exact h'.1.call hinv hinv' (hsame ▸ subset_append_left _ _)
      rfl (.plain (fun _ _ => DealCall.noConfusion) rfl)
  · refine h'.1.materializations (fun record hrecord => ?_)
    rcases mem_insertMaterialization (P := P) hrecord with hrecord | rfl
    · exact h'.1.inv.records record hrecord
    · exact owned_record hm

/-- One action keeps the invariant of the tokens. -/
theorem TokensInv.step (hinv : ProviderInv env s) (h : TokensInv own s)
    (hreserves : a.Reserves own env.config) : TokensStep own s (providerStep env s a) := by
  refine (h.step_induction (I := fun _ => True) hinv hreserves trivial ?_ ?_ ?_ ?_).1 <;>
    intros <;> trivial

/-! ## Receipts -/

def ReceiptOrigin (env : ProviderEnv P) (s : ProviderState) (a : ProviderAction)
    (row' : StoredDeal) : Prop :=
  ∀ r, row'.receipt = some r →
    (∃ row ∈ s.store.deals, row.dealId = row'.dealId ∧ row.receipt = some r)
      ∨ ∃ deal, s.Knows deal ∧ deal.dealId = row'.dealId ∧ ReceiptCause env a deal r

theorem receiptOrigin_call (h : TokensStep own s s')
    (horigin : ∀ row' ∈ s'.store.deals, row'.paymentMethod = some .stripe →
      ReceiptOrigin env s a row') {call : DealCall} (hcall : call.isInsert = false)
    (hcause : ∀ r, call.receipt = some r → ∀ row ∈ s'.store.deals,
      row.paymentMethod = some .stripe → ∀ old new, call.target = some (row.dealId, old, new) →
        ∃ deal, s.Knows deal ∧ deal.dealId = row.dealId ∧ ReceiptCause env a deal r) :
    ∀ row' ∈ (Effect.apply P s' (.call call)).store.deals, row'.paymentMethod = some .stripe →
      ReceiptOrigin env s a row' := by
  intro row' hrow' hstripe r hr
  obtain hrow | ⟨row, hrow, hstep⟩ := mem_apply_of_ne_insert hcall hrow'
  · exact horigin row' hrow hstripe r hr
  · have hrail := (paymentMethod_of_identity hstep.identity).symm.trans hstripe
    cases hreceipt : call.receipt with
    | none =>
      have hnone := (h.inv.rows row hrow hrail).opened hstep.not_terminal
      exact absurd (((hstep.noReceipt hreceipt).1 hnone).symm.trans hr).symm (some_ne_none r)
    | some r' =>
      obtain rfl := some.inj ((hstep.receipt r' hreceipt).1.symm.trans hr)
      rw [hstep.dealId_eq]
      exact .inr (hcause r' hreceipt row hrow hrail _ _ hstep.target)

theorem Admits.rail_of_rejection (h : Admits env s a request dealId rail totalSats rejection now)
    {r : AdmissionRejection} (hr : r ∈ rejection) : rail = none := by
  obtain ⟨otherChecks, permit, laterFails, evidence, -, -, hrejection⟩ := h.checked
  rw [hr] at hrejection
  exact (immediateRejection_some hrejection).1

/-- Every receipt of a Stripe deal has its origin. -/
theorem receiptOrigin_step (hinv : ProviderInv env s) (h : TokensInv own s)
    (hreserves : a.Reserves own env.config) :
    ∀ row' ∈ (providerStep env s a).store.deals, row'.paymentMethod = some .stripe →
      ReceiptOrigin env s a row' := by
  have hthere (row : StoredDeal) (hrow : row ∈ s.store.deals) : ReceiptOrigin env s a row :=
    fun r hr => .inl ⟨row, hrow, rfl, hr⟩
  refine (h.step_induction (I := fun s' => ∀ row' ∈ s'.store.deals,
      row'.paymentMethod = some .stripe → ReceiptOrigin env s a row')
    hinv hreserves (fun row hrow _ => hthere row hrow)
    (fun e _ he s' hinv' hsame hstep horigin => ?_)
    (fun hadmits row hrow _ => ?_)
    (fun {_ dealId _ _ _ _} hadmits r hr s' hinv' hsame hstep horigin => ?_)
    (fun record s' horigin row hrow => ?_)).2
  · -- an effect of another action
    cases e with
    | call call =>
      refine receiptOrigin_call hstep horigin (not_insert_of_sound (hinv.sound he))
        fun r hr row hrow hrail old new htarget => ?_
      · cases he with
        | inert hinert =>
          cases call <;> first
            | exact absurd hr.symm (some_ne_none r)
            | exact absurd hinert Bool.false_ne_true
        | ended hdeal htarget' hreceipt hcause =>
          obtain rfl := some.inj (hreceipt.symm.trans hr)
          have hid := (Prod.mk.inj (some.inj (htarget'.symm.trans htarget))).1
          exact ⟨_, hdeal, hid, hcause⟩
        | _ => cases hr
    | _ => exact fun row hrow => horigin row (mem_deals_of_apply (fun _ => Effect.noConfusion) hrow)
  · -- a new row has no receipt
    have hdeals := hadmits.inserts.deals
    replace hrow : row ∈ s.store.deals ++ [_] := hdeals ▸ hrow
    rcases mem_concat.mp hrow with hrow | hrow
    · exact hthere row hrow
    · rw [hrow]
      exact fun r hr => absurd hr.symm (some_ne_none r)
  · -- a deal that is rejected at admission has no rail
    refine receiptOrigin_call hstep horigin rfl
      fun r' _ row hrow hrail old new htarget => ?_
    have hnone := hadmits.rail_of_rejection hr
    have hid : dealId = row.dealId := (Prod.mk.inj (some.inj htarget)).1
    have hident := hinv'.known_of_id (hinv'.rows row hrow) (hsame ▸ mem_append_right _
      (mem_singleton_self _)) hid
    have hmethod := (paymentMethod_of_identity hident).trans hrail
    cases hnone.symm.trans hmethod
  · exact horigin row (mem_deals_of_apply (fun _ => Effect.noConfusion) hrow)

end Steps

end Froglet
