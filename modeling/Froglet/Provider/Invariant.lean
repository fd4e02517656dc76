import Froglet.Provider.Steps

/-!
# What every run keeps

Whatever its tasks do, a provider knows only deals it has admitted: every row, every row
a task holds or a worker executes, every materialization and every reservation goes back
to a row that passed the checks of admission, at the total of that row's quote.
-/

namespace Froglet

open List Option Table

variable {admitted : List StoredDeal} {row : StoredDeal}
variable {row' : StoredDeal} {record : MaterializationRecord} {e : Effect}
variable {a : ProviderAction} {I : ProviderState → Prop}

/-! ## Values that go back to an admitted deal -/

structure Snapshot (admitted : List StoredDeal) (row : StoredDeal) : Prop where
  known : ∃ row₀ ∈ admitted, row₀.identity = row.identity
  amount : row.paymentMethod ≠ none → row.paymentAmountSats = some row.totalSats
  result : row.ResultFits

def StoredDeal.StripeAt (row : StoredDeal) (amountSats : ℕ) : Prop :=
  row.paymentMethod = some .stripe ∧ amountSats = row.totalSats

/-- The deal has this hash, and its quote these fees. -/
structure StoredDeal.Quotes (row : StoredDeal) (dealHash : String)
    (baseFeeMsat successFeeMsat : ℕ) : Prop where
  dealHash : row.artifact.hash = dealHash
  baseFee : row.quote.payload.settlementTerms.baseFeeMsat = baseFeeMsat
  successFee : row.quote.payload.settlementTerms.successFeeMsat = successFeeMsat

def MaterializationRequest.Suits (row : StoredDeal) : MaterializationRequest → Prop
  | lightningInvoiceBundle request => row.paymentMethod = some .lightning
    ∧ row.Quotes request.dealHash request.baseFeeMsat request.successFeeMsat
  | stripePayment priceSats _ _ => row.StripeAt priceSats
  | prepaidInvoice amountSats _ =>
    row.paymentMethod = some .lightningPrepaid ∧ amountSats = row.totalSats

def MaterializationRecord.Fits (admitted : List StoredDeal) (record : MaterializationRecord) :
    Prop :=
  ∃ row ∈ admitted, row.dealId = record.dealId ∧ record.request.Suits row
    ∧ ∀ resource ∈ record.resource, row.StripeAt resource.amountSats

def InvoiceBundlePayload.Quoted (admitted : List StoredDeal) (bundle : InvoiceBundlePayload) :
    Prop :=
  ∃ row ∈ admitted,
    row.Quotes bundle.dealHash bundle.baseFee.amountMsat bundle.successFee.amountMsat

def Observation.Fits (admitted : List StoredDeal) : Observation → Prop
  | bundle session => session.bundle.payload.Quoted admitted
  | deal row => Snapshot admitted row
  | claim record => record.Fits admitted
  | reservation dealId r => ∃ row ∈ admitted, row.dealId = dealId ∧ row.StripeAt r.amountSats
  | _ => True

section Mono

variable {admitted' : List StoredDeal} (hsub : admitted ⊆ admitted')
include hsub

theorem Snapshot.mono (h : Snapshot admitted row) : Snapshot admitted' row :=
  ⟨h.known.imp (fun _ hrow => ⟨hsub hrow.1, hrow.2⟩), h.amount, h.result⟩

theorem MaterializationRecord.Fits.mono (h : record.Fits admitted) : record.Fits admitted' :=
  h.imp fun _ hrow => ⟨hsub hrow.1, hrow.2⟩

theorem Observation.Fits.mono {o : Observation} (h : o.Fits admitted) : o.Fits admitted' := by
  cases o with
  | deal row => exact Snapshot.mono hsub h
  | claim record => exact MaterializationRecord.Fits.mono hsub h
  | reservation | bundle => exact h.imp fun _ hrow => ⟨hsub hrow.1, hrow.2⟩
  | _ => exact trivial

end Mono

theorem totalSats_of_identity (h : row'.identity = row.identity) :
    row'.totalSats = row.totalSats := by
  rw [StoredDeal.totalSats, StoredDeal.totalSats, quote_of_identity h]

theorem paymentMethod_of_identity (h : row'.identity = row.identity) :
    row'.paymentMethod = row.paymentMethod :=
  congrArg (·.2.2.2.2.2.2.1) h

/-! ## The invariant -/

structure ProviderInv {P : Primitives} (env : ProviderEnv P) (s : ProviderState) : Prop where
  admission : AdmissionInv s.store
  fresh : Table.Unique (some ·.dealId) s.store.admitted
  admitted : ∀ row ∈ s.store.admitted, row.Admitted env.signer.toNodeIdentity env.config
  rows : ∀ row ∈ s.store.deals, Snapshot s.store.admitted row
  materializations : ∀ record ∈ s.materializations, record.Fits s.store.admitted
  bundles : ∀ session ∈ s.bundles, session.bundle.payload.Quoted s.store.admitted
  log : ∀ o ∈ s.log, o.Fits s.store.admitted
  logged : s.held ⊆ s.log
  workers : ∀ deal ∈ s.workers, Snapshot s.store.admitted deal

def Effect.Sound (admitted : List StoredDeal) : Effect → Prop
  | call (.insert _) => False
  | call c => ∀ token amount, c.payment = some (token, amount) → ∀ row ∈ admitted,
      ∀ old new, c.target = some (row.dealId, old, new) → amount = row.totalSats
  | observe o => o.Fits admitted
  | insertMaterialization record => record.Fits admitted
  | insertBundle session => session.bundle.payload.Quoted admitted
  | setResource dealId _ resource =>
    ∀ row ∈ admitted, row.dealId = dealId → row.StripeAt resource.amountSats
  | spawn deal => Snapshot admitted deal
  | _ => True

section Effects

variable {P : Primitives} {env : ProviderEnv P} {s : ProviderState}

theorem providerInv_init : ProviderInv env (providerMachine env).init where
  admission := AdmissionInv.init P
  fresh := unique_nil _
  admitted := forall_mem_nil _
  rows := forall_mem_nil _
  materializations := forall_mem_nil _
  bundles := forall_mem_nil _
  log := forall_mem_nil _
  logged := nil_subset _
  workers := forall_mem_nil _

section

variable (h : ProviderInv env s)
include h

theorem ProviderInv.held : ∀ o ∈ s.held, o.Fits s.store.admitted :=
  fun o ho => h.log o (h.logged ho)

theorem ProviderInv.known_of_id {row₀ : StoredDeal} (hrow : Snapshot s.store.admitted row)
    (hrow₀ : row₀ ∈ s.store.admitted) (hid : row₀.dealId = row.dealId) :
    row₀.identity = row.identity := by
  obtain ⟨row₁, hrow₁, hident⟩ := hrow.known
  have hid₁ := dealId_of_identity hident
  rw [h.fresh.eq_of_mem hrow₀ hrow₁ (congrArg some hid) (congrArg some hid₁)]
  exact hident

theorem ProviderInv.identity_eq (hrow : Snapshot s.store.admitted row)
    (hrow' : Snapshot s.store.admitted row') (hid : row.dealId = row'.dealId) :
    row.identity = row'.identity := by
  obtain ⟨row₀, hrow₀, hident⟩ := hrow.known
  have hid₀ := dealId_of_identity hident
  rw [← hident]
  exact h.known_of_id hrow' hrow₀ (hid₀.trans hid)

theorem ProviderInv.admitted_of_snapshot (hrow : Snapshot s.store.admitted row) :
    row.Admitted env.signer.toNodeIdentity env.config := by
  obtain ⟨row₀, hrow₀, hident⟩ := hrow.known
  exact (h.admitted row₀ hrow₀).of_identity hident.symm

end

theorem Snapshot.step {call : DealCall} (h : Snapshot admitted row) (hstep : RowStep call row row')
    (hcall : ∀ token amount, call.payment = some (token, amount) → ∀ row ∈ admitted,
      ∀ old new, call.target = some (row.dealId, old, new) → amount = row.totalSats) :
    Snapshot admitted row' := by
  obtain ⟨row₀, hrow₀, hident⟩ := h.known
  have htotal := totalSats_of_identity hstep.identity
  have hmethod := paymentMethod_of_identity hstep.identity
  refine ⟨⟨row₀, hrow₀, hident.trans hstep.identity.symm⟩, fun hpaid => ?_, hstep.result h.result⟩
  cases hpayment : call.payment with
  | none => rw [(hstep.noPayment hpayment).2, htotal, h.amount (hmethod ▸ hpaid)]
  | some payment =>
    obtain ⟨token, amount⟩ := payment
    have hid₀ := dealId_of_identity hident
    have hamount := hcall token amount hpayment row₀ hrow₀ _ _ (hid₀ ▸ hstep.target)
    rw [(hstep.payment token amount hpayment).2, hamount, htotal, totalSats_of_identity hident]

theorem ProviderInv.call (h : ProviderInv env s) {call : DealCall}
    (hcall : call.isInsert = false)
    (hpayment : ∀ token amount, call.payment = some (token, amount) →
      ∀ row ∈ s.store.admitted, ∀ old new, call.target = some (row.dealId, old, new) →
        amount = row.totalSats) : ProviderInv env (Effect.apply P s (.call call)) := by
  have hsame := admitted_call (P := P) hcall s.store
  refine ⟨h.admission.call P _ call, hsame ▸ h.fresh, hsame ▸ h.admitted, fun row' hrow' => ?_,
    hsame ▸ h.materializations, hsame ▸ h.bundles, hsame ▸ h.log, h.logged, hsame ▸ h.workers⟩
  show Snapshot (call.apply P s.store).admitted row'
  rw [hsame]
  obtain hrow | ⟨row, hrow, hstep⟩ := mem_apply_of_ne_insert hcall hrow'
  · exact h.rows row' hrow
  · exact (h.rows row hrow).step hstep hpayment

theorem ProviderInv.insert (h : ProviderInv env s) {new : NewDeal}
    (hfresh : ∀ row ∈ s.store.admitted, row.dealId ≠ new.dealId)
    (hrow : new.withInitialStatus.row.Admitted env.signer.toNodeIdentity env.config)
    (hamount : new.paymentMethod ≠ none →
      new.paymentAmountSats = some new.withInitialStatus.row.totalSats) :
    ProviderInv env (Effect.apply P s (.call (.insert new))) := by
  have hadmission := h.admission.call P _ (.insert new)
  cases (DealCall.insert new).apply_rows P s.store with
  | updated p f hdeals hrows husages hadmitted _ =>
    -- the deal was there, and nothing changed
    refine ⟨hadmission, hadmitted ▸ h.fresh, hadmitted ▸ h.admitted, fun row' hrow' => ?_,
      hadmitted ▸ h.materializations, hadmitted ▸ h.bundles, hadmitted ▸ h.log, h.logged,
      hadmitted ▸ h.workers⟩
    show Snapshot (DealCall.apply P s.store (.insert new)).admitted row'
    have hmem : row' ∈ updateWhere p f s.store.deals := hdeals ▸ hrow'
    have hnone (row : StoredDeal) : p row = false := by
      refine Bool.eq_false_iff.mpr fun hp => ?_
      exact absurd (hrows row hp).target.symm (some_ne_none _)
    rw [updateWhere_of_forall_not (fun row _ => hnone row)] at hmem
    rw [hadmitted]
    exact h.rows row' hmem
  | inserted new' hisNew hinsert hdeals hadmitted _ =>
    obtain rfl := DealCall.insert.inj hisNew
    have hsub : s.store.admitted ⊆ (DealCall.apply P s.store (.insert new)).admitted := by
      rw [hadmitted]
      exact subset_append_left _ _
    refine ⟨hadmission, ?_, fun row hmem => ?_, fun row hmem => ?_,
      fun record hmem => (h.materializations record hmem).mono hsub,
      fun session hmem => (h.bundles session hmem).imp (fun _ hrow => ⟨hsub hrow.1, hrow.2⟩),
      fun o hmem => (h.log o hmem).mono hsub, h.logged,
      fun deal hmem => (h.workers deal hmem).mono hsub⟩
    · show Table.Unique _ (DealCall.apply P s.store (.insert new)).admitted
      rw [hadmitted]
      refine h.fresh.concat fun row hmem id hid hid' => hfresh row hmem ?_
      exact some.inj (hid.trans hid'.symm)
    · have hmem : row ∈ s.store.admitted ++ [new.withInitialStatus.row] := hadmitted ▸ hmem
      rcases mem_concat.mp hmem with hmem | hmem
      · exact h.admitted row hmem
      · rw [hmem]
        exact hrow
    · have hmem : row ∈ s.store.deals ++ [new.withInitialStatus.row] := hdeals ▸ hmem
      rcases mem_concat.mp hmem with hmem | hmem
      · exact (h.rows row hmem).mono hsub
      · rw [hmem]
        refine ⟨⟨new.withInitialStatus.row, ?_, rfl⟩, hamount, ⟨fun _ => rfl, fun hready => ?_⟩⟩
        · show _ ∈ (DealCall.apply P s.store (.insert new)).admitted
          rw [hadmitted]
          exact mem_concat_self
        · have hstatus : (if new.paymentMethod.isSome then DealStatus.paymentPending
              else DealStatus.accepted) = .resultReady := hready
          split at hstatus <;> cases hstatus

theorem not_insert_of_sound {call : DealCall} {admitted : List StoredDeal}
    (he : Effect.Sound admitted (.call call)) : call.isInsert = false := by
  cases call with
  | insert new => exact he.elim
  | _ => rfl

theorem admitted_apply (he : e.Sound s.store.admitted) :
    (e.apply P s).store.admitted = s.store.admitted := by
  cases e with
  | call c => exact admitted_call (not_insert_of_sound he) s.store
  | _ => rfl

theorem admitted_subset_apply (e : Effect) : s.store.admitted ⊆ (e.apply P s).store.admitted := by
  cases e with
  | call c =>
    cases c.apply_rows P s.store with
    | updated p f hdeals hrows husages hadmitted _ =>
      exact fun row hrow => (congrArg (row ∈ ·) hadmitted).mpr hrow
    | inserted new hisNew hinsert hdeals hadmitted _ =>
      exact fun row hrow => (congrArg (row ∈ ·) hadmitted).mpr (mem_append_left _ hrow)
  | _ => exact Subset.refl _

theorem admitted_subset_step (env : ProviderEnv P) (s : ProviderState) (a : ProviderAction) :
    s.store.admitted ⊆ (providerStep env s a).store.admitted :=
  foldlRecOn (a.effects env s) (Effect.apply P)
    (motive := fun s' => s.store.admitted ⊆ s'.store.admitted) (Subset.refl _)
    fun _ hsub e _ => Subset.trans hsub (admitted_subset_apply e)

theorem mem_deals_of_apply (he : ∀ call, e ≠ .call call) (h : row ∈ (e.apply P s).store.deals) :
    row ∈ s.store.deals := by
  cases e with
  | call call => exact absurd rfl (he call)
  | restart decodes => exact (mem_deleteWhere.mp h).1
  | _ => exact h

/-- Every sound effect keeps the invariant. -/
theorem ProviderInv.apply (h : ProviderInv env s) (he : e.Sound s.store.admitted) :
    ProviderInv env (e.apply P s) := by
  cases e with
  | call c =>
    refine h.call (not_insert_of_sound he) ?_
    cases c with
    | insert new => exact he.elim
    | _ => exact he
  | observe o =>
    refine { h with
      log := fun o' ho' => ?_
      logged := append_subset.mpr ⟨subset_append_of_subset_left _ h.logged,
        subset_append_right _ _⟩ }
    rcases mem_concat.mp ho' with ho' | ho'
    · exact h.log o' ho'
    · rw [ho']
      exact he
  | insertMaterialization record =>
    refine { h with materializations := fun record' hmem => ?_ }
    rcases mem_insertMaterialization hmem with hmem | rfl
    · exact h.materializations record' hmem
    · exact he
  | setClaim dealId claimToken claimExpiresAt nextAttemptAt =>
    refine { h with materializations := fun record' hmem => ?_ }
    obtain ⟨record, hrecord, rfl⟩ := mem_updateWhere.mp hmem
    split <;> exact h.materializations record hrecord
  | setResource dealId phase resource =>
    refine { h with materializations := fun record' hmem => ?_ }
    obtain ⟨record, hrecord, rfl⟩ := mem_updateWhere.mp hmem
    obtain ⟨row, hrow, hid, hsuits, hresource⟩ := h.materializations record hrecord
    split
    case isTrue hmine =>
      refine ⟨row, hrow, hid, hsuits, fun resource' hresource' => ?_⟩
      rw [← some.inj hresource']
      exact he row hrow (hid.trans (beq_iff_eq.mp hmine))
    case isFalse => exact ⟨row, hrow, hid, hsuits, hresource⟩
  | deleteMaterialization dealId =>
    exact { h with
      materializations := fun record hmem => h.materializations record (mem_deleteWhere.mp hmem).1 }
  | insertBundle session =>
    refine { h with bundles := fun session' hmem => ?_ }
    rcases mem_concat.mp hmem with hmem | rfl
    · exact h.bundles session' (mem_deleteWhere.mp hmem).1
    · exact he
  | updateBundle =>
    refine { h with bundles := fun session' hmem => ?_ }
    obtain ⟨session, hsession, rfl⟩ := mem_updateWhere.mp hmem
    split <;> exact h.bundles session hsession
  | spawn deal =>
    refine { h with workers := fun deal' hmem => ?_ }
    rcases mem_concat.mp hmem with hmem | hmem
    · exact h.workers deal' hmem
    · rw [hmem]
      exact he
  | workerReturned deal =>
    exact { h with workers := fun deal' hmem => h.workers deal' (mem_of_mem_erase hmem) }
  | restart decodes =>
    refine { h with
      admission := h.admission.quarantine decodes
      rows := fun row hmem => h.rows row (mem_deleteWhere.mp hmem).1
      materializations := fun record' hmem => ?_
      logged := nil_subset _, workers := forall_mem_nil _ }
    obtain ⟨record, hrecord, rfl⟩ := mem_map.mp hmem
    exact h.materializations record hrecord
  | insertPrepaidInvoice _ _ | insertOutbox _ | deleteOutbox _ | serve => exact { h with }

end Effects

/-! ## Steps and runs -/

section Steps

variable {P : Primitives} {env : ProviderEnv P} {s : ProviderState}

theorem sound_call {call : DealCall} (hisNew : call.isInsert = false)
    (hpayment : call.payment = none) : Effect.Sound admitted (.call call) := by
  cases call with
  | insert new => cases hisNew
  | _ =>
    intro token amount h
    cases hpayment.symm.trans h

theorem ProviderInv.reserved (h : ProviderInv env s)
    {reservation : PaymentReservation} (hclaim : .claim record ∈ s.held)
    (hreservation : s.Reserved record reservation) :
    ∀ row ∈ s.store.admitted, row.dealId = record.dealId →
      row.StripeAt reservation.amountSats := by
  intro row hrow hid
  have hsame {row' : StoredDeal} (hrow' : row' ∈ s.store.admitted)
      (hid' : row'.dealId = record.dealId) : row' = row :=
    h.fresh.eq_of_mem hrow' hrow (congrArg some hid') (congrArg some hid)
  obtain hheld | ⟨resource, hresource, hinto⟩ := hreservation
  · obtain ⟨row', hrow', hid', hstripe⟩ := h.held _ hheld
    rw [← hsame hrow' hid']
    exact hstripe
  · obtain ⟨row', hrow', hid', -, hall⟩ := h.held _ hclaim
    have hstripe := hall resource hresource
    rw [← fromReservation_of_intoReservation hinto, hsame hrow' hid'] at hstripe
    exact hstripe

theorem ProviderInv.claimed (h : ProviderInv env s) (hclaim : .claim record ∈ s.held) :
    ∀ row ∈ s.store.admitted, row.dealId = record.dealId → record.request.Suits row := by
  intro row hrow hid
  obtain ⟨row', hrow', hid', hsuits, -⟩ := h.held _ hclaim
  rw [← h.fresh.eq_of_mem hrow' hrow (congrArg some hid') (congrArg some hid)]
  exact hsuits

theorem ProviderInv.knows (h : ProviderInv env s) {deal : StoredDeal} (hdeal : s.Knows deal) :
    Snapshot s.store.admitted deal :=
  hdeal.elim (h.held _) (h.workers _)

theorem ProviderInv.sound_of_inert (h : ProviderInv env s) (hinert : e.isInert = true)
    (hreason : e.Reason env s a) : e.Sound s.store.admitted := by
  cases e with
  | call c =>
    cases c with
    | holdExternalOutcome | stageResultReady | stageSettlementPending | cancelUnadmitted =>
      exact sound_call rfl rfl
    | _ => cases hinert
  | observe o =>
    cases o with
    | deal | claim | reservation => cases hinert
    | bundle session =>
      obtain ⟨session₀, hsession₀, hsame⟩ := hreason
      show session.bundle.payload.Quoted s.store.admitted
      rw [← hsame]
      exact h.bundles session₀ hsession₀
    | _ => exact trivial
  | insertMaterialization | setResource | spawn => cases hinert
  | insertBundle session =>
    obtain ⟨record, issued, request, -, howns, hrequest, hsign, -, -⟩ := hreason.persisted
    obtain ⟨row, hrow, -, hsuits, -⟩ := h.held _ howns.held
    rw [hrequest] at hsuits
    obtain ⟨-, hhash, hbase, hsuccess⟩ := signs_of_signLightningInvoiceBundle hsign
    exact ⟨row, hrow, hsuits.2.dealHash.trans hhash.symm, hsuits.2.baseFee.trans hbase.symm,
      hsuits.2.successFee.trans hsuccess.symm⟩
  | _ => exact trivial

/-- Every effect of an action is sound. -/
theorem ProviderInv.sound (h : ProviderInv env s) (he : Arises env s a e) :
    e.Sound s.store.admitted := by
  cases he with
  | inert hinert hreason => exact h.sound_of_inert hinert hreason
  | restart | serve | returned | invoiced => exact trivial
  | readDeal hrow => exact h.rows _ hrow
  | claimed hrecord =>
    obtain ⟨row, hrow, hfits⟩ := h.materializations _ hrecord
    exact ⟨row, hrow, hfits⟩
  | reserved hact hclaim hrequest hprepare ha =>
    obtain ⟨row, hrow, hid, hsuits, -⟩ := h.held _ hclaim
    rw [hrequest] at hsuits
    exact ⟨row, hrow, hid, hsuits.1, (amount_of_preparePaymentForAmount hprepare).trans hsuits.2⟩
  | stored hclaim hreservation phase => exact h.reserved hclaim hreservation
  | paidStripe hclaim hreservation =>
    intro token amount hpayment row hrow old new htarget
    obtain ⟨-, rfl⟩ := Prod.mk.inj (some.inj hpayment)
    obtain ⟨hid, -⟩ := Prod.mk.inj (some.inj htarget)
    exact (h.reserved hclaim hreservation row hrow hid.symm).2
  | paidPrepaid hclaim hrequest hinvoice paymentHash now =>
    intro token amount hpayment row hrow old new htarget
    obtain ⟨-, rfl⟩ := Prod.mk.inj (some.inj hpayment)
    obtain ⟨hid, -⟩ := Prod.mk.inj (some.inj htarget)
    have hsuits := h.claimed hclaim row hrow hid.symm
    rw [hrequest] at hsuits
    exact hsuits.2
  | spawned hphase hdeal ha hcas => exact h.held _ hdeal
  | promotedLightning | promotedPrepaid | started | resetLocal | resetRemote =>
    exact sound_call rfl rfl
  | ended hdeal htarget hreceipt hcause =>
    rename_i call deal old new r
    cases call <;> first
      | exact absurd hreceipt.symm (some_ne_none r)
      | exact sound_call rfl rfl

theorem ProviderInv.effects (h : ProviderInv env s) (hI : I s)
    {effects : List Effect} (hsound : ∀ e ∈ effects, e.Sound s.store.admitted)
    (hkept : ∀ e ∈ effects, ∀ s', ProviderInv env s' → s'.store.admitted = s.store.admitted →
      I s' → I (e.apply P s')) :
    ProviderInv env (effects.foldl (Effect.apply P) s) ∧ I (effects.foldl (Effect.apply P) s) := by
  have hall := foldlRecOn effects (Effect.apply P)
    (motive := fun s' => ProviderInv env s' ∧ s'.store.admitted = s.store.admitted ∧ I s')
    ⟨h, rfl, hI⟩ fun s' hs' e he => ?_
  · exact ⟨hall.1, hall.2.2⟩
  · obtain ⟨hinv, hsame, hI'⟩ := hs'
    have hse : e.Sound s'.store.admitted := hsame ▸ hsound e he
    exact ⟨hinv.apply hse, (admitted_apply hse).trans hsame, hkept e he s' hinv hsame hI'⟩

theorem mem_rejection {new : NewDeal} {rejection : Option AdmissionRejection}
    (h : e ∈ (rejection.toList.map (fun r => DealCall.reject .admission new.dealId r.error
      r.receipt r.failureEvidenceHash new.createdAt)).map Effect.call) :
    ∃ r ∈ rejection, e = .call (.reject .admission new.dealId r.error r.receipt
      r.failureEvidenceHash new.createdAt) := by
  obtain ⟨call, hcall, rfl⟩ := mem_map.mp h
  obtain ⟨r, hr, rfl⟩ := mem_map.mp hcall
  exact ⟨r, mem_toList.mp hr, rfl⟩

theorem suits_materialization {request : CreateDealRequest} {dealId : String}
    {rail : Option PaymentMethod} {totalSats : ℕ} {now : ℤ} {m : MaterializationRequest}
    (htotal : (request.newDeal dealId rail totalSats now).row.totalSats = totalSats)
    (h : request.materialization dealId rail totalSats now = some m) :
    m.Suits (request.newDeal dealId rail totalSats now).row := by
  unfold CreateDealRequest.materialization at h
  split at h
  case h_1 => cases h
  case h_2 =>
    cases h
    exact ⟨rfl, rfl, rfl, rfl⟩
  case h_3 =>
    obtain ⟨payment, -, rfl⟩ := map_eq_some_iff.mp h
    exact ⟨rfl, htotal.symm⟩
  case h_4 =>
    cases h
    exact ⟨rfl, htotal.symm⟩

section

variable (h : ProviderInv env s)
include h

/-- The rule for one action. -/
theorem ProviderInv.step_induction (hI : I s)
    (heffect : ∀ e ∈ a.effects env s, Arises env s a e → ∀ s', ProviderInv env s' →
      s'.store.admitted = s.store.admitted → I s' → I (e.apply P s'))
    (hisNew : ∀ {request dealId rail totalSats rejection now},
      Admits env s a request dealId rail totalSats rejection now →
      I (Effect.apply P s (.call (.insert (request.newDeal dealId rail totalSats now)))))
    (hreject : ∀ {request dealId rail totalSats rejection now},
      Admits env s a request dealId rail totalSats rejection now → ∀ r ∈ rejection, ∀ s',
      ProviderInv env s' → s'.store.admitted
        = s.store.admitted ++ [(request.newDeal dealId rail totalSats now).row] → I s' →
      I (Effect.apply P s' (.call (.reject .admission dealId r.error r.receipt
        r.failureEvidenceHash now))))
    (hmaterialize : ∀ {request dealId rail totalSats rejection now},
      Admits env s a request dealId rail totalSats rejection now →
      ∀ m, request.materialization dealId rail totalSats now = some m → ∀ s',
      ProviderInv env s' → s'.store.admitted
        = s.store.admitted ++ [(request.newDeal dealId rail totalSats now).row] → I s' →
      I (Effect.apply P s' (.insertMaterialization (m.record dealId now)))) :
    ProviderInv env (providerStep env s a) ∧ I (providerStep env s a) := by
  unfold providerStep
  cases ha : a.isAdmission with
  | false =>
    exact h.effects hI (fun e he => h.sound (arises_of_mem ha he))
      fun e he => heffect e he (arises_of_mem ha he)
  | true =>
    obtain hnone | ⟨request, dealId, rail, totalSats, rejection, now, hadmits, heffects⟩ :=
      admits_of_isAdmission env s ha
    · rw [hnone]
      exact ⟨h, hI⟩
    obtain ⟨otherChecks, permit, laterFails, evidence, -, hcheck, -⟩ := hadmits.checked
    obtain ⟨hrow, htotal⟩ := admitted_of_checkDealRequest hcheck dealId
    have hmid : ProviderInv env (Effect.apply P s
        (.call (.insert (request.newDeal dealId rail totalSats now)))) := by
      refine h.insert hadmits.fresh hrow fun hpaid => ?_
      obtain ⟨method, rfl⟩ := ne_none_iff_exists'.mp hpaid
      show some totalSats = some _
      rw [withInitialStatus_newDeal, htotal]
    have hrows := hadmits.inserts.admitted
    rw [withInitialStatus_newDeal] at hrows
    rw [heffects, createDealCalls, map_cons, cons_append, foldl_cons]
    refine hmid.effects (hisNew hadmits) (fun e he => ?_) fun e he s' hinv hsame hI' => ?_
    all_goals
      rcases mem_append.mp he with he | he
    · obtain ⟨r, -, rfl⟩ := mem_rejection he
      exact sound_call rfl rfl
    · obtain ⟨m, hm, rfl⟩ := mem_map.mp he
      refine ⟨(request.newDeal dealId rail totalSats now).row, ?_, rfl,
        suits_materialization htotal (mem_toList.mp hm),
        fun resource hresource => absurd hresource (not_mem_none resource)⟩
      show _ ∈ (DealCall.apply P s.store _).admitted
      rw [hrows]
      exact mem_concat_self
    · obtain ⟨r, hr, rfl⟩ := mem_rejection he
      exact hreject hadmits r hr s' hinv (hsame.trans hrows) hI'
    · obtain ⟨m, hm, rfl⟩ := mem_map.mp he
      exact hmaterialize hadmits m (mem_toList.mp hm) s' hinv (hsame.trans hrows) hI'

variable (a : ProviderAction)

/-- One action keeps the invariant. -/
theorem ProviderInv.step : ProviderInv env (providerStep env s a) := by
  refine (h.step_induction (I := fun _ => True) trivial ?_ ?_ ?_ ?_).1 <;> intros <;> trivial

/-- What the rows of a deal keep. -/
theorem ProviderInv.rows_of_id
    {Q : StoredDeal → Prop} {id : String} (hknown : ∃ row ∈ s.store.admitted, row.dealId = id)
    (hstep : ∀ call row row', RowStep call row row' → row.dealId = id → Q row → Q row')
    (hQ : ∀ row ∈ s.store.deals, row.dealId = id → Q row) :
    ∀ row ∈ (providerStep env s a).store.deals, row.dealId = id → Q row := by
  have hcall {s' : ProviderState} {call : DealCall} (hisNew : call.isInsert = false)
      (hQ' : ∀ row ∈ s'.store.deals, row.dealId = id → Q row) :
      ∀ row ∈ (Effect.apply P s' (.call call)).store.deals, row.dealId = id → Q row := by
    intro row' hrow' hid
    obtain hrow | ⟨row, hrow, hrs⟩ := mem_apply_of_ne_insert hisNew hrow'
    · exact hQ' row' hrow hid
    · rw [hrs.dealId_eq] at hid
      exact hstep call row row' hrs hid (hQ' row hrow hid)
  refine (h.step_induction (I := fun s' => ∀ row ∈ s'.store.deals, row.dealId = id → Q row) hQ
    (fun e _ he s' _ _ hQ' => ?_) (fun hadmits row hrow hid => ?_)
    (fun _ r _ s' _ _ hQ' => hcall rfl hQ')
    (fun _ m _ s' _ _ hQ' row hrow => ?_)).2
  · have hsound := h.sound he
    cases e with
    | call call => exact hcall (not_insert_of_sound hsound) hQ'
    | _ => exact fun row hrow => hQ' row (mem_deals_of_apply (fun _ => Effect.noConfusion) hrow)
  · -- the id of a new row is new
    have hdeals := hadmits.inserts.deals
    replace hrow : row ∈ s.store.deals ++ [_] := hdeals ▸ hrow
    rcases mem_concat.mp hrow with hrow | hrow
    · exact hQ row hrow hid
    · obtain ⟨row₀, hrow₀, hid₀⟩ := hknown
      rw [hrow] at hid
      exact absurd (hid₀.trans hid.symm) (hadmits.fresh row₀ hrow₀)
  · exact hQ' row (mem_deals_of_apply (fun _ => Effect.noConfusion) hrow)

theorem ProviderInv.row_of_id {row' : StoredDeal}
    (hknown : ∃ row ∈ s.store.admitted, row.dealId = row'.dealId)
    (hrow' : row' ∈ (providerStep env s a).store.deals) :
    ∃ row ∈ s.store.deals, row.dealId = row'.dealId := by
  by_contra hnone
  exact h.rows_of_id a (Q := fun _ => False) hknown (fun _ _ _ _ _ hfalse => hfalse)
    (fun row hrow hid => hnone ⟨row, hrow, hid⟩) row' hrow' rfl

theorem ProviderInv.terminal_kept (hrow : row ∈ s.store.deals)
    (hterm : row.status.isTerminal = true) (hrow' : row' ∈ (providerStep env s a).store.deals)
    (hid : row'.dealId = row.dealId) : row' = row := by
  obtain ⟨row₀, hrow₀, hident⟩ := (h.rows row hrow).known
  refine h.rows_of_id a (Q := (· = row)) ⟨row₀, hrow₀, dealId_of_identity hident⟩
    (fun call row₁ row₂ hrs _ heq => ?_) (fun row₁ hrow₁ hid₁ => ?_) row' hrow' hid
  · rw [← heq, hrs.not_terminal] at hterm
    cases hterm
  · exact h.admission.ids.eq_of_mem hrow₁ hrow (congrArg some hid₁) rfl

end

end Steps

end Froglet
