import Froglet.Provider.Claims
import Froglet.Provider.Execution

/-!
# The bundle of a deal only moves forward

A Lightning deal has one row with its signed bundle and the states of the two invoices.
-/

namespace Froglet

open List Table
variable {e : Effect} {record : MaterializationRecord} {dealHash : String}

/-! ## The order of the states -/

def InvoiceBundleLegState.rank : InvoiceBundleLegState → ℕ
  | .opened => 0
  | .accepted => 1
  | .settled | .canceled | .expired => 2

def InvoiceBundleLegState.Advances (state state' : InvoiceBundleLegState) : Prop :=
  state = state' ∨ state.rank < state'.rank

theorem InvoiceBundleLegState.Advances.refl (state : InvoiceBundleLegState) :
    state.Advances state := .inl rfl

theorem InvoiceBundleLegState.Advances.trans {a b c : InvoiceBundleLegState}
    (hab : a.Advances b) (hbc : b.Advances c) : a.Advances c := by
  obtain rfl | hab := hab
  · exact hbc
  obtain rfl | hbc := hbc
  · exact .inr hab
  · exact .inr (hab.trans hbc)

theorem InvoiceBundleLegState.Advances.eq_of_isTerminal {state state' : InvoiceBundleLegState}
    (h : state.Advances state') (hend : state.isTerminal = true) : state' = state := by
  obtain rfl | h := h
  · rfl
  · -- nothing comes after an end
    have hlast : ∀ a b : InvoiceBundleLegState, a.isTerminal = true → b.rank ≤ a.rank := by
      intro a b ha
      cases a
      case opened | accepted => cases ha
      all_goals cases b <;> decide
    exact absurd h (not_lt.mpr (hlast state state' hend))

theorem InvoiceBundleLegState.advances_updated (current new : InvoiceBundleLegState) :
    current.Advances (current.updated new) := by
  cases current <;> cases new <;>
    simp [InvoiceBundleLegState.Advances, InvoiceBundleLegState.updated,
      InvoiceBundleLegState.isTerminal, InvoiceBundleLegState.rank]

structure LightningInvoiceBundleSession.Advances (row row' : LightningInvoiceBundleSession) :
    Prop where
  sessionId : row'.sessionId = row.sessionId
  bundle : row'.bundle = row.bundle
  createdAt : row'.createdAt = row.createdAt
  baseState : row.baseState.Advances row'.baseState
  successState : row.successState.Advances row'.successState

theorem LightningInvoiceBundleSession.Advances.refl (row : LightningInvoiceBundleSession) :
    row.Advances row := ⟨rfl, rfl, rfl, .refl _, .refl _⟩

theorem LightningInvoiceBundleSession.Advances.trans {a b c : LightningInvoiceBundleSession}
    (hab : a.Advances b) (hbc : b.Advances c) : a.Advances c :=
  ⟨hbc.sessionId.trans hab.sessionId, hbc.bundle.trans hab.bundle,
    hbc.createdAt.trans hab.createdAt, hab.baseState.trans hbc.baseState,
    hab.successState.trans hbc.successState⟩

def ProviderState.RowsAdvance (s s' : ProviderState) : Prop :=
  ∀ row ∈ s.bundles, ∃ row' ∈ s'.bundles, row.Advances row'

instance : IsPreorder ProviderState ProviderState.RowsAdvance where
  refl _ row hrow := ⟨row, hrow, .refl row⟩
  trans _ _ _ hab hbc row hrow := by
    obtain ⟨row', hrow', h⟩ := hab row hrow
    obtain ⟨row'', hrow'', h'⟩ := hbc row' hrow'
    exact ⟨row'', hrow'', h.trans h'⟩

/-! ## Sessions and materializations -/

def MaterializationRecord.Addressed (record : MaterializationRecord) : Prop :=
  ∀ request, record.request = .lightningInvoiceBundle request → request.sessionId = record.dealId

section Rows

variable {P : Primitives} {env : ProviderEnv P} {s : ProviderState} {a : ProviderAction}

structure BundleRowsInv (env : ProviderEnv P) (s : ProviderState) : Prop where
  provider : ProviderInv env s
  ids : Table.Unique (some ·.dealId) s.materializations
  addressed : ∀ record ∈ s.materializations, record.Addressed
  claims : ∀ record, .claim record ∈ s.log → record.Addressed
  known : ∀ row ∈ s.bundles, ∃ deal ∈ s.store.admitted, deal.dealId = row.sessionId
  pending : ∀ row ∈ s.bundles, ∀ record ∈ s.materializations, row.sessionId ≠ record.dealId

theorem bundleRowsInv_init : BundleRowsInv env (providerMachine env).init where
  provider := providerInv_init
  ids := unique_nil _
  addressed := forall_mem_nil _
  claims _ h := nomatch h
  known := forall_mem_nil _
  pending := forall_mem_nil _

theorem rowsAdvance_apply (hinsert : ∀ session, e ≠ .insertBundle session) :
    s.RowsAdvance (e.apply P s) := by
  intro row hrow
  cases e with
  | insertBundle session => exact absurd rfl (hinsert session)
  | updateBundle sessionId baseState successState =>
    refine ⟨_, mem_updateWhere.mpr ⟨row, hrow, rfl⟩, ?_⟩
    split
    · exact ⟨rfl, rfl, rfl, InvoiceBundleLegState.advances_updated _ _,
        InvoiceBundleLegState.advances_updated _ _⟩
    · exact .refl row
  | _ => exact ⟨row, hrow, .refl row⟩

theorem request_of_mem_apply (hinsert : ∀ record, e ≠ .insertMaterialization record)
    (h : record ∈ (e.apply P s).materializations) :
    ∃ record₀ ∈ s.materializations, record₀.dealId = record.dealId
      ∧ record₀.request = record.request := by
  cases e with
  | insertMaterialization record' => exact absurd rfl (hinsert record')
  | setClaim | setResource =>
    obtain ⟨record₀, hmem, rfl⟩ := mem_updateWhere.mp h
    refine ⟨record₀, hmem, ?_⟩
    split <;> exact ⟨rfl, rfl⟩
  | deleteMaterialization => exact ⟨record, (mem_deleteWhere.mp h).1, rfl, rfl⟩
  | restart =>
    obtain ⟨record₀, hmem, rfl⟩ := mem_map.mp h
    exact ⟨record₀, hmem, rfl, rfl⟩
  | _ => exact ⟨record, h, rfl, rfl⟩

theorem MaterializationRecord.Addressed.of_eq {record₀ : MaterializationRecord}
    (h : record₀.Addressed) (hid : record₀.dealId = record.dealId)
    (hrequest : record₀.request = record.request) : record.Addressed :=
  fun request heq => hid ▸ h request (hrequest.trans heq)

theorem addressed_of_materialization {request : CreateDealRequest} {dealId : String}
    {rail : Option PaymentMethod} {totalSats : ℕ} {now : ℤ} {m : MaterializationRequest}
    (h : request.materialization dealId rail totalSats now = some m) :
    (m.record dealId now).Addressed := by
  rintro bundleRequest rfl
  unfold CreateDealRequest.materialization at h
  split at h
  · cases h
  · cases h
    rfl
  · obtain ⟨payment, -, hpayment⟩ := Option.map_eq_some_iff.mp h
    cases hpayment
  · cases h

theorem addressed_step (hinv : ProviderInv env s)
    (h : ∀ record ∈ s.materializations, record.Addressed) :
    ∀ record ∈ (providerStep env s a).materializations, record.Addressed := by
  refine (hinv.step_induction (a := a)
    (I := fun s' => ∀ record ∈ s'.materializations, record.Addressed) h ?_ ?_ ?_ ?_).2
  · intro e _ he s' _ _ hI record hmem
    obtain ⟨record₀, hmem₀, hid, hrequest⟩ :=
      request_of_mem_apply (arises_ne_insertMaterialization he) hmem
    exact (hI record₀ hmem₀).of_eq hid hrequest
  · exact fun _ => h
  · exact fun _ _ _ s' _ _ hI => hI
  · intro request dealId rail totalSats rejection now _ m hm s' _ _ hI record hmem
    rcases mem_insertMaterialization hmem with hmem | rfl
    · exact hI record hmem
    · exact addressed_of_materialization hm

variable {row : LightningInvoiceBundleSession}

theorem session_of_mem_step (h : row ∈ (providerStep env s a).bundles) :
    (∃ row₀ ∈ s.bundles, row₀.sessionId = row.sessionId)
      ∨ ∃ session, Bundled env s a session ∧ session.sessionId = row.sessionId := by
  obtain ⟨row₀, hrow₀, hid, -⟩ | ⟨dealId, session, hpersisted, hid, -⟩ := bundle_of_mem_step h
  · exact .inl ⟨row₀, hrow₀, hid⟩
  refine .inr ⟨session, ?_, hid⟩
  obtain ⟨e, hmem, hresource⟩ := mem_filterMap.mp hpersisted
  obtain rfl : e = .insertBundle session := by
    cases e with
    | insertBundle session' =>
      obtain ⟨record, -, hrecord⟩ := Option.map_eq_some_iff.mp hresource
      rw [PaymentResource.bundle.inj (Prod.mk.inj hrecord).2]
    | insertPrepaidInvoice => cases hresource
    | call call => cases call <;> cases hresource
    | _ => cases hresource
  cases arises_of_mem_of_ne hmem rfl with
  | inert _ hreason => exact hreason

/-- One action keeps the rows apart. -/
theorem BundleRowsInv.step (h : BundleRowsInv env s) (a : ProviderAction) :
    BundleRowsInv env (providerStep env s a) where
  provider := h.provider.step a
  ids := unique_materializations_step env a h.ids
  addressed := addressed_step h.provider h.addressed
  claims := by
    intro claim hclaim
    obtain hclaim | harises := arises_of_mem_log hclaim
    · exact h.claims claim hclaim
    · obtain ⟨record, hmem, claimToken, now, -, rfl, -⟩ := claim_of_arises harises
      exact (h.addressed record hmem).of_eq rfl rfl
  known := by
    intro row hrow
    obtain ⟨row₀, hrow₀, hid⟩ | ⟨session, hbundled, hid⟩ := session_of_mem_step hrow
    · obtain ⟨deal, hdeal, hdealId⟩ := h.known row₀ hrow₀
      exact ⟨deal, admitted_subset_step env s a hdeal, hdealId.trans hid⟩
    · obtain ⟨record, issued, request, -, howns, hrequest, hsign, -, -⟩ := hbundled.persisted
      obtain ⟨deal, hdeal, hdealId, -⟩ := h.provider.held _ howns.held
      have haddressed := h.claims record (h.provider.logged howns.held) request hrequest
      refine ⟨deal, admitted_subset_step env s a hdeal, ?_⟩
      rw [← hid, (signs_of_signLightningInvoiceBundle hsign).sessionId, haddressed, hdealId]
  pending := by
    intro row hrow record hrecord
    obtain ⟨row₀, hrow₀, hid⟩ | ⟨session, hbundled, hid⟩ := session_of_mem_step hrow
    · obtain ⟨record₀, hrecord₀, hrecordId⟩ | hfresh :=
        h.provider.dealId_of_materialization a hrecord
      · rw [← hid, ← hrecordId]
        exact h.pending row₀ hrow₀ record₀ hrecord₀
      · obtain ⟨deal, hdeal, hdealId⟩ := h.known row₀ hrow₀
        rw [← hid, ← hdealId]
        exact hfresh deal hdeal
    · -- the materialization goes with the insert
      obtain ⟨owned, issued, request, -, howns, hrequest, hsign, -, heffects⟩ := hbundled.persisted
      have haddressed := h.claims owned (h.provider.logged howns.held) request hrequest
      rw [← hid, (signs_of_signLightningInvoiceBundle hsign).sessionId, haddressed]
      unfold providerStep at hrecord
      rw [heffects] at hrecord
      have hother := (mem_deleteWhere.mp hrecord).2
      exact fun heq => absurd heq.symm (ne_of_beq_false hother)

/-- One action lets the rows advance. -/
theorem BundleRowsInv.rowsAdvance (h : BundleRowsInv env s) (a : ProviderAction) :
    s.RowsAdvance (providerStep env s a) := by
  by_cases hsome : ∃ session, .insertBundle session ∈ a.effects env s
  case neg =>
    refine foldlRecOn (a.effects env s) (Effect.apply P) (motive := s.RowsAdvance)
      (refl_of ProviderState.RowsAdvance s) fun s' hs' e he => ?_
    exact trans_of ProviderState.RowsAdvance hs'
      (rowsAdvance_apply (fun session hsession => hsome ⟨session, hsession ▸ he⟩))
  obtain ⟨session, hmem⟩ := hsome
  cases arises_of_mem_of_ne hmem rfl with
  | inert _ hreason =>
    obtain ⟨owned, issued, request, -, howns, hrequest, hsign, -, heffects⟩ := hreason.persisted
    have haddressed := h.claims owned (h.provider.logged howns.held) request hrequest
    obtain ⟨current, hcurrent, hcurrentId⟩ := howns.current
    intro row hrow
    unfold providerStep
    rw [heffects]
    -- no row has the session that is inserted
    have hother : (row.sessionId == session.sessionId) = false := by
      rw [(signs_of_signLightningInvoiceBundle hsign).sessionId, haddressed, ← hcurrentId]
      exact beq_false_of_ne (h.pending row hrow current hcurrent)
    exact ⟨row, mem_append_left _ (mem_deleteWhere.mpr ⟨hrow, hother⟩), .refl row⟩

theorem ProviderState.RowsAdvance.getBundleByDealHash {s s' : ProviderState} (h : s.RowsAdvance s')
    (hunique : s'.BundlesUnique) (hrow : s.getBundleByDealHash dealHash = some row) :
    ∃ row', s'.getBundleByDealHash dealHash = some row' ∧ row.Advances row' := by
  obtain ⟨hmem, hhash⟩ := selectWhere_some hrow
  obtain ⟨row', hmem', hadvances⟩ := h row hmem
  have hhash' : row'.bundle.payload.dealHash = dealHash := by
    rw [hadvances.bundle, beq_iff_eq.mp hhash]
  exact ⟨row', hunique.selectWhere_of_mem (k := dealHash) hmem' (fun session => by simp)
    (congrArg some hhash'), hadvances⟩

/-- **The bundle of a deal is never replaced, and its legs only move forward**, up to
an end that is not left: from every state of every run to every later one. -/
theorem bundle_rows_advance (env : ProviderEnv P) (actions later : List ProviderAction)
    (hrow : ((providerMachine env).run actions).getBundleByDealHash dealHash = some row) :
    ∃ row', ((providerMachine env).run (actions ++ later)).getBundleByDealHash dealHash = some row'
      ∧ row.Advances row' ∧ (row.baseState.isTerminal = true → row'.baseState = row.baseState)
      ∧ (row.successState.isTerminal = true → row'.successState = row.successState) := by
  have hinv : BundleRowsInv env ((providerMachine env).run actions) :=
    (providerMachine env).invariant bundleRowsInv_init (fun _ a h => h.step a) actions
  have hunique : ((providerMachine env).run (actions ++ later)).BundlesUnique :=
    (providerMachine env).invariant (I := ProviderState.BundlesUnique) (unique_nil _)
      (fun _ _ h => bundlesUnique_step h) (actions ++ later)
  have hadvance := (providerMachine env).run_rel (I := BundleRowsInv env)
    (R := ProviderState.RowsAdvance) (fun _ a h => h.step a) (fun _ a h => h.rowsAdvance a) later _
    hinv
  rw [← (providerMachine env).run_append] at hadvance
  obtain ⟨row', hrow', hadvances⟩ := hadvance.getBundleByDealHash hunique hrow
  exact ⟨row', hrow', hadvances, hadvances.baseState.eq_of_isTerminal,
    hadvances.successState.eq_of_isTerminal⟩

end Rows

theorem late_write_moves_nothing :
    ∃ row row', ((providerMachine (sampleEnv ⟨[.lightning], .lndRest, [], false⟩)).run
        lightningStartRun).getBundleByDealHash "aa" = some row
      ∧ row.baseState = .settled ∧ row.successState = .accepted
      ∧ ((providerMachine (sampleEnv ⟨[.lightning], .lndRest, [], false⟩)).run
        (lightningStartRun ++ [.syncLightningBundle "d" .opened .opened])).getBundleByDealHash "aa"
          = some row' ∧ row.Advances row' ∧ row'.baseState = .settled := by
  have hrow : ((providerMachine (sampleEnv ⟨[.lightning], .lndRest, [], false⟩)).run
      lightningStartRun).getBundleByDealHash "aa" = some sampleFundedSession := by decide +kernel
  obtain ⟨row', hrow', hadvances, hbase, -⟩ := bundle_rows_advance _ lightningStartRun
    [.syncLightningBundle "d" .opened .opened] hrow
  exact ⟨_, row', hrow, rfl, rfl, hrow', hadvances, hbase rfl⟩

end Froglet
