import Froglet.Provider.Invariant

/-!
# Who owns a materialization

What a paid deal needs from its rail – a pair of invoices, an authorised PaymentIntent,
a prepaid invoice – is set up by a task that first claims the deal's materialization.
-/

namespace Froglet

open List Option Table

variable {P : Primitives}
variable {record : MaterializationRecord} {e : Effect} {session : LightningInvoiceBundleSession}
variable {o : Observation} {p : String × PrepaidInvoice}

/-! ## Claims -/

def MaterializationRecord.isClaimed (record : MaterializationRecord) (now : ℤ) : Bool :=
  record.claimToken.isSome && record.claimExpiresAt.any (now < ·)

def Observation.claims (claimToken : String) : Observation → Bool
  | claim record => record.claimToken == some claimToken
  | _ => false

/-- The action makes a claim under a token that was used before. Tokens are drawn like the
ids of deals, and `claimStep` lets none be drawn twice. -/
def ProviderAction.repeatsToken (s : ProviderState) : ProviderAction → Bool
  | claimDealMaterialization _ claimToken _ => s.log.any (·.claims claimToken)
  | _ => false

def ProviderAction.HoldsClaim (s : ProviderState) (a : ProviderAction)
    (record : MaterializationRecord) : Prop :=
  ∃ claim, a.claim = some claim ∧ .claim claim ∈ s.held ∧ claim.dealId = record.dealId
    ∧ claim.claimToken = record.claimToken

/-- What an action can do to a record under a claim. -/
inductive ClaimedStep (s s' : ProviderState) (a : ProviderAction) (record : MaterializationRecord) :
    Prop
  | kept (h : record ∈ s'.materializations)
  | holder (h : a.HoldsClaim s record)
  | takenOver {claimToken : String} {now : ℤ}
      (ha : a = .claimDealMaterialization record.dealId claimToken now)
      (hexpired : record.isClaimed now = false)
      (hclaimed : record.claimedBy claimToken now ∈ s'.materializations)
  | reset {decodes : StoredDeal → Bool} (ha : a = .restart decodes)

/-! ## Resources -/

inductive PaymentResource where
  | bundle (session : LightningInvoiceBundleSession)
  | paymentIntent (tokenHash : String)
  | prepaidInvoice (invoice : PrepaidInvoice)

def Effect.resource (a : ProviderAction) : Effect → Option (String × PaymentResource)
  | insertBundle session => a.claim.map fun record => (record.dealId, .bundle session)
  | call (.materializeStripe dealId tokenHash _ _) => some (dealId, .paymentIntent tokenHash)
  | insertPrepaidInvoice dealId invoice => some (dealId, .prepaidInvoice invoice)
  | _ => none

/-- The provider, and every resource ever persisted with its deal. -/
structure ClaimState where
  provider : ProviderState
  persisted : List (String × PaymentResource)

section Machine

variable (env : ProviderEnv P)

def ProviderAction.persisted (s : ProviderState) (a : ProviderAction) :
    List (String × PaymentResource) :=
  (a.effects env s).filterMap (·.resource a)

def claimStep (s : ClaimState) (a : ProviderAction) : ClaimState :=
  if a.repeatsToken s.provider then s
  else
    { provider := providerStep env s.provider a
      persisted := s.persisted ++ a.persisted env s.provider }

def claimMachine : Machine ClaimState ProviderAction where
  init := { provider := (providerMachine env).init, persisted := [] }
  step := claimStep env

end Machine

structure ClaimState.Exclusive (s : ClaimState) : Prop where
  claims : ∀ dealId now, (s.provider.materializations.filter
    (fun record => record.dealId == dealId && record.isClaimed now)).length ≤ 1
  holders : ∀ record ∈ s.provider.materializations, record.claimToken ≠ none →
    ∀ claim claim', .claim claim ∈ s.provider.held → .claim claim' ∈ s.provider.held →
      claim.claimToken = record.claimToken → claim'.claimToken = record.claimToken →
        claim = claim'
  once : ∀ dealId, (s.persisted.filter (·.1 == dealId)).length ≤ 1
  bundles : ∀ session ∈ s.provider.bundles, ∃ dealId session₀,
    (dealId, .bundle session₀) ∈ s.persisted ∧ session₀.sessionId = session.sessionId
      ∧ session₀.bundle = session.bundle
  bundleHashes : Table.Unique (some ·.bundle.payload.dealHash) s.provider.bundles
  invoices : ∀ p ∈ s.provider.prepaidInvoices, (p.1, .prepaidInvoice p.2) ∈ s.persisted
  intents : ∀ row ∈ s.provider.store.deals, row.paymentMethod = some .stripe →
    ∀ tokenHash, row.paymentTokenHash = some tokenHash →
      (row.dealId, .paymentIntent tokenHash) ∈ s.persisted

/-! ## Records -/

def Effect.rewritten : Effect → Option String
  | setClaim dealId _ _ _ | setResource dealId _ _ | deleteMaterialization dealId => some dealId
  | _ => none

section Records

variable {env : ProviderEnv P} {s s' : ProviderState} {a : ProviderAction}

theorem mem_materializations_apply (hid : e.rewritten ≠ some record.dealId)
    (hrestart : ∀ decodes, e ≠ .restart decodes) (h : record ∈ s.materializations) :
    record ∈ (e.apply P s).materializations := by
  have hother {dealId : String} (hne : some dealId ≠ some record.dealId) :
      (record.dealId == dealId) = false :=
    beq_false_of_ne fun heq => hne (congrArg some heq.symm)
  cases e with
  | insertMaterialization record' =>
    dsimp only [Effect.apply]
    split
    · exact h
    · exact mem_append_left _ h
  | setClaim dealId claimToken claimExpiresAt nextAttemptAt =>
    refine mem_updateWhere.mpr ⟨record, h, ?_⟩
    rw [hother hid]
    rfl
  | setResource dealId phase resource =>
    refine mem_updateWhere.mpr ⟨record, h, ?_⟩
    rw [hother hid]
    rfl
  | deleteMaterialization dealId => exact mem_deleteWhere.mpr ⟨h, hother hid⟩
  | restart decodes => exact absurd rfl (hrestart decodes)
  | _ => exact h

theorem Arises.rewrites (h : Arises env s a e) {dealId : String} (hid : e.rewritten = some dealId) :
    Rewrites s a dealId := by
  cases h with
  | @inert e hinert hreason =>
    cases e with
    | setClaim dealId' => exact some.inj hid ▸ hreason.1
    | deleteMaterialization dealId' => exact some.inj hid ▸ hreason
    | setResource => cases hinert
    | _ => cases hid
  | stored hclaim hreservation phase hrewrites => exact some.inj hid ▸ hrewrites
  | _ => cases hid

theorem unique_materializations_apply (e : Effect)
    (h : Table.Unique (some ·.dealId) s.materializations) :
    Table.Unique (some ·.dealId) (e.apply P s).materializations := by
  cases e with
  | insertMaterialization record =>
    dsimp only [Effect.apply]
    split
    case isTrue => exact h
    case isFalse hfresh =>
      refine h.concat fun record' hmem dealId hid hid' => hfresh ?_
      exact any_eq_true.mpr ⟨record', hmem, beq_iff_eq.mpr (some.inj (hid.trans hid'.symm))⟩
  | setClaim | setResource => exact h.updateWhere fun _ _ _ => rfl
  | deleteMaterialization => exact h.deleteWhere _
  | restart decodes =>
    unfold Table.Unique Effect.apply
    rw [filterMap_map]
    exact h
  | _ => exact h

theorem unique_materializations_step (env : ProviderEnv P) (a : ProviderAction)
    (h : Table.Unique (some ·.dealId) s.materializations) :
    Table.Unique (some ·.dealId) (providerStep env s a).materializations :=
  foldlRecOn (a.effects env s) (Effect.apply P)
    (motive := fun s' => Table.Unique (some ·.dealId) s'.materializations) h
    fun _ hunique e _ => unique_materializations_apply e hunique

theorem getMaterialization_of_mem
    (h : Table.Unique (some ·.dealId) s.materializations) (hmem : record ∈ s.materializations) :
    s.getMaterialization record.dealId = some record :=
  h.selectWhere_of_mem hmem (fun record' => by simp) rfl

theorem Owns.current (h : Owns s a record) :
    ∃ current ∈ s.materializations, current.dealId = record.dealId := by
  have howned := (Bool.and_eq_true_iff.mp h.owned).2
  cases hfound : s.getMaterialization record.dealId with
  | none =>
    rw [hfound] at howned
    cases howned
  | some current =>
    obtain ⟨hmem, hid⟩ := selectWhere_some hfound
    exact ⟨current, hmem, beq_iff_eq.mp hid⟩

theorem dealId_of_mem_apply (hinsert : ∀ record, e ≠ .insertMaterialization record)
    (h : record ∈ (e.apply P s).materializations) :
    ∃ record₀ ∈ s.materializations, record₀.dealId = record.dealId := by
  cases e with
  | insertMaterialization record' => exact absurd rfl (hinsert record')
  | setClaim | setResource =>
    obtain ⟨record₀, hmem, rfl⟩ := mem_updateWhere.mp h
    refine ⟨record₀, hmem, ?_⟩
    split <;> rfl
  | deleteMaterialization => exact ⟨record, (mem_deleteWhere.mp h).1, rfl⟩
  | restart =>
    obtain ⟨record₀, hmem, rfl⟩ := mem_map.mp h
    exact ⟨record₀, hmem, rfl⟩
  | _ => exact ⟨record, h, rfl⟩

theorem arises_ne_insertMaterialization (h : Arises env s a e) :
    ∀ record, e ≠ .insertMaterialization record := by
  rintro record rfl
  cases h with
  | inert hinert => cases hinert

/-- A deal has a record from its admission on, or never. -/
theorem ProviderInv.dealId_of_materialization (h : ProviderInv env s) (a : ProviderAction)
    (hmem : record ∈ (providerStep env s a).materializations) :
    (∃ record₀ ∈ s.materializations, record₀.dealId = record.dealId)
      ∨ ∀ row ∈ s.store.admitted, row.dealId ≠ record.dealId := by
  refine (h.step_induction (a := a) (I := fun s' => ∀ record ∈ s'.materializations,
      (∃ record₀ ∈ s.materializations, record₀.dealId = record.dealId)
        ∨ ∀ row ∈ s.store.admitted, row.dealId ≠ record.dealId)
    (fun record hmem => .inl ⟨record, hmem, rfl⟩) ?_ ?_ ?_ ?_).2 record hmem
  · intro e _ he s' _ _ hI record hmem
    obtain ⟨record₁, hmem₁, hid⟩ := dealId_of_mem_apply (arises_ne_insertMaterialization he) hmem
    exact hid ▸ hI record₁ hmem₁
  · exact fun _ record hmem => .inl ⟨record, hmem, rfl⟩
  · exact fun _ _ _ s' _ _ hI => hI
  · intro request dealId rail totalSats rejection now hadmits m _ s' _ _ hI record hmem
    rcases mem_insertMaterialization hmem with hmem | rfl
    · exact hI record hmem
    · exact .inr hadmits.fresh

/-! ## No claim is left at a start -/

def ProviderState.StartsUnclaimed (s : ProviderState) : Prop :=
  s.phase = .starting → ∀ record ∈ s.materializations, record.claimToken = none

theorem startsUnclaimed_apply (h : s'.StartsUnclaimed)
    (hclaim : ∀ dealId claimToken expires next, e = .setClaim dealId claimToken expires next →
      s'.phase = .serving)
    (hinsert : ∀ record, e = .insertMaterialization record → record.claimToken = none) :
    (e.apply P s').StartsUnclaimed := by
  intro hphase record hmem
  cases e with
  | insertMaterialization record' =>
    rcases mem_insertMaterialization hmem with hmem | rfl
    · exact h hphase record hmem
    · exact hinsert _ rfl
  | setClaim dealId claimToken expires next =>
    exact absurd (hphase.symm.trans (hclaim _ _ _ _ rfl)) RunPhase.noConfusion
  | setResource =>
    obtain ⟨record₀, hmem₀, rfl⟩ := mem_updateWhere.mp hmem
    split <;> exact h hphase record₀ hmem₀
  | deleteMaterialization => exact h hphase record (mem_deleteWhere.mp hmem).1
  | restart =>
    obtain ⟨record₀, -, rfl⟩ := mem_map.mp hmem
    rfl
  | serve => exact absurd hphase RunPhase.noConfusion
  | _ => exact h hphase record hmem

theorem serving_apply (hrestart : ∀ decodes, e ≠ .restart decodes) (h : s.phase = .serving) :
    (e.apply P s).phase = .serving := by
  cases e with
  | restart decodes => exact absurd rfl (hrestart decodes)
  | serve => rfl
  | _ => exact h

theorem startsUnclaimed_step (hinv : ProviderInv env s) (h : s.StartsUnclaimed)
    (a : ProviderAction) : (providerStep env s a).StartsUnclaimed := by
  by_cases ha : ∃ decodes, a = .restart decodes
  · obtain ⟨decodes, rfl⟩ := ha
    exact startsUnclaimed_apply (P := P) (e := .restart decodes) h
      (fun _ _ _ _ => Effect.noConfusion) (fun _ => Effect.noConfusion)
  -- otherwise a node that serves goes on serving, and only such a node sets claims
  refine (hinv.step_induction (a := a) (I := fun s' => s'.StartsUnclaimed
      ∧ (s.phase = .serving → s'.phase = .serving)) ⟨h, id⟩ ?_ ?_ ?_ ?_).2.1
  · intro e _ he s' _ _ ⟨hI, hserving⟩
    refine ⟨startsUnclaimed_apply hI (fun _ _ _ _ hset => ?_)
      (fun record hinsert => absurd hinsert (arises_ne_insertMaterialization he record)),
      fun hphase => serving_apply (fun decodes hdecodes => ?_) (hserving hphase)⟩
    · rw [hset] at he
      cases he with
      | inert _ hreason => exact hserving hreason.2
    · rw [hdecodes] at he
      cases he with
      | inert hinert => cases hinert
      | restart ha' => exact ha ⟨decodes, ha'⟩
  · exact fun _ => ⟨h, id⟩
  · exact fun _ _ _ s' _ _ hI => hI
  · intro request dealId rail totalSats rejection now _ m _ s' _ _ ⟨hI, hserving⟩
    refine ⟨startsUnclaimed_apply hI (fun _ _ _ _ => Effect.noConfusion) (fun record hinsert => ?_),
      fun hphase => serving_apply (fun _ => Effect.noConfusion) (hserving hphase)⟩
    obtain rfl := Effect.insertMaterialization.inj hinsert
    rfl

/-! ## What happens to a claimed record -/

/-- A claim takes a free record over, and leaves it under its own token. -/
theorem mem_of_claimDealMaterialization (env : ProviderEnv P)
    (hids : Table.Unique (some ·.dealId) s.materializations)
    (hmem : record ∈ s.materializations) (claimToken : String) (now : ℤ) :
    record ∈ (providerStep env s
        (.claimDealMaterialization record.dealId claimToken now)).materializations
      ∨ record.claimedBy claimToken now ∈ (providerStep env s
        (.claimDealMaterialization record.dealId claimToken now)).materializations := by
  have hobserved (effects : List Effect) (heffects : ∀ e ∈ effects, ∃ o, e = .observe o)
      (s' : ProviderState) :
      (effects.foldl (Effect.apply P) s').materializations = s'.materializations :=
    foldlRecOn effects (Effect.apply P)
      (motive := fun s'' => s''.materializations = s'.materializations) rfl
      fun s'' hsame e he => by
        obtain ⟨o, rfl⟩ := heffects e he
        exact hsame
  unfold providerStep
  dsimp only [ProviderAction.effects, ProviderState.during]
  split
  case isFalse => exact .inl hmem
  case isTrue =>
    unfold claimDealMaterialization
    rw [getMaterialization_of_mem hids hmem]
    dsimp only
    split
    case isFalse => exact .inl hmem
    case isTrue =>
      refine .inr ?_
      rw [cons_append, foldl_cons, hobserved]
      · exact mem_updateWhere.mpr ⟨record, hmem, if_pos (beq_self_eq_true _)⟩
      · intro e he
        simp only [List.cons_append, List.nil_append, List.mem_cons, List.mem_map] at he
        obtain rfl | ⟨row, -, rfl⟩ := he
        · exact ⟨_, rfl⟩
        · exact ⟨_, rfl⟩

theorem isClaimed_of_free {now : ℤ}
    (h : record.claimToken = none ∨ record.claimExpiresAt.all (· ≤ now) = true) :
    record.isClaimed now = false := by
  unfold MaterializationRecord.isClaimed
  obtain htoken | hexpired := h
  · rw [htoken]
    rfl
  · cases hexpires : record.claimExpiresAt with
    | none => exact Bool.and_false _
    | some expires =>
      rw [hexpires] at hexpired
      have hle : expires ≤ now := of_decide_eq_true hexpired
      simp [hle]

/-- What an action does to a record under a claim. -/
theorem claimedStep_step (hinv : ProviderInv env s)
    (hids : Table.Unique (some ·.dealId) s.materializations) (hstart : s.StartsUnclaimed)
    (a : ProviderAction) (hmem : record ∈ s.materializations) (htoken : record.claimToken ≠ none) :
    ClaimedStep s (providerStep env s a) a record := by
  have hfound := getMaterialization_of_mem hids hmem
  have hrewrites (h : Rewrites s a record.dealId) :
      ClaimedStep s (providerStep env s a) a record := by
    cases h with
    | owner ha hheld hid hcurrent => exact .holder ⟨_, ha, hheld, hid, (hcurrent _ hfound).symm⟩
    | @claims claimToken now ha hfree =>
      subst ha
      obtain hkept | hclaimed := mem_of_claimDealMaterialization env hids hmem claimToken now
      · exact .kept hkept
      · exact .takenOver rfl (isClaimed_of_free (hfree _ hfound)) hclaimed
    | starting hphase => exact absurd (hstart hphase record hmem) htoken
  -- an effect leaves the record alone, or its reason is one of the three
  by_cases hstep : ClaimedStep s (providerStep env s a) a record
  · exact hstep
  refine .kept (hinv.step_induction (a := a) (I := fun s' => record ∈ s'.materializations)
    hmem ?_ ?_ ?_ ?_).2
  · intro e _ he s' _ _ hI
    refine mem_materializations_apply (fun hid => hstep (hrewrites (he.rewrites hid)))
      (fun decodes hdecodes => ?_) hI
    rw [hdecodes] at he
    cases he with
    | inert hinert => cases hinert
    | restart ha => exact hstep (.reset ha)
  · exact fun _ => hmem
  · exact fun _ _ _ s' _ _ hI => hI
  · exact fun _ _ _ s' _ _ hI => mem_materializations_apply (fun hid => nomatch hid)
      (fun _ => Effect.noConfusion) hI

/-! ## Tokens -/

def ProviderState.ClaimsOnce (s : ProviderState) : Prop :=
  ∀ claim claim', .claim claim ∈ s.log → .claim claim' ∈ s.log →
    claim.claimToken = claim'.claimToken → claim = claim'

theorem mem_log_apply (h : o ∈ (e.apply P s).log) : o ∈ s.log ∨ e = .observe o := by
  cases e with
  | observe o' =>
    rcases mem_concat.mp h with h | h
    · exact .inl h
    · exact .inr (congrArg _ h.symm)
  | _ => exact .inl h

theorem arises_of_mem_log (h : o ∈ (providerStep env s a).log) :
    o ∈ s.log ∨ Arises env s a (.observe o) := by
  have hall := foldlRecOn (a.effects env s) (Effect.apply P)
    (motive := fun s' => ∀ o ∈ s'.log, o ∈ s.log ∨ .observe o ∈ a.effects env s)
    (fun _ ho => .inl ho) fun s' hs' e he o ho => by
      obtain ho | rfl := mem_log_apply ho
      · exact hs' o ho
      · exact .inr he
  exact (hall o h).imp_right fun hmem =>
    arises_of_mem_of_ne hmem rfl

theorem claim_of_arises {claim : MaterializationRecord}
    (h : Arises env s a (.observe (.claim claim))) :
    ∃ record ∈ s.materializations, ∃ claimToken now,
      a = .claimDealMaterialization record.dealId claimToken now
        ∧ claim = record.claimedBy claimToken now ∧ record.isClaimed now = false := by
  cases h with
  | inert hinert => cases hinert
  | claimed hmem ha hfree => exact ⟨_, hmem, _, _, ha, rfl, isClaimed_of_free hfree⟩

theorem claimsOnce_step (hids : Table.Unique (some ·.dealId) s.materializations)
    (h : s.ClaimsOnce) (hfresh : a.repeatsToken s = false) :
    (providerStep env s a).ClaimsOnce := by
  -- a claim that is made now has a token of its own
  have hnew {claim claim' : MaterializationRecord} (hold : .claim claim ∈ s.log)
      (hclaim' : Arises env s a (.observe (.claim claim'))) :
      claim.claimToken ≠ claim'.claimToken := by
    obtain ⟨record, -, claimToken, now, rfl, rfl, -⟩ := claim_of_arises hclaim'
    intro htoken
    refine Bool.false_ne_true (hfresh.symm.trans (any_eq_true.mpr ⟨_, hold, ?_⟩))
    exact beq_iff_eq.mpr htoken
  intro claim claim' hclaim hclaim' htoken
  obtain hold | hclaim := arises_of_mem_log hclaim <;>
    obtain hold' | hclaim' := arises_of_mem_log hclaim'
  · exact h claim claim' hold hold' htoken
  · exact absurd htoken (hnew hold hclaim')
  · exact absurd htoken.symm (hnew hold' hclaim)
  · obtain ⟨record, hmem, claimToken, now, ha, rfl, -⟩ := claim_of_arises hclaim
    obtain ⟨record', hmem', claimToken', now', ha', rfl, -⟩ := claim_of_arises hclaim'
    obtain ⟨hid, rfl, rfl⟩ := ProviderAction.claimDealMaterialization.inj (ha.symm.trans ha')
    rw [hids.eq_of_mem hmem hmem' (congrArg some hid) rfl]

/-! ## Who persists a resource -/

theorem arises_of_resource (h : e ∈ a.effects env s) (hres : e.resource a ≠ none) :
    Arises env s a e := by
  cases ha : a.isAdmission with
  | false => exact arises_of_mem ha h
  | true =>
    obtain hnone | ⟨request, dealId, rail, totalSats, rejection, now, -, heffects⟩ :=
      admits_of_isAdmission env s ha
    · rw [hnone] at h
      cases h
    · rw [heffects, createDealCalls, map_cons, cons_append, mem_cons, mem_append] at h
      obtain rfl | h | h := h
      · exact absurd rfl hres
      · obtain ⟨r, -, rfl⟩ := mem_rejection h
        exact absurd rfl hres
      · obtain ⟨m, -, rfl⟩ := mem_map.mp h
        exact absurd rfl hres

/-- A resource is persisted under the claim of the deal's record, which is
deleted with it. -/
theorem persisted_cases (env : ProviderEnv P) (s : ProviderState) (a : ProviderAction) :
    a.persisted env s = []
      ∨ ∃ record resource, Owns s a record ∧ a.persisted env s = [(record.dealId, resource)]
        ∧ ∀ record' ∈ (providerStep env s a).materializations, record'.dealId ≠ record.dealId := by
  by_cases hsome : ∃ e ∈ a.effects env s, e.resource a ≠ none
  case neg =>
    refine .inl (filterMap_eq_nil_iff.mpr (fun e he => ?_))
    by_contra hres
    exact hsome ⟨e, he, hres⟩
  obtain ⟨e, he, hres⟩ := hsome
  have hdeleted {record : MaterializationRecord} {materializations : List MaterializationRecord} :
      ∀ record' ∈ deleteWhere (·.dealId == record.dealId) materializations,
        record'.dealId ≠ record.dealId := fun record' hmem heq =>
    Bool.false_ne_true ((mem_deleteWhere.mp hmem).2.symm.trans (beq_iff_eq.mpr heq))
  refine .inr ?_
  unfold ProviderAction.persisted providerStep
  cases arises_of_resource he hres with
  | @inert e hinert hreason =>
    cases e with
    | insertBundle session =>
      obtain ⟨record, issued, request, -, howns, -, -, -, ha⟩ := hreason.persisted
      refine ⟨record, .bundle session, howns, ?_, ?_⟩ <;> rw [ha]
      · simp [Effect.resource, howns.claim]
      · exact hdeleted
    | call call =>
      cases call with
      | materializeStripe => cases hinert
      | _ => exact absurd rfl hres
    | insertPrepaidInvoice => cases hinert
    | _ => exact absurd rfl hres
  | @paidStripe record reservation _ _ now howns ha =>
    refine ⟨record, .paymentIntent reservation.tokenHash, howns, ?_, ?_⟩ <;> rw [ha]
    · rfl
    · exact hdeleted
  | @invoiced record invoice _ now howns ha =>
    refine ⟨record, .prepaidInvoice invoice, howns, ?_, ?_⟩ <;> obtain ha | ha := ha <;> rw [ha]
    · rfl
    · rfl
    · exact hdeleted
    · exact hdeleted
  | @ended call _ _ _ _ _ _ hreceipt =>
    cases call with
    | materializeStripe => cases hreceipt
    | _ => exact absurd rfl hres
  | _ => exact absurd rfl hres

/-! ## The tables -/

theorem mem_bundles_apply (h : session ∈ (e.apply P s).bundles) :
    (∃ session₀ ∈ s.bundles, session₀.sessionId = session.sessionId
        ∧ session₀.bundle = session.bundle) ∨ e = .insertBundle session := by
  cases e with
  | insertBundle session' =>
    rcases mem_concat.mp h with h | h
    · exact .inl ⟨session, (mem_deleteWhere.mp h).1, rfl, rfl⟩
    · exact .inr (congrArg _ h.symm)
  | updateBundle =>
    obtain ⟨session₀, hmem, rfl⟩ := mem_updateWhere.mp h
    refine .inl ⟨session₀, hmem, ?_⟩
    split <;> exact ⟨rfl, rfl⟩
  | _ => exact .inl ⟨session, h, rfl, rfl⟩

theorem mem_prepaidInvoices_apply (h : p ∈ (e.apply P s).prepaidInvoices) :
    p ∈ s.prepaidInvoices ∨ e = .insertPrepaidInvoice p.1 p.2 := by
  cases e with
  | insertPrepaidInvoice dealId invoice =>
    rcases mem_concat.mp h with h | h
    · exact .inl h
    · rw [h]
      exact .inr rfl
  | _ => exact .inl h

theorem bundle_of_mem_step (h : session ∈ (providerStep env s a).bundles) :
    (∃ session₀ ∈ s.bundles, session₀.sessionId = session.sessionId
        ∧ session₀.bundle = session.bundle)
      ∨ ∃ dealId session₀, (dealId, .bundle session₀) ∈ a.persisted env s
        ∧ session₀.sessionId = session.sessionId ∧ session₀.bundle = session.bundle := by
  refine foldlRecOn (a.effects env s) (Effect.apply P)
    (motive := fun s' => ∀ session ∈ s'.bundles,
      (∃ session₀ ∈ s.bundles, session₀.sessionId = session.sessionId
          ∧ session₀.bundle = session.bundle)
        ∨ ∃ dealId session₀, (dealId, .bundle session₀) ∈ a.persisted env s
          ∧ session₀.sessionId = session.sessionId ∧ session₀.bundle = session.bundle)
    (fun session hmem => .inl ⟨session, hmem, rfl, rfl⟩) (fun s' hs' e he session hmem => ?_)
    session h
  obtain ⟨session₀, hmem₀, hid, hbundle⟩ | rfl := mem_bundles_apply hmem
  · rw [← hid, ← hbundle]
    exact hs' session₀ hmem₀
  · have harises := arises_of_mem_of_ne he rfl
    cases harises with
    | inert _ hreason =>
      obtain ⟨record, _, _, -, howns, -⟩ := hreason.persisted
      refine .inr ⟨record.dealId, session, mem_filterMap.mpr ⟨_, he, ?_⟩, rfl, rfl⟩
      simp only [Effect.resource, howns.claim, map_some]

theorem invoice_of_mem_step (h : p ∈ (providerStep env s a).prepaidInvoices) :
    p ∈ s.prepaidInvoices ∨ (p.1, .prepaidInvoice p.2) ∈ a.persisted env s := by
  refine foldlRecOn (a.effects env s) (Effect.apply P)
    (motive := fun s' => ∀ p ∈ s'.prepaidInvoices,
      p ∈ s.prepaidInvoices ∨ (p.1, .prepaidInvoice p.2) ∈ a.persisted env s)
    (fun _ => .inl) (fun s' hs' e he p hmem => ?_) p h
  obtain hmem | rfl := mem_prepaidInvoices_apply hmem
  · exact hs' p hmem
  · exact .inr (mem_filterMap.mpr ⟨_, he, rfl⟩)

def ProviderState.BundlesUnique (s : ProviderState) : Prop :=
  Table.Unique (some ·.bundle.payload.dealHash) s.bundles

theorem bundlesUnique_apply (h : s.BundlesUnique) (hinsert : ∀ session, e ≠ .insertBundle session) :
    (e.apply P s).BundlesUnique := by
  cases e with
  | insertBundle session => exact absurd rfl (hinsert session)
  | updateBundle => exact h.updateWhere fun _ _ _ => rfl
  | _ => exact h

theorem bundlesUnique_step (h : s.BundlesUnique) : (providerStep env s a).BundlesUnique := by
  by_cases hsome : ∃ session, .insertBundle session ∈ a.effects env s
  case neg =>
    refine foldlRecOn (a.effects env s) (Effect.apply P)
      (motive := ProviderState.BundlesUnique) h fun s' hs' e he => ?_
    exact bundlesUnique_apply hs' fun session hsession => hsome ⟨session, hsession ▸ he⟩
  obtain ⟨session, hmem⟩ := hsome
  cases arises_of_mem_of_ne hmem rfl with
  | inert _ hreason =>
    obtain ⟨record, issued, request, -, -, -, hsign, hnone, ha⟩ := hreason.persisted
    unfold providerStep
    rw [ha]
    refine Table.Unique.concat (h.deleteWhere _) fun session' hmem' dealHash hhash hhash' => ?_
    have hother := selectWhere_none hnone (mem_deleteWhere.mp hmem').1
    rw [← (signs_of_signLightningInvoiceBundle hsign).dealHash,
      some.inj (hhash.trans hhash'.symm), beq_self_eq_true] at hother
    cases hother

def ProviderState.IntentsIn (persisted : List (String × PaymentResource)) (s : ProviderState) :
    Prop :=
  ∀ row ∈ s.store.deals, row.paymentMethod = some .stripe → ∀ tokenHash,
    row.paymentTokenHash = some tokenHash → (row.dealId, .paymentIntent tokenHash) ∈ persisted

theorem intentsIn_call {persisted : List (String × PaymentResource)} (h : s.IntentsIn persisted)
    {call : DealCall} (hcall : call.isInsert = false)
    (hpaid : ∀ tokenHash amount, call.payment = some (tokenHash, amount) → ∀ row ∈ s.store.deals,
      row.paymentMethod = some .stripe → ∀ old new, call.target = some (row.dealId, old, new) →
        (row.dealId, .paymentIntent tokenHash) ∈ persisted) :
    (Effect.apply P s (.call call)).IntentsIn persisted := by
  intro row' hrow' hstripe tokenHash htoken
  obtain hrow | ⟨row, hrow, hstep⟩ := mem_apply_of_ne_insert hcall hrow'
  · exact h row' hrow hstripe tokenHash htoken
  rw [paymentMethod_of_identity hstep.identity] at hstripe
  rw [hstep.dealId_eq]
  cases hpayment : call.payment with
  | none =>
    rw [(hstep.noPayment hpayment).1] at htoken
    exact h row hrow hstripe tokenHash htoken
  | some payment =>
    rw [(hstep.payment _ _ hpayment).1] at htoken
    obtain rfl := some.inj htoken
    exact hpaid _ _ hpayment row hrow hstripe _ _ hstep.target

theorem intentsIn_step (hinv : ProviderInv env s) {persisted : List (String × PaymentResource)}
    (h : s.IntentsIn persisted) :
    (providerStep env s a).IntentsIn (persisted ++ a.persisted env s) := by
  have hsame : s.IntentsIn (persisted ++ a.persisted env s) :=
    fun row hrow hstripe tokenHash htoken => mem_append_left _ (h row hrow hstripe tokenHash htoken)
  refine (hinv.step_induction (a := a)
    (I := ProviderState.IntentsIn (persisted ++ a.persisted env s)) hsame ?_ ?_ ?_ ?_).2
  · intro e hmem he s' hinv' hadmitted hI
    by_cases hcall : ∃ call, e = .call call
    case neg =>
      intro row hrow
      exact hI row (mem_deals_of_apply (fun call hcall' => hcall ⟨call, hcall'⟩) hrow)
    obtain ⟨call, rfl⟩ := hcall
    refine intentsIn_call hI (not_insert_of_sound (hinv.sound he))
      fun tokenHash amount hpayment row hrow hstripe old new htarget => ?_
    cases call with
    | materializeStripe dealId =>
      obtain rfl := (Prod.mk.inj (some.inj htarget)).1
      obtain ⟨rfl, -⟩ := Prod.mk.inj (some.inj hpayment)
      exact mem_append_right _ (mem_filterMap.mpr ⟨_, hmem, rfl⟩)
    | materializePrepaid dealId =>
      -- a prepaid invoice is for a deal on that rail
      have hdeal : dealId = row.dealId := (Prod.mk.inj (some.inj htarget)).1
      obtain ⟨row₀, hrow₀, hident⟩ := (hinv'.rows row hrow).known
      have hid := (dealId_of_identity hident).trans hdeal.symm
      cases he with
      | inert hinert => cases hinert
      | paidPrepaid hclaim hrequest =>
        have hsuits := hinv.claimed hclaim row₀ (hadmitted ▸ hrow₀) hid
        rw [hrequest] at hsuits
        rw [← paymentMethod_of_identity hident, hsuits.1] at hstripe
        exact absurd (some.inj hstripe) PaymentMethod.noConfusion
      | ended _ _ hreceipt => cases hreceipt
    | _ => cases hpayment
  · intro request dealId rail totalSats rejection now _ row hrow hstripe tokenHash htoken
    obtain hrow | ⟨row₀, -, hstep⟩ | ⟨new, hnew, rfl, -⟩ := DealCall.mem_apply hrow
    · exact hsame row hrow hstripe tokenHash htoken
    · cases hstep.target
    · -- a Stripe deal is admitted without a token
      obtain rfl := DealCall.insert.inj hnew
      rw [withInitialStatus_newDeal] at hstripe htoken
      obtain rfl : rail = some .stripe := hstripe
      cases htoken
  · exact fun _ _ _ s' _ _ hI => intentsIn_call hI rfl
      fun _ _ hpayment => absurd hpayment.symm (some_ne_none _)
  · intro _ _ _ _ _ _ _ _ _ s' _ _ hI row hrow
    exact hI row (mem_deals_of_apply (fun _ => Effect.noConfusion) hrow)

end Records

/-! ## The invariant -/

structure ClaimInv (env : ProviderEnv P) (s : ClaimState) : Prop where
  provider : ProviderInv env s.provider
  ids : Table.Unique (some ·.dealId) s.provider.materializations
  unclaimed : s.provider.StartsUnclaimed
  claims : s.provider.ClaimsOnce
  pending : ∀ record ∈ s.provider.materializations, ∀ p ∈ s.persisted, p.1 ≠ record.dealId
  known : ∀ p ∈ s.persisted, ∃ row ∈ s.provider.store.admitted, row.dealId = p.1
  once : Table.Unique (some ·.1) s.persisted
  bundles : ∀ session ∈ s.provider.bundles, ∃ dealId session₀,
    (dealId, .bundle session₀) ∈ s.persisted ∧ session₀.sessionId = session.sessionId
      ∧ session₀.bundle = session.bundle
  bundleHashes : s.provider.BundlesUnique
  invoices : ∀ p ∈ s.provider.prepaidInvoices, (p.1, .prepaidInvoice p.2) ∈ s.persisted
  intents : s.provider.IntentsIn s.persisted

section Invariant

variable {env : ProviderEnv P} {s : ClaimState}

theorem claimInv_init : ClaimInv env (claimMachine env).init where
  provider := providerInv_init
  ids := unique_nil _
  unclaimed _ := forall_mem_nil _
  claims _ _ h := nomatch h
  pending := forall_mem_nil _
  known := forall_mem_nil _
  once := unique_nil _
  bundles := forall_mem_nil _
  bundleHashes := unique_nil _
  invoices := forall_mem_nil _
  intents := forall_mem_nil _

theorem ClaimInv.resources (h : ClaimInv env s) (a : ProviderAction) :
    (∀ record ∈ (providerStep env s.provider a).materializations,
        ∀ p ∈ s.persisted ++ a.persisted env s.provider, p.1 ≠ record.dealId)
      ∧ (∀ p ∈ s.persisted ++ a.persisted env s.provider,
        ∃ row ∈ (providerStep env s.provider a).store.admitted, row.dealId = p.1)
      ∧ Table.Unique (some ·.1) (s.persisted ++ a.persisted env s.provider) := by
  have hknown : ∀ p ∈ s.persisted,
      ∃ row ∈ (providerStep env s.provider a).store.admitted, row.dealId = p.1 :=
    fun p hp => (h.known p hp).imp
      (fun _ hrow => ⟨admitted_subset_step env s.provider a hrow.1, hrow.2⟩)
  -- a record of a deal that has a resource would have been there before, or be a new deal's
  have hpending : ∀ record ∈ (providerStep env s.provider a).materializations,
      ∀ p ∈ s.persisted, p.1 ≠ record.dealId := by
    intro record hmem p hp
    obtain ⟨record₀, hmem₀, hid⟩ | hfresh := h.provider.dealId_of_materialization a hmem
    · exact hid ▸ h.pending record₀ hmem₀ p hp
    · obtain ⟨row, hrow, hid⟩ := h.known p hp
      exact hid ▸ hfresh row hrow
  obtain hnone | ⟨owned, resource, howns, hpersisted, hdeleted⟩ := persisted_cases env s.provider a
  · rw [hnone, append_nil]
    exact ⟨hpending, hknown, h.once⟩
  rw [hpersisted]
  refine ⟨fun record hmem p hp => ?_, fun p hp => ?_,
    h.once.concat fun p hp dealId hid hid' => ?_⟩
  · rcases mem_concat.mp hp with hp | hp
    · exact hpending record hmem p hp
    · rw [hp]
      exact (hdeleted record hmem).symm
  · rcases mem_concat.mp hp with hp | hp
    · exact hknown p hp
    · rw [hp]
      obtain ⟨row, hrow, hid, -⟩ := h.provider.held _ howns.held
      exact ⟨row, admitted_subset_step env s.provider a hrow, hid⟩
  · -- the record under whose claim the task acts is still there
    obtain ⟨current, hmem, hcurrent⟩ := howns.current
    refine h.pending current hmem p hp ?_
    rw [hcurrent]
    exact some.inj (hid.trans hid'.symm)

/-- One action keeps the invariant. -/
theorem ClaimInv.step (h : ClaimInv env s) (a : ProviderAction) :
    ClaimInv env (claimStep env s a) := by
  unfold claimStep
  split
  case isTrue => exact h
  case isFalse hfresh =>
    obtain ⟨hpending, hknown, honce⟩ := h.resources a
    exact
      { provider := h.provider.step a
        ids := unique_materializations_step env a h.ids
        unclaimed := startsUnclaimed_step h.provider h.unclaimed a
        claims := claimsOnce_step h.ids h.claims (Bool.eq_false_iff.mpr hfresh)
        pending := hpending
        known := hknown
        once := honce
        bundles := fun session hmem => by
          obtain ⟨session₀, hmem₀, hid, hbundle⟩ | ⟨dealId, session₀, hmem₀, hsame⟩ :=
            bundle_of_mem_step hmem
          · obtain ⟨dealId, session₁, hmem₁, hid₁, hbundle₁⟩ := h.bundles session₀ hmem₀
            exact ⟨dealId, session₁, mem_append_left _ hmem₁, hid₁.trans hid,
              hbundle₁.trans hbundle⟩
          · exact ⟨dealId, session₀, mem_append_right _ hmem₀, hsame⟩
        bundleHashes := bundlesUnique_step h.bundleHashes
        invoices := fun p hp => (invoice_of_mem_step hp).elim
          (fun hold => mem_append_left _ (h.invoices p hold)) (mem_append_right _)
        intents := intentsIn_step h.provider h.intents }

theorem claimInv_run (actions : List ProviderAction) :
    ClaimInv env ((claimMachine env).run actions) :=
  (claimMachine env).invariant claimInv_init (fun _ a h => h.step a) actions

theorem ClaimInv.exclusive (h : ClaimInv env s) : s.Exclusive where
  claims dealId _ := h.ids.length_filter_le_one (k := dealId) (fun _ hclaimed =>
    congrArg some (beq_iff_eq.mp (Bool.and_eq_true_iff.mp hclaimed).1))
  holders _ _ _ claim claim' hheld hheld' htoken htoken' :=
    h.claims claim claim' (h.provider.logged hheld) (h.provider.logged hheld')
      (htoken.trans htoken'.symm)
  once dealId := h.once.length_filter_le_one (k := dealId) (fun _ hp =>
    congrArg some (beq_iff_eq.mp hp))
  bundles := h.bundles
  bundleHashes := h.bundleHashes
  invoices := h.invoices
  intents := h.intents

end Invariant

/-- **A materialization is its claimant's.** In every state of every run a deal has at
most one claim that has not run out, and at most one resource was ever persisted for
it; and whatever action comes next, a record under a claim stays as it is unless the
action is of the task that holds the claim, takes over a claim that has run out, or
is a restart. -/
theorem materialization_owned (env : ProviderEnv P)
    (actions : List ProviderAction) (a : ProviderAction) :
    ((claimMachine env).run actions).Exclusive
      ∧ ∀ record ∈ ((claimMachine env).run actions).provider.materializations,
        record.claimToken ≠ none →
          ClaimedStep ((claimMachine env).run actions).provider
            ((claimMachine env).step ((claimMachine env).run actions) a).provider a record := by
  have h : ClaimInv env ((claimMachine env).run actions) := claimInv_run actions
  refine ⟨h.exclusive, fun record hmem htoken => ?_⟩
  dsimp only [claimMachine, claimStep]
  split
  · exact .kept hmem
  · exact claimedStep_step h.provider h.ids h.unclaimed a hmem htoken

end Froglet
