import Froglet.Provider.System

/-!
# The provider's allowance

An operator may limit how many deals a provider admits, how much runtime they may take
in total, and how many quotes it issues.
-/

namespace Froglet

open List Table
variable {store : DealStore} {new : NewDeal} {rejection : Option AdmissionRejection}

structure ProviderPolicy where
  (maxTotalDeals maxTotalRuntimeMs maxTotalQuotes : Option ℕ)

structure ProviderAdmission where
  admissionKey : String
  maxRuntimeMs : ℕ
deriving DecidableEq

structure ProviderAllowance where
  admissions : List ProviderAdmission
  issuedQuotes : ℕ
  pauseReason : Option String

structure ProviderUsage where
  (reservedDeals reservedRuntimeMs issuedQuotes : ℕ)

def exhausted : String := "provider execution allowance exhausted"

def ProviderAllowance.runtimeMs (s : ProviderAllowance) : ℕ :=
  sumWhere (fun _ => true) ProviderAdmission.maxRuntimeMs s.admissions

def usage (s : ProviderAllowance) : Except String ProviderUsage :=
  if i64Max < s.runtimeMs then .error "integer overflow"
  else if i64Max < s.issuedQuotes then .error "Invalid column type Real at index: 2"
  else .ok { reservedDeals := s.admissions.length, reservedRuntimeMs := s.runtimeMs
             issuedQuotes := s.issuedQuotes }

def requireNotPaused (s : ProviderAllowance) : Except String Unit :=
  rejectIf s.pauseReason.isSome "provider is paused by its operator"

def checkAdmission (policy : ProviderPolicy) (maxRuntimeMs : ℕ) (s : ProviderAllowance) :
    Except String Unit := do
  requireNotPaused s
  let totals ← usage s
  match (checkedAdd totals.reservedRuntimeMs maxRuntimeMs).filter (· ≤ i64Max) with
  | none => .error exhausted
  | some runtime =>
    rejectIf (policy.maxTotalDeals.any (· ≤ totals.reservedDeals)
      || policy.maxTotalRuntimeMs.any (· < runtime)) exhausted

def reserveDeal (policy : ProviderPolicy) (key : String) (maxRuntimeMs : ℕ)
    (s : ProviderAllowance) : Except String Unit × ProviderAllowance :=
  match selectWhere (·.admissionKey == key) s.admissions with
  | some existing =>
    if existing.maxRuntimeMs == maxRuntimeMs then (.ok (), s)
    else (.error "provider admission replay changed its resource reservation", s)
  | none =>
    match checkAdmission policy maxRuntimeMs s with
    | .error e => (.error e, s)
    | .ok () => (.ok (), { s with admissions := s.admissions ++ [⟨key, maxRuntimeMs⟩] })

def reserveQuote (policy : ProviderPolicy) (s : ProviderAllowance) :
    Except String Unit × ProviderAllowance :=
  let check : Except String Unit := do
    requireNotPaused s
    let totals ← usage s
    rejectIf (policy.maxTotalQuotes.getD i64Max ≤ totals.issuedQuotes
      || policy.maxTotalDeals.any (· ≤ totals.reservedDeals)
      || policy.maxTotalRuntimeMs.any (· ≤ totals.reservedRuntimeMs)) exhausted
  match check with
  | .error e => (.error e, s)
  | .ok () => (.ok (), { s with issuedQuotes := s.issuedQuotes + 1 })

def setPause (reason : Option String) (s : ProviderAllowance) :
    Except String Unit × ProviderAllowance :=
  if reason.any (fun r => isBlank r || 256 < r.utf8ByteSize) then
    (.error "pause reason must contain 1-256 bytes", s)
  else (.ok (), { s with pauseReason := reason })

/-! ## The allowance and the deals -/

/-- The tables of admission and of the allowance. -/
structure PolicyState where
  store : DealStore
  allowance : ProviderAllowance

def PolicyState.createDealRecord (P : Primitives) (policy : ProviderPolicy) (s : PolicyState)
    (new : NewDeal) (rejection : Option AdmissionRejection) (laterFails : Bool) : PolicyState :=
  let (reserved, allowance) := reserveDeal policy new.artifact.hash
    new.quote.payload.executionLimits.maxRuntimeMs s.allowance
  match s.store.createDealRecord P new rejection (!reserved.passes || laterFails) with
  | none => s
  | some store => { store, allowance }

inductive PolicyAction where
  | createDealRecord (new : NewDeal) (rejection : Option AdmissionRejection) (laterFails : Bool)
  | quarantineInvalidDeals (decodes : StoredDeal → Bool)
  | call (call : DealCall)
  | reserveDeal (key : String) (maxRuntimeMs : ℕ)
  | reserveQuote
  | setPause (reason : Option String)

def policyStep (P : Primitives) (policy : ProviderPolicy) (s : PolicyState) :
    PolicyAction → PolicyState
  | .createDealRecord new rejection laterFails =>
    s.createDealRecord P policy new rejection laterFails
  | .quarantineInvalidDeals decodes =>
    { s with
      store := { s.store with deals := Froglet.quarantineInvalidDeals decodes s.store.deals } }
  | .call (.insert _) => s
  | .call call => { s with store := call.apply P s.store }
  | .reserveDeal key maxRuntimeMs =>
    { s with allowance := (Froglet.reserveDeal policy key maxRuntimeMs s.allowance).2 }
  | .reserveQuote => { s with allowance := (Froglet.reserveQuote policy s.allowance).2 }
  | .setPause reason => { s with allowance := (Froglet.setPause reason s.allowance).2 }

def policyMachine (P : Primitives) (policy : ProviderPolicy) :
    Machine PolicyState PolicyAction where
  init :=
    { store := { deals := [], usages := [], admitted := [], cancelled := [] }
      allowance := { admissions := [], issuedQuotes := 0, pauseReason := none } }
  step := policyStep P policy

/-! ## The limits -/

structure WithinAllowance (policy : ProviderPolicy) (s : ProviderAllowance) : Prop where
  keys : Table.Unique (some ·.admissionKey) s.admissions
  deals : ∀ limit ∈ policy.maxTotalDeals, s.admissions.length ≤ limit
  runtime : ∀ limit ∈ policy.maxTotalRuntimeMs, s.runtimeMs ≤ limit
  quotes : ∀ limit ∈ policy.maxTotalQuotes, s.issuedQuotes ≤ limit

section Reservations

variable {policy : ProviderPolicy} {s : ProviderAllowance} {key : String} {maxRuntimeMs : ℕ}

theorem usage_ok {totals : ProviderUsage} (h : usage s = .ok totals) :
    totals = ⟨s.admissions.length, s.runtimeMs, s.issuedQuotes⟩ := by
  unfold usage at h
  split at h
  case isTrue => cases h
  case isFalse =>
    split at h
    case isTrue => cases h
    case isFalse => exact (Except.ok.inj h).symm

theorem checkAdmission_ok (h : checkAdmission policy maxRuntimeMs s = .ok ()) :
    (∀ limit ∈ policy.maxTotalDeals, s.admissions.length < limit)
      ∧ ∀ limit ∈ policy.maxTotalRuntimeMs, s.runtimeMs + maxRuntimeMs ≤ limit := by
  unfold checkAdmission at h
  obtain ⟨-, h⟩ := check_eq_ok.mp h
  obtain ⟨totals, htotals, h⟩ := bind_eq_ok.mp h
  rw [usage_ok htotals] at h
  split at h
  case h_1 => cases h
  case h_2 runtime hruntime =>
    have hadd := checkedAdd_eq_some (Option.filter_eq_some_iff.mp hruntime).1
    obtain ⟨hdeals, hlimit⟩ := Bool.or_eq_false_iff.mp (rejectIf_eq_ok.mp h)
    refine ⟨fun limit hmem => ?_, fun limit hmem => ?_⟩
    · rw [hmem] at hdeals
      simpa using hdeals
    · rw [hmem] at hlimit
      rw [hadd]
      simpa using hlimit

/-- A reservation leaves the allowance alone or enters a new key that is still
within the limits. -/
theorem reserveDeal_cases (policy : ProviderPolicy) (key : String) (maxRuntimeMs : ℕ)
    (s : ProviderAllowance) : (reserveDeal policy key maxRuntimeMs s).2 = s
      ∨ selectWhere (·.admissionKey == key) s.admissions = none
        ∧ checkAdmission policy maxRuntimeMs s = .ok () ∧ (reserveDeal policy key maxRuntimeMs s).2
          = { s with admissions := s.admissions ++ [⟨key, maxRuntimeMs⟩] } := by
  unfold reserveDeal
  split
  case h_1 existing _ => split <;> exact .inl rfl
  case h_2 hnew =>
    split
    case h_1 => exact .inl rfl
    case h_2 hcheck => exact .inr ⟨hnew, hcheck, rfl⟩

theorem mem_of_reserveDeal (h : (reserveDeal policy key maxRuntimeMs s).1 = .ok ()) :
    ⟨key, maxRuntimeMs⟩ ∈ (reserveDeal policy key maxRuntimeMs s).2.admissions := by
  unfold reserveDeal at h ⊢
  split at h
  case h_1 existing hexisting =>
    obtain ⟨hmem, hkey⟩ := selectWhere_some hexisting
    split at h
    case isTrue hsame =>
      rw [if_pos hsame, ← beq_iff_eq.mp hkey, ← beq_iff_eq.mp hsame]
      exact hmem
    case isFalse => cases h
  case h_2 hnew =>
    split at h
    case h_1 => cases h
    case h_2 => exact mem_concat_self

/-- A replay changes nothing, whatever the operator has set meanwhile: it is
refused only if its runtime is not the one that was entered. -/
theorem reserveDeal_replay (hkeys : Table.Unique (some ·.admissionKey) s.admissions)
    (hmem : ⟨key, maxRuntimeMs⟩ ∈ s.admissions) (policy : ProviderPolicy) (runtime : ℕ) :
    (reserveDeal policy key runtime s).2 = s
      ∧ ((reserveDeal policy key runtime s).1 = .ok () ↔ runtime = maxRuntimeMs) := by
  unfold reserveDeal
  split
  case h_2 hnew =>
    have hne := selectWhere_none hnew hmem
    rw [beq_self_eq_true] at hne
    cases hne
  case h_1 existing hexisting =>
    obtain ⟨hmem', hkey⟩ := selectWhere_some hexisting
    have hsame : existing = ⟨key, maxRuntimeMs⟩ :=
      hkeys.eq_of_mem hmem' hmem (congrArg some (beq_iff_eq.mp hkey)) rfl
    subst hsame
    split
    case isTrue heq => exact ⟨rfl, fun _ => (beq_iff_eq.mp heq).symm, fun _ => rfl⟩
    case isFalse hne =>
      refine ⟨rfl, fun h => ?_, fun h => absurd (beq_iff_eq.mpr h.symm) hne⟩
      cases h

theorem WithinAllowance.reserveDeal (h : WithinAllowance policy s) (key : String)
    (maxRuntimeMs : ℕ) : WithinAllowance policy (reserveDeal policy key maxRuntimeMs s).2 := by
  obtain hs | ⟨hnew, hcheck, hs⟩ := reserveDeal_cases policy key maxRuntimeMs s
  · rw [hs]
    exact h
  · obtain ⟨hdeals, hruntime⟩ := checkAdmission_ok hcheck
    rw [hs]
    refine ⟨h.keys.concat (fun a ha k hk hk' => ?_), fun limit hmem => ?_, fun limit hmem => ?_,
      h.quotes⟩
    · have hne := selectWhere_none hnew ha
      rw [Option.some.inj (hk.trans hk'.symm), beq_self_eq_true] at hne
      cases hne
    · rw [length_append]
      exact hdeals limit hmem
    · refine Nat.le_trans (Nat.le_of_eq ?_) (hruntime limit hmem)
      unfold ProviderAllowance.runtimeMs
      rw [sumWhere_append, sumWhere_cons, sumWhere_nil]
      rfl

theorem WithinAllowance.reserveQuote (h : WithinAllowance policy s) :
    WithinAllowance policy (reserveQuote policy s).2 := by
  unfold Froglet.reserveQuote
  dsimp only
  split
  case h_1 => exact h
  case h_2 hcheck =>
    obtain ⟨-, hcheck⟩ := check_eq_ok.mp hcheck
    obtain ⟨totals, htotals, hcheck⟩ := bind_eq_ok.mp hcheck
    rw [usage_ok htotals] at hcheck
    have hquotes := (Bool.or_eq_false_iff.mp
      (Bool.or_eq_false_iff.mp (rejectIf_eq_ok.mp hcheck)).1).1
    refine { h with quotes := fun limit hmem => ?_ }
    rw [hmem] at hquotes
    exact Nat.succ_le_of_lt (by simpa using hquotes)

theorem issuedQuotes_of_reserveQuote (h : (reserveQuote policy s).1 = .ok ()) :
    (reserveQuote policy s).2.issuedQuotes = s.issuedQuotes + 1 := by
  unfold Froglet.reserveQuote at h ⊢
  dsimp only at h ⊢
  split at h
  case h_1 => cases h
  case h_2 => rfl

theorem WithinAllowance.setPause (h : WithinAllowance policy s) (reason : Option String) :
    WithinAllowance policy (setPause reason s).2 := by
  unfold Froglet.setPause
  split
  case isTrue => exact h
  case isFalse => exact { h with }

theorem reserveDeal_subset (policy : ProviderPolicy) (key : String) (maxRuntimeMs : ℕ)
    (s : ProviderAllowance) :
    s.admissions ⊆ (reserveDeal policy key maxRuntimeMs s).2.admissions := by
  obtain hs | ⟨-, -, hs⟩ := reserveDeal_cases policy key maxRuntimeMs s
  · rw [hs]
    exact Subset.refl _
  · rw [hs]
    exact subset_append_left _ _

end Reservations

/-! ## Runs -/

def StoredDeal.providerAdmission (row : StoredDeal) : ProviderAdmission :=
  ⟨row.artifact.hash, row.quote.payload.executionLimits.maxRuntimeMs⟩

structure PolicyInv (policy : ProviderPolicy) (s : PolicyState) : Prop where
  admission : AdmissionInv s.store
  within : WithinAllowance policy s.allowance
  entered : ∀ row ∈ s.store.admitted, row.providerAdmission ∈ s.allowance.admissions

section Runs

variable {P : Primitives} {policy : ProviderPolicy}

theorem admitted_createDealRecord {store' : DealStore} {laterFails : Bool}
    (h : store.createDealRecord P new rejection laterFails = some store') :
    store'.admitted = store.admitted ++ [new.withInitialStatus.row] := by
  obtain ⟨hinserts, rfl⟩ := createDealRecord_some h
  rw [createDealCalls, foldl_cons, ← hinserts.admitted]
  cases rejection with
  | none => rfl
  | some r =>
    show (DealCall.apply P _ (.reject ..)).admitted = _
    exact admitted_call rfl _

theorem createDealRecord_laterFails : store.createDealRecord P new rejection true = none := by
  unfold DealStore.createDealRecord
  dsimp only
  split
  case h_1 => rfl
  case h_2 => rfl

theorem policyStep_call (s : PolicyState) {call : DealCall} (h : call.isInsert = false) :
    policyStep P policy s (.call call) = { s with store := call.apply P s.store } := by
  cases call with
  | insert new => cases h
  | _ => rfl

/-- What an action does to the deals: it admits none, or one that it has
entered. -/
theorem policyStep_store (s : PolicyState) (a : PolicyAction) (h : AdmissionInv s.store) :
    AdmissionInv (policyStep P policy s a).store
      ∧ ((policyStep P policy s a).store.admitted = s.store.admitted
        ∨ ∃ row : StoredDeal, (policyStep P policy s a).store.admitted = s.store.admitted ++ [row]
          ∧ row.providerAdmission ∈ (policyStep P policy s a).allowance.admissions) := by
  cases a with
  | createDealRecord new rejection laterFails =>
    unfold policyStep PolicyState.createDealRecord
    dsimp only
    split
    case h_1 => exact ⟨h, .inl rfl⟩
    case h_2 store hstore =>
      refine ⟨?_, .inr ⟨_, admitted_createDealRecord hstore, ?_⟩⟩
      · rw [(createDealRecord_some hstore).2]
        exact h.calls P _
      · -- without its reservation the deal would not be there
        cases hreserved : (reserveDeal policy new.artifact.hash
            new.quote.payload.executionLimits.maxRuntimeMs s.allowance).1 with
        | ok => exact mem_of_reserveDeal hreserved
        | error e =>
          rw [hreserved] at hstore
          cases createDealRecord_laterFails.symm.trans hstore
  | quarantineInvalidDeals decodes => exact ⟨h.quarantine decodes, .inl rfl⟩
  | call call =>
    cases hinsert : call.isInsert with
    | true =>
      cases call with
      | insert new => exact ⟨h, .inl rfl⟩
      | _ => cases hinsert
    | false =>
      rw [policyStep_call s hinsert]
      exact ⟨h.call P _ _, .inl (admitted_call hinsert s.store)⟩
  | reserveDeal key maxRuntimeMs => exact ⟨h, .inl rfl⟩
  | reserveQuote => exact ⟨h, .inl rfl⟩
  | setPause reason => exact ⟨h, .inl rfl⟩

/-- What an action does to the allowance: it stays within the limits, and no
entry is lost. -/
theorem policyStep_allowance (s : PolicyState) (a : PolicyAction)
    (h : WithinAllowance policy s.allowance) :
    WithinAllowance policy (policyStep P policy s a).allowance
      ∧ s.allowance.admissions ⊆ (policyStep P policy s a).allowance.admissions := by
  cases a with
  | createDealRecord new rejection laterFails =>
    unfold policyStep PolicyState.createDealRecord
    dsimp only
    split
    case h_1 => exact ⟨h, Subset.refl _⟩
    case h_2 => exact ⟨h.reserveDeal _ _, reserveDeal_subset _ _ _ _⟩
  | quarantineInvalidDeals decodes => exact ⟨h, Subset.refl _⟩
  | call call => cases call <;> exact ⟨h, Subset.refl _⟩
  | reserveDeal key maxRuntimeMs => exact ⟨h.reserveDeal _ _, reserveDeal_subset _ _ _ _⟩
  | reserveQuote =>
    refine ⟨h.reserveQuote, ?_⟩
    show _ ⊆ (reserveQuote policy s.allowance).2.admissions
    unfold reserveQuote
    dsimp only
    split <;> exact Subset.refl _
  | setPause reason =>
    refine ⟨h.setPause reason, ?_⟩
    show _ ⊆ (setPause reason s.allowance).2.admissions
    unfold setPause
    split <;> exact Subset.refl _

theorem PolicyInv.step (s : PolicyState) (a : PolicyAction) (h : PolicyInv policy s) :
    PolicyInv policy (policyStep P policy s a) := by
  obtain ⟨hadmission, hadmitted⟩ :
      AdmissionInv (policyStep P policy s a).store ∧ _ := policyStep_store s a h.admission
  obtain ⟨hwithin, hsub⟩ := policyStep_allowance (P := P) s a h.within
  refine ⟨hadmission, hwithin, fun row hrow => ?_⟩
  obtain hsame | ⟨new, hnew, hentered⟩ := hadmitted
  · rw [hsame] at hrow
    exact hsub (h.entered row hrow)
  · rw [hnew] at hrow
    rcases mem_concat.mp hrow with hrow | hrow
    · exact hsub (h.entered row hrow)
    · rw [hrow]
      exact hentered

theorem policyInv_run (P : Primitives) (policy : ProviderPolicy) (actions : List PolicyAction) :
    PolicyInv policy ((policyMachine P policy).run actions) := by
  refine (policyMachine P policy).invariant ⟨AdmissionInv.init P, ⟨unique_nil _, ?_, ?_, ?_⟩,
    forall_mem_nil _⟩ PolicyInv.step actions
  · exact fun _ _ => Nat.zero_le _
  · exact fun _ _ => Nat.zero_le _
  · exact fun _ _ => Nat.zero_le _

theorem PolicyInv.entered_of_mem {s : PolicyState} (h : PolicyInv policy s) {row : StoredDeal}
    (hrow : row ∈ s.store.admitted ∨ row ∈ s.store.deals) :
    row.providerAdmission ∈ s.allowance.admissions := by
  obtain hrow | hrow := hrow
  · exact h.entered row hrow
  · obtain ⟨row₀, hrow₀, hident⟩ := h.admission.live row hrow
    have hentered := h.entered row₀ hrow₀
    unfold StoredDeal.providerAdmission at hentered ⊢
    rwa [quote_of_identity hident, artifact_of_identity hident]
      at hentered

end Runs

/-- **The allowance is kept, and nothing admitted is refused.** After any sequence of
admissions, executions, quotes and pauses under one policy, the usage is within
every limit, and what it counts is what was granted: a reservation that succeeds leaves its
key and runtime entered, a quote that is issued counts one more, and every deal that was
ever admitted has its entry. A key is counted once, its entry stays as it is and a replay
of it changes nothing, and the reservation at the start of an admitted deal's execution
succeeds. -/
theorem provider_allowance_kept (P : Primitives) (policy : ProviderPolicy)
    (actions : List PolicyAction) : let s := (policyMachine P policy).run actions
    (∀ limit ∈ policy.maxTotalDeals, s.allowance.admissions.length ≤ limit)
    ∧ (∀ limit ∈ policy.maxTotalRuntimeMs, s.allowance.runtimeMs ≤ limit)
    ∧ (∀ limit ∈ policy.maxTotalQuotes, s.allowance.issuedQuotes ≤ limit)
    ∧ (s.allowance.admissions.map (·.admissionKey)).Nodup
    ∧ (∀ key runtime, (reserveDeal policy key runtime s.allowance).1 = .ok () →
      ⟨key, runtime⟩ ∈ (reserveDeal policy key runtime s.allowance).2.admissions)
    ∧ ((reserveQuote policy s.allowance).1 = .ok () →
      (reserveQuote policy s.allowance).2.issuedQuotes = s.allowance.issuedQuotes + 1)
    ∧ (∀ entry ∈ s.allowance.admissions,
      (∀ more, entry ∈ ((policyMachine P policy).runFrom s more).allowance.admissions)
      ∧ ∀ runtime, (reserveDeal policy entry.admissionKey runtime s.allowance).2 = s.allowance
        ∧ ((reserveDeal policy entry.admissionKey runtime s.allowance).1 = .ok ()
          ↔ runtime = entry.maxRuntimeMs))
    ∧ ∀ row, row ∈ s.store.admitted ∨ row ∈ s.store.deals →
      ⟨row.artifact.hash, row.quote.payload.executionLimits.maxRuntimeMs⟩ ∈ s.allowance.admissions
      ∧ reserveDeal policy row.artifact.hash row.quote.payload.executionLimits.maxRuntimeMs
        s.allowance = (.ok (), s.allowance) := by
  intro s
  have h : PolicyInv policy s := policyInv_run P policy actions
  refine ⟨h.within.deals, h.within.runtime, h.within.quotes, ?_, fun _ _ => mem_of_reserveDeal,
    issuedQuotes_of_reserveQuote, fun entry hentry => ⟨?_, ?_⟩,
    fun row hrow => ⟨h.entered_of_mem hrow, ?_⟩⟩
  · have hkeys := h.within.keys
    unfold Table.Unique at hkeys
    rwa [show (fun a : ProviderAdmission => some a.admissionKey)
      = some ∘ ProviderAdmission.admissionKey from rfl, filterMap_eq_map] at hkeys
  · intro more
    -- entries are kept by every step, so by every continuation
    have hkept := foldlRecOn more (policyStep P policy)
      (motive := fun s' => WithinAllowance policy s'.allowance ∧ entry ∈ s'.allowance.admissions)
      ⟨h.within, hentry⟩ fun s' hs' a _ => ?_
    · exact hkept.2
    · obtain ⟨hwithin, hsub⟩ := policyStep_allowance (P := P) s' a hs'.1
      exact ⟨hwithin, hsub hs'.2⟩
  · exact reserveDeal_replay h.within.keys hentry policy
  · obtain ⟨hsame, hok⟩ := reserveDeal_replay h.within.keys (h.entered_of_mem hrow) policy
      row.quote.payload.executionLimits.maxRuntimeMs
    exact Prod.ext (hok.mpr rfl) hsame

/-- An allowance of one deal: the deal is entered and executed in a pause, and another is
refused also after it. -/
theorem provider_allowance_kept_paused :
    let policy : ProviderPolicy := ⟨some 1, none, none⟩
    let new := (sampleRequest sampleFreeQuote none).newDeal "d" none 0 5
    let run := (policyMachine samplePrimitives policy).run
    let s := run [.createDealRecord new none false, .setPause (some "x")]
    new.withInitialStatus.row ∈ s.store.admitted
    ∧ reserveDeal policy new.artifact.hash new.quote.payload.executionLimits.maxRuntimeMs
        s.allowance = (.ok (), s.allowance)
    ∧ (run [.createDealRecord new none false, .setPause (some "x"), .setPause none,
        .reserveDeal "other" 1]).allowance.admissions
      = [⟨new.artifact.hash, new.quote.payload.executionLimits.maxRuntimeMs⟩] := by
  intro policy new run s
  have hadmitted : new.withInitialStatus.row ∈ s.store.admitted := by decide +kernel
  obtain ⟨-, -, -, -, -, -, -, hrows⟩ := provider_allowance_kept samplePrimitives policy
    [.createDealRecord new none false, .setPause (some "x")]
  exact ⟨hadmitted, (hrows _ (.inl hadmitted)).2, by decide +kernel⟩

end Froglet
