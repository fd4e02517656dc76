import Froglet.Provider.StateMachine

/-!
# Admission

A deal is admitted in one transaction of `create_deal_record`: its row and the usage of
its quote are inserted, and whatever else the transaction does either succeeds or takes
both back.
-/

namespace Froglet

open List Table
variable {s : DealStore}

structure AdmissionRejection where
  error : String
  receipt : SignedReceipt
  failureEvidenceHash : String

def rejectDealAdmission (dealId : String) (rejection : AdmissionRejection) (now : ℤ)
    (deals : Deals) : Bool × Deals :=
  rejectDealIfStatus
    { dealId, expectedStatus := .accepted, error := rejection.error, receipt := rejection.receipt
      failureEvidenceHash := some rejection.failureEvidenceHash
      receiptArtifactHash := some rejection.receipt.hash, now } deals

variable (P : Primitives)

def DealStore.createDealRecord (s : DealStore) (new : NewDeal)
    (rejection : Option AdmissionRejection) (laterFails : Bool) : Option DealStore :=
  let inserted := DealCall.apply P s (.insert new)
  match insertOrGetDeal new.withInitialStatus s.deals s.usages with
  | .ok ((deal, true), _) =>
    if laterFails then none
    else match rejection with
      | none => some inserted
      | some rejection =>
        match rejectDealAdmission deal.dealId rejection new.createdAt inserted.deals with
        | (true, deals) => some { inserted with deals }
        | (false, _) => none
  | _ => none

/-- What happens to the tables of admission. -/
inductive AdmissionAction where
  | createDealRecord (new : NewDeal) (rejection : Option AdmissionRejection) (laterFails : Bool)
  | quarantineInvalidDeals (decodes : StoredDeal → Bool)
  | call (call : DealCall)

def admissionStep (s : DealStore) : AdmissionAction → DealStore
  | .createDealRecord new rejection laterFails =>
    (s.createDealRecord P new rejection laterFails).getD s
  | .quarantineInvalidDeals decodes =>
    { s with deals := Froglet.quarantineInvalidDeals decodes s.deals }
  | .call call => call.apply P s

def admissionMachine : Machine DealStore AdmissionAction where
  init := { deals := [], usages := [], admitted := [], cancelled := [] }
  step := admissionStep P

def createDealCalls (new : NewDeal) (rejection : Option AdmissionRejection) : List DealCall :=
  .insert new :: rejection.toList.map fun r =>
    .reject .admission new.dealId r.error r.receipt r.failureEvidenceHash new.createdAt

structure DealStore.Inserts (P : Primitives) (s : DealStore) (new : NewDeal) : Prop where
  inserted : Inserted new.withInitialStatus s.deals s.usages
    (DealCall.apply P s (.insert new)).usages
  deals : (DealCall.apply P s (.insert new)).deals = s.deals ++ [new.withInitialStatus.row]
  admitted : (DealCall.apply P s (.insert new)).admitted = s.admitted ++ [new.withInitialStatus.row]

theorem createDealRecord_some {P : Primitives} {s' : DealStore} {new : NewDeal}
    {rejection : Option AdmissionRejection} {laterFails : Bool}
    (h : s.createDealRecord P new rejection laterFails = some s') :
    s.Inserts P new ∧ s' = (createDealCalls new rejection).foldl (DealCall.apply P) s := by
  unfold DealStore.createDealRecord at h
  split at h
  case h_2 => cases h
  case h_1 deal rest hinsert =>
    obtain ⟨deals, usages⟩ := rest
    have happly : DealCall.apply P s (.insert new)
        = { s with deals, usages, admitted := s.admitted ++ [deal] } := by
      simp only [DealCall.apply, hinsert]
    obtain ⟨hinserted, rfl, rfl⟩ := insertOrGetDeal_created hinsert
    refine ⟨⟨by rw [happly]; exact hinserted, by rw [happly], by rw [happly]⟩, ?_⟩
    cases laterFails with
    | true => cases h
    | false =>
      cases rejection with
      | none => exact (Option.some.inj h).symm
      | some rejection =>
        simp only [Bool.false_eq_true, if_false] at h
        split at h
        case h_1 deals hrejected =>
          obtain rfl := (congrArg Prod.snd hrejected).symm
          exact (Option.some.inj h).symm
        case h_2 => cases h

/-! ## A quote is spent on one deal -/

structure AdmissionInv (s : DealStore) : Prop where
  quotes : UniqueQuotes s.usages
  ids : Table.Unique (some ·.dealId) s.deals
  hashes : Table.Unique StoredDeal.dealArtifactHash s.deals
  keys : Table.Unique StoredDeal.idempotencyKey s.deals
  used : ∀ row ∈ s.admitted, ∃ u ∈ s.usages,
    u.quoteHash = row.quote.hash ∧ row.dealArtifactHash = some u.dealArtifactHash
  live : ∀ row ∈ s.deals, ∃ row₀ ∈ s.admitted, row₀.identity = row.identity

theorem AdmissionInv.init (P : Primitives) : AdmissionInv (admissionMachine P).init :=
  ⟨unique_nil _, unique_nil _, unique_nil _, unique_nil _, forall_mem_nil _, forall_mem_nil _⟩

theorem AdmissionInv.call (P : Primitives) (s : DealStore) (call : DealCall) (h : AdmissionInv s) :
    AdmissionInv (call.apply P s) := by
  have hids := unique_dealId_step P call h.ids
  cases call.apply_rows P s with
  | updated p f hdeals hrows husages hadmitted _ =>
    refine ⟨husages ▸ h.quotes, hids, ?_, ?_, ?_, fun row' hrow' => ?_⟩
    · rw [hdeals]
      exact h.hashes.updateWhere fun row _ hp =>
        dealArtifactHash_of_identity (hrows row hp).identity
    · rw [hdeals]
      exact h.keys.updateWhere fun row _ hp =>
        idempotencyKey_of_identity (hrows row hp).identity
    · rw [hadmitted, husages]
      exact h.used
    · rw [hdeals] at hrow'
      rw [hadmitted]
      obtain ⟨row, hrow, rfl⟩ := mem_updateWhere.mp hrow'
      obtain ⟨row₀, hrow₀, hident⟩ := h.live row hrow
      refine ⟨row₀, hrow₀, ?_⟩
      by_cases hp : p row = true
      · rw [if_pos hp, hident, (hrows row hp).identity]
      · rw [if_neg hp, hident]
  | inserted new _ hinsert hdeals hadmitted _ =>
    obtain ⟨hsub, hquotes, u, hu, hquote, hhash⟩ := reserveQuoteUsage_ok h.quotes hinsert.reserved
    refine ⟨hquotes, hids, ?_, ?_, fun row hrow => ?_, fun row hrow => ?_⟩
    · rw [hdeals]
      exact h.hashes.concat fun row hrow hash hrow' hnew =>
        hinsert.newHash row hrow (hrow'.trans hnew.symm)
    · rw [hdeals]
      exact h.keys.concat fun row hrow key hrow' hnew => hinsert.newKey row hrow key hnew hrow'
    · rw [hadmitted] at hrow
      rcases mem_concat.mp hrow with hrow | hrow
      · obtain ⟨u, hu, heq⟩ := h.used row hrow
        exact ⟨u, hsub hu, heq⟩
      · rw [hrow]
        exact ⟨u, hu, hquote, congrArg some hhash.symm⟩
    · rw [hdeals] at hrow
      rw [hadmitted]
      rcases mem_append.mp hrow with hrow | hrow
      · obtain ⟨row₀, hrow₀, hident⟩ := h.live row hrow
        exact ⟨row₀, mem_append_left _ hrow₀, hident⟩
      · exact ⟨row, mem_append_right _ hrow, rfl⟩

theorem AdmissionInv.calls (P : Primitives) (h : AdmissionInv s) (calls : List DealCall) :
    AdmissionInv (calls.foldl (DealCall.apply P) s) :=
  foldlRecOn calls (DealCall.apply P) h fun s hs call _ => hs.call P s call

theorem AdmissionInv.quarantine (h : AdmissionInv s) (decodes : StoredDeal → Bool) :
    AdmissionInv { s with deals := quarantineInvalidDeals decodes s.deals } :=
  ⟨h.quotes, h.ids.deleteWhere _, h.hashes.deleteWhere _, h.keys.deleteWhere _, h.used,
    fun row hrow => h.live row (mem_deleteWhere.mp hrow).1⟩

theorem AdmissionInv.step (s : DealStore) (a : AdmissionAction)
    (h : AdmissionInv s) : AdmissionInv (admissionStep P s a) := by
  cases a with
  | createDealRecord new rejection laterFails =>
    show AdmissionInv ((s.createDealRecord P new rejection laterFails).getD s)
    cases hcreate : s.createDealRecord P new rejection laterFails with
    | none => exact h
    | some s' =>
      rw [(createDealRecord_some hcreate).2]
      exact h.calls P _
  | quarantineInvalidDeals decodes => exact h.quarantine decodes
  | call call => exact h.call P s call

theorem admissionInv_run (actions : List AdmissionAction) :
    AdmissionInv ((admissionMachine P).run actions) :=
  (admissionMachine P).invariant (AdmissionInv.init P) (AdmissionInv.step P) actions

/-- **A quote is spent on one deal.** Whatever was admitted, replayed, deleted by
the quarantine and admitted again: all rows ever admitted for one quote carry one
deal artifact hash, the rows of the table are among those admitted, and no two of
them share a deal artifact hash or an idempotency key. -/
theorem quote_single_use (P : Primitives) (actions : List AdmissionAction) :
    (∀ row ∈ ((admissionMachine P).run actions).admitted,
      ∀ row' ∈ ((admissionMachine P).run actions).admitted,
        row.quote.hash = row'.quote.hash → row.dealArtifactHash = row'.dealArtifactHash)
    ∧ (∀ row ∈ ((admissionMachine P).run actions).deals,
      ∃ row₀ ∈ ((admissionMachine P).run actions).admitted, row₀.identity = row.identity)
    ∧ Table.Unique StoredDeal.dealArtifactHash ((admissionMachine P).run actions).deals
    ∧ Table.Unique StoredDeal.idempotencyKey ((admissionMachine P).run actions).deals := by
  have h := admissionInv_run P actions
  refine ⟨fun row hrow row' hrow' hquote => ?_, h.live, h.hashes, h.keys⟩
  obtain ⟨u, hu, hquoteu, hhash⟩ := h.used row hrow
  obtain ⟨u', hu', hquoteu', hhash'⟩ := h.used row' hrow'
  have hsame : u = u' := by
    refine h.quotes.eq_of_mem hu hu' (congrArg some hquoteu) (congrArg some ?_)
    rw [hquoteu', hquote]
  rw [hhash, hhash', hsame]

end Froglet
