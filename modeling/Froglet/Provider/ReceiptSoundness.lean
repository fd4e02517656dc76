import Froglet.Provider.Invariant

/-!
# When every stored receipt is valid

A requester accepts a receipt only if it passes `validate_quote_deal_receipt` against
the quote and the deal.
-/

namespace Froglet

open Option

variable {P : Primitives} {deal : StoredDeal} {now : ℤ} {r : SignedReceipt}
variable {session : LightningInvoiceBundleSession} {answer : Except String IncomingPayment}
variable {spec : ReceiptSignSpec} {a : ProviderAction}
variable {outcome : LightningSettlementFailureOutcome} {message : String}
variable {details : StripeSettlementOutboxDetails} {state : PaymentReservationState}

def StoredDeal.ReceiptValid (P : Primitives) (row : StoredDeal) : Prop :=
  ∀ r, row.receipt = some r →
    (validateQuoteDealReceipt P row.quote row.artifact r none).valid = true

/-- What is asked of the bundle a deal is settled by. Its rail tells the method, and the
fees are those of an admitted deal of the same hash: they need only be asked for where two
admitted deals with one hash have different quotes. -/
structure StoredDeal.SettledBy (s : ProviderState) (deal : StoredDeal) (dealState : String)
    (session : LightningInvoiceBundleSession) : Prop where
  ended : BundleEnded deal dealState session
  fees : (∀ row ∈ s.store.admitted, row.artifact.hash = deal.artifact.hash →
    row.quote = deal.quote) ∨ FeesFit deal session

/-- What an action must rest on where it signs a receipt that the node does not check. -/
def ReceiptOk (s : ProviderState) : ProviderAction → Prop
  | .createDealRecord request _ _ permit _ _ _ =>
    request.quote.payload.settlementTerms.baseFeeMsat
        + request.quote.payload.settlementTerms.successFeeMsat = 0 →
      request.spec.wasmRuntime = true → permit.passes = false →
        request.quote.payload.settlementTerms.method = settlementMethodNone
  | .rejectDealBeforeExecution _ deal none _ _ _ =>
    deal.quote.payload.settlementTerms.method = settlementMethodNone
  | .rejectDealBeforeExecution _ deal (some session) _ _ _ => deal.SettledBy s "rejected" session
  | .executionSucceeded deal _ _ _ now =>
    (deal.paymentMethod = none →
      deal.quote.payload.settlementTerms.method = settlementMethodNone ∧ deal.createdAt ≤ now)
    ∧ (deal.paymentMethod = some .lightningPrepaid → deal.createdAt ≤ now)
  | .executionFailed deal _ bundle _ _ now =>
    (deal.paymentMethod = none →
      deal.quote.payload.settlementTerms.method = settlementMethodNone ∧ deal.createdAt ≤ now)
    ∧ (deal.paymentMethod = some .lightningPrepaid → deal.createdAt ≤ now)
    ∧ (deal.paymentMethod = some .lightning →
      deal.createdAt ≤ now ∧ ∃ session, bundle = some session ∧ deal.SettledBy s "failed" session)
  | .persistLightningSuccessReceipt deal session _ now =>
    deal.createdAt ≤ now ∧ deal.SettledBy s "succeeded" session
  | .persistLightningTerminalFailureReceipt deal session _ now =>
    (deal.status = .resultReady → deal.createdAt ≤ now) ∧ deal.SettledBy s "canceled" session
  | .failUnpaidPrepaidDeal deal _ payment _ now =>
    payment.isPaid = true ∨ now ≤ deal.artifact.payload.admissionDeadline
  | _ => True

/-! ## The receipts, one by one -/

theorem lightningSettlementFailureDetails_some
    (h : lightningSettlementFailureDetails deal session = some outcome) :
    outcome.dealState = "canceled"
      ∧ (deal.status = .paymentPending ∧ outcome.executionState = "not_started"
        ∨ deal.status = .resultReady ∧ outcome.executionState = "succeeded") := by
  unfold lightningSettlementFailureDetails at h
  split at h
  case h_1 hstatus =>
    split at h
    case isTrue => exact some.inj h ▸ ⟨rfl, .inl ⟨hstatus, rfl⟩⟩
    case isFalse =>
      obtain ⟨-, h⟩ := ite_none_right_eq_some.mp h
      exact some.inj h ▸ ⟨rfl, .inl ⟨hstatus, rfl⟩⟩
  case h_2 hstatus =>
    split at h
    case isTrue => exact some.inj h ▸ ⟨rfl, .inr ⟨hstatus, rfl⟩⟩
    case isFalse =>
      obtain ⟨-, h⟩ := ite_none_right_eq_some.mp h
      exact some.inj h ▸ ⟨rfl, .inr ⟨hstatus, rfl⟩⟩
  case h_3 => cases h

section Receipts

variable {signer : ReceiptSigner P}
  (hchecked : deal.Checked signer.toNodeIdentity)
include hchecked

theorem valid_rejected_free
    (hsign : signDealReceipt signer deal now (rejectionSpec none message) = .ok r)
    (hfree : deal.quote.payload.settlementTerms.method = settlementMethodNone) :
    (validateQuoteDealReceipt P deal.quote deal.artifact r none).valid = true := by
  refine (valid_signDealReceipt hchecked hsign).mpr ⟨fun h => absurd rfl h, rfl, rfl, rfl, ?_⟩
  exact (settlementFits_none hchecked rfl rfl rfl).mpr hfree

theorem valid_rejected_bundle
    (hsign : signDealReceipt signer deal now (rejectionSpec (some session) message) = .ok r)
    (hbundle : BundleFits deal "rejected" session) :
    (validateQuoteDealReceipt P deal.quote deal.artifact r none).valid = true := by
  refine (valid_signDealReceipt hchecked hsign).mpr ⟨fun h => absurd rfl h, rfl, rfl, rfl, ?_⟩
  exact (settlementFits_bundle hchecked rfl rfl rfl).mpr hbundle

theorem valid_lightningSuccess {resultHash : String}
    (hsign : signDealReceipt signer deal now (lightningSuccessSpec session resultHash) = .ok r)
    (hclock : deal.createdAt ≤ now) (hbundle : BundleFits deal "succeeded" session) :
    (validateQuoteDealReceipt P deal.quote deal.artifact r none).valid = true := by
  refine (valid_signDealReceipt hchecked hsign).mpr ⟨fun _ => hclock, rfl, rfl, rfl, ?_⟩
  exact (settlementFits_bundle hchecked rfl rfl rfl).mpr hbundle

theorem valid_lightningFailure (hresult : deal.ResultFits)
    (houtcome : lightningSettlementFailureDetails deal session = some outcome)
    (hsign : signDealReceipt signer deal now (lightningFailureSpec deal session outcome) = .ok r)
    (hclock : deal.status = .resultReady → deal.createdAt ≤ now)
    (hbundle : BundleFits deal "canceled" session) :
    (validateQuoteDealReceipt P deal.quote deal.artifact r none).valid = true := by
  obtain ⟨hdealState, hstates⟩ := lightningSettlementFailureDetails_some houtcome
  have hsettled : SettlementFits signer deal now (lightningFailureSpec deal session outcome) := by
    refine (settlementFits_bundle hchecked rfl rfl rfl).mpr ?_
    show BundleFits deal outcome.dealState session
    rw [hdealState]
    exact hbundle
  have hformat : (lightningFailureSpec deal session outcome).format.isSome
      = deal.resultHash.isSome := by
    show ((none : Option String).or (deal.resultHash.map fun _ => jcsJsonFormat)).isSome = _
    rw [none_or, isSome_map]
  -- what is left depends on whether the deal was executed
  refine (valid_signDealReceipt hchecked hsign).mpr ⟨?_, ?_, ?_, ?_, hsettled⟩
  all_goals dsimp only [lightningFailureSpec]
  · intro hstarted
    exact hstates.elim (fun h => absurd h.2 hstarted) fun h => hclock h.1
  · obtain ⟨hstatus, hexec⟩ | ⟨hstatus, hexec⟩ := hstates
    · rw [hexec, hresult.pending hstatus]
      rfl
    · rw [hexec, hresult.ready hstatus]
      rfl
  · show (lightningFailureSpec deal session outcome).format.isSome = _
    obtain ⟨hstatus, hexec⟩ | ⟨hstatus, hexec⟩ := hstates
    · rw [hexec, hformat, hresult.pending hstatus]
      rfl
    · rw [hexec, hformat, hresult.ready hstatus]
      rfl
  · obtain ⟨-, hexec⟩ | ⟨-, hexec⟩ := hstates
    · rw [hdealState, hexec]
      rfl
    · rw [hdealState, hexec]
      rfl

end Receipts

/-! ### Receipts at the price of the quote -/

section Charged

variable {signer : ReceiptSigner P} {config : NodeConfig}
  (hadmitted : deal.Admitted signer.toNodeIdentity config)
include hadmitted

theorem StoredDeal.Admitted.method {rail : PaymentMethod} (h : deal.paymentMethod = some rail) :
    deal.quote.payload.settlementTerms.method = rail.settlementMethod :=
  (NodeConfig.rail_method (hadmitted.rail.symm.trans h)).2

theorem StoredDeal.Admitted.baseFee (h : deal.quote.payload.settlementTerms.successFeeMsat = 0) :
    deal.quote.payload.settlementTerms.baseFeeMsat = deal.totalSats * 1000 := by
  have hwhole := hadmitted.whole
  rw [h, Nat.add_zero] at hwhole
  rw [hwhole, Nat.mul_comm]

omit hadmitted in
theorem prepaidSettlementForDeal_ok {settlement : PrepaidSettlementInfo}
    (h : prepaidSettlementForDeal P deal answer = .ok settlement) :
    ∃ amountSats payment, deal.paymentAmountSats = some amountSats
      ∧ PrepaidProven P settlement.paymentHash amountSats payment
      ∧ settlement.preimageHex = payment.preimageHex
      ∧ settlement.chargedMsat = amountSats * 1000 ∧ settlement.paid = true := by
  unfold prepaidSettlementForDeal at h
  split at h
  case h_1 => cases h
  case h_2 => cases h
  case h_3 paymentHash amountSats _ hamount =>
    obtain ⟨payment, -, h⟩ := bind_eq_ok.mp h
    obtain ⟨hproof, h⟩ := check_eq_ok.mp h
    obtain ⟨-, h⟩ := check_eq_ok.mp h
    obtain rfl := pure_eq_ok.mp h
    exact ⟨amountSats, payment, hamount, prepaidProven_of_validate hproof, rfl, rfl, rfl⟩

omit hadmitted in
theorem executionSettlement_of_ne
    {prepaid : Option PrepaidSettlementInfo} (hmethod : deal.paymentMethod ≠ some .lightningPrepaid)
    (h : executionSettlement P deal answer = .ok prepaid) : prepaid = none := by
  unfold executionSettlement at h
  rw [if_neg (fun hprepaid => hmethod (beq_iff_eq.mp hprepaid))] at h
  exact (Except.ok.inj h).symm

theorem settlementFits_execution
    (hamount : deal.paymentMethod ≠ none → deal.paymentAmountSats = some deal.totalSats)
    (hmethod : deal.paymentMethod = none ∨ deal.paymentMethod = some .lightningPrepaid)
    (hfree : deal.paymentMethod = none →
      deal.quote.payload.settlementTerms.method = settlementMethodNone)
    (hsettled : executionSettlement P deal answer = .ok spec.prepaidSettlement)
    (hstripe : spec.stripeSettlement = none) (hbundle : spec.bundle = none) :
    SettlementFits signer deal now spec := by
  obtain hnone | hprepaid := hmethod
  · have hpaid : deal.paymentMethod ≠ some .lightningPrepaid := by
      rw [hnone]
      exact (some_ne_none _).symm
    exact (settlementFits_none hadmitted.checked (executionSettlement_of_ne hpaid hsettled) hstripe
      hbundle).mpr (hfree hnone)
  · unfold executionSettlement at hsettled
    rw [hprepaid, if_pos (by decide)] at hsettled
    obtain ⟨settlement, hspec, hsome⟩ := map_eq_ok.mp hsettled
    obtain ⟨amountSats, payment, hstored, hproven, hpreimage, hcharged, hpaid⟩ :=
      prepaidSettlementForDeal_ok hspec
    have hquote := hadmitted.method hprepaid
    obtain ⟨-, hsuccess⟩ := terms_prepaid hadmitted.checked.terms hquote
    have htotal : amountSats = deal.totalSats := by
      rw [hamount (hprepaid ▸ some_ne_none _)] at hstored
      exact (some.inj hstored).symm
    refine (settlementFits_prepaid hadmitted.checked hsome.symm).mpr
      ⟨hquote, ?_, fun _ => ⟨hproven.hash, ?_⟩, fun _ => hpaid⟩
    · rw [hcharged, htotal, hadmitted.baseFee hsuccess]
    · rw [hpreimage]
      exact hproven.preimage

theorem stripeSettlementForDeal_some {captured : Bool} {stripe : StripeSettlementInfo}
    (hamount : deal.paymentMethod ≠ none → deal.paymentAmountSats = some deal.totalSats)
    (h : stripeSettlementForDeal deal captured = some stripe) :
    deal.quote.payload.settlementTerms.method = settlementMethodStripeMpp
      ∧ stripe.chargedMsat = deal.quote.payload.settlementTerms.baseFeeMsat
      ∧ stripe.captured = captured := by
  unfold stripeSettlementForDeal at h
  split at h
  case h_2 => cases h
  case h_1 paymentIntentId hmethod _ =>
    split at h
    case isTrue => cases h
    case isFalse =>
      have hquote := hadmitted.method hmethod
      obtain ⟨-, hsuccess⟩ := terms_stripe hadmitted.checked.terms hquote
      refine ⟨hquote, ?_, some.inj h ▸ rfl⟩
      rw [← some.inj h, hamount (hmethod ▸ some_ne_none _), hadmitted.baseFee hsuccess]
      -- the saturation of the product is out of reach
      refine Nat.min_eq_left (le_trans ?_ i64Max_le_u64Max)
      rw [getD_some, Nat.mul_comm]
      exact hadmitted.bounded

omit hadmitted in
theorem stripeSpec_some (h : stripeSpec deal details state = some spec) :
    ∃ captured stripe, stripeSettlementForDeal deal captured = some stripe
      ∧ spec.stripeSettlement = some stripe ∧ spec.prepaidSettlement = none
      ∧ (spec.dealState = "succeeded" → captured = true) := by
  unfold stripeSpec at h
  split at h
  case h_1 =>
    obtain ⟨resultHash, -, h⟩ := bind_eq_some_iff.mp h
    obtain ⟨stripe, hstripe, h⟩ := bind_eq_some_iff.mp h
    obtain rfl := some.inj h
    exact ⟨true, stripe, hstripe, rfl, rfl, fun _ => rfl⟩
  case h_2 =>
    obtain ⟨resultHash, -, h⟩ := bind_eq_some_iff.mp h
    obtain ⟨stripe, hstripe, h⟩ := bind_eq_some_iff.mp h
    obtain rfl := some.inj h
    exact ⟨false, stripe, hstripe, rfl, rfl,
      fun hstate => absurd hstate (by decide : "canceled" ≠ "succeeded")⟩
  case h_3 =>
    obtain ⟨stripe, hstripe, h⟩ := bind_eq_some_iff.mp h
    obtain rfl := some.inj h
    exact ⟨_, stripe, hstripe, rfl, rfl,
      fun hstate => absurd hstate (by decide : "failed" ≠ "succeeded")⟩

omit hadmitted in
theorem receiptFits_of_local (hsign : signDealReceipt signer deal now spec = .ok r)
    (hlocal : ensureValidLocalReceipt P r = true) (hsettled : SettlementFits signer deal now spec) :
    ReceiptFits signer deal now spec := by
  obtain ⟨-, -, -, hpayload⟩ := authentic_of_signArtifact P signer.verifies hsign
  have hartifact := passes_iff.mp (Bool.and_eq_true_iff.mp hlocal).2
  obtain ⟨-, hclock, ⟨hhash, hformat⟩, hstates, -⟩ := (validateReceiptArtifact_iff P r).mp hartifact
  rw [hpayload] at hclock hhash hformat hstates
  refine ⟨fun hstarted => hclock deal.createdAt ?_, hhash, hformat,
    (validateReceiptDealState_iff _).mp hstates, hsettled⟩
  show (if spec.executionState == "not_started" then none else some deal.createdAt)
    = some deal.createdAt
  rw [if_neg (by simpa using hstarted)]

theorem valid_stripe
    (hamount : deal.paymentMethod ≠ none → deal.paymentAmountSats = some deal.totalSats)
    (hspec : stripeSpec deal details state = some spec)
    (hsign : signDealReceipt signer deal now spec = .ok r)
    (hlocal : ensureValidLocalReceipt P r = true) :
    (validateQuoteDealReceipt P deal.quote deal.artifact r none).valid = true := by
  obtain ⟨captured, stripe, hstripe, hsome, hprepaid, hsucceeded⟩ := stripeSpec_some hspec
  obtain ⟨hmethod, hcharged, rfl⟩ := stripeSettlementForDeal_some hadmitted hamount hstripe
  refine (valid_signDealReceipt hadmitted.checked hsign).mpr (receiptFits_of_local hsign hlocal ?_)
  exact (settlementFits_stripe hadmitted.checked hprepaid hsome).mpr ⟨hmethod, hcharged, hsucceeded⟩

end Charged

/-! ## Every receipt an action signs -/

section Runs

variable {env : ProviderEnv P} {s : ProviderState}

/-- The bundle an action settles a deal by. -/
def ProviderAction.bundle : ProviderAction → Option LightningInvoiceBundleSession
  | .rejectDealBeforeExecution _ _ bundle _ _ _ | .executionFailed _ _ bundle _ _ _ => bundle
  | .persistLightningSuccessReceipt _ session _ _
  | .persistLightningTerminalFailureReceipt _ session _ _ => some session
  | _ => none

theorem held_of_mem_effects {e : Effect} (h : e ∈ a.effects env s) :
    ∀ session ∈ a.bundle, .bundle session ∈ s.held := by
  intro session hsession
  have hobserved {deal : StoredDeal} {bundle : Option LightningInvoiceBundleSession}
      {bundles : List Observation}
      (hbundles : Observation.bundlesOf deal bundle.toList = some bundles)
      (hmem : session ∈ bundle) : .bundle session ∈ bundles := by
    obtain ⟨-, rfl⟩ := (ite_none_right_eq_some.mp hbundles).imp_right some.inj
    exact List.mem_map_of_mem (mem_toList.mpr hmem)
  cases a with
  | rejectDealBeforeExecution | executionFailed =>
    dsimp only [ProviderAction.effects] at h
    split at h
    case h_1 => cases h
    case h_2 _ hbundles => exact (mem_during h).2.1 _ (by simp [hobserved hbundles hsession])
  | persistLightningSuccessReceipt | persistLightningTerminalFailureReceipt =>
    obtain rfl := some.inj hsession
    exact (mem_during h).2.1 _ (by simp)
  | _ => cases hsession

/-- The bundle a deal is settled by fits it. -/
theorem StoredDeal.SettledBy.fits {dealState : String} (h : deal.SettledBy s dealState session)
    (hinv : ProviderInv env s) (hadmitted : deal.Admitted env.signer.toNodeIdentity env.config)
    (hheld : .bundle session ∈ s.held) (hof : session.isOf deal = true) :
    BundleFits deal dealState session := by
  obtain ⟨hrail, hhash⟩ := Bool.and_eq_true_iff.mp hof
  refine ⟨h.ended, h.fees.elim (fun htells => ?_) id,
    (NodeConfig.rail_method (hadmitted.rail.symm.trans (beq_iff_eq.mp hrail))).2⟩
  obtain ⟨row, hrow, hquotes⟩ := hinv.held _ hheld
  have hquote := htells row hrow (hquotes.dealHash.trans (beq_iff_eq.mp hhash))
  exact ⟨hquote ▸ hquotes.baseFee.symm, hquote ▸ hquotes.successFee.symm⟩

/-- The receipt an action signs for a deal is valid, on the evidence asked
for. -/
theorem ReceiptCause.valid (hinv : ProviderInv env s) (hdeal : s.Knows deal)
    (hheld : ∀ session ∈ a.bundle, .bundle session ∈ s.held) (hok : ReceiptOk s a)
    (h : ReceiptCause env a deal r) :
    (validateQuoteDealReceipt P deal.quote deal.artifact r none).valid = true := by
  have hsnapshot := hinv.knows hdeal
  have hadmitted := hinv.admitted_of_snapshot hsnapshot
  have hchecked := hadmitted.checked
  cases h with
  | @rejected site bundle message evidence now ha hbundle _ hsign =>
    rw [ha] at hok hheld
    cases bundle with
    | none => exact valid_rejected_free hchecked hsign hok
    | some session =>
      exact valid_rejected_bundle hchecked hsign
        (hok.fits hinv hadmitted (hheld _ rfl) (hbundle _ rfl))
  | @succeeded output answer evidence now prepaid ha hmethod hsettled hsign =>
    rw [ha] at hok
    obtain ⟨hfree, hprepaid⟩ := hok
    refine (valid_signDealReceipt hchecked hsign).mpr ⟨fun _ => ?_, rfl, rfl, rfl, ?_⟩
    · exact hmethod.elim (fun h => (hfree h).2) hprepaid
    · exact settlementFits_execution hadmitted hsnapshot.amount hmethod (fun h => (hfree h).1)
        hsettled rfl rfl
  | @failed failure bundle answer evidence now prepaid ha hbundle hmethod hsettled hsign =>
    rw [ha] at hok hheld
    obtain ⟨hfree, hprepaid, hlightning⟩ := hok
    by_cases hrail : deal.paymentMethod = some .lightning
    · obtain ⟨hclock, session, rfl, hfits⟩ := hlightning hrail
      have hnone : prepaid = none := by
        refine executionSettlement_of_ne ?_ hsettled
        rw [hrail]
        decide
      refine (valid_signDealReceipt hchecked hsign).mpr ⟨fun _ => hclock, rfl, rfl, rfl, ?_⟩
      exact (settlementFits_bundle hchecked hnone rfl rfl).mpr
        (hfits.fits hinv hadmitted (hheld _ rfl) (hbundle _ rfl))
    · have hnone : bundle = none := by
        refine eq_none_iff_forall_not_mem.mpr fun session hsession => hrail ?_
        exact beq_iff_eq.mp (Bool.and_eq_true_iff.mp (hbundle session hsession)).1
      have hmethod : deal.paymentMethod = none
          ∨ deal.paymentMethod = some .lightningPrepaid := by
        cases hm : deal.paymentMethod with
        | none => exact .inl rfl
        | some rail => cases rail <;> first | exact .inr rfl | contradiction
      refine (valid_signDealReceipt hchecked hsign).mpr ⟨fun _ => ?_, rfl, rfl, rfl, ?_⟩
      · exact hmethod.elim (fun h => (hfree h).2) hprepaid
      · exact settlementFits_execution hadmitted hsnapshot.amount hmethod (fun h => (hfree h).1)
          hsettled rfl hnone
  | lightningSuccess ha hof hsign =>
    rw [ha] at hok hheld
    exact valid_lightningSuccess hchecked hsign hok.1
      (hok.2.fits hinv hadmitted (hheld _ rfl) hof)
  | lightningFailure ha hof houtcome hsign =>
    rw [ha] at hok hheld
    exact valid_lightningFailure hchecked hsnapshot.result houtcome hsign hok.1
      (hok.2.fits hinv hadmitted (hheld _ rfl) hof)
  | unpaid ha _ hpaid hdeadline =>
    rw [ha] at hok
    rcases hok with hok | hok
    · cases hpaid.symm.trans hok
    · exact absurd hdeadline (not_lt.mpr hok)
  | stripe hspec hsign hvalid => exact valid_stripe hadmitted hsnapshot.amount hspec hsign hvalid
  | recovered hvalid => exact hvalid

structure ReceiptsInv (P : Primitives) (s : ProviderState) : Prop where
  valid : ∀ row ∈ s.store.deals, row.ReceiptValid P
  ended : ∀ row ∈ s.store.deals, row.status.isTerminal = false → row.receipt = none

def DealCall.SignsValid (P : Primitives) (admitted : List StoredDeal) (call : DealCall) : Prop :=
  ∀ r, call.receipt = some r → ∀ row ∈ admitted, ∀ old new,
    call.target = some (row.dealId, old, new) →
      (validateQuoteDealReceipt P row.quote row.artifact r none).valid = true

theorem DealCall.SignsValid.of_none {admitted : List StoredDeal} {call : DealCall}
    (h : call.receipt = none) : call.SignsValid P admitted :=
  fun r hr => absurd (h.symm.trans hr).symm (some_ne_none r)

theorem ReceiptsInv.call (hinv : ProviderInv env s) (h : ReceiptsInv P s) {call : DealCall}
    (hcall : call.SignsValid P s.store.admitted) :
    ReceiptsInv P (Effect.apply P s (.call call)) := by
  -- a row that is changed had no receipt, so it has the one of the call or none
  have hstep {row row' : StoredDeal} (hrow : row ∈ s.store.deals) (hrs : RowStep call row row') :
      row'.ReceiptValid P ∧ (row'.status.isTerminal = false → row'.receipt = none) := by
    cases hreceipt : call.receipt with
    | none =>
      have hnone := (hrs.noReceipt hreceipt).1 (h.ended row hrow hrs.not_terminal)
      exact ⟨fun r hr => absurd (hnone.symm.trans hr).symm (some_ne_none r), fun _ => hnone⟩
    | some r =>
      have hwritten := (hrs.receipt r hreceipt).1
      refine ⟨fun r' hr' => ?_, fun hopen => ?_⟩
      · obtain rfl := some.inj (hwritten.symm.trans hr')
        obtain ⟨row₀, hrow₀, hident⟩ := (hinv.rows row hrow).known
        have hid := dealId_of_identity hident
        have hident := hident.trans hrs.identity.symm
        rw [← quote_of_identity hident, ← artifact_of_identity hident]
        exact hcall r hreceipt row₀ hrow₀ _ _ (hid ▸ hrs.target)
      · have hends := DealCall.terminal_of_target hrs.target
        rw [hopen, hreceipt] at hends
        exact absurd hends.symm (by simp)
  have hboth (row' : StoredDeal) (hrow' : row' ∈ (Effect.apply P s (.call call)).store.deals) :
      row'.ReceiptValid P ∧ (row'.status.isTerminal = false → row'.receipt = none) := by
    obtain hrow | ⟨row, hrow, hrs⟩ | ⟨new, -, rfl, -⟩ := DealCall.mem_apply hrow'
    · exact ⟨h.valid row' hrow, h.ended row' hrow⟩
    · exact hstep hrow hrs
    · exact ⟨fun r hr => absurd hr.symm (some_ne_none r), fun _ => rfl⟩
  exact ⟨fun row hrow => (hboth row hrow).1, fun row hrow => (hboth row hrow).2⟩

theorem ReceiptsInv.apply (hinv : ProviderInv env s) (h : ReceiptsInv P s) {e : Effect}
    (he : ∀ call, e = .call call → call.SignsValid P s.store.admitted) :
    ReceiptsInv P (e.apply P s) := by
  by_cases hcall : ∃ call, e = .call call
  · obtain ⟨call, rfl⟩ := hcall
    exact h.call hinv (he call rfl)
  · have hmem {row : StoredDeal} (hrow : row ∈ (e.apply P s).store.deals) : row ∈ s.store.deals :=
      mem_deals_of_apply (fun call heq => hcall ⟨call, heq⟩) hrow
    exact ⟨fun row hrow => h.valid row (hmem hrow), fun row hrow => h.ended row (hmem hrow)⟩

/-- Every call of an action signs a valid receipt, on the evidence asked for. -/
theorem signsValid_of_arises (hinv : ProviderInv env s) (hok : ReceiptOk s a) {call : DealCall}
    (hheld : ∀ session ∈ a.bundle, .bundle session ∈ s.held) (h : Arises env s a (.call call)) :
    call.SignsValid P s.store.admitted := by
  cases h with
  | inert hinert =>
    cases call <;> first
      | exact .of_none rfl
      | exact absurd hinert Bool.false_ne_true
  | paidStripe | paidPrepaid | promotedLightning | promotedPrepaid | started | resetLocal
  | resetRemote => exact .of_none rfl
  | ended hdeal htarget hreceipt hcause =>
    intro r hr row hrow old new hsame
    obtain rfl := some.inj (hreceipt.symm.trans hr)
    have hid := (Prod.mk.inj (some.inj (hsame.symm.trans htarget))).1
    have hident := hinv.known_of_id (hinv.knows hdeal) hrow hid
    rw [quote_of_identity hident, artifact_of_identity hident]
    exact hcause.valid hinv hdeal hheld hok

theorem immediateRejection_some {new : NewDeal} {permit : Except String Unit} {evidence : String}
    {rejection : AdmissionRejection}
    (h : immediateRejection env new permit evidence = .ok (some rejection)) :
    new.paymentMethod = none ∧ new.spec.wasmRuntime = true ∧ permit.passes = false
      ∧ ∃ message, signDealReceipt env.signer new.row new.createdAt (rejectionSpec none message)
        = .ok rejection.receipt := by
  unfold immediateRejection at h
  split at h
  case h_2 => cases Except.ok.inj h
  case h_1 message hfree =>
    obtain ⟨receipt, hsign, h⟩ := bind_eq_ok.mp h
    obtain rfl := some.inj (pure_eq_ok.mp h)
    obtain ⟨hmethod, hwasm⟩ := Bool.and_eq_true_iff.mp hfree
    exact ⟨isNone_iff_eq_none.mp hmethod, hwasm, rfl, message, hsign⟩

theorem signsValid_rejection {request : CreateDealRequest} {dealId : String}
    {rail : Option PaymentMethod} {totalSats : ℕ} {rejection : Option AdmissionRejection}
    (hok : ReceiptOk s a) (h : Admits env s a request dealId rail totalSats rejection now)
    {r : AdmissionRejection} (hr : r ∈ rejection) :
    DealCall.SignsValid P (s.store.admitted ++ [(request.newDeal dealId rail totalSats now).row])
      (.reject .admission dealId r.error r.receipt r.failureEvidenceHash now) := by
  obtain ⟨otherChecks, permit, laterFails, evidence, rfl, hcheck, hrejected⟩ := h.checked
  obtain ⟨hadmitted, htotal⟩ := admitted_of_checkDealRequest hcheck dealId
  rw [hr] at hrejected
  obtain ⟨hmethod, hwasm, hpermit, message, hsign⟩ := immediateRejection_some hrejected
  intro receipt hreceipt row hrow old new htarget
  obtain rfl := some.inj hreceipt
  have hid : dealId = row.dealId := (Prod.mk.inj (some.inj htarget)).1
  rcases mem_concat.mp hrow with hrow | hrow
  · exact absurd hid.symm (h.fresh row hrow)
  · rw [hrow]
    refine valid_rejected_free hadmitted.checked hsign (hok ?_ hwasm hpermit)
    -- a positive total would have a rail
    have hzero : totalSats = 0 := by
      by_contra hpos
      exact hadmitted.paid (htotal.symm ▸ hpos) hmethod
    have hwhole := hadmitted.whole
    rw [htotal, hzero] at hwhole
    exact hwhole

theorem ReceiptsInv.step (hinv : ProviderInv env s) (h : ReceiptsInv P s) (hok : ReceiptOk s a) :
    ProviderInv env (providerStep env s a) ∧ ReceiptsInv P (providerStep env s a) := by
  refine hinv.step_induction h (fun e hmem he s' hinv' hsame h' => ?_) (fun _ => ?_)
    (fun hadmits r hr s' hinv' hsame h' => ?_) fun _ m _ s' hinv' _ h' => ?_
  · refine h'.apply hinv' (fun call hcall => ?_)
    rw [hsame]
    exact signsValid_of_arises hinv hok (held_of_mem_effects hmem) (hcall ▸ he)
  · exact h.call hinv (.of_none rfl)
  · refine h'.call hinv' ?_
    rw [hsame]
    exact signsValid_rejection hok hadmits hr
  · exact h'.apply hinv' fun call hcall => nomatch hcall

end Runs

/-- **Every stored receipt is valid**, in every run whose actions have the evidence
asked for. -/
theorem stored_receipts_valid (env : ProviderEnv P) (actions : List ProviderAction)
    (hok : (providerMachine env).Admissible ReceiptOk (providerMachine env).init actions) :
    ∀ row ∈ ((providerMachine env).run actions).store.deals, ∀ r, row.receipt = some r →
      (validateQuoteDealReceipt P row.quote row.artifact r none).valid = true := by
  have hinit : ReceiptsInv P (providerMachine env).init :=
    ⟨List.forall_mem_nil _, List.forall_mem_nil _⟩
  exact ((providerMachine env).invariant_of_admissible
    (I := fun s => ProviderInv env s ∧ ReceiptsInv P s)
    (fun s a h hok => h.2.step h.1 hok) actions _ ⟨providerInv_init, hinit⟩ hok).2.valid

def freeDealRun : List ProviderAction :=
  let deal := ((sampleRequest sampleFreeQuote none).newDeal "d" none 0 5).row
  [.recoverRuntimeStateLocal [] 5, sampleAdmission (sampleRequest sampleFreeQuote none),
    .readDeal "d", .startExecution deal 6,
    .executionSucceeded deal
      { persistedResult := .null, resultHash := "h", resultFormat := jcsJsonFormat
        resultEnvelopeHash := none } (.error "") "" 7]

theorem stored_receipts_valid_free :
    let s := (providerMachine (sampleEnv ⟨[], .mock, [], false⟩)).run freeDealRun
    (∃ row ∈ s.store.deals, row.receipt.isSome = true)
      ∧ ∀ row ∈ s.store.deals, ∀ r, row.receipt = some r →
        (validateQuoteDealReceipt samplePrimitives row.quote row.artifact r none).valid = true :=
  ⟨by decide +kernel,
    stored_receipts_valid _ freeDealRun
      ⟨trivial, ⟨fun _ _ hpermit => absurd hpermit.symm Bool.false_ne_true, ⟨trivial, ⟨trivial,
        ⟨⟨fun _ => ⟨rfl, by decide⟩, fun hmethod => absurd hmethod.symm (some_ne_none _)⟩,
          trivial⟩⟩⟩⟩⟩⟩

def unpaidPrepaidRun : List ProviderAction :=
  let request := sampleRequest
    (samplePaidQuote settlementMethodLightningPrepaid samplePayee 0) none
  let claim := sampleClaim (.prepaidInvoice 1 "d")
  let hash := "00000000000000000000000000000000000000000000000000000000000000bb"
  let deal := { (request.newDeal "d" (some .lightningPrepaid) 1 5).row with
    paymentTokenHash := some hash, updatedAt := 6 }
  let payment : IncomingPayment := { isPaid := false, receivedSat := 0, preimageHex := "" }
  [.recoverRuntimeStateLocal [] 5, sampleAdmission request, .claimDealMaterialization "d" "t" 5,
    .persistPrepaidInvoice claim "lnbc" hash 6, .readDeal "d", .observePayment hash payment,
    .failUnpaidPrepaidDeal deal hash payment "" 11]

theorem unpaid_receipt_invalid :
    ∃ row ∈ ((providerMachine (sampleEnv ⟨[.lightning], .phoenixd, [], false⟩)).run
        unpaidPrepaidRun).store.deals,
      ∃ r ∈ row.receipt,
        (validateQuoteDealReceipt samplePrimitives row.quote row.artifact r none).valid
          = false := by
  decide +kernel

end Froglet
