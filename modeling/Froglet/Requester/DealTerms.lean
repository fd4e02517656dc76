import Froglet.Lightning.MockBundles
import Froglet.Requester.Budget
import Froglet.Requester.Runtime

/-!
# The deal a requester signs, and the price it agrees to

A requester derives the three deadlines of its deal from the quote: forwards from its
clock where the deal is paid by a bundle, backwards from the quote's expiry, and with
sums that clamp.
-/

namespace Froglet

open Option

variable {P : Primitives}
variable {quote : QuotePayload} {usesLightningBundle : Bool}

/-! ## Deadlines -/

def lightningAdmissionWindowSecs (terms : QuoteSettlementTerms) : ℕ :=
  max terms.maxBaseInvoiceExpirySecs terms.maxSuccessHoldExpirySecs

def lightningQuoteMaxAdmissionDeadline (quote : QuotePayload) : ℤ :=
  saturatingSubI64
    (saturatingSubI64 quote.expiresAt (wrapI64 (dealExecutionWindowSecs quote.executionLimits)))
    (wrapI64 quote.settlementTerms.maxSuccessHoldExpirySecs)

structure DealDeadlines where
  (admission completion acceptance : ℤ)

def requesterDealDeadlines (quote : QuotePayload) (createdAt : ℤ) (usesLightningBundle : Bool) :
    Except String DealDeadlines := do
  let executionWindowSecs := dealExecutionWindowSecs quote.executionLimits
  let admission :=
    if usesLightningBundle then
      min (lightningQuoteMaxAdmissionDeadline quote)
        (saturatingAddI64 createdAt (wrapI64 (lightningAdmissionWindowSecs quote.settlementTerms)))
    else quote.expiresAt
  rejectIf (usesLightningBundle && admission < createdAt)
    "quote expiry already leaves no remaining Lightning admission window"
  let completion := saturatingAddI64 admission (wrapI64 executionWindowSecs)
  let acceptance :=
    if usesLightningBundle then
      saturatingAddI64 completion (wrapI64 quote.settlementTerms.maxSuccessHoldExpirySecs)
    else completion
  rejectIf (usesLightningBundle && quote.expiresAt < acceptance)
    "quote expiry is too short for the Lightning admission, execution, and acceptance windows"
  return { admission, completion, acceptance }

def buildRuntimeRequesterDealArtifact (node : NodeIdentity P) (quote : SignedQuote)
    (successPaymentHash : String) (createdAt : ℤ) (usesLightningBundle : Bool) :
    Except String SignedDeal := do
  let deadlines ← requesterDealDeadlines quote.payload createdAt usesLightningBundle
  signArtifact P node.nodeId node.signMessageHex artifactTypeDeal createdAt
    { requesterId := node.nodeId, providerId := quote.payload.providerId, quoteHash := quote.hash
      workloadHash := quote.payload.workloadHash
      confidentialSessionHash := quote.payload.confidentialSessionHash
      extensionRefs := [], authorityRef := none, supersedesDealHash := none, clientNonce := none
      successPaymentHash, admissionDeadline := deadlines.admission
      completionDeadline := deadlines.completion, acceptanceDeadline := deadlines.acceptance }

def maxSafeInteger : ℕ := 2 ^ 53 - 1

structure QuotePayload.SafeIntegers (quote : QuotePayload) : Prop where
  expiresAt : quote.expiresAt ≤ maxSafeInteger
  maxRuntimeMs : quote.executionLimits.maxRuntimeMs ≤ maxSafeInteger
  baseWindow : quote.settlementTerms.maxBaseInvoiceExpirySecs ≤ maxSafeInteger
  successWindow : quote.settlementTerms.maxSuccessHoldExpirySecs ≤ maxSafeInteger

theorem QuotePayload.SafeIntegers.executionWindow (h : quote.SafeIntegers) :
    1 ≤ dealExecutionWindowSecs quote.executionLimits
      ∧ dealExecutionWindowSecs quote.executionLimits ≤ maxSafeInteger := by
  have := h.maxRuntimeMs
  unfold dealExecutionWindowSecs maxSafeInteger at *
  omega

theorem wrapI64_of_le_maxSafeInteger {n : ℕ} (h : n ≤ maxSafeInteger) : wrapI64 n = n := by
  unfold maxSafeInteger at h
  exact wrapI64_eq (by omega) (by omega)

structure DeadlinesAdmitted (quote : QuotePayload) (now : ℤ) (usesLightningBundle : Bool)
    (deadlines : DealDeadlines) : Prop where
  admission : now ≤ deadlines.admission
  quoteExpiry : deadlines.admission ≤ quote.expiresAt
  completion : deadlines.admission < deadlines.completion
  acceptance : deadlines.completion ≤ deadlines.acceptance
  settlement : usesLightningBundle = true → deadlines.acceptance ≤ quote.expiresAt
  invoices : usesLightningBundle = true →
    deadlines.admission ≤ now + lightningAdmissionWindowSecs quote.settlementTerms

/-- The requester's deadlines are admitted at the time it signed them. -/
theorem deadlinesAdmitted_of_requesterDealDeadlines {createdAt : ℤ} {deadlines : DealDeadlines}
    (hsafe : quote.SafeIntegers) (hexpires : FitsI64 quote.expiresAt)
    (hclock : createdAt ≤ quote.expiresAt) (hcreated : FitsI64 createdAt)
    (h : requesterDealDeadlines quote createdAt usesLightningBundle = .ok deadlines) :
    DeadlinesAdmitted quote createdAt usesLightningBundle deadlines := by
  obtain ⟨hwindow, hwindowMax⟩ := hsafe.executionWindow
  have hadmissionWindow : lightningAdmissionWindowSecs quote.settlementTerms ≤ maxSafeInteger :=
    max_le hsafe.baseWindow hsafe.successWindow
  have hsuccessWindow := hsafe.successWindow
  have hexpiresMax := hsafe.expiresAt
  obtain ⟨hexpiresMin, -⟩ := hexpires
  obtain ⟨hcreatedMin, -⟩ := hcreated
  simp only [requesterDealDeadlines, lightningQuoteMaxAdmissionDeadline,
    wrapI64_of_le_maxSafeInteger hwindowMax, wrapI64_of_le_maxSafeInteger hadmissionWindow,
    wrapI64_of_le_maxSafeInteger hsuccessWindow, ↓check_eq_ok, rejectIf_eq_ok,
    pure_eq_ok, Bool.and_eq_false_iff, decide_eq_false_iff_not, not_lt] at h
  obtain ⟨hadmission, hacceptance, rfl⟩ := h
  unfold maxSafeInteger at *
  unfold saturatingAddI64 saturatingSubI64 i64Max at *
  cases usesLightningBundle with
  | false => constructor <;> simp <;> omega
  | true =>
    simp only [Bool.true_eq_false, false_or, if_true] at hadmission hacceptance
    constructor <;> simp only [if_true, forall_const] <;> omega

theorem validateDealDeadlines_of_admitted {deal : DealPayload} {now : ℤ}
    (hwindow : lightningAdmissionWindowSecs quote.settlementTerms ≤ maxSafeInteger)
    (h : DeadlinesAdmitted quote now usesLightningBundle
      ⟨deal.admissionDeadline, deal.completionDeadline, deal.acceptanceDeadline⟩) :
    validateDealDeadlines quote deal now usesLightningBundle = .ok () := by
  have hwrap := wrapI64_of_le_maxSafeInteger hwindow
  obtain ⟨hadmission, hquote, hcompletion, hacceptance, hsettlement, hinvoices⟩ := h
  unfold lightningAdmissionWindowSecs at hwrap hinvoices
  push_cast at hwrap hinvoices
  simp only [validateDealDeadlines, ↓check_eq_ok, rejectIf_eq_ok,
    decide_eq_false_iff_not, not_lt, not_le]
  refine ⟨hadmission, hquote, hcompletion, hacceptance, ?_⟩
  cases usesLightningBundle with
  | false => rfl
  | true =>
    simp only [if_true, ↓check_eq_ok, rejectIf_eq_ok, decide_eq_false_iff_not, not_lt, hwrap]
    exact ⟨hsettlement rfl, hinvoices rfl⟩

/-! ## The signed deal -/

def Primitives.KeysWritten (P : Primitives) : Prop :=
  ∀ key signature bytes, P.verifyMessage key signature bytes = true → isBlank key = false

section Deal

variable {node : NodeIdentity P} {quote : SignedQuote}
  {successPaymentHash : String} {createdAt : ℤ}

theorem workloadHash_of_validateQuoteArtifact (h : validateQuoteArtifact quote = .ok ()) :
    isBlank quote.payload.workloadHash = false := by
  unfold validateQuoteArtifact at h
  simp only [check_eq_ok, rejectIf_eq_ok] at h
  exact h.2.2.2.2.2.1

/-- **The deal a requester signs on a verified quote is admitted** at the time it was
signed: the provider's check of its deadlines passes, and so do the rules between
quote and deal. -/
theorem requester_deal_admitted (hhex : P.HashesHex) (hkeys : P.KeysWritten)
    {requester provider : RequesterEnv} (hverified : verifyArtifact P quote = true)
    (htype : quote.artifactType = artifactTypeQuote) (hvalid : validateQuoteArtifact quote = .ok ())
    (haddressed : quote.payload.requesterId = node.nodeId) (hsafe : quote.payload.SafeIntegers)
    (hexpires : FitsI64 quote.payload.expiresAt) (hcreated : FitsI64 createdAt)
    (hhash : isLowerHexLen successPaymentHash 64 = true)
    (hclock : createdAt ≤ quote.payload.expiresAt)
    (hsides : quoteUsesLightningBundle requester quote = quoteUsesLightningBundle provider quote)
    {deal : SignedDeal}
    (h : buildRuntimeRequesterDealArtifact node quote successPaymentHash createdAt
      (quoteUsesLightningBundle requester quote) = .ok deal) :
    validateDealDeadlines quote.payload deal.payload createdAt
        (quoteUsesLightningBundle provider quote) = .ok ()
      ∧ ∀ now, NotPast now quote.payload.expiresAt →
        (validateQuoteDeal P quote deal now).valid = true := by
  unfold buildRuntimeRequesterDealArtifact at h
  obtain ⟨deadlines, hdeadlines, hsign⟩ := bind_eq_ok.mp h
  have hadmitted := deadlinesAdmitted_of_requesterDealDeadlines hsafe hexpires hclock hcreated
    hdeadlines
  obtain ⟨hauth, hdealType, hsigner, hpayload⟩ := authentic_of_signArtifact P node.verifies hsign
  have hquoteAuth := (verifyArtifact_iff P quote).mp hverified
  have hprovider : isBlank quote.payload.providerId = false := by
    obtain ⟨bytes, -, -, hsignature⟩ := hquoteAuth.signed
    rw [← signer_of_validateQuoteArtifact hvalid]
    exact hkeys _ _ _ hsignature
  rw [← hsides]
  refine ⟨?_, fun now hnow => (valid_validateQuoteDeal P).mpr ?_⟩
  · rw [hpayload]
    exact validateDealDeadlines_of_admitted (max_le hsafe.baseWindow hsafe.successWindow) hadmitted
  · refine
      { quoteType := htype, quoteAuthentic := hquoteAuth, dealType := hdealType
        dealAuthentic := hauth, quote := hvalid, quoteFresh := hnow, deal := ?_, linked := ?_ }
    · unfold validateDealArtifact
      simp only [↓check_eq_ok, rejectIf_eq_ok, hsigner, hpayload, hhash, hprovider,
        isBlank_hash_of_authentic hhex hquoteAuth, workloadHash_of_validateQuoteArtifact hvalid,
        bne_self_eq_false, Bool.not_true, decide_eq_false_iff_not, not_le, not_lt, true_and]
      exact ⟨hadmitted.completion, hadmitted.acceptance⟩
    · constructor <;> rw [hpayload]
      case requesterId => exact haddressed.symm
      case admissionDeadline => exact hadmitted.quoteExpiry
      case completionDeadline => exact hadmitted.completion
      case acceptanceDeadline => exact hadmitted.acceptance

end Deal

def sampleKeyedPrimitives : Primitives :=
  { sampleHexPrimitives with verifyMessage := fun key _ _ => !isBlank key }

theorem keysWritten_sample : sampleKeyedPrimitives.KeysWritten :=
  fun _ _ _ h => (Bool.not_eq_true' _).mp h

def sampleRequesterNode : NodeIdentity sampleKeyedPrimitives :=
  { nodeId := "r", signMessageHex := fun _ => "sig", verifies := fun _ => by
      show (!isBlank "r") = true
      decide }

def sampleLightningEnv : RequesterEnv :=
  { prims := sampleKeyedPrimitives, nodeId := "r", lightningBackend := true
    lightningMode := .lndRest, buyerPhoenixd := false, usesA2a := fun _ => false
    prepaidInvoiceValid := fun _ _ _ _ => false }

theorem requester_deal_admitted_sample :
    ∃ deal, buildRuntimeRequesterDealArtifact sampleRequesterNode sampleHoldQuote sampleHash 0
        (quoteUsesLightningBundle sampleLightningEnv sampleHoldQuote) = .ok deal
      ∧ validateDealDeadlines sampleHoldQuote.payload deal.payload 0
        (quoteUsesLightningBundle sampleLightningEnv sampleHoldQuote) = .ok ()
      ∧ ∀ now, NotPast now sampleHoldQuote.payload.expiresAt →
        (validateQuoteDeal sampleKeyedPrimitives sampleHoldQuote deal now).valid = true := by
  have hok : (buildRuntimeRequesterDealArtifact sampleRequesterNode sampleHoldQuote sampleHash 0
      (quoteUsesLightningBundle sampleLightningEnv sampleHoldQuote)).isOk = true := by
    decide +kernel
  cases hdeal : buildRuntimeRequesterDealArtifact sampleRequesterNode sampleHoldQuote sampleHash 0
      (quoteUsesLightningBundle sampleLightningEnv sampleHoldQuote) with
  | error error => exact absurd (hdeal ▸ hok) (by simp [Except.isOk, Except.toBool])
  | ok deal =>
    have hverified : verifyArtifact sampleKeyedPrimitives sampleHoldQuote = true := by
      decide +kernel
    have hvalid : validateQuoteArtifact sampleHoldQuote = .ok () := by decide +kernel
    have hhash : isLowerHexLen sampleHash 64 = true := by decide +kernel
    have hsafe : sampleHoldQuote.payload.SafeIntegers :=
      ⟨by decide, by decide, by decide, by decide⟩
    have hexpires : FitsI64 sampleHoldQuote.payload.expiresAt := by unfold FitsI64; decide
    have hcreated : FitsI64 0 := by unfold FitsI64; decide
    have hhex : sampleKeyedPrimitives.HashesHex := hashesHex_sample
    exact ⟨deal, rfl, requester_deal_admitted hhex keysWritten_sample hverified rfl hvalid rfl
      hsafe hexpires hcreated hhash (by decide) rfl hdeal⟩

/-! ## The price -/

inductive PricingFailure where
  | deal (error : String)
  | totalOutOfRange
  | fractionalPrepaid
  | aboveMaxPrice (quotedTotalMsat maxPriceMsat : ℕ)
  | ledger (error : String)
  | unconfigured (quotedTotalMsat : ℕ)
  | capExceeded (quotedTotalMsat maxDealMsat : ℕ)
  | budgetExceeded (quotedTotalMsat spendBudgetMsat spentMsat remainingMsat : ℕ)
deriving DecidableEq

structure PricedDeal where
  usesLightningBundle : Bool
  deal : SignedDeal
  quotedTotalMsat : ℕ
  reserved : Bool
deriving DecidableEq

/-- What a create call is priced by. -/
structure PricingCall (node : NodeIdentity P) where
  env : RequesterEnv
  policy : RequesterSpendConfig
  maxPriceSats : Option ℕ
  providerId : String
  quote : SignedQuote
  successPaymentHash : String
  (createdAt reservedAt : ℤ)

namespace PricingCall

variable {node : NodeIdentity P}
variable (call : PricingCall node)

def reserve (usesLightningBundle : Bool) (deal : SignedDeal)
    (quotedTotalMsat : ℕ) (l : SpendLedger) : Except PricingFailure PricedDeal × SpendLedger :=
  match tryReserveSpend call.policy deal.hash call.providerId quotedTotalMsat
      call.quote.payload.settlementTerms.method call.reservedAt l with
  | (.error error, l) => (.error (.ledger error), l)
  | (.ok .unconfigured, l) => (.error (.unconfigured quotedTotalMsat), l)
  | (.ok (.capExceeded maxDealMsat), l) => (.error (.capExceeded quotedTotalMsat maxDealMsat), l)
  | (.ok (.budgetExceeded budget spent remaining), l) =>
    (.error (.budgetExceeded quotedTotalMsat budget spent remaining), l)
  | (.ok .reserved, l) => (.ok { usesLightningBundle, deal, quotedTotalMsat, reserved := true }, l)

def run (l : SpendLedger) : Except PricingFailure PricedDeal × SpendLedger :=
  let terms := call.quote.payload.settlementTerms
  let usesLightningBundle := quoteUsesLightningBundle call.env call.quote
  match buildRuntimeRequesterDealArtifact node call.quote call.successPaymentHash call.createdAt
      usesLightningBundle with
  | .error error => (.error (.deal error), l)
  | .ok deal =>
    match (checkedAdd terms.baseFeeMsat terms.successFeeMsat).filter (· ≤ i64Max) with
    | none => (.error .totalOutOfRange, l)
    | some quotedTotalMsat =>
      if terms.method == settlementMethodLightningPrepaid && terms.baseFeeMsat % 1000 != 0 then
        (.error .fractionalPrepaid, l)
      else if quotedTotalMsat == 0 then
        (.ok { usesLightningBundle, deal, quotedTotalMsat, reserved := false }, l)
      else match call.maxPriceSats.filter (saturatingMul · 1000 < quotedTotalMsat) with
      | some maxPriceSats =>
        (.error (.aboveMaxPrice quotedTotalMsat (saturatingMul maxPriceSats 1000)), l)
      | none => call.reserve usesLightningBundle deal quotedTotalMsat l

def runOnIntegers (l : SpendLedger) : Except PricingFailure PricedDeal × SpendLedger :=
  let terms := call.quote.payload.settlementTerms
  let quotedTotalMsat := terms.baseFeeMsat + terms.successFeeMsat
  let usesLightningBundle := call.env.lightningBackend && 0 < quotedTotalMsat
    && terms.method == settlementMethodLightningEscrow
  match buildRuntimeRequesterDealArtifact node call.quote call.successPaymentHash call.createdAt
      usesLightningBundle with
  | .error error => (.error (.deal error), l)
  | .ok deal =>
    if i64Max < quotedTotalMsat then (.error .totalOutOfRange, l)
    else if terms.method == settlementMethodLightningPrepaid && terms.baseFeeMsat % 1000 != 0 then
      (.error .fractionalPrepaid, l)
    else if quotedTotalMsat == 0 then
      (.ok { usesLightningBundle, deal, quotedTotalMsat, reserved := false }, l)
    else match call.maxPriceSats.filter (· * 1000 < quotedTotalMsat) with
    | some maxPriceSats =>
      (.error (.aboveMaxPrice quotedTotalMsat (saturatingMul maxPriceSats 1000)), l)
    | none => call.reserve usesLightningBundle deal quotedTotalMsat l

def SumsExact : Prop :=
  let terms := call.quote.payload.settlementTerms
  terms.uncheckedTotalMsat = terms.baseFeeMsat + terms.successFeeMsat

def RefusedOrExact (l : SpendLedger) : Prop :=
  (∃ failure l', call.run l = (.error failure, l')) ∨ call.run l = call.runOnIntegers l

theorem quoteUsesLightningBundle_eq {env : RequesterEnv} {quote : SignedQuote}
    (h : quote.payload.settlementTerms.uncheckedTotalMsat
      = quote.payload.settlementTerms.baseFeeMsat + quote.payload.settlementTerms.successFeeMsat) :
    quoteUsesLightningBundle env quote = (env.lightningBackend
      && decide (0 < quote.payload.settlementTerms.baseFeeMsat
        + quote.payload.settlementTerms.successFeeMsat)
      && quote.payload.settlementTerms.method == settlementMethodLightningEscrow) := by
  rw [quoteUsesLightningBundle, h]

theorem saturatingMul_lt_iff {maxPriceSats total : ℕ} (h : total ≤ i64Max) :
    saturatingMul maxPriceSats 1000 < total ↔ maxPriceSats * 1000 < total := by
  have := i64Max_le_u64Max
  unfold saturatingMul
  omega

theorem checkedTotal_eq (base success : ℕ) : (checkedAdd base success).filter (· ≤ i64Max)
      = if i64Max < base + success then none else some (base + success) := by
  have := i64Max_le_u64Max
  unfold checkedAdd
  split
  · by_cases h : i64Max < base + success
    · rw [if_pos h, filter_some, if_neg (by simpa using h)]
    · rw [if_neg h, filter_some, if_pos (by simpa using h)]
  · rw [if_pos (by omega), filter_none]

/-- An exact sum decides as on integers. -/
theorem run_eq_runOnIntegers {call : PricingCall node} (h : call.SumsExact) (l : SpendLedger) :
    call.run l = call.runOnIntegers l := by
  simp only [run, runOnIntegers, quoteUsesLightningBundle_eq h, checkedTotal_eq]
  split
  · rfl
  · by_cases hrange : i64Max < call.quote.payload.settlementTerms.baseFeeMsat
        + call.quote.payload.settlementTerms.successFeeMsat
    · simp only [if_pos hrange]
    · simp only [if_neg hrange, saturatingMul_lt_iff (not_lt.mp hrange)]

/-- Every call is refused or decides as on integers: a sum that wraps is refused by
the check behind it. -/
theorem refusedOrExact (l : SpendLedger) : call.RefusedOrExact l := by
  by_cases h : call.SumsExact
  · exact .inr (run_eq_runOnIntegers h l)
  · have hrange : i64Max < call.quote.payload.settlementTerms.baseFeeMsat
        + call.quote.payload.settlementTerms.successFeeMsat :=
      i64Max_le_u64Max.trans_lt (not_le.mp (wrappingAdd_eq_iff.not.mp h))
    refine .inl ?_
    simp only [run, checkedTotal_eq, if_pos hrange]
    split
    · exact ⟨_, _, rfl⟩
    · exact ⟨_, _, rfl⟩

/-- **When the fees of a quote are added exactly**: no sum wraps, and the call is
refused or decides as on integers, just when the sum of the fees is in the unsigned
range. -/
theorem fees_exact_iff (call : PricingCall node) (l : SpendLedger) :
    call.SumsExact ∧ call.RefusedOrExact l ↔ call.quote.payload.settlementTerms.baseFeeMsat
        + call.quote.payload.settlementTerms.successFeeMsat ≤ u64Max :=
  ⟨fun h => wrappingAdd_eq_iff.mp h.1,
    fun h => ⟨wrappingAdd_eq_iff.mpr h, call.refusedOrExact l⟩⟩

end PricingCall

def sampleOverflowQuote : SignedQuote :=
  sampleHexEnvelope artifactTypeQuote "p"
    { sampleHoldQuote.payload with
      settlementTerms :=
        { sampleHoldQuote.payload.settlementTerms with
          baseFeeMsat := u64Max, successFeeMsat := 1 } }

def sampleOverflowCall : PricingCall sampleRequesterNode :=
  { env := sampleLightningEnv, policy := ⟨none, none⟩, maxPriceSats := none, providerId := "p"
    quote := sampleOverflowQuote, successPaymentHash := sampleHash, createdAt := 0
    reservedAt := 0 }

/-- **The total of a verified quote wraps**: it counts as free, and its deal as one
without a bundle, until the checked sum refuses it. -/
theorem quote_total_wraps :
    verifyArtifact sampleKeyedPrimitives sampleOverflowQuote = true
    ∧ validateQuoteArtifact sampleOverflowQuote = .ok ()
    ∧ sampleOverflowQuote.payload.settlementTerms.baseFeeMsat
      + sampleOverflowQuote.payload.settlementTerms.successFeeMsat = 2 ^ 64
    ∧ sampleOverflowQuote.payload.settlementTerms.uncheckedTotalMsat = 0
    ∧ quoteUsesLightningBundle sampleLightningEnv sampleOverflowQuote = false
    ∧ sampleOverflowCall.run [] = (.error .totalOutOfRange, [])
    ∧ ¬ sampleOverflowCall.SumsExact := by
  refine ⟨by decide +kernel, by decide +kernel, by decide, by decide, by decide,
    by decide +kernel, ?_⟩
  unfold PricingCall.SumsExact
  decide

end Froglet
