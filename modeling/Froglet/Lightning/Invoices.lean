import Froglet.Lib.Checks
import Froglet.Lib.Integers
import Froglet.Protocol.Json

/-!
# Lightning invoices

An invoice is a text. The node reads two formats: BOLT 11, through a parser that
is taken as given, and a format of its own for invoices that no wallet issued,
which spells out its fields between dashes.
-/

namespace Froglet

open List
variable {invoice : String}

/-! ## Reading texts -/

def splitN (separator : Char) : ℕ → List Char → List (List Char)
  | 0, _ => []
  | 1, text => [text]
  | n + 2, text =>
    match text.dropWhile (· != separator) with
    | [] => [text]
    | _ :: rest => text.takeWhile (· != separator) :: splitN separator (n + 1) rest

def parseDigits (digits : List Char) : Option ℕ :=
  if digits.isEmpty || !digits.all Char.isDigit then none
  else some (digits.foldl (fun n c => 10 * n + (c.toNat - '0'.toNat)) 0)

def parseU64 (text : List Char) : Option ℕ :=
  (match text with
    | '+' :: digits => parseDigits digits
    | digits => parseDigits digits).filter (· ≤ u64Max)

def parseI64 (text : List Char) : Option ℤ :=
  match text with
  | '-' :: digits => ((parseDigits digits).filter (· ≤ i64Max + 1)).map fun n => -(n : ℤ)
  | '+' :: digits => ((parseDigits digits).filter (· ≤ i64Max)).map (↑)
  | digits => ((parseDigits digits).filter (· ≤ i64Max)).map (↑)

/-! ## The node's own format -/

structure MockBolt11Fields where
  invoicePrefix : String
  amountMsat : ℕ
  paymentHash : String
  expiresAt : ℤ

def mockPrefix : String := "lnmock-"

def mockBolt11 (invoicePrefix : String) (amountMsat : ℕ) (paymentHash : String) (expiresAt : ℤ) :
    String :=
  mockPrefix ++ s!"{invoicePrefix}-{amountMsat}-{paymentHash}-{expiresAt}"

def parseMockBolt11 (invoice : String) : Except String MockBolt11Fields := do
  rejectIf (!mockPrefix.toList.isPrefixOf invoice.toList)
    "invoice is not in Froglet mock Lightning format"
  let parts := splitN '-' 4 (invoice.toList.drop mockPrefix.length)
  let invoicePrefix ← okOr parts[0]? "missing invoice prefix"
  let amount ← okOr parts[1]? "missing invoice amount"
  let amountMsat ← okOr (parseU64 amount) "invalid invoice amount"
  let paymentHash ← okOr parts[2]? "missing invoice payment hash"
  let expiry ← okOr parts[3]? "missing invoice expiry"
  let expiresAt ← okOr (parseI64 expiry) "invalid invoice expiry"
  return { invoicePrefix := String.ofList invoicePrefix, amountMsat
           paymentHash := String.ofList paymentHash, expiresAt }

/-! ## Reading what was written -/

theorem splitN_append {separator : Char} {first : List Char} (h : separator ∉ first) (n : ℕ)
    (rest : List Char) :
    splitN separator (n + 2) (first ++ separator :: rest)
      = first :: splitN separator (n + 1) rest := by
  have hall : ∀ c ∈ first, (c != separator) = true := fun c hc =>
    bne_iff_ne.mpr fun heq => h (heq ▸ hc)
  rw [splitN, dropWhile_append_of_pos hall, takeWhile_append_of_pos hall]
  simp

theorem isDigit_of_mem_toDigits {n : ℕ} {c : Char} (h : c ∈ Nat.toDigits 10 n) :
    c.isDigit = true := Nat.isDigit_of_mem_toDigits (by decide) (by decide) h

theorem parseDigits_toDigits (n : ℕ) : parseDigits (Nat.toDigits 10 n) = some n := by
  have hall : (Nat.toDigits 10 n).all Char.isDigit = true :=
    all_eq_true.mpr fun _ => isDigit_of_mem_toDigits
  have hvalue : Nat.ofDigitChars 10 (Nat.toDigits 10 n) 0 = n :=
    Nat.ofDigitChars_toDigits (by decide) (by decide)
  rw [parseDigits, hall, isEmpty_eq_false_iff.mpr Nat.toDigits_ne_nil]
  exact congrArg some hvalue

theorem toDigits_eq_cons (n : ℕ) : ∃ c rest, Nat.toDigits 10 n = c :: rest ∧ c ≠ '+' ∧ c ≠ '-' := by
  cases hdigits : Nat.toDigits 10 n with
  | nil => exact absurd hdigits Nat.toDigits_ne_nil
  | cons c rest =>
    have hdigit : c.isDigit = true := isDigit_of_mem_toDigits (hdigits ▸ mem_cons_self)
    refine ⟨c, rest, rfl, ?_, ?_⟩ <;> rintro rfl <;> cases hdigit

theorem parseU64_toString {n : ℕ} (h : n ≤ u64Max) : parseU64 (toString n).toList = some n := by
  rw [Nat.toString_eq_repr, Nat.toList_repr]
  have hparse := parseDigits_toDigits n
  obtain ⟨c, rest, hdigits, hplus, -⟩ := toDigits_eq_cons n
  rw [hdigits] at hparse ⊢
  unfold parseU64
  split
  · next digits heq => exact absurd (cons.inj heq).1 hplus
  · rw [hparse]
    simp [h]

theorem parseI64_toString {e : ℤ} (hmin : -2 ^ 63 ≤ e) (hmax : e ≤ i64Max) :
    parseI64 (toString e).toList = some e := by
  rw [Int.toString_eq_repr]
  cases e with
  | ofNat n =>
    rw [Int.repr, Nat.toList_repr]
    have hparse := parseDigits_toDigits n
    obtain ⟨c, rest, hdigits, hplus, hminus⟩ := toDigits_eq_cons n
    rw [hdigits] at hparse ⊢
    have hle : n ≤ i64Max := Int.ofNat_le.mp hmax
    unfold parseI64
    split
    · next digits heq => exact absurd (cons.inj heq).1 hminus
    · next digits heq => exact absurd (cons.inj heq).1 hplus
    · rw [hparse]
      simp [hle]
  | negSucc n =>
    have hle : n + 1 ≤ i64Max + 1 := by
      unfold i64Max
      omega
    rw [Int.repr, String.toList_append, Nat.toList_repr]
    show ((parseDigits (Nat.toDigits 10 (n + 1))).filter (· ≤ i64Max + 1)).map
      (fun n => -(n : ℤ)) = _
    rw [parseDigits_toDigits]
    simp only [Option.filter_some, hle, decide_true, if_true]
    rfl

/-- An invoice of the node's own format is read as it was written, when its
kind and its payment hash have no dashes and its numbers are in range. -/
theorem parseMockBolt11_mockBolt11 {invoicePrefix paymentHash : String} {amountMsat : ℕ}
    {expiresAt : ℤ} (hkind : '-' ∉ invoicePrefix.toList) (hhash : '-' ∉ paymentHash.toList)
    (hamount : amountMsat ≤ u64Max) (hmin : -2 ^ 63 ≤ expiresAt) (hmax : expiresAt ≤ i64Max) :
    parseMockBolt11 (mockBolt11 invoicePrefix amountMsat paymentHash expiresAt)
      = .ok { invoicePrefix, amountMsat, paymentHash, expiresAt } := by
  have hdigits : '-' ∉ (toString amountMsat).toList := by
    rw [Nat.toString_eq_repr, Nat.toList_repr]
    exact fun hmem => absurd (isDigit_of_mem_toDigits hmem) (by decide)
  have hrest : (mockBolt11 invoicePrefix amountMsat paymentHash expiresAt).toList
      = mockPrefix.toList ++ (invoicePrefix.toList ++ '-' :: ((toString amountMsat).toList
        ++ '-' :: (paymentHash.toList ++ '-' :: (toString expiresAt).toList))) := by
    simp only [mockBolt11, String.toList_append, append_assoc]
    rfl
  have hsplit : splitN '-' 4
      ((mockBolt11 invoicePrefix amountMsat paymentHash expiresAt).toList.drop mockPrefix.length)
        = [invoicePrefix.toList, (toString amountMsat).toList, paymentHash.toList,
          (toString expiresAt).toList] := by
    rw [hrest, ← String.length_toList, drop_left, splitN_append hkind, splitN_append hdigits,
      splitN_append hhash]
    rfl
  unfold parseMockBolt11
  have hprefix : mockPrefix.toList.isPrefixOf
      (mockBolt11 invoicePrefix amountMsat paymentHash expiresAt).toList = true := by
    rw [hrest]
    exact isPrefixOf_iff_prefix.mpr (prefix_append ..)
  rw [hsplit, hprefix]
  simp only [↓check_eq_ok, bind_eq_ok, rejectIf_eq_ok, okOr_eq_ok, pure_eq_ok]
  exact ⟨rfl, _, rfl, _, rfl, _, parseU64_toString hamount, _, rfl, _, rfl, _,
    parseI64_toString hmin hmax, by simp⟩

/-! ## Decoding -/

inductive Currency where
  | bitcoin
  | bitcoinTestnet
  | regtest
  | simnet
  | signet
deriving DecidableEq

structure Bolt11Invoice where
  (amountMilliSatoshis expiresAt : Option ℕ)
  expiryTime : ℕ
  (payeePubKey paymentHash : String)
  currency : Currency
  minFinalCltvExpiryDelta : ℕ

structure Bolt11Parser where
  parse : String → Except String Bolt11Invoice
  rejectsBlank : ∀ (text : String) (invoice : Bolt11Invoice), isBlank text = true →
    parse text ≠ .ok invoice

structure DecodedLightningInvoice where
  amountMsat : ℕ
  paymentHash : String
  expiresAt : ℤ
  expirySecs : Option ℕ
  destinationIdentity : String
  network : Option Currency
  minFinalCltvExpiry : ℕ
deriving DecidableEq

def decodeLightningInvoice (parser : Bolt11Parser) (invoice : String) :
    Except String DecodedLightningInvoice :=
  match parseMockBolt11 invoice with
  | .ok mock => .ok
      { amountMsat := mock.amountMsat, paymentHash := mock.paymentHash
        expiresAt := mock.expiresAt, expirySecs := none, destinationIdentity := ""
        network := none, minFinalCltvExpiry := 0 }
  | .error _ => do
    let invoice ← parser.parse invoice
    let amountMsat ← okOr invoice.amountMilliSatoshis "invoice is missing an amount"
    let expiresAt ← okOr invoice.expiresAt "invoice expiry overflowed"
    rejectIf (i64Max < expiresAt) "invoice expiry exceeds the supported timestamp range"
    return { amountMsat, paymentHash := invoice.paymentHash, expiresAt
             expirySecs := some invoice.expiryTime, destinationIdentity := invoice.payeePubKey
             network := some invoice.currency
             minFinalCltvExpiry := invoice.minFinalCltvExpiryDelta % 2 ^ 32 }

theorem isBlank_of_isPrefixOf {text start : String} (hstart : isBlank start = false)
    (h : start.toList.isPrefixOf text.toList = true) : isBlank text = false := by
  obtain ⟨rest, hrest⟩ := isPrefixOf_iff_prefix.mp h
  unfold isBlank at hstart ⊢
  rw [← hrest, all_append, hstart, Bool.false_and]

theorem isBlank_mockPrefix : isBlank mockPrefix = false := by decide

theorem isBlank_mockBolt11 (invoicePrefix : String) (amountMsat : ℕ) (paymentHash : String)
    (expiresAt : ℤ) :
    isBlank (mockBolt11 invoicePrefix amountMsat paymentHash expiresAt) = false := by
  refine isBlank_of_isPrefixOf isBlank_mockPrefix ?_
  unfold mockBolt11
  rw [String.toList_append]
  exact isPrefixOf_iff_prefix.mpr (prefix_append ..)

theorem isBlank_of_parseMockBolt11 {fields : MockBolt11Fields}
    (h : parseMockBolt11 invoice = .ok fields) : isBlank invoice = false := by
  unfold parseMockBolt11 at h
  rw [check_eq_ok, rejectIf_eq_ok, Bool.not_eq_false'] at h
  exact isBlank_of_isPrefixOf isBlank_mockPrefix h.1

/-- A blank text is no invoice. -/
theorem isBlank_of_decodeLightningInvoice {parser : Bolt11Parser}
    {decoded : DecodedLightningInvoice} (h : decodeLightningInvoice parser invoice = .ok decoded) :
    isBlank invoice = false := by
  unfold decodeLightningInvoice at h
  split at h
  case h_1 mock hmock => exact isBlank_of_parseMockBolt11 hmock
  case h_2 =>
    obtain ⟨bolt11, hparse, -⟩ := bind_eq_ok.mp h
    exact Bool.eq_false_iff.mpr fun hblank => parser.rejectsBlank invoice bolt11 hblank hparse

end Froglet
