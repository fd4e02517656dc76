import Mathlib.Tactic.IntervalCases

/-!
# Hexadecimal texts

Bytes written as pairs of hexadecimal digits. Reading accepts digits of either
case and writing produces lowercase ones, so that reading a text and writing it
again gives the text in lowercase (`Hex.encode_of_decodeChars`).
-/

namespace Hex

open Option
variable {cs : List Char} {bytes : List UInt8}

def digit? (c : Char) : Option UInt8 :=
  let n := c.toNat
  if 0x30 ≤ n && n ≤ 0x39 then some (n - 0x30).toUInt8
  else if 0x61 ≤ n && n ≤ 0x66 then some (n - 0x61 + 10).toUInt8
  else if 0x41 ≤ n && n ≤ 0x46 then some (n - 0x41 + 10).toUInt8
  else none

def decodeChars : List Char → Option (List UInt8)
  | [] => some []
  | [_] => none
  | a :: b :: rest => do
    let high ← digit? a
    let low ← digit? b
    let bytes ← decodeChars rest
    return (high * 16 + low) :: bytes

def digitChar (d : UInt8) : Char :=
  if d < 10 then Char.ofNat (0x30 + d.toNat) else Char.ofNat (0x57 + d.toNat)

def encodeChars : List UInt8 → List Char
  | [] => []
  | byte :: rest => digitChar (byte / 16) :: digitChar (byte % 16) :: encodeChars rest

def encode (bytes : List UInt8) : String := String.ofList (encodeChars bytes)

theorem digit?_some {c : Char} {d : UInt8} (h : digit? c = some d) :
    d < 16 ∧ digitChar d = c.toLower := by
  -- a digit is one of twenty-two characters
  rw [← Char.ofNat_toNat c]
  unfold digit? at h
  dsimp only at h
  generalize c.toNat = n at h
  split at h
  case isTrue hn =>
    obtain ⟨hlo, hhi⟩ : 0x30 ≤ n ∧ n ≤ 0x39 := by simpa using hn
    cases h
    interval_cases n <;> decide
  case isFalse =>
    split at h
    case isTrue hn =>
      obtain ⟨hlo, hhi⟩ : 0x61 ≤ n ∧ n ≤ 0x66 := by simpa using hn
      cases h
      interval_cases n <;> decide
    case isFalse =>
      split at h
      case isTrue hn =>
        obtain ⟨hlo, hhi⟩ : 0x41 ≤ n ∧ n ≤ 0x46 := by simpa using hn
        cases h
        interval_cases n <;> decide
      case isFalse => cases h

theorem div_mod_of_lt {high low : UInt8} (hhigh : high < 16) (hlow : low < 16) :
    (high * 16 + low) / 16 = high ∧ (high * 16 + low) % 16 = low := by
  simp only [UInt8.lt_iff_toNat_lt, UInt8.reduceToNat] at hhigh hlow
  constructor <;>
  · rw [← UInt8.toNat_inj]
    simp only [UInt8.toNat_div, UInt8.toNat_mod, UInt8.toNat_add, UInt8.toNat_mul,
      UInt8.reduceToNat]
    omega

theorem encodeChars_of_decodeChars (h : decodeChars cs = some bytes) :
    encodeChars bytes = cs.map Char.toLower := by
  fun_induction decodeChars cs generalizing bytes with
  | case1 =>
    cases h
    rfl
  | case2 => cases h
  | case3 a b rest ih =>
    simp only [bind_eq_bind, bind_eq_some_iff, pure_def, some.injEq] at h
    obtain ⟨high, hhigh, low, hlow, tail, htail, rfl⟩ := h
    obtain ⟨hhigh, hhighChar⟩ := digit?_some hhigh
    obtain ⟨hlow, hlowChar⟩ := digit?_some hlow
    obtain ⟨hdiv, hmod⟩ := div_mod_of_lt hhigh hlow
    rw [encodeChars, hdiv, hmod, hhighChar, hlowChar, ih htail]
    rfl

/-- Writing what was read gives the text in lowercase. -/
theorem encode_of_decodeChars {s : String} (h : decodeChars s.toList = some bytes) :
    encode bytes = s.toLower := by
  show String.ofList (encodeChars bytes) = s.map Char.toLower
  rw [encodeChars_of_decodeChars h, ← String.toList_map, String.ofList_toList]

end Hex
