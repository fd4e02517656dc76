import Froglet.Lib.Hex
import Mathlib.Data.Int.Init

/-!
# Documents and the primitives over them

Everything that is signed, hashed or answered by a remote party is a JSON document.
-/

namespace Froglet

open List

variable {α : Type}

abbrev Bytes := List UInt8

inductive Json where
  | null
  | bool (b : Bool)
  | int (n : ℤ)
  | float (bits : UInt64)
  | str (s : String)
  | arr (items : List Json)
  | obj (fields : List (String × Json))

namespace Json

mutual

def decEq : (a b : Json) → Decidable (a = b)
  | null, null => isTrue rfl
  | bool a, bool b => if h : a = b then isTrue (h ▸ rfl) else isFalse fun e => h (Json.bool.inj e)
  | int a, int b => if h : a = b then isTrue (h ▸ rfl) else isFalse fun e => h (Json.int.inj e)
  | float a, float b =>
    if h : a = b then isTrue (h ▸ rfl) else isFalse fun e => h (Json.float.inj e)
  | str a, str b => if h : a = b then isTrue (h ▸ rfl) else isFalse fun e => h (Json.str.inj e)
  | arr a, arr b =>
    match decEqItems a b with
    | isTrue h => isTrue (h ▸ rfl)
    | isFalse h => isFalse fun e => h (Json.arr.inj e)
  | obj a, obj b =>
    match decEqFields a b with
    | isTrue h => isTrue (h ▸ rfl)
    | isFalse h => isFalse fun e => h (Json.obj.inj e)
  | null, bool _ | null, int _ | null, float _
  | null, str _ | null, arr _ | null, obj _ => isFalse nofun
  | bool _, null | bool _, int _ | bool _, float _
  | bool _, str _ | bool _, arr _ | bool _, obj _ => isFalse nofun
  | int _, null | int _, bool _ | int _, float _
  | int _, str _ | int _, arr _ | int _, obj _ => isFalse nofun
  | float _, null | float _, bool _ | float _, int _
  | float _, str _ | float _, arr _ | float _, obj _ => isFalse nofun
  | str _, null | str _, bool _ | str _, int _
  | str _, float _ | str _, arr _ | str _, obj _ => isFalse nofun
  | arr _, null | arr _, bool _ | arr _, int _
  | arr _, float _ | arr _, str _ | arr _, obj _ => isFalse nofun
  | obj _, null | obj _, bool _ | obj _, int _
  | obj _, float _ | obj _, str _ | obj _, arr _ => isFalse nofun

def decEqItems : (a b : List Json) → Decidable (a = b)
  | [], [] => isTrue rfl
  | [], _ :: _ => isFalse nofun
  | _ :: _, [] => isFalse nofun
  | a :: as, b :: bs =>
    match decEq a b, decEqItems as bs with
    | isTrue h, isTrue h' => isTrue (h ▸ h' ▸ rfl)
    | isFalse h, _ => isFalse fun e => h (cons.inj e).1
    | _, isFalse h => isFalse fun e => h (cons.inj e).2

def decEqFields : (a b : List (String × Json)) → Decidable (a = b)
  | [], [] => isTrue rfl
  | [], _ :: _ => isFalse nofun
  | _ :: _, [] => isFalse nofun
  | (k, a) :: as, (l, b) :: bs =>
    if hk : k = l then
      match decEq a b, decEqFields as bs with
      | isTrue h, isTrue h' => isTrue (hk ▸ h ▸ h' ▸ rfl)
      | isFalse h, _ => isFalse fun e => h (Prod.mk.inj (cons.inj e).1).2
      | _, isFalse h => isFalse fun e => h (cons.inj e).2
    else isFalse fun e => hk (Prod.mk.inj (cons.inj e).1).1

end

instance : DecidableEq Json := decEq

end Json

class Serialize (α : Type) where
  toJson : α → Json

export Serialize (toJson)

instance : Serialize String := ⟨.str⟩
instance : Serialize ℕ := ⟨fun n => .int n⟩
instance : Serialize ℤ := ⟨.int⟩
instance : Serialize Bool := ⟨.bool⟩
instance : Serialize Json := ⟨id⟩

instance {α : Type} [Serialize α] : Serialize (List α) := ⟨fun l => .arr (l.map toJson)⟩

def field [Serialize α] (key : String) (value : α) : List (String × Json) := [(key, toJson value)]

def optField [Serialize α] (key : String) (value : Option α) : List (String × Json) :=
  value.toList.map fun v => (key, toJson v)

def listField [Serialize α] (key : String) (value : List α) : List (String × Json) :=
  if value.isEmpty then [] else field key value

def textField (key value : String) : List (String × Json) :=
  if value.isEmpty then [] else field key value

structure Primitives where
  sha256Hex : Bytes → String
  canonicalJson : Json → Except String Bytes
  verifyMessage : String → String → Bytes → Bool

/-! ## Texts -/

def isWhitespaceChar (c : Char) : Bool :=
  let n := c.toNat
  (0x9 ≤ n && n ≤ 0xD) || n == 0x20 || n == 0x85 || n == 0xA0 || n == 0x1680
    || (0x2000 ≤ n && n ≤ 0x200A) || n == 0x2028 || n == 0x2029 || n == 0x202F
    || n == 0x205F || n == 0x3000

def isBlank (s : String) : Bool := s.toList.all isWhitespaceChar

def trim (s : String) : String :=
  String.ofList ((s.toList.dropWhile isWhitespaceChar).reverse.dropWhile isWhitespaceChar).reverse

def isLowerHexChar (c : Char) : Bool :=
  let n := c.toNat
  (0x30 ≤ n && n ≤ 0x39) || (0x61 ≤ n && n ≤ 0x66)

def isLowerHexLen (value : String) (len : ℕ) : Bool :=
  value.utf8ByteSize == len && value.toList.all isLowerHexChar

theorem ne_empty_of_isLowerHexLen {value : String} {len : ℕ} (hlen : len ≠ 0)
    (h : isLowerHexLen value len = true) : value ≠ "" := by
  rintro rfl
  simp only [isLowerHexLen, Bool.and_eq_true, beq_iff_eq] at h
  exact hlen h.1.symm

def normalizeHash (value : String) : Option String :=
  let trimmed := (value.toList.dropWhile isWhitespaceChar).reverse.dropWhile isWhitespaceChar
  let normalized := (String.ofList trimmed.reverse).toLower
  if isLowerHexLen normalized 64 then some normalized else none

def decodeHash32 (value : String) : Option Bytes :=
  (Hex.decodeChars value.toList).filter fun bytes => bytes.length == 32

def textBytes (s : String) : Bytes := s.toUTF8.toList

end Froglet
