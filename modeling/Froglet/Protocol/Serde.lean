import Froglet.Lib.Integers
import Froglet.Protocol.Json

/-!
# Reading values from documents

A typed value is read from a document by name or by position: a record is accepted as an
object whose fields are looked up by their keys, or as an array that lists the fields in
the order of their declaration.
-/

namespace Froglet

open List Option

variable {α β : Type}
variable {value : String}

/-! ## Scalars, lists and variants -/

def asString : Json → Option String
  | .str s => some s
  | _ => none

def asUnsigned (bound : ℕ) : Json → Option ℕ
  | .int (.ofNat n) => if n < bound then some n else none
  | _ => none

def asU32 : Json → Option ℕ := asUnsigned (2 ^ 32)

def asU64 : Json → Option ℕ := asUnsigned (2 ^ 64)

def asI64 : Json → Option ℤ
  | .int n => if -2 ^ 63 ≤ n ∧ n < 2 ^ 63 then some n else none
  | _ => none

def asList (decode : Json → Option α) : Json → Option (List α)
  | .arr items => items.mapM decode
  | _ => none

def asOption (decode : Json → Option α) : Json → Option (Option α)
  | .null => some none
  | value => (decode value).map some

def asVariant (variants : List (String × α)) : Json → Option α
  | .str name => variants.lookup name
  | .obj [(name, .null)] => variants.lookup name
  | _ => none

@[simp] theorem asString_toJson (s : String) : asString (toJson s) = some s := rfl

def FitsU32 (n : ℕ) : Prop := n < 2 ^ 32

def FitsU64 (n : ℕ) : Prop := n < 2 ^ 64

def FitsI64 (n : ℤ) : Prop := -2 ^ 63 ≤ n ∧ n < 2 ^ 63

@[simp] theorem asU32_toJson {n : ℕ} (h : FitsU32 n) : asU32 (toJson n) = some n := if_pos h

@[simp] theorem asU64_toJson {n : ℕ} (h : FitsU64 n) : asU64 (toJson n) = some n := if_pos h

@[simp] theorem asI64_toJson {n : ℤ} (h : FitsI64 n) : asI64 (toJson n) = some n := if_pos h

variable {decode : Json → Option α}

theorem asList_toJson [Serialize α] {l : List α} (h : ∀ a ∈ l, decode (toJson a) = some a) :
    asList decode (toJson l) = some l := by
  show (l.map toJson).mapM decode = some l
  induction l with
  | nil => rfl
  | cons a l ih =>
    rw [map_cons, mapM_cons, h a mem_cons_self,
      ih (fun b hb => h b (mem_cons_of_mem a hb))]
    rfl

theorem asOption_of_some {v : Json} {a : α} (hnull : decode .null = none) (h : decode v = some a) :
    asOption decode v = some (some a) := by
  cases v with
  | null => exact absurd (hnull.symm.trans h) (some_ne_none a).symm
  | bool | int | float | str | arr | obj => exact congrArg (Option.map some) h

/-! ## Records -/

inductive Source where
  | map (fields : List (String × Json))
  | seq (items : List Json)

def readField (key : String) (decode : Json → Option α) (missing short : Option α) :
    StateT Source Option α
  | .map fields => ((fields.lookup key).elim missing decode).map (·, .map fields)
  | .seq [] => short.map (·, .seq [])
  | .seq (item :: rest) => (decode item).map (·, .seq rest)

def required (key : String) (decode : Json → Option α) : StateT Source Option α :=
  readField key decode none none

def optional (key : String) (decode : Json → Option α) : StateT Source Option (Option α) :=
  readField key (asOption decode) (some none) none

def defaulted (key : String) (decode : Json → Option α) (default : α) : StateT Source Option α :=
  readField key decode (some default) (some default)

def optionalDefaulted (key : String) (decode : Json → Option α) : StateT Source Option (Option α) :=
  defaulted key (asOption decode) none

def decodeStruct (read : StateT Source Option α) : Json → Option α
  | .obj fields => (read.run (.map fields)).map (·.1)
  | .arr items =>
    match read.run (.seq items) with
    | some (a, .seq []) => some a
    | _ => none
  | _ => none

@[simp] theorem decodeStruct_null (read : StateT Source Option α) :
    decodeStruct read .null = none := rfl

/-! ## Looking up what was written -/

def listValue [Serialize α] (value : List α) : Option Json :=
  if value.isEmpty then none else some (toJson value)

def textValue (value : String) : Option Json := if value.isEmpty then none else some (toJson value)

section Lookup

variable [Serialize α] {key key' : String}

@[simp] theorem lookup_field {value : α} :
    (field key' value).lookup key = if key == key' then some (toJson value) else none := by
  unfold field
  rw [lookup_cons, lookup_nil]
  cases key == key' <;> rfl

@[simp] theorem lookup_optField {value : Option α} :
    (optField key' value).lookup key = if key == key' then value.map toJson else none := by
  unfold optField
  cases value with
  | none => simp
  | some v =>
    rw [toList_some, map_cons, map_nil, lookup_cons, lookup_nil]
    cases key == key' <;> rfl

@[simp] theorem lookup_listField {value : List α} :
    (listField key' value).lookup key = if key == key' then listValue value else none := by
  unfold listField listValue
  cases value with
  | nil => simp
  | cons v l => exact lookup_field

@[simp] theorem lookup_textField :
    (textField key' value).lookup key = if key == key' then textValue value else none := by
  unfold textField textValue
  cases value.isEmpty with
  | true => simp
  | false => exact lookup_field

end Lookup

/-! ## Reading records back -/

def ReadsAs (fields : List (String × Json)) (read : StateT Source Option α) (a : α) : Prop :=
  read.run (.map fields) = some (a, .map fields)

section ReadsAs

variable {fields : List (String × Json)} {key : String}

theorem readsAs_struct {read : StateT Source Option α} {a : α} (h : ReadsAs fields read a) :
    decodeStruct read (.obj fields) = some a :=
  congrArg (Option.map Prod.fst) h

@[simp] theorem readsAs_pure {a b : α} : ReadsAs fields (pure a) b ↔ a = b := by
  constructor
  · intro h
    exact (Prod.mk.inj (some.inj h)).1
  · rintro rfl
    rfl

variable {next : α → StateT Source Option β} {b : β}

theorem readsAs_readField_bind {missing short : Option α} :
    ReadsAs fields (readField key decode missing short >>= next) b
      ↔ ∃ a, (fields.lookup key).elim missing decode = some a ∧ ReadsAs fields (next a) b := by
  unfold ReadsAs
  rw [StateT.run_bind]
  show (((fields.lookup key).elim missing decode).map (·, Source.map fields) >>= _) = _ ↔ _
  cases (fields.lookup key).elim missing decode <;> simp

@[simp] theorem readsAs_required_bind :
    ReadsAs fields (required key decode >>= next) b
      ↔ ∃ a, (fields.lookup key).elim none decode = some a ∧ ReadsAs fields (next a) b :=
  readsAs_readField_bind

@[simp] theorem readsAs_optional_bind {next : Option α → StateT Source Option β} :
    ReadsAs fields (optional key decode >>= next) b
      ↔ ∃ a, (fields.lookup key).elim (some none) (asOption decode) = some a
        ∧ ReadsAs fields (next a) b :=
  readsAs_readField_bind

@[simp] theorem readsAs_defaulted_bind {default : α} :
    ReadsAs fields (defaulted key decode default >>= next) b
      ↔ ∃ a, (fields.lookup key).elim (some default) decode = some a ∧ ReadsAs fields (next a) b :=
  readsAs_readField_bind

@[simp] theorem readsAs_optionalDefaulted_bind {next : Option α → StateT Source Option β} :
    ReadsAs fields (optionalDefaulted key decode >>= next) b
      ↔ ∃ a, (fields.lookup key).elim (some none) (asOption decode) = some a
        ∧ ReadsAs fields (next a) b :=
  readsAs_readField_bind

theorem decodeStruct_obj_bind {missing short : Option α} :
    decodeStruct (readField key decode missing short >>= next) (.obj fields)
      = ((fields.lookup key).elim missing decode).bind
        (fun a => decodeStruct (next a) (.obj fields)) := by
  show ((readField key decode missing short >>= next).run (.map fields)).map _ = _
  rw [StateT.run_bind]
  show (((fields.lookup key).elim missing decode).map (·, Source.map fields) >>= _).map _ = _
  cases (fields.lookup key).elim missing decode <;> rfl

theorem decodeStruct_readField_eq_some {missing short : Option α} :
    decodeStruct (readField key decode missing short >>= next) (.obj fields) = some b
      ↔ ∃ a, (fields.lookup key).elim missing decode = some a
        ∧ decodeStruct (next a) (.obj fields) = some b := by
  rw [decodeStruct_obj_bind, bind_eq_some_iff]

theorem decodeStruct_required_eq_some :
    decodeStruct (required key decode >>= next) (.obj fields) = some b
      ↔ ∃ a, (fields.lookup key).bind decode = some a
        ∧ decodeStruct (next a) (.obj fields) = some b := by
  refine decodeStruct_readField_eq_some.trans ?_
  cases fields.lookup key <;> rfl

theorem decodeStruct_pure_eq_some {a b : α} :
    decodeStruct (pure a) (.obj fields) = some b ↔ a = b := some_inj

theorem elim_optValue [Serialize α] {value : Option α}
    (hnull : decode .null = none) (h : ∀ a ∈ value, decode (toJson a) = some a) :
    value.elim (some none) (asOption decode ∘ toJson) = some value := by
  cases value with
  | none => rfl
  | some a => exact asOption_of_some hnull (h a rfl)

@[simp] theorem elim_optText {value : Option String} :
    value.elim (some none) (asOption asString ∘ toJson) = some value :=
  elim_optValue rfl fun _ _ => rfl

@[simp] theorem elim_optI64 {value : Option ℤ} (h : ∀ n ∈ value, FitsI64 n) :
    value.elim (some none) (asOption asI64 ∘ toJson) = some value :=
  elim_optValue rfl fun n hn => asI64_toJson (h n hn)

@[simp] theorem elim_optU32 {value : Option ℕ} (h : ∀ n ∈ value, FitsU32 n) :
    value.elim (some none) (asOption asU32 ∘ toJson) = some value :=
  elim_optValue rfl fun n hn => asU32_toJson (h n hn)

theorem elim_listValue [Serialize α] {value : List α}
    (h : ∀ a ∈ value, decode (toJson a) = some a) :
    (listValue value).elim (some []) (asList decode) = some value := by
  cases value with
  | nil => rfl
  | cons v l => exact asList_toJson h

@[simp] theorem elim_textsValue {value : List String} :
    (listValue value).elim (some []) (asList asString) = some value :=
  elim_listValue fun _ _ => rfl

@[simp] theorem elim_textValue : (textValue value).elim (some "") asString = some value := by
  unfold textValue
  cases hv : value.isEmpty with
  | true => exact congrArg some (String.isEmpty_iff.mp hv).symm
  | false => rfl

@[simp] theorem asList_texts (l : List String) : asList asString (toJson l) = some l :=
  asList_toJson fun _ _ => rfl

end ReadsAs

/-! ## Distinct values are written differently -/

class LawfulSerialize (α : Type) [Serialize α] : Prop where
  injective : Function.Injective (toJson : α → Json)

@[simp] theorem toJson_inj [Serialize α] [LawfulSerialize α] {a b : α} :
    toJson a = toJson b ↔ a = b := LawfulSerialize.injective.eq_iff

instance : LawfulSerialize String := ⟨fun _ _ h => Json.str.inj h⟩
instance : LawfulSerialize ℕ := ⟨fun _ _ h => Int.ofNat.inj (Json.int.inj h)⟩
instance : LawfulSerialize ℤ := ⟨fun _ _ h => Json.int.inj h⟩
instance : LawfulSerialize Json := ⟨fun _ _ h => h⟩

instance [Serialize α] [LawfulSerialize α] : LawfulSerialize (List α) :=
  ⟨fun _ _ h => (List.map_inj_right (fun _ _ h => LawfulSerialize.injective h)).mp (Json.arr.inj h)⟩

theorem lookup_eq_of_obj_eq {fields fields' : List (String × Json)}
    (h : Json.obj fields = Json.obj fields') (keys : List String) :
    ∀ key ∈ keys, fields.lookup key = fields'.lookup key :=
  fun key _ => congrArg (lookup key) (Json.obj.inj h)

@[simp] theorem map_toJson_inj [Serialize α] [LawfulSerialize α] {a b : Option α} :
    a.map toJson = b.map toJson ↔ a = b :=
  (map_injective LawfulSerialize.injective).eq_iff

@[simp] theorem listValue_inj [Serialize α] [LawfulSerialize α] {a b : List α} :
    listValue a = listValue b ↔ a = b := by
  cases a <;> cases b <;> simp [listValue]

@[simp] theorem textValue_inj {a b : String} : textValue a = textValue b ↔ a = b := by
  unfold textValue
  cases ha : a.isEmpty <;> cases hb : b.isEmpty
  · simp
  · have hne : a ≠ b := fun h => absurd (ha.symm.trans (h ▸ hb)) Bool.false_ne_true
    simp [hne]
  · have hne : a ≠ b := fun h => absurd (hb.symm.trans (h ▸ ha)) Bool.false_ne_true
    simp [hne]
  · simp [String.isEmpty_iff.mp ha, String.isEmpty_iff.mp hb]

end Froglet
