import Mathlib.Algebra.Order.Field.Rat
import Mathlib.Data.List.Basic

/-!
# JSON values

A parsed JSON document and the typed readings of its parts. A number keeps the
three forms a parser distinguishes: an unsigned 64-bit integer, a negative one, or
the bits of a double; only the first is readable as an unsigned integer. The fields
of an object are given in order, and a name selects the first field that has it.
-/

namespace SecureDatabase.Foundation

/-- A parsed number. -/
inductive JsonNumber where
  | posInt (magnitude : UInt64)
  | negInt (number : Int64)
  | float (bits : UInt64)
deriving DecidableEq

/-- The number that the bits of a finite double denote: a sign, eleven bits of exponent and
fifty-two of fraction. -/
def doubleValue (bits : UInt64) : ℚ :=
  let exponent := bits.toNat / 2 ^ 52 % 2048
  let fraction := bits.toNat % 2 ^ 52
  let scaled : Nat :=
    if exponent = 0 then fraction * 2 else (2 ^ 52 + fraction) * 2 ^ exponent
  let magnitude : ℚ := (scaled : ℚ) / ((2 ^ 1075 : Nat) : ℚ)
  if bits.toNat / 2 ^ 63 = 0 then magnitude else -magnitude

/-- What a parsed number denotes. -/
def JsonNumber.value : JsonNumber → ℚ
  | posInt magnitude => (magnitude.toNat : ℚ)
  | negInt number => (number.toInt : ℚ)
  | float bits => doubleValue bits

/-- A parsed document. -/
inductive Json where
  | null
  | bool (truth : Bool)
  | number (number : JsonNumber)
  | string (text : String)
  | array (elements : List Json)
  | object (fields : List (String × Json))

namespace Json

/-- `Value::as_object`. -/
def asObject : Json → Option (List (String × Json))
  | object fields => some fields
  | _ => none

/-- `Value::as_array`. -/
def asArray : Json → Option (List Json)
  | array elements => some elements
  | _ => none

/-- `Value::as_str`. -/
def asStr : Json → Option String
  | string text => some text
  | _ => none

/-- `Value::as_u64`. -/
def asU64 : Json → Option UInt64
  | number (.posInt magnitude) => some magnitude
  | _ => none

/-- The value of a named field. -/
def field (fields : List (String × Json)) (name : String) : Option Json := fields.lookup name

/-- `Value::get` with a name: absent unless the value is an object. -/
def get (value : Json) (name : String) : Option Json :=
  value.asObject.bind (fun fields => field fields name)

/-- Two documents have the same value for a reader. The fields of an object have no order, and the
two zeros of a double are one number; an integer and a double are apart even where they denote the
same number, for only one of them is read as an integer. -/
inductive Same : Json → Json → Prop
  | null : Same null null
  | bool (truth : Bool) : Same (bool truth) (bool truth)
  | posInt (magnitude : UInt64) :
      Same (number (.posInt magnitude)) (number (.posInt magnitude))
  | negInt (integer : Int64) : Same (number (.negInt integer)) (number (.negInt integer))
  | float {bits other : UInt64} (equal : doubleValue bits = doubleValue other) :
      Same (number (.float bits)) (number (.float other))
  | string (text : String) : Same (string text) (string text)
  | array {elements others : List Json} (pointwise : List.Forall₂ Same elements others) :
      Same (array elements) (array others)
  | object {fields others : List (String × Json)}
      (named : ∀ name, Option.Rel Same (field fields name) (field others name)) :
      Same (object fields) (object others)

/-- An unsigned integer is read from a value whichever form it has. -/
theorem Same.asU64 {value other : Json} (same : Same value other) : value.asU64 = other.asU64 := by
  cases same <;> rfl

/-- A text is read from a value whichever form it has. -/
theorem Same.asStr {value other : Json} (same : Same value other) : value.asStr = other.asStr := by
  cases same <;> rfl

/-- A reading that related values agree on may be made of related options. -/
theorem bind_congr_of_rel {α β : Type} {relation : α → α → Prop} {read : α → Option β}
    (agrees : ∀ value other, relation value other → read value = read other)
    {option other : Option α} (related : Option.Rel relation option other) :
    option.bind read = other.bind read := by
  cases related with
  | none => rfl
  | some equal => exact agrees _ _ equal

/-- Documents of the same value are objects together, and a number or a text that is read from a
field of one is read from that field of the other. -/
theorem Same.reads {value other : Json} (same : Same value other) :
    value.asObject = none ∧ other.asObject = none ∨
      ∃ fields others, value.asObject = some fields ∧ other.asObject = some others ∧
        (∀ name, (field fields name).bind Json.asU64 = (field others name).bind Json.asU64) ∧
        ∀ name, (field fields name).bind Json.asStr = (field others name).bind Json.asStr := by
  cases same with
  | object named =>
    refine .inr ⟨_, _, rfl, rfl, fun name => ?_, fun name => ?_⟩
    · exact bind_congr_of_rel (fun _ _ equal => equal.asU64) (named name)
    · exact bind_congr_of_rel (fun _ _ equal => equal.asStr) (named name)
  | _ => exact .inl ⟨rfl, rfl⟩

end Json

end SecureDatabase.Foundation
