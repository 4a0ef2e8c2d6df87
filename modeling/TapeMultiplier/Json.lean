/-
Module: TapeMultiplier.Json
Layer: Data
Purpose: JSON values.  Integers and floats are kept apart, strings may hold what escapes can spell, and
  the fields of an object keep the order in which they first arrived.
Main exports: Json, Json.ofText, Json.insertField, Json.field?, Json.same, Json.ofFields
-/
import TapeMultiplier.Decimal.Binary
import TapeMultiplier.Text.Raw

namespace TapeMultiplier

/-- A JSON value. -/
inductive Json where
  | null
  | bool (value : Bool)
  | int (value : Int)
  | float (value : Float)
  | string (value : RawText)
  | list (items : List Json)
  | object (fields : List (RawText × Json))
deriving Repr, Inhabited

namespace Json

/-- The string of a text. -/
def ofText (text : String) : Json :=
  string text

/-- Set a field: a known name keeps its place and takes the new value, a new name goes to the end. -/
def insertField (fields : List (RawText × Json)) (name : RawText) (value : Json) :
    List (RawText × Json) :=
  match fields with
  | [] => [(name, value)]
  | field :: rest =>
      if field.1 = name then (name, value) :: rest else field :: insertField rest name value

/-- The object with given fields, where a repeated name keeps its first place and its last value. -/
def ofFields (fields : List (RawText × Json)) : List (RawText × Json) :=
  fields.foldl (fun object field => insertField object field.1 field.2) []

/-- The value of a field. -/
def lookupField (fields : List (RawText × Json)) (name : RawText) : Option Json :=
  (fields.find? fun field => field.1 == name).map (·.2)

/-- The value of a field of an object. -/
def field? : Json → String → Option Json
  | object fields, name => lookupField fields name
  | _, _ => none

/-- Whether an integer and a float are the same number. -/
def sameNumber (value : Int) (x : Float) : Bool :=
  match Magnitude.ofFloat x with
  | (negative, .finite size) =>
      value.natAbs * Nat.pow 2 (-size.exponent).toNat ==
          size.mantissa * Nat.pow 2 size.exponent.toNat &&
        (value == 0 || negative == decide (value < 0))
  | _ => false

/-- The integer that a truth value counts as. -/
def ofBool (value : Bool) : Int :=
  if value then 1 else 0

/-- Whether two scalars are the same: numbers by value, truth values as the numbers 0 and 1.  The
undefined number is the same as itself. -/
def sameScalar : Json → Json → Bool
  | null, null => true
  | string left, string right => left == right
  | bool left, bool right => left == right
  | bool left, int right => ofBool left == right
  | int left, bool right => left == ofBool right
  | bool left, float right => sameNumber (ofBool left) right
  | float left, bool right => sameNumber (ofBool right) left
  | int left, int right => left == right
  | int left, float right => sameNumber left right
  | float left, int right => sameNumber right left
  | float left, float right => left == right || (left.isNaN && right.isNaN)
  | _, _ => false

mutual

/-- Whether two values are the same.  The order of fields does not count. -/
def same : Json → Json → Bool
  | list left, list right => sameItems left right
  | object left, object right => left.length == right.length && sameFields left right
  | left, right => sameScalar left right

/-- Whether two lists hold the same values. -/
def sameItems : List Json → List Json → Bool
  | [], [] => true
  | left :: lefts, right :: rights => same left right && sameItems lefts rights
  | _, _ => false

/-- Whether every field is found with the same value among others. -/
def sameFields : List (RawText × Json) → List (RawText × Json) → Bool
  | [], _ => true
  | (name, value) :: rest, others =>
      (match lookupField others name with
        | some other => same value other
        | none => false) && sameFields rest others

end

/-- Whether two values compare equal.  Only here is an undefined number different from itself. -/
def equal : Json → Json → Bool
  | float left, float right => left == right
  | left, right => same left right

end Json

end TapeMultiplier
