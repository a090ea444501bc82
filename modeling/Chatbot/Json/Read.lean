import Chatbot.Json.Value

/-!
# Reading typed values from JSON

Small readers for the shapes that snapshots and exported commands use. Each refuses a value of
the wrong shape with the wording of `DecodeError`.

An object is read member by member in its order; a member's value is read when its key is met,
so of two bad members the first one is reported. Members with other keys are skipped. Missing
members are reported after all are read, in the order the form declares them.

A form may also be written as an array of its members in declared order; a missing required
member is then an `invalid length`, and extra elements are refused.
-/

namespace Chatbot.Json

/-- Read a string. -/
def readString : Value → Except DecodeError String
  | .str s => .ok s
  | j => .error (.invalidType j.unexpected "a string")

/-- Read a boolean. -/
def readBool : Value → Except DecodeError Bool
  | .bool b => .ok b
  | j => .error (.invalidType j.unexpected "a boolean")

/-- Read an unsigned integer of `bits` bits, named `name` in failures. -/
def readUnsigned (bits : Nat) (name : String) : Value → Except DecodeError Nat
  | .num (.int i) =>
    if 0 ≤ i ∧ i < (Nat.pow 2 bits : Int) then .ok i.toNat
    else if isWordInt i then .error (.invalidValue s!"integer `{i}`" name)
    else .error (.invalidType (Value.num (.int i)).unexpected name)
  | j => .error (.invalidType j.unexpected name)

/-- Read a 64-bit unsigned integer. -/
def readWord (j : Value) : Except DecodeError UInt64 :=
  (readUnsigned 64 "u64" j).map Nat.toUInt64

/-- Read a value that may be `null`. -/
def readOption {α : Type} (read : Value → Except DecodeError α) : Value → Except DecodeError (Option α)
  | .null => .ok none
  | j => (read j).map some

/-- Read one of the named constants, written as its name or as an object with its name as
the only key and `null` as value. -/
def readNamed {α : Type} (choices : List (String × α)) : Value → Except DecodeError α
  | .str s =>
    match choices.lookup s with
    | some a => .ok a
    | none => .error (.unknownVariant s (choices.map (·.1)))
  | .obj [(k, v)] =>
    match choices.lookup k with
    | none => .error (.unknownVariant k (choices.map (·.1)))
    | some a =>
      match v with
      | .null => .ok a
      | j => .error (.invalidType j.unexpected "unit")
  | .obj _ => .error (.invalidValue "map" "map with a single key")
  | j => .error (.invalidType j.unexpected "string or map")

/-- Read the elements of an array with one reader. -/
def readList {α : Type} (read : Value → Except DecodeError α) (expected : String) :
    Value → Except DecodeError (List α)
  | .arr xs => xs.mapM read
  | j => .error (.invalidType j.unexpected expected)

/-- Refuse extra elements after an array form was read. -/
def noExtra (xs : List Value) (used : Nat) : Except DecodeError Unit :=
  if xs.length > used then .error (.invalidLength xs.length "fewer elements in array")
  else .ok ()

end Chatbot.Json
