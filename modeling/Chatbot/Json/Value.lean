import Chatbot.Text.Quoted
import Chatbot.Double

/-!
# JSON values

Snapshots of the word model and exported commands are JSON values. A number is an integer,
when it is written without a fraction or an exponent and fits in 64 bits, or else a
floating-point number, kept as its sign, digits and power of ten; object members keep their
order.

Reading a value into a typed form can fail; the failure names what was found and what was
expected, in fixed wording: `invalid type: string "x", expected u64`,
`invalid value: integer -1 (in backticks), expected u64`, `invalid length 1, expected a tuple
of size 2`, `missing field` and `unknown variant` with the names in backticks. A value is
described as `null`, `boolean`, `integer`, `floating point` (with the shortest text of the
double nearest to it, in backticks),
`string` (quoted), `sequence` or `map`.
-/

namespace Chatbot.Json

/-- A JSON number. -/
inductive Number where
  /-- An integer. -/
  | int (i : Int)
  /-- The floating-point number `± digits · 10 ^ exp10`, written with a fraction or an
  exponent, or too large for an integer; `negative` keeps the sign of a zero. -/
  | float (negative : Bool) (digits : Nat) (exp10 : Int)
  deriving DecidableEq, Repr

/-- A JSON value. -/
inductive Value where
  /-- `null`. -/
  | null
  /-- `true` or `false`. -/
  | bool (b : Bool)
  /-- A number. -/
  | num (n : Number)
  /-- A string. -/
  | str (s : String)
  /-- An array. -/
  | arr (xs : List Value)
  /-- An object, members in order. -/
  | obj (kvs : List (String × Value))
  deriving Repr, Inhabited

/-- Why a value could not be read. -/
inductive DecodeError where
  /-- The value has the wrong shape: what was found, what was expected. -/
  | invalidType (found expected : String)
  /-- The value has the right shape and a wrong value. -/
  | invalidValue (found expected : String)
  /-- A sequence or map has the wrong number of elements. -/
  | invalidLength (n : Nat) (expected : String)
  /-- A required member is absent. -/
  | missingField (name : String)
  /-- A name is none of the allowed ones. -/
  | unknownVariant (name : String) (allowed : List String)
  deriving DecidableEq, Repr

/-- Names in backticks: `a`; `a` or `b`; one of `a`, `b`, `c`. -/
def allowedText : List String → String
  | [] => "there are no variants"
  | [a] => s!"expected `{a}`"
  | [a, b] => s!"expected `{a}` or `{b}`"
  | names => "expected one of " ++ ", ".intercalate (names.map fun n => s!"`{n}`")

/-- The message of a reading failure. -/
def DecodeError.message : DecodeError → String
  | .invalidType f e => s!"invalid type: {f}, expected {e}"
  | .invalidValue f e => s!"invalid value: {f}, expected {e}"
  | .invalidLength n e => s!"invalid length {n}, expected {e}"
  | .missingField n => s!"missing field `{n}`"
  | .unknownVariant n allowed => s!"unknown variant `{n}`, {allowedText allowed}"

/-- The text of a floating-point number: that of the double nearest to it. -/
def floatText (negative : Bool) (digits : Nat) (exp10 : Int) : String :=
  match doubleOfDecimal negative digits exp10 with
  | some (.finite n m e) => doubleText n m e
  | _ => if negative then "-inf" else "inf"

/-- Whether an integer is one a 64-bit reader takes as an integer. -/
def isWordInt (i : Int) : Bool := -(Nat.pow 2 63 : Int) ≤ i && i < (Nat.pow 2 64 : Int)

/-- How a value is named in a failure. -/
def Value.unexpected : Value → String
  | .null => "null"
  | .bool b => s!"boolean `{b}`"
  | .num (.int i) =>
    if isWordInt i then s!"integer `{i}`" else s!"floating point `{floatText (i < 0) i.natAbs 0}`"
  | .num (.float n d e) => s!"floating point `{floatText n d e}`"
  | .str s => "string " ++ Chatbot.Text.quote s
  | .arr _ => "sequence"
  | .obj _ => "map"

/-- The member of an object with a key. -/
def lookupMember (kvs : List (String × Value)) (k : String) : Option Value :=
  (kvs.find? fun kv => kv.1 == k).map (·.2)

end Chatbot.Json
