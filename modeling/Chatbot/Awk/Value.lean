import Chatbot.Awk.Number
import Chatbot.Shell.Format

/-!
# Values of awk

A value is a number, a string, a string read from the input that looks numeric (a field, a
line read by `getline`, an element made by `split`), or the value of a variable never assigned,
which is both `""` and `0`.

A number becomes text by its digits when it is whole and less than `2^63` in size, and
otherwise by the format `CONVFMT` (`OFMT` when `print` writes it), `%.6g` unless changed.

Two values compare as numbers when neither is a string proper, and otherwise as text, byte by
byte. A value is true when it is a non-zero number or a non-empty string.

`sprintf` formats as C's `printf` does, each directive taking the next value: `%d`, `%i`
(whole numbers, cut toward zero), `%o`, `%x`, `%X`, `%u` (as unsigned 64-bit numbers), `%c`
(the byte of a number, or the first byte of a string), `%s`, and `%e`, `%f`, `%g` in both
cases; `*` takes a width or precision from the values.
-/

namespace Chatbot.Awk

open Chatbot.Shell

/-- A value of awk. -/
inductive Value where
  /-- A number. -/
  | num (d : Double)
  /-- A string. -/
  | str (s : Bytes)
  /-- A string from the input that looks numeric: it compares as its number. -/
  | strnum (s : Bytes) (d : Double)
  /-- The value of a variable never assigned: both `""` and `0`. -/
  | uninit
  deriving DecidableEq, Repr

/-- A value read from the input: a number too when it looks numeric. -/
def Value.ofInput (s : Bytes) : Value :=
  match numericText s with
  | some d => .strnum s d
  | none => .str s

/-- The number of a value. -/
def Value.toNumber : Value → Double
  | .num d => d
  | .str s => numberOfText s
  | .strnum _ d => d
  | .uninit => zero

/-- Whether a value is true: a non-zero number or a non-empty string. -/
def Value.truth : Value → Bool
  | .num d | .strnum _ d => !isZero d
  | .str s => !s.isEmpty
  | .uninit => false

/-- Whether a value compares as a number. -/
def Value.numeric : Value → Bool
  | .str _ => false
  | _ => true

/-! ## Formatting -/

/-- The digits of a whole number, with its sign. -/
def intText (i : Int) : Bytes := bytesOf (toString i)

/-- A number as an unsigned 64-bit integer, as C converts a double for `%u`, `%o` and `%x`. -/
def unsignedOf (d : Double) : Nat :=
  let v := truncate d
  if v < 0 then (v + (Nat.pow 2 64 : Int)).toNat else v.toNat

/-- The byte `%c` writes for a number. -/
def charOfNumber (d : Double) : UInt8 := UInt8.ofNat ((truncate d) % 256).toNat

/-- The state of formatting: the values left, and the error of a value missing. -/
structure FormatRun where
  /-- The values not yet taken. -/
  args : List Value
  /-- The text written. -/
  out : Bytes := []
  /-- Whether a directive found no value. -/
  short : Bool := false

/-- Take the next value. -/
def FormatRun.next (st : FormatRun) : Value × FormatRun :=
  match st.args with
  | a :: rest => (a, { st with args := rest })
  | [] => (.uninit, { st with short := true })

/-- Read a width or precision: digits, or `*` for the next value. -/
def readCount (st : FormatRun) (bs : Bytes) : Option Int × Bytes × FormatRun :=
  match bs with
  | 0x2A :: rest =>
    let (v, st) := st.next
    (some (truncate v.toNumber), rest, st)
  | _ =>
    let (n, rest) := readDecimalBytes bs
    (n.map Int.ofNat, rest, st)

/-- Format values as `printf` does, numbers written as text by `numText`. -/
def formatValues (numText : Double → Bytes) : Nat → Bytes → FormatRun → FormatRun
  | 0, _, st => st
  | _, [], st => st
  | fuel + 1, b :: rest, st =>
    if b != 0x25 then formatValues numText fuel rest { st with out := st.out ++ [b] }
    else
      match rest with
      | 0x25 :: more => formatValues numText fuel more { st with out := st.out ++ [0x25] }
      | _ =>
        let (sp, afterFlags) := readFlags (rest.length + 1) {} rest
        let (width, afterWidth, st) := readCount st afterFlags
        let sp := match width with
          | some w => if w < 0 then { sp with left := true, width := w.natAbs } else { sp with width := w.toNat }
          | none => sp
        let (precision, afterPrecision, st) := match afterWidth with
          | 0x2E :: more =>
            let (p, more, st) := readCount st more
            (some (p.getD 0), more, st)
          | _ => (none, afterWidth, st)
        let sp := match precision with
          | some p => if p < 0 then sp else { sp with precision := some p.toNat }
          | none => sp
        -- length modifiers change nothing
        let afterLength := afterPrecision.dropWhile fun c => c = 0x6C || c = 0x68 || c = 0x4C || c = 0x71
        match afterLength with
        | [] => { st with out := st.out ++ [0x25] ++ rest }
        | c :: more =>
          let text (st : FormatRun) : Bytes × FormatRun :=
            let (v, st) := st.next
            match c with
            | 0x64 | 0x69 => (formatSigned sp (truncate v.toNumber), st)
            | 0x6F | 0x78 | 0x58 | 0x75 => (formatUnsigned sp c (unsignedOf v.toNumber), st)
            | 0x63 =>
              match v with
              | .str s => (formatText { sp with precision := none } (s.take 1), st)
              | .uninit => (formatText { sp with precision := none } [], st)
              | _ => (formatText { sp with precision := none } [charOfNumber v.toNumber], st)
            | 0x73 =>
              match v with
              | .num d => (formatText sp (numText d), st)
              | .str s | .strnum s _ => (formatText sp s, st)
              | .uninit => (formatText sp [], st)
            | _ => (formatDouble sp c v.toNumber, st)
          if (bytesOf "diouxXcseEfFgGaA").contains c then
            let (t, st) := text st
            formatValues numText fuel more { st with out := st.out ++ t }
          else
            formatValues numText fuel more { st with out := st.out ++ [0x25] ++ (rest.take (rest.length - more.length)) }

/-- A number formatted by a format with its one directive, without the whole-number rule. -/
def plainNumberText (fmt : Bytes) (d : Double) : Bytes :=
  (formatValues (fun d => formatDouble { precision := some 6 } 0x67 d) (fmt.length + 1) fmt
    { args := [.num d] }).out

/-- The text of a number: the digits of a whole number of less than `2^63` in size, else the
number formatted by `fmt` (`CONVFMT` or `OFMT`). -/
def numberText (fmt : Bytes) (d : Double) : Bytes :=
  match wholeValue d with
  | some i => if i.natAbs < Nat.pow 2 63 then intText i else plainNumberText fmt d
  | none => plainNumberText fmt d

/-- The text of a value, a number written with the format `fmt`. -/
def Value.toText (fmt : Bytes) : Value → Bytes
  | .num d => numberText fmt d
  | .str s | .strnum s _ => s
  | .uninit => []

/-- Format values as `sprintf` does: the text, and whether a value was missing. -/
def sprintf (convfmt : Bytes) (fmt : Bytes) (args : List Value) : Bytes × Bool :=
  let st := formatValues (numberText convfmt) (fmt.length + 1) fmt { args }
  (st.out, st.short)

/-! ## Comparing -/

/-- Compare byte strings in byte order. -/
def compareBytes : Bytes → Bytes → Ordering
  | [], [] => .eq
  | [], _ => .lt
  | _, [] => .gt
  | a :: as, b :: bs => if a < b then .lt else if b < a then .gt else compareBytes as bs

/-- Compare two values: as numbers when neither is a string proper, else as text. -/
def compareValues (convfmt : Bytes) (a b : Value) : Ordering :=
  if a.numeric && b.numeric then
    let x := a.toNumber
    let y := b.toNumber
    if less x y then .lt else if less y x then .gt else .eq
  else compareBytes (a.toText convfmt) (b.toText convfmt)

end Chatbot.Awk
