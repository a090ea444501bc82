import Chatbot.Awk.Number
import Chatbot.Shell.Format

/-!
# Perl's scalars

A scalar is undefined, an integer, a floating-point number (a double), a string, or a
reference to a container of the heap. An integer is signed or unsigned of 64 bits, so it
lies between `-2^63` and `2^64 - 1`.

Arithmetic keeps integers while it can: `+`, `-` and `*` on two integers give an integer when
the exact result is in range, `/` when the division is exact; otherwise the result is a
double. A double that is a whole number below `2^53` counts as an integer here, as a string
of digits does. `**` always gives a double.

A string's number is read from its start: blanks, a sign, decimal digits with a point and an
exponent, or `Inf` and `NaN`; a string with no number in front is `0`. A double is written
with 15 significant digits (`%.15g`), a zero as `0`, an infinity as `Inf`, not-a-number as
`NaN`.

A scalar is false when it is undefined, `0`, the empty string or `"0"`.

`sprintf` formats as C's `printf`, each directive taking the next scalar, with `%b` for
binary; a missing scalar counts as undefined.
-/

namespace Chatbot.Perl

open Chatbot.Shell Chatbot.Awk

/-- What a reference points to. -/
inductive RefKind where
  /-- A scalar. -/
  | scalar
  /-- An array. -/
  | array
  /-- A hash. -/
  | hash
  /-- A subroutine. -/
  | code
  deriving DecidableEq, Repr

/-- The name `ref` gives a kind of reference. -/
def RefKind.name : RefKind → String
  | .scalar => "SCALAR"
  | .array => "ARRAY"
  | .hash => "HASH"
  | .code => "CODE"

/-- A scalar. -/
inductive Scalar where
  /-- Undefined. -/
  | undefined
  /-- An integer, from `-2^63` to `2^64 - 1`. -/
  | int (i : Int)
  /-- A floating-point number. -/
  | num (d : Double)
  /-- A string. -/
  | str (s : Bytes)
  /-- A reference to the container at a place of the heap. -/
  | ref (kind : RefKind) (addr : Nat)
  deriving DecidableEq, Repr

instance : Inhabited Scalar := ⟨.undefined⟩

/-- The least integer. -/
def intMin : Int := -(Nat.pow 2 63 : Int)

/-- One more than the greatest integer. -/
def intBound : Int := (Nat.pow 2 64 : Int)

/-- Whether an integer is in the range of integers. -/
def fitsInt (i : Int) : Bool := intMin ≤ i && i < intBound

/-- An integer as a scalar: an integer when it fits, else a double. -/
def ofIntValue (i : Int) : Scalar := if fitsInt i then .int i else .num (ofInt i)

/-- A truth value as perl gives one: `1`, or the empty string. -/
def boolScalar (b : Bool) : Scalar := if b then .int 1 else .str []

/-- Whether a byte is white space where a number may start. -/
def isNumberBlank (b : UInt8) : Bool := b = 0x20 || (0x09 ≤ b && b ≤ 0x0D)

/-- The number a string stands for. -/
def numberOfString (s : Bytes) : Scalar :=
  let t := s.dropWhile isNumberBlank
  let (neg, u) := match t with
    | 0x2D :: r => (true, r)
    | 0x2B :: r => (false, r)
    | _ => (false, t)
  if startsWithWord u "inf" then .num (.inf neg)
  else if startsWithWord u "nan" then .num (.nan false)
  else
    let n := decimalPrefix t
    if n = 0 then .int 0
    else
      let lit := t.take n
      if lit.any fun b => b = 0x2E || b = 0x65 || b = 0x45 then .num (readCDouble lit).1
      else
        let digits := u.takeWhile isDigit
        let v : Int := digits.foldl (fun acc d => 10 * acc + (d - 0x30).toNat) 0
        let v := if neg then -v else v
        if fitsInt v then .int v else .num (readCDouble lit).1

/-- The address a reference shows as a number. -/
def refAddress (addr : Nat) : Nat := 0x55d0c0a1e000 + 24 * addr

/-- The number of a scalar: an integer or a double. -/
def Scalar.numeric : Scalar → Scalar
  | .undefined => .int 0
  | .int i => .int i
  | .num d => .num d
  | .str s => numberOfString s
  | .ref _ a => .int (refAddress a)

/-- A scalar as a double. -/
def Scalar.toDouble (v : Scalar) : Double :=
  match v.numeric with
  | .int i => ofInt i
  | .num d => d
  | _ => zero

/-- The integer a double stands for exactly, when it is whole and below `2^53`. -/
def exactInt (d : Double) : Option Int :=
  match wholeValue d with
  | some i => if i.natAbs < Nat.pow 2 53 then some i else none
  | none => none

/-- The integer a scalar is, when arithmetic may keep it one. -/
def Scalar.intView (v : Scalar) : Option Int :=
  match v.numeric with
  | .int i => some i
  | .num d => exactInt d
  | _ => none

/-- A double cut toward zero and held in the range of integers. -/
def clampTruncate (d : Double) : Int :=
  match d with
  | .finite neg m e =>
    let (num, den) := magnitude m e
    let v : Int := (num / den : Nat)
    let v := if neg then -v else v
    if v < intMin then intMin else if v ≥ intBound then intBound - 1 else v
  | .inf neg => if neg then intMin else intBound - 1
  | .nan _ => 0

/-- A scalar as an integer, cut toward zero. -/
def Scalar.toInt (v : Scalar) : Int :=
  match v.numeric with
  | .int i => i
  | .num d => clampTruncate d
  | _ => 0

/-- The text of a double: 15 significant digits, `0` for a zero, `Inf` or `NaN`. -/
def doubleText (d : Double) : Bytes :=
  match d with
  | .inf neg => rawOf (if neg then "-Inf" else "Inf")
  | .nan _ => rawOf "NaN"
  | .finite _ m _ => if m = 0 then [0x30] else formatDouble { precision := some 15 } 0x67 d

/-- The text of a reference. -/
def refText (kind : RefKind) (addr : Nat) : Bytes :=
  rawOf (kind.name ++ "(0x") ++ digitsOf 16 false (refAddress addr) ++ [0x29]

/-- The text of a scalar. -/
def Scalar.toText : Scalar → Bytes
  | .undefined => []
  | .int i => rawOf (toString i)
  | .num d => doubleText d
  | .str s => s
  | .ref k a => refText k a

/-- Whether a scalar is true. -/
def Scalar.truth : Scalar → Bool
  | .undefined => false
  | .int i => i != 0
  | .num d => !isZero d
  | .str s => !(s.isEmpty || s = [0x30])
  | .ref _ _ => true

/-- Whether a scalar is defined. -/
def Scalar.defined : Scalar → Bool
  | .undefined => false
  | _ => true

/-! ## Arithmetic -/

/-- `a + b`. -/
def addScalars (a b : Scalar) : Scalar :=
  match a.intView, b.intView with
  | some i, some j => ofIntValue (i + j)
  | _, _ => .num (add a.toDouble b.toDouble)

/-- `a - b`. -/
def subScalars (a b : Scalar) : Scalar :=
  match a.intView, b.intView with
  | some i, some j => ofIntValue (i - j)
  | _, _ => .num (sub a.toDouble b.toDouble)

/-- `a * b`. -/
def mulScalars (a b : Scalar) : Scalar :=
  match a.intView, b.intView with
  | some i, some j => ofIntValue (i * j)
  | _, _ => .num (mul a.toDouble b.toDouble)

/-- `a / b`, when `b` is not zero. -/
def divScalars (a b : Scalar) : Option Scalar :=
  match a.intView, b.intView with
  | some i, some j =>
    if j = 0 then none
    else if i % j = 0 && i.natAbs ≥ j.natAbs then some (ofIntValue (i / j))
    else some (.num (div (ofInt i) (ofInt j)))
  | _, _ => if isZero b.toDouble then none else some (.num (div a.toDouble b.toDouble))

/-- The whole part of a scalar for `%`: an integer, or `none` when it is too large. -/
def modOperand (v : Scalar) : Option Int :=
  match v.numeric with
  | .int i => some i
  | .num d =>
    match d with
    | .finite neg m e =>
      let (num, den) := magnitude m e
      let w : Int := (num / den : Nat)
      let w := if neg then -w else w
      if fitsInt w then some w else none
    | _ => none
  | _ => some 0

/-- `a % b`, with the sign of `b`, when `b` is not zero. -/
def modScalars (a b : Scalar) : Option Scalar :=
  match modOperand a, modOperand b with
  | some i, some j =>
    if j = 0 then none
    else
      let r := i % j.natAbs
      -- `%` on `Int` gives a remainder of the sign of nothing but `0 ≤ r < |j|`
      let r : Int := if j < 0 && r != 0 then r - j.natAbs else r
      some (ofIntValue r)
  | _, _ =>
    let y := b.toDouble
    if isZero y then none
    else
      let r := fmod a.toDouble y
      let r := if !isZero r && signOf r != signOf y then add r y else r
      some (.num r)

/-- `a ** b`. -/
def powScalars (a b : Scalar) : Scalar := .num (power a.toDouble b.toDouble)

/-- Whether a byte is an ASCII letter. -/
def isLetter (b : UInt8) : Bool := (0x41 ≤ b && b ≤ 0x5A) || (0x61 ≤ b && b ≤ 0x7A)

/-- The negation of a scalar's number. -/
def negNumber (a : Scalar) : Scalar :=
  match a.numeric with
  | .int i => ofIntValue (-i)
  | x => .num (negate x.toDouble)

/-- `-a`: a string that begins with a letter or `_` gets a `-` in front, one that begins
with `-` and a letter gets a `+` for it. -/
def negScalar (a : Scalar) : Scalar :=
  match a with
  | .str (c :: rest) =>
    if isLetter c || c = 0x5F then .str (0x2D :: c :: rest)
    else if c = 0x2D then
      match rest with
      | d :: _ => if isLetter d then .str (0x2B :: rest) else negNumber a
      | [] => negNumber a
    else if c = 0x2B then
      match rest with
      | d :: _ => if isLetter d then .str (0x2D :: rest) else negNumber a
      | [] => negNumber a
    else negNumber a
  | .str [] => .int 0
  | _ => negNumber a

/-- Compare as numbers: `none` when one is not a number. -/
def compareNumbers (a b : Scalar) : Option Ordering :=
  match a.intView, b.intView with
  | some i, some j => some (compare i j)
  | _, _ =>
    let p := a.toDouble
    let q := b.toDouble
    match p, q with
    | .nan _, _ | _, .nan _ => none
    | _, _ => some (if less p q then .lt else if less q p then .gt else .eq)

/-- Bytes in order, byte by byte, a prefix first. -/
def byteOrder : Bytes → Bytes → Ordering
  | [], [] => .eq
  | [], _ :: _ => .lt
  | _ :: _, [] => .gt
  | a :: as, b :: bs => if a < b then .lt else if b < a then .gt else byteOrder as bs

/-- Compare as strings, byte by byte. -/
def compareStrings (a b : Scalar) : Ordering := byteOrder a.toText b.toText

/-- The next string of the magic increment: `aa` to `ab`, `az` to `ba`, `zz` to `aaa`,
`a9` to `b0`. -/
def incrementText (s : Bytes) : Bytes :=
  let (r, carry) := go s
  if carry then
    match s.head? with
    | some c =>
      let first : UInt8 :=
        if 0x30 ≤ c && c ≤ 0x39 then 0x31 else if 0x41 ≤ c && c ≤ 0x5A then 0x41 else 0x61
      first :: r
    | none => r
  else r
where
  /-- Increment from the right: the new bytes and whether a carry is left. -/
  go : List UInt8 → List UInt8 × Bool
    | [] => ([], true)
    | c :: rest =>
      let (rest', carry) := go rest
      if !carry then (c :: rest', false)
      else if c = 0x7A then (0x61 :: rest', true)
      else if c = 0x5A then (0x41 :: rest', true)
      else if c = 0x39 then (0x30 :: rest', true)
      else ((c + 1) :: rest', false)

/-- Whether a string takes the magic increment: letters then digits, not empty. -/
def isMagicIncrement (s : Bytes) : Bool :=
  let letters := s.takeWhile isLetter
  !s.isEmpty && (s.drop letters.length).all isDigit

/-- `++` on a scalar. -/
def incrementScalar (a : Scalar) : Scalar :=
  match a with
  | .str s =>
    if isMagicIncrement s && !(s.all isDigit) then .str (incrementText s)
    else addScalars a (.int 1)
  | .undefined => .int 1
  | _ => addScalars a (.int 1)

/-! ## Bits -/

/-- A scalar as 64 bits. -/
def Scalar.toBits (v : Scalar) : Nat :=
  let i := v.toInt
  if i < 0 then (i + intBound).toNat else i.toNat

/-- A shift of 64 bits: left by `k`, right for a negative `k`; bits shifted out are lost. -/
def shiftBits (n : Nat) (k : Int) : Nat :=
  if k ≥ 0 then (if k ≥ 64 then 0 else n * Nat.pow 2 k.toNat % Nat.pow 2 64)
  else if -k ≥ 64 then 0 else n / Nat.pow 2 (-k).toNat

/-! ## Formatting -/

/-- The text of an infinity or not-a-number in a numeric directive. -/
def infNanText (sp : Spec) (d : Double) : Option Bytes :=
  match d with
  | .inf neg =>
    let sign : Bytes := if neg then [0x2D] else if sp.plus then [0x2B] else []
    some (sp.pad (sign ++ rawOf "Inf"))
  | .nan _ => some (sp.pad (rawOf "NaN"))
  | _ => none

/-- Format an integer directive `d` or `i`. -/
def formatInteger (sp : Spec) (v : Scalar) : Bytes :=
  match v.numeric with
  | .num d =>
    match infNanText sp d with
    | some t => t
    | none => formatSigned sp (clampTruncate d)
  | x => formatSigned sp x.toInt

/-- Format an unsigned directive `u`, `o`, `x`, `X`, `b` or `B`. -/
def formatBits (sp : Spec) (conv : UInt8) (v : Scalar) : Bytes :=
  match v.numeric with
  | .num d =>
    match infNanText sp d with
    | some t => t
    | none => go (Scalar.num d).toBits
  | x => go x.toBits
where
  /-- Format the bits. -/
  go (n : Nat) : Bytes :=
    if conv = 0x62 || conv = 0x42 then
      let pre := if sp.alt && n != 0 then rawOf (if conv = 0x42 then "0B" else "0b") else []
      formatNumber sp [] pre (digitsOf 2 false n) (n = 0)
    else formatUnsigned sp conv n

/-- Format scalars as `sprintf` does: `next` is the place of the next argument an implicit
directive takes; `%N$` takes the `N`th and leaves that place. -/
def perlFormat (args : Array Scalar) : Nat → Bytes → Nat → Bytes → Bytes
  | 0, _, _, acc => acc
  | _, [], _, acc => acc
  | fuel + 1, b :: rest, next, acc =>
    if b != 0x25 then perlFormat args fuel rest next (acc ++ [b])
    else
      match rest with
      | 0x25 :: more => perlFormat args fuel more next (acc ++ [0x25])
      | _ =>
        -- an explicit argument: digits and `$`
        let (explicit, afterIndex) : Option Nat × Bytes :=
          match readDecimalBytes rest with
          | (some k, 0x24 :: more) => (some k, more)
          | _ => (none, rest)
        let (sp, afterFlags) := readFlags (afterIndex.length + 1) {} afterIndex
        let arg (k : Nat) : Scalar := args.getD k .undefined
        let (width, afterWidth, next) : Option Int × Bytes × Nat := match afterFlags with
          | 0x2A :: more => (some (arg next).toInt, more, next + 1)
          | _ =>
            let (n, more) := readDecimalBytes afterFlags
            (n.map Int.ofNat, more, next)
        let sp := match width with
          | some w => if w < 0 then { sp with left := true, width := w.natAbs } else { sp with width := w.toNat }
          | none => sp
        let (precision, afterPrecision, next) : Option Nat × Bytes × Nat := match afterWidth with
          | 0x2E :: 0x2A :: more =>
            let p := (arg next).toInt
            (if p < 0 then none else some p.toNat, more, next + 1)
          | 0x2E :: more =>
            let (n, more) := readDecimalBytes more
            (some (n.getD 0), more, next)
          | _ => (none, afterWidth, next)
        let sp := { sp with precision }
        let afterLength := afterPrecision.dropWhile fun c =>
          c = 0x6C || c = 0x68 || c = 0x71 || c = 0x4C || c = 0x56
        match afterLength with
        | [] => acc ++ [0x25] ++ rest
        | c :: more =>
          let (v, next') := match explicit with
            | some k => (arg (k - 1), next)
            | none => (arg next, next + 1)
          let out : Option Bytes :=
            match c with
            | 0x64 | 0x69 => some (formatInteger sp v)
            | 0x75 | 0x6F | 0x78 | 0x58 | 0x62 | 0x42 => some (formatBits sp c v)
            | 0x63 =>
              let code := v.toInt
              let ch : Bytes := if 0 ≤ code && code < 256 then [UInt8.ofNat code.toNat]
                else (String.singleton (Char.ofNat code.toNat)).toUTF8.toList
              some (formatText { sp with precision := none } ch)
            | 0x73 => some (formatText sp v.toText)
            | 0x65 | 0x45 | 0x66 | 0x46 | 0x67 | 0x47 | 0x61 | 0x41 =>
              let d := v.toDouble
              match infNanText sp d with
              | some t => some t
              | none => some (formatDouble sp c d)
            | _ => none
          match out with
          | some o => perlFormat args fuel more next' (acc ++ o)
          | none => perlFormat args fuel more next (acc ++ [0x25] ++ (rest.take (rest.length - more.length)))

/-- `sprintf`. -/
def perlSprintf (fmt : Bytes) (args : List Scalar) : Bytes :=
  perlFormat args.toArray (fmt.length + 1) fmt 0 []

end Chatbot.Perl
