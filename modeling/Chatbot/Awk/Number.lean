import Chatbot.Shell.Extended

/-!
# Numbers of awk

awk computes with doubles. A double is kept exactly, as in `Chatbot.Double`, and each
operation computes its exact result and rounds it to the nearest double, ties to even, as the
machine does: `+`, `-`, `*`, `/`, the remainder `%` (which is exact) and powers with a whole
exponent. Division by zero gives an infinity, and an operation without a value (`0/0`, `∞-∞`,
a remainder by zero) gives the machine's default not-a-number, whose sign bit is set.

The functions of the C library (`sqrt`, `exp`, `log`, `sin`, `cos`, `atan2`, and powers with
a fractional exponent) are the machine's: the double goes to a `Float` through its 64 bits and
comes back the same way.

Text becomes a number as awk reads it: blanks, a sign, decimal digits with a point and an
exponent, as much of that as is there; text with no number in front is `0`. A text *looks
numeric* when all of it, blanks aside, is such a number.
-/

namespace Chatbot.Awk

open Chatbot.Shell

/-- The double nearest to `± num / den`, infinite when it is too large. -/
def nearestValue (neg : Bool) (num den : Nat) : Double :=
  if num = 0 then .finite neg 0 0
  else
    match nearestDouble num den with
    | some (m, e, _) => .finite neg m e
    | none => .inf neg

/-- Zero. -/
def zero : Double := .finite false 0 0

/-- The double of an integer. -/
def ofInt (i : Int) : Double := nearestValue (i < 0) i.natAbs 1

/-- The double of a natural number. -/
def ofNat (n : Nat) : Double := nearestValue false n 1

/-- The default not-a-number of the machine, which an invalid operation gives. -/
def invalid : Double := .nan true

/-- The number with its sign changed. -/
def negate : Double → Double
  | .finite n m e => .finite (!n) m e
  | .inf n => .inf (!n)
  | .nan n => .nan (!n)

/-- Whether a number is a zero of either sign. -/
def isZero : Double → Bool
  | .finite _ m _ => m = 0
  | _ => false

/-- Whether the sign of a number is set. -/
def signOf : Double → Bool
  | .finite n _ _ | .inf n | .nan n => n

/-- The sum of two numbers. An exact zero is `+0` unless both terms are `-0`. -/
def add (a b : Double) : Double :=
  match a, b with
  | .nan n, _ => .nan n
  | _, .nan n => .nan n
  | .inf n1, .inf n2 => if n1 == n2 then .inf n1 else invalid
  | .inf n, _ => .inf n
  | _, .inf n => .inf n
  | .finite n1 _ _, .finite n2 _ _ =>
    match ratioOf a, ratioOf b with
    | some (p1, q1), some (p2, q2) =>
      let p := p1 * q2 + p2 * q1
      if p = 0 then .finite (n1 && n2) 0 0 else nearestValue (p < 0) p.natAbs (q1 * q2)
    | _, _ => invalid

/-- The difference of two numbers. -/
def sub (a b : Double) : Double := add a (negate b)

/-- The product of two numbers. -/
def mul (a b : Double) : Double :=
  match a, b with
  | .nan n, _ => .nan n
  | _, .nan n => .nan n
  | .inf n1, .inf n2 => .inf (n1 != n2)
  | .inf n1, .finite n2 m _ | .finite n2 m _, .inf n1 => if m = 0 then invalid else .inf (n1 != n2)
  | .finite n1 _ _, .finite n2 _ _ =>
    match ratioOf a, ratioOf b with
    | some (p1, q1), some (p2, q2) => nearestValue (n1 != n2) (p1 * p2).natAbs (q1 * q2)
    | _, _ => invalid

/-- The quotient of two numbers; by zero it is infinite, or invalid for a zero or an infinity
divided. -/
def div (a b : Double) : Double :=
  match a, b with
  | .nan n, _ => .nan n
  | _, .nan n => .nan n
  | .inf _, .inf _ => invalid
  | .inf n1, .finite n2 _ _ => .inf (n1 != n2)
  | .finite n1 _ _, .inf n2 => .finite (n1 != n2) 0 0
  | .finite n1 m1 _, .finite n2 m2 _ =>
    if m2 = 0 then (if m1 = 0 then invalid else .inf (n1 != n2))
    else
      match ratioOf a, ratioOf b with
      | some (p1, q1), some (p2, q2) => nearestValue (n1 != n2) (p1.natAbs * q2) (q1 * p2.natAbs)
      | _, _ => invalid

/-- The remainder of `a` divided by `b`, with the sign of `a`, as C's `fmod` gives it: exact. -/
def fmod (a b : Double) : Double :=
  match a, b with
  | .nan n, _ => .nan n
  | _, .nan n => .nan n
  | .inf _, _ => invalid
  | .finite _ _ _, .inf _ => a
  | .finite n1 _ _, .finite _ m2 _ =>
    if m2 = 0 then invalid
    else
      match ratioOf a, ratioOf b with
      | some (p1, q1), some (p2, q2) =>
        -- |a| = x / q1 q2 and |b| = y / q1 q2
        let x := p1.natAbs * q2
        let y := p2.natAbs * q1
        nearestValue n1 (x % y) (q1 * q2)
      | _, _ => invalid

/-- Whether `a < b`; never when one is not a number. -/
def less (a b : Double) : Bool := extendedLess a b

/-- Whether `a = b` as numbers. -/
def equal (a b : Double) : Bool := extendedEqual a b

/-- The whole number a finite number is, if it is one. -/
def wholeValue : Double → Option Int
  | .finite neg m e =>
    if 0 ≤ e then some ((if neg then -1 else 1) * ((m * Nat.pow 2 e.toNat : Nat) : Int))
    else
      let d := Nat.pow 2 (-e).toNat
      if m % d = 0 then some ((if neg then -1 else 1) * ((m / d : Nat) : Int)) else none
  | _ => none

/-- The number rounded toward zero to a whole number, as C converts a double to an integer
held at `±(2^63 - 1)`; not-a-number gives the lower limit. -/
def truncate (d : Double) : Int :=
  let limit : Int := Nat.pow 2 63 - 1
  match d with
  | .finite neg m e =>
    let (num, den) := magnitude m e
    let v : Int := (num / den : Nat)
    let v := if neg then -v else v
    if v > limit then limit else if v < -limit then -limit else v
  | .inf neg => if neg then -limit else limit
  | .nan _ => -limit

/-- The number rounded toward zero, as a double: awk's `int`. -/
def truncateValue : Double → Double
  | .finite neg m e =>
    let (num, den) := magnitude m e
    nearestValue neg (num / den) 1
  | d => d

/-! ## The machine's functions -/

/-- The double a `Float` holds, read from its bits. -/
def ofFloat (f : Float) : Double :=
  let bits := f.toBits.toNat
  let neg := bits / Nat.pow 2 63 % 2 = 1
  let ex := bits / Nat.pow 2 52 % 2048
  let frac := bits % Nat.pow 2 52
  if ex = 2047 then (if frac = 0 then .inf neg else .nan neg)
  else if ex = 0 then .finite neg frac (-1074)
  else .finite neg (frac + Nat.pow 2 52) ((ex : Int) - 1075)

/-- The `Float` of a double, through its bits. -/
def toFloat (d : Double) : Float :=
  let signBit (neg : Bool) : Nat := if neg then Nat.pow 2 63 else 0
  let bits : Nat := match d with
    | .inf neg => signBit neg + 2047 * Nat.pow 2 52
    | .nan neg => signBit neg + 2047 * Nat.pow 2 52 + Nat.pow 2 51
    | .finite neg m e =>
      if m = 0 then signBit neg
      else
        let (num, den) := magnitude m e
        match nearestDouble num den with
        | some (m', e', _) =>
          if m' ≥ Nat.pow 2 52 then signBit neg + (e' + 1075).toNat * Nat.pow 2 52 + (m' - Nat.pow 2 52)
          else signBit neg + m'
        | none => signBit neg + 2047 * Nat.pow 2 52
  Float.ofBits (UInt64.ofNat bits)

/-- A function of the C library on one double. -/
def machine (f : Float → Float) (d : Double) : Double := ofFloat (f (toFloat d))

/-- `a` to the power `b`, as C's `pow` gives it: exact then rounded for a whole exponent of
moderate size, else the machine's. -/
def power (a b : Double) : Double :=
  match wholeValue b with
  | some 0 => ofNat 1
  | some k =>
    if k.natAbs ≤ 1100 then
      match a with
      | .finite neg _ _ =>
        match ratioOf a with
        | some (p, q) =>
          let n := k.natAbs
          let num := Nat.pow p.natAbs n
          let den := Nat.pow q n
          let neg := neg && n % 2 = 1
          if num = 0 then (if k < 0 then .inf neg else .finite neg 0 0)
          else if k < 0 then nearestValue neg den num
          else nearestValue neg num den
        | none => ofFloat (Float.pow (toFloat a) (toFloat b))
      | _ => ofFloat (Float.pow (toFloat a) (toFloat b))
    else ofFloat (Float.pow (toFloat a) (toFloat b))
  | none => ofFloat (Float.pow (toFloat a) (toFloat b))

/-! ## Text and numbers -/

/-- Whether a byte is a decimal digit. -/
def isDigit (b : UInt8) : Bool := 0x30 ≤ b && b ≤ 0x39

/-- How many bytes of a decimal number (a sign, digits with a point, an exponent) stand at the
start of some bytes; `0` when there are no digits. -/
def decimalPrefix (s : Bytes) : Nat :=
  let signLen := match s with
    | 0x2B :: _ | 0x2D :: _ => 1
    | _ => 0
  let t := s.drop signLen
  let whole := (t.takeWhile isDigit).length
  let t := t.drop whole
  let (fracLen, t) := match t with
    | 0x2E :: r =>
      let f := (r.takeWhile isDigit).length
      (f + 1, r.drop f)
    | _ => (0, t)
  let digits := whole + (if fracLen > 0 then fracLen - 1 else 0)
  if digits = 0 then 0
  else
    let expLen := match t with
      | e :: r =>
        if e = 0x65 || e = 0x45 then
          let sgn := match r with
            | 0x2B :: _ | 0x2D :: _ => 1
            | _ => 0
          let ds := ((r.drop sgn).takeWhile isDigit).length
          if ds = 0 then 0 else 1 + sgn + ds
        else 0
      | [] => 0
    signLen + whole + fracLen + expLen

/-- Whether a byte is white space in C. -/
def isSpace (b : UInt8) : Bool := b = 0x20 || (0x09 ≤ b && b ≤ 0x0D)

/-- The number text is, as awk reads it: the decimal number after any blanks, `0` if there is
none. -/
def numberOfText (s : Bytes) : Double :=
  let t := s.dropWhile isSpace
  let n := decimalPrefix t
  if n = 0 then zero else (readCDouble (t.take n)).1

/-- The number a text stands for when all of it, blanks aside, is a decimal number. -/
def numericText (s : Bytes) : Option Double :=
  let t := s.dropWhile isSpace
  let n := decimalPrefix t
  if n = 0 then none
  else if (t.drop n).all isSpace then some (readCDouble (t.take n)).1
  else none

end Chatbot.Awk
