import Chatbot.Shell.Floating

/-!
# Extended-precision arithmetic

Some tools compute with C's `long double`, which on the machines they run on is the 80-bit
extended format: a 64-bit significand, and exponents from `2^-16445` (the least subnormal)
to below `2^16384`. A number of the format is kept exactly, as a `Double` value
`± m · 2^e` whose significand has at most 64 bits.

A sum or a product is computed exactly and then rounded to the nearest number of the
format, ties to even; one too large becomes infinite. A sum that is exactly zero is `+0`,
unless both terms are `-0`.
-/

namespace Chatbot.Shell

/-- The number of the extended format nearest to `± num / den`. -/
def roundExtended (neg : Bool) (num den : Nat) : Double :=
  if num = 0 then .finite neg 0 0
  else
    match nearestIn .extended num den with
    | some (m, e, _) => .finite neg m e
    | none => .inf neg

/-- A whole number in the extended format. -/
def extendedOfNat (n : Nat) : Double := roundExtended false n 1

/-- The sum of two numbers of the extended format, rounded. -/
def extendedAdd (a b : Double) : Double :=
  match a, b with
  | .nan n, _ => .nan n
  | _, .nan n => .nan n
  | .inf n1, .inf n2 => if n1 == n2 then .inf n1 else .nan true
  | .inf n, _ => .inf n
  | _, .inf n => .inf n
  | .finite n1 m1 e1, .finite n2 m2 e2 =>
    let e := min e1 e2
    let v1 : Int := (m1 * Nat.pow 2 (e1 - e).toNat : Nat)
    let v2 : Int := (m2 * Nat.pow 2 (e2 - e).toNat : Nat)
    let s := (if n1 then -v1 else v1) + (if n2 then -v2 else v2)
    if s = 0 then .finite (n1 && n2) 0 0
    else
      let (num, den) := magnitude s.natAbs e
      roundExtended (s < 0) num den

/-- The product of two numbers of the extended format, rounded. -/
def extendedMul (a b : Double) : Double :=
  match a, b with
  | .nan n, _ => .nan n
  | _, .nan n => .nan n
  | .inf n1, .finite n2 m _ => if m = 0 then .nan true else .inf (n1 != n2)
  | .finite n1 m _, .inf n2 => if m = 0 then .nan true else .inf (n1 != n2)
  | .inf n1, .inf n2 => .inf (n1 != n2)
  | .finite n1 m1 e1, .finite n2 m2 e2 =>
    let (num, den) := magnitude (m1 * m2) (e1 + e2)
    roundExtended (n1 != n2) num den

/-- A number as a signed numerator over a positive denominator, when it is finite. -/
def ratioOf : Double → Option (Int × Nat)
  | .finite neg m e =>
    let (num, den) := magnitude m e
    some (if neg then -(num : Int) else num, den)
  | _ => none

/-- Whether `a < b`; never for a number that is not one. -/
def extendedLess (a b : Double) : Bool :=
  match a, b with
  | .nan _, _ | _, .nan _ => false
  | .inf n1, .inf n2 => n1 && !n2
  | .inf n, _ => n
  | _, .inf n => !n
  | _, _ =>
    match ratioOf a, ratioOf b with
    | some (p1, q1), some (p2, q2) => p1 * q2 < p2 * q1
    | _, _ => false

/-- Whether `a = b` as numbers: `-0` equals `+0`, and a number that is not one equals
nothing. -/
def extendedEqual (a b : Double) : Bool :=
  match a, b with
  | .nan _, _ | _, .nan _ => false
  | .inf n1, .inf n2 => n1 == n2
  | .inf _, _ | _, .inf _ => false
  | _, _ =>
    match ratioOf a, ratioOf b with
    | some (p1, q1), some (p2, q2) => p1 * q2 == p2 * q1
    | _, _ => false

end Chatbot.Shell
