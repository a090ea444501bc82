/-!
# Doubles

A double is kept exactly, as `m · 2^e` with a sign, or as an infinity or not a number.
Reading a rational rounds it to the nearest double, ties to even; a value too large has no
double, one too small becomes zero or a subnormal.

The shortest text of a double is the decimal with the fewest significant digits that reads
back as the same double; among those of that length, the nearest one. Rounding the exact
value to `p` significant digits gives the nearest `p`-digit decimal, so trying `p = 1, 2, …`
finds it. It is written positionally when its magnitude lies between `10^-5` and `10^16`
(with `.0` when it is whole), and otherwise as one digit, a fraction and an exponent with
its sign: `1e+16`, `1.5e-7`.
-/

namespace Chatbot

/-- A double: finite as `m · 2^e` (`neg` for its sign), infinite, or not a number. -/
inductive Double where
  /-- `± m · 2^e`. -/
  | finite (neg : Bool) (m : Nat) (e : Int)
  /-- `± ∞`. -/
  | inf (neg : Bool)
  /-- Not a number. -/
  | nan (neg : Bool)
  deriving DecidableEq, Repr

/-- `a / b` rounded to the nearest integer, ties to even. -/
def roundHalfEven (a b : Nat) : Nat :=
  let q := a / b
  let r := a % b
  if 2 * r > b || (2 * r = b && q % 2 = 1) then q + 1 else q

/-- A rational as a numerator and denominator scaled by a power of two. -/
def scaleByTwo (p q : Nat) (e : Int) : Nat × Nat :=
  if 0 ≤ e then (p, q * Nat.pow 2 e.toNat) else (p * Nat.pow 2 (-e).toNat, q)

/-- A binary floating-point format: the bits of its significand, and the least and the
greatest exponent of the significand's last bit (the least one being that of the subnormal
numbers). -/
structure BinaryFormat where
  /-- Bits of the significand. -/
  bits : Nat
  /-- The exponent of the last bit of the subnormal numbers. -/
  minExp : Int
  /-- The exponent of the last bit of the largest numbers. -/
  maxExp : Int
  deriving DecidableEq, Repr

/-- Doubles: 53 bits, from `2^-1074` to below `2^1024`. -/
def BinaryFormat.double : BinaryFormat := ⟨53, -1074, 971⟩

/-- The 80-bit extended format: 64 bits, from `2^-16445` to below `2^16384`. -/
def BinaryFormat.extended : BinaryFormat := ⟨64, -16445, 16320⟩

/-- The number of the format nearest to `p / q` (both positive): its significand, its
exponent and whether it is `p / q` exactly, or `none` when it is too large. -/
def nearestIn (f : BinaryFormat) (p q : Nat) : Option (Nat × Int × Bool) :=
  let k : Int := (Nat.log2 p : Int) - (Nat.log2 q : Int)
  let pick (e : Int) : Nat × Nat × Nat :=
    let (num, den) := scaleByTwo p q e
    (num / den, num % den, den)
  let e0 := max (k - (f.bits - 1 : Nat)) f.minExp
  let (m0, _, _) := pick e0
  let e := if m0 < Nat.pow 2 (f.bits - 1) && e0 > f.minExp then max (e0 - 1) f.minExp else e0
  let (m, r, den) := pick e
  let m := if 2 * r > den || (2 * r = den && m % 2 = 1) then m + 1 else m
  let (m, e) := if m = Nat.pow 2 f.bits then (Nat.pow 2 (f.bits - 1), e + 1) else (m, e)
  if e > f.maxExp then none else some (m, e, r = 0)

/-- The double nearest to `p / q` (both positive): its mantissa, its exponent and whether it
is `p / q` exactly, or `none` when it is too large. -/
def nearestDouble (p q : Nat) : Option (Nat × Int × Bool) := nearestIn .double p q

/-- The smallest `d` with `num / den < 10 ^ d`, for positive `num` and `den`. -/
def decimalMagnitude (num den : Nat) : Int :=
  if num ≥ den then (toString (num / den)).length
  else
    let rec firstPower : Nat → Nat → Nat
      | 0, j => j
      | fuel + 1, j => if num * Nat.pow 10 j ≥ den then j else firstPower fuel (j + 1)
    1 - (firstPower 1200 1 : Int)

/-- `num / den` rounded to `p` significant digits, its magnitude being `d`: the digits as a
number and the magnitude of the result, one more when rounding carried. -/
def roundToDigits (num den : Nat) (d : Int) (p : Nat) : Nat × Int :=
  let shift : Int := (p : Int) - d
  let digits := if 0 ≤ shift then roundHalfEven (num * Nat.pow 10 shift.toNat) den
    else roundHalfEven num (den * Nat.pow 10 (-shift).toNat)
  if digits = Nat.pow 10 p then (Nat.pow 10 (p - 1), d + 1) else (digits, d)

/-- The rational `digits · 10 ^ (d - p)` as a numerator and a denominator. -/
def scaledDecimal (digits : Nat) (d : Int) (p : Nat) : Nat × Nat :=
  let k : Int := d - p
  if 0 ≤ k then (digits * Nat.pow 10 k.toNat, 1) else (digits, Nat.pow 10 (-k).toNat)

/-- The shortest decimal digits that read back as the positive double `m · 2^e`, and their
magnitude `d`: the double is nearest to `0.digits · 10^d`. -/
def shortestDigits (m : Nat) (e : Int) : List Char × Int :=
  let (num, den) := if 0 ≤ e then (m * Nat.pow 2 e.toNat, 1) else (m, Nat.pow 2 (-e).toNat)
  let d := decimalMagnitude num den
  let tryDigits (p : Nat) : Option (Nat × Int) :=
    let (digits, d') := roundToDigits num den d p
    let (a, b) := scaledDecimal digits d' p
    match nearestDouble a b with
    | some (m', e', _) => if m' = m && e' = e then some (digits, d') else none
    | none => none
  let found := ((List.range 17).map (· + 1)).findSome? tryDigits
  let (digits, d') := found.getD (roundToDigits num den d 17)
  let text := (toString digits).toList
  ((text.reverse.dropWhile (· = '0')).reverse, d')

/-- The text of the double `± m · 2^e`: positional for magnitudes from `10^-5` to below
`10^16`, with `.0` when whole, and otherwise in exponent form such as `1e+16`. -/
def doubleText (neg : Bool) (m : Nat) (e : Int) : String :=
  let sign := if neg then "-" else ""
  if m = 0 then sign ++ "0.0"
  else
    let (ds, kk) := shortestDigits m e
    let len : Int := ds.length
    let zeros (n : Int) : List Char := List.replicate n.toNat '0'
    let body : List Char :=
      if 0 ≤ kk - len && kk ≤ 16 then ds ++ zeros (kk - len) ++ ['.', '0']
      else if 0 < kk && kk ≤ 16 then ds.take kk.toNat ++ ['.'] ++ ds.drop kk.toNat
      else if -5 < kk && kk ≤ 0 then ['0', '.'] ++ zeros (-kk) ++ ds
      else
        let x := kk - 1
        ds.take 1 ++ (if ds.length > 1 then '.' :: ds.drop 1 else []) ++ ['e'] ++
          (if 0 ≤ x then ['+'] else ['-']) ++ (toString x.natAbs).toList
    sign ++ String.ofList body

/-- The double nearest to `± digits · 10^exp10`, `none` when it is too large. -/
def doubleOfDecimal (neg : Bool) (digits : Nat) (exp10 : Int) : Option Double :=
  if digits = 0 then some (.finite neg 0 0)
  else
    let (a, b) := if 0 ≤ exp10 then (digits * Nat.pow 10 exp10.toNat, 1)
      else (digits, Nat.pow 10 (-exp10).toNat)
    (nearestDouble a b).map fun (m, e, _) => .finite neg m e

end Chatbot
