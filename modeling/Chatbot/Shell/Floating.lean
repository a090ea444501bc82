import Chatbot.Shell.Syntax
import Chatbot.Double

/-!
# Floating-point numbers of `printf`

`printf` reads the arguments of its `%f`, `%e` and `%g` directives as C's `strtod` does and
prints them as C's `printf` does, so the value printed is the double nearest to the text,
not the text itself: `printf '%.2f' 2.675` prints `2.67`, because the double nearest to
2.675 lies just below it.

A double is kept exactly, as `m · 2^e` with a sign. Reading rounds the decimal (or
hexadecimal) text to the nearest double, ties to even; a value too large becomes infinite,
one too small becomes zero. Printing rounds the exact value to the digits asked for, ties to
even.

`%a` writes the double itself in hexadecimal, so it shows the bits that reading chose.
-/

namespace Chatbot.Shell

/-- Whether reading gave a result out of range: too small for a normal number of the format
and not exact. -/
def underflows (f : BinaryFormat) (m : Nat) (exact : Bool) : Bool :=
  m < Nat.pow 2 (f.bits - 1) && !exact

/-- Read decimal digits: their value, how many, and the rest. -/
def readDigitsIn (base : Nat) : Nat → Bytes → Nat → Nat → Nat × Nat × Bytes
  | 0, bs, v, n => (v, n, bs)
  | _, [], v, n => (v, n, [])
  | fuel + 1, b :: bs, v, n =>
    let d : Option Nat :=
      if 0x30 ≤ b && b ≤ 0x39 then some (b - 0x30).toNat
      else if 0x61 ≤ b && b ≤ 0x66 then some ((b - 0x61).toNat + 10)
      else if 0x41 ≤ b && b ≤ 0x46 then some ((b - 0x41).toNat + 10)
      else none
    match d with
    | some d => if d < base then readDigitsIn base fuel bs (base * v + d) (n + 1) else (v, n, b :: bs)
    | none => (v, n, b :: bs)

/-- Whether bytes start with a word, ignoring ASCII case. -/
def startsWithWord (bs : Bytes) (w : String) : Bool :=
  let lower (b : UInt8) : UInt8 := if 0x41 ≤ b && b ≤ 0x5A then b + 32 else b
  (bs.take w.length).map lower = bytesOf w

/-- Read an exponent `e±digits` (or `p±digits` when `marker` is `p`): its value and length, or
nothing when there is no complete exponent. -/
def readExponent (marker : UInt8) (bs : Bytes) : Int × Nat :=
  match bs with
  | c :: rest =>
    if c = marker || c = marker - 32 then
      let (neg, signLen, r) := match rest with
        | 0x2D :: r => (true, 1, r)
        | 0x2B :: r => (false, 1, r)
        | r => (false, 0, r)
      let (v, n, _) := readDigitsIn 10 (r.length + 1) r 0 0
      if n = 0 then (0, 0) else (if neg then -(v : Int) else v, 1 + signLen + n)
    else (0, 0)
  | [] => (0, 0)

/-- The length of a `(chars)` after `nan`, where the chars are letters, digits and `_`; zero
when there is none. -/
def nanPayload (bs : Bytes) : Nat :=
  match bs with
  | 0x28 :: rest =>
    let isChar (b : UInt8) : Bool :=
      (0x30 ≤ b && b ≤ 0x39) || (0x41 ≤ b && b ≤ 0x5A) || (0x61 ≤ b && b ≤ 0x7A) || b = 0x5F
    let body := rest.takeWhile isChar
    if (rest.drop body.length).head? = some 0x29 then body.length + 2 else 0
  | _ => 0

/-- Read a number as `strtod` (or, in the extended format, `strtold`) does: the number of the
format, how many bytes were read (0 when there is no number), and whether it was out of
range. -/
def readCFloat (form : BinaryFormat) (s : Bytes) : Double × Nat × Bool :=
  let isSpace (b : UInt8) : Bool := b = 0x20 || (0x09 ≤ b && b ≤ 0x0D)
  let lead := (s.takeWhile isSpace).length
  let t := s.drop lead
  let (neg, signLen, t) := match t with
    | 0x2D :: r => (true, 1, r)
    | 0x2B :: r => (false, 1, r)
    | r => (false, 0, r)
  let start := lead + signLen
  let finish (p q : Nat) (len : Nat) : Double × Nat × Bool :=
    if p = 0 then (.finite neg 0 0, start + len, false)
    else
      match nearestIn form p q with
      | some (m, e, exact) => (.finite neg m e, start + len, underflows form m exact)
      | none => (.inf neg, start + len, true)
  if startsWithWord t "infinity" then (.inf neg, start + 8, false)
  else if startsWithWord t "inf" then (.inf neg, start + 3, false)
  else if startsWithWord t "nan" then (.nan neg, start + 3 + nanPayload (t.drop 3), false)
  else
    match t with
    | 0x30 :: x :: r =>
      if x = 0x78 || x = 0x58 then
        let (w, nw, r1) := readDigitsIn 16 (r.length + 1) r 0 0
        let (f, nf, r2) := match r1 with
          | 0x2E :: r' => readDigitsIn 16 (r'.length + 1) r' 0 0
          | _ => (0, 0, r1)
        let dot := match r1 with
          | 0x2E :: _ => 1
          | _ => 0
        if nw + nf = 0 then (.finite neg 0 0, start + 1, false)
        else
          let (ex, nx) := readExponent 0x70 r2
          let mant := w * Nat.pow 16 nf + f
          let e : Int := ex - 4 * nf
          let len := 2 + nw + dot + nf + nx
          if e ≥ 0 then finish (mant * Nat.pow 2 e.toNat) 1 len else finish mant (Nat.pow 2 (-e).toNat) len
      else decimal neg start t
    | _ => decimal neg start t
where
  /-- Read a decimal number after its sign. -/
  decimal (neg : Bool) (start : Nat) (t : Bytes) : Double × Nat × Bool :=
    let (w, nw, r1) := readDigitsIn 10 (t.length + 1) t 0 0
    let (f, nf, r2, dot) := match r1 with
      | 0x2E :: r' =>
        let (f, nf, r2) := readDigitsIn 10 (r'.length + 1) r' 0 0
        (f, nf, r2, 1)
      | _ => (0, 0, r1, 0)
    if nw + nf = 0 then (.finite neg 0 0, 0, false)
    else
      let (ex, nx) := readExponent 0x65 r2
      let mant := w * Nat.pow 10 nf + f
      let e : Int := ex - nf
      let len := nw + dot + nf + nx
      let digits := (toString mant).length
      if mant = 0 then (.finite neg 0 0, start + len, false)
      else if (digits : Int) + e > (form.maxExp + form.bits) * 30103 / 100000 + 2 then
        (.inf neg, start + len, true)
      else if (digits : Int) + e < -((1 - form.minExp) * 30103 / 100000 + 2) then
        (.finite neg 0 0, start + len, true)
      else
        let (p, q) := if e ≥ 0 then (mant * Nat.pow 10 e.toNat, 1) else (mant, Nat.pow 10 (-e).toNat)
        match nearestIn form p q with
        | some (m, ex2, exact) => (.finite neg m ex2, start + len, underflows form m exact)
        | none => (.inf neg, start + len, true)

/-- Read a number as `strtod` does. -/
def readCDouble (s : Bytes) : Double × Nat × Bool := readCFloat .double s

/-- The exact value of a finite double's magnitude as a numerator and a denominator. -/
def magnitude (m : Nat) (e : Int) : Nat × Nat :=
  if 0 ≤ e then (m * Nat.pow 2 e.toNat, 1) else (m, Nat.pow 2 (-e).toNat)

/-- The digits of `n` with a point before the last `places` of them. -/
def withPoint (n : Nat) (places : Nat) (alt : Bool) : Bytes :=
  let ds := bytesOf (toString n)
  if places = 0 then ds ++ (if alt then [0x2E] else [])
  else
    let ds := List.replicate (places + 1 - ds.length) (0x30 : UInt8) ++ ds
    ds.take (ds.length - places) ++ [0x2E] ++ ds.drop (ds.length - places)

/-- `%f`: the magnitude with `places` digits after the point. -/
def fixedDigits (m : Nat) (e : Int) (places : Nat) (alt : Bool) : Bytes :=
  let (num, den) := magnitude m e
  withPoint (roundHalfEven (num * Nat.pow 10 places) den) places alt

/-- The decimal exponent and the `places + 1` significant digits of a positive magnitude,
rounded. -/
def scientific (m : Nat) (e : Int) (places : Nat) : Int × Nat :=
  let (num, den) := magnitude m e
  let estimate : Int := ((Nat.log2 num : Int) - (Nat.log2 den : Int)) * 30103 / 100000
  let atLeast (x : Int) : Bool :=
    if 0 ≤ x then num ≥ Nat.pow 10 x.toNat * den else num * Nat.pow 10 (-x).toNat ≥ den
  let x0 := if atLeast (estimate + 1) then estimate + 1
    else if atLeast estimate then estimate else estimate - 1
  let x := if atLeast (x0 + 1) then x0 + 1 else if atLeast x0 then x0 else x0 - 1
  let shift : Int := (places : Int) - x
  let n := if 0 ≤ shift then roundHalfEven (num * Nat.pow 10 shift.toNat) den
    else roundHalfEven num (den * Nat.pow 10 (-shift).toNat)
  if n ≥ Nat.pow 10 (places + 1) then (x + 1, n / 10) else (x, n)

/-- `%e`: digits, exponent marker and exponent. -/
def expDigits (m : Nat) (e : Int) (places : Nat) (alt upper : Bool) : Bytes :=
  let (x, n) := if m = 0 then (0, 0) else scientific m e places
  let mark : UInt8 := if upper then 0x45 else 0x65
  let expText := bytesOf (toString x.natAbs)
  let expText := if expText.length < 2 then 0x30 :: expText else expText
  withPoint n places alt ++ [mark, if x < 0 then 0x2D else 0x2B] ++ expText

/-- A finite magnitude `m · 2^e` with its mantissa shifted up to 53 bits, or as far as the
least exponent of a double allows. -/
def normalizeDouble (m : Nat) (e : Int) : Nat × Int :=
  if m = 0 || Nat.log2 m ≥ 52 then (m, e)
  else
    let k := min (52 - Nat.log2 m) (e + 1074).toNat
    (m * Nat.pow 2 k, e - k)

/-- The last `count` hexadecimal digits of `n`, with leading zeros. -/
def hexPlaces (upper : Bool) : Nat → Nat → Bytes
  | 0, _ => []
  | count + 1, n =>
    let d := n % 16
    let c : UInt8 := if d < 10 then UInt8.ofNat (0x30 + d) else UInt8.ofNat ((if upper then 0x41 else 0x61) + d - 10)
    hexPlaces upper count (n / 16) ++ [c]

/-- `%a`: `0x`, a leading digit (1 for normal doubles, 0 for the least ones), the 52 bits of
the fraction in hexadecimal (without trailing zeros, or rounded to the precision, ties to
even) and the binary exponent. -/
def hexFloatDigits (m : Nat) (e : Int) (precision : Option Nat) (alt upper : Bool) : Bytes :=
  let (m, e) := normalizeDouble m e
  let (lead, frac, ex) : Nat × Nat × Int :=
    if m = 0 then (0, 0, 0)
    else if m ≥ Nat.pow 2 52 then (1, m - Nat.pow 2 52, e + 52) else (0, m, -1022)
  let (lead, fracText) : Nat × Bytes := match precision with
    | none =>
      let ds := (hexPlaces upper 13 frac).reverse.dropWhile (· = 0x30)
      (lead, ds.reverse)
    | some p =>
      if p ≥ 13 then (lead, hexPlaces upper 13 frac ++ List.replicate (p - 13) (0x30 : UInt8))
      else
        let unit := Nat.pow 16 (13 - p)
        let total := roundHalfEven (lead * Nat.pow 16 13 + frac) unit
        (total / Nat.pow 16 p, hexPlaces upper p (total % Nat.pow 16 p))
  let point : Bytes := if fracText.isEmpty && !alt then [] else [0x2E]
  let expText := bytesOf (toString ex.natAbs)
  bytesOf (if upper then "0X" else "0x") ++ hexPlaces upper 1 lead ++ point ++ fracText ++
    [if upper then 0x50 else 0x70, if ex < 0 then 0x2D else 0x2B] ++ expText

/-- Remove trailing zeros of a fraction, and the point when nothing follows it. -/
def dropFractionZeros (bs : Bytes) : Bytes :=
  if !bs.contains 0x2E then bs
  else
    let r := (bs.reverse.dropWhile (· = 0x30))
    match r with
    | 0x2E :: rest => rest.reverse
    | _ => r.reverse

/-- `%g`: the shorter of `%e` and `%f` for `precision` significant digits. -/
def generalDigits (m : Nat) (e : Int) (precision : Nat) (alt upper : Bool) : Bytes :=
  let p := if precision = 0 then 1 else precision
  let x : Int := if m = 0 then 0 else (scientific m e (p - 1)).1
  if (p : Int) > x && x ≥ -4 then
    let body := fixedDigits m e (p - 1 - x).toNat alt
    if alt then body else dropFractionZeros body
  else
    let body := expDigits m e (p - 1) alt upper
    if alt then body
    else
      let mant := body.takeWhile fun b => b != 0x65 && b != 0x45
      dropFractionZeros mant ++ body.drop mant.length

end Chatbot.Shell
