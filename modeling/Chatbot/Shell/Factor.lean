import Chatbot.Shell.Tools

/-!
# Prime factors

`factor` writes each number it is given followed by its prime factors, smallest first, each as
often as it divides the number (`-h` writes a repeated factor once, as `p^e`). The numbers come
from the arguments, or else are the words of the standard input.

A number is split by dividing out the primes below a small bound, then by testing what remains
for primality (Miller–Rabin to the first prime bases, which decides every number below
`3.3 · 10^24`) and, when it is composite, by finding a divisor with Pollard's ρ method. Every
split at least halves the number, so the bit length of the number bounds the depth of the
splitting.
-/

namespace Chatbot.Shell

/-- `b ^ e % m` by repeated squaring; `fuel` bounds the bits of `e` looked at. -/
def powModFrom : Nat → Nat → Nat → Nat → Nat → Nat
  | 0, _, _, _, acc => acc
  | fuel + 1, b, e, m, acc =>
    if e = 0 then acc
    else powModFrom fuel (b * b % m) (e / 2) m (if e % 2 = 1 then acc * b % m else acc)

/-- `b ^ e % m`. -/
def powMod (b e m : Nat) : Nat := powModFrom (e.log2 + 1) (b % m) e m (1 % m)

/-- The bases the primality test tries. -/
def witnessBases : List Nat := [2, 3, 5, 7, 11, 13, 17, 19, 23, 29, 31, 37, 41, 43, 47, 53]

/-- Whether base `a` fails to show the odd number `n` composite, where `n - 1 = d · 2^s` with
`d` odd. -/
def strongProbable (n d s a : Nat) : Bool :=
  let x := powMod a d n
  x = 1 || x = n - 1 || go s x
where
  /-- Square `x` up to `k - 1` times looking for `n - 1`. -/
  go : Nat → Nat → Bool
    | 0, _ => false
    | 1, _ => false
    | k + 2, x =>
      let y := x * x % n
      if y = n - 1 then true else if y = 1 then false else go (k + 1) y

/-- The odd part of a number and the power of two it was divided by. -/
def oddPart : Nat → Nat → Nat × Nat
  | 0, d => (d, 0)
  | fuel + 1, d =>
    if d ≠ 0 && d % 2 = 0 then
      let (o, s) := oddPart fuel (d / 2)
      (o, s + 1)
    else (d, 0)

/-- Whether a number is prime, by the Miller–Rabin test to the bases of `witnessBases`. -/
def isPrimeNumber (n : Nat) : Bool :=
  if n < 2 then false
  else if witnessBases.contains n then true
  else if witnessBases.any (fun p => n % p = 0) then false
  else
    let (d, s) := oddPart (n.log2 + 1) (n - 1)
    witnessBases.all fun a => strongProbable n d s a

/-- A divisor of the odd composite `n` by Pollard's ρ with `x ↦ x² + c`, Floyd's cycle
finding; `n` itself when the walk closes without one or the fuel ends. -/
def rhoDivisor (n c : Nat) : Nat → Nat → Nat → Nat
  | 0, _, _ => n
  | fuel + 1, x, y =>
    let x := (x * x + c) % n
    let y1 := (y * y + c) % n
    let y := (y1 * y1 + c) % n
    let g := Nat.gcd (if x ≥ y then x - y else y - x) n
    if g = 1 then rhoDivisor n c fuel x y else g

/-- A proper divisor of the odd composite `n`, trying the walks `c = 1, 2, …`. -/
def properDivisor (n : Nat) : Nat → Nat → Nat
  | 0, _ => 1
  | tries + 1, c =>
    let g := rhoDivisor n c (4 * n.sqrt + 1000) 2 2
    if 1 < g && g < n then g else properDivisor n tries (c + 1)

/-- The prime factors below `bound` of a number, found by trial division from `p`, with what
remains. -/
def smallFactors (bound : Nat) : Nat → Nat → Nat → List Nat × Nat
  | 0, _, n => ([], n)
  | fuel + 1, p, n =>
    if n < 2 || p ≥ bound || p * p > n then ([], n)
    else if n % p = 0 then
      let (fs, m) := smallFactors bound fuel p (n / p)
      (p :: fs, m)
    else smallFactors bound fuel (if p = 2 then 3 else p + 2) n

/-- The prime factors of a number with no factor below the trial bound, unordered; `depth`
bounds the splitting. -/
def largeFactors : Nat → Nat → List Nat
  | 0, n => if n < 2 then [] else [n]
  | depth + 1, n =>
    if n < 2 then []
    else if isPrimeNumber n then [n]
    else
      let d := properDivisor n 64 1
      if d ≤ 1 then [n] else largeFactors depth d ++ largeFactors depth (n / d)

/-- The bound below which factors are found by trial division. -/
def trialBound : Nat := 1000

/-- The prime factors of a number, smallest first, each as often as it divides it. -/
def primeFactors (n : Nat) : List Nat :=
  let (small, rest) := smallFactors trialBound (n + trialBound) 2 n
  let large := if rest < 2 then [] else largeFactors (rest.log2 + 1) rest
  small ++ large.mergeSort

/-- Factors written with a repeated one once, as `p^e`. -/
def withExponents : List Nat → List String
  | [] => []
  | p :: rest =>
    let same := (rest.takeWhile (· = p)).length
    let text := if same = 0 then toString p else s!"{p}^{same + 1}"
    text :: withExponents (rest.drop same)
termination_by l => l.length
decreasing_by simp only [List.length_drop, List.length_cons]; omega

/-- A number as `factor` reads it: spaces and one `+` first, then decimal digits only. -/
def readFactorInput (word : Bytes) : Option Nat :=
  let body := word.dropWhile (· = 0x20)
  let body := if body.head? = some 0x2B then body.drop 1 else body
  natOfBytes body

/-- The line `factor` writes for a number. -/
def factorLine (exponents : Bool) (n : Nat) : String :=
  let fs := primeFactors n
  let shown := if exponents then withExponents fs else fs.map toString
  s!"{n}:" ++ String.join (shown.map (" " ++ ·)) ++ "\n"

/-- `factor`: the prime factors of each number of the arguments, or of the standard input's
words. A word that is not a number is reported and the others are still factored. -/
def factorTool (stdin : Bytes) (args : List Bytes) : ToolRun :=
  match readToolOptions [(0x68, false)] [("exponents", false)] (args.length + 1) args [] [] with
  | .error e => usageFailure "factor" e
  | .ok (opts, names) =>
    let exponents := !opts.isEmpty
    let words := if names.isEmpty then
        (stdin.splitOn 0x0A).flatMap fun l =>
          ((l.splitOn 0x09).flatMap (·.splitOn 0x20)).filter (!·.isEmpty)
      else names
    let r := words.foldl (fun (r : ToolRun) w =>
      match readFactorInput w with
      | some n => { r with out := r.out ++ rawOf (factorLine exponents n) }
      | none =>
        { r with err := r.err ++ rawOf ("factor: " ++ localeQuote (textOf w) ++
            " is not a valid positive integer\n"), status := 1 })
      { readStdin := names.isEmpty }
    { r with buffered := true }

end Chatbot.Shell
