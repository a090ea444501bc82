/-!
# Random sources

Generation draws successors from a *random source*: a state that gives a draw below a bound
and the state after it (`RandomSource`). All that generation relies on is that every draw is
below its bound (`DrawsBelow`).

The bot draws from a SplitMix64 generator. Its state is one 64-bit word; each step adds the
constant `0x9E3779B97F4A7C15` and mixes the result by two multiply-xorshift rounds and a final
xorshift. A draw below a bound `n ≥ 1` is made by widening multiplication with rejection: a
64-bit value `v` is multiplied by `n` into 128 bits; the high half is the draw when the low
half is at most the *zone*, `n` shifted left until its top bit is set, minus one. Otherwise
another value is taken. Every draw below `n` is then equally likely.
-/

namespace Chatbot.Words

/-- A source of draws: `below s n` is a draw below the bound `n ≥ 1`, and the source after it. -/
class RandomSource (σ : Type) where
  /-- A draw below a bound, and the source after it. -/
  below : σ → UInt64 → UInt64 × σ

/-- Every draw of a source is below its bound. -/
def DrawsBelow (σ : Type) [RandomSource σ] : Prop :=
  ∀ (s : σ) (n : UInt64), 0 < n.toNat → (RandomSource.below s n).1.toNat < n.toNat

/-- The state of a SplitMix64 generator. -/
structure SplitMix where
  /-- The 64-bit state. -/
  state : UInt64
  deriving DecidableEq, Repr

namespace SplitMix

/-- The next 64-bit value and the advanced source. -/
def next (s : SplitMix) : UInt64 × SplitMix :=
  let st := s.state + 0x9E3779B97F4A7C15
  let z := st
  let z := (z ^^^ (z >>> 30)) * 0xBF58476D1CE4E5B9
  let z := (z ^^^ (z >>> 27)) * 0x94D049BB133111EB
  (z ^^^ (z >>> 31), ⟨st⟩)

/-- The number of leading zero bits of a 64-bit value. -/
def leadingZeros (n : UInt64) : Nat := if n = 0 then 64 else 63 - Nat.log2 n.toNat

/-- The largest low half accepted for a bound `n ≥ 1`. -/
def zone (n : UInt64) : Nat := n.toNat * Nat.pow 2 (leadingZeros n) - 1

/-- Draw below `n`, trying at most `tries` values; the last one is used if all are refused,
which for a uniform source happens with probability below `2 ^ (-tries)`. -/
def belowWith (n : UInt64) : Nat → SplitMix → UInt64 × SplitMix
  | 0, s => (0, s)
  | tries + 1, s =>
    let (v, s') := s.next
    let wide := v.toNat * n.toNat
    if wide % Nat.pow 2 64 ≤ zone n || tries = 0 then ((wide / Nat.pow 2 64).toUInt64, s')
    else belowWith n tries s'

/-- Draw a value below `n ≥ 1`. -/
def below (s : SplitMix) (n : UInt64) : UInt64 × SplitMix := belowWith n 256 s

end SplitMix

instance : RandomSource SplitMix := ⟨SplitMix.below⟩

end Chatbot.Words
