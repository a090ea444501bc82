import Chatbot.Pattern.CharSet
import Chatbot.Unicode.Category

/-!
# Character sets as intervals

A character set, built as an expression (`CharSet`), is also a finite union of intervals of
code points, and the automaton a pattern compiles to is built from those intervals. The
surrogates U+D800 to U+DFFF are not characters, so intervals are taken among the *scalar
values* numbered without the gap: the scalar U+E000 comes right after U+D7FF, and an interval
may run across the gap. Written back as code points, such an interval starts below the gap and
ends above it.

An interval list is *normal* when its intervals are sorted, non-empty, and neither overlap
nor touch. Union, intersection, difference, complement and the two case closures are computed
on normal lists and give normal lists.
-/

namespace Chatbot.Pattern

open Chatbot.Text Chatbot.Unicode

/-- The number of scalar values: the code points less the surrogates. -/
def scalarCount : Nat := 0x110000 - 0x800

/-- The place of the first scalar value at or after a code point. -/
def scalarAtOrAfter (n : Nat) : Nat :=
  if n < 0xD800 then n else if n < 0xE000 then 0xD800 else n - 0x800

/-- The place of the last scalar value at or before a code point, plus one. -/
def scalarBefore (n : Nat) : Nat :=
  if n < 0xD800 then n + 1 else if n < 0xE000 then 0xD800 else n - 0x800 + 1

/-- The code point of the scalar value at a place. -/
def codePointAt (i : Nat) : Nat := if i < 0xD800 then i else i + 0x800

/-- Add an interval to a normal list kept last first, merging it with the last one when they
overlap or touch; intervals must come in order of their starts. -/
def pushInterval (acc : List (Nat × Nat)) (r : Nat × Nat) : List (Nat × Nat) :=
  match acc with
  | (a, b) :: rest => if r.1 ≤ b + 1 then (a, max b r.2) :: rest else r :: acc
  | [] => [r]

/-- The normal list of any intervals `(first, last)`; those with `last < first` are empty. -/
def normalize (rs : List (Nat × Nat)) : List (Nat × Nat) :=
  let sorted := (rs.filter fun r => r.1 ≤ r.2).mergeSort fun x y => x.1 ≤ y.1
  (sorted.foldl pushInterval []).reverse

/-- The gaps of a normal list within the places `0` to `top`. -/
def complementWithin (top : Nat) (rs : List (Nat × Nat)) : List (Nat × Nat) :=
  let (acc, next) := rs.foldl (fun (st : List (Nat × Nat) × Nat) (a, b) =>
    let (acc, next) := st
    ((if next < a then (next, a - 1) :: acc else acc), b + 1)) ([], 0)
  (if next ≤ top then (next, top) :: acc else acc).reverse

/-- The scalar values not in a normal list. -/
def complementScalars (rs : List (Nat × Nat)) : List (Nat × Nat) :=
  complementWithin (scalarCount - 1) rs

/-- The union of two normal lists. -/
def unionIntervals (a b : List (Nat × Nat)) : List (Nat × Nat) := normalize (a ++ b)

/-- The intersection of two normal lists. -/
def interIntervals (a b : List (Nat × Nat)) : List (Nat × Nat) :=
  complementScalars (unionIntervals (complementScalars a) (complementScalars b))

/-- The first normal list less the second. -/
def diffIntervals (a b : List (Nat × Nat)) : List (Nat × Nat) :=
  interIntervals a (complementScalars b)

/-- The scalar values of a range of code points, as places. -/
def scalarsOfRange (lo hi : Nat) : List (Nat × Nat) :=
  let first := scalarAtOrAfter lo
  let stop := scalarBefore hi
  if first < stop then [(first, stop - 1)] else []

/-- The scalar values of a table of code point ranges, as a normal list. -/
def scalarsOfTable (t : List (Nat × Nat)) : List (Nat × Nat) :=
  normalize (t.flatMap fun r => scalarsOfRange r.1 r.2)

/-- The code points of a run of case partners that lie from `lo` to `hi`. -/
def runMembersIn (r : FoldRun) (lo hi : Nat) : List Nat :=
  let first := if lo ≤ r.lo then r.lo else r.lo + (lo - r.lo + r.step - 1) / r.step * r.step
  let last := min r.hi hi
  if first ≤ last then (List.range ((last - first) / r.step + 1)).map fun k => first + k * r.step
  else []

/-- The case closure of a normal list: each member's case partners added. -/
def foldIntervals (rs : List (Nat × Nat)) : List (Nat × Nat) :=
  let partners := rs.flatMap fun (a, b) =>
    let lo := codePointAt a
    let hi := codePointAt b
    foldRuns.flatMap fun r =>
      (runMembersIn r lo hi).flatMap fun n =>
        (orbit (Char.ofNat n)).map fun c => (scalarAtOrAfter c.toNat, scalarAtOrAfter c.toNat)
  unionIntervals rs partners

/-- The ASCII case closure of a normal list: each ASCII letter's other case added. -/
def foldAsciiIntervals (rs : List (Nat × Nat)) : List (Nat × Nat) :=
  let upper := interIntervals rs [(0x41, 0x5A)]
  let lower := interIntervals rs [(0x61, 0x7A)]
  unionIntervals rs (upper.map (fun (a, b) => (a + 32, b + 32)) ++
    lower.map fun (a, b) => (a - 32, b - 32))

/-- The blank characters, as code point ranges. -/
def blankRanges : List (Nat × Nat) :=
  [(0x09, 0x0D), (0x20, 0x20), (0x85, 0x85), (0xA0, 0xA0), (0x1680, 0x1680), (0x2000, 0x200A),
    (0x2028, 0x2029), (0x202F, 0x202F), (0x205F, 0x205F), (0x3000, 0x3000)]

namespace CharSet

/-- The scalar values of a set, as a normal list of places. -/
def intervals : CharSet → List (Nat × Nat)
  | none => []
  | range lo hi => scalarsOfRange lo hi
  | word => scalarsOfTable wordRanges.toList
  | digit => scalarsOfTable (categoryRanges [.nd]).toList
  | space => scalarsOfTable blankRanges
  | table t => scalarsOfTable t.toList
  | union a b => unionIntervals a.intervals b.intervals
  | inter a b => interIntervals a.intervals b.intervals
  | diff a b => diffIntervals a.intervals b.intervals
  | symmDiff a b =>
    unionIntervals (diffIntervals a.intervals b.intervals) (diffIntervals b.intervals a.intervals)
  | complement a => complementScalars a.intervals
  | fold a => foldIntervals a.intervals
  | foldAscii a => foldAsciiIntervals a.intervals

/-- The ranges of code points of a set, sorted; a range may run across the surrogates. -/
def codeRanges (s : CharSet) : List (Nat × Nat) :=
  s.intervals.map fun (a, b) => (codePointAt a, codePointAt b)

end CharSet

end Chatbot.Pattern
