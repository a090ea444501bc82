/-!
# Packed tables

The tables of the Unicode character database are kept as text, so that they cost one string
each rather than thousands of terms. A packed table is a sequence of numbers in base 36 (the
digits, then the lower-case letters), each ended by any other character; its numbers are read
in pairs.

* A *list of ranges* gives for each range its distance from the end of the range before (from
  zero for the first) and its length less one.
* A *partition* covers every code point from zero on with runs: for each run its length less
  one and the number of its value.
-/

namespace Chatbot.Unicode

/-- The value of a base-36 digit. -/
def digit36 (c : Char) : Nat :=
  if c.isDigit then c.toNat - 48 else c.toNat - 87

/-- Whether a character is a base-36 digit. -/
def isDigit36 (c : Char) : Bool := c.isDigit || ('a' ≤ c && c ≤ 'z')

/-- The numbers of a packed text, in order. -/
def unpackNumbers (s : String) : Array Nat :=
  let (acc, cur, inNumber) := s.foldl (fun (st : Array Nat × Nat × Bool) c =>
    let (acc, cur, inNumber) := st
    if isDigit36 c then (acc, 36 * cur + digit36 c, true)
    else if inNumber then (acc.push cur, 0, false)
    else (acc, 0, false)) (#[], 0, false)
  if inNumber then acc.push cur else acc

/-- The pairs of a packed text's numbers. -/
def unpackPairs (s : String) : List (Nat × Nat) :=
  let ns := unpackNumbers s
  (List.range (ns.size / 2)).map fun i => (ns.getD (2 * i) 0, ns.getD (2 * i + 1) 0)

/-- Read a packed list of ranges. -/
def unpackRanges (s : String) : Array (Nat × Nat) :=
  ((unpackPairs s).foldl (fun (st : Array (Nat × Nat) × Nat) (gap, span) =>
    let (acc, next) := st
    let first := next + gap
    (acc.push (first, first + span), first + span + 1)) (#[], 0)).1

/-- Read a packed partition: each run's first and last code point and its value. -/
def unpackRuns (s : String) : Array (Nat × Nat × Nat) :=
  ((unpackPairs s).foldl (fun (st : Array (Nat × Nat × Nat) × Nat) (span, value) =>
    let (acc, first) := st
    (acc.push (first, first + span, value), first + span + 1)) (#[], 0)).1

/-- Search the runs `lo` (included) to `hi` (excluded) for the one holding `n`: its value. -/
def searchRuns (t : Array (Nat × Nat × Nat)) (n : Nat) (lo hi : Nat) : Option Nat :=
  if _h : lo < hi then
    let mid := (lo + hi) / 2
    match t[mid]? with
    | some (a, b, v) =>
      if n < a then searchRuns t n lo mid
      else if b < n then searchRuns t n (mid + 1) hi
      else some v
    | none => none
  else none
termination_by hi - lo

/-- The value of the run holding `n`, or zero when none does. -/
def runValue (t : Array (Nat × Nat × Nat)) (n : Nat) : Nat :=
  (searchRuns t n 0 t.size).getD 0

/-- Add a range to ranges in increasing order, merging it with the last one when they touch. -/
def pushRange (acc : Array (Nat × Nat)) (r : Nat × Nat) : Array (Nat × Nat) :=
  match acc.back? with
  | some (a, b) => if r.1 ≤ b + 1 then acc.pop.push (a, max b r.2) else acc.push r
  | none => acc.push r

/-- The code points of the runs whose value satisfies `p`, as merged ranges. -/
def runsWith (t : Array (Nat × Nat × Nat)) (p : Nat → Bool) : Array (Nat × Nat) :=
  t.foldl (fun acc (a, b, v) => if p v then pushRange acc (a, b) else acc) #[]

/-- The union of tables of ranges, merged and in increasing order. -/
def unionRanges (ts : List (Array (Nat × Nat))) : Array (Nat × Nat) :=
  let all := (ts.flatMap Array.toList).mergeSort fun x y => x.1 ≤ y.1
  all.foldl pushRange #[]

/-- The code points of a table of ranges that a test keeps, as ranges. -/
def filterRanges (t : Array (Nat × Nat)) (keep : Nat × Nat → Bool) : Array (Nat × Nat) :=
  t.filter keep

end Chatbot.Unicode
