import Chatbot.Pattern.Form

/-!
# UTF-8 byte sequences of a range of characters

The characters of a range, written in UTF-8, are matched byte by byte by a union of
*sequences*: lists of one to four byte ranges, each list matching the bytes of some of the
characters in order. The range is split until each part is one such sequence:

* at the surrogate gap, which holds no character;
* where the number of bytes of a character changes (after U+007F, U+07FF and U+FFFF);
* at the boundaries of 64, 4096 and 262144 characters, where a byte other than the last one
  changes, so that in each part every byte runs over a range of its own.

A part then gives the sequence of byte ranges from the bytes of its first character to those
of its last. The parts come out in increasing order.
-/

namespace Chatbot.Pattern

/-- The greatest character written with `k` bytes, for `k` from 1 to 3. -/
def lastOfLength (k : Nat) : Nat :=
  if k = 1 then 0x7F else if k = 2 then 0x7FF else 0xFFFF

/-- Split a range where the number of bytes changes, if it does. -/
def splitAtLength (s e : Nat) : Option ((Nat × Nat) × (Nat × Nat)) :=
  ([1, 2, 3].find? fun k => s ≤ lastOfLength k && lastOfLength k < e).map fun k =>
    ((s, lastOfLength k), (lastOfLength k + 1, e))

/-- Split a range at a boundary where a byte other than the last changes, if it must be. -/
def splitAtBlock (s e : Nat) : Option ((Nat × Nat) × (Nat × Nat)) :=
  let step (k : Nat) : Option ((Nat × Nat) × (Nat × Nat)) :=
    let size := Nat.pow 2 (6 * k)
    if s / size == e / size then none
    else if s % size != 0 then
      let top := s - s % size + (size - 1)
      some ((s, top), (top + 1, e))
    else if e % size != size - 1 then
      let bottom := e - e % size
      some ((s, bottom - 1), (bottom, e))
    else none
  match step 1 with
  | some r => some r
  | none =>
    match step 2 with
    | some r => some r
    | none => step 3

/-- The sequences of the ranges on a stack, the next one on top, added to `acc` (last
first); `fuel` bounds the splitting steps. -/
def sequencesOf : Nat → List (Nat × Nat) → List (List (Nat × Nat)) → List (List (Nat × Nat))
  | 0, _, acc => acc
  | _, [], acc => acc
  | fuel + 1, (s, e) :: stack, acc =>
    if s < 0xE000 && e > 0xD7FF then sequencesOf fuel ((s, 0xD7FF) :: (0xE000, e) :: stack) acc
    else if e < s then sequencesOf fuel stack acc
    else
      match splitAtLength s e with
      | some (r1, r2) => sequencesOf fuel (r1 :: r2 :: stack) acc
      | none =>
        if e ≤ 0x7F then sequencesOf fuel stack ([(s, e)] :: acc)
        else
          match splitAtBlock s e with
          | some (r1, r2) => sequencesOf fuel (r1 :: r2 :: stack) acc
          | none => sequencesOf fuel stack ((utf8Bytes s).zip (utf8Bytes e) :: acc)

/-- The sequences of a range of code points, in increasing order. -/
def utf8Sequences (s e : Nat) : List (List (Nat × Nat)) :=
  (sequencesOf 256 [(s, e)] []).reverse

end Chatbot.Pattern
