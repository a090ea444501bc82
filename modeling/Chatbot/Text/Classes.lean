import Chatbot.Unicode.Category
import Chatbot.Unicode.Binary

/-!
# Classes of characters

Classes of code points from the Unicode character database, kept as tables of closed ranges
of code points, in increasing order and pairwise apart. Whether a code point lies in one of
them is found by halving the part of the table still in question: a range wholly above the
code point leaves the lower half, one wholly below leaves the upper half, and a range holding
it ends the search.

* *Decimal digits* are the characters of the general category `Nd`: the ASCII digits and the
  digits of the other scripts, such as the fullwidth digits U+FF10 to U+FF19. Placeholder and
  pattern syntax accept any of them as a digit; reading a number accepts only the ASCII ones.
* *Word* characters, as patterns match them (version 16.0), are the alphabetic ones, the
  marks, the decimal digits, the connector punctuation (such as `_`) and the two join controls
  U+200C and U+200D.
* *Alphabetic* characters, as plain text handling tests them (version 17.0), are the letters,
  the letter numbers and the other code points with the `Alphabetic` property; *numeric* ones
  are those of the categories `Nd`, `Nl` and `No`. These two are the classes of version 16.0
  together with the letters and digits that version 17.0 assigned.

## What is proved

* `isDigit_ascii`: the ASCII digits are digits.
-/

namespace Chatbot.Text

open Chatbot.Unicode

/-! ### Tables of ranges -/

/-- Search the ranges `lo` (included) to `hi` (excluded) of a table for `n`. -/
def searchRanges (t : Array (Nat × Nat)) (n : Nat) (lo hi : Nat) : Bool :=
  if _h : lo < hi then
    let mid := (lo + hi) / 2
    match t[mid]? with
    | some (a, b) =>
      if n < a then searchRanges t n lo mid
      else if b < n then searchRanges t n (mid + 1) hi
      else true
    | none => false
  else false
termination_by hi - lo

/-- Whether `n` lies in one of the ranges of a table. -/
def inRanges (t : Array (Nat × Nat)) (n : Nat) : Bool :=
  searchRanges t n 0 t.size

/-! ### Decimal digits -/

/-- Whether `c` is a decimal digit of any script. ASCII ones are decided without the table. -/
def isDigit (c : Char) : Bool :=
  let n := c.toNat
  if n < 0x80 then 0x30 ≤ n && n ≤ 0x39
  else categoryOf n == .nd

/-- The ASCII digits are digits. -/
theorem isDigit_ascii {c : Char} (h0 : '0' ≤ c) (h9 : c ≤ '9') : isDigit c = true := by
  have h0' : 48 ≤ c.toNat := h0
  have h9' : c.toNat ≤ 57 := h9
  simp only [isDigit]
  have : c.toNat < 0x80 := by omega
  simp [this]
  omega

/-! ### Word characters -/

/-- The ranges of alphabetic characters. -/
def alphabeticRanges : Array (Nat × Nat) := (binaryRanges "Alphabetic").getD #[]

/-- The ranges of word characters. -/
def wordRanges : Array (Nat × Nat) :=
  unionRanges [alphabeticRanges, categoryRanges [.mn, .mc, .me, .nd, .pc],
    (binaryRanges "Join_Control").getD #[]]

/-- The ranges of numeric characters. -/
def numericRanges : Array (Nat × Nat) := categoryRanges [.nd, .nl, .no]

/-- Whether `c` is a word character. ASCII ones are decided without the table. -/
def isWordChar (c : Char) : Bool :=
  if c.toNat < 0x80 then c.isAlphanum || c = '_' else inRanges wordRanges c.toNat

/-- Whether `c` is alphabetic. -/
def isAlphabetic (c : Char) : Bool :=
  if c.toNat < 0x80 then c.isAlpha
  else inRanges alphabeticRanges c.toNat || addedKind? c.toNat == some .letter

/-- Whether `c` is alphabetic or numeric. -/
def isAlphanumeric (c : Char) : Bool :=
  if c.toNat < 0x80 then c.isAlphanum
  else
    inRanges alphabeticRanges c.toNat || inRanges numericRanges c.toNat ||
      match addedKind? c.toNat with
      | some .letter | some .digit => true
      | _ => false

end Chatbot.Text
