import Chatbot.Text.Blank
import Chatbot.Text.Classes
import Chatbot.Text.CaseFold

/-!
# Character sets

A pattern's classes denote sets of characters. A set is kept as the expression that built it,
and membership is decided by evaluating that expression at the character; no set is ever
enumerated.

Besides ranges and tables of ranges, the leaves are the three Unicode classes of word
characters, decimal digits and white space. The combinations are those of bracketed classes (union, intersection,
difference, symmetric difference, complement) and the two case closures: a character lies in
the *Unicode case closure* of a set when some member of its case orbit lies in the set, and in
the *ASCII case closure* when it, or its other case if it is an ASCII letter, does.
-/

namespace Chatbot.Pattern

open Chatbot.Text

/-- A set of characters, as the expression that built it. -/
inductive CharSet where
  /-- No character. -/
  | none
  /-- The characters from `lo` to `hi`, both included, by code point. -/
  | range (lo hi : Nat)
  /-- The Unicode word characters. -/
  | word
  /-- The Unicode decimal digits. -/
  | digit
  /-- The Unicode white space characters. -/
  | space
  /-- The code points of a table of ranges. -/
  | table (t : Array (Nat × Nat))
  /-- The characters in either set. -/
  | union (a b : CharSet)
  /-- The characters in both sets. -/
  | inter (a b : CharSet)
  /-- The characters in the first set and not the second. -/
  | diff (a b : CharSet)
  /-- The characters in exactly one of the sets. -/
  | symmDiff (a b : CharSet)
  /-- The characters not in the set. -/
  | complement (a : CharSet)
  /-- The Unicode case closure. -/
  | fold (a : CharSet)
  /-- The ASCII case closure. -/
  | foldAscii (a : CharSet)
  deriving DecidableEq, Repr

/-- The other case of an ASCII letter; any other character is itself. -/
def asciiSwapCase (c : Char) : Char :=
  if c.isUpper then Char.ofNat (c.toNat + 32)
  else if c.isLower then Char.ofNat (c.toNat - 32)
  else c

namespace CharSet

/-- Whether a character lies in a set. -/
def mem : CharSet → Char → Bool
  | none, _ => false
  | range lo hi, c => lo ≤ c.toNat && c.toNat ≤ hi
  | word, c => isWordChar c
  | digit, c => isDigit c
  | space, c => isBlank c
  | table t, c => inRanges t c.toNat
  | union a b, c => a.mem c || b.mem c
  | inter a b, c => a.mem c && b.mem c
  | diff a b, c => a.mem c && !b.mem c
  | symmDiff a b, c => a.mem c != b.mem c
  | complement a, c => !a.mem c
  | fold a, c => (orbit c).any a.mem
  | foldAscii a, c => a.mem c || a.mem (asciiSwapCase c)

/-- The single character `c`. -/
def single (c : Char) : CharSet := range c.toNat c.toNat

/-- The union of a list of sets. -/
def unionAll : List CharSet → CharSet
  | [] => none
  | [a] => a
  | a :: as => union a (unionAll as)

/-- The union of a list of ranges. -/
def ranges (rs : List (Nat × Nat)) : CharSet := unionAll (rs.map fun r => range r.1 r.2)

/-- The ASCII digits. -/
def asciiDigit : CharSet := range 0x30 0x39

/-- The ASCII white space: tab, line feed, vertical tab, form feed, carriage return, space. -/
def asciiSpace : CharSet := ranges [(0x09, 0x0D), (0x20, 0x20)]

/-- The ASCII word characters: digits, letters and `_`. -/
def asciiWord : CharSet := ranges [(0x30, 0x39), (0x41, 0x5A), (0x5F, 0x5F), (0x61, 0x7A)]

/-- The bytes, as the code points from 0 to 255. -/
def bytes : CharSet := range 0 0xFF

/-- Whether a set of bytes holds a byte above the ASCII range. -/
def reachesHighBytes (s : CharSet) : Bool :=
  (List.range 0x80).any fun k => s.mem (Char.ofNat (0x80 + k))

end CharSet

/-- The POSIX classes written `[:name:]` inside a bracketed class, all within ASCII. -/
inductive AsciiClass where
  /-- Letters and digits. -/
  | alnum
  /-- Letters. -/
  | alpha
  /-- All of ASCII. -/
  | ascii
  /-- Space and tab. -/
  | blank
  /-- Control characters. -/
  | cntrl
  /-- Digits. -/
  | digit
  /-- Visible characters. -/
  | graph
  /-- Lower case letters. -/
  | lower
  /-- Visible characters and space. -/
  | print
  /-- Punctuation and symbols. -/
  | punct
  /-- White space. -/
  | space
  /-- Upper case letters. -/
  | upper
  /-- Letters, digits and `_`. -/
  | word
  /-- Hexadecimal digits. -/
  | xdigit
  deriving DecidableEq, Repr

namespace AsciiClass

/-- The class of a name, if there is one. -/
def ofName : String → Option AsciiClass
  | "alnum" => some .alnum
  | "alpha" => some .alpha
  | "ascii" => some .ascii
  | "blank" => some .blank
  | "cntrl" => some .cntrl
  | "digit" => some .digit
  | "graph" => some .graph
  | "lower" => some .lower
  | "print" => some .print
  | "punct" => some .punct
  | "space" => some .space
  | "upper" => some .upper
  | "word" => some .word
  | "xdigit" => some .xdigit
  | _ => none

/-- The ranges of code points of a class. -/
def ranges : AsciiClass → List (Nat × Nat)
  | .alnum => [(0x30, 0x39), (0x41, 0x5A), (0x61, 0x7A)]
  | .alpha => [(0x41, 0x5A), (0x61, 0x7A)]
  | .ascii => [(0x00, 0x7F)]
  | .blank => [(0x09, 0x09), (0x20, 0x20)]
  | .cntrl => [(0x00, 0x1F), (0x7F, 0x7F)]
  | .digit => [(0x30, 0x39)]
  | .graph => [(0x21, 0x7E)]
  | .lower => [(0x61, 0x7A)]
  | .print => [(0x20, 0x7E)]
  | .punct => [(0x21, 0x2F), (0x3A, 0x40), (0x5B, 0x60), (0x7B, 0x7E)]
  | .space => [(0x09, 0x0D), (0x20, 0x20)]
  | .upper => [(0x41, 0x5A)]
  | .word => [(0x30, 0x39), (0x41, 0x5A), (0x5F, 0x5F), (0x61, 0x7A)]
  | .xdigit => [(0x30, 0x39), (0x41, 0x46), (0x61, 0x66)]

/-- The set of a class. -/
def set (k : AsciiClass) : CharSet := CharSet.ranges k.ranges

end AsciiClass

end Chatbot.Pattern
