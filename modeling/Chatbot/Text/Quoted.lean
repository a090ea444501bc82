import Chatbot.Text.Classes

/-!
# Quoted text

Messages that show a value the caller typed (an invalid command name, an unknown level) write it
in double quotes with escapes, so that blanks and control characters stay visible:

* the NUL, tab, carriage return and line feed are written `\0`, `\t`, `\r`, `\n`;
* a backslash and a double quote are preceded by a backslash;
* every character of `isEscaped` is written `\u` followed by its code point in lower-case
  hexadecimal, without leading zeros, between braces (U+00A0 becomes `\u` `a0` in braces);
* every other character stands for itself (a single quote too).

The characters written as escapes are (Unicode character database, version 17.0): controls,
format characters, surrogates, private-use and unassigned code points, line and paragraph
separators, every space separator except the plain space, the characters that extend a
grapheme (combining marks and the others with the `Grapheme_Extend` property), and the code
points that are ignorable by default (the `Default_Ignorable_Code_Point` property, which adds
the Hangul fillers to the classes before). The classes are taken from the tables of version
16.0, less the letters, digits and symbols that version 17.0 assigned.
-/

namespace Chatbot.Text

open Chatbot.Unicode

/-- The closed ranges of code points that quoted text escapes, in increasing order. -/
def escapedRanges : Array (Nat × Nat) :=
  unionRanges [categoryRanges [.zs, .zl, .zp, .cc, .cf, .cs, .co, .cn],
    (binaryRanges "Grapheme_Extend").getD #[],
    (binaryRanges "Default_Ignorable_Code_Point").getD #[]]

/-- Whether quoted text writes `c` as a hexadecimal escape. Printable ASCII never is. -/
def isEscaped (c : Char) : Bool :=
  let n := c.toNat
  if 0x20 ≤ n && n < 0x7F then false
  else (addedKind? n).isNone && inRanges escapedRanges n

/-- Printable ASCII is written as itself. -/
theorem isEscaped_printable {c : Char} (h1 : 0x20 ≤ c.toNat) (h2 : c.toNat < 0x7F) :
    isEscaped c = false := by
  simp [isEscaped, h1, h2]

/-- Lower-case hexadecimal digits of `n`, without leading zeros. -/
def hexDigits (n : Nat) : List Char := Nat.toDigits 16 n

/-- How one character is written inside quotes. -/
def escapeChar (c : Char) : List Char :=
  if c = '\x00' then ['\\', '0']
  else if c = '\t' then ['\\', 't']
  else if c = '\r' then ['\\', 'r']
  else if c = '\n' then ['\\', 'n']
  else if c = '\\' then ['\\', '\\']
  else if c = '"' then ['\\', '"']
  else if isEscaped c then ['\\', 'u', '\x7b'] ++ hexDigits c.toNat ++ ['\x7d']
  else [c]

/-- The characters of a text between double quotes, each written by `escapeChar`. -/
def quoteChars (cs : List Char) : List Char := '"' :: cs.flatMap escapeChar ++ ['"']

/-- A text in double quotes, with escapes. -/
def quote (s : String) : String := String.ofList (quoteChars s.toList)

/-- A character that needs no escape stands for itself. -/
theorem escapeChar_plain {c : Char} (h0 : c ≠ '\x00') (h1 : c ≠ '\t') (h2 : c ≠ '\r')
    (h3 : c ≠ '\n') (h4 : c ≠ '\\') (h5 : c ≠ '"') (h6 : isEscaped c = false) :
    escapeChar c = [c] := by
  simp [escapeChar, h0, h1, h2, h3, h4, h5, h6]

end Chatbot.Text
