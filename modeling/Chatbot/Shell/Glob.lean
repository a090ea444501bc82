import Chatbot.Shell.Syntax

/-!
# Shell patterns

The patterns of `case` arms and of the `${x#…}` and `${x%…}` expansions: `*` matches any
text, `?` any one byte, a bracket expression `[…]` one byte of a set (`[!…]` or `[^…]` one byte
outside it, with ranges `a-z` and classes such as `[:digit:]`), and a backslash makes the next
character literal. Quoted characters are always literal, so a pattern is read from bytes that
each say whether they are active.
-/

namespace Chatbot.Shell

/-- One item of a compiled pattern. -/
inductive GlobItem where
  /-- This byte. -/
  | byte (b : UInt8)
  /-- `?`: any byte. -/
  | one
  /-- `*`: any text. -/
  | star
  /-- A bracket expression: a byte in the ranges, or outside them when `negated`. -/
  | set (negated : Bool) (ranges : List (UInt8 × UInt8))
  deriving DecidableEq, Repr

/-- The ranges of a character class named in a bracket expression. -/
def classRanges (name : Bytes) : Option (List (UInt8 × UInt8)) :=
  match textOf name with
  | "alpha" => some [(0x41, 0x5A), (0x61, 0x7A)]
  | "digit" => some [(0x30, 0x39)]
  | "alnum" => some [(0x30, 0x39), (0x41, 0x5A), (0x61, 0x7A)]
  | "upper" => some [(0x41, 0x5A)]
  | "lower" => some [(0x61, 0x7A)]
  | "space" => some [(0x09, 0x0D), (0x20, 0x20)]
  | "blank" => some [(0x09, 0x09), (0x20, 0x20)]
  | "punct" => some [(0x21, 0x2F), (0x3A, 0x40), (0x5B, 0x60), (0x7B, 0x7E)]
  | "xdigit" => some [(0x30, 0x39), (0x41, 0x46), (0x61, 0x66)]
  | "cntrl" => some [(0x00, 0x1F), (0x7F, 0x7F)]
  | "print" => some [(0x20, 0x7E)]
  | "graph" => some [(0x21, 0x7E)]
  | _ => none

/-- Read the inside of a bracket expression after `[` and its negation, up to the closing
`]`: the ranges and what follows, or `none` if it is not closed. `first` allows a `]` as the
first member. -/
def readBracket : Nat → Bool → List (UInt8 × UInt8) → List UInt8 →
    Option (List (UInt8 × UInt8) × List UInt8)
  | 0, _, _, _ => none
  | _, _, _, [] => none
  | fuel + 1, first, acc, b :: rest =>
    if b = 0x5D && !first then some (acc, rest)
    else if b = 0x5B && rest.head? = some 0x3A then
      let name := (rest.drop 1).takeWhile (· != 0x3A)
      let after := (rest.drop 1).drop name.length
      match after, classRanges name with
      | 0x3A :: 0x5D :: r, some rs => readBracket fuel false (acc ++ rs) r
      | _, _ => readBracket fuel false (acc ++ [(b, b)]) rest
    else
      match rest with
      | 0x2D :: c :: r =>
        if c = 0x5D then readBracket fuel false (acc ++ [(b, b)]) rest
        else readBracket fuel false (acc ++ [(b, c)]) r
      | _ => readBracket fuel false (acc ++ [(b, b)]) rest

/-- Compile a pattern given as bytes, each with whether it is active (written unquoted). -/
def compileGlob : Nat → List (UInt8 × Bool) → List GlobItem
  | 0, _ => []
  | _, [] => []
  | fuel + 1, (b, active) :: rest =>
    if !active then .byte b :: compileGlob fuel rest
    else if b = 0x2A then .star :: compileGlob fuel rest
    else if b = 0x3F then .one :: compileGlob fuel rest
    else if b = 0x5C then
      match rest with
      | (c, _) :: r => .byte c :: compileGlob fuel r
      | [] => [.byte b]
    else if b = 0x5B then
      let bytes := rest.map Prod.fst
      let (negated, body) := match bytes with
        | 0x21 :: r => (true, r)
        | 0x5E :: r => (true, r)
        | r => (false, r)
      match readBracket (body.length + 1) true [] body with
      | some (ranges, after) => .set negated ranges :: compileGlob fuel (rest.drop (rest.length - after.length))
      | none => .byte b :: compileGlob fuel rest
    else .byte b :: compileGlob fuel rest

/-- Whether a byte is in ranges. -/
def inByteRanges (rs : List (UInt8 × UInt8)) (b : UInt8) : Bool :=
  rs.any fun (lo, hi) => lo ≤ b && b ≤ hi

/-- Whether a compiled pattern matches all of a text. -/
def matchGlob : List GlobItem → Bytes → Bool
  | [], t => t.isEmpty
  | .star :: ps, t => (List.range (t.length + 1)).any fun k => matchGlob ps (t.drop k)
  | .one :: ps, _ :: t => matchGlob ps t
  | .byte b :: ps, c :: t => b == c && matchGlob ps t
  | .set neg rs :: ps, c :: t => (inByteRanges rs c != neg) && matchGlob ps t
  | _ :: _, [] => false

/-- Whether a pattern, given as bytes with their activity, matches all of a text. -/
def globMatches (pattern : List (UInt8 × Bool)) (t : Bytes) : Bool :=
  matchGlob (compileGlob (pattern.length + 1) pattern) t

/-- The text without a prefix matching the pattern: the shortest such prefix, or the longest
when `longest`; the text itself when none matches. -/
def dropMatchingPrefix (pattern : List (UInt8 × Bool)) (longest : Bool) (t : Bytes) : Bytes :=
  let ps := compileGlob (pattern.length + 1) pattern
  let lengths := List.range (t.length + 1)
  let order := if longest then lengths.reverse else lengths
  match order.find? fun k => matchGlob ps (t.take k) with
  | some k => t.drop k
  | none => t

/-- The text without a suffix matching the pattern: the shortest such suffix, or the longest
when `longest`; the text itself when none matches. -/
def dropMatchingSuffix (pattern : List (UInt8 × Bool)) (longest : Bool) (t : Bytes) : Bytes :=
  let ps := compileGlob (pattern.length + 1) pattern
  let lengths := List.range (t.length + 1)
  let order := if longest then lengths.reverse else lengths
  match order.find? fun k => matchGlob ps (t.drop (t.length - k)) with
  | some k => t.take (t.length - k)
  | none => t

end Chatbot.Shell
