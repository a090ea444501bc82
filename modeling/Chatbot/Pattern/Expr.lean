import Chatbot.Pattern.CharSet

/-!
# Compiled patterns and their matching

A compiled pattern is an expression over characters: one character from a set, an assertion
about the current place, concatenation, alternation and bounded or unbounded repetition.

Matching reads a text as an array of characters with places `0` to its size. The meaning of an
expression at a place is the list of places where a match of it that starts there can end;
an expression matches a text when it can match starting at some place. This is the whole
semantics: which match a search would report does not matter here, only whether there is one.

Repetition first takes the places after exactly the least number of rounds, then adds, round
by round, the places newly reached, until no new place appears or the greatest number of
rounds is used. A place first reached after `k` rounds yields the same next places whenever it
is reached again, so keeping only the new places loses nothing. There are finitely many places,
so the unbounded case stops once every place is known.

Assertions look at the characters just before and just after the place: the start and end of
the text, of a line (after or before a line feed, or, in CRLF mode, a carriage return not
followed by a line feed, and a line feed not preceded by a carriage return), and the word
boundaries, in their Unicode and ASCII forms.
-/

namespace Chatbot.Pattern

open Chatbot.Text

/-- An assertion about a place in a text. -/
inductive Look where
  /-- The start of the text. -/
  | start
  /-- The end of the text. -/
  | finish
  /-- The start of a line: the start of the text or after a line feed. -/
  | lineStart
  /-- The end of a line: the end of the text or before a line feed. -/
  | lineEnd
  /-- The start of a line where a line ends at a line feed, a carriage return, or both. -/
  | lineStartCRLF
  /-- The end of a line where a line ends at a line feed, a carriage return, or both. -/
  | lineEndCRLF
  /-- A word character on exactly one side. -/
  | boundary (unicode : Bool)
  /-- Word characters on both sides or on neither. -/
  | notBoundary (unicode : Bool)
  /-- A word character after and none before. -/
  | wordStart (unicode : Bool)
  /-- A word character before and none after. -/
  | wordEnd (unicode : Bool)
  /-- No word character before. -/
  | wordStartHalf (unicode : Bool)
  /-- No word character after. -/
  | wordEndHalf (unicode : Bool)
  deriving DecidableEq, Repr

/-- Whether a character counts as a word character, in Unicode or ASCII terms. -/
def isWordIn (unicode : Bool) (c : Char) : Bool :=
  if unicode then isWordChar c else c.isAlphanum || c = '_'

/-- Whether the character at `i` of `hay`, if any, is a word character. -/
def wordAt (unicode : Bool) (hay : Array Char) (i : Nat) : Bool :=
  match hay[i]? with
  | some c => isWordIn unicode c
  | none => false

/-- Whether the character before place `i` is a word character. -/
def wordBefore (unicode : Bool) (hay : Array Char) (i : Nat) : Bool :=
  match i with
  | 0 => false
  | j + 1 => wordAt unicode hay j

/-- Whether the character at `i` is `c`. -/
def charIs (hay : Array Char) (i : Nat) (c : Char) : Bool := hay[i]? == some c

/-- Whether the character before place `i` is `c`. -/
def charBefore (hay : Array Char) (i : Nat) (c : Char) : Bool :=
  match i with
  | 0 => false
  | j + 1 => charIs hay j c

/-- Whether an assertion holds at place `i` of `hay`. -/
def Look.holds (hay : Array Char) (i : Nat) : Look → Bool
  | .start => i == 0
  | .finish => i == hay.size
  | .lineStart => i == 0 || charBefore hay i '\n'
  | .lineEnd => i == hay.size || charIs hay i '\n'
  | .lineStartCRLF =>
    i == 0 || charBefore hay i '\n' || (charBefore hay i '\r' && !charIs hay i '\n')
  | .lineEndCRLF =>
    i == hay.size || charIs hay i '\r' || (charIs hay i '\n' && !charBefore hay i '\r')
  | .boundary u => wordBefore u hay i != wordAt u hay i
  | .notBoundary u => wordBefore u hay i == wordAt u hay i
  | .wordStart u => !wordBefore u hay i && wordAt u hay i
  | .wordEnd u => wordBefore u hay i && !wordAt u hay i
  | .wordStartHalf u => !wordBefore u hay i
  | .wordEndHalf u => !wordAt u hay i

/-- A compiled pattern. -/
inductive Expr where
  /-- The empty match. -/
  | empty
  /-- One character of a set. -/
  | set (s : CharSet)
  /-- An assertion, matching the empty text where it holds. -/
  | look (l : Look)
  /-- The first, then the second. -/
  | cat (a b : Expr)
  /-- Either one. -/
  | alt (a b : Expr)
  /-- From `least` to `most` rounds (any number at least `least` when `most` is `none`). -/
  | rep (least : Nat) (most : Option Nat) (e : Expr)
  deriving DecidableEq, Repr

namespace Expr

/-- The concatenation of a list, left to right. -/
def catAll : List Expr → Expr
  | [] => empty
  | [e] => e
  | e :: es => cat e (catAll es)

/-- The alternation of a list, in order. -/
def altAll : List Expr → Expr
  | [] => empty
  | [e] => e
  | e :: es => alt e (altAll es)

end Expr

/-- Add the places of `ps` missing from `acc`, in order. -/
def addPlaces (acc : List Nat) : List Nat → List Nat
  | [] => acc
  | p :: ps => if acc.contains p then addPlaces acc ps else addPlaces (acc ++ [p]) ps

/-- The places reached from any place of `ps` by one step of `f`, without repeats. -/
def stepPlaces (f : Nat → List Nat) (ps : List Nat) : List Nat :=
  ps.foldl (fun acc p => addPlaces acc (f p)) []

/-- The places reached from `ps` by exactly `n` steps of `f`. -/
def stepTimes (f : Nat → List Nat) : Nat → List Nat → List Nat
  | 0, ps => ps
  | n + 1, ps => stepTimes f n (stepPlaces f ps)

/-- Add to `acc` the places reached from the new places `fresh` by at most `n` more steps. -/
def spread (f : Nat → List Nat) : Nat → List Nat → List Nat → List Nat
  | 0, acc, _ => acc
  | n + 1, acc, fresh =>
    let next := (stepPlaces f fresh).filter fun p => !acc.contains p
    if next.isEmpty then acc else spread f n (acc ++ next) next

/-- The end places of `least` to `most` rounds of `f` from place `i`, in a text of `size`
characters. -/
def repeatPlaces (f : Nat → List Nat) (size least : Nat) (most : Option Nat) (i : Nat) :
    List Nat :=
  let first := stepTimes f least [i]
  match most with
  | some m => spread f (m - least) first first
  | none => spread f (size + 1) first first

namespace Expr

/-- The places where a match of `e` that starts at place `i` of `hay` can end. -/
def ends (hay : Array Char) : Expr → Nat → List Nat
  | empty, i => [i]
  | set s, i =>
    match hay[i]? with
    | some c => if s.mem c then [i + 1] else []
    | none => []
  | look l, i => if l.holds hay i then [i] else []
  | cat a b, i => stepPlaces (ends hay b) (ends hay a i)
  | alt a b, i => addPlaces (ends hay a i) (ends hay b i)
  | rep least most e, i => repeatPlaces (ends hay e) hay.size least most i

/-- Whether `e` matches somewhere in `hay`. -/
def matchesIn (e : Expr) (hay : Array Char) : Bool :=
  (List.range (hay.size + 1)).any fun i => !(e.ends hay i).isEmpty

end Expr

end Chatbot.Pattern
