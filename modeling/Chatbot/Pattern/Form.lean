import Chatbot.Pattern.Intervals
import Chatbot.Pattern.Expr

/-!
# The normal form of a pattern

Before a pattern is built into an automaton it is put in a normal form, which decides how big
the automaton gets. The form keeps what matching ignores (capturing groups, and literal text
as bytes) and is kept simplified by its constructors, each of which rewrites as it builds:

* a class of one character is that character's literal text, and a class of none never matches;
* a repetition of what only matches the empty text repeats at most once; `{0}` is the empty
  form and `{1}` the form itself;
* a concatenation drops empty parts, takes in the parts of concatenations inside it, and joins
  neighbouring literals; one part is that part;
* an alternation takes in the branches of alternations inside it; branches that are all single
  characters become a class, and so do branches that are all classes; branches that all start
  with the same parts have those parts taken out in front.

Each form also has a least and a greatest length of its matches in bytes (none for a greatest
length without bound, or for a least length of a form that never matches), and whether every
match starts at the start of the text, or ends at its end.
-/

namespace Chatbot.Pattern

/-- The UTF-8 bytes of a code point. -/
def utf8Bytes (n : Nat) : List Nat :=
  if n < 0x80 then [n]
  else if n < 0x800 then [0xC0 + n / 64, 0x80 + n % 64]
  else if n < 0x10000 then [0xE0 + n / 4096, 0x80 + n / 64 % 64, 0x80 + n % 64]
  else [0xF0 + n / 262144, 0x80 + n / 4096 % 64, 0x80 + n / 64 % 64, 0x80 + n % 64]

/-- The number of UTF-8 bytes of a code point. -/
def utf8Length (n : Nat) : Nat := (utf8Bytes n).length

/-- A pattern in normal form. -/
inductive Form where
  /-- The empty match. -/
  | empty
  /-- Literal text, as its UTF-8 bytes (never none). -/
  | literal (bytes : List Nat)
  /-- One character of a class, as sorted ranges of code points; no range matches nothing. -/
  | cls (ranges : List (Nat × Nat))
  /-- An assertion. -/
  | look (l : Look)
  /-- From `least` to `most` rounds (without bound when `most` is `none`). -/
  | rep (least : Nat) (most : Option Nat) (sub : Form)
  /-- A capturing group. -/
  | capture (sub : Form)
  /-- Parts in order, at least two. -/
  | concat (subs : List Form)
  /-- Branches in order, at least two. -/
  | alt (subs : List Form)
  deriving Repr, Inhabited

namespace Form

/-- The form that never matches: the empty class. -/
def fail : Form := cls []

/-- Structural equality of forms. -/
def beq : Form → Form → Bool
  | empty, empty => true
  | literal a, literal b => a == b
  | cls a, cls b => a == b
  | look a, look b => a == b
  | rep l1 m1 a, rep l2 m2 b => l1 == l2 && m1 == m2 && beq a b
  | capture a, capture b => beq a b
  | concat as, concat bs => beqAll as bs
  | alt as, alt bs => beqAll as bs
  | _, _ => false
where
  /-- Structural equality of lists of forms. -/
  beqAll : List Form → List Form → Bool
    | [], [] => true
    | a :: as, b :: bs => beq a b && beqAll as bs
    | _, _ => false

instance : BEq Form := ⟨beq⟩

/-- Add a length to an optional sum; none stays none. -/
def addLength (acc : Option Nat) (n : Option Nat) : Option Nat :=
  match acc, n with
  | some a, some b => some (a + b)
  | _, _ => none

/-- The least length in bytes of a match; none for a form that never matches. -/
def minLength : Form → Option Nat
  | empty => some 0
  | literal bs => some bs.length
  | cls rs => rs.head?.map fun r => utf8Length r.1
  | look _ => some 0
  | rep least _ sub => sub.minLength.map (· * least)
  | capture sub => sub.minLength
  | concat subs => minAll subs
  | alt subs => minAlt subs
where
  /-- The least length of a concatenation. -/
  minAll : List Form → Option Nat
    | [] => some 0
    | f :: fs => addLength f.minLength (minAll fs)
  /-- The least length of an alternation: none as soon as a branch has none. -/
  minAlt : List Form → Option Nat
    | [] => none
    | [f] => f.minLength
    | f :: fs =>
      match f.minLength, minAlt fs with
      | some a, some b => some (min a b)
      | _, _ => none

/-- The greatest length in bytes of a match; none when there is no bound. -/
def maxLength : Form → Option Nat
  | empty => some 0
  | literal bs => some bs.length
  | cls rs => rs.getLast?.map fun r => utf8Length r.2
  | look _ => some 0
  | rep _ most sub =>
    match most, sub.maxLength with
    | some m, some n => some (m * n)
    | _, _ => none
  | capture sub => sub.maxLength
  | concat subs => maxAll subs
  | alt subs => maxAlt subs
where
  /-- The greatest length of a concatenation. -/
  maxAll : List Form → Option Nat
    | [] => some 0
    | f :: fs => addLength f.maxLength (maxAll fs)
  /-- The greatest length of an alternation: none as soon as a branch has none. -/
  maxAlt : List Form → Option Nat
    | [] => none
    | [f] => f.maxLength
    | f :: fs =>
      match f.maxLength, maxAlt fs with
      | some a, some b => some (max a b)
      | _, _ => none

/-- Whether a form matches only the empty text (or nothing). -/
def onlyEmpty (f : Form) : Bool := f.maxLength == some 0

/-- Whether every match must start at the start of the text. -/
def anchoredStart : Form → Bool
  | look l => l == .start
  | rep least _ sub => least > 0 && sub.anchoredStart
  | capture sub => sub.anchoredStart
  | concat subs => prefixAnchored subs
  | alt subs => allAnchored subs
  | _ => false
where
  /-- Whether a part up to the first that can match more than the empty text is anchored. -/
  prefixAnchored : List Form → Bool
    | [] => false
    | f :: fs => f.anchoredStart || (f.onlyEmpty && prefixAnchored fs)
  /-- Whether every branch is anchored. -/
  allAnchored : List Form → Bool
    | [] => true
    | f :: fs => f.anchoredStart && allAnchored fs

/-- Whether every match must end at the end of the text. -/
def anchoredEnd : Form → Bool
  | look l => l == .finish
  | rep least _ sub => least > 0 && sub.anchoredEnd
  | capture sub => sub.anchoredEnd
  | concat subs => suffixAnchored subs
  | alt subs => allAnchored subs
  | _ => false
where
  /-- Whether a part, from the last back to the first that can match more than the empty
  text, is anchored. -/
  suffixAnchored : List Form → Bool
    | [] => false
    | f :: fs => suffixAnchored fs || (fs.all onlyEmpty && f.anchoredEnd)
  /-- Whether every branch is anchored. -/
  allAnchored : List Form → Bool
    | [] => true
    | f :: fs => f.anchoredEnd && allAnchored fs

/-- The form of a class given by sorted ranges of code points. -/
def ofRanges (rs : List (Nat × Nat)) : Form :=
  match rs with
  | [(a, b)] => if a = b then literal (utf8Bytes a) else cls rs
  | _ => cls rs

/-- The form of a set of characters. -/
def ofSet (s : CharSet) : Form := ofRanges s.codeRanges

/-- A repetition, simplified. -/
def repetition (least : Nat) (most : Option Nat) (sub : Form) : Form :=
  let (least, most) :=
    if sub.onlyEmpty then (min least 1, some (min (most.getD 1) 1)) else (least, most)
  if least = 0 && most = some 0 then empty
  else if least = 1 && most = some 1 then sub
  else rep least most sub

/-- Add a part to the parts of a concatenation so far (last first), joining literals. -/
def pushPart (acc : List Form) (f : Form) : List Form :=
  match f, acc with
  | empty, _ => acc
  | literal bs, literal prior :: rest => literal (prior ++ bs) :: rest
  | _, _ => f :: acc

/-- A concatenation, simplified. -/
def concatenation (subs : List Form) : Form :=
  let parts := subs.foldl (fun acc f =>
    match f with
    | concat inner => inner.foldl pushPart acc
    | _ => pushPart acc f) []
  match parts.reverse with
  | [] => empty
  | [f] => f
  | fs => concat fs

/-- The code point of literal text that is exactly one character. -/
def singleChar? (bs : List Nat) : Option Nat :=
  match bs with
  | [a] => if a < 0x80 then some a else none
  | [a, b] => if 0xC0 ≤ a && a < 0xE0 then some ((a - 0xC0) * 64 + (b - 0x80)) else none
  | [a, b, c] =>
    if 0xE0 ≤ a && a < 0xF0 then some ((a - 0xE0) * 4096 + (b - 0x80) * 64 + (c - 0x80))
    else none
  | [a, b, c, d] =>
    if 0xF0 ≤ a && a < 0xF8 then
      some ((a - 0xF0) * 262144 + (b - 0x80) * 4096 + (c - 0x80) * 64 + (d - 0x80))
    else none
  | _ => none

/-- The characters of branches that are all single characters. -/
def singleChars (fs : List Form) : Option (List Nat) :=
  fs.mapM fun f =>
    match f with
    | literal bs => singleChar? bs
    | _ => none

/-- The ranges of branches that are all classes. -/
def classRanges (fs : List Form) : Option (List (Nat × Nat)) :=
  (fs.mapM fun f =>
    match f with
    | cls rs => some rs
    | _ => none).map List.flatten

/-- The ranges of code points, merged, with the surrogate gap not counting as a gap. -/
def mergeCodeRanges (rs : List (Nat × Nat)) : List (Nat × Nat) :=
  (scalarsOfTable rs).map fun (a, b) => (codePointAt a, codePointAt b)

/-- The parts common to the fronts of lists of parts. -/
def commonPrefix : List Form → List Form → List Form
  | a :: as, b :: bs => if a == b then a :: commonPrefix as bs else []
  | _, _ => []

/-- Take parts that all branches start with out in front, if all branches are
concatenations with a common first part. -/
def liftPrefix (fs : List Form) : Option (List Form × List (List Form)) :=
  match fs.mapM (fun f => match f with
      | concat parts => some parts
      | _ => none) with
  | some (first :: rest) =>
    let common := rest.foldl commonPrefix first
    if common.isEmpty then none else some (common, (first :: rest).map (·.drop common.length))
  | _ => none

/-- An alternation, simplified; `fuel` bounds how many times parts common to all branches
are taken out in front, each time leaving shorter branches. -/
def alternationWith : Nat → List Form → Form
  | fuel, subs =>
    let branches := subs.flatMap fun f =>
      match f with
      | alt inner => inner
      | _ => [f]
    match branches with
    | [] => fail
    | [f] => f
    | _ =>
      match singleChars branches with
      | some cs => ofRanges (mergeCodeRanges (cs.map fun c => (c, c)))
      | none =>
        match classRanges branches with
        | some rs => ofRanges (mergeCodeRanges rs)
        | none =>
          match fuel, liftPrefix branches with
          | fuel + 1, some (common, rests) =>
            concatenation (common ++ [alternationWith fuel (rests.map concatenation)])
          | _, _ => alt branches

/-- An alternation, simplified. -/
def alternation (subs : List Form) : Form := alternationWith 64 subs

end Form

end Chatbot.Pattern
