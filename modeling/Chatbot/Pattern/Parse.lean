import Chatbot.Pattern.Report
import Chatbot.Pattern.Expr
import Chatbot.Pattern.Property
import Chatbot.Pattern.Form
import Chatbot.Text.Blank
import Chatbot.Text.Classes

/-!
# Reading patterns

A pattern is read from left to right in one pass, with a stack of the groups still open, and
compiled as it is read.

The syntax:

* a character stands for itself, except the operators below; `\` escapes a punctuation
  character, and `\a \f \t \n \r \v` are the usual control characters; `\x` with two
  hexadecimal digits, `\u` with four, `\U` with eight, or any of them with digits in braces,
  give a character by its code point;
* `.` is any character but a line feed; `^` and `$` are the start and end of the text (of a line
  with the `m` flag); `\A` and `\z` are always the start and end of the text; `\b`, `\B`, `\<`,
  `\>` and `\b{start}`, `\b{end}`, `\b{start-half}`, `\b{end-half}` are word boundaries;
* `\d \s \w` and their complements `\D \S \W` are the Unicode digits, white space and word
  characters; `\p{...}` and `\P{...}` are Unicode properties;
* `[...]` is a bracketed class: characters, ranges `a-z`, escapes, POSIX classes `[:name:]`,
  nested classes, and the operators `&&`, `--` and `~~` (intersection, difference, symmetric
  difference, all of one precedence, from left to right); `[^...]` is its complement;
* `(...)` groups, `(?:...)` groups without capturing, `(?P<name>...)` and `(?<name>...)`
  capture by name, `(?flags)` and `(?flags:...)` set flags: `i` (case-insensitive), `m`
  (multi-line), `s` (`.` also matches a line feed), `U` (lazy by default), `u` (Unicode),
  `R` (CRLF line ends) and `x` (white space and `#` comments are ignored), each negated after
  a `-`;
* `|` separates alternatives; `?`, `*`, `+`, `{n}`, `{n,}` and `{n,m}` repeat what precedes
  them, and a `?` after them makes them lazy.

A flag set by `(?flags)` holds to the end of the enclosing group. Without the `u` flag a
pattern may still only match text: whatever could match a byte above the ASCII range is
refused.

Errors come in two kinds. An error of *form* (an unclosed group, a bad escape, …) stops the
reading at once. An error of *meaning* (an unknown property, a class that could match bytes
that are no text) is found as the construct is compiled; the first one is kept and reported
only when the whole pattern has the right form, since the form is checked first.
-/

namespace Chatbot.Pattern

open Chatbot.Text

/-- A flag. -/
inductive Flag where
  /-- `i`: letters match in either case. -/
  | caseless
  /-- `m`: `^` and `$` match at line ends. -/
  | multiLine
  /-- `s`: `.` matches a line feed too. -/
  | dotAll
  /-- `U`: repetitions are lazy by default. -/
  | swapGreed
  /-- `u`: classes and `.` are Unicode-aware. -/
  | unicode
  /-- `R`: a carriage return ends a line too. -/
  | crlf
  /-- `x`: white space and comments are ignored. -/
  | verbose
  deriving DecidableEq, Repr

/-- An item of a flag group: a flag or the negation operator. -/
inductive FlagItem where
  /-- `-`: the flags after it are turned off. -/
  | negation
  /-- A flag. -/
  | flag (f : Flag)
  deriving DecidableEq, Repr

/-- The flags in force. -/
structure Flags where
  /-- Case-insensitive. -/
  caseless : Bool := false
  /-- Multi-line. -/
  multiLine : Bool := false
  /-- `.` matches a line feed. -/
  dotAll : Bool := false
  /-- Lazy by default. -/
  swapGreed : Bool := false
  /-- Unicode-aware. -/
  unicode : Bool := true
  /-- CRLF line ends. -/
  crlf : Bool := false
  deriving DecidableEq, Repr

namespace Flags

/-- Turn a flag on or off. -/
def put (fs : Flags) (v : Bool) : Flag → Flags
  | .caseless => { fs with caseless := v }
  | .multiLine => { fs with multiLine := v }
  | .dotAll => { fs with dotAll := v }
  | .swapGreed => { fs with swapGreed := v }
  | .unicode => { fs with unicode := v }
  | .crlf => { fs with crlf := v }
  | .verbose => fs

/-- Apply the items of a flag group, in order. -/
def apply (fs : Flags) (items : List FlagItem) : Flags :=
  (items.foldl (fun (acc : Flags × Bool) it =>
    match it with
    | .negation => (acc.1, false)
    | .flag f => (acc.1.put acc.2 f, acc.2)) (fs, true)).1

end Flags

/-- What a flag group says of the `x` flag, if it names it. -/
def verboseIn (items : List FlagItem) : Option Bool :=
  go false items
where
  /-- Scan with `off` telling whether a negation came before. -/
  go (off : Bool) : List FlagItem → Option Bool
    | [] => none
    | .negation :: rest => go true rest
    | .flag .verbose :: _ => some !off
    | .flag _ :: rest => go off rest

/-- An assertion as written. -/
inductive Assertion where
  /-- `^`. -/
  | lineStart
  /-- `$`. -/
  | lineEnd
  /-- `\A`. -/
  | textStart
  /-- `\z`. -/
  | textEnd
  /-- `\b`. -/
  | boundary
  /-- `\B`. -/
  | notBoundary
  /-- `\<` or `\b{start}`. -/
  | wordStart
  /-- `\>` or `\b{end}`. -/
  | wordEnd
  /-- `\b{start-half}`. -/
  | wordStartHalf
  /-- `\b{end-half}`. -/
  | wordEndHalf
  deriving DecidableEq, Repr

/-- A Perl class: `\d`, `\s` or `\w`. -/
inductive PerlClass where
  /-- Digits. -/
  | digit
  /-- White space. -/
  | space
  /-- Word characters. -/
  | word
  deriving DecidableEq, Repr

/-- A single construct read from a pattern. -/
inductive Primitive where
  /-- A character; `byte` when written `\x` with two digits, so that it may stand for a
  byte. -/
  | literal (c : Char) (byte : Bool) (span : Span)
  /-- An assertion. -/
  | assertion (a : Assertion) (span : Span)
  /-- `.`. -/
  | dot (span : Span)
  /-- A Perl class, possibly complemented. -/
  | perl (k : PerlClass) (negated : Bool) (span : Span)
  /-- A Unicode class, possibly complemented. -/
  | unicode (negated : Bool) (q : UnicodeQuery) (span : Span)
  deriving DecidableEq, Repr

/-- Where a construct stands in the pattern. -/
def Primitive.span : Primitive → Span
  | .literal _ _ s | .assertion _ s | .dot s | .perl _ _ s | .unicode _ _ s => s

/-! ## Meaning of constructs -/

/-- A failure at a part of the pattern. -/
def failAt (kind : ErrorKind) (span : Span) : Failure := ⟨kind, span, none⟩

/-- The set of one character, under the flags. -/
def literalSet (fl : Flags) (c : Char) (byte : Bool) (span : Span) : Except Failure CharSet :=
  if !fl.unicode then
    if c.toNat > 0x7F then
      .error (failAt (if byte then .invalidUtf8 else .unicodeNotAllowed) span)
    else if fl.caseless then .ok (.foldAscii (.single c))
    else .ok (.single c)
  else if fl.caseless then .ok (.fold (.single c))
  else .ok (.single c)

/-- The character of a class bound, which without Unicode must be ASCII. -/
def boundChar (fl : Flags) (c : Char) (byte : Bool) (span : Span) : Except Failure Nat :=
  if !fl.unicode && c.toNat > 0x7F then
    .error (failAt (if byte then .invalidUtf8 else .unicodeNotAllowed) span)
  else .ok c.toNat

/-- The set of `.` under the flags. -/
def dotSet (fl : Flags) (span : Span) : Except Failure CharSet :=
  if !fl.unicode then .error (failAt .invalidUtf8 span)
  else if fl.dotAll then .ok (.complement .none)
  else if fl.crlf then .ok (.complement (.ranges [(0x0A, 0x0A), (0x0D, 0x0D)]))
  else .ok (.complement (.single '\n'))

/-- The assertion checked for one written under the flags. -/
def lookOf (fl : Flags) : Assertion → Look
  | .lineStart => if !fl.multiLine then .start else if fl.crlf then .lineStartCRLF else .lineStart
  | .lineEnd => if !fl.multiLine then .finish else if fl.crlf then .lineEndCRLF else .lineEnd
  | .textStart => .start
  | .textEnd => .finish
  | .boundary => .boundary fl.unicode
  | .notBoundary => .notBoundary fl.unicode
  | .wordStart => .wordStart fl.unicode
  | .wordEnd => .wordEnd fl.unicode
  | .wordStartHalf => .wordStartHalf fl.unicode
  | .wordEndHalf => .wordEndHalf fl.unicode

/-- The set of a Perl class. Without Unicode it is the ASCII class, and its complement would
reach bytes above ASCII. -/
def perlSet (fl : Flags) (k : PerlClass) (negated : Bool) (span : Span) :
    Except Failure CharSet :=
  if fl.unicode then
    let s : CharSet := match k with
      | .digit => .digit
      | .space => .space
      | .word => .word
    .ok (if negated then .complement s else s)
  else
    let s : CharSet := match k with
      | .digit => CharSet.asciiDigit
      | .space => CharSet.asciiSpace
      | .word => CharSet.asciiWord
    if negated then .error (failAt .invalidUtf8 span) else .ok s

/-- Close a class under case, then complement it, as the flags say. Without Unicode the
complement is taken among bytes, and a result reaching above ASCII is refused. -/
def foldNegate (fl : Flags) (negated : Bool) (span : Span) (s : CharSet) :
    Except Failure CharSet :=
  if fl.unicode then
    let s := if fl.caseless then CharSet.fold s else s
    .ok (if negated then .complement s else s)
  else
    let s := if fl.caseless then CharSet.foldAscii s else s
    let s := if negated then CharSet.diff CharSet.bytes s else s
    if s.reachesHighBytes then .error (failAt .invalidUtf8 span) else .ok s

/-- The set of a Unicode class. -/
def unicodeSet (fl : Flags) (negated : Bool) (q : UnicodeQuery) (span : Span) :
    Except Failure CharSet :=
  if !fl.unicode then .error (failAt .unicodeNotAllowed span)
  else
    match q.lookup with
    | .ok s => foldNegate fl (negated != q.negatedByOperator) span s
    | .error k => .error (failAt k span)

/-- The set of a POSIX class inside brackets. -/
def asciiClassSet (fl : Flags) (k : AsciiClass) (negated : Bool) (span : Span) :
    Except Failure CharSet :=
  foldNegate fl negated span k.set

/-- A binary operator of bracketed classes. -/
inductive SetOp where
  /-- `&&`. -/
  | inter
  /-- `--`. -/
  | diff
  /-- `~~`. -/
  | symmDiff
  deriving DecidableEq, Repr

/-- Combine two sets, each first closed under case when the flags say so. -/
def SetOp.combine (fl : Flags) (op : SetOp) (a b : CharSet) : CharSet :=
  let close (s : CharSet) : CharSet :=
    if !fl.caseless then s else if fl.unicode then .fold s else .foldAscii s
  match op with
  | .inter => .inter (close a) (close b)
  | .diff => .diff (close a) (close b)
  | .symmDiff => .symmDiff (close a) (close b)

/-! ## The reader -/

/-- The reader's state. -/
structure Reader where
  /-- The characters not yet read. -/
  rest : List Char
  /-- The place of the next character. -/
  pos : Position
  /-- Whether white space and comments are skipped. -/
  verbose : Bool := false
  /-- The flags in force. -/
  flags : Flags := {}
  /-- The group names so far, with where they were written. -/
  names : List (String × Span) := []
  /-- The first error of meaning, if any. -/
  pending : Option Failure := none
  deriving Repr

/-- Reading a pattern, which may stop at an error of form. -/
abbrev Read := StateT Reader (Except Failure)

/-- Stop at an error of form. -/
def stop {α : Type} (kind : ErrorKind) (span : Span) : Read α := throw (failAt kind span)

/-- Keep the first error of meaning; a construct in error means nothing. -/
def keep {α : Type} (fallback : α) (r : Except Failure α) : Read α :=
  match r with
  | .ok a => pure a
  | .error f => do
    modify fun st => if st.pending.isNone then { st with pending := some f } else st
    pure fallback

/-- The next character. -/
def current : Read (Option Char) := return (← get).rest.head?

/-- The character after the next one. -/
def peek : Read (Option Char) := return (← get).rest.tail.head?

/-- Whether everything was read. -/
def atEnd : Read Bool := return (← get).rest.isEmpty

/-- The place of the next character. -/
def place : Read Position := return (← get).pos

/-- The empty part at the next character. -/
def here : Read Span := return Span.at (← get).pos

/-- The part of the next character. -/
def charSpan : Read Span := do
  let r ← get
  match r.rest with
  | c :: _ => return ⟨r.pos, r.pos.after c⟩
  | [] => return Span.at r.pos

/-- Read one character; whether another follows. -/
def bump : Read Bool := do
  let r ← get
  match r.rest with
  | c :: rest =>
    set { r with rest, pos := r.pos.after c }
    return !rest.isEmpty
  | [] => return false

/-- Read `s` if the text goes on with it. -/
def bumpIf (s : String) : Read Bool := do
  let r ← get
  if s.toList.isPrefixOf r.rest then
    set { r with rest := r.rest.drop s.length, pos := s.toList.foldl Position.after r.pos }
    return true
  else return false

/-- Read the first of `ss` the text goes on with, if any. -/
def bumpAny : List String → Read Bool
  | [] => return false
  | s :: ss => do if ← bumpIf s then return true else bumpAny ss

/-- Read the rest of a comment, up to and including the line feed. -/
def skipComment : Nat → Read Unit
  | 0 => pure ()
  | n + 1 => do
    match ← current with
    | none => pure ()
    | some c =>
      let _ ← bump
      if c = '\n' then pure () else skipComment n

/-- Skip white space and comments, at most `n` of them. -/
def skipSpaceFor : Nat → Read Unit
  | 0 => pure ()
  | n + 1 => do
    match ← current with
    | some c =>
      if isBlank c then
        let _ ← bump
        skipSpaceFor n
      else if c = '#' then
        let _ ← bump
        skipComment (← get).rest.length
        skipSpaceFor n
      else pure ()
    | none => pure ()

/-- In verbose mode, skip white space and comments. -/
def skipSpace : Read Unit := do
  let r ← get
  if r.verbose then skipSpaceFor r.rest.length else pure ()

/-- Read one character, then skip space; whether something is left. -/
def bumpSkip : Read Bool := do
  if !(← bump) then return false
  skipSpace
  return !(← atEnd)

/-- The first character after `after` that is not space or in a comment; where none is, the
first character of `after`. -/
def peekScan (after : List Char) : Bool → List Char → Option Char
  | _, [] => after.head?
  | inComment, c :: cs =>
    if isBlank c then peekScan after inComment cs
    else if !inComment && c = '#' then peekScan after true cs
    else if inComment && c = '\n' then peekScan after false cs
    else some c

/-- The character after the next one, skipping space in verbose mode. -/
def peekSpace : Read (Option Char) := do
  let r ← get
  if !r.verbose then return r.rest.tail.head?
  match r.rest with
  | [] => return none
  | _ :: after => return peekScan after false after

/-- Whether `c` is an ASCII hexadecimal digit. -/
def isHexDigit (c : Char) : Bool :=
  c.isDigit || ('a' ≤ c && c ≤ 'f') || ('A' ≤ c && c ≤ 'F')

/-- The value of a hexadecimal digit. -/
def hexValue (c : Char) : Nat :=
  if c.isDigit then c.toNat - '0'.toNat
  else if 'a' ≤ c && c ≤ 'f' then c.toNat - 'a'.toNat + 10
  else c.toNat - 'A'.toNat + 10

/-- The value of hexadecimal digits. -/
def hexNumber (ds : List Char) : Nat := ds.foldl (fun n c => 16 * n + hexValue c) 0

/-- The character of a code point, unless it is a surrogate or too large. -/
def scalar? (n : Nat) : Option Char :=
  if n < 0xD800 ∨ (0xDFFF < n ∧ n ≤ 0x10FFFF) then some (Char.ofNat n) else none

/-- The characters that are operators of the syntax. -/
def isMetaChar (c : Char) : Bool :=
  "\\.+*?()|[]{}^$#&-~".toList.contains c

/-- The characters that a backslash may escape to stand for themselves. -/
def isEscapable (c : Char) : Bool :=
  if isMetaChar c then true
  else if c.toNat ≥ 0x80 then false
  else !(c.isAlphanum || c = '<' || c = '>')

/-! ### Numbers -/

/-- Read ASCII digits, skipping space between them. -/
def readDigits : Nat → List Char → Read (List Char)
  | 0, acc => pure acc
  | n + 1, acc => do
    match ← current with
    | some c =>
      if c.isDigit then
        let _ ← bumpSkip
        readDigits n (acc ++ [c])
      else pure acc
    | none => pure acc

/-- Skip white space with plain reads. -/
def skipBlank : Nat → Read Unit
  | 0 => pure ()
  | n + 1 => do
    match ← current with
    | some c => if isBlank c then (do let _ ← bump; skipBlank n) else pure ()
    | none => pure ()

/-- Skip white space, each read followed by skipping space. -/
def skipBlankSkip : Nat → Read Unit
  | 0 => pure ()
  | n + 1 => do
    match ← current with
    | some c => if isBlank c then (do let _ ← bumpSkip; skipBlankSkip n) else pure ()
    | none => pure ()

/-- Read a decimal number below `2 ^ 32`, with white space around it; the error, if any, is
returned rather than raised. -/
def readDecimal : Read (Except Failure Nat) := do
  skipBlank (← get).rest.length
  let start ← place
  let ds ← readDigits (← get).rest.length []
  let span : Span := ⟨start, ← place⟩
  skipBlankSkip (← get).rest.length
  if ds.isEmpty then return .error (failAt .decimalEmpty span)
  let n := ds.foldl (fun n c => 10 * n + (c.toNat - '0'.toNat)) 0
  if n < Nat.pow 2 32 then return .ok n else return .error (failAt .decimalInvalid span)

/-- Read a repetition count: an empty number is reported as such. -/
def readCount : Read (Except Failure Nat) := do
  match ← readDecimal with
  | .error f => return .error (if f.kind = .decimalEmpty then { f with kind := .repetitionCountDecimalEmpty } else f)
  | .ok n => return .ok n

/-- Raise a returned error. -/
def orStop {α : Type} (r : Except Failure α) : Read α :=
  match r with
  | .ok a => pure a
  | .error f => throw f

/-! ### Escapes -/

/-- Read exactly `n` hexadecimal digits, the first being the next character. -/
def readHexFixed : Nat → Nat → List Char → Read (List Char)
  | 0, _, acc => pure acc
  | k + 1, i, acc => do
    if i > 0 then
      if !(← bumpSkip) then stop .escapeUnexpectedEof (← here)
    match ← current with
    | some c =>
      if isHexDigit c then readHexFixed k (i + 1) (acc ++ [c])
      else stop .escapeHexInvalidDigit (← charSpan)
    | none => stop .escapeUnexpectedEof (← here)

/-- Read hexadecimal digits up to a closing brace. -/
def readHexBraced : Nat → List Char → Read (List Char)
  | 0, acc => pure acc
  | n + 1, acc => do
    if !(← bumpSkip) then return acc
    match ← current with
    | some '}' => return acc
    | some c =>
      if isHexDigit c then readHexBraced n (acc ++ [c])
      else stop .escapeHexInvalidDigit (← charSpan)
    | none => return acc

/-- Read a hexadecimal escape after its `\`; the next character is `x`, `u` or `U`. Gives the
character, whether it may stand for a byte, and where the escape ends. -/
def readHex (kind : Char) : Read (Char × Bool × Position) := do
  let width := if kind = 'x' then 2 else if kind = 'u' then 4 else 8
  if !(← bumpSkip) then stop .escapeUnexpectedEof (← here)
  if (← current) = some '{' then
    let bracePos ← place
    let start := (← charSpan).stop
    let ds ← readHexBraced (← get).rest.length []
    if ← atEnd then stop .escapeUnexpectedEof ⟨bracePos, ← place⟩
    let close ← place
    let _ ← bumpSkip
    if ds.isEmpty then stop .escapeHexEmpty ⟨bracePos, ← place⟩
    match scalar? (hexNumber ds) with
    | some c => return (c, false, ← place)
    | none => stop .escapeHexInvalid ⟨start, close⟩
  else
    let start ← place
    let ds ← readHexFixed width 0 []
    let _ ← bumpSkip
    let close ← place
    match scalar? (hexNumber ds) with
    | some c => return (c, kind = 'x', close)
    | none => stop .escapeHexInvalid ⟨start, close⟩

/-- Read characters up to a closing brace. -/
def readBraced : Nat → List Char → Read (List Char)
  | 0, acc => pure acc
  | n + 1, acc => do
    if !(← bumpSkip) then return acc
    match ← current with
    | some '}' => return acc
    | some c => readBraced n (acc ++ [c])
    | none => return acc

/-- The position of the first `!=` in a list of characters. -/
def findNotEqual : List Char → Nat → Option Nat
  | '!' :: '=' :: _, i => some i
  | _ :: cs, i => findNotEqual cs (i + 1)
  | [], _ => none

/-- The query of a braced property name. -/
def queryOf (name : List Char) : UnicodeQuery :=
  match findNotEqual name 0 with
  | some i => .byValue true (String.ofList (name.take i)) (String.ofList (name.drop (i + 2)))
  | none =>
    match name.findIdx? fun c => c = ':' ∨ c = '=' with
    | some i => .byValue false (String.ofList (name.take i)) (String.ofList (name.drop (i + 1)))
    | none => .named (String.ofList name)

/-- Read a Unicode class after its `\`; the next character is `p` or `P`. -/
def readUnicodeClass (kind : Char) : Read (Bool × UnicodeQuery × Position) := do
  let negated := kind = 'P'
  if !(← bumpSkip) then stop .escapeUnexpectedEof (← here)
  if (← current) = some '{' then
    let name ← readBraced (← get).rest.length []
    if ← atEnd then stop .escapeUnexpectedEof (← here)
    let _ ← bump
    return (negated, queryOf name, ← place)
  else
    match ← current with
    | some '\\' => stop .unicodeClassInvalid (← charSpan)
    | some c =>
      let _ ← bumpSkip
      return (negated, .oneLetter c, ← place)
    | none => stop .escapeUnexpectedEof (← here)

/-- Whether a character may appear in the name of a special word boundary. -/
def isBoundaryNameChar (c : Char) : Bool := c.isAlpha || c = '-'

/-- Read the characters of a special word boundary's name. -/
def readBoundaryName : Nat → List Char → Read (List Char)
  | 0, acc => pure acc
  | n + 1, acc => do
    match ← current with
    | some c =>
      if isBoundaryNameChar c then
        let _ ← bumpSkip
        readBoundaryName n (acc ++ [c])
      else pure acc
    | none => pure acc

/-- After `\b`, at a `{`: read a special word boundary, or leave the brace to a repetition. -/
def readSpecialBoundary (escStart : Position) : Read (Option Assertion) := do
  let saved ← get
  let start ← place
  if !(← bumpSkip) then stop .specialWordOrRepetitionUnexpectedEof ⟨escStart, ← place⟩
  let contentStart ← place
  match ← current with
  | some c =>
    if !isBoundaryNameChar c then
      set saved
      return none
  | none => pure ()
  let name ← readBoundaryName (← get).rest.length []
  if (← atEnd) || (← current) != some '}' then
    stop .specialWordBoundaryUnclosed ⟨start, ← place⟩
  let close ← place
  let _ ← bump
  match String.ofList name with
  | "start" => return some .wordStart
  | "end" => return some .wordEnd
  | "start-half" => return some .wordStartHalf
  | "end-half" => return some .wordEndHalf
  | _ => stop .specialWordBoundaryUnrecognized ⟨contentStart, close⟩

/-- Read an escape; the next character is `\`. -/
def readEscape : Read Primitive := do
  let start ← place
  if !(← bump) then stop .escapeUnexpectedEof ⟨start, ← place⟩
  let some c ← current | stop .escapeUnexpectedEof ⟨start, ← place⟩
  if c.isDigit then stop .unsupportedBackreference ⟨start, (← charSpan).stop⟩
  if c = 'x' ∨ c = 'u' ∨ c = 'U' then
    let (ch, byte, close) ← readHex c
    return .literal ch byte ⟨start, close⟩
  if c = 'p' ∨ c = 'P' then
    let (negated, q, close) ← readUnicodeClass c
    return .unicode negated q ⟨start, close⟩
  let perl : Option (PerlClass × Bool) := match c with
    | 'd' => some (.digit, false)
    | 'D' => some (.digit, true)
    | 's' => some (.space, false)
    | 'S' => some (.space, true)
    | 'w' => some (.word, false)
    | 'W' => some (.word, true)
    | _ => none
  if let some (k, negated) := perl then
    let _ ← bump
    return .perl k negated ⟨start, ← place⟩
  let _ ← bump
  let span : Span := ⟨start, ← place⟩
  if isEscapable c then return .literal c false span
  match c with
  | 'a' => return .literal '\x07' false span
  | 'f' => return .literal '\x0C' false span
  | 't' => return .literal '\t' false span
  | 'n' => return .literal '\n' false span
  | 'r' => return .literal '\r' false span
  | 'v' => return .literal '\x0B' false span
  | 'A' => return .assertion .textStart span
  | 'z' => return .assertion .textEnd span
  | 'b' =>
    if (← current) = some '{' then
      match ← readSpecialBoundary start with
      | some a => return .assertion a ⟨start, ← place⟩
      | none => return .assertion .boundary span
    else return .assertion .boundary span
  | 'B' => return .assertion .notBoundary span
  | '<' => return .assertion .wordStart span
  | '>' => return .assertion .wordEnd span
  | _ => stop .escapeUnrecognized span

/-- Read a construct outside brackets: an escape, `.`, `^`, `$` or a character. -/
def readPrimitive : Read Primitive := do
  let sp ← charSpan
  match ← current with
  | some '\\' => readEscape
  | some '.' =>
    let _ ← bump
    return .dot sp
  | some '^' =>
    let _ ← bump
    return .assertion .lineStart sp
  | some '$' =>
    let _ ← bump
    return .assertion .lineEnd sp
  | some c =>
    let _ ← bump
    return .literal c false sp
  | none => stop .escapeUnexpectedEof sp

/-! ### Bracketed classes -/

/-- An item of a bracketed class: its set, where it is written, and the outline of the
constructs in it that open levels. -/
structure ClassPart where
  /-- The set. -/
  set : CharSet
  /-- Where it is written. -/
  span : Span
  /-- What opens levels in it. -/
  outline : List Shape

/-- The items of a union inside brackets, with the place where it starts. -/
structure ClassUnion where
  /-- Where the union starts, which stands for it while it is empty. -/
  start : Position
  /-- The items so far, in order. -/
  items : List ClassPart

/-- A union as one part: the union of its items, spanning them, opening a level when it has
two items or more. -/
def ClassUnion.part (u : ClassUnion) : ClassPart :=
  let span : Span := match u.items.head?, u.items.getLast? with
    | some f, some l => ⟨f.span.start, l.span.stop⟩
    | _, _ => Span.at u.start
  let outline := match u.items with
    | [] => []
    | [p] => p.outline
    | ps => [.node span (ps.flatMap (·.outline))]
  ⟨CharSet.unionAll (u.items.map (·.set)), span, outline⟩

/-- Add an item to a union. -/
def ClassUnion.push (u : ClassUnion) (p : ClassPart) : ClassUnion := { u with items := u.items ++ [p] }

/-- An open construct of a bracketed class. -/
inductive ClassFrame where
  /-- An open bracket: the enclosing union, whether it is complemented, where it starts, and
  its opening part. -/
  | bracket (parent : ClassUnion) (negated : Bool) (start : Position) (opening : Span)
  /-- An operator with its left side. -/
  | op (op : SetOp) (lhs : ClassPart)

/-- The error for a class left open: at the innermost open bracket. -/
def unclosedClass : List ClassFrame → Span → Failure
  | .bracket _ _ _ opening :: _, _ => failAt .classUnclosed opening
  | _ :: rest, sp => unclosedClass rest sp
  | [], sp => failAt .classUnclosed sp

/-- Read the opening of a bracketed class: `[`, an optional `^`, leading `-` and a leading
`]`, which stand for themselves. -/
def readClassOpen : Read (Bool × Position × Span × ClassUnion) := do
  let start ← place
  if !(← bumpSkip) then stop .classUnclosed ⟨start, ← place⟩
  let negated ← if (← current) != some '^' then pure false else do
    if !(← bumpSkip) then stop .classUnclosed ⟨start, ← place⟩
    pure true
  let unionStart ← place
  let dashes ← readDashes start (← get).rest.length []
  let items ← if dashes.isEmpty && (← current) = some ']' then do
      let sp ← charSpan
      if !(← bumpSkip) then stop .classUnclosed ⟨start, ← place⟩
      pure [⟨CharSet.single ']', sp, []⟩]
    else pure dashes
  return (negated, start, ⟨start, ← place⟩, ⟨unionStart, items⟩)
where
  /-- Read leading dashes. -/
  readDashes (start : Position) : Nat → List ClassPart → Read (List ClassPart)
    | 0, acc => pure acc
    | n + 1, acc => do
      if (← current) = some '-' then
        let sp ← charSpan
        if !(← bumpSkip) then stop .classUnclosed ⟨start, start⟩
        readDashes start n (acc ++ [⟨CharSet.single '-', sp, []⟩])
      else pure acc

/-- Read the characters of a POSIX class name, up to a colon. -/
def readAsciiName : Nat → List Char → Read (List Char)
  | 0, acc => pure acc
  | n + 1, acc => do
    match ← current with
    | some ':' => pure acc
    | some c => if ← bump then readAsciiName n (acc ++ [c]) else pure (acc ++ [c])
    | none => pure acc

/-- At a `[` inside a class, read a POSIX class `[:name:]` or `[:^name:]`; otherwise read
nothing. -/
def readAsciiClass : Read (Option (AsciiClass × Bool × Span)) := do
  let saved ← get
  let start ← place
  let back : Read (Option (AsciiClass × Bool × Span)) := do
    set saved
    return none
  if !(← bump) then return ← back
  if (← current) != some ':' then return ← back
  if !(← bump) then return ← back
  let negated ← if (← current) = some '^' then do
      if !(← bump) then return ← back
      pure true
    else pure false
  let name ← readAsciiName (← get).rest.length []
  if ← atEnd then return ← back
  if !(← bumpIf ":]") then return ← back
  match AsciiClass.ofName (String.ofList name) with
  | some k => return some (k, negated, ⟨start, ← place⟩)
  | none => back

/-- Read a class item: an escape or a character. -/
def readClassItem : Read Primitive := do
  if (← current) = some '\\' then readEscape
  else
    let sp ← charSpan
    match ← current with
    | some c =>
      let _ ← bump
      return .literal c false sp
    | none => stop .classUnclosed sp

/-- The set of a single class item. -/
def itemSet (p : Primitive) : Read CharSet := do
  let fl := (← get).flags
  match p with
  | .literal c byte sp => keep .none (literalSetInClass fl c byte sp)
  | .perl k negated sp => keep .none (perlSet fl k negated sp)
  | .unicode negated q sp => keep .none (unicodeSet fl negated q sp)
  | other => stop .classEscapeInvalid other.span
where
  /-- A character in a class is not closed under case by itself. -/
  literalSetInClass (fl : Flags) (c : Char) (byte : Bool) (sp : Span) : Except Failure CharSet :=
    (boundChar fl c byte sp).map fun n => CharSet.range n n

/-- The character of a range bound. -/
def boundOf (p : Primitive) : Read (Char × Bool × Span) :=
  match p with
  | .literal c byte sp => pure (c, byte, sp)
  | other => stop .classRangeLiteral other.span

/-- Read an item or a range of a class. -/
def readClassRange (stack : List ClassFrame) : Read ClassPart := do
  let p1 ← readClassItem
  skipSpace
  if ← atEnd then throw (unclosedClass stack (← here))
  let next ← peekSpace
  if (← current) != some '-' || next = some ']' || next = some '-' then
    return ⟨← itemSet p1, p1.span, []⟩
  if !(← bumpSkip) then throw (unclosedClass stack (← here))
  let p2 ← readClassItem
  let span : Span := ⟨p1.span.start, p2.span.stop⟩
  let (a, aByte, aSpan) ← boundOf p1
  let (b, bByte, bSpan) ← boundOf p2
  if b < a then stop .classRangeInvalid span
  let fl := (← get).flags
  let lo ← keep 0 (boundChar fl a aByte aSpan)
  let hi ← keep 0 (boundChar fl b bByte bSpan)
  return ⟨.range lo hi, span, []⟩

/-- Apply a pending operator to its right side; the result opens a level. -/
def popOp (fl : Flags) (rhs : ClassPart) : List ClassFrame → ClassPart × List ClassFrame
  | .op op lhs :: rest =>
    let span : Span := ⟨lhs.span.start, rhs.span.stop⟩
    (⟨op.combine fl lhs.set rhs.set, span, [.node span (lhs.outline ++ rhs.outline)]⟩, rest)
  | stack => (rhs, stack)

/-- Read the rest of a bracketed class, with the innermost union so far and the open
constructs. -/
def readClassBody : Nat → ClassUnion → List ClassFrame → Read ClassPart
  | 0, u, _ => pure ⟨.none, Span.at u.start, []⟩
  | n + 1, u, stack => do
    skipSpace
    let fl := (← get).flags
    match ← current with
    | none => throw (unclosedClass stack (← here))
    | some '[' =>
      let posix ← if stack.isEmpty then pure none else readAsciiClass
      match posix with
      | some (k, negated, sp) =>
        let s ← keep .none (asciiClassSet fl k negated sp)
        readClassBody n (u.push ⟨s, sp, []⟩) stack
      | none =>
        let (negated, start, opening, inner) ← readClassOpen
        readClassBody n inner (.bracket u negated start opening :: stack)
    | some ']' =>
      let (body, stack) := popOp fl u.part stack
      match stack with
      | .bracket parent negated start _ :: rest =>
        let _ ← bump
        let span : Span := ⟨start, ← place⟩
        let s ← keep .none (foldNegate fl negated span body.set)
        let bracketed : ClassPart := ⟨s, span, [.node span body.outline]⟩
        if rest.isEmpty then pure bracketed else readClassBody n (parent.push bracketed) rest
      | _ => pure body
    | some c =>
      let op : Option (SetOp × String) :=
        if c = '&' then some (.inter, "&&")
        else if c = '-' then some (.diff, "--")
        else if c = '~' then some (.symmDiff, "~~")
        else none
      match op with
      | some (o, spelled) =>
        if (← peek) = some c then
          let _ ← bumpIf spelled
          let (lhs, stack) := popOp fl u.part stack
          readClassBody n ⟨← place, []⟩ (.op o lhs :: stack)
        else
          let p ← readClassRange stack
          readClassBody n (u.push p) stack
      | none =>
        let p ← readClassRange stack
        readClassBody n (u.push p) stack

/-- Read a bracketed class; the next character is `[`. -/
def readClass : Read ClassPart := do
  readClassBody ((← get).rest.length + 1) ⟨← place, []⟩ []

/-! ### Groups and flags -/

/-- Read one flag. -/
def readFlag : Read Flag := do
  match ← current with
  | some 'i' => return .caseless
  | some 'm' => return .multiLine
  | some 's' => return .dotAll
  | some 'U' => return .swapGreed
  | some 'u' => return .unicode
  | some 'R' => return .crlf
  | some 'x' => return .verbose
  | _ => stop .flagUnrecognized (← charSpan)

/-- Read flag items up to a `:` or `)`, with the last negation not yet followed by a flag. -/
def readFlagItems : Nat → List (FlagItem × Span) → Option Span →
    Read (List (FlagItem × Span) × Option Span)
  | 0, acc, dangling => pure (acc, dangling)
  | n + 1, acc, dangling => do
    match ← current with
    | some ':' | some ')' => pure (acc, dangling)
    | some '-' =>
      let sp ← charSpan
      match acc.find? fun e => e.1 = .negation with
      | some (_, original) => throw ⟨.flagRepeatedNegation, sp, some original⟩
      | none => pure ()
      if !(← bump) then stop .flagUnexpectedEof (← here)
      readFlagItems n (acc ++ [(.negation, sp)]) (some sp)
    | some _ =>
      let sp ← charSpan
      let f ← readFlag
      match acc.find? fun e => e.1 = .flag f with
      | some (_, original) => throw ⟨.flagDuplicate, sp, some original⟩
      | none => pure ()
      if !(← bump) then stop .flagUnexpectedEof (← here)
      readFlagItems n (acc ++ [(.flag f, sp)]) none
    | none => stop .flagUnexpectedEof (← here)

/-- Read flags up to a `:` or `)`. -/
def readFlags : Read (List FlagItem) := do
  let (items, dangling) ← readFlagItems (← get).rest.length [] none
  if let some sp := dangling then stop .flagDanglingNegation sp
  return items.map Prod.fst

/-- Whether a character may appear in a group name, first or later. -/
def isNameChar (c : Char) (first : Bool) : Bool :=
  if first then c = '_' || isAlphabetic c
  else c = '_' || c = '.' || c = '[' || c = ']' || isAlphanumeric c

/-- Read the characters of a group name, up to `>`. -/
def readNameChars (start : Position) : Nat → List Char → Read (List Char)
  | 0, acc => pure acc
  | n + 1, acc => do
    match ← current with
    | some '>' => pure acc
    | some c =>
      if !isNameChar c ((← place) = start) then stop .groupNameInvalid (← charSpan)
      if ← bump then readNameChars start n (acc ++ [c]) else pure (acc ++ [c])
    | none => pure acc

/-- Read a group name and its closing `>`, and record it. -/
def readGroupName : Read Unit := do
  if ← atEnd then stop .groupNameUnexpectedEof (← here)
  let start ← place
  let name ← readNameChars start (← get).rest.length []
  let close ← place
  if ← atEnd then stop .groupNameUnexpectedEof (← here)
  let _ ← bump
  if name.isEmpty then stop .groupNameEmpty ⟨start, start⟩
  let text := String.ofList name
  let span : Span := ⟨start, close⟩
  match (← get).names.find? fun e => e.1 = text with
  | some (_, original) => throw ⟨.groupNameDuplicate, span, some original⟩
  | none => modify fun st => { st with names := st.names ++ [(text, span)] }

/-- What an opening bracket starts. -/
inductive Opening where
  /-- Flags for the rest of the enclosing group. -/
  | setFlags (items : List FlagItem)
  /-- A group, with its own flags if any, the part of its opening bracket, and whether it
  captures. -/
  | group (items : Option (List FlagItem)) (opening : Span) (captures : Bool)

/-- Read the start of a group; the next character is `(`. -/
def readGroupOpen : Read Opening := do
  let opening ← charSpan
  let _ ← bump
  skipSpace
  if ← bumpAny ["?=", "?!", "?<=", "?<!"] then
    stop .unsupportedLookAround ⟨opening.start, ← place⟩
  let inner ← here
  if ← bumpAny ["?P<", "?<"] then
    readGroupName
    return .group none opening true
  if ← bumpIf "?" then
    if ← atEnd then stop .groupUnclosed opening
    let items ← readFlags
    let close ← current
    let _ ← bump
    if close = some ')' then
      if items.isEmpty then stop .repetitionMissing inner
      return .setFlags items
    return .group (some items) opening false
  return .group none opening true

/-! ### The main loop -/

/-- A construct read: what it matches, its normal form, the outline of the constructs in it
that open levels, and where it is written. -/
structure Piece where
  /-- What it matches. -/
  expr : Expr
  /-- Its normal form. -/
  form : Form
  /-- What opens levels in it. -/
  outline : List Shape
  /-- Where it is written. -/
  span : Span

/-- An item of a sequence: a construct, or a flag setting, which matches nothing and cannot
be repeated. -/
inductive Item where
  /-- A construct. -/
  | piece (p : Piece)
  /-- A flag setting. -/
  | flags

/-- The pieces of a sequence kept last first, in order. -/
def piecesOf (items : List Item) : List Piece :=
  items.reverse.filterMap fun
    | .piece p => some p
    | .flags => none

/-- A sequence of items kept last first, from `start` to `stop`, as one piece: a
concatenation opens a level when it has two items or more, flag settings included. -/
def seqPiece (start stop : Position) (items : List Item) : Piece :=
  let ps := piecesOf items
  let span : Span := ⟨start, stop⟩
  let inner := ps.flatMap (·.outline)
  { expr := Expr.catAll (ps.map (·.expr))
    form := Form.concatenation (ps.map (·.form))
    outline := if items.length ≥ 2 then [.node span inner] else inner
    span }

/-- Alternatives in order, the first starting at `start` and the last ending at `stop`, as
one piece; one alternative is itself. -/
def altPiece (start stop : Position) : List Piece → Piece
  | [p] => p
  | ps =>
    let span : Span := ⟨start, stop⟩
    { expr := Expr.altAll (ps.map (·.expr))
      form := Form.alternation (ps.map (·.form))
      outline := [.node span (ps.flatMap (·.outline))]
      span }

/-- An open construct of the pattern. -/
inductive Frame where
  /-- An open group: the items before it (last first) and where their sequence starts, the
  verbose mode and flags to restore, its opening bracket, and whether it captures. -/
  | group (prior : List Item) (priorStart : Position) (verbose : Bool) (flags : Flags)
      (opening : Span) (captures : Bool)
  /-- The alternatives so far of the innermost group (last first), and where the first
  starts. -/
  | alternation (branches : List Piece) (start : Position)

/-- Take the construct a repetition applies to. -/
def lastRepeatable (items : List Item) : Read (Piece × List Item) := do
  match items with
  | .piece p :: rest => return (p, rest)
  | _ => stop .repetitionMissing (← here)

/-- A repetition of a piece, written up to `stop`. -/
def repeatPiece (p : Piece) (least : Nat) (most : Option Nat) (stop : Position) : Piece :=
  let span : Span := ⟨p.span.start, stop⟩
  { expr := .rep least most p.expr
    form := Form.repetition least most p.form
    outline := [.node span p.outline]
    span }

/-- Read `?`, `*` or `+` and an optional `?`. -/
def readUncounted (items : List Item) (least : Nat) (most : Option Nat) : Read (List Item) := do
  let (p, rest) ← lastRepeatable items
  if ← bump then
    if (← current) = some '?' then
      let _ ← bump
  return .piece (repeatPiece p least most (← place)) :: rest

/-- Read a counted repetition and an optional `?`; the next character is `{`. -/
def readCounted (items : List Item) : Read (List Item) := do
  let start ← place
  let (p, rest) ← lastRepeatable items
  if !(← bumpSkip) then stop .repetitionCountUnclosed ⟨start, ← place⟩
  let first ← readCount
  if ← atEnd then stop .repetitionCountUnclosed ⟨start, ← place⟩
  let (least, most) ← if (← current) = some ',' then do
      if !(← bumpSkip) then stop .repetitionCountUnclosed ⟨start, ← place⟩
      if (← current) != some '}' then
        let lo ← orStop first
        let hi ← orStop (← readCount)
        pure (lo, some hi)
      else pure ((← orStop first), none)
    else do
      let n ← orStop first
      pure (n, some n)
  if (← atEnd) || (← current) != some '}' then stop .repetitionCountUnclosed ⟨start, ← place⟩
  if ← bumpSkip then
    if (← current) = some '?' then
      let _ ← bump
  let opSpan : Span := ⟨start, ← place⟩
  match most with
  | some hi => if hi < least then stop .repetitionCountInvalid opSpan
  | none => pure ()
  return .piece (repeatPiece p least most (← place)) :: rest

/-- The piece of a primitive under the flags in force. -/
def primitivePiece (p : Primitive) : Read Piece := do
  let fl := (← get).flags
  let sp := p.span
  let ofSet (r : Except Failure CharSet) : Read Piece := do
    let s ← keep .none r
    return { expr := .set s, form := Form.ofSet s, outline := [], span := sp }
  match p with
  | .literal c byte _ => ofSet (literalSet fl c byte sp)
  | .dot _ => ofSet (dotSet fl sp)
  | .assertion a _ =>
    let l := lookOf fl a
    return { expr := .look l, form := .look l, outline := [], span := sp }
  | .perl k negated _ => ofSet (perlSet fl k negated sp)
  | .unicode negated q _ => ofSet (unicodeSet fl negated q sp)

/-- Close the innermost group at a `)`, the current sequence having started at `start`; the
items and start of the enclosing sequence, and the open constructs left. -/
def closeGroup (start : Position) (items : List Item) (stack : List Frame) :
    Read (List Item × Position × List Frame) := do
  let (branches, altStart, prior, priorStart, verbose, flags, opening, captures, rest) ←
    match stack with
    | .group prior ps v fl o c :: rest => pure ([], start, prior, ps, v, fl, o, c, rest)
    | .alternation bs s :: .group prior ps v fl o c :: rest => pure (bs, s, prior, ps, v, fl, o, c, rest)
    | _ => stop .groupUnopened (← charSpan)
  modify fun st => { st with verbose, flags }
  let closing ← place
  let _ ← bump
  let inner := altPiece altStart closing (seqPiece start closing items :: branches).reverse
  let span : Span := ⟨opening.start, ← place⟩
  let group : Piece :=
    { expr := inner.expr
      form := if captures then .capture inner.form else inner.form
      outline := [.node span inner.outline]
      span }
  return (.piece group :: prior, priorStart, rest)

/-- Finish at the end of the pattern, the current sequence having started at `start`. -/
def finish (start : Position) (items : List Item) (stack : List Frame) : Read Piece := do
  let stop ← place
  match stack with
  | [] => pure (seqPiece start stop items)
  | [.alternation bs s] => pure (altPiece s stop (seqPiece start stop items :: bs).reverse)
  | .group _ _ _ _ opening _ :: _ => throw (failAt .groupUnclosed opening)
  | .alternation _ _ :: .group _ _ _ _ opening _ :: _ => throw (failAt .groupUnclosed opening)
  | _ => pure (seqPiece start stop items)

/-- Read the pattern, with the start and items of the current sequence (last first) and the
open constructs; each round reads at least one character, so `fuel` above the length
suffices. -/
def readSeq : Nat → Position → List Item → List Frame → Read Piece
  | 0, start, items, stack => finish start items stack
  | fuel + 1, start, items, stack => do
    skipSpace
    match ← current with
    | none => finish start items stack
    | some '(' =>
      match ← readGroupOpen with
      | .setFlags fs =>
        modify fun st =>
          { st with verbose := (verboseIn fs).getD st.verbose, flags := st.flags.apply fs }
        readSeq fuel start (.flags :: items) stack
      | .group fs opening captures =>
        let st ← get
        let frame := Frame.group items start st.verbose st.flags opening captures
        match fs with
        | some fs =>
          set { st with verbose := (verboseIn fs).getD st.verbose, flags := st.flags.apply fs }
        | none => pure ()
        readSeq fuel (← place) [] (frame :: stack)
    | some ')' =>
      let (items, start, stack) ← closeGroup start items stack
      readSeq fuel start items stack
    | some '|' =>
      let e := seqPiece start (← place) items
      let stack := match stack with
        | .alternation bs s :: rest => .alternation (e :: bs) s :: rest
        | _ => .alternation [e] start :: stack
      let _ ← bump
      readSeq fuel (← place) [] stack
    | some '[' =>
      let c ← readClass
      let p : Piece := { expr := .set c.set, form := Form.ofSet c.set, outline := c.outline, span := c.span }
      readSeq fuel start (.piece p :: items) stack
    | some '?' => readSeq fuel start (← readUncounted items 0 (some 1)) stack
    | some '*' => readSeq fuel start (← readUncounted items 0 none) stack
    | some '+' => readSeq fuel start (← readUncounted items 1 none) stack
    | some '{' => readSeq fuel start (← readCounted items) stack
    | some _ =>
      let p ← primitivePiece (← readPrimitive)
      readSeq fuel start (.piece p :: items) stack

/-- Read a pattern, or give the first error: of form if there is one, then of nesting, then of
meaning. The pattern comes back as what it matches and as its normal form. -/
def parsePattern (pattern : String) : Except PatternError (Expr × Form) :=
  let start : Reader := { rest := pattern.toList, pos := Position.first }
  match (readSeq (pattern.length + 1) Position.first [] []).run start with
  | .error f => .error ⟨pattern, f⟩
  | .ok (p, st) =>
    match nestingFailure p.outline with
    | some f => .error ⟨pattern, f⟩
    | none =>
      match st.pending with
      | some f => .error ⟨pattern, f⟩
      | none => .ok (p.expr, p.form)

end Chatbot.Pattern
