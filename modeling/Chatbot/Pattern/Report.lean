

/-!
# Pattern errors and their reports

A refused pattern is reported with the pattern itself, the part of it at fault marked with
carets, and the reason. Places in a pattern count characters; lines and columns count from 1.

For a pattern on one line the report is

    regex parse error:
        <pattern>
        <carets>
    error: <reason>

where each marked part gets as many carets as it spans characters (at least one), under its
columns. A pattern with line breaks has its lines numbered, right-aligned to a common width,
and the lines framed by two rules of 79 tildes; carets follow the line they mark. A marked part
running over several lines is named by its first and last lines and columns below the rules.
Some errors mark a second part too, such as the first use of a repeated group name.

The last part finds the construct a pattern that nests too deeply is refused at.
-/

namespace Chatbot.Pattern

/-- A place in a pattern. -/
structure Position where
  /-- How many characters come before it. -/
  offset : Nat
  /-- Its line, from 1. -/
  line : Nat
  /-- Its column, from 1. -/
  column : Nat
  deriving DecidableEq, Repr

/-- The place of the first character. -/
def Position.first : Position := ⟨0, 1, 1⟩

/-- The place after the character `c` at `p`. -/
def Position.after (p : Position) (c : Char) : Position :=
  if c = '\n' then ⟨p.offset + 1, p.line + 1, 1⟩ else ⟨p.offset + 1, p.line, p.column + 1⟩

/-- A part of a pattern, from its first place to the place after it. -/
structure Span where
  /-- Where it starts. -/
  start : Position
  /-- Where it stops. -/
  stop : Position
  deriving DecidableEq, Repr

/-- The empty part at a place. -/
def Span.at (p : Position) : Span := ⟨p, p⟩

/-- Whether a part lies on one line. -/
def Span.oneLine (s : Span) : Bool := s.start.line == s.stop.line

/-- Whether a part comes before another in reading order (by start, then by end). -/
def Span.precedes (a b : Span) : Bool :=
  a.start.offset < b.start.offset ||
    (a.start.offset == b.start.offset && a.stop.offset ≤ b.stop.offset)

/-- Why a pattern was refused. -/
inductive ErrorKind where
  /-- Too many groups. -/
  | captureLimitExceeded
  /-- An escape that has no meaning inside a bracketed class. -/
  | classEscapeInvalid
  /-- A range whose start comes after its end. -/
  | classRangeInvalid
  /-- A range bound that is not a single character. -/
  | classRangeLiteral
  /-- A bracketed class without its closing bracket. -/
  | classUnclosed
  /-- A number without digits. -/
  | decimalEmpty
  /-- A number too large. -/
  | decimalInvalid
  /-- A hexadecimal escape without digits. -/
  | escapeHexEmpty
  /-- A hexadecimal escape that is no character. -/
  | escapeHexInvalid
  /-- A hexadecimal escape with a character that is no hexadecimal digit. -/
  | escapeHexInvalidDigit
  /-- An escape cut short by the end of the pattern. -/
  | escapeUnexpectedEof
  /-- An escape of no known meaning. -/
  | escapeUnrecognized
  /-- A flag negation with no flag after it. -/
  | flagDanglingNegation
  /-- A flag given twice. -/
  | flagDuplicate
  /-- A flag negation given twice. -/
  | flagRepeatedNegation
  /-- Flags cut short by the end of the pattern. -/
  | flagUnexpectedEof
  /-- A flag of no known meaning. -/
  | flagUnrecognized
  /-- A group name used twice. -/
  | groupNameDuplicate
  /-- A group name without characters. -/
  | groupNameEmpty
  /-- A group name with a character not allowed in it. -/
  | groupNameInvalid
  /-- A group name cut short by the end of the pattern. -/
  | groupNameUnexpectedEof
  /-- A group without its closing bracket. -/
  | groupUnclosed
  /-- A closing bracket without a group. -/
  | groupUnopened
  /-- Groups and classes nested too deep. -/
  | nestLimitExceeded (limit : Nat)
  /-- A counted repetition whose least count exceeds its greatest. -/
  | repetitionCountInvalid
  /-- A counted repetition without a count. -/
  | repetitionCountDecimalEmpty
  /-- A counted repetition without its closing brace. -/
  | repetitionCountUnclosed
  /-- A repetition with nothing to repeat. -/
  | repetitionMissing
  /-- A special word boundary without its closing brace. -/
  | specialWordBoundaryUnclosed
  /-- A special word boundary of no known name. -/
  | specialWordBoundaryUnrecognized
  /-- A brace after a word boundary, cut short by the end of the pattern. -/
  | specialWordOrRepetitionUnexpectedEof
  /-- A one-letter Unicode class written with an escape. -/
  | unicodeClassInvalid
  /-- A back-reference. -/
  | unsupportedBackreference
  /-- A look-ahead or look-behind. -/
  | unsupportedLookAround
  /-- A Unicode construct where only bytes are allowed. -/
  | unicodeNotAllowed
  /-- A construct that could match a byte sequence that is no text. -/
  | invalidUtf8
  /-- A Unicode property of no known name. -/
  | unicodePropertyNotFound
  /-- A Unicode property value of no known name. -/
  | unicodePropertyValueNotFound
  deriving DecidableEq, Repr

/-- The reason shown for an error. -/
def ErrorKind.message : ErrorKind → String
  | .captureLimitExceeded => "exceeded the maximum number of capturing groups (4294967295)"
  | .classEscapeInvalid => "invalid escape sequence found in character class"
  | .classRangeInvalid => "invalid character class range, the start must be <= the end"
  | .classRangeLiteral => "invalid range boundary, must be a literal"
  | .classUnclosed => "unclosed character class"
  | .decimalEmpty => "decimal literal empty"
  | .decimalInvalid => "decimal literal invalid"
  | .escapeHexEmpty => "hexadecimal literal empty"
  | .escapeHexInvalid => "hexadecimal literal is not a Unicode scalar value"
  | .escapeHexInvalidDigit => "invalid hexadecimal digit"
  | .escapeUnexpectedEof => "incomplete escape sequence, reached end of pattern prematurely"
  | .escapeUnrecognized => "unrecognized escape sequence"
  | .flagDanglingNegation => "dangling flag negation operator"
  | .flagDuplicate => "duplicate flag"
  | .flagRepeatedNegation => "flag negation operator repeated"
  | .flagUnexpectedEof => "expected flag but got end of regex"
  | .flagUnrecognized => "unrecognized flag"
  | .groupNameDuplicate => "duplicate capture group name"
  | .groupNameEmpty => "empty capture group name"
  | .groupNameInvalid => "invalid capture group character"
  | .groupNameUnexpectedEof => "unclosed capture group name"
  | .groupUnclosed => "unclosed group"
  | .groupUnopened => "unopened group"
  | .nestLimitExceeded n => s!"exceed the maximum number of nested parentheses/brackets ({n})"
  | .repetitionCountInvalid => "invalid repetition count range, the start must be <= the end"
  | .repetitionCountDecimalEmpty => "repetition quantifier expects a valid decimal"
  | .repetitionCountUnclosed => "unclosed counted repetition"
  | .repetitionMissing => "repetition operator missing expression"
  | .specialWordBoundaryUnclosed =>
    "special word boundary assertion is either unclosed or contains an invalid character"
  | .specialWordBoundaryUnrecognized =>
    "unrecognized special word boundary assertion, valid choices are: start, end, start-half or end-half"
  | .specialWordOrRepetitionUnexpectedEof =>
    "found either the beginning of a special word boundary or a bounded repetition on a " ++
      "\\b with an opening brace, but no closing brace"
  | .unicodeClassInvalid => "invalid Unicode character class"
  | .unsupportedBackreference => "backreferences are not supported"
  | .unsupportedLookAround => "look-around, including look-ahead and look-behind, is not supported"
  | .unicodeNotAllowed => "Unicode not allowed here"
  | .invalidUtf8 => "pattern can match invalid UTF-8"
  | .unicodePropertyNotFound => "Unicode property not found"
  | .unicodePropertyValueNotFound => "Unicode property value not found"

/-- An error at a part of a pattern, possibly with a second part. -/
structure Failure where
  /-- The reason. -/
  kind : ErrorKind
  /-- The part at fault. -/
  span : Span
  /-- A second part the reason refers to. -/
  aux : Option Span := none
  deriving DecidableEq, Repr

/-- A refused pattern with the reason. -/
structure PatternError where
  /-- The pattern. -/
  pattern : String
  /-- What is wrong with it. -/
  failure : Failure
  deriving DecidableEq, Repr

/-- A line that ended at a line feed, without the carriage return before it. -/
def dropReturn (l : String) : String := if l.endsWith "\r" then (l.dropEnd 1).toString else l

/-- The lines of a text: split at line feeds, a line ended by one losing a carriage return
before it, and no empty last line after a final line feed. -/
def textLines (s : String) : List String :=
  let parts := s.splitOn "\n"
  if s.isEmpty then []
  else if s.endsWith "\n" then parts.dropLast.map dropReturn
  else parts.dropLast.map dropReturn ++ parts.getLast?.toList

/-- `n` copies of `c`. -/
def repeatChar (c : Char) (n : Nat) : String := String.ofList (List.replicate n c)

/-- The caret row of the parts of one line, sorted, after `pos` characters already written. -/
def caretRow : Nat → List Span → String
  | _, [] => ""
  | pos, s :: rest =>
    let pad := s.start.column - 1 - pos
    let n := max 1 (s.stop.column - s.start.column)
    repeatChar ' ' pad ++ repeatChar '^' n ++ caretRow (pos + pad + n) rest

/-- The parts, in reading order. -/
def sortSpans : List Span → List Span
  | [a, b] => if a.precedes b then [a, b] else [b, a]
  | ss => ss

/-- The report of an error. -/
def PatternError.text (e : PatternError) : String :=
  let spans := e.failure.span :: e.failure.aux.toList
  let lines := textLines e.pattern
  let count := lines.length + (if e.pattern.endsWith "\n" then 1 else 0)
  let width := if count ≤ 1 then 0 else (toString count).length
  let padding := if width = 0 then 4 else 2 + width
  let numbered (i : Nat) : String :=
    if width = 0 then "    "
    else repeatChar ' ' (width - (toString i).length) ++ toString i ++ ": "
  let onLine (i : Nat) : List Span :=
    sortSpans (spans.filter fun s => s.oneLine && s.start.line == i)
  let notated := String.join ((lines.zipIdx 1).map fun (l, i) =>
    let marks := onLine i
    numbered i ++ l ++ "\n" ++
      (if marks.isEmpty then "" else repeatChar ' ' padding ++ caretRow 0 marks ++ "\n"))
  let reason := "error: " ++ e.failure.kind.message
  if e.pattern.contains '\n' then
    let rule := repeatChar '~' 79
    let several := sortSpans (spans.filter fun s => !s.oneLine)
    let notes := several.map fun s =>
      s!"on line {s.start.line} (column {s.start.column}) through line {s.stop.line} " ++
        s!"(column {s.stop.column - 1})"
    "regex parse error:\n" ++ rule ++ "\n" ++ notated ++ rule ++ "\n" ++
      (if notes.isEmpty then "" else "\n".intercalate notes ++ "\n") ++ reason
  else "regex parse error:\n" ++ notated ++ reason

end Chatbot.Pattern

/-! ### How deep a pattern nests

A pattern may nest at most 250 levels deep. The levels are counted on the outline of the
pattern as written: a group, a repetition, an alternation of two or more branches, a
concatenation of two or more items, and a bracketed class each open a level, and so do, inside
a bracketed class, a nested bracketed class, a union of two or more items and an operator such
as `&&`. Characters, escapes, POSIX classes and flag settings open none.

When the limit is passed, the pattern is refused at the first construct, in reading order,
that stands 251 levels deep: a construct comes before those inside it, and before those after
it. -/

namespace Chatbot.Pattern

/-- The outline of a construct that opens a level: where it is written, and the constructs
inside it that open levels, in order. -/
inductive Shape where
  /-- A construct and what it holds. -/
  | node (span : Span) (inner : List Shape)
  deriving Repr

/-- The deepest nesting allowed. -/
def nestLimit : Nat := 250

/-- The part of the first construct, in reading order, at depth `k + 1` among the outlines
(the outlines themselves being at depth 1). -/
def firstAtDepth : Nat → List Shape → Option Span
  | _, [] => none
  | 0, .node sp _ :: _ => some sp
  | k + 1, .node _ inner :: rest =>
    match firstAtDepth k inner with
    | some sp => some sp
    | none => firstAtDepth (k + 1) rest

/-- The error of a pattern nested too deep, if it is. -/
def nestingFailure (outline : List Shape) : Option Failure :=
  (firstAtDepth nestLimit outline).map fun sp => ⟨.nestLimitExceeded nestLimit, sp, none⟩

end Chatbot.Pattern
