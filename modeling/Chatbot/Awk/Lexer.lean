import Chatbot.Awk.Syntax

/-!
# The tokens of awk programs

A program's text is read into tokens, each with the line it stands on: numbers, strings,
regular expressions, names (a name right before `(` is the name of a function called), the
names of awk's functions, keywords, operators, and line ends, which end statements.

A `/` begins a regular expression where an operand is awaited, and divides after one. In a
string, a backslash begins an escape: `\"`, `\\`, `\/`, `\a`, `\b`, `\f`, `\n`, `\r`, `\t`,
`\v` and up to three octal digits; a backslash before any other byte stays, with the byte. In
a regular expression `\/` is a slash and the escapes of control bytes are read the same way;
the others are left to the expression. A backslash at the end of a line joins it to the next,
and `#` begins a comment.
-/

namespace Chatbot.Awk

open Chatbot.Shell

/-- A token. -/
inductive Token where
  /-- A number, with its text. -/
  | num (d : Double) (text : Bytes)
  /-- A string. -/
  | str (s : Bytes)
  /-- A regular expression. -/
  | regex (r : Bytes)
  /-- A name. -/
  | name (n : String)
  /-- A name right before `(`: a function called. -/
  | funcName (n : String)
  /-- The name of one of awk's functions. -/
  | builtin (n : String)
  /-- A keyword. -/
  | keyword (k : String)
  /-- An operator or other punctuation. -/
  | punct (p : String)
  /-- The end of a line. -/
  | newline
  deriving Repr, Inhabited

/-- The keywords. -/
def awkKeywords : List String :=
  ["BEGIN", "END", "function", "func", "if", "else", "while", "for", "do", "break", "continue",
   "next", "nextfile", "exit", "return", "delete", "getline", "print", "printf", "in"]

/-- The names of awk's functions. -/
def awkBuiltins : List String :=
  ["length", "substr", "index", "split", "sub", "gsub", "match", "sprintf", "sin", "cos", "atan2",
   "exp", "log", "sqrt", "int", "rand", "srand", "tolower", "toupper", "system", "close", "fflush"]

/-- The operators, longest first. -/
def awkOperators : List String :=
  ["**=", "&&", "||", "==", "<=", ">=", "!=", "++", "--", "+=", "-=", "*=", "/=", "%=", "^=",
   ">>", "!~", "**", "\x7b", "\x7d", "(", ")", "[", "]", ";", ",", "+", "-", "*", "/", "%", "^", "!",
   ">", "<", "|", "?", ":", "~", "$", "="]

/-- Whether a token ends an operand, so that a `/` after it divides. -/
def Token.endsOperand : Token → Bool
  | .num _ _ | .str _ | .regex _ | .name _ | .builtin _ => true
  | .punct p => p = ")" || p = "]" || p = "++" || p = "--"
  | _ => false

/-- The text of a token, as an error names it. -/
def Token.text : Token → String
  | .num _ t => textOf t
  | .str s => "\"" ++ textOf s ++ "\""
  | .regex r => "/" ++ textOf r ++ "/"
  | .name n | .funcName n | .builtin n | .keyword n | .punct n => n
  | .newline => "end of line"

/-- Whether a byte may begin a name. -/
def isNameStart (b : UInt8) : Bool :=
  (0x41 ≤ b && b ≤ 0x5A) || (0x61 ≤ b && b ≤ 0x7A) || b = 0x5F

/-- Whether a byte may continue a name. -/
def isNameByte (b : UInt8) : Bool := isNameStart b || isDigit b

/-- Read the escape after a backslash: the bytes it stands for and the rest, or `none` when
it is not one of awk's escapes. -/
def readEscape (bs : Bytes) : Option (Bytes × Bytes) :=
  match bs with
  | c :: rest =>
    let simple : List (UInt8 × UInt8) :=
      [(0x22, 0x22), (0x5C, 0x5C), (0x2F, 0x2F), (0x61, 7), (0x62, 8), (0x66, 12), (0x6E, 10),
       (0x72, 13), (0x74, 9), (0x76, 11)]
    match simple.lookup c with
    | some b => some ([b], rest)
    | none =>
      if isOctal c then
        let ds := (c :: rest).takeWhile isOctal |>.take 3
        let v := ds.foldl (fun acc d => 8 * acc + (d - 0x30).toNat) 0
        some ([UInt8.ofNat (v % 256)], (c :: rest).drop ds.length)
      else none
  | [] => none

/-- Read escapes in text as a string does: an unknown escape keeps its backslash. -/
def unescape : Nat → Bytes → Bytes
  | 0, bs => bs
  | _, [] => []
  | fuel + 1, 0x5C :: rest =>
    match readEscape rest with
    | some (out, rest) => out ++ unescape fuel rest
    | none =>
      match rest with
      | [] => [0x5C]
      | c :: more => 0x5C :: c :: unescape fuel more
  | fuel + 1, b :: rest => b :: unescape fuel rest

/-- Read a string after its opening quote: its bytes and the rest after the closing quote,
or `none` when the line or the text ends first. -/
def readString : Nat → Bytes → Bytes → Option (Bytes × Bytes)
  | 0, _, _ => none
  | _, [], _ => none
  | fuel + 1, b :: rest, acc =>
    if b = 0x22 then some (acc, rest)
    else if b = 0x0A then none
    else if b = 0x5C then
      match rest with
      | 0x0A :: more => readString fuel more acc
      | _ =>
        match readEscape rest with
        | some (out, more) => readString fuel more (acc ++ out)
        | none =>
          match rest with
          | [] => none
          | c :: more => readString fuel more (acc ++ [0x5C, c])
    else readString fuel rest (acc ++ [b])

/-- Read a regular expression after its opening slash: its text and the rest after the
closing slash, or `none` when the line or the text ends first. A slash inside brackets does
not end it. -/
def readRegexLiteral : Nat → Bool → Bytes → Bytes → Option (Bytes × Bytes)
  | 0, _, _, _ => none
  | _, _, [], _ => none
  | fuel + 1, inBracket, b :: rest, acc =>
    if b = 0x0A then none
    else if b = 0x5C then
      match rest with
      | 0x2F :: more => readRegexLiteral fuel inBracket more (acc ++ [0x2F])
      | c :: more =>
        if !inBracket && (bytesOf "abfnrtv\"").contains c then
          match readEscape rest with
          | some (out, more') => readRegexLiteral fuel inBracket more' (acc ++ out)
          | none => readRegexLiteral fuel inBracket more (acc ++ [0x5C, c])
        else readRegexLiteral fuel inBracket more (acc ++ [0x5C, c])
      | [] => none
    else if inBracket then
      if b = 0x5D then readRegexLiteral fuel false rest (acc ++ [b])
      else readRegexLiteral fuel true rest (acc ++ [b])
    else if b = 0x2F then some (acc, rest)
    else if b = 0x5B then
      -- a `]` first in the brackets (after `^`) is a member
      let (lead, rest') : Bytes × Bytes := match rest with
        | 0x5E :: 0x5D :: more => ([0x5E, 0x5D], more)
        | 0x5D :: more => ([0x5D], more)
        | 0x5E :: more => ([0x5E], more)
        | more => ([], more)
      readRegexLiteral fuel true rest' (acc ++ [b] ++ lead)
    else readRegexLiteral fuel false rest (acc ++ [b])

/-- A lexical error: its message and line. -/
structure LexError where
  /-- What went wrong. -/
  message : String
  /-- Where. -/
  line : Nat
  deriving Repr

/-- Read the tokens of a program, each with its line. -/
def tokenize : Nat → Bytes → Nat → Array (Token × Nat) → Except LexError (Array (Token × Nat))
  | 0, _, _, acc => .ok acc
  | _, [], _, acc => .ok acc
  | fuel + 1, b :: rest, line, acc =>
    let prevEnds := (acc.back?.map fun t => t.1.endsOperand).getD false
    if b = 0x20 || b = 0x09 || b = 0x0D then tokenize fuel rest line acc
    else if b = 0x0A then tokenize fuel rest (line + 1) (acc.push (.newline, line))
    else if b = 0x5C && rest.head? = some 0x0A then tokenize fuel rest.tail (line + 1) acc
    else if b = 0x5C && rest.take 2 = [0x0D, 0x0A] then tokenize fuel (rest.drop 2) (line + 1) acc
    else if b = 0x23 then tokenize fuel (rest.dropWhile (· != 0x0A)) line acc
    else if b = 0x22 then
      match readString (rest.length + 1) rest [] with
      | some (s, more) => tokenize fuel more line (acc.push (.str s, line))
      | none =>
        let shown := rest.takeWhile (· != 0x0A)
        .error ⟨"runaway string constant \"" ++ textOf (shown.take 10) ++ " ...", line⟩
    else if b = 0x2F && !prevEnds then
      match readRegexLiteral (rest.length + 1) false rest [] with
      | some (r, more) => tokenize fuel more line (acc.push (.regex r, line))
      | none =>
        let shown := rest.takeWhile (· != 0x0A)
        .error ⟨"runaway regular expression /" ++ textOf (shown.take 10) ++ " ...", line⟩
    else if isDigit b || (b = 0x2E && (rest.head?.map isDigit).getD false) then
      let n := decimalPrefix (b :: rest)
      let text := (b :: rest).take n
      tokenize fuel ((b :: rest).drop n) line (acc.push (.num (readCDouble text).1 text, line))
    else if isNameStart b then
      let word := (b :: rest).takeWhile isNameByte
      let more := (b :: rest).drop word.length
      let w := textOf word
      let tok : Token :=
        if awkKeywords.contains w then .keyword w
        else if awkBuiltins.contains w then .builtin w
        else if more.head? = some 0x28 then .funcName w
        else .name w
      tokenize fuel more line (acc.push (tok, line))
    else
      match awkOperators.find? fun o => (bytesOf o).isPrefixOf (b :: rest) with
      | some o => tokenize fuel ((b :: rest).drop o.length) line (acc.push (.punct o, line))
      | none => .error ⟨"syntax error at or near " ++ textOf [b], line⟩

end Chatbot.Awk
