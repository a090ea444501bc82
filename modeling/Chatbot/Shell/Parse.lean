import Chatbot.Shell.Syntax

/-!
# Reading shell command lines

A line is read token by token with one token of look-ahead. Blanks separate tokens; `#` at
the start of a token starts a comment. The operators are `;`, `;;`, `&`, `&&`, `|`, `||`, `(`,
`)` and the redirections `<`, `>`, `>>`, `<&`, `>&`, `<>`, `>|`, `<<`, `<<-`; a word made of
digits right before a redirection names the descriptor it redirects. A line break is a token
of its own.

Inside a word, `'…'` quotes everything, `"…"` quotes everything but `$`, backquotes and the
backslash before `$`, a backquote, `"`, `\` or a line break; elsewhere a backslash quotes the
next character, and a backslash before a line break joins the lines.

Reserved words (`if`, `then`, `else`, `elif`, `fi`, `do`, `done`, `case`, `esac`, `while`,
`until`, `for`, `in`, `{`, `}`, `!`) count only where a command may start, or where the
grammar expects them, and only when written without quotes.

Errors are reported as the shell reports them: `Syntax error: "fi" unexpected`,
`Syntax error: end of file unexpected (expecting "done")`,
`Syntax error: Unterminated quoted string`, and so on, with the line they were found on.

The top level of a script is read one line at a time: each complete line runs before the
next one is read, so an error on a later line does not stop the earlier ones.
-/

namespace Chatbot.Shell

/-- A token. -/
inductive Token where
  /-- A word; `plain` is its text when it has no quoting and no expansion. -/
  | word (w : Word) (plain : Option String)
  /-- A descriptor number right before a redirection. -/
  | fdNumber (n : Nat)
  /-- An operator. -/
  | op (s : String)
  /-- A line break. -/
  | newline
  /-- The end of the text. -/
  | eof
  deriving DecidableEq, Repr

/-- How the shell names a token in its messages. -/
def Token.describe : Token → String
  | .word _ (some s) =>
    if ["if", "then", "else", "elif", "fi", "do", "done", "case", "esac", "while", "until",
        "for", "in", "\x7b", "\x7d", "!"].contains s then "\"" ++ s ++ "\"" else "word"
  | .word _ none => "word"
  | .fdNumber _ => "word"
  | .op s =>
    if ["<", ">", ">>", "<&", ">&", "<>", ">|", "<<", "<<-"].contains s then "redirection"
    else "\"" ++ s ++ "\""
  | .newline => "newline"
  | .eof => "end of file"

/-- A syntax error: its message and the line it was found on. -/
structure SyntaxError where
  /-- The message, without the shell's name and the line. -/
  message : String
  /-- The line, from 1. -/
  line : Nat
  deriving DecidableEq, Repr

/-- The reader's state. -/
structure Lexer where
  /-- The characters not yet read. -/
  rest : List Char
  /-- The current line, from 1. -/
  line : Nat := 1
  /-- A token read ahead. -/
  ahead : Option Token := none
  /-- Lines of here-documents taken out of the text, counted at the next line break. -/
  pendingLines : Nat := 0
  deriving Repr

/-- Reading shell text. -/
abbrev Lex := StateT Lexer (Except SyntaxError)

/-- Fail with a message. -/
def lexFail {α : Type} (message : String) : Lex α := do
  throw ⟨message, (← get).line⟩

/-- The next character. -/
def nextChar : Lex (Option Char) := return (← get).rest.head?

/-- The character after the next one. -/
def secondChar : Lex (Option Char) := return (← get).rest.tail.head?

/-- Read one character, counting lines. -/
def advance : Lex Unit :=
  modify fun st =>
    match st.rest with
    | c :: rest =>
      if c = '\n' then { st with rest, line := st.line + 1 + st.pendingLines, pendingLines := 0 }
      else { st with rest }
    | [] => st

/-- Whether a character ends an unquoted word. -/
def endsWord (c : Char) : Bool := " \t\n;&|()<>".toList.contains c

/-- Whether a character may start a name. -/
def isNameStart (c : Char) : Bool := c.isAlpha || c = '_'

/-- Whether a character may continue a name. -/
def isNameChar (c : Char) : Bool := c.isAlphanum || c = '_'

/-- Whether a text is a name. -/
def isName (s : String) : Bool :=
  match s.toList with
  | c :: cs => isNameStart c && cs.all isNameChar
  | [] => false

/-- Add a part, merging text with text of the same quoting. -/
def pushPart (ps : Word) (p : Part) : Word :=
  match ps.getLast?, p with
  | some (.text a q), .text b q' =>
    if q = q' then ps.dropLast ++ [.text (a ++ b) q] else ps ++ [p]
  | _, _ => ps ++ [p]

/-- Read raw text up to the `)` closing a command substitution, keeping quotes as written. -/
def readParenBody : Nat → Nat → List Char → Lex (List Char)
  | 0, _, acc => pure acc
  | n + 1, depth, acc => do
    match ← nextChar with
    | none => lexFail "Syntax error: end of file unexpected (expecting \")\")"
    | some ')' =>
      advance
      if depth = 0 then pure acc else readParenBody n (depth - 1) (acc ++ [')'])
    | some '(' =>
      advance
      readParenBody n (depth + 1) (acc ++ ['('])
    | some '\\' =>
      advance
      match ← nextChar with
      | some c =>
        advance
        readParenBody n depth (acc ++ ['\\', c])
      | none => pure (acc ++ ['\\'])
    | some '\'' =>
      advance
      let body ← readUntilQuote n []
      readParenBody n depth (acc ++ ['\''] ++ body ++ ['\''])
    | some '"' =>
      advance
      let body ← readDoubleRaw n []
      readParenBody n depth (acc ++ ['"'] ++ body ++ ['"'])
    | some c =>
      advance
      readParenBody n depth (acc ++ [c])
where
  /-- Raw text up to a closing single quote. -/
  readUntilQuote : Nat → List Char → Lex (List Char)
    | 0, acc => pure acc
    | k + 1, acc => do
      match ← nextChar with
      | none => lexFail "Syntax error: Unterminated quoted string"
      | some '\'' =>
        advance
        pure acc
      | some c =>
        advance
        readUntilQuote k (acc ++ [c])
  /-- Raw text up to a closing double quote, keeping escapes. -/
  readDoubleRaw : Nat → List Char → Lex (List Char)
    | 0, acc => pure acc
    | k + 1, acc => do
      match ← nextChar with
      | none => lexFail "Syntax error: Unterminated quoted string"
      | some '"' =>
        advance
        pure acc
      | some '\\' =>
        advance
        match ← nextChar with
        | some c =>
          advance
          readDoubleRaw k (acc ++ ['\\', c])
        | none => pure (acc ++ ['\\'])
      | some c =>
        advance
        readDoubleRaw k (acc ++ [c])

/-- Read the text of an arithmetic expansion up to its closing `))`. -/
def readArithBody : Nat → Nat → List Char → Lex (List Char)
  | 0, _, acc => pure acc
  | n + 1, depth, acc => do
    match ← nextChar with
    | none => lexFail "Syntax error: end of file unexpected (expecting \")\")"
    | some '(' =>
      advance
      readArithBody n (depth + 1) (acc ++ ['('])
    | some ')' =>
      advance
      if depth = 0 then
        if (← nextChar) = some ')' then
          advance
          pure acc
        else lexFail "Syntax error: \")\" unexpected"
      else readArithBody n (depth - 1) (acc ++ [')'])
    | some c =>
      advance
      readArithBody n depth (acc ++ [c])

/-- Read the text of a backquoted substitution up to the closing backquote; a backslash
before `$`, a backquote or a backslash (and, inside double quotes, `"`) is dropped. -/
def readBackquote (inDouble : Bool) : Nat → List Char → Lex (List Char)
  | 0, acc => pure acc
  | n + 1, acc => do
    match ← nextChar with
    | none => lexFail "Syntax error: EOF in backquote substitution"
    | some '`' =>
      advance
      pure acc
    | some '\\' =>
      advance
      match ← nextChar with
      | some c =>
        advance
        if c = '$' ∨ c = '`' ∨ c = '\\' ∨ (inDouble ∧ c = '"') then readBackquote inDouble n (acc ++ [c])
        else readBackquote inDouble n (acc ++ ['\\', c])
      | none => lexFail "Syntax error: EOF in backquote substitution"
    | some c =>
      advance
      readBackquote inDouble n (acc ++ [c])

/-- Read raw text up to the `}` closing a parameter expansion. -/
def readBraceBody : Nat → Nat → List Char → Lex (List Char)
  | 0, _, acc => pure acc
  | n + 1, depth, acc => do
    match ← nextChar with
    | none => lexFail "Syntax error: Missing '\x7d'"
    | some '}' =>
      advance
      if depth = 0 then pure acc else readBraceBody n (depth - 1) (acc ++ ['}'])
    | some '$' =>
      advance
      if (← nextChar) = some '{' then
        advance
        readBraceBody n (depth + 1) (acc ++ ['$', '{'])
      else readBraceBody n depth (acc ++ ['$'])
    | some '\\' =>
      advance
      match ← nextChar with
      | some c =>
        advance
        readBraceBody n depth (acc ++ ['\\', c])
      | none => pure (acc ++ ['\\'])
    | some '\'' =>
      advance
      let body ← readParenBody.readUntilQuote n []
      readBraceBody n depth (acc ++ ['\''] ++ body ++ ['\''])
    | some '"' =>
      advance
      let body ← readParenBody.readDoubleRaw n []
      readBraceBody n depth (acc ++ ['"'] ++ body ++ ['"'])
    | some c =>
      advance
      readBraceBody n depth (acc ++ [c])

/-- The parameter expansion written `${body}`. -/
def braceParam (body : List Char) : Option (String × ParamOp) :=
  let nameOf (cs : List Char) : Option (String × List Char) :=
    match cs with
    | c :: rest =>
      if isNameStart c then
        let name := c :: rest.takeWhile isNameChar
        some (String.ofList name, rest.dropWhile isNameChar)
      else if c.isDigit then
        some (String.ofList (c :: rest.takeWhile Char.isDigit), rest.dropWhile Char.isDigit)
      else if "@*#?-$!".toList.contains c then some (String.singleton c, rest)
      else none
    | [] => none
  let opOf (name : String) (rest : List Char) : Option (String × ParamOp) :=
    match rest with
    | [] => some (name, .plain)
    | ':' :: '-' :: w => some (name, .orDefault true (String.ofList w))
    | ':' :: '=' :: w => some (name, .orAssign true (String.ofList w))
    | ':' :: '+' :: w => some (name, .ifSet true (String.ofList w))
    | ':' :: '?' :: w => some (name, .orFail true (String.ofList w))
    | '-' :: w => some (name, .orDefault false (String.ofList w))
    | '=' :: w => some (name, .orAssign false (String.ofList w))
    | '+' :: w => some (name, .ifSet false (String.ofList w))
    | '?' :: w => some (name, .orFail false (String.ofList w))
    | '%' :: '%' :: w => some (name, .dropSuffix true (String.ofList w))
    | '%' :: w => some (name, .dropSuffix false (String.ofList w))
    | '#' :: '#' :: w => some (name, .dropPrefix true (String.ofList w))
    | '#' :: w => some (name, .dropPrefix false (String.ofList w))
    | _ => none
  match body with
  | '#' :: rest@(_ :: _) =>
    match nameOf rest with
    | some (name, []) => some (name, .length)
    | _ =>
      match nameOf body with
      | some (name, r) => opOf name r
      | none => none
  | _ =>
    match nameOf body with
    | some (name, r) => opOf name r
    | none => none

/-- Read an expansion after its `$`. -/
def readDollar (quoted : Bool) : Lex Part := do
  match ← nextChar with
  | some '(' =>
    advance
    if (← nextChar) = some '(' then
      advance
      let body ← readArithBody ((← get).rest.length + 1) 0 []
      return .arith (String.ofList body) quoted
    let body ← readParenBody ((← get).rest.length + 1) 0 []
    return .subst (String.ofList body) quoted
  | some '{' =>
    advance
    let body ← readBraceBody ((← get).rest.length + 1) 0 []
    match braceParam body with
    | some (name, op) => return .param name op quoted
    | none => return .param "" .invalid quoted
  | some c =>
    if isNameStart c then
      let name := (← get).rest.takeWhile isNameChar
      modify fun st => { st with rest := st.rest.drop name.length }
      return .param (String.ofList name) .plain quoted
    else if c.isDigit || "@*#?-$!".toList.contains c then
      advance
      return .param (String.singleton c) .plain quoted
    else return .text "$" quoted
  | none => return .text "$" quoted

/-- Read the inside of double quotes, up to the closing quote. -/
def readDouble : Nat → Word → Lex Word
  | 0, acc => pure acc
  | n + 1, acc => do
    match ← nextChar with
    | none => lexFail "Syntax error: Unterminated quoted string"
    | some '"' =>
      advance
      pure acc
    | some '\\' =>
      advance
      match ← nextChar with
      | some '\n' =>
        advance
        readDouble n acc
      | some c =>
        advance
        if c = '$' ∨ c = '`' ∨ c = '"' ∨ c = '\\' then readDouble n (pushPart acc (.text (String.singleton c) true))
        else readDouble n (pushPart acc (.text (String.ofList ['\\', c]) true))
      | none => lexFail "Syntax error: Unterminated quoted string"
    | some '$' =>
      advance
      let p ← readDollar true
      readDouble n (pushPart acc p)
    | some '`' =>
      advance
      let body ← readBackquote true ((← get).rest.length + 1) []
      readDouble n (pushPart acc (.subst (String.ofList body) true))
    | some c =>
      advance
      readDouble n (pushPart acc (.text (String.singleton c) true))

/-- Read a word's parts up to an unquoted delimiter. -/
def readWordParts : Nat → Word → Lex Word
  | 0, acc => pure acc
  | n + 1, acc => do
    match ← nextChar with
    | none => pure acc
    | some c =>
      if endsWord c then pure acc
      else if c = '\\' then
        advance
        match ← nextChar with
        | some '\n' =>
          advance
          readWordParts n acc
        | some d =>
          advance
          readWordParts n (pushPart acc (.text (String.singleton d) true))
        | none => readWordParts n (pushPart acc (.text "\\" false))
      else if c = '\'' then
        advance
        let body ← readParenBody.readUntilQuote ((← get).rest.length + 1) []
        readWordParts n (acc ++ [.text (String.ofList body) true])
      else if c = '"' then
        advance
        let inner ← readDouble ((← get).rest.length + 1) []
        readWordParts n (if inner.isEmpty then acc ++ [.text "" true] else acc ++ inner)
      else if c = '$' then
        advance
        let p ← readDollar false
        readWordParts n (pushPart acc p)
      else if c = '`' then
        advance
        let body ← readBackquote false ((← get).rest.length + 1) []
        readWordParts n (acc ++ [.subst (String.ofList body) false])
      else
        advance
        readWordParts n (pushPart acc (.text (String.singleton c) false))

/-- The text of a word without quoting or expansion. -/
def plainText : Word → Option String
  | [.text s false] => some s
  | _ => none

/-- Skip blanks, joined lines and a comment. -/
def skipBlanks : Nat → Lex Unit
  | 0 => pure ()
  | n + 1 => do
    match ← nextChar with
    | some ' ' | some '\t' =>
      advance
      skipBlanks n
    | some '\\' =>
      if (← secondChar) = some '\n' then
        advance
        advance
        skipBlanks n
    | some '#' => modify fun st => { st with rest := st.rest.dropWhile fun c => c != '\n' }
    | _ => pure ()

/-- Read an operator starting with `c`. -/
def readOperator (c : Char) : Lex Token := do
  advance
  let next ← nextChar
  let two (d : Char) (s : String) (single : String) : Lex Token := do
    if next = some d then
      advance
      return .op s
    return .op single
  match c with
  | ';' => two ';' ";;" ";"
  | '&' => two '&' "&&" "&"
  | '|' => two '|' "||" "|"
  | '(' => return .op "("
  | ')' => return .op ")"
  | '<' =>
    match next with
    | some '<' =>
      advance
      if (← nextChar) = some '-' then
        advance
        return .op "<<-"
      return .op "<<"
    | some '&' =>
      advance
      return .op "<&"
    | some '>' =>
      advance
      return .op "<>"
    | _ => return .op "<"
  | _ =>
    match next with
    | some '>' =>
      advance
      return .op ">>"
    | some '&' =>
      advance
      return .op ">&"
    | some '|' =>
      advance
      return .op ">|"
    | _ => return .op ">"

/-- Read the next token. -/
def lexToken : Lex Token := do
  skipBlanks (← get).rest.length
  match ← nextChar with
  | none => return .eof
  | some '\n' =>
    advance
    return .newline
  | some c =>
    if ";&|()<>".toList.contains c then readOperator c
    else
      let w ← readWordParts ((← get).rest.length + 1) []
      let plain := plainText w
      match plain with
      | some s =>
        if !s.isEmpty && s.all Char.isDigit then
          match ← nextChar with
          | some '<' | some '>' => return .fdNumber s.toNat!
          | _ => return .word w plain
        else return .word w plain
      | none => return .word w plain

/-- The next token, without reading it. -/
def peekToken : Lex Token := do
  match (← get).ahead with
  | some t => return t
  | none =>
    let t ← lexToken
    modify fun st => { st with ahead := some t }
    return t

/-- Read the next token. -/
def takeToken : Lex Token := do
  let t ← peekToken
  modify fun st => { st with ahead := none }
  return t

/-- Fail at an unexpected token. -/
def unexpected {α : Type} (t : Token) (expecting : Option String) : Lex α :=
  match expecting with
  | some e => lexFail s!"Syntax error: {t.describe} unexpected (expecting \"{e}\")"
  | none => lexFail s!"Syntax error: {t.describe} unexpected"

/-- Whether a token is the reserved word `s`. -/
def Token.isWord (t : Token) (s : String) : Bool :=
  match t with
  | .word _ (some p) => p == s
  | _ => false

/-- Read the reserved word `s`, or fail. -/
def expectWord (s : String) : Lex Unit := do
  let t ← takeToken
  if !t.isWord s then unexpected t (some s)

/-- Read the operator `s`, or fail. -/
def expectOp (s : String) : Lex Unit := do
  let t ← takeToken
  if t != .op s then unexpected t (some s)

/-- Skip line breaks. -/
def skipNewlines : Nat → Lex Unit
  | 0 => pure ()
  | n + 1 => do
    if (← peekToken) = .newline then
      let _ ← takeToken
      skipNewlines n

/-- Whether a token ends a list: the end of the text, `)`, `;;` or a closing reserved word. -/
def Token.endsList (t : Token) : Bool :=
  match t with
  | .eof => true
  | .op s => s == ")" || s == ";;"
  | .word _ (some s) => ["then", "else", "elif", "fi", "do", "done", "esac", "\x7d"].contains s
  | _ => false

/-- Whether a token is a redirection operator. -/
def Token.isRedirect : Token → Bool
  | .op s => ["<", ">", ">>", "<&", ">&", "<>", ">|", "<<", "<<-"].contains s
  | .fdNumber _ => true
  | _ => false

/-- The assignment a word makes, if it is `name=value`. -/
def assignmentOf (w : Word) : Option (String × Word) :=
  match w with
  | .text s false :: rest =>
    match s.splitOn "=" with
    | name :: _ :: _ =>
      if isName name then
        let value := (s.drop (name.length + 1)).toString
        some (name, (if value.isEmpty then [] else [.text value false]) ++ rest)
      else none
    | _ => none
  | _ => none

/-- The delimiter of a here-document as written, and whether any of it was quoted: the
document is then taken as it stands, without expansions. -/
def hereDelimiter (w : Word) : String × Bool :=
  let text := String.join (w.map fun
    | .text s _ => s
    | .param name _ _ => "$" ++ name
    | .subst s _ => "$(" ++ s ++ ")"
    | .arith s _ => "$((" ++ s ++ "))")
  (text, w.any fun
    | .text _ q => q
    | .param _ _ q | .subst _ q | .arith _ q => q)

/-- The lines of a here-document in the text after the line of its operator: the document's
lines up to the delimiter line (compared after leading tabs when `strip`, which also removes
them from the document), the text after the delimiter line, and how many lines were taken.
Without a delimiter line the document runs to the end of the text. -/
def hereLines (after : List Char) (delim : List Char) (strip : Bool) :
    List (List Char) × List Char × Nat :=
  let raw := after.splitOn '\n'
  let shown := if strip then raw.map (·.dropWhile (· = '\t')) else raw
  match shown.findIdx? (· == delim) with
  | some i => (shown.take i, List.intercalate ['\n'] (raw.drop (i + 1)), i + 1)
  | none => ((if shown.getLast? = some [] then shown.dropLast else shown), [], raw.length - 1)

/-- Read the text of a here-document whose delimiter was not quoted: parameters,
substitutions and arithmetic expand, and a backslash quotes `$`, a backquote, a backslash or
a line break; everything else stands as written. -/
def readHereText (text : String) : Except SyntaxError Word :=
  ((go (text.length + 1) []).run { rest := text.toList }).map Prod.fst
where
  /-- Read the rest of the text. -/
  go : Nat → Word → Lex Word
    | 0, acc => pure acc
    | n + 1, acc => do
      match ← nextChar with
      | none => pure acc
      | some '\\' =>
        advance
        match ← nextChar with
        | some '\n' =>
          advance
          go n acc
        | some c =>
          advance
          if c = '$' ∨ c = '`' ∨ c = '\\' then go n (pushPart acc (.text (String.singleton c) true))
          else go n (pushPart acc (.text (String.ofList ['\\', c]) true))
        | none => pure (pushPart acc (.text "\\" true))
      | some '$' =>
        advance
        go n (pushPart acc (← readDollar true))
      | some '`' =>
        advance
        let body ← readBackquote false ((← get).rest.length + 1) []
        go n (pushPart acc (.subst (String.ofList body) true))
      | some c =>
        advance
        go n (pushPart acc (.text (String.singleton c) true))

/-- Read a here-document for the operator just read: its lines are taken out of the text
after the current line, and read as `readHereText` says unless the delimiter was quoted. -/
def readHereDocument (target : Word) (strip : Bool) : Lex Word := do
  let (delim, quoted) := hereDelimiter target
  let st ← get
  let cur := st.rest.takeWhile (· != '\n')
  if cur.length = st.rest.length then return [.text "" true]
  let (lines, remaining, taken) := hereLines (st.rest.drop (cur.length + 1)) delim.toList strip
  set { st with rest := cur ++ '\n' :: remaining, pendingLines := st.pendingLines + taken }
  let text := String.ofList (lines.flatMap (· ++ ['\n']))
  if quoted then return [.text text true]
  match readHereText text with
  | .ok w => return w
  | .error e => throw ⟨e.message, st.line⟩

/-- Read a redirection whose operator (and descriptor, if given) come next. -/
def readRedirect : Lex Redirect := do
  let fd? ← match ← peekToken with
    | .fdNumber n =>
      let _ ← takeToken
      pure (some n)
    | _ => pure none
  let opTok ← takeToken
  let opText := match opTok with
    | .op s => s
    | _ => ""
  let target ← match ← takeToken with
    | .word w _ => pure w
    | t => unexpected t none
  match opText with
  | "<<" => return .here (fd?.getD 0) (← readHereDocument target false)
  | "<<-" => return .here (fd?.getD 0) (← readHereDocument target true)
  | "<" | "<>" => return .read (fd?.getD 0) target
  | "<&" => return .dup (fd?.getD 0) target
  | ">&" => return .dup (fd?.getD 1) target
  | ">>" => return .write (fd?.getD 1) target true
  | _ => return .write (fd?.getD 1) target false

/-- Read redirections after a compound command. -/
def readRedirects : Nat → List Redirect → Lex (List Redirect)
  | 0, acc => pure acc
  | n + 1, acc => do
    if (← peekToken).isRedirect then
      let r ← readRedirect
      readRedirects n (acc ++ [r])
    else pure acc

mutual

/-- Read a list: and-or lists separated by `;`, `&` or line breaks, up to a token that ends
lists; `top` stops at a line break. -/
def readList : Nat → Bool → Lex Cmd
  | 0, _ => pure .skip
  | fuel + 1, top => do
    if !top then skipNewlines (← get).rest.length
    let first ← readAndOr fuel
    readListMore fuel top first

/-- Continue a list after `acc`. -/
def readListMore : Nat → Bool → Cmd → Lex Cmd
  | 0, _, acc => pure acc
  | fuel + 1, top, acc => do
    let t ← peekToken
    match t with
    | .op ";" | .op "&" | .newline =>
      if top && t = .newline then return acc
      let _ ← takeToken
      let acc := if t = .op "&" then Cmd.background acc else acc
      if !top then skipNewlines (← get).rest.length
      let t' ← peekToken
      if t'.endsList || (top && t' = .newline) then return acc
      let next ← readAndOr fuel
      readListMore fuel top (.seq acc next)
    | _ => pure acc

/-- Read pipelines joined by `&&` and `||`. -/
def readAndOr : Nat → Lex Cmd
  | 0 => pure .skip
  | fuel + 1 => do
    let first ← readPipeline fuel
    readAndOrMore fuel first

/-- Continue an and-or list after `acc`. -/
def readAndOrMore : Nat → Cmd → Lex Cmd
  | 0, acc => pure acc
  | fuel + 1, acc => do
    match ← peekToken with
    | .op "&&" =>
      let _ ← takeToken
      skipNewlines (← get).rest.length
      let next ← readPipeline fuel
      readAndOrMore fuel (.andThen acc next)
    | .op "||" =>
      let _ ← takeToken
      skipNewlines (← get).rest.length
      let next ← readPipeline fuel
      readAndOrMore fuel (.orElse acc next)
    | _ => pure acc

/-- Read a pipeline. -/
def readPipeline : Nat → Lex Cmd
  | 0 => pure .skip
  | fuel + 1 => do
    let negated ← if (← peekToken).isWord "!" then do
        let _ ← takeToken
        pure true
      else pure false
    let first ← readCommand fuel
    let stages ← readStages fuel [first]
    match stages, negated with
    | [c], false => pure c
    | cs, n => pure (.pipeline n cs)

/-- Read further stages of a pipeline. -/
def readStages : Nat → List Cmd → Lex (List Cmd)
  | 0, acc => pure acc
  | fuel + 1, acc => do
    if (← peekToken) = .op "|" then
      let _ ← takeToken
      skipNewlines (← get).rest.length
      let c ← readCommand fuel
      readStages fuel (acc ++ [c])
    else pure acc

/-- Read one command. -/
def readCommand : Nat → Lex Cmd
  | 0 => pure .skip
  | fuel + 1 => do
    let t ← peekToken
    if t.isWord "\x7b" then
      let _ ← takeToken
      let body ← readList fuel false
      expectWord "\x7d"
      return .group body (← readRedirects ((← get).rest.length + 1) [])
    if t = .op "(" then
      let _ ← takeToken
      let body ← readList fuel false
      expectOp ")"
      return .subshell body (← readRedirects ((← get).rest.length + 1) [])
    if t.isWord "if" then
      let _ ← takeToken
      let c ← readIfRest fuel
      expectWord "fi"
      return c (← readRedirects ((← get).rest.length + 1) [])
    if t.isWord "while" || t.isWord "until" then
      let _ ← takeToken
      let cond ← readList fuel false
      expectWord "do"
      let body ← readList fuel false
      expectWord "done"
      return .loop (t.isWord "until") cond body (← readRedirects ((← get).rest.length + 1) [])
    if t.isWord "for" then
      let _ ← takeToken
      return ← readFor fuel
    if t.isWord "case" then
      let _ ← takeToken
      return ← readCase fuel
    if t.endsList || t.isWord "in" then unexpected t none
    let line := (← get).line
    match t with
    | .word w name =>
      let _ ← takeToken
      if (← peekToken) = .op "(" then
        let _ ← takeToken
        expectOp ")"
        let name ← match name with
          | some s => if isName s then pure s else lexFail "Syntax error: Bad function name"
          | none => lexFail "Syntax error: Bad function name"
        skipNewlines (← get).rest.length
        let body ← readCommand fuel
        return .funcDef name body line
      match assignmentOf w with
      | some a => readSimple fuel line [a] [] []
      | none => readSimple fuel line [] [w] []
    | .fdNumber _ => readSimple fuel line [] [] []
    | .op _ => if t.isRedirect then readSimple fuel line [] [] [] else unexpected t none
    | _ => unexpected t none

/-- Read the rest of an `if` after the `if`, up to but not including the `fi`; the result
awaits its redirections. -/
def readIfRest : Nat → Lex (List Redirect → Cmd)
  | 0 => pure fun _ => .skip
  | fuel + 1 => do
    let cond ← readList fuel false
    expectWord "then"
    let thenPart ← readList fuel false
    let t ← peekToken
    if t.isWord "elif" then
      let _ ← takeToken
      let inner ← readIfRest fuel
      return fun rs => .ifThen cond thenPart (inner []) rs
    if t.isWord "else" then
      let _ ← takeToken
      let elsePart ← readList fuel false
      return fun rs => .ifThen cond thenPart elsePart rs
    return fun rs => .ifThen cond thenPart .skip rs

/-- Read a `for` loop after the `for`. -/
def readFor : Nat → Lex Cmd
  | 0 => pure .skip
  | fuel + 1 => do
    let var ← match ← takeToken with
      | .word _ (some v) => if isName v then pure v else lexFail "Syntax error: Bad for loop variable"
      | _ => lexFail "Syntax error: Bad for loop variable"
    skipNewlines (← get).rest.length
    let items ← if (← peekToken).isWord "in" then do
        let _ ← takeToken
        let ws ← readForWords ((← get).rest.length + 1) []
        match ← takeToken with
        | .newline | .op ";" => pure (some ws)
        | t => unexpected t none
      else do
        if (← peekToken) = .op ";" then
          let _ ← takeToken
        pure none
    skipNewlines (← get).rest.length
    expectWord "do"
    let body ← readList fuel false
    expectWord "done"
    return .forIn var items body (← readRedirects ((← get).rest.length + 1) [])

/-- Read the words of a `for` loop. -/
def readForWords : Nat → List Word → Lex (List Word)
  | 0, acc => pure acc
  | n + 1, acc => do
    match ← peekToken with
    | .word w _ =>
      let _ ← takeToken
      readForWords n (acc ++ [w])
    | _ => pure acc

/-- Read a `case` after the `case`. -/
def readCase : Nat → Lex Cmd
  | 0 => pure .skip
  | fuel + 1 => do
    let subject ← match ← takeToken with
      | .word w _ => pure w
      | t => unexpected t (some "word")
    skipNewlines (← get).rest.length
    expectWord "in"
    let arms ← readArms fuel []
    return .caseOf subject arms (← readRedirects ((← get).rest.length + 1) [])

/-- Read the arms of a `case`, and its `esac`. -/
def readArms : Nat → List (List Word × Cmd) → Lex (List (List Word × Cmd))
  | 0, acc => pure acc
  | fuel + 1, acc => do
    skipNewlines (← get).rest.length
    let t ← takeToken
    if t.isWord "esac" then return acc
    let t ← if t = .op "(" then takeToken else pure t
    let first ← match t with
      | .word w _ => pure w
      | t => unexpected t none
    let pats ← readPatterns (← get).rest.length [first]
    expectOp ")"
    skipNewlines (← get).rest.length
    let next ← peekToken
    let body ← if next = .op ";;" || next.isWord "esac" then pure Cmd.skip else readList fuel false
    let acc := acc ++ [(pats, body)]
    let t ← takeToken
    if t.isWord "esac" then return acc
    if t != .op ";;" then unexpected t (some ";;")
    readArms fuel acc

/-- Read further patterns of a `case` arm, each after a `|`. -/
def readPatterns : Nat → List Word → Lex (List Word)
  | 0, acc => pure acc
  | n + 1, acc => do
    if (← peekToken) = .op "|" then
      let _ ← takeToken
      match ← takeToken with
      | .word w _ => readPatterns n (acc ++ [w])
      | t => unexpected t none
    else pure acc

/-- Read a simple command written on `line`: assignments first, then words, with
redirections anywhere. -/
def readSimple : Nat → Nat → List (String × Word) → List Word → List Redirect → Lex Cmd
  | 0, line, a, w, r => pure (.simple a w r line)
  | fuel + 1, line, assigns, words, redirects => do
    let t ← peekToken
    if t.isRedirect then
      let r ← readRedirect
      return ← readSimple fuel line assigns words (redirects ++ [r])
    match t with
    | .word w _ =>
      let _ ← takeToken
      match assignmentOf w with
      | some a =>
        if words.isEmpty then readSimple fuel line (assigns ++ [a]) words redirects
        else readSimple fuel line assigns (words ++ [w]) redirects
      | none => readSimple fuel line assigns (words ++ [w]) redirects
    | _ =>
      if assigns.isEmpty && words.isEmpty && redirects.isEmpty then unexpected t none
      pure (.simple assigns words redirects line)

end

/-- Read the next line of a script: `none` at the end. -/
def readLine : Lex (Option Cmd) := do
  skipNewlines (← get).rest.length
  if (← peekToken) = .eof then return none
  let c ← readList ((← get).rest.length * 4 + 16) true
  match ← peekToken with
  | .newline =>
    let _ ← takeToken
    return some c
  | .eof => return some c
  | t => unexpected t none

/-- Read a word from its text, as if it stood alone in double quotes when `quoted`. -/
def readWordText (text : String) (quoted : Bool) : Except SyntaxError Word :=
  let st : Lexer := { rest := text.toList }
  let go : Lex Word := if quoted then readDoubleText (text.length + 1) [] else
    readWordAll (text.length + 1) []
  (go.run st).map Prod.fst
where
  /-- Read all of the text as double-quoted content. -/
  readDoubleText : Nat → Word → Lex Word
    | 0, acc => pure acc
    | n + 1, acc => do
      match ← nextChar with
      | none => pure acc
      | some '\\' =>
        advance
        match ← nextChar with
        | some c =>
          advance
          if c = '$' ∨ c = '`' ∨ c = '"' ∨ c = '\\' then readDoubleText n (pushPart acc (.text (String.singleton c) true))
          else readDoubleText n (pushPart acc (.text (String.ofList ['\\', c]) true))
        | none => pure (pushPart acc (.text "\\" true))
      | some '$' =>
        advance
        readDoubleText n (pushPart acc (← readDollar true))
      | some '`' =>
        advance
        let body ← readBackquote true ((← get).rest.length + 1) []
        readDoubleText n (pushPart acc (.subst (String.ofList body) true))
      | some c =>
        advance
        readDoubleText n (pushPart acc (.text (String.singleton c) true))
  /-- Read all of the text as one unquoted word, blanks included. -/
  readWordAll : Nat → Word → Lex Word
    | 0, acc => pure acc
    | n + 1, acc => do
      match ← nextChar with
      | none => pure acc
      | some c =>
        if endsWord c then
          advance
          readWordAll n (pushPart acc (.text (String.singleton c) false))
        else
          let w ← readWordParts ((← get).rest.length + 1) []
          readWordAll n (acc ++ w)

end Chatbot.Shell
