import Chatbot.Awk.Lexer

/-!
# Reading awk programs

The tokens of a program are read by recursive descent, one function for each level of
precedence. Each function takes fuel, which bounds the depth of the reading; the reading of
a list goes on while its tokens last.

Inside the arguments of `print` and `printf`, a `>` that is not in parentheses sends the output
to a file, and `|` to a command. A `(` after `print` opens the list of arguments when what
follows its `)` ends the statement, and otherwise an expression. `command | getline` reads a
line of a command's output.

A statement ends at a `;`, at the end of a line, or before a `}`. A line end may also follow
`{`, `&&`, `||`, `,`, `do`, `else`, and the `)` of `if`, `while` and `for`.

An error is `syntax error at or near` the token where the reading stopped, with its line.
-/

namespace Chatbot.Awk

open Chatbot.Shell

/-- What the reader has left: the tokens and the place of the next one. -/
structure Cursor where
  /-- The tokens, each with its line. -/
  toks : Array (Token × Nat)
  /-- The place of the next token. -/
  pos : Nat

/-- An error of reading: its message and line. -/
structure SyntaxError where
  /-- The message. -/
  message : String
  /-- The line. -/
  line : Nat
  deriving Repr

/-- Reading tokens. -/
abbrev P := StateT Cursor (Except SyntaxError)

/-- The next token, if any. -/
def peekTok : P (Option Token) := do
  let c ← get
  return (c.toks[c.pos]?).map (·.1)

/-- The token after the next, if any. -/
def peekTok2 : P (Option Token) := do
  let c ← get
  return (c.toks[c.pos + 1]?).map (·.1)

/-- The token `k` places on, if any. -/
def peekAt (k : Nat) : P (Option Token) := do
  let c ← get
  return (c.toks[c.pos + k]?).map (·.1)

/-- Step past the next token. -/
def advance : P Unit := modify fun c => { c with pos := c.pos + 1 }

/-- Fail at the next token. -/
def failHere {α : Type} : P α := do
  let c ← get
  match c.toks[c.pos]? with
  | some (t, line) => throw ⟨"syntax error at or near " ++ t.text, line⟩
  | none =>
    let line := (c.toks.back?.map (·.2)).getD 1
    throw ⟨"syntax error at or near end of file", line⟩

/-- Whether the next token is the punctuation `p`. -/
def atPunct (p : String) : P Bool := do
  match ← peekTok with
  | some (.punct q) => return q = p
  | _ => return false

/-- Whether the next token is the keyword `k`. -/
def atKeyword (k : String) : P Bool := do
  match ← peekTok with
  | some (.keyword q) => return q = k
  | _ => return false

/-- Step past the punctuation `p`, or fail. -/
def expectPunct (p : String) : P Unit := do
  if ← atPunct p then advance else failHere

/-- Step past line ends. -/
def skipNewlines : Nat → P Unit
  | 0 => pure ()
  | fuel + 1 => do
    match ← peekTok with
    | some .newline => advance; skipNewlines fuel
    | _ => pure ()

/-- Step past line ends and `;`. -/
def skipSeparators : Nat → P Unit
  | 0 => pure ()
  | fuel + 1 => do
    match ← peekTok with
    | some .newline => advance; skipSeparators fuel
    | some (.punct ";") => advance; skipSeparators fuel
    | _ => pure ()

/-- How many tokens are left: the bound of any list read. -/
def tokensLeft : P Nat := do
  let c ← get
  return c.toks.size - c.pos + 1

/-- The operator of an assignment token: `none` for `=`. -/
def assignOp : String → Option (Option ArithOp)
  | "=" => some none
  | "+=" => some (some .add)
  | "-=" => some (some .sub)
  | "*=" => some (some .mul)
  | "/=" => some (some .div)
  | "%=" => some (some .mod)
  | "^=" | "**=" => some (some .pow)
  | _ => none

/-- The comparison of a token. -/
def compareOp : String → Option CompareOp
  | "<" => some .lt
  | "<=" => some .le
  | "!=" => some .ne
  | "==" => some .eq
  | ">" => some .gt
  | ">=" => some .ge
  | _ => none

/-- The arithmetic operator of a token. -/
def arithOp : String → Option ArithOp
  | "+" => some .add
  | "-" => some .sub
  | "*" => some .mul
  | "/" => some .div
  | "%" => some .mod
  | _ => none

/-- Whether a token may begin an operand of a concatenation. -/
def Token.startsOperand : Token → Bool
  | .num _ _ | .str _ | .regex _ | .name _ | .funcName _ | .builtin _ => true
  | .punct p => p = "$" || p = "(" || p = "++" || p = "--" || p = "!" || p = "-" || p = "+"
  | _ => false

/-- Read operators of one level, left to right: `ops` the operators, `operand` the reading of
the level above, `joinLines` whether a line end may follow an operator. -/
def leftChain (ops : List String) (joinLines : Bool) (operand : P Expr)
    (build : String → Expr → Expr → Expr) : Nat → Expr → P Expr
  | 0, acc => pure acc
  | fuel + 1, acc => do
    match ← peekTok with
    | some (.punct op) =>
      if ops.contains op then
        advance
        if joinLines then skipNewlines (← tokensLeft)
        let b ← operand
        leftChain ops joinLines operand build fuel (build op acc b)
      else pure acc
    | _ => pure acc

mutual

/-- An expression, assignments included; `noGt` when a `>` outside parentheses ends it. -/
def parseExpr : Nat → Bool → P Expr
  | 0, _ => failHere
  | fuel + 1, noGt => do
    let lhs ← parseTernary fuel noGt
    match ← peekTok with
    | some (.punct p) =>
      match assignOp p with
      | some op =>
        if lhs.isLvalue then
          advance
          skipNewlines (← tokensLeft)
          let rhs ← parseExpr fuel noGt
          return .assign op lhs rhs
        else return lhs
      | none => return lhs
    | _ => return lhs

/-- `c ? a : b`. -/
def parseTernary : Nat → Bool → P Expr
  | 0, _ => failHere
  | fuel + 1, noGt => do
    let c ← parseOr fuel noGt
    if ← atPunct "?" then
      advance
      skipNewlines (← tokensLeft)
      let a ← parseExpr fuel noGt
      skipNewlines (← tokensLeft)
      expectPunct ":"
      skipNewlines (← tokensLeft)
      let b ← parseExpr fuel noGt
      return .cond c a b
    return c

/-- `a || b`. -/
def parseOr : Nat → Bool → P Expr
  | 0, _ => failHere
  | fuel + 1, noGt => do
    let a ← parseAnd fuel noGt
    leftChain ["||"] true (parseAnd fuel noGt) (fun _ x y => .or x y) (← tokensLeft) a

/-- `a && b`. -/
def parseAnd : Nat → Bool → P Expr
  | 0, _ => failHere
  | fuel + 1, noGt => do
    let a ← parseIn fuel noGt
    leftChain ["&&"] true (parseIn fuel noGt) (fun _ x y => .and x y) (← tokensLeft) a

/-- `k in array`. -/
def parseIn : Nat → Bool → P Expr
  | 0, _ => failHere
  | fuel + 1, noGt => do
    let a ← parseMatch fuel noGt
    parseInMore fuel a

/-- Go on after the left operand of `in`. -/
def parseInMore : Nat → Expr → P Expr
  | 0, a => pure a
  | fuel + 1, a => do
    if ← atKeyword "in" then
      advance
      match ← peekTok with
      | some (.name n) =>
        advance
        parseInMore fuel (.member [a] n)
      | _ => failHere
    else pure a

/-- `a ~ re` and `a !~ re`. -/
def parseMatch : Nat → Bool → P Expr
  | 0, _ => failHere
  | fuel + 1, noGt => do
    let a ← parseCompare fuel noGt
    leftChain ["~", "!~"] false (parseCompare fuel noGt) (fun op x y => .matches (op = "!~") x y)
      (← tokensLeft) a

/-- A comparison, and `command | getline`. -/
def parseCompare : Nat → Bool → P Expr
  | 0, _ => failHere
  | fuel + 1, noGt => do
    let a ← parseConcat fuel noGt
    let a ← parsePipes fuel a
    match ← peekTok with
    | some (.punct p) =>
      match compareOp p with
      | some op =>
        if noGt && p = ">" then return a
        advance
        let b ← parseConcat fuel noGt
        let b ← parsePipes fuel b
        return .compare op a b
      | none => return a
    | _ => return a

/-- Go on with `| getline` after a command. -/
def parsePipes : Nat → Expr → P Expr
  | 0, a => pure a
  | fuel + 1, a => do
    match ← peekTok, ← peekTok2 with
    | some (.punct "|"), some (.keyword "getline") =>
      advance
      advance
      let target ← parseGetTarget fuel
      parsePipes fuel (.getline .command target (some a))
    | _, _ => pure a

/-- The variable `getline` reads into, if one follows. -/
def parseGetTarget : Nat → P (Option Expr)
  | 0 => pure none
  | fuel + 1 => do
    match ← peekTok with
    | some (.name _) | some (.punct "$") => return some (← parsePrimary fuel)
    | _ => return none

/-- Values side by side. -/
def parseConcat : Nat → Bool → P Expr
  | 0, _ => failHere
  | fuel + 1, noGt => do
    let a ← parseAdditive fuel
    parseConcatMore fuel noGt a

/-- Go on with the values after the first of a concatenation. -/
def parseConcatMore : Nat → Bool → Expr → P Expr
  | 0, _, a => pure a
  | fuel + 1, noGt, a => do
    match ← peekTok with
    | some t =>
      let starts := match t with
        | .punct "-" | .punct "+" | .punct "!" => false
        | _ => t.startsOperand
      if starts then
        let b ← parseAdditive fuel
        parseConcatMore fuel noGt (.concat a b)
      else pure a
    | none => pure a

/-- `+` and `-`. -/
def parseAdditive : Nat → P Expr
  | 0 => failHere
  | fuel + 1 => do
    let a ← parseMul fuel
    leftChain ["+", "-"] false (parseMul fuel)
      (fun op x y => .arith ((arithOp op).getD .add) x y) (← tokensLeft) a

/-- `*`, `/` and `%`. -/
def parseMul : Nat → P Expr
  | 0 => failHere
  | fuel + 1 => do
    let a ← parseUnary fuel
    leftChain ["*", "/", "%"] false (parseUnary fuel)
      (fun op x y => .arith ((arithOp op).getD .mul) x y) (← tokensLeft) a

/-- Unary `!`, `-` and `+`. -/
def parseUnary : Nat → P Expr
  | 0 => failHere
  | fuel + 1 => do
    match ← peekTok with
    | some (.punct "!") => advance; return .not (← parseUnary fuel)
    | some (.punct "-") => advance; return .neg (← parseUnary fuel)
    | some (.punct "+") => advance; return .pos (← parseUnary fuel)
    | _ => parsePower fuel

/-- `a ^ b`, grouping to the right; the exponent may have a sign. -/
def parsePower : Nat → P Expr
  | 0 => failHere
  | fuel + 1 => do
    let a ← parsePostfix fuel
    match ← peekTok with
    | some (.punct "^") | some (.punct "**") =>
      advance
      let b ← match ← peekTok with
        | some (.punct "-") | some (.punct "+") | some (.punct "!") => parseUnary fuel
        | _ => parsePower fuel
      return .arith .pow a b
    | _ => return a

/-- A primary, then `++` or `--` after a variable. -/
def parsePostfix : Nat → P Expr
  | 0 => failHere
  | fuel + 1 => do
    let a ← parsePrimary fuel
    if a.isLvalue then
      match ← peekTok with
      | some (.punct "++") => advance; return .step false true a
      | some (.punct "--") => advance; return .step false false a
      | _ => return a
    return a

/-- A number, string, regular expression, variable, field, call, `getline`, or an expression in
parentheses. -/
def parsePrimary : Nat → P Expr
  | 0 => failHere
  | fuel + 1 => do
    match ← peekTok with
    | some (.num d _) => advance; return .num d
    | some (.str s) => advance; return .str s
    | some (.regex r) => advance; return .regex r
    | some (.punct "$") =>
      advance
      match ← peekTok with
      | some (.punct "++") => advance; return .field (.step true true (← parsePrimary fuel))
      | some (.punct "--") => advance; return .field (.step true false (← parsePrimary fuel))
      | some (.punct "-") => advance; return .field (.neg (← parsePrimary fuel))
      | _ => return .field (← parsePrimary fuel)
    | some (.punct "++") => advance; return .step true true (← parsePrimary fuel)
    | some (.punct "--") => advance; return .step true false (← parsePrimary fuel)
    | some (.punct "!") => advance; return .not (← parseUnary fuel)
    | some (.punct "-") => advance; return .neg (← parseUnary fuel)
    | some (.punct "(") =>
      advance
      skipNewlines (← tokensLeft)
      let es ← parseList fuel ")"
      match es with
      | [e] => return .group e
      | _ =>
        if ← atKeyword "in" then
          advance
          match ← peekTok with
          | some (.name n) => advance; return .member es n
          | _ => failHere
        else failHere
    | some (.name n) =>
      advance
      if ← atPunct "[" then
        advance
        let subs ← parseList fuel "]"
        return .elem n subs
      return .var n
    | some (.funcName n) =>
      advance
      expectPunct "("
      let args ← parseList fuel ")"
      return .call n args
    | some (.builtin n) =>
      advance
      if ← atPunct "(" then
        advance
        let args ← parseList fuel ")"
        return .builtin n args
      return .builtin n []
    | some (.keyword "getline") =>
      advance
      let target ← parseGetTarget fuel
      if ← atPunct "<" then
        advance
        let src ← parsePrimary fuel
        return .getline .file target (some src)
      return .getline .main target none
    | _ => failHere

/-- Expressions separated by commas up to a closing token, which is passed. -/
def parseList : Nat → String → P (List Expr)
  | 0, _ => failHere
  | fuel + 1, closer => do
    skipNewlines (← tokensLeft)
    if ← atPunct closer then
      advance
      return []
    let first ← parseExpr fuel false
    parseListMore fuel closer [first]

/-- Go on with the expressions of a list after the first. -/
def parseListMore : Nat → String → List Expr → P (List Expr)
  | 0, _, acc => pure acc
  | fuel + 1, closer, acc => do
    skipNewlines (← tokensLeft)
    if ← atPunct "," then
      advance
      skipNewlines (← tokensLeft)
      let e ← parseExpr fuel false
      parseListMore fuel closer (acc ++ [e])
    else
      expectPunct closer
      return acc

end

/-- Whether the next token ends a simple statement. -/
def atStatementEnd : P Bool := do
  match ← peekTok with
  | none | some .newline | some (.punct ";") | some (.punct "\x7d") => return true
  | _ => return false

/-- Step past the end of a simple statement, or fail. -/
def endStatement : P Unit := do
  match ← peekTok with
  | none | some (.punct "\x7d") => pure ()
  | some .newline | some (.punct ";") => advance
  | _ => failHere

/-- Expressions separated by commas where `>` ends them, as `print` takes them. -/
def parsePrintList (depth : Nat) : Nat → List Expr → P (List Expr)
  | 0, acc => pure acc
  | n + 1, acc => do
    if ← atPunct "," then
      advance
      skipNewlines (← tokensLeft)
      let e ← parseExpr depth true
      parsePrintList depth n (acc ++ [e])
    else pure acc

/-- The arguments and output of `print` or `printf`, after the keyword. -/
def parsePrintArgs (fuel : Nat) : P (List Expr × Option (Redirect × Expr)) := do
  let bound ← tokensLeft
  let args ← do
    if ← atStatementEnd then pure []
    else if (← atPunct ">") || (← atPunct ">>") || (← atPunct "|") then pure []
    else
      let saved ← get
      let grouped ← if ← atPunct "(" then do
          advance
          let es ← tryCatch (do pure (some (← parseList fuel ")"))) fun _ => pure none
          match es with
          | some es =>
            match ← peekTok with
            | none | some .newline | some (.punct ";") | some (.punct "\x7d") | some (.punct ">")
            | some (.punct ">>") | some (.punct "|") => pure (some es)
            | _ => pure none
          | none => pure none
        else pure none
      match grouped with
      | some es => pure es
      | none =>
        set saved
        let first ← parseExpr fuel true
        parsePrintList fuel bound [first]
  let dest ← match ← peekTok with
    | some (.punct ">") => advance; pure (some (Redirect.write, ← parseConcat fuel true))
    | some (.punct ">>") => advance; pure (some (Redirect.append, ← parseConcat fuel true))
    | some (.punct "|") => advance; pure (some (Redirect.pipe, ← parseConcat fuel true))
    | _ => pure none
  return (args, dest)

/-- A simple statement, without its end. -/
def parseSimple (fuel : Nat) : P Stmt := do
  match ← peekTok with
  | some (.keyword "print") =>
    advance
    let (args, dest) ← parsePrintArgs fuel
    return .print args dest
  | some (.keyword "printf") =>
    advance
    let (args, dest) ← parsePrintArgs fuel
    return .printf args dest
  | some (.keyword "next") => advance; return .next
  | some (.keyword "nextfile") => advance; return .nextFile
  | some (.keyword "break") => advance; return .brk
  | some (.keyword "continue") => advance; return .cont
  | some (.keyword "exit") =>
    advance
    if ← atStatementEnd then return .exit none
    return .exit (some (← parseExpr fuel false))
  | some (.keyword "return") =>
    advance
    if ← atStatementEnd then return .ret none
    return .ret (some (← parseExpr fuel false))
  | some (.keyword "delete") =>
    advance
    match ← peekTok with
    | some (.name n) =>
      advance
      if ← atPunct "[" then
        advance
        return .delete n (some (← parseList fuel "]"))
      return .delete n none
    | _ => failHere
  | _ => return .expr (← parseExpr fuel false)

mutual

/-- A statement. -/
def parseStmt : Nat → P Stmt
  | 0 => failHere
  | fuel + 1 => do
    match ← peekTok with
    | some (.punct "\x7b") =>
      advance
      return .block (← parseBlock fuel [])
    | some (.punct ";") =>
      advance
      return .block []
    | some (.keyword "if") =>
      advance
      expectPunct "("
      let c ← parseExpr fuel false
      expectPunct ")"
      skipNewlines (← tokensLeft)
      let t ← parseStmt fuel
      let saved ← get
      skipSeparators (← tokensLeft)
      if ← atKeyword "else" then
        advance
        skipNewlines (← tokensLeft)
        return .ifElse c t (some (← parseStmt fuel))
      set saved
      return .ifElse c t none
    | some (.keyword "while") =>
      advance
      expectPunct "("
      let c ← parseExpr fuel false
      expectPunct ")"
      if ← atPunct ";" then
        advance
        return .whileLoop c (.block [])
      skipNewlines (← tokensLeft)
      return .whileLoop c (← parseStmt fuel)
    | some (.keyword "do") =>
      advance
      skipNewlines (← tokensLeft)
      let body ← parseStmt fuel
      skipSeparators (← tokensLeft)
      if !(← atKeyword "while") then failHere
      advance
      expectPunct "("
      let c ← parseExpr fuel false
      expectPunct ")"
      endStatement
      return .doLoop body c
    | some (.keyword "for") =>
      advance
      expectPunct "("
      match ← peekAt 0, ← peekAt 1, ← peekAt 2, ← peekAt 3 with
      | some (.name v), some (.keyword "in"), some (.name a), some (.punct ")") =>
        advance; advance; advance; advance
        skipNewlines (← tokensLeft)
        return .forIn v a (← parseStmt fuel)
      | _, _, _, _ =>
        let init ← if ← atPunct ";" then pure none else pure (some (← parseExpr fuel false))
        expectPunct ";"
        skipNewlines (← tokensLeft)
        let c ← if ← atPunct ";" then pure none else pure (some (← parseExpr fuel false))
        expectPunct ";"
        skipNewlines (← tokensLeft)
        let step ← if ← atPunct ")" then pure none else pure (some (← parseExpr fuel false))
        expectPunct ")"
        if ← atPunct ";" then
          advance
          return .forLoop init c step (.block [])
        skipNewlines (← tokensLeft)
        return .forLoop init c step (← parseStmt fuel)
    | _ =>
      let s ← parseSimple fuel
      endStatement
      return s

/-- The statements of a block up to its `}`, which is passed. -/
def parseBlock : Nat → List Stmt → P (List Stmt)
  | 0, _ => failHere
  | fuel + 1, acc => do
    skipSeparators (← tokensLeft)
    match ← peekTok with
    | some (.punct "\x7d") => advance; return acc
    | none => failHere
    | _ =>
      let s ← parseStmt fuel
      parseBlock fuel (acc ++ [s])

end

/-- The names of a function's parameters, up to the `)`, which is passed. -/
def parseParams : Nat → List String → P (List String)
  | 0, _ => failHere
  | fuel + 1, acc => do
    skipNewlines (← tokensLeft)
    match ← peekTok with
    | some (.punct ")") => advance; return acc
    | some (.name n) =>
      advance
      skipNewlines (← tokensLeft)
      if ← atPunct "," then advance
      parseParams fuel (acc ++ [n])
    | _ => failHere

/-- The action of a rule: a block after its `{`. -/
def parseAction (fuel : Nat) : P Stmt := do
  expectPunct "\x7b"
  return .block (← parseBlock fuel [])

/-- The rules and functions of a program. -/
def parseItems (fuel : Nat) : Nat → Program → P Program
  | 0, prog => pure prog
  | n + 1, prog => do
    skipSeparators (← tokensLeft)
    match ← peekTok with
    | none => return prog
    | some (.keyword "BEGIN") =>
      advance
      skipNewlines (← tokensLeft)
      let a ← parseAction fuel
      parseItems fuel n { prog with rules := prog.rules ++ [⟨.begin, some a⟩] }
    | some (.keyword "END") =>
      advance
      skipNewlines (← tokensLeft)
      let a ← parseAction fuel
      parseItems fuel n { prog with rules := prog.rules ++ [⟨.finish, some a⟩] }
    | some (.keyword "function") | some (.keyword "func") =>
      advance
      let name ← match ← peekTok with
        | some (.name f) | some (.funcName f) => advance; pure f
        | _ => failHere
      expectPunct "("
      let params ← parseParams (← tokensLeft) []
      skipNewlines (← tokensLeft)
      let body ← parseAction fuel
      parseItems fuel n { prog with functions := prog.functions ++ [⟨name, params, body⟩] }
    | some (.punct "\x7b") =>
      let a ← parseAction fuel
      parseItems fuel n { prog with rules := prog.rules ++ [⟨.always, some a⟩] }
    | _ =>
      let first ← parseExpr fuel false
      let pattern ← if ← atPunct "," then do
          advance
          skipNewlines (← tokensLeft)
          pure (Pattern.range first (← parseExpr fuel false))
        else pure (Pattern.test first)
      if ← atPunct "\x7b" then
        let a ← parseAction fuel
        parseItems fuel n { prog with rules := prog.rules ++ [⟨pattern, some a⟩] }
      else
        match ← peekTok with
        | none | some .newline | some (.punct ";") =>
          parseItems fuel n { prog with rules := prog.rules ++ [⟨pattern, none⟩] }
        | _ => failHere

/-- Read a program from its tokens. -/
def parseProgram (toks : Array (Token × Nat)) : Except SyntaxError Program :=
  let fuel := 4 * toks.size + 64
  ((parseItems fuel (toks.size + 1) { rules := [], functions := [] }).run ⟨toks, 0⟩).map (·.1)

/-- Read a program from its text. -/
def readProgram (text : Bytes) : Except SyntaxError Program :=
  match tokenize (text.length + 1) text 1 #[] with
  | .error e => .error ⟨e.message, e.line⟩
  | .ok toks => parseProgram toks

end Chatbot.Awk
