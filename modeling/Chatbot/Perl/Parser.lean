import Chatbot.Perl.Quote

/-!
# Reading perl programs

A program is read straight from its bytes by recursive descent, one function for each level
of precedence. What a byte means depends on what is awaited: where a term is awaited `/`
begins a pattern, `<` a read of a line, `%` a hash and `&` a call; where an operator is
awaited they divide, compare, take a remainder or join bits. Each function takes fuel, which
bounds the depth of the reading and the length of the lists it reads.

Words are keywords, built-in functions, subroutines declared in the program, or barewords,
which stand for their own text. A named unary operator (`length`, `defined`, `lc`, …) takes
one argument that binds tighter than a comparison; a list operator (`print`, `join`,
`push`, …) takes everything up to a `)`, a `;` or a low-precedence `and`, `or` or `not`,
unless its arguments are in parentheses, which then make it a term.

A string between double quotes, a pattern and a replacement put values in: `$name`, `${…}`,
`@name`, `@{…}`, each with the subscripts after it. Their text is read again as code.

`while (<FH>)` and `while (my $x = <FH>)` test that the line read is defined.
-/

namespace Chatbot.Perl

open Chatbot.Shell Chatbot.Awk

/-- An error of reading: its message and where it happened. -/
structure ParseError where
  /-- The message. -/
  message : String
  /-- The place in the text. -/
  pos : Nat
  /-- The line. -/
  line : Nat
  deriving Repr

/-- The state of reading. -/
structure Reader where
  /-- The text. -/
  src : Array UInt8
  /-- The place of the next byte. -/
  pos : Nat := 0
  /-- Lines before the text, when it is a piece of a larger one. -/
  lineOffset : Nat := 0
  /-- The subroutines declared, which may be called without parentheses. -/
  known : List String := []
  /-- Whether `say` is a keyword. -/
  sayOn : Bool := false
  /-- The functions imported from modules. -/
  imported : List String := []
  /-- How many `..` switches were read. -/
  rangeCount : Nat := 0
  /-- The subroutines defined. -/
  subs : List SubDef := []
  /-- The `BEGIN` blocks. -/
  begins : List (List Stmt) := []
  /-- The `END` blocks. -/
  ends : List (List Stmt) := []
  /-- Whether `__END__` was read. -/
  stopped : Bool := false
  /-- The name of the program, for `__FILE__`. -/
  fileName : String := "-e"
  /-- The package of the code being read. -/
  package : String := "main"
  /-- The classes each package inherits from. -/
  inherits : List (String × List String) := []

/-- Reading. -/
abbrev PR := StateT Reader (Except ParseError)

/-- The line of a place. -/
def Reader.line (r : Reader) : Nat :=
  r.lineOffset + 1 + ((r.src.extract 0 r.pos).toList.filter (· == 0x0A)).length

/-- Fail with a message at the current place. -/
def failAt {α : Type} (msg : String) : PR α := do
  let r ← get
  throw { message := msg, pos := r.pos, line := r.line }

/-- Fail because the text nests too deep. -/
def tooDeep {α : Type} : PR α := failAt "syntax error"

/-- The byte `k` places on. -/
def byteAt (k : Nat) : PR (Option UInt8) := do
  let r ← get
  return r.src[r.pos + k]?

/-- The next byte. -/
def peekB : PR (Option UInt8) := byteAt 0

/-- Step past `k` bytes. -/
def bump (k : Nat) : PR Unit := modify fun r => { r with pos := r.pos + k }

/-- The rest of the text. -/
def restBytes : PR Bytes := do
  let r ← get
  return (r.src.extract r.pos r.src.size).toList

/-- Go on from the rest of the text that is left. -/
def resumeAt (rest : Bytes) : PR Unit :=
  modify fun r => { r with pos := r.src.size - rest.length }

/-- Whether the text at the current place starts with some bytes. -/
def startsWithBytes (s : Bytes) : PR Bool := do
  let r ← get
  return (List.range s.length).all fun i => r.src[r.pos + i]? == s[i]?

/-- Whether the text at the current place starts with a string. -/
def lookingAt (s : String) : PR Bool := startsWithBytes (rawOf s)

/-- The first place at or after `i` whose byte satisfies `p`, or the end. -/
def findFrom (src : Array UInt8) (p : UInt8 → Bool) : Nat → Nat → Nat
  | 0, i => i
  | k + 1, i =>
    match src[i]? with
    | some b => if p b then i else findFrom src p k (i + 1)
    | none => i

/-- Whether the current place starts a line. -/
def atLineStart : PR Bool := do
  let r ← get
  return r.pos = 0 || r.src[r.pos - 1]? = some 0x0A

/-- Skip to the end of the line. -/
def skipLine : PR Unit := do
  let r ← get
  set { r with pos := findFrom r.src (· == 0x0A) r.src.size r.pos }

/-- Skip documentation: from a line starting with `=word` to the line `=cut`. -/
def skipPod : PR Unit := do
  let r ← get
  let rest := (r.src.extract r.pos r.src.size).toList
  let marker := rawOf "\n=cut"
  let k := (List.range rest.length).find? fun i => marker.isPrefixOf (rest.drop i)
  match k with
  | some i =>
    set { r with pos := r.pos + i + 1 }
    skipLine
  | none => set { r with pos := r.src.size }

/-- Skip blanks, comments and documentation. -/
def skipSpaceLoop : Nat → PR Unit
  | 0 => pure ()
  | k + 1 => do
    match ← peekB with
    | some b =>
      if b = 0x20 || b = 0x09 || b = 0x0A || b = 0x0D || b = 0x0C then
        bump 1
        skipSpaceLoop k
      else if b = 0x23 then
        skipLine
        skipSpaceLoop k
      else if b = 0x3D && (← atLineStart) && ((← byteAt 1).map isLetter).getD false then
        skipPod
        skipSpaceLoop k
      else pure ()
    | none => pure ()

/-- Skip blanks, comments and documentation. -/
def skipSpace : PR Unit := do
  skipSpaceLoop ((← get).src.size + 1)

/-- The length of a name at a place: words joined by `::`. -/
def nameLength (src : Array UInt8) (i : Nat) : Nat :=
  let word (j : Nat) : Nat := findFrom src (fun b => !isIdentByte b) src.size j - j
  let rec more : Nat → Nat → Nat
    | 0, j => j
    | k + 1, j =>
      if src[j]? = some 0x3A && src[j + 1]? = some 0x3A &&
          ((src[j + 2]?.map isIdentStart).getD false) then
        more k (j + 2 + word (j + 2))
      else j
  match src[i]? with
  | some b => if isIdentStart b then more src.size (i + word i) - i else 0
  | none => 0

/-- The name at the current place, if any, without reading it. -/
def peekName : PR (Option String) := do
  let r ← get
  let n := nameLength r.src r.pos
  if n = 0 then return none
  return some (textOf (r.src.extract r.pos (r.pos + n)).toList)

/-- Read the name at the current place. -/
def readName : PR (Option String) := do
  let w ← peekName
  match w with
  | some s => bump s.length; return some s
  | none => return none

/-- The operators written with symbols, longest first. -/
def symbolOps : List String :=
  ["<<=", ">>=", "**=", "||=", "&&=", "//=", "<=>", "...", "->", "++", "--", "**", "=~", "!~",
   "==", "!=", "<=", ">=", "&&", "||", "//", "..", "<<", ">>", "+=", "-=", "*=", "/=", ".=",
   "%=", "&=", "|=", "^=", "=>", "=", "+", "-", "*", "/", ".", "%", "<", ">", "&", "|", "^", "!",
   "~", "\\", "?", ":", ",", ";", "(", ")", "[", "]", "\x7b", "\x7d"]

/-- The operators written as words. -/
def wordOps : List String :=
  ["lt", "gt", "le", "ge", "eq", "ne", "cmp", "x", "and", "or", "xor", "not", "isa"]

/-- The operator at the current place, if any, after blanks. -/
def peekOp : PR (Option String) := do
  skipSpace
  let r ← get
  match r.src[r.pos]? with
  | none => return none
  | some b =>
    if isIdentStart b then
      let n := findFrom r.src (fun c => !isIdentByte c) r.src.size r.pos - r.pos
      let w := textOf (r.src.extract r.pos (r.pos + n)).toList
      if w = "x" && r.src[r.pos + 1]? = some 0x3D && r.src[r.pos + 2]? != some 0x3D &&
          r.src[r.pos + 2]? != some 0x7E then
        return some "x="
      if wordOps.contains w then return some w
      -- `x3` is `x 3`
      if b = 0x78 && n > 1 && (w.toList.drop 1).all Char.isDigit then return some "x"
      return none
    else
      for op in symbolOps do
        if ← lookingAt op then return some op
      return none

/-- Read an operator known to be next. -/
def eatOp (op : String) : PR Unit := do
  skipSpace
  bump op.length

/-- Read an operator, or fail. -/
def expectOp (op : String) : PR Unit := do
  if (← peekOp) = some op then eatOp op
  else failAt "syntax error"

/-- Read a byte, or fail. -/
def expectByte (b : UInt8) : PR Unit := do
  skipSpace
  if (← peekB) = some b then bump 1
  else failAt "syntax error"

/-- The words that are not operands. -/
def nonTermWords : List String :=
  ["x", "lt", "gt", "le", "ge", "eq", "ne", "cmp", "and", "or", "xor", "if", "unless", "while",
   "until", "for", "foreach", "isa"]

/-- Whether the text at a place looks like a read of a line: `<>`, `<<>>`, `<NAME>`,
`<$name>`. -/
def looksLikeReadLine (src : Array UInt8) (i : Nat) : Bool :=
  let j := if src[i + 1]? = some 0x24 then i + 2 else i + 1
  let k := findFrom src (fun b => !isIdentByte b) src.size j
  src[k]? = some 0x3E || (src[i + 1]? = some 0x3C && src[i + 2]? = some 0x3E)

/-- Whether a term starts at the current place, after blanks: for the arguments of a list
operator when `forList`, else of a named unary operator. -/
def termStart (forList : Bool) : PR Bool := do
  skipSpace
  let r ← get
  let at_ (k : Nat) : Option UInt8 := r.src[r.pos + k]?
  match at_ 0 with
  | none => return false
  | some b =>
    if b = 0x24 || b = 0x40 || b = 0x5C || b = 0x28 || b = 0x5B || b = 0x27 || b = 0x22 ||
        b = 0x60 || isDigit b then return true
    else if b = 0x25 || b = 0x26 then
      return match at_ 1 with
        | some c => isIdentStart c || c = 0x24 || c = 0x7B || c = 0x3A || (b = 0x25 && (c = 0x2B || c = 0x2D))
        | none => false
    else if b = 0x2D then
      return match at_ 1 with
        | some c => !(c = 0x3D || c = 0x3E)
        | none => false
    else if b = 0x2B then
      return match at_ 1 with
        | some c => c != 0x3D
        | none => false
    else if b = 0x21 then return at_ 1 != some 0x3D && at_ 1 != some 0x7E
    else if b = 0x7E then return at_ 1 != some 0x7E
    else if b = 0x2E then return ((at_ 1).map isDigit).getD false
    else if b = 0x3C then return looksLikeReadLine r.src r.pos
    else if b = 0x2F then return forList
    else if b = 0x7B then return forList
    else if isIdentStart b then
      let n := findFrom r.src (fun c => !isIdentByte c) r.src.size r.pos - r.pos
      let w := textOf (r.src.extract r.pos (r.pos + n)).toList
      return !nonTermWords.contains w
    else return false

/-- The kind of an assignment operator. -/
inductive AssignKind where
  /-- `=`. -/
  | plain
  /-- `op=`. -/
  | arith (op : BinOp)
  /-- `||=`, `&&=`, `//=`. -/
  | logic (op : LogicOp)
  deriving DecidableEq, Repr

/-- The kind of an assignment operator's text. -/
def assignKind : String → Option AssignKind
  | "=" => some .plain
  | "+=" => some (.arith .add)
  | "-=" => some (.arith .sub)
  | "*=" => some (.arith .mul)
  | "/=" => some (.arith .div)
  | "%=" => some (.arith .mod)
  | "**=" => some (.arith .pow)
  | ".=" => some (.arith .concat)
  | "x=" => some (.arith .repeat)
  | "&=" => some (.arith .bitAnd)
  | "|=" => some (.arith .bitOr)
  | "^=" => some (.arith .bitXor)
  | "<<=" => some (.arith .shiftLeft)
  | ">>=" => some (.arith .shiftRight)
  | "||=" => some (.logic .or)
  | "&&=" => some (.logic .and)
  | "//=" => some (.logic .definedOr)
  | _ => none

/-- Build an assignment. -/
def buildAssign (k : AssignKind) (target value : Expr) : Expr :=
  match k with
  | .plain => .assign target value
  | .arith op => .opAssign op target value
  | .logic op => .logAssign op target value

/-- `x` after a list in parentheses repeats the list. -/
def buildRepeat (a b : Expr) : Expr :=
  match a with
  | .list _ => .repeatList a b
  | _ => .binary .repeat a b

/-- Bind a target to what `=~` or `!~` applies to it. -/
def bindTarget (target rhs : Expr) (negated : Bool) : Expr :=
  match rhs with
  | .matchOp none _ p f => .matchOp (some target) negated p f
  | .substOp none p r f => if negated then .not (.substOp (some target) p r f) else .substOp (some target) p r f
  | .transOp none s d f => if negated then .not (.transOp (some target) s d f) else .transOp (some target) s d f
  | other => .matchOp (some target) negated [.scalar other] []

/-- Read operators of one level, left to right. -/
def chainLeft (ops : List (String × (Expr → Expr → Expr))) (operand : PR Expr) :
    Nat → Expr → PR Expr
  | 0, acc => pure acc
  | k + 1, acc => do
    match ← peekOp with
    | some op =>
      match ops.lookup op with
      | some build =>
        eatOp op
        let b ← operand
        chainLeft ops operand k (build acc b)
      | none => pure acc
    | none => pure acc

/-- How many bytes are left: the bound of any list read. -/
def bytesLeft : PR Nat := do
  let r ← get
  return r.src.size - r.pos + 1

/-- The built-in functions that take one argument, or none. -/
def namedUnaryOps : List String :=
  ["defined", "ref", "scalar", "lc", "uc", "lcfirst", "ucfirst", "length", "chr", "ord", "hex",
   "oct", "abs", "int", "sqrt", "log", "exp", "sin", "cos", "quotemeta", "rand", "srand",
   "exists", "delete", "each", "keys", "values", "pop", "shift", "chomp", "chop", "chdir",
   "rmdir", "readlink", "exit", "umask", "sleep", "localtime", "gmtime", "caller", "fc", "pos",
   "close", "eof", "lock", "study", "alarm", "readline", "fileno", "chroot", "lc", "uc"]

/-- The built-in functions that take a list. -/
def listOps : List String :=
  ["join", "split", "push", "unshift", "splice", "reverse", "sprintf", "die", "warn", "unlink",
   "open", "binmode", "pack", "unpack", "system", "exec", "kill", "atan2", "index", "rindex",
   "substr", "select", "chmod", "mkdir", "utime", "sprintf", "wait", "waitpid", "printf",
   "opendir", "readdir", "closedir", "seek", "read", "sysread", "syswrite", "truncate", "rename",
   "link", "symlink", "chown", "bless", "local", "crypt", "lc", "vec"]

/-- The built-in functions that take nothing. -/
def noArgOps : List String := ["time", "times", "wantarray", "getppid", "fork", "wait"]

/-- Functions of modules that take a block and a list. -/
def blockFunctions : List String :=
  ["first", "any", "all", "none", "notall", "reduce", "sum_by", "max_by", "min_by", "pairmap"]

/-- Functions of modules that take a list. -/
def moduleFunctions : List String :=
  ["sum", "sum0", "min", "max", "minstr", "maxstr", "product", "uniq", "uniqnum", "uniqstr",
   "shuffle", "pairs", "floor", "ceil", "fmod", "pow", "strftime", "round", "trunc", "Dumper",
   "INT_MAX", "INT_MIN", "UINT_MAX", "DBL_MAX", "DBL_MIN", "LONG_MAX", "LONG_MIN", "isatty",
   "strtol", "head", "tail", "mesh", "zip", "blessed", "reftype", "looks_like_number", "dualvar"]

/-- The name a function of a module is known by, without its package. -/
def shortName (w : String) : String :=
  match (w.splitOn "::").getLast? with
  | some s => s
  | none => w

/-- The words that begin quote-like constructs. -/
def quoteWords : List String := ["q", "qq", "qw", "m", "qr", "s", "tr", "y"]

/-- The kinds of text that values are put in. -/
inductive QuoteMode where
  /-- A string between double quotes. -/
  | string
  /-- A pattern. -/
  | pattern
  /-- The replacement of `s///`, where `\1` stands for `$1`. -/
  | replacement
  deriving DecidableEq, Repr

/-- The bytes that name special variables after `$`. -/
def specialVarBytes : Bytes := rawOf "&`'+./\\,;!@0<>[]|\"$?^-:"

/-- The length of the balanced brackets at the start of bytes (from the opening one to its
close), or `0`. -/
def bracketExtent (bs : Bytes) : Nat :=
  match bs with
  | b :: rest =>
    match readDelimited b rest with
    | some (_, after) => bs.length - after.length
    | none => 0
  | [] => 0

/-- Whether a `[` after a variable in a string is a subscript: an index of digits or a
variable. -/
def looksLikeIndex (bs : Bytes) : Bool :=
  match bs with
  | 0x5B :: rest =>
    let body := rest.takeWhile (· != 0x5D)
    let body' := match body with
      | 0x2D :: r => r
      | r => r
    body.length < rest.length && !body'.isEmpty &&
      ((body'.all isDigit) || (body'.head? == some (0x24 : UInt8) && body'.all fun c => isIdentByte c || c = 0x24 || c = 0x2B || c = 0x2D || c = 0x23))
  | _ => false

/-- Whether a `{` after a variable in a pattern is a quantifier. -/
def looksLikeQuantifier (bs : Bytes) : Bool :=
  match bs with
  | 0x7B :: rest =>
    let body := rest.takeWhile (· != 0x7D)
    body.length < rest.length && !body.isEmpty && body.all fun c => isDigit c || c = 0x2C
  | _ => false

/-- The subscripts after a variable in a string: their length. -/
def subscriptExtent (mode : QuoteMode) : Nat → Bytes → Nat
  | 0, _ => 0
  | fuel + 1, bs =>
    match bs with
    | 0x5B :: _ =>
      if looksLikeIndex bs then
        let n := bracketExtent bs
        if n = 0 then 0 else n + subscriptExtent mode fuel (bs.drop n)
      else 0
    | 0x7B :: _ =>
      if mode = .pattern && looksLikeQuantifier bs then 0
      else
        let n := bracketExtent bs
        if n = 0 then 0 else n + subscriptExtent mode fuel (bs.drop n)
    | 0x2D :: 0x3E :: rest =>
      match rest with
      | 0x5B :: _ | 0x7B :: _ =>
        let n := bracketExtent rest
        if n = 0 then 0 else 2 + n + subscriptExtent mode fuel (rest.drop n)
      | _ => 0
    | _ => 0

/-- The length of the name of a variable at the start of bytes (after its sigil). -/
def varNameExtent (bs : Bytes) : Nat :=
  let arr := bs.toArray
  match bs with
  | c :: _ =>
    if isIdentStart c then nameLength arr 0
    else if c = 0x3A && bs.take 2 = [0x3A, 0x3A] then 2 + nameLength arr 2
    else if isDigit c then (bs.takeWhile isDigit).length
    else 0
  | [] => 0

/-- The length of the variable that starts bytes with `$` or `@`, subscripts and all; `0`
when it is not a variable. -/
def interpExtent (mode : QuoteMode) (bs : Bytes) : Nat :=
  match bs with
  | 0x24 :: 0x23 :: c :: more =>
    -- `$#name`, `$#{…}`, `$#$ref`: the last index of an array
    if mode = .pattern then 0
    else if c = 0x7B then 2 + bracketExtent (c :: more)
    else if c = 0x24 then
      let n := varNameExtent more
      if n > 0 then 3 + n else 0
    else
      let n := varNameExtent (c :: more)
      if n > 0 && isIdentStart c then 2 + n else 0
  | 0x24 :: rest =>
    -- `$$name`: a dereference; a lone `$$` is the process number
    let stars := (rest.takeWhile (· == 0x24)).length
    let afterStars := rest.drop stars
    let head : Nat :=
      match afterStars with
      | 0x7B :: _ => bracketExtent afterStars
      | _ =>
        let n := varNameExtent afterStars
        if n > 0 then n
        else if stars > 0 then 0
        else
          match afterStars with
          | c :: more =>
            if mode = .pattern && (c = 0x29 || c = 0x7C) then 0
            else if c = 0x5E then (if ((more.head?.map fun d => 0x41 ≤ d && d ≤ 0x5A).getD false) then 2 else 0)
            else if specialVarBytes.contains c then 1
            else 0
          | [] => 0
    if head = 0 then
      if stars > 0 && mode != .pattern then stars else 0
    else
      let base := 1 + stars + head
      base + subscriptExtent mode (bs.length + 1) (bs.drop base)
  | 0x40 :: rest =>
    let head : Nat :=
      match rest with
      | 0x7B :: _ => bracketExtent rest
      | 0x24 :: more =>
        let n := varNameExtent more
        if n > 0 then 1 + n else 0
      | _ => varNameExtent rest
    if head = 0 then 0
    else
      let base := 1 + head
      match bs.drop base with
      | 0x5B :: _ | 0x7B :: _ =>
        if mode = .pattern then base
        else base + bracketExtent (bs.drop base)
      | _ => base
  | _ => 0

/-- The words of text between blanks. -/
def splitBlanks : Nat → Bytes → List Bytes → List Bytes
  | 0, _, acc => acc
  | fuel + 1, bs, acc =>
    let bs := bs.dropWhile isNumberBlank
    if bs.isEmpty then acc
    else
      let w := bs.takeWhile fun b => !isNumberBlank b
      splitBlanks fuel (bs.drop w.length) (acc ++ [w])

/-- Whether a `{` that begins a statement opens a hash rather than a block: it does when a
word or a quoted string followed by `,` or `=>` comes first, or nothing does. -/
def looksLikeAnonHash (src : Array UInt8) (from_ : Nat) : Bool :=
  let blank (b : UInt8) : Bool := b = 0x20 || b = 0x09 || b = 0x0A
  let i := findFrom src (fun b => !blank b) src.size from_
  match src[i]? with
  | some c =>
    let after : Nat :=
      if isIdentStart c then i + nameLength src i
      else if c = 0x22 || c = 0x27 then
        let k := findFrom src (· == c) src.size (i + 1)
        k + 1
      else 0
    if after = 0 then false
    else
      let j := findFrom src (fun b => !blank b) src.size after
      src[j]? = some 0x2C || (src[j]? = some 0x3D && src[j + 1]? = some 0x3E)
  | none => false

/-- The names and values of `use constant \x7b NAME => value, … \x7d`. -/
def constantPairs : List Expr → List (String × Expr)
  | .lit (.str k) :: v :: rest => (textOf k, v) :: constantPairs rest
  | _ => []

/-- Split the words of `qw`. -/
def qwWords (openDelim : UInt8) (content : Bytes) : List Expr :=
  let text := singleQuoted openDelim content
  (splitBlanks (text.length + 1) text []).map fun w => .lit (.str w)

/-- Whether a word is a label: upper-case letters, digits and `_`, not a keyword. -/
def isLabelWord (w : String) : Bool :=
  w.length > 0 && w.all (fun c => c.isUpper || c.isDigit || c == '_') &&
    !(["STDIN", "STDOUT", "STDERR", "ARGV", "BEGIN", "END", "__END__", "__DATA__"].contains w)

/-- Add a subroutine, a later definition replacing an earlier one. -/
def addSub (d : SubDef) : PR Unit :=
  modify fun r => { r with subs := (r.subs.filter (·.name != d.name)) ++ [d],
                            known := if r.known.contains d.name then r.known else r.known ++ [d.name] }

/-- A new number for a `..` switch. -/
def freshRange : PR Nat := do
  let r ← get
  set { r with rangeCount := r.rangeCount + 1 }
  return r.rangeCount

/-- The test of a loop that reads lines: that the line read is defined. -/
def definedRead (c : Expr) : Expr :=
  match c with
  | .readLine _ => .builtin "defined" [.assign (.scalarVar "_") c]
  | .builtin "readline" _ => .builtin "defined" [.assign (.scalarVar "_") c]
  | .assign _ (.readLine _) => .builtin "defined" [c]
  | .assign _ (.builtin "readline" _) => .builtin "defined" [c]
  | _ => c

/-- Whether a word is a function name the reader knows. -/
def isFunctionWord (r : Reader) (w : String) : Bool :=
  namedUnaryOps.contains w || listOps.contains w || noArgOps.contains w ||
    r.known.contains w || r.imported.contains w || quoteWords.contains w ||
    ["print", "printf", "say", "sort", "map", "grep", "my", "our", "local", "return", "do",
     "eval", "sub", "undef", "if", "unless", "while", "until", "for", "foreach"].contains w

/-- Run a reading on other text, as a piece of the current one. -/
def withSource {α : Type} (text : Bytes) (p : PR α) : PR α := do
  let saved ← get
  let line := saved.line
  set { saved with src := text.toArray, pos := 0, lineOffset := line - 1 }
  let inner : PR α := do
    let v ← p
    skipSpace
    let after ← get
    if after.pos < after.src.size then failAt "syntax error"
    set { after with src := saved.src, pos := saved.pos, lineOffset := saved.lineOffset }
    return v
  -- an error inside is reported where the text stands
  tryCatch inner fun e => throw { e with pos := saved.pos }

/-- The expression of interpolated parts: a constant when there is no value in them. -/
def interpExpr (parts : List Part) : Expr :=
  if parts.all fun p => match p with
      | .text _ => true
      | _ => false then
    .lit (.str (parts.flatMap fun p => match p with
      | .text t => t
      | _ => []))
  else .interp parts

/-- The name of a variable after its sigil. -/
def readVarName : PR (Option String) := do
  let r ← get
  match r.src[r.pos]? with
  | none => return none
  | some c =>
    if isIdentStart c then readName
    else if c = 0x3A && r.src[r.pos + 1]? = some 0x3A then
      bump 2
      return (← readName).map fun s => "main::" ++ s
    else if isDigit c then
      let k := findFrom r.src (fun b => !isDigit b) r.src.size r.pos
      let s := textOf (r.src.extract r.pos k).toList
      set { r with pos := k }
      return some s
    else if c = 0x5E then
      match r.src[r.pos + 1]? with
      | some d =>
        if 0x41 ≤ d && d ≤ 0x5A then
          bump 2
          return some ("^" ++ textOf [d])
        else return none
      | none => return none
    else if specialVarBytes.contains c then
      bump 1
      return some (textOf [c])
    else return none

/-- `<…>`: a read of a line. -/
def parseReadLine : PR Expr := do
  let r ← get
  if ← lookingAt "<<>>" then
    bump 4
    return .readLine (.handle "ARGV")
  let j := r.pos + 1
  if r.src[j]? = some 0x24 then
    let w := nameLength r.src (j + 1)
    if w > 0 && r.src[j + 1 + w]? = some 0x3E then
      let nm := textOf (r.src.extract (j + 1) (j + 1 + w)).toList
      set { r with pos := j + 2 + w }
      return .readLine (.scalarVar nm)
  let w := nameLength r.src j
  if r.src[j + w]? = some 0x3E then
    let nm := textOf (r.src.extract j (j + w)).toList
    set { r with pos := j + w + 1 }
    return .readLine (.handle (if nm = "" then "ARGV" else nm))
  failAt "syntax error"

/-- The letters of flags after a quote-like construct. -/
def readFlags : PR Bytes := do
  let r ← get
  let k := findFrom r.src (fun b => !isLetter b) r.src.size r.pos
  set { r with pos := k }
  return (r.src.extract r.pos k).toList

/-- The delimiter of a quote-like construct, after its word: blanks may come first. -/
def readDelimiter : PR (Option UInt8) := do
  -- `#` right after the operator is its delimiter, after a blank a comment
  if (← peekB) = some 0x23 then
    bump 1
    return some 0x23
  skipSpace
  match ← peekB with
  | some c =>
    if isIdentByte c || c = 0x2C || c = 0x3B || c = 0x29 then return none
    bump 1
    return some c
  | none => return none

/-- Whether a quote-like word at the current place is followed by a delimiter. -/
def quoteFollows : PR Bool := do
  let r ← get
  match r.src[r.pos]? with
  | some c =>
    if c = 0x20 || c = 0x09 || c = 0x0A then
      let j := findFrom r.src (fun b => !(b = 0x20 || b = 0x09 || b = 0x0A)) r.src.size r.pos
      match r.src[j]? with
      | some d => return !(isIdentByte d || d = 0x2C || d = 0x3B || d = 0x29 || d = 0x3D || d = 0x23 || d = 0x7D)
      | none => return false
    else return !(isIdentByte c || c = 0x2C || c = 0x3B || c = 0x29 || c = 0x3D || c = 0x7D)
  | none => return false

/-- The second part of `s` or `tr`: its delimiter and text. -/
def secondPart (delim : UInt8) : PR (UInt8 × Bytes) := do
  if closingOf delim != delim then
    skipSpace
    let some d2 ← peekB | failAt "Substitution replacement not terminated"
    bump 1
    match readDelimited d2 (← restBytes) with
    | some (c, rest) =>
      resumeAt rest
      return (d2, c)
    | none => failAt "Substitution replacement not terminated"
  else
    match readDelimited delim (← restBytes) with
    | some (c, rest) =>
      resumeAt rest
      return (delim, c)
    | none => failAt "Substitution replacement not terminated"

/-- Skip to past the next `;`. -/
def skipToSemicolon : PR Unit := do
  let r ← get
  let k := findFrom r.src (· == 0x3B) r.src.size r.pos
  set { r with pos := k + 1 }

mutual

/-- An expression: `or` and `xor` at the loosest. -/
def parseExpr : Nat → PR Expr
  | 0 => tooDeep
  | n + 1 => do
    let a ← parseLowAnd n
    chainLeft [("or", .logical .or), ("xor", .logical .xor)] (parseLowAnd n) (← bytesLeft) a

/-- `and`. -/
def parseLowAnd : Nat → PR Expr
  | 0 => tooDeep
  | n + 1 => do
    let a ← parseLowNot n
    chainLeft [("and", .logical .and)] (parseLowNot n) (← bytesLeft) a

/-- `not`. -/
def parseLowNot : Nat → PR Expr
  | 0 => tooDeep
  | n + 1 => do
    if (← peekOp) = some "not" then
      eatOp "not"
      if ← termStart true then return .not (← parseLowNot n)
      return .not (.lit .undefined)
    parseCommaExpr n

/-- A list of items separated by commas: one item alone is itself. -/
def parseCommaExpr : Nat → PR Expr
  | 0 => tooDeep
  | n + 1 => do
    let first ← parseAssign n
    match ← peekOp with
    | some "," | some "=>" =>
      let items ← commaMore n [first]
      return .list items
    | _ => return first

/-- Items separated by commas, at least one. -/
def parseCommaItems : Nat → PR (List Expr)
  | 0 => tooDeep
  | n + 1 => do
    let first ← parseAssign n
    commaMore n [first]

/-- Go on with items after a comma. -/
def commaMore : Nat → List Expr → PR (List Expr)
  | 0, acc => pure acc
  | n + 1, acc => do
    match ← peekOp with
    | some "," | some "=>" =>
      let op := (← peekOp).getD ","
      eatOp op
      if ← termStart true then
        let e ← parseAssign n
        commaMore n (acc ++ [e])
      else commaMore n acc
    | _ => pure acc

/-- An assignment, right to left. -/
def parseAssign : Nat → PR Expr
  | 0 => tooDeep
  | n + 1 => do
    let lhs ← parseTernary n
    match ← peekOp with
    | some op =>
      match assignKind op with
      | some k =>
        eatOp op
        let rhs ← parseAssign n
        return buildAssign k lhs rhs
      | none => return lhs
    | none => return lhs

/-- `c ? a : b`. -/
def parseTernary : Nat → PR Expr
  | 0 => tooDeep
  | n + 1 => do
    let c ← parseRange n
    if (← peekOp) = some "?" then
      eatOp "?"
      let a ← parseAssign n
      expectOp ":"
      let b ← parseAssign n
      return .cond c a b
    return c

/-- `a .. b`. -/
def parseRange : Nat → PR Expr
  | 0 => tooDeep
  | n + 1 => do
    let a ← parseOrOr n
    match ← peekOp with
    | some ".." | some "..." =>
      let op := (← peekOp).getD ".."
      eatOp op
      let b ← parseOrOr n
      return .range (← freshRange) a b
    | _ => return a

/-- `||` and `//`. -/
def parseOrOr : Nat → PR Expr
  | 0 => tooDeep
  | n + 1 => do
    let a ← parseAndAnd n
    chainLeft [("||", .logical .or), ("//", .logical .definedOr)] (parseAndAnd n) (← bytesLeft) a

/-- `&&`. -/
def parseAndAnd : Nat → PR Expr
  | 0 => tooDeep
  | n + 1 => do
    let a ← parseBitOr n
    chainLeft [("&&", .logical .and)] (parseBitOr n) (← bytesLeft) a

/-- `|` and `^`. -/
def parseBitOr : Nat → PR Expr
  | 0 => tooDeep
  | n + 1 => do
    let a ← parseBitAnd n
    chainLeft [("|", .binary .bitOr), ("^", .binary .bitXor)] (parseBitAnd n) (← bytesLeft) a

/-- `&`. -/
def parseBitAnd : Nat → PR Expr
  | 0 => tooDeep
  | n + 1 => do
    let a ← parseEquality n
    chainLeft [("&", .binary .bitAnd)] (parseEquality n) (← bytesLeft) a

/-- Equality. -/
def parseEquality : Nat → PR Expr
  | 0 => tooDeep
  | n + 1 => do
    let a ← parseRelational n
    chainLeft [("==", .binary .numEq), ("!=", .binary .numNe), ("<=>", .binary .numCmp),
      ("eq", .binary .strEq), ("ne", .binary .strNe), ("cmp", .binary .strCmp)]
      (parseRelational n) (← bytesLeft) a

/-- Comparison. -/
def parseRelational : Nat → PR Expr
  | 0 => tooDeep
  | n + 1 => do
    let a ← parseShift n
    chainLeft [("<", .binary .numLt), (">", .binary .numGt), ("<=", .binary .numLe),
      (">=", .binary .numGe), ("lt", .binary .strLt), ("gt", .binary .strGt),
      ("le", .binary .strLe), ("ge", .binary .strGe)] (parseShift n) (← bytesLeft) a

/-- `<<` and `>>`: also the level of the argument of a named unary operator. -/
def parseShift : Nat → PR Expr
  | 0 => tooDeep
  | n + 1 => do
    let a ← parseAdditive n
    chainLeft [("<<", .binary .shiftLeft), (">>", .binary .shiftRight)] (parseAdditive n)
      (← bytesLeft) a

/-- `+`, `-` and `.`. -/
def parseAdditive : Nat → PR Expr
  | 0 => tooDeep
  | n + 1 => do
    let a ← parseMultiplicative n
    chainLeft [("+", .binary .add), ("-", .binary .sub), (".", .binary .concat)]
      (parseMultiplicative n) (← bytesLeft) a

/-- `*`, `/`, `%` and `x`. -/
def parseMultiplicative : Nat → PR Expr
  | 0 => tooDeep
  | n + 1 => do
    let a ← parseBind n
    chainLeft [("*", .binary .mul), ("/", .binary .div), ("%", .binary .mod), ("x", buildRepeat)]
      (parseBind n) (← bytesLeft) a

/-- `=~` and `!~`. -/
def parseBind : Nat → PR Expr
  | 0 => tooDeep
  | n + 1 => do
    let a ← parseUnary n
    bindMore n a

/-- Go on with `=~` and `!~`. -/
def bindMore : Nat → Expr → PR Expr
  | 0, a => pure a
  | n + 1, a => do
    match ← peekOp with
    | some "=~" =>
      eatOp "=~"
      let b ← parseUnary n
      bindMore n (bindTarget a b false)
    | some "!~" =>
      eatOp "!~"
      let b ← parseUnary n
      bindMore n (bindTarget a b true)
    | _ => pure a

/-- Unary `!`, `~`, `\`, `-`, `+`, and `++` and `--` in front. -/
def parseUnary : Nat → PR Expr
  | 0 => tooDeep
  | n + 1 => do
    skipSpace
    match ← peekB with
    | some 0x21 =>
      bump 1
      return .not (← parseUnary n)
    | some 0x7E =>
      bump 1
      return .bitNot (← parseUnary n)
    | some 0x5C =>
      bump 1
      return .refOf (← parseUnary n)
    | some 0x2D =>
      match ← byteAt 1 with
      | some 0x2D =>
        bump 2
        return .step true false (← parseUnary n)
      | some c =>
        let after ← byteAt 2
        let fileTests := rawOf "erwxofdlpSbcugkstTBAMCzRWXO"
        if fileTests.contains c && !((after.map isIdentByte).getD false) &&
            after != some 0x3E && !(after = some 0x3D && (← byteAt 3) = some 0x3E) then
          bump 2
          let arg ← if ← termStart false then parseShift n else pure (.scalarVar "_")
          return .fileTest c arg
        else if isIdentStart c then
          -- `-bareword` is the string with its `-`
          bump 1
          let r ← get
          let w := nameLength r.src r.pos
          let word := textOf (r.src.extract r.pos (r.pos + w)).toList
          if isFunctionWord r word then
            return .neg (← parseUnary n)
          bump w
          return .lit (.str (rawOf ("-" ++ word)))
        else
          bump 1
          return .neg (← parseUnary n)
      | none => failAt "syntax error"
    | some 0x2B =>
      if (← byteAt 1) = some 0x2B then
        bump 2
        return .step true true (← parseUnary n)
      bump 1
      parseUnary n
    | _ => parsePow n

/-- `**`, right to left; its right side may have a sign. -/
def parsePow : Nat → PR Expr
  | 0 => tooDeep
  | n + 1 => do
    let a ← parseIncDec n
    if (← peekOp) = some "**" then
      eatOp "**"
      let b ← parseUnary n
      return .binary .pow a b
    return a

/-- `++` and `--` after a term. -/
def parseIncDec : Nat → PR Expr
  | 0 => tooDeep
  | n + 1 => do
    let a ← parsePostfix n
    match ← peekOp with
    | some "++" =>
      eatOp "++"
      return .step false true a
    | some "--" =>
      eatOp "--"
      return .step false false a
    | _ => return a

/-- A term with the subscripts and calls after it. -/
def parsePostfix : Nat → PR Expr
  | 0 => tooDeep
  | n + 1 => do
    let a ← parsePrimary n
    subscriptsMore n a

/-- Subscripts after a term: `->[…]`, `->{…}`, `->(…)`, and `[…]` or `{…}` right after a
subscript. -/
def subscriptsMore : Nat → Expr → PR Expr
  | 0, a => pure a
  | n + 1, a => do
    skipSpace
    let afterSub := match a with
      | .elem _ _ | .helem _ _ | .callRef _ _ => true
      | _ => false
    if ← lookingAt "->" then
      let r ← get
      match r.src[r.pos + 2]? with
      | some 0x5B =>
        bump 3
        let i ← parseExpr n
        expectByte 0x5D
        subscriptsMore n (.elem (.derefArray a) i)
      | some 0x7B =>
        bump 3
        let k ← parseHashKey n
        subscriptsMore n (.helem (.derefHash a) k)
      | some 0x28 =>
        bump 3
        let args ← parseParenItems n
        subscriptsMore n (.callRef a args)
      | some 0x40 =>
        if r.src[r.pos + 3]? = some 0x2A then
          bump 4
          subscriptsMore n (.derefArray a)
        else failAt "syntax error"
      | some 0x25 =>
        if r.src[r.pos + 3]? = some 0x2A then
          bump 4
          subscriptsMore n (.derefHash a)
        else failAt "syntax error"
      | some 0x24 =>
        if r.src[r.pos + 3]? = some 0x2A then
          bump 4
          subscriptsMore n (.derefScalar a)
        else if r.src[r.pos + 3]? = some 0x23 && r.src[r.pos + 4]? = some 0x2A then
          bump 5
          subscriptsMore n (.lastIndex (.derefArray a))
        else if ((r.src[r.pos + 3]?.map isIdentStart).getD false) then
          -- a method named by a variable
          bump 3
          let some v ← readName | failAt "syntax error"
          let args ← if (← peekB) = some 0x28 then do
              bump 1
              parseParenItems n
            else pure []
          subscriptsMore n (.methodCall a (.scalarVar v) args)
        else failAt "syntax error"
      | some c =>
        if isIdentStart c then
          bump 2
          let some m ← readName | failAt "syntax error"
          let args ← if (← peekB) = some 0x28 then do
              bump 1
              parseParenItems n
            else pure []
          subscriptsMore n (.methodCall a (.lit (.str (rawOf m))) args)
        else failAt "syntax error"
      | none => failAt "syntax error"
    else if afterSub then
      match ← peekB with
      | some 0x5B =>
        bump 1
        let i ← parseExpr n
        expectByte 0x5D
        subscriptsMore n (.elem (.derefArray a) i)
      | some 0x7B =>
        bump 1
        let k ← parseHashKey n
        subscriptsMore n (.helem (.derefHash a) k)
      | some 0x28 =>
        match a with
        | .callRef _ _ =>
          bump 1
          let args ← parseParenItems n
          subscriptsMore n (.callRef a args)
        | _ => pure a
      | _ => pure a
    else pure a

/-- The key of a hash subscript after its `{`, up to and past the `}`: a bareword is its own
text. -/
def parseHashKey : Nat → PR Expr
  | 0 => tooDeep
  | n + 1 => do
    skipSpace
    let r ← get
    let dash := r.src[r.pos]? = some 0x2D
    let start := if dash then r.pos + 1 else r.pos
    let w := nameLength r.src start
    if w > 0 then
      let j := findFrom r.src (fun b => !(b = 0x20 || b = 0x09 || b = 0x0A)) r.src.size (start + w)
      if r.src[j]? = some 0x7D then
        let word := (r.src.extract r.pos (start + w)).toList
        set { r with pos := j + 1 }
        return .lit (.str word)
    let k ← parseExpr n
    expectByte 0x7D
    return k

/-- Items in parentheses after the `(`, up to and past the `)`. -/
def parseParenItems : Nat → PR (List Expr)
  | 0 => tooDeep
  | n + 1 => do
    skipSpace
    if (← peekB) = some 0x29 then
      bump 1
      return []
    let e ← parseExpr n
    expectByte 0x29
    return match e with
      | .list items => items
      | e => [e]

/-- Items up to a closing byte, past it. -/
def parseItemsUntil : Nat → UInt8 → PR (List Expr)
  | 0, _ => tooDeep
  | n + 1, close => do
    skipSpace
    if (← peekB) = some close then
      bump 1
      return []
    let e ← parseExpr n
    expectByte close
    return match e with
      | .list items => items
      | e => [e]

/-- The arguments of a list operator: in parentheses, or up to the end of the list. -/
def parseCallArgs : Nat → PR (List Expr)
  | 0 => tooDeep
  | n + 1 => do
    skipSpace
    if (← peekB) = some 0x28 then
      bump 1
      parseParenItems n
    else if ← termStart true then parseCommaItems n
    else return []

/-- The argument of a named unary operator, if any. -/
def parseUnaryArg : Nat → PR (Option Expr)
  | 0 => tooDeep
  | n + 1 => do
    skipSpace
    if (← peekB) = some 0x28 then
      bump 1
      let items ← parseParenItems n
      return match items with
        | [] => none
        | [e] => some e
        | es => some (.list es)
    else if ← termStart false then return some (← parseShift n)
    else return none

/-- After a `$` that dereferences: the expression of the reference. -/
def parseRefHolder : Nat → PR Expr
  | 0 => tooDeep
  | n + 1 => do
    match ← peekB with
    | some 0x24 =>
      bump 1
      return .derefScalar (← parseRefHolder n)
    | some 0x7B =>
      bump 1
      let e ← parseExpr n
      expectByte 0x7D
      return e
    | _ =>
      match ← readVarName with
      | some nm => return .scalarVar nm
      | none => failAt "syntax error"

/-- A term after `$`. -/
def parseScalarTerm : Nat → PR Expr
  | 0 => tooDeep
  | n + 1 => do
    bump 1
    let r ← get
    let b := r.src[r.pos]?
    let b1 := r.src[r.pos + 1]?
    let refStart (c : Option UInt8) : Bool :=
      match c with
      | some c => isIdentStart c || c = 0x7B || c = 0x24 || c = 0x3A
      | none => false
    if b = some 0x23 && (refStart b1) then
      bump 1
      match ← peekB with
      | some 0x7B =>
        bump 1
        let e ← parseExpr n
        expectByte 0x7D
        return .lastIndex (.derefArray e)
      | some 0x24 =>
        bump 1
        let h ← parseRefHolder n
        return .lastIndex (.derefArray h)
      | _ =>
        match ← readVarName with
        | some nm => return .lastIndex (.arrayVar nm)
        | none => failAt "syntax error"
    else if b = some 0x24 && refStart b1 then
      bump 1
      let h ← parseRefHolder n
      derefSubscript n h
    else if b = some 0x7B then
      -- `${name}` or `${ expr }`
      let j := findFrom r.src (fun c => !(c = 0x20)) r.src.size (r.pos + 1)
      let w := nameLength r.src j
      let k := findFrom r.src (fun c => !(c = 0x20)) r.src.size (j + w)
      if w > 0 && r.src[k]? = some 0x7D then
        let nm := textOf (r.src.extract j (j + w)).toList
        set { r with pos := k + 1 }
        namedSubscript n nm
      else if r.src[j]? = some 0x5E then
        let w := findFrom r.src (fun c => !isIdentByte c) r.src.size (j + 1) - (j + 1)
        let nm := "^" ++ textOf (r.src.extract (j + 1) (j + 1 + w)).toList
        set { r with pos := j + 1 + w }
        expectByte 0x7D
        return .scalarVar nm
      else
        bump 1
        let e ← parseExpr n
        expectByte 0x7D
        derefSubscript n e
    else
      match ← readVarName with
      | some nm => namedSubscript n nm
      | none => failAt "syntax error"

/-- The element a subscript after `$name` takes, or the scalar itself. -/
def namedSubscript : Nat → String → PR Expr
  | 0, _ => tooDeep
  | n + 1, nm => do
    skipSpace
    match ← peekB with
    | some 0x5B =>
      if nm.all Char.isDigit || nm.length = 1 && !(nm.all Char.isAlpha) && nm != "_" && nm != "-" && nm != "+" then
        return .scalarVar nm
      bump 1
      let i ← parseExpr n
      expectByte 0x5D
      return .elem (.arrayVar nm) i
    | some 0x7B =>
      if nm.all Char.isDigit || nm.length = 1 && !(nm.all Char.isAlpha) && nm != "_" && nm != "+" then
        return .scalarVar nm
      bump 1
      let k ← parseHashKey n
      return .helem (.hashVar nm) k
    | _ => return .scalarVar nm

/-- The element a subscript after `$$ref` takes, or the scalar it points to. -/
def derefSubscript : Nat → Expr → PR Expr
  | 0, _ => tooDeep
  | n + 1, h => do
    skipSpace
    match ← peekB with
    | some 0x5B =>
      bump 1
      let i ← parseExpr n
      expectByte 0x5D
      return .elem (.derefArray h) i
    | some 0x7B =>
      bump 1
      let k ← parseHashKey n
      return .helem (.derefHash h) k
    | _ => return .derefScalar h

/-- A term after `@`: an array, a dereference, or a slice. -/
def parseArrayTerm : Nat → PR Expr
  | 0 => tooDeep
  | n + 1 => do
    bump 1
    let (arr, hash) ← match ← peekB with
      | some 0x24 =>
        bump 1
        let h ← parseRefHolder n
        pure (Expr.derefArray h, Expr.derefHash h)
      | some 0x7B =>
        bump 1
        let e ← parseExpr n
        expectByte 0x7D
        pure (Expr.derefArray e, Expr.derefHash e)
      | _ =>
        match ← readVarName with
        | some nm => pure (Expr.arrayVar nm, Expr.hashVar nm)
        | none => failAt "syntax error"
    skipSpace
    match ← peekB with
    | some 0x5B =>
      bump 1
      let items ← parseItemsUntil n 0x5D
      return .slice arr (.list items)
    | some 0x7B =>
      bump 1
      let items ← parseItemsUntil n 0x7D
      return .hslice hash (.list items)
    | _ => return arr

/-- A term after `%`: a hash or a dereference. -/
def parseHashTerm : Nat → PR Expr
  | 0 => tooDeep
  | n + 1 => do
    bump 1
    match ← peekB with
    | some 0x24 =>
      bump 1
      return .derefHash (← parseRefHolder n)
    | some 0x7B =>
      bump 1
      let e ← parseExpr n
      expectByte 0x7D
      return .derefHash e
    | _ =>
      match ← readVarName with
      | some nm =>
        -- `%h{…}` and `%a[…]`: the keys or indexes with their values
        match ← peekB with
        | some 0x7B =>
          bump 1
          let keys ← parseExpr n
          expectByte 0x7D
          return .mapList false (.list [.scalarVar "_", .helem (.hashVar nm) (.scalarVar "_")]) [keys]
        | some 0x5B =>
          bump 1
          let idx ← parseExpr n
          expectByte 0x5D
          return .mapList false (.list [.scalarVar "_", .elem (.arrayVar nm) (.scalarVar "_")]) [idx]
        | _ => return .hashVar nm
      | none => failAt "syntax error"

/-- A call after `&`. -/
def parseAmpCall : Nat → PR Expr
  | 0 => tooDeep
  | n + 1 => do
    bump 1
    let target ← match ← peekB with
      | some 0x24 =>
        bump 1
        pure (some (← parseRefHolder n))
      | some 0x7B =>
        bump 1
        let e ← parseExpr n
        expectByte 0x7D
        pure (some e)
      | _ => pure none
    match target with
    | some code =>
      skipSpace
      if (← peekB) = some 0x28 then
        bump 1
        return .callRef code (← parseParenItems n)
      return .callRef code [.arrayVar "_"]
    | none =>
      match ← readName with
      | some nm =>
        skipSpace
        if (← peekB) = some 0x28 then
          bump 1
          return .call nm (some (← parseParenItems n))
        return .call nm none
      | none => failAt "syntax error"

/-- A term. -/
def parsePrimary : Nat → PR Expr
  | 0 => tooDeep
  | n + 1 => do
    skipSpace
    let r ← get
    match r.src[r.pos]? with
    | none => failAt "syntax error"
    | some b =>
      if b = 0x24 then parseScalarTerm n
      else if b = 0x40 then parseArrayTerm n
      else if b = 0x25 then parseHashTerm n
      else if b = 0x26 then parseAmpCall n
      else if b = 0x28 then
        bump 1
        let items ← parseParenItems n
        skipSpace
        if (← peekB) = some 0x5B then
          bump 1
          let idx ← parseItemsUntil n 0x5D
          return .listSlice (.list items) (.list idx)
        return .list items
      else if b = 0x5B then
        bump 1
        return .anonArray (← parseItemsUntil n 0x5D)
      else if b = 0x7B then
        bump 1
        return .anonHash (← parseItemsUntil n 0x7D)
      else if b = 0x27 then
        bump 1
        match readDelimited 0x27 (← restBytes) with
        | some (content, rest) =>
          resumeAt rest
          return .lit (.str (singleQuoted 0x27 content))
        | none => failAt "Can't find string terminator \"'\" anywhere before EOF"
      else if b = 0x22 then
        bump 1
        match readDelimited 0x22 (← restBytes) with
        | some (content, rest) =>
          resumeAt rest
          let parts ← parseInterp n .string content
          return interpExpr parts
        | none => failAt "Can't find string terminator '\"' anywhere before EOF"
      else if isDigit b || (b = 0x2E && ((r.src[r.pos + 1]?.map isDigit).getD false)) then
        match readNumber (← restBytes) with
        | some (v, rest) =>
          resumeAt rest
          return .lit v
        | none => failAt "syntax error"
      else if b = 0x3C then
        parseReadLine
      else if b = 0x2F then
        bump 1
        parseMatchBody n 0x2F
      else if isIdentStart b then parseWordTerm n
      else failAt "syntax error"

/-- The rest of `m//` after its opening delimiter. -/
def parseMatchBody : Nat → UInt8 → PR Expr
  | 0, _ => tooDeep
  | n + 1, delim => do
    match readDelimited delim (← restBytes) with
    | some (content, rest) =>
      resumeAt rest
      let flags ← readFlags
      let parts ← if delim = 0x27 then pure [Part.text content] else parseInterp n .pattern content
      return .matchOp none false parts flags
    | none => failAt "Search pattern not terminated"

/-- A quote-like construct after its word. -/
def parseQuoteLike : Nat → String → PR Expr
  | 0, _ => tooDeep
  | n + 1, word => do
    let some delim ← readDelimiter | failAt "syntax error"
    let some (content, rest) := readDelimited delim (← restBytes)
      | failAt (if word = "s" then "Substitution pattern not terminated"
          else if word = "tr" || word = "y" then "Transliteration pattern not terminated"
          else "Can't find string terminator anywhere before EOF")
    resumeAt rest
    match word with
    | "q" => return .lit (.str (singleQuoted delim content))
    | "qq" =>
      if delim = 0x27 then return .lit (.str (singleQuoted delim content))
      return interpExpr (← parseInterp n .string content)
    | "qw" => return .list (qwWords delim content)
    | "m" =>
      let flags ← readFlags
      let parts ← if delim = 0x27 then pure [Part.text content] else parseInterp n .pattern content
      return .matchOp none false parts flags
    | "qr" =>
      let flags ← readFlags
      let parts ← if delim = 0x27 then pure [Part.text content] else parseInterp n .pattern content
      return .quoteRegex parts flags
    | "s" =>
      let (delim2, repl) ← secondPart delim
      let flags ← readFlags
      let parts ← if delim = 0x27 then pure [Part.text content] else parseInterp n .pattern content
      let replacement ←
        if flags.contains 0x65 then
          let body ← withSource repl (parseStatements n [])
          pure (Expr.doBlock body)
        else if delim2 = 0x27 then pure (Expr.lit (.str repl))
        else pure (interpExpr (← parseInterp n .replacement repl))
      return .substOp none parts replacement flags
    | _ =>
      let (_, repl) ← secondPart delim
      let flags ← readFlags
      let src := expandRanges (content.length + 1) content
      let dst := expandRanges (repl.length + 1) repl
      return .transOp none src dst flags

/-- The parts of text that values are put in. -/
def parseInterp : Nat → QuoteMode → Bytes → PR (List Part)
  | 0, _, _ => tooDeep
  | n + 1, mode, content => interpLoop n mode content [] []

/-- Go on through the text, `text` the bytes not yet made a part. -/
def interpLoop : Nat → QuoteMode → Bytes → Bytes → List Part → PR (List Part)
  | 0, _, _, _, _ => tooDeep
  | n + 1, mode, bs, text, acc => do
    let flush (t : Bytes) (a : List Part) : List Part := if t.isEmpty then a else a ++ [.text t]
    match bs with
    | [] => return flush text acc
    | 0x5C :: rest =>
      match rest with
      | c :: more =>
        match caseMarkOf c with
        | some m => interpLoop n mode more [] (flush text acc ++ [.mark m])
        | none =>
          if mode = .pattern then interpLoop n mode more (text ++ [0x5C, c]) acc
          else if mode = .replacement && 0x31 ≤ c && c ≤ 0x39 then
            interpLoop n mode more [] (flush text acc ++ [.scalar (.scalarVar (textOf [c]))])
          else
            match readDoubleEscape rest with
            | some (out, after) => interpLoop n mode after (text ++ out) acc
            | none => interpLoop n mode more (text ++ [c]) acc
      | [] => return flush (text ++ [0x5C]) acc
    | b :: rest =>
      if b = 0x24 || b = 0x40 then
        let k := interpExtent mode bs
        if k = 0 then interpLoop n mode rest (text ++ [b]) acc
        else
          let piece := bs.take k
          let e ← withSource piece (parsePostfix n)
          let part := if b = 0x40 then Part.list e else Part.scalar e
          interpLoop n mode (bs.drop k) [] (flush text acc ++ [part])
      else interpLoop n mode rest (text ++ [b]) acc

/-- A term that begins with a word. -/
def parseWordTerm : Nat → PR Expr
  | 0 => tooDeep
  | n + 1 => do
    let some word ← readName | failAt "syntax error"
    let r ← get
    -- a word before `=>` is its text
    let j := findFrom r.src (fun b => !(b = 0x20 || b = 0x09 || b = 0x0A)) r.src.size r.pos
    if r.src[j]? = some 0x3D && r.src[j + 1]? = some 0x3E then return .lit (.str (rawOf word))
    if quoteWords.contains word && (← quoteFollows) then return ← parseQuoteLike n word
    let short := shortName word
    match word with
    | "my" | "our" | "local" | "state" =>
      let kind : Decl := if word = "our" then .our else if word = "local" then .local else .my
      parseDecl n kind
    | "sub" =>
      let body ← parseBlock n
      return .anonSub body
    | "do" =>
      skipSpace
      if (← peekB) = some 0x7B then return .doBlock (← parseBlock n)
      let arg ← parseUnaryArg n
      return .builtin "do" arg.toList
    | "eval" =>
      skipSpace
      if (← peekB) = some 0x7B then return .evalBlock (← parseBlock n)
      let arg ← parseUnaryArg n
      return .builtin "eval" arg.toList
    | "print" => parsePrint n .print
    | "printf" => parsePrint n .printf
    | "sort" => parseSort n
    | "map" => parseMap n false
    | "grep" => parseMap n true
    | "return" =>
      if ← termStart true then return .ret (some (← parseCommaExpr n))
      return .ret none
    | "next" | "last" | "redo" =>
      let kind : LoopCtl := if word = "next" then .next else if word = "last" then .last else .redo
      skipSpace
      match ← peekName with
      | some l =>
        if isLabelWord l then
          bump l.length
          return .loopCtl kind (some l)
        return .loopCtl kind none
      | none => return .loopCtl kind none
    | "wantarray" =>
      skipSpace
      if ← lookingAt "()" then bump 2
      return .wantArray
    | "__FILE__" => return .lit (.str (rawOf r.fileName))
    | "__LINE__" => return .lit (.int (r.line : Int))
    | "__PACKAGE__" => return .lit (.str (rawOf (← get).package))
    | "STDIN" | "STDOUT" | "STDERR" | "ARGV" => return .handle word
    | "undef" =>
      skipSpace
      match ← peekB with
      | some 0x28 =>
        bump 1
        let items ← parseParenItems n
        return .builtin "undef" items
      | some 0x24 | some 0x40 | some 0x25 | some 0x26 =>
        let e ← parsePostfix n
        return .builtin "undef" [e]
      | _ => return .builtin "undef" []
    | _ =>
      if word = "say" && r.sayOn then return ← parsePrint n .say
      skipSpace
      let nextByte ← peekB
      let imported := r.imported.contains short || word.startsWith "List::Util::" ||
        word.startsWith "POSIX::" || word.startsWith "Data::Dumper::" || word.startsWith "Scalar::Util::"
      if imported && blockFunctions.contains short && nextByte = some 0x7B then
        let body ← parseBlock n
        let items ← if ← termStart true then parseCommaItems n else pure []
        return .blockCall short (.doBlock body) items
      if imported && (moduleFunctions.contains short || blockFunctions.contains short) then
        return .builtin short (← parseCallArgs n)
      if namedUnaryOps.contains word then
        let arg ← parseUnaryArg n
        return .builtin word arg.toList
      if listOps.contains word then
        return .builtin word (← parseCallArgs n)
      if noArgOps.contains word then
        if ← lookingAt "()" then bump 2
        return .builtin word []
      if r.known.contains ("()" ++ word) then
        -- a constant takes no arguments
        if ← lookingAt "()" then bump 2
        return .call word (some [])
      if r.known.contains ("&" ++ word) then
        -- a subroutine whose prototype takes a block first
        skipSpace
        if (← peekB) = some 0x7B then
          let body ← parseBlock n
          skipSpace
          if (← peekB) = some 0x2C then bump 1
          let rest ← if ← termStart true then parseCommaItems n else pure []
          return .call word (some (.anonSub body :: rest))
      if r.known.contains word then
        return .call word (some (← parseCallArgs n))
      if nextByte = some 0x28 then
        bump 1
        return .call word (some (← parseParenItems n))
      return .lit (.str (rawOf word))

/-- A declaration after `my`, `our` or `local`. -/
def parseDecl : Nat → Decl → PR Expr
  | 0, _ => tooDeep
  | n + 1, kind => do
    skipSpace
    if (← peekB) = some 0x28 then
      bump 1
      let items ← parseParenItems n
      return .list [.declare kind items]
    if kind = .local then
      let e ← parsePostfix n
      return .declare kind [e]
    match ← peekB with
    | some 0x24 =>
      bump 1
      match ← readVarName with
      | some nm => return .declare kind [.scalarVar nm]
      | none => failAt "syntax error"
    | some 0x40 =>
      bump 1
      match ← readVarName with
      | some nm => return .declare kind [.arrayVar nm]
      | none => failAt "syntax error"
    | some 0x25 =>
      bump 1
      match ← readVarName with
      | some nm => return .declare kind [.hashVar nm]
      | none => failAt "syntax error"
    | _ => failAt "syntax error"

/-- The handle `print` writes to, if one is written: a bareword, a block, or a scalar
followed by a term with no operator between. -/
def parseHandle : Nat → PR (Option Expr)
  | 0 => tooDeep
  | n + 1 => do
    skipSpace
    let r ← get
    match r.src[r.pos]? with
    | some 0x7B =>
      bump 1
      let e ← parseExpr n
      expectByte 0x7D
      return some e
    | some 0x24 =>
      let w := nameLength r.src (r.pos + 1)
      if w = 0 then return none
      let after := r.pos + 1 + w
      let j := findFrom r.src (fun b => !(b = 0x20 || b = 0x09)) r.src.size after
      if j = after then return none
      match r.src[j]? with
      | some c =>
        let isTerm := c = 0x22 || c = 0x27 || c = 0x24 || c = 0x40 || isDigit c || c = 0x5C ||
          (isIdentStart c &&
            let k := findFrom r.src (fun b => !isIdentByte b) r.src.size j
            !nonTermWords.contains (textOf (r.src.extract j k).toList))
        if isTerm then
          let nm := textOf (r.src.extract (r.pos + 1) after).toList
          set { r with pos := after }
          return some (.scalarVar nm)
        return none
      | none => return none
    | some c =>
      if isIdentStart c then
        let w := nameLength r.src r.pos
        let word := textOf (r.src.extract r.pos (r.pos + w)).toList
        let j := findFrom r.src (fun b => !(b = 0x20 || b = 0x09)) r.src.size (r.pos + w)
        let nextB := r.src[j]?
        let std := ["STDOUT", "STDERR", "STDIN"].contains word
        let upper := word.all fun ch => ch.isUpper || ch.isDigit || ch == '_'
        if std && nextB != some 0x28 && nextB != some 0x2C && !(nextB = some 0x3D && r.src[j + 1]? = some 0x3E) then
          set { r with pos := r.pos + w }
          return some (.handle word)
        if upper && !isFunctionWord r word && (nextB = some 0x22 || nextB = some 0x27 || nextB = some 0x24) then
          set { r with pos := r.pos + w }
          return some (.handle word)
        return none
      else return none
    | none => return none

/-- `print`, `printf` and `say`. -/
def parsePrint : Nat → PrintKind → PR Expr
  | 0, _ => tooDeep
  | n + 1, kind => do
    skipSpace
    if (← peekB) = some 0x28 then
      bump 1
      let h ← parseHandle n
      let items ← parseParenItems n
      return .print kind h items
    let h ← parseHandle n
    let items ← if ← termStart true then parseCommaItems n else pure []
    return .print kind h items

/-- `sort`, with a block, a subroutine's name or a variable holding one. -/
def parseSort : Nat → PR Expr
  | 0 => tooDeep
  | n + 1 => do
    skipSpace
    let paren ← if (← peekB) = some 0x28 then (do bump 1; pure true) else pure false
    skipSpace
    let r ← get
    let cmp ← match r.src[r.pos]? with
      | some 0x7B =>
        let body ← parseBlock n
        pure (some (Expr.doBlock body))
      | some c =>
        if isIdentStart c then
          let w := nameLength r.src r.pos
          let word := textOf (r.src.extract r.pos (r.pos + w)).toList
          let j := findFrom r.src (fun b => !(b = 0x20 || b = 0x09)) r.src.size (r.pos + w)
          let nextB := r.src[j]?
          if r.known.contains word && nextB != some 0x2C then
            set { r with pos := r.pos + w }
            pure (some (Expr.subName word))
          else if !isFunctionWord r word then
            if nextB != some 0x28 && nextB != some 0x2C && j > r.pos + w then
              set { r with pos := r.pos + w }
              pure (some (Expr.subName word))
            else pure none
          else pure none
        else if c = 0x24 then
          let w := nameLength r.src (r.pos + 1)
          let after := r.pos + 1 + w
          let j := findFrom r.src (fun b => !(b = 0x20 || b = 0x09)) r.src.size after
          if w > 0 && j > after && (r.src[j]? = some 0x40 || r.src[j]? = some 0x28) then
            set { r with pos := after }
            pure (some (Expr.scalarVar (textOf (r.src.extract (r.pos + 1) after).toList)))
          else pure none
        else pure none
      | none => pure none
    let items ← if paren then parseParenItems n
      else if ← termStart true then parseCommaItems n else pure []
    return .sortList cmp items

/-- `map` and `grep`, with a block or an expression. -/
def parseMap : Nat → Bool → PR Expr
  | 0, _ => tooDeep
  | n + 1, keep => do
    skipSpace
    let paren ← if (← peekB) = some 0x28 then (do bump 1; pure true) else pure false
    skipSpace
    let saved ← get
    let asBlock ← if (← peekB) = some 0x7B then
        try
          let body ← parseBlock n
          if (← peekOp) = some "," then pure none else pure (some body)
        catch _ => pure none
      else pure none
    let body ← match asBlock with
      | some stmts => pure (Expr.doBlock stmts)
      | none =>
        set saved
        let e ← parseAssign n
        let op := (← peekOp).getD ""
        if op = "," || op = "=>" then eatOp op else failAt "syntax error"
        pure e
    let items ← if paren then parseParenItems n
      else if ← termStart true then parseCommaItems n else pure []
    return .mapList keep body items

/-- A block in braces. -/
def parseBlock : Nat → PR (List Stmt)
  | 0 => tooDeep
  | n + 1 => do
    expectByte 0x7B
    let body ← parseStatements n []
    skipSpace
    if (← peekB) = some 0x7D then
      bump 1
      return body
    failAt "Missing right curly or square bracket"

/-- Statements up to a `}` or the end. -/
def parseStatements : Nat → List Stmt → PR (List Stmt)
  | 0, acc => pure acc
  | n + 1, acc => do
    skipSpace
    if (← get).stopped then return acc
    match ← peekB with
    | none => return acc
    | some 0x7D => return acc
    | _ =>
      let s ← parseStatement n
      parseStatements n (acc ++ s)

/-- A statement: none for an empty one or a definition. -/
def parseStatement : Nat → PR (List Stmt)
  | 0 => tooDeep
  | n + 1 => do
    skipSpace
    let r ← get
    let line := r.line
    match r.src[r.pos]? with
    | some 0x3B =>
      bump 1
      return []
    | some 0x7B =>
      if looksLikeAnonHash r.src (r.pos + 1) then simpleStatement n line
      else
        let body ← parseBlock n
        return [.block none body]
    | _ =>
      match ← peekName with
      | some w =>
        let afterWord := r.pos + w.length
        let j := findFrom r.src (fun b => !(b = 0x20 || b = 0x09 || b = 0x0A)) r.src.size afterWord
        if isLabelWord w && r.src[j]? = some 0x3A && r.src[j + 1]? != some 0x3A then
          set { r with pos := j + 1 }
          return ← parseLabeled n (some w)
        match w with
        | "sub" =>
          let k := findFrom r.src (fun b => !(b = 0x20 || b = 0x09 || b = 0x0A)) r.src.size afterWord
          if ((r.src[k]?.map isIdentStart).getD false) then
            set { r with pos := k }
            let some name ← readName | failAt "syntax error"
            skipSpace
            if (← peekB) = some 0x28 then
              match readDelimited 0x28 ((← restBytes).drop 1) with
              | some (_, rest) => resumeAt rest
              | none => failAt "syntax error"
            let body ← parseBlock n
            let pkg := (← get).package
            let full := if name.contains ':' || pkg = "main" then name else pkg ++ "::" ++ name
            addSub { name := full, body }
            return []
          simpleStatement n line
        | "BEGIN" | "END" =>
          if r.src[j]? = some 0x7B then
            bump w.length
            let body ← parseBlock n
            if w = "BEGIN" then modify fun s => { s with begins := s.begins ++ [body] }
            else modify fun s => { s with ends := s.ends ++ [body] }
            return []
          simpleStatement n line
        | "if" | "unless" => parseIf n
        | "while" | "until" | "for" | "foreach" => parseLabeled n none
        | "package" =>
          bump w.length
          skipSpace
          let some name ← readName | failAt "syntax error"
          skipSpace
          -- a version after the name
          let r2 ← get
          if ((r2.src[r2.pos]?.map fun b => isDigit b || b = 0x76).getD false) then
            set { r2 with pos := findFrom r2.src (fun b => !(isIdentByte b || b = 0x2E)) r2.src.size r2.pos }
            skipSpace
          let setTo (p : String) : Stmt := .expr (.builtin "package" [.lit (.str (rawOf p))]) line
          if (← peekB) = some 0x7B then
            let outer := (← get).package
            modify fun s => { s with package := name }
            let body ← parseBlock n
            modify fun s => { s with package := outer }
            return [.block none ([setTo name] ++ body ++ [setTo outer])]
          if (← peekB) = some 0x3B then bump 1
          modify fun s => { s with package := name }
          return [setTo name]
        | "use" | "no" =>
          bump w.length
          parseUse n (w = "use")
          return []
        | "__END__" | "__DATA__" =>
          modify fun s => { s with stopped := true, pos := s.src.size }
          return []
        | _ => simpleStatement n line
      | none => simpleStatement n line

/-- A loop or block after its label, if any. -/
def parseLabeled : Nat → Option String → PR (List Stmt)
  | 0, _ => tooDeep
  | n + 1, label => do
    skipSpace
    let line := (← get).line
    if (← peekB) = some 0x7B then
      let body ← parseBlock n
      return [.block label body]
    match ← peekName with
    | some "while" | some "until" =>
      let neg := (← peekName) = some "until"
      bump 5
      expectByte 0x28
      skipSpace
      let c ← if (← peekB) = some 0x29 then pure none else (do pure (some (definedRead (← parseExpr n))))
      expectByte 0x29
      let body ← parseBlock n
      skipSpace
      let cont ← if (← peekName) = some "continue" then (do bump 8; parseBlock n) else pure []
      return [.whileLoop label c neg body cont line]
    | some "for" | some "foreach" =>
      let w := (← peekName).getD "for"
      bump w.length
      skipSpace
      match ← peekName with
      | some "my" | some "our" | some "state" =>
        let d := (← peekName).getD "my"
        bump d.length
        skipSpace
        expectByte 0x24
        let some v ← readVarName | failAt "syntax error"
        expectByte 0x28
        let items ← parseParenItems n
        let body ← parseBlock n
        return [.foreach label (some v) (d != "our") (.list items) body line]
      | _ =>
        if (← peekB) = some 0x24 then
          bump 1
          let some v ← readVarName | failAt "syntax error"
          expectByte 0x28
          let items ← parseParenItems n
          let body ← parseBlock n
          return [.foreach label (some v) false (.list items) body line]
        expectByte 0x28
        skipSpace
        let init ← if (← peekB) = some 0x3B then pure none else (do pure (some (← parseExpr n)))
        skipSpace
        if (← peekB) = some 0x3B then
          bump 1
          skipSpace
          let c ← if (← peekB) = some 0x3B then pure none else (do pure (some (← parseExpr n)))
          expectByte 0x3B
          skipSpace
          let st ← if (← peekB) = some 0x29 then pure none else (do pure (some (← parseExpr n)))
          expectByte 0x29
          let body ← parseBlock n
          return [.cfor label init (c.map definedRead) st body line]
        expectByte 0x29
        let body ← parseBlock n
        let items := match init with
          | some (.list items) => Expr.list items
          | some e => Expr.list [e]
          | none => Expr.list []
        return [.foreach label none false items body line]
    | _ => simpleStatement n line

/-- `if` and `unless`, with `elsif` and `else`. -/
def parseIf : Nat → PR (List Stmt)
  | 0 => tooDeep
  | n + 1 => do
    skipSpace
    let line := (← get).line
    let neg := (← peekName) = some "unless"
    bump (if neg then 6 else 2)
    expectByte 0x28
    let c ← parseExpr n
    expectByte 0x29
    let body ← parseBlock n
    let (branches, otherwise) ← elseChain n
    let c := if neg then Expr.not c else c
    return [.ifs ((c, body) :: branches) otherwise line]

/-- The `elsif` and `else` parts after an `if`. -/
def elseChain : Nat → PR (List (Expr × List Stmt) × List Stmt)
  | 0 => tooDeep
  | n + 1 => do
    skipSpace
    match ← peekName with
    | some "elsif" =>
      bump 5
      expectByte 0x28
      let c ← parseExpr n
      expectByte 0x29
      let body ← parseBlock n
      let (more, otherwise) ← elseChain n
      return ((c, body) :: more, otherwise)
    | some "else" =>
      bump 4
      let body ← parseBlock n
      return ([], body)
    | _ => return ([], [])

/-- An expression statement with its modifier. -/
def simpleStatement : Nat → Nat → PR (List Stmt)
  | 0, _ => tooDeep
  | n + 1, line => do
    let e ← parseExpr n
    skipSpace
    let s ← match ← peekName with
      | some "if" =>
        bump 2
        let c ← parseExpr n
        pure (Stmt.ifs [(c, [.expr e line])] [] line)
      | some "unless" =>
        bump 6
        let c ← parseExpr n
        pure (Stmt.ifs [(.not c, [.expr e line])] [] line)
      | some "while" | some "until" =>
        let neg := (← peekName) = some "until"
        bump 5
        let c ← parseExpr n
        match e with
        | .doBlock _ => pure (Stmt.doLoop e c neg line)
        | _ => pure (Stmt.whileLoop none (some (definedRead c)) neg [.expr e line] [] line)
      | some "for" | some "foreach" =>
        let w := (← peekName).getD "for"
        bump w.length
        let c ← parseExpr n
        pure (Stmt.foreach none none false c [.expr e line] line)
      | _ => pure (Stmt.expr e line)
    skipSpace
    match ← peekB with
    | some 0x3B =>
      bump 1
      return [s]
    | some 0x7D => return [s]
    | none => return [s]
    | some c =>
      -- a term where an operator should stand
      if isIdentByte c || c = 0x24 || c = 0x40 || c = 0x22 || c = 0x27 then failAt "operator expected"
      else failAt "syntax error"

/-- `use` and `no`: a version, or a module with its imports. -/
def parseUse : Nat → Bool → PR Unit
  | 0, _ => tooDeep
  | n + 1, on => do
    skipSpace
    let r ← get
    match r.src[r.pos]? with
    | some c =>
      if isDigit c || c = 0x76 then
        let rest ← restBytes
        let v := rest.takeWhile fun b => b != 0x3B
        let digits := (v.filter fun b => isDigit b || b = 0x2E)
        -- `5.010`, `5.10`, `v5.10`: a minor version of 10 or more turns on `say`
        let minor := match digits.splitOn 0x2E with
          | _ :: m :: _ =>
            let m := if c = 0x76 then m else (m.take 3 ++ List.replicate (3 - (m.take 3).length) 0x30)
            m.foldl (fun acc d => 10 * acc + (d - 0x30).toNat) 0
          | _ => 0
        if on && minor ≥ 10 then modify fun s => { s with sayOn := true }
        skipToSemicolon
      else
        let some m ← readName | failAt "syntax error"
        let args ← if ← termStart true then parseCommaItems n else pure []
        skipSpace
        if (← peekB) = some 0x3B then bump 1
        let names : List String := args.flatMap fun a =>
          match a with
          | .lit (.str s) => [textOf s]
          | .list items => items.filterMap fun i =>
            match i with
            | .lit (.str s) => some (textOf s)
            | _ => none
          | .interp parts => parts.filterMap fun p =>
            match p with
            | .text s => some (textOf s)
            | _ => none
          | _ => []
        if on then
          if m = "feature" && (names.contains "say" || names.any (·.startsWith ":5.")) then
            modify fun s => { s with sayOn := true }
          if m = "POSIX" && names.isEmpty then
            modify fun s => { s with imported := s.imported ++
              ["floor", "ceil", "fmod", "pow", "strftime", "mktime", "INT_MAX", "INT_MIN", "UINT_MAX",
               "DBL_MAX", "DBL_MIN", "LONG_MAX", "LONG_MIN", "isatty", "strtol"] }
          if m = "Data::Dumper" then modify fun s => { s with imported := s.imported ++ ["Dumper"] }
          if m = "parent" || m = "base" then
            let pkg := (← get).package
            let bases := names.filter (· != "-norequire")
            modify fun s => { s with inherits := s.inherits ++ [(pkg, bases)] }
          if m = "constant" then
            let line := (← get).line
            let defs : List (String × Expr) := match args with
              | [.anonHash items] => constantPairs items
              | .lit (.str k) :: values => [(textOf k, .list values)]
              | _ => []
            let pkg := (← get).package
            for (name, value) in defs do
              let full := if pkg = "main" then name else pkg ++ "::" ++ name
              addSub { name := full, body := [.expr value line] }
              modify fun s => { s with known := s.known ++ [name] }
              modify fun s => { s with known := s.known ++ ["()" ++ name] }
          modify fun s => { s with imported := s.imported ++ names }
    | none => failAt "syntax error"

end

/-- The names of the subroutines a text defines: each word after `sub`. -/
def declaredSubs (src : Bytes) : List String :=
  let arr := src.toArray
  let marker := rawOf "sub"
  (List.range src.length).flatMap fun i =>
    if marker.isPrefixOf (src.drop i) && (i = 0 || !((arr[i - 1]?.map isIdentByte).getD false)) then
      let j := findFrom arr (fun b => !(b = 0x20 || b = 0x09 || b = 0x0A)) arr.size (i + 3)
      if j > i + 3 then
        let w := nameLength arr j
        if w > 0 then
          let name := textOf (arr.extract j (j + w)).toList
          -- a prototype that begins with `&`: the subroutine takes a block first
          let k := findFrom arr (fun b => !(b = 0x20 || b = 0x09)) arr.size (j + w)
          if arr[k]? = some 0x28 && arr[k + 1]? = some 0x26 then [name, "&" ++ name] else [name]
        else []
      else []
    else []

/-- How the program is read: its name, whether `say` is on, and the functions imported. -/
structure ReadOptions where
  /-- The name of the program. -/
  fileName : String := "-e"
  /-- Whether `say` is a keyword. -/
  sayOn : Bool := false
  /-- The functions imported from modules. -/
  imported : List String := []

/-- Read a program. -/
def parseProgram (src : Bytes) (opts : ReadOptions) : Except ParseError Program :=
  let fuel := 64 * src.length + 256
  let start : Reader :=
    { src := src.toArray, known := declaredSubs src, sayOn := opts.sayOn,
      imported := opts.imported, fileName := opts.fileName }
  let run : PR (List Stmt) := do
    let body ← parseStatements fuel []
    skipSpace
    if (← peekB) = some 0x7D then failAt "Unmatched right curly bracket"
    return body
  match run.run start with
  | .ok (body, st) =>
    .ok { body, subs := st.subs, begins := st.begins, ends := st.ends, inherits := st.inherits }
  | .error e => .error e

end Chatbot.Perl
