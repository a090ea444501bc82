import Chatbot.Shell.Host
import Chatbot.Shell.Tools

/-!
# The `test` command

`test expr` and `[ expr ]` decide conditions on texts, integers and files. The expression is
read by recursive descent: `-o` binds loosest, then `-a`, then `!`; a primary is a bracketed
expression, a unary operator and its operand (`-z`, `-n`, `-e`, `-f`, `-d`, …), an operand, a
binary operator and an operand (`=`, `!=`, `<`, `>`, `-eq`, `-ne`, `-lt`, `-le`, `-gt`, `-ge`),
or a single operand, true when it is not empty.

A word that looks like an operator is read as an operand where the grammar cannot use it as
one: a unary operator followed by a binary operator and one more word, or a lone `(` at the
end. With three words whose middle one is a binary operator the comparison is made at once;
with three or four words, a `(` … `)` around the rest or a leading `!` is taken off first.

Failures carry the message and give status 2: `missing ]`, `argument expected`,
`closing paren expected`, `X: unexpected operator`, `Illegal number: X`. A missing
expression, at the end of the words or between `(` and `)`, is false.

Files are those the script wrote, each a regular file, and the host's tree of directories,
devices, links and programs.
-/

namespace Chatbot.Shell

/-- The kind of an operator word. -/
inductive TestOp where
  /-- A unary operator such as `-z`. -/
  | unary (s : String)
  /-- A binary operator such as `=`. -/
  | binary (s : String)
  /-- `!`. -/
  | bang
  /-- `-a`. -/
  | both
  /-- `-o`. -/
  | either
  /-- `(`. -/
  | lparen
  /-- `)`. -/
  | rparen
  deriving DecidableEq, Repr

/-- The operator a word is, if any. -/
def testOp? (w : Bytes) : Option TestOp :=
  let s := textOf w
  if ["-r", "-w", "-x", "-e", "-f", "-d", "-c", "-b", "-p", "-u", "-g", "-k", "-s", "-t", "-z",
      "-n", "-h", "-O", "-G", "-L", "-S"].contains s then some (.unary s)
  else if ["=", "!=", "<", ">", "-eq", "-ne", "-ge", "-gt", "-le", "-lt", "-nt", "-ot",
      "-ef"].contains s then some (.binary s)
  else if s = "!" then some .bang
  else if s = "-a" then some .both
  else if s = "-o" then some .either
  else if s = "(" then some .lparen
  else if s = ")" then some .rparen
  else none

/-- Whether an operator is binary. -/
def TestOp.isBinary : TestOp → Bool
  | .binary _ => true
  | _ => false

/-- A token as the reader sees it at a place: `none` past the end, `some none` for an operand,
`some (some op)` for an operator. -/
def testLex (args : Array Bytes) (i : Nat) : Option (Option TestOp) :=
  match args[i]? with
  | none => none
  | some w =>
    match testOp? w with
    | none => some none
    | some op =>
      let operandAfterUnary : Bool :=
        match op with
        | .unary _ =>
          match args[i + 1]? with
          | none => true
          | some next =>
            if args[i + 2]?.isNone then false
            else ((testOp? next).map TestOp.isBinary).getD false
        | _ => false
      let loneParen := op = .lparen && args[i + 1]?.isNone
      if operandAfterUnary || loneParen then some none else some (some op)

/-- A failure of `test`, with its message. -/
abbrev TestM := StateT Nat (Except String)

/-- What `test` knows of files: the names of regular files with their sizes. -/
structure FileView where
  /-- Regular files and their sizes. -/
  files : List (String × Nat)

/-- The result of a unary file operator on a name: a file the script wrote is a regular
file; an absolute path is looked up in the host's tree. -/
def fileTest (fv : FileView) (op : String) (name : String) : Bool :=
  let own := fv.files.find? fun f => f.1 = name
  let node : Option HostNode :=
    if name.startsWith "/" then HostNode.lookup name
    else if name = "." || name = ".." then some .dir else none
  let isLink := name.startsWith "/" && match HostNode.lookupLink name with
    | some (.link _) => true
    | _ => false
  let isFile := own.isSome || match node with
    | some (.file _) => true
    | _ => false
  let exists_ := own.isSome || node.isSome
  match op with
  | "-e" | "-r" | "-w" => exists_
  | "-f" => isFile
  | "-d" => node = some .dir
  | "-c" => node = some .device
  | "-L" | "-h" => isLink
  | "-s" =>
    match own with
    | some f => decide (f.2 > 0)
    | none => node = some .dir || isFile
  | "-x" => node = some .dir || node = some (.file true)
  | _ => false

/-- The integer a word holds, as `test` reads it: blanks, a sign and decimal digits, then
only blanks, within 64 bits. -/
def testNumber (w : Bytes) : Except String Int :=
  let isBlank (b : UInt8) : Bool := b = 0x20 || (0x09 ≤ b && b ≤ 0x0D)
  let body := w.dropWhile isBlank
  let (neg, digits) := match body with
    | 0x2D :: r => (true, r)
    | 0x2B :: r => (false, r)
    | r => (false, r)
  let ds := digits.takeWhile fun b => 0x30 ≤ b && b ≤ 0x39
  let rest := digits.drop ds.length
  let v : Nat := ds.foldl (fun v b => 10 * v + (b - 0x30).toNat) 0
  let x : Int := if neg then -(v : Int) else v
  if ds.isEmpty || !rest.all isBlank || x ≥ Nat.pow 2 63 || x < -(Nat.pow 2 63 : Int) then
    .error s!"Illegal number: {textOf w}"
  else .ok x

/-- Compare texts byte by byte. -/
def bytesLT : Bytes → Bytes → Bool
  | [], _ :: _ => true
  | _, [] => false
  | a :: as, b :: bs => a < b || (a = b && bytesLT as bs)

/-- The result of a binary operator. -/
def binaryTest (op : String) (a b : Bytes) : Except String Bool := do
  match op with
  | "=" => return a == b
  | "!=" => return a != b
  | "<" => return bytesLT a b
  | ">" => return bytesLT b a
  | "-eq" | "-ne" | "-lt" | "-le" | "-gt" | "-ge" =>
    let x ← testNumber a
    let y ← testNumber b
    return match op with
      | "-eq" => x == y
      | "-ne" => x != y
      | "-lt" => x < y
      | "-le" => x ≤ y
      | "-gt" => x > y
      | _ => x ≥ y
  | _ => return false

section Reader

variable (fv : FileView) (args : Array Bytes)

/-- Fail with a message naming a word, or with the message alone. -/
def testFail {α : Type} (word : Option Bytes) (msg : String) : TestM α :=
  match word with
  | some w => throw s!"{textOf w}: {msg}"
  | none => throw msg

/-- The word at a place. -/
def wordAt (i : Nat) : Bytes := args[i]?.getD []

mutual

/-- Read `a -o b -o …` starting with the token `n` at the current place. -/
def testOr : Nat → Option (Option TestOp) → TestM Bool
  | 0, _ => pure false
  | fuel + 1, n => do
    let a ← testAnd fuel n
    let i ← get
    if testLex args (i + 1) = some (some .either) then
      set (i + 2)
      let b ← testOr fuel (testLex args (i + 2))
      return a || b
    return a

/-- Read `a -a b -a …`. -/
def testAnd : Nat → Option (Option TestOp) → TestM Bool
  | 0, _ => pure false
  | fuel + 1, n => do
    let a ← testNot fuel n
    let i ← get
    if testLex args (i + 1) = some (some .both) then
      set (i + 2)
      let b ← testAnd fuel (testLex args (i + 2))
      return a && b
    return a

/-- Read `! a` or a primary. -/
def testNot : Nat → Option (Option TestOp) → TestM Bool
  | 0, _ => pure false
  | fuel + 1, n => do
    if n = some (some .bang) then
      let i ← get
      set (i + 1)
      return !(← testNot fuel (testLex args (i + 1)))
    testPrimary fuel n

/-- Read a primary. -/
def testPrimary : Nat → Option (Option TestOp) → TestM Bool
  | 0, _ => pure false
  | fuel + 1, n => do
    let i ← get
    match n with
    | none => return false
    | some (some .lparen) =>
      set (i + 1)
      if testLex args (i + 1) = some (some .rparen) then return false
      let r ← testOr fuel (testLex args (i + 1))
      let j ← get
      set (j + 1)
      if testLex args (j + 1) != some (some .rparen) then testFail none "closing paren expected"
      return r
    | some (some (.unary op)) =>
      set (i + 1)
      match args[i + 1]? with
      | none => testFail (some (wordAt args i)) "argument expected"
      | some w =>
        if op = "-z" then return w.isEmpty
        else if op = "-n" then return !w.isEmpty
        else if op = "-t" then return false
        else return fileTest fv op (textOf w)
    | _ =>
      match testLex args (i + 1) with
      | some (some (.binary op)) =>
        set (i + 2)
        match args[i + 2]? with
        | none => testFail (some (wordAt args (i + 1))) "argument expected"
        | some b =>
          match binaryTest op (wordAt args i) b with
          | .ok r => return r
          | .error e => throw e
      | _ => return !(wordAt args i).isEmpty

end

end Reader

/-- Evaluate the words of a `test` (without a closing `]`): the exit status, or the error
message. -/
def decideTest (fv : FileView) (words : List Bytes) : Except String Nat :=
  let rec go : Nat → Nat → List Bytes → Except String Nat
    | 0, res, _ => .ok res
    | fuel + 1, res, ws =>
      if ws.isEmpty then .ok res
      else
        let direct : Option (List Bytes) :=
          if ws.length = 3 && ((testOp? (ws.getD 1 [])).map TestOp.isBinary).getD false then some ws
          else none
        match direct with
        | some ws =>
          let args := ws.toArray
          match (testPrimary fv args 8 (some none)).run 0 with
          | .ok (r, _) => .ok (if r then 1 - res else res)
          | .error e => .error e
        | none =>
          if (ws.length = 3 || ws.length = 4) && ws.head? = some (bytesOf "(")
              && ws.getLast? = some (bytesOf ")") then
            finish res (ws.drop 1).dropLast
          else if (ws.length = 3 || ws.length = 4) && ws.head? = some (bytesOf "!") then
            go fuel 0 ws.tail
          else finish res ws
  go (words.length + 1) 1 words
where
  /-- Read the whole expression; a word left over is an error. -/
  finish (res : Nat) (ws : List Bytes) : Except String Nat :=
    let args := ws.toArray
    match (testOr fv args (4 * ws.length + 8) (testLex args 0)).run 0 with
    | .ok (r, i) =>
      if i + 1 < args.size then .error s!"{textOf (wordAt args i)}: unexpected operator"
      else .ok (if r then 1 - res else res)
    | .error e => .error e

/-- A message of the shell's `test` as the `test` program words it. -/
def testProgramMessage (message : String) : String :=
  let quoted (w : String) : String := localeQuote w
  if message.startsWith "Illegal number: " then
    "invalid integer " ++ quoted (message.drop 16).toString
  else if message.endsWith ": unexpected operator" then
    "extra argument " ++ quoted (message.dropEnd 21).toString
  else if message.endsWith ": argument expected" then
    "missing argument after " ++ quoted (message.dropEnd 19).toString
  else if message = "closing paren expected" then quoted ")" ++ " expected"
  else message

/-- The `test` program (`bracket`: the `[` program, whose last argument must be `]`). -/
def testProgram (bracket : Bool) (files : List (String × Bytes)) (args : List Bytes) : ToolRun :=
  let name := if bracket then "[" else "test"
  let fv : FileView := ⟨files.map fun f => (f.1, f.2.length)⟩
  let words : Option (List Bytes) :=
    if !bracket then some args
    else if args.getLast? = some (bytesOf "]") then some args.dropLast else none
  match words with
  | none => ToolRun.failureWith ("[: missing " ++ localeQuote "]") 2
  | some ws =>
    match decideTest fv ws with
    | .ok n => { status := n }
    | .error e => ToolRun.failureWith s!"{name}: {testProgramMessage e}" 2

end Chatbot.Shell
