import Chatbot.Awk.Syntax
import Chatbot.Shell.Posix

/-!
# Running awk programs

A run keeps the variables, the arrays, the record and its fields, the input not yet read, and
what was written: the output, the error stream, and the files.

The record is split into fields by `FS`: a single space splits at runs of blanks and line
feeds, ignoring those at the ends; another single byte splits at that byte; a longer text is a
regular expression. Assigning a field joins the fields again with `OFS`; assigning `NF` cuts
or pads them. Records are split from the input by `RS`: one byte, or an empty `RS` for
paragraphs separated by blank lines (where a line feed also separates fields), or a regular
expression.

The input is the files named in `ARGV` after the program, read in turn; an argument
`name=value` assigns a variable when it is reached, and with no file the standard input is
read.

A function's parameters are its local variables. An array passed to a function is the
caller's array; a scalar is a copy. A parameter the function uses as an array, passed a
variable never assigned, makes that variable an array.

`for (k in a)` visits the subscripts in byte order. Division by zero gives an infinity, as on
the machine.

A run that takes too many steps never ends.
-/

namespace Chatbot.Awk

open Chatbot.Shell

/-- How a local variable of a function holds its value. -/
inductive Slot where
  /-- A scalar. -/
  | scalar (v : Value)
  /-- An array, by its key in the table of arrays. -/
  | array (key : String)
  deriving Repr

/-- How a run leaves the statements it was running. -/
inductive Flow where
  /-- `next`. -/
  | next
  /-- `nextfile`. -/
  | nextFile
  /-- `exit`. -/
  | exit
  /-- `return`, with a value. -/
  | ret (v : Value)
  /-- `break`. -/
  | brk
  /-- `continue`. -/
  | cont
  /-- An error: its message, and whether it is a run-time error (named as one, with the
  place in the input). -/
  | fail (message : String) (runtime : Bool)
  /-- The program never ends. -/
  | endless
  deriving Repr

/-- The state of a run. -/
structure Machine where
  /-- The functions of the program. -/
  functions : List Function
  /-- The global scalars. -/
  globals : List (String × Value)
  /-- The arrays, each with its elements in the order they were made. -/
  arrays : List (String × List (Bytes × Value))
  /-- The local variables of the functions running, innermost first. -/
  frames : List (List (String × Slot)) := []
  /-- The record. -/
  record : Bytes := []
  /-- Its fields, `$1` to `$NF`. -/
  fields : List Bytes := []
  /-- The output. -/
  out : Bytes := []
  /-- The error stream. -/
  err : Bytes := []
  /-- The files there are to read. -/
  files : List (String × Bytes)
  /-- The files written, each with its whole contents. -/
  written : List (String × Bytes) := []
  /-- The files opened for writing in this run. -/
  opened : List String := []
  /-- What is left of the files `getline` reads. -/
  readers : List (String × Bytes) := []
  /-- The place in `ARGV` of the next argument of the input. -/
  argIndex : Nat := 1
  /-- What is left of the file of the input being read. -/
  current : Option Bytes := none
  /-- Whether a file of the input was named. -/
  sawFile : Bool := false
  /-- The standard input. -/
  stdin : Bytes
  /-- Whether the standard input was read. -/
  tookStdin : Bool := false
  /-- How many local arrays were made. -/
  fresh : Nat := 0
  /-- Steps left before the run counts as never ending. -/
  steps : Nat
  /-- The status `exit` gave. -/
  exitStatus : Nat := 0
  /-- Which range patterns are inside their range, by rule. -/
  ranges : List Bool := []
  /-- The state of `rand`. -/
  randState : Nat := 1
  /-- The seed of `srand`. -/
  seed : Nat := 0

/-- Running a program. -/
abbrev Run := ExceptT Flow (StateM Machine)

/-- Fail with a run-time error. -/
def runtimeError {α : Type} (msg : String) : Run α := throw (.fail msg true)

/-- Take one step of the budget. -/
def tick : Run Unit := do
  let m ← get
  if m.steps = 0 then throw .endless
  set { m with steps := m.steps - 1 }

/-- A truth value as a number. -/
def boolValue (b : Bool) : Value := .num (if b then ofNat 1 else zero)

/-- The value of a global variable. -/
def globalValue (m : Machine) (name : String) : Value := (m.globals.lookup name).getD .uninit

/-- Set a global variable, keeping its place. -/
def setGlobal (name : String) (v : Value) : Run Unit :=
  modify fun m =>
    if m.globals.any (·.1 == name) then
      { m with globals := m.globals.map fun e => if e.1 = name then (name, v) else e }
    else { m with globals := m.globals ++ [(name, v)] }

/-- `CONVFMT`, the format of numbers made text. -/
def convFormat : Run Bytes := do
  return (globalValue (← get) "CONVFMT").toText (bytesOf "%.6g")

/-- `OFMT`, the format of numbers printed. -/
def outFormat : Run Bytes := do
  return (globalValue (← get) "OFMT").toText (bytesOf "%.6g")

/-- The text of a value. -/
def textOfValue (v : Value) : Run Bytes := do
  return v.toText (← convFormat)

/-- The text of a global variable. -/
def globalText (name : String) : Run Bytes := do
  textOfValue (globalValue (← get) name)

/-! ## Regular expressions -/

/-- Compile a regular expression of awk: extended, without the operators beyond POSIX. -/
def compileRegex (pattern : Bytes) : Run Rx :=
  match parseRxWith false false pattern true false with
  | .ok rx => pure rx
  | .error e => runtimeError s!"regular expression compile failed ({e})\n{textOf pattern}"

/-- The first match of a pattern in a text at or after a place: where it starts and ends. -/
def searchText (rx : Rx) (text : Bytes) (from_ : Nat) : Option (Nat × Nat) :=
  (rx.search text.toArray false from_).map fun m => (m.start, m.stop)

/-- Whether a pattern matches somewhere in a text. -/
def matchText (pattern text : Bytes) : Run Bool := do
  let rx ← compileRegex pattern
  return (searchText rx text 0).isSome

/-! ## Fields and records -/

/-- How a text is split into fields. -/
inductive Splitter where
  /-- At runs of blanks and line feeds, those at the ends ignored. -/
  | blanks
  /-- At one byte. -/
  | byte (b : UInt8)
  /-- Into single bytes. -/
  | each
  /-- At the matches of a regular expression. -/
  | pattern (p : Bytes)
  deriving DecidableEq, Repr

/-- How a field separator splits. -/
def splitterOf (fs : Bytes) : Splitter :=
  match fs with
  | [0x20] => .blanks
  | [] => .each
  | [b] => .byte b
  | _ => .pattern fs

/-- Whether a byte is a blank that separates fields by default. -/
def isFieldBlank (b : UInt8) : Bool := b = 0x20 || b = 0x09 || b = 0x0A

/-- The pieces of a text between the matches of a pattern. Empty matches separate nothing. -/
def splitAtMatches (rx : Rx) (text : Bytes) : Nat → Nat → List Bytes → List Bytes
  | 0, _, acc => acc
  | fuel + 1, pos, acc =>
    match searchNonEmpty rx text pos (text.length + 1) with
    | some (s, e) => splitAtMatches rx text fuel e (acc ++ [(text.drop pos).take (s - pos)])
    | none => acc ++ [text.drop pos]
where
  /-- The first match that is not empty, at or after a place. -/
  searchNonEmpty (rx : Rx) (text : Bytes) : Nat → Nat → Option (Nat × Nat)
    | _, 0 => none
    | pos, fuel + 1 =>
      match searchText rx text pos with
      | some (s, e) => if e > s then some (s, e) else searchNonEmpty rx text (s + 1) fuel
      | none => none

/-- Split a text into fields. -/
def splitText (sp : Splitter) (text : Bytes) : Run (List Bytes) := do
  if text.isEmpty then return []
  match sp with
  | .blanks => return (text.splitOn 0x20 |>.flatMap (·.splitOn 0x09) |>.flatMap (·.splitOn 0x0A)).filter (!·.isEmpty)
  | .byte b => return text.splitOn b
  | .each => return text.map fun b => [b]
  | .pattern p =>
    let rx ← compileRegex p
    return splitAtMatches rx text (text.length + 1) 0 []

/-- Split the record into fields by `FS`; in paragraph mode a line feed separates fields too. -/
def splitRecord (rec : Bytes) : Run (List Bytes) := do
  let sp := splitterOf (← globalText "FS")
  let rs ← globalText "RS"
  if rs.isEmpty && sp != .blanks then
    let lines := rec.splitOn 0x0A
    let parts ← lines.mapM (splitText sp)
    return parts.flatten
  splitText sp rec

/-- Set the record, and its fields and `NF`. -/
def setRecord (rec : Bytes) : Run Unit := do
  let fs ← splitRecord rec
  modify fun m => { m with record := rec, fields := fs }
  setGlobal "NF" (.num (ofNat fs.length))

/-- Join the fields with `OFS` into the record. -/
def rebuildRecord : Run Unit := do
  let ofs ← globalText "OFS"
  modify fun m => { m with record := (m.fields.intersperse ofs).flatten }

/-- Set the number of fields: the fields cut or padded with empty ones, and the record
joined again. -/
def setFieldCount (n : Nat) : Run Unit := do
  modify fun m => { m with fields := m.fields.take n ++ List.replicate (n - m.fields.length) [] }
  setGlobal "NF" (.num (ofNat n))
  rebuildRecord

/-- The value of field `i`. -/
def getField (i : Nat) : Run Value := do
  let m ← get
  if i = 0 then return Value.ofInput m.record
  match m.fields[i - 1]? with
  | some f => return Value.ofInput f
  | none => return .uninit

/-- Set field `i` to a text. -/
def setField (i : Nat) (t : Bytes) : Run Unit := do
  if i = 0 then setRecord t
  else
    let m ← get
    let fs := m.fields ++ List.replicate (i - m.fields.length) []
    let fs := fs.set (i - 1) t
    set { m with fields := fs }
    setGlobal "NF" (.num (ofNat fs.length))
    rebuildRecord

/-- The place of a field a value names. -/
def fieldIndex (v : Value) : Run Nat := do
  let i := truncate v.toNumber
  if i < 0 then runtimeError s!"negative field index ${i}"
  return i.toNat

/-- Take one record from the front of some input, split by `RS`: the record and the rest. -/
def takeRecord (rs : Bytes) (data : Bytes) : Run (Option (Bytes × Bytes)) := do
  if data.isEmpty then return none
  match rs with
  | [] =>
    let d := data.dropWhile (· = 0x0A)
    if d.isEmpty then return none
    match findBlankLine d 0 (d.length + 1) with
    | some i => return some (d.take i, (d.drop i).dropWhile (· = 0x0A))
    | none => return some ((d.reverse.dropWhile (· = 0x0A)).reverse, [])
  | [b] =>
    match data.idxOf? b with
    | some i => return some (data.take i, data.drop (i + 1))
    | none => return some (data, [])
  | _ =>
    let rx ← compileRegex rs
    match splitAtMatches.searchNonEmpty rx data 0 (data.length + 1) with
    | some (s, e) => return some (data.take s, data.drop e)
    | none => return some (data, [])
where
  /-- The first place of two line feeds in a row. -/
  findBlankLine (d : Bytes) : Nat → Nat → Option Nat
    | _, 0 => none
    | i, fuel + 1 =>
      match d[i]?, d[i + 1]? with
      | some 0x0A, some 0x0A => some i
      | some _, _ => findBlankLine d (i + 1) fuel
      | none, _ => none

/-! ## Variables and arrays -/

/-- The slot of a local variable of the function running, if it is one. -/
def localSlot (name : String) : Run (Option Slot) := do
  match (← get).frames with
  | frame :: _ => return frame.lookup name
  | [] => return none

/-- Set the slot of a local variable of the function running. -/
def setLocalSlot (name : String) (s : Slot) : Run Unit :=
  modify fun m =>
    match m.frames with
    | frame :: rest => { m with frames := (frame.map fun e => if e.1 = name then (name, s) else e) :: rest }
    | [] => m

/-- The value of a variable. -/
def lookupVar (name : String) : Run Value := do
  match ← localSlot name with
  | some (.scalar v) => return v
  | some (.array _) => runtimeError s!"can't use array {name} in scalar context"
  | none => return globalValue (← get) name

/-- Assign a variable; assigning `NF` cuts or pads the fields. -/
def assignVar (name : String) (v : Value) : Run Unit := do
  match ← localSlot name with
  | some (.scalar _) => setLocalSlot name (.scalar v)
  | some (.array _) => runtimeError s!"can't assign to {name}; it's an array name."
  | none =>
    if name = "NF" then
      let n := truncate v.toNumber
      if n < 0 then runtimeError s!"NF set to negative value"
      setFieldCount n.toNat
      setGlobal "NF" v
    else setGlobal name v

/-- The key of the array a name stands for; a local never assigned becomes a new array. -/
def arrayOf (name : String) : Run String := do
  match ← localSlot name with
  | some (.array k) => return k
  | some (.scalar .uninit) =>
    let m ← get
    let k := s!"\x00{m.fresh}"
    set { m with fresh := m.fresh + 1 }
    setLocalSlot name (.array k)
    return k
  | some (.scalar _) => runtimeError s!"can't use scalar {name} as array"
  | none => return name

/-- Whether a name stands for an array where it is used. -/
def isArrayName (name : String) : Run Bool := do
  match ← localSlot name with
  | some (.array _) => return true
  | some (.scalar _) => return false
  | none => return (← get).arrays.any (·.1 == name)

/-- The elements of an array. -/
def elementsOf (key : String) : Run (List (Bytes × Value)) := do
  return ((← get).arrays.lookup key).getD []

/-- Set the elements of an array. -/
def setElements (key : String) (es : List (Bytes × Value)) : Run Unit :=
  modify fun m =>
    if m.arrays.any (·.1 == key) then
      { m with arrays := m.arrays.map fun a => if a.1 = key then (key, es) else a }
    else { m with arrays := m.arrays ++ [(key, es)] }

/-- The value of an element, made (never assigned) when it is not there. -/
def getElement (key : String) (sub : Bytes) : Run Value := do
  let es ← elementsOf key
  match es.lookup sub with
  | some v => return v
  | none =>
    setElements key (es ++ [(sub, .uninit)])
    return .uninit

/-- Set an element. -/
def setElement (key : String) (sub : Bytes) (v : Value) : Run Unit := do
  let es ← elementsOf key
  if es.any (·.1 == sub) then setElements key (es.map fun e => if e.1 = sub then (sub, v) else e)
  else setElements key (es ++ [(sub, v)])

/-- Insert a text into a list kept in byte order. -/
def insertSorted (k : Bytes) : List Bytes → List Bytes
  | [] => [k]
  | x :: xs => if compareBytes k x == .gt then x :: insertSorted k xs else k :: x :: xs

/-! ## Output -/

/-- Write bytes where a statement sends them: the output, the error stream, or a file. -/
def writeTo (dest : Option (Redirect × Bytes)) (bs : Bytes) : Run Unit := do
  match dest with
  | none => modify fun m => { m with out := m.out ++ bs }
  | some (.pipe, _) => pure ()
  | some (kind, name) =>
    let n := textOf name
    if n = "/dev/stdout" || n = "-" then modify fun m => { m with out := m.out ++ bs }
    else if n = "/dev/stderr" then modify fun m => { m with err := m.err ++ bs }
    else
      modify fun m =>
        let before : Bytes :=
          if m.opened.contains n then (m.written.lookup n).getD []
          else if kind = .append then
            match m.written.lookup n with
            | some d => d
            | none => (m.files.lookup n).getD []
          else []
        let written := if m.written.any (·.1 == n) then
            m.written.map fun f => if f.1 = n then (n, before ++ bs) else f
          else m.written ++ [(n, before ++ bs)]
        { m with written, opened := if m.opened.contains n then m.opened else m.opened ++ [n] }

/-! ## Input -/

/-- Whether an argument assigns a variable: a name, `=`, and its value. -/
def argAssignment (arg : Bytes) : Option (String × Bytes) :=
  match arg.idxOf? 0x3D with
  | some i =>
    let name := arg.take i
    match name with
    | c :: rest =>
      if (c = 0x5F || (0x41 ≤ c && c ≤ 0x5A) || (0x61 ≤ c && c ≤ 0x7A)) &&
          rest.all (fun d => d = 0x5F || (0x41 ≤ d && d ≤ 0x5A) || (0x61 ≤ d && d ≤ 0x7A) || (0x30 ≤ d && d ≤ 0x39))
      then some (textOf name, arg.drop (i + 1)) else none
    | [] => none
  | none => none

/-- Read escapes in the value of an assignment from the command line. -/
def commandLineValue (unescapeText : Bytes → Bytes) (v : Bytes) : Value := Value.ofInput (unescapeText v)

/-- The next record of the input, from the files named in `ARGV` in turn, or the standard
input when none is named. -/
def nextRecord (unescapeText : Bytes → Bytes) : Nat → Run (Option Bytes)
  | 0 => pure none
  | fuel + 1 => do
    let m ← get
    match m.current with
    | some data =>
      match ← takeRecord (← globalText "RS") data with
      | some (rec, rest) =>
        modify fun m => { m with current := some rest }
        return some rec
      | none =>
        modify fun m => { m with current := none }
        nextRecord unescapeText fuel
    | none =>
      let argc := truncate (globalValue m "ARGC").toNumber
      if (m.argIndex : Int) < argc then
        let arg ← textOfValue (((m.arrays.lookup "ARGV").getD []).lookup (bytesOf (toString m.argIndex)) |>.getD .uninit)
        modify fun m => { m with argIndex := m.argIndex + 1 }
        match argAssignment arg with
        | some (name, v) =>
          assignVar name (commandLineValue unescapeText v)
          nextRecord unescapeText fuel
        | none =>
          if arg.isEmpty then nextRecord unescapeText fuel
          else
            setGlobal "FILENAME" (.str arg)
            setGlobal "FNR" (.num zero)
            modify fun m => { m with sawFile := true }
            if arg = bytesOf "-" || arg = bytesOf "/dev/stdin" then
              modify fun m => { m with current := some m.stdin, tookStdin := true }
              nextRecord unescapeText fuel
            else
              match m.files.lookup (textOf arg) with
              | some d =>
                modify fun m => { m with current := some d }
                nextRecord unescapeText fuel
              | none => throw (.fail s!"cannot open {textOf arg} (No such file or directory)" false)
      else if m.sawFile then return none
      else
        modify fun m => { m with sawFile := true, current := some m.stdin, tookStdin := true }
        nextRecord unescapeText fuel

/-- Count a record read from the input in `NR` and `FNR`. -/
def countRecord : Run Unit := do
  let m ← get
  setGlobal "NR" (.num (add (globalValue m "NR").toNumber (ofNat 1)))
  setGlobal "FNR" (.num (add (globalValue m "FNR").toNumber (ofNat 1)))

/-! ## Functions of awk on text -/

/-- Whole number nearest to a number, halves rounded up. -/
def roundHalfUp (d : Double) : Int :=
  match ratioOf d with
  | some (p, q) => (2 * p + q) / (2 * (q : Int))
  | none => truncate d

/-- `substr(s, m, n)`: the bytes of `s` from place `m` (counted from 1), `n` of them or all the
rest; the places are rounded, and only those inside `s` count. -/
def substrOf (s : Bytes) (m : Double) (n : Option Double) : Bytes :=
  let start := roundHalfUp m
  let stop : Int := match n with
    | some n =>
      match n with
      | .nan _ => start
      | .inf true => start
      | .inf false => s.length + 1
      | _ => start + roundHalfUp n
    | none => s.length + 1
  let start := max start 1
  let stop := min stop (s.length + 1)
  if stop ≤ start then [] else (s.drop (start - 1).toNat).take (stop - start).toNat

/-- `index(s, t)`: the place of the first `t` in `s`, counted from 1, or 0. -/
def indexOf (s t : Bytes) : Nat :=
  if t.isEmpty then 0
  else ((List.range s.length).find? fun i => t.isPrefixOf (s.drop i)).map (· + 1) |>.getD 0

/-- The replacement of `sub` and `gsub` for a match: `&` is the match, `\&` a `&` and `\\` a
backslash. -/
def expandReplacement (repl matched : Bytes) : Bytes :=
  go (repl.length + 1) repl
where
  /-- Expand from a place. -/
  go : Nat → Bytes → Bytes
    | 0, _ => []
    | _, [] => []
    | fuel + 1, 0x5C :: 0x26 :: rest => 0x26 :: go fuel rest
    | fuel + 1, 0x5C :: 0x5C :: rest => 0x5C :: go fuel rest
    | fuel + 1, 0x26 :: rest => matched ++ go fuel rest
    | fuel + 1, b :: rest => b :: go fuel rest

/-- Replace the first match of a pattern (every one when `global`) in a text: the text and
how many were replaced. An empty match right after a match is not replaced. -/
def substitute (rx : Rx) (text repl : Bytes) (global : Bool) : Bytes × Nat :=
  go (text.length + 2) 0 [] 0 none
where
  /-- Go on from place `i`, where the last match ended at `lastEnd`. -/
  go : Nat → Nat → Bytes → Nat → Option Nat → Bytes × Nat
    | 0, i, acc, n, _ => (acc ++ text.drop i, n)
    | fuel + 1, i, acc, n, lastEnd =>
      if i > text.length then (acc, n)
      else
        match searchText rx text i with
        | none => (acc ++ text.drop i, n)
        | some (s, e) =>
          if s = e && lastEnd = some s then
            go fuel (s + 1) (acc ++ (text.drop i).take (s + 1 - i)) n lastEnd
          else
            let acc := acc ++ (text.drop i).take (s - i) ++ expandReplacement repl ((text.drop s).take (e - s))
            if !global then (acc ++ text.drop e, n + 1)
            else if s = e then go fuel (s + 1) (acc ++ (text.drop s).take 1) (n + 1) (some e)
            else go fuel e acc (n + 1) (some e)

/-- Lower-case ASCII letters. -/
def lowerAscii (bs : Bytes) : Bytes := bs.map fun b => if 0x41 ≤ b && b ≤ 0x5A then b + 32 else b

/-- Upper-case ASCII letters. -/
def upperAscii (bs : Bytes) : Bytes := bs.map fun b => if 0x61 ≤ b && b ≤ 0x7A then b - 32 else b

/-- The result of an arithmetic operator. -/
def arithmetic (op : ArithOp) (x y : Double) : Double :=
  match op with
  | .add => add x y
  | .sub => sub x y
  | .mul => mul x y
  | .div => div x y
  | .mod => fmod x y
  | .pow => power x y

/-- Whether an ordering satisfies a comparison. -/
def CompareOp.holds (op : CompareOp) (o : Ordering) : Bool :=
  match op with
  | .lt => o == .lt
  | .le => o != .gt
  | .ne => o != .eq
  | .eq => o == .eq
  | .gt => o == .gt
  | .ge => o != .lt

/-! ## Names used as arrays -/

mutual

/-- The names an expression uses as arrays. -/
def exprArrayNames : Nat → Expr → List String
  | 0, _ => []
  | fuel + 1, e =>
    match e with
    | .elem n subs => n :: subs.flatMap (exprArrayNames fuel)
    | .member subs n => n :: subs.flatMap (exprArrayNames fuel)
    | .builtin "split" args =>
      (match args with
        | _ :: .var n :: _ => [n]
        | _ => []) ++ args.flatMap (exprArrayNames fuel)
    | .builtin _ args | .call _ args => args.flatMap (exprArrayNames fuel)
    | .field a | .not a | .neg a | .pos a | .group a | .step _ _ a => exprArrayNames fuel a
    | .assign _ a b | .and a b | .or a b | .arith _ a b | .compare _ a b | .concat a b
    | .matches _ a b => exprArrayNames fuel a ++ exprArrayNames fuel b
    | .cond a b c => exprArrayNames fuel a ++ exprArrayNames fuel b ++ exprArrayNames fuel c
    | .getline _ t f => (t.toList ++ f.toList).flatMap (exprArrayNames fuel)
    | _ => []

/-- The names a statement uses as arrays. -/
def stmtArrayNames : Nat → Stmt → List String
  | 0, _ => []
  | fuel + 1, s =>
    match s with
    | .expr e => exprArrayNames fuel e
    | .print args dest | .printf args dest =>
      args.flatMap (exprArrayNames fuel) ++ (dest.toList.flatMap fun d => exprArrayNames fuel d.2)
    | .ifElse c t e => exprArrayNames fuel c ++ stmtArrayNames fuel t ++ (e.toList.flatMap (stmtArrayNames fuel))
    | .whileLoop c b | .doLoop b c => exprArrayNames fuel c ++ stmtArrayNames fuel b
    | .forLoop i c st b =>
      (i.toList ++ c.toList ++ st.toList).flatMap (exprArrayNames fuel) ++ stmtArrayNames fuel b
    | .forIn _ a b => a :: stmtArrayNames fuel b
    | .block ss => ss.flatMap (stmtArrayNames fuel)
    | .exit e | .ret e => e.toList.flatMap (exprArrayNames fuel)
    | .delete n subs => n :: (subs.getD []).flatMap (exprArrayNames fuel)
    | _ => []

end

/-! ## Evaluation -/

/-- How a loop's body ended: normally or by `continue`, or by `break`. -/
inductive LoopEnd where
  /-- The loop goes on. -/
  | goOn
  /-- `break`. -/
  | broke

/-- Run a loop's body, catching `break` and `continue`. -/
def loopBody (body : Run Unit) : Run LoopEnd :=
  tryCatch (do body; pure .goOn) fun e =>
    match e with
    | .brk => pure .broke
    | .cont => pure .goOn
    | e => throw e

section Eval

variable (unescapeText : Bytes → Bytes)

mutual

/-- Evaluate an expression. -/
def eval : Nat → Expr → Run Value
  | 0, _ => throw .endless
  | fuel + 1, e =>
    match e with
    | .num d => pure (.num d)
    | .str s => pure (.str s)
    | .regex r => do return boolValue (← matchText r (← get).record)
    | .var n => lookupVar n
    | .field a => do getField (← fieldIndex (← eval fuel a))
    | .elem n subs => do
      let k ← arrayOf n
      getElement k (← subscript fuel subs)
    | .assign op target value => do
      let v ← eval fuel value
      let new ← match op with
        | none => pure v
        | some o => do
          let old ← eval fuel target
          pure (.num (arithmetic o old.toNumber v.toNumber))
      store fuel target new
      return new
    | .cond c a b => do
      if (← eval fuel c).truth then eval fuel a else eval fuel b
    | .and a b => do
      if (← eval fuel a).truth then return boolValue (← eval fuel b).truth
      return boolValue false
    | .or a b => do
      if (← eval fuel a).truth then return boolValue true
      return boolValue (← eval fuel b).truth
    | .not a => do return boolValue !(← eval fuel a).truth
    | .neg a => do return .num (negate (← eval fuel a).toNumber)
    | .pos a => do return .num (← eval fuel a).toNumber
    | .arith op a b => do
      let x ← eval fuel a
      let y ← eval fuel b
      return .num (arithmetic op x.toNumber y.toNumber)
    | .compare op a b => do
      let x ← eval fuel a
      let y ← eval fuel b
      return boolValue (op.holds (compareValues (← convFormat) x y))
    | .concat a b => do
      let x ← textOfValue (← eval fuel a)
      let y ← textOfValue (← eval fuel b)
      return .str (x ++ y)
    | .matches negated a re => do
      let t ← textOfValue (← eval fuel a)
      let p ← patternOf fuel re
      return boolValue ((← matchText p t) != negated)
    | .member subs n => do
      let k ← arrayOf n
      let sub ← subscript fuel subs
      return boolValue ((← elementsOf k).any (·.1 == sub))
    | .step pre up target => do
      let old := (← eval fuel target).toNumber
      let new := if up then add old (ofNat 1) else sub old (ofNat 1)
      store fuel target (.num new)
      return .num (if pre then new else old)
    | .call n args => callFunction fuel n args
    | .builtin n args => callBuiltin fuel n args
    | .getline src target from_ => getline fuel src target from_
    | .group a => eval fuel a

/-- The text of the subscripts of an element, joined by `SUBSEP`. -/
def subscript : Nat → List Expr → Run Bytes
  | 0, _ => throw .endless
  | fuel + 1, subs => do
    let sep ← globalText "SUBSEP"
    let texts ← subs.mapM fun s => do textOfValue (← eval fuel s)
    return (texts.intersperse sep).flatten

/-- The regular expression an operand stands for: a literal one, or the text of a value. -/
def patternOf : Nat → Expr → Run Bytes
  | 0, _ => throw .endless
  | fuel + 1, e =>
    match e with
    | .regex r => pure r
    | _ => do textOfValue (← eval fuel e)

/-- Assign a value to a variable, field or element. -/
def store : Nat → Expr → Value → Run Unit
  | 0, _, _ => throw .endless
  | fuel + 1, target, v =>
    match target with
    | .var n => assignVar n v
    | .field a => do
      let i ← fieldIndex (← eval fuel a)
      setField i (← textOfValue v)
    | .elem n subs => do
      let k ← arrayOf n
      setElement k (← subscript fuel subs) v
    | .group a => store fuel a v
    | _ => pure ()

/-- Call a function of the program: its parameters are bound to the arguments (an array by
reference), the others are local variables never assigned, and `return` gives its value. -/
def callFunction : Nat → String → List Expr → Run Value
  | 0, _, _ => throw .endless
  | fuel + 1, name, args => do
    match (← get).functions.find? (·.name == name) with
    | none => runtimeError s!"function {name} never defined"
    | some f =>
      let arrayParams := stmtArrayNames 10000 f.body
      let frame ← f.params.zipIdx.mapM fun (p, i) => do
        match args[i]? with
        | some (.var n) =>
          let byRef ← do
            if ← isArrayName n then pure true
            else if arrayParams.contains p then
              match ← localSlot n with
              | some (.scalar .uninit) => pure true
              | some _ => pure false
              | none => pure (globalValue (← get) n == .uninit)
            else pure false
          if byRef then return (p, Slot.array (← arrayOf n))
          return (p, Slot.scalar (← eval fuel (.var n)))
        | some a => return (p, Slot.scalar (← eval fuel a))
        | none => return (p, Slot.scalar .uninit)
      for a in args.drop f.params.length do
        let _ ← eval fuel a
      modify fun m => { m with frames := frame :: m.frames }
      let r ← tryCatch (do exec fuel f.body; pure Value.uninit) fun e =>
        match e with
        | .ret v => pure v
        | e => do
          modify fun m => { m with frames := m.frames.drop 1 }
          throw e
      modify fun m => { m with frames := m.frames.drop 1 }
      return r

/-- Call one of awk's functions. -/
def callBuiltin : Nat → String → List Expr → Run Value
  | 0, _, _ => throw .endless
  | fuel + 1, name, args => do
    let num (i : Nat) : Run Double := do
      match args[i]? with
      | some a => return (← eval fuel a).toNumber
      | none => return zero
    let text (i : Nat) : Run Bytes := do
      match args[i]? with
      | some a => textOfValue (← eval fuel a)
      | none => return []
    match name with
    | "length" =>
      match args with
      | [] => return .num (ofNat (← get).record.length)
      | (.var n) :: _ =>
        if ← isArrayName n then return .num (ofNat (← elementsOf (← arrayOf n)).length)
        return .num (ofNat (← text 0).length)
      | _ => return .num (ofNat (← text 0).length)
    | "substr" =>
      let s ← text 0
      let m ← num 1
      let n ← if args.length > 2 then pure (some (← num 2)) else pure none
      return .str (substrOf s m n)
    | "index" =>
      let s ← text 0
      let t ← text 1
      return .num (ofNat (indexOf s t))
    | "split" =>
      let s ← text 0
      match (args[1]? : Option Expr) with
      | some (.var n) =>
        let sp ← match (args[2]? : Option Expr) with
          | some (.regex r) => pure (Splitter.pattern r)
          | some a => pure (splitterOf (← textOfValue (← eval fuel a)))
          | none => pure (splitterOf (← globalText "FS"))
        let pieces ← splitText sp s
        let k ← arrayOf n
        setElements k (pieces.zipIdx.map fun (p, i) => (bytesOf (toString (i + 1)), Value.ofInput p))
        return .num (ofNat pieces.length)
      | _ => runtimeError "split: second argument is not an array"
    | "sub" | "gsub" =>
      let p ← match (args[0]? : Option Expr) with
        | some a => patternOf fuel a
        | none => pure []
      let repl ← text 1
      let target := args[2]?.getD (.field (.num zero))
      let t ← textOfValue (← eval fuel target)
      let rx ← compileRegex p
      let (result, n) := substitute rx t repl (name = "gsub")
      if n > 0 then store fuel target (.str result)
      return .num (ofNat n)
    | "match" =>
      let s ← text 0
      let p ← match (args[1]? : Option Expr) with
        | some a => patternOf fuel a
        | none => pure []
      let rx ← compileRegex p
      match searchText rx s 0 with
      | some (st, e) =>
        setGlobal "RSTART" (.num (ofNat (st + 1)))
        setGlobal "RLENGTH" (.num (ofNat (e - st)))
        return .num (ofNat (st + 1))
      | none =>
        setGlobal "RSTART" (.num zero)
        setGlobal "RLENGTH" (.num (ofInt (-1)))
        return .num zero
    | "sprintf" =>
      match args with
      | [] => return .str []
      | f :: rest =>
        let fmt ← textOfValue (← eval fuel f)
        let vs ← rest.mapM (eval fuel)
        let (out, short) := sprintf (← convFormat) fmt vs
        if short then runtimeError s!"not enough arguments passed to sprintf(\"{textOf fmt}\")"
        return .str out
    | "int" => return .num (truncateValue (← num 0))
    | "sqrt" => return .num (machine Float.sqrt (← num 0))
    | "exp" => return .num (machine Float.exp (← num 0))
    | "log" => return .num (machine Float.log (← num 0))
    | "sin" => return .num (machine Float.sin (← num 0))
    | "cos" => return .num (machine Float.cos (← num 0))
    | "atan2" =>
      let y ← num 0
      let x ← num 1
      return .num (ofFloat (Float.atan2 (toFloat y) (toFloat x)))
    | "rand" =>
      let m ← get
      let next := (m.randState * 1103515245 + 12345) % 2147483648
      set { m with randState := next }
      return .num (div (ofNat next) (ofNat 2147483648))
    | "srand" =>
      let given ← num 0
      let m ← get
      let seed := if args.isEmpty then m.seed + 1 else (truncate given).toNat
      set { m with seed, randState := seed }
      return .num (ofNat m.seed)
    | "tolower" => return .str (lowerAscii (← text 0))
    | "toupper" => return .str (upperAscii (← text 0))
    | "close" =>
      let n := textOf (← text 0)
      let m ← get
      let was := m.readers.any (·.1 == n) || m.opened.contains n
      set { m with readers := m.readers.filter (·.1 != n), opened := m.opened.filter (· != n) }
      return .num (if was then zero else ofInt (-1))
    | "system" =>
      let _ ← text 0
      return .num zero
    | _ =>
      for a in args do
        let _ ← eval fuel a
      return .num zero

/-- `getline`: read a record of the input, of a file, or of a command, into the record or a
variable: 1 when one was read, 0 at the end, -1 when there is nothing to read. -/
def getline : Nat → GetSource → Option Expr → Option Expr → Run Value
  | 0, _, _, _ => throw .endless
  | fuel + 1, src, target, from_ => do
    match src with
    | .main =>
      match ← nextRecord unescapeText 1000000 with
      | none => return .num zero
      | some rec =>
        countRecord
        match target with
        | none => setRecord rec
        | some t => store fuel t (Value.ofInput rec)
        return .num (ofNat 1)
    | .file =>
      let name ← match from_ with
        | some f => textOfValue (← eval fuel f)
        | none => pure []
      let n := textOf name
      let m ← get
      let data? : Option Bytes :=
        match m.readers.lookup n with
        | some d => some d
        | none =>
          if n = "-" || n = "/dev/stdin" then some m.stdin
          else m.files.lookup n
      match data? with
      | none => return .num (ofInt (-1))
      | some data =>
        if n = "-" || n = "/dev/stdin" then modify fun m => { m with tookStdin := true }
        match ← takeRecord (← globalText "RS") data with
        | none =>
          modify fun m => { m with readers := (m.readers.filter (·.1 != n)) ++ [(n, [])] }
          return .num zero
        | some (rec, rest) =>
          modify fun m => { m with readers := (m.readers.filter (·.1 != n)) ++ [(n, rest)] }
          match target with
          | none =>
            setRecord rec
            countRecord
          | some t => store fuel t (Value.ofInput rec)
          return .num (ofNat 1)
    | .command => return .num (ofInt (-1))

/-- Run a statement. -/
def exec : Nat → Stmt → Run Unit
  | 0, _ => throw .endless
  | fuel + 1, s => do
    tick
    match s with
    | .expr e => let _ ← eval fuel e
    | .print args dest =>
      let ofmt ← outFormat
      let line ← if args.isEmpty then pure (← get).record
        else do
          let texts ← args.mapM fun a => do return (← eval fuel a).toText ofmt
          pure ((texts.intersperse (← globalText "OFS")).flatten)
      let d ← destination fuel dest
      writeTo d (line ++ (← globalText "ORS"))
    | .printf args dest =>
      match args with
      | [] => runtimeError "printf: no format"
      | f :: rest =>
        let fmt ← textOfValue (← eval fuel f)
        let vs ← rest.mapM (eval fuel)
        let (out, short) := sprintf (← convFormat) fmt vs
        if short then runtimeError s!"not enough arguments passed to printf(\"{textOf fmt}\")"
        let d ← destination fuel dest
        writeTo d out
    | .ifElse c t e =>
      if (← eval fuel c).truth then exec fuel t
      else
        match e with
        | some e => exec fuel e
        | none => pure ()
    | .whileLoop c body => runWhile fuel c body
    | .doLoop body c =>
      match ← loopBody (exec fuel body) with
      | .broke => pure ()
      | .goOn => runWhile fuel c body
    | .forLoop init c step body =>
      match init with
      | some i => let _ ← eval fuel i
      | none => pure ()
      runFor fuel c step body
    | .forIn v a body =>
      let k ← arrayOf a
      let keys := ((← elementsOf k).map (·.1)).foldl (fun acc x => insertSorted x acc) []
      runForIn fuel v keys body
    | .block ss => execList fuel ss
    | .next => throw .next
    | .nextFile => throw .nextFile
    | .exit e =>
      match e with
      | some e =>
        let v ← eval fuel e
        modify fun m => { m with exitStatus := ((truncate v.toNumber) % 256).toNat }
      | none => pure ()
      throw .exit
    | .ret e =>
      let v ← match e with
        | some e => eval fuel e
        | none => pure .uninit
      throw (.ret v)
    | .brk => throw .brk
    | .cont => throw .cont
    | .delete n subs =>
      let k ← arrayOf n
      match subs with
      | some subs =>
        let sub ← subscript fuel subs
        setElements k ((← elementsOf k).filter (·.1 != sub))
      | none => setElements k []

/-- Where a statement writes: the name of the file or command, evaluated. -/
def destination : Nat → Option (Redirect × Expr) → Run (Option (Redirect × Bytes))
  | 0, _ => throw .endless
  | fuel + 1, dest =>
    match dest with
    | some (kind, e) => do return some (kind, ← textOfValue (← eval fuel e))
    | none => pure none

/-- Run statements in turn. -/
def execList : Nat → List Stmt → Run Unit
  | 0, _ => throw .endless
  | _, [] => pure ()
  | fuel + 1, s :: rest => do
    exec fuel s
    execList fuel rest

/-- Run a `while` loop. -/
def runWhile : Nat → Expr → Stmt → Run Unit
  | 0, _, _ => throw .endless
  | fuel + 1, c, body => do
    tick
    if !(← eval fuel c).truth then return
    match ← loopBody (exec fuel body) with
    | .broke => pure ()
    | .goOn => runWhile fuel c body

/-- Run a `for` loop after its start. -/
def runFor : Nat → Option Expr → Option Expr → Stmt → Run Unit
  | 0, _, _, _ => throw .endless
  | fuel + 1, c, step, body => do
    tick
    match c with
    | some c => if !(← eval fuel c).truth then return
    | none => pure ()
    match ← loopBody (exec fuel body) with
    | .broke => pure ()
    | .goOn =>
      match step with
      | some st => let _ ← eval fuel st
      | none => pure ()
      runFor fuel c step body

/-- Run a `for (v in a)` loop over the subscripts left. -/
def runForIn : Nat → String → List Bytes → Stmt → Run Unit
  | 0, _, _, _ => throw .endless
  | _, _, [], _ => pure ()
  | fuel + 1, v, k :: rest, body => do
    assignVar v (.str k)
    match ← loopBody (exec fuel body) with
    | .broke => pure ()
    | .goOn => runForIn fuel v rest body

end

end Eval

end Chatbot.Awk
