import Chatbot.Perl.Parser
import Chatbot.Perl.Strings

/-!
# The state of a perl run

Every variable lives in a cell of the heap: a scalar, an array, a hash, or a subroutine with
the variables it can see. An array holds the places of the scalar cells of its elements and a
hash the places of its values, so that a loop variable, `$_` in `map` and `grep`, and `@_` in a
call stand for the elements themselves: changing them changes the array.

Names find cells through scopes: the variables a block declared with `my`, innermost first,
then the package variables, which are made when first named. A scope also remembers what
`local` changed, to give it back when the block ends.

A run also keeps what was written to the output, the error stream and files, the input not
yet read, the last successful match (for `$1`, `$&`, …), the places where `m//g` stopped, and
the state of each `..` switch.

A run leaves the statements it runs by a loop control, a `return` with values, a death with
its message, an `exit` with a status, or because it takes too many steps.
-/

namespace Chatbot.Perl

open Chatbot.Shell Chatbot.Awk

/-- A container of the heap. -/
inductive Cell where
  /-- A scalar. -/
  | scalar (v : Scalar)
  /-- An array: the places of its elements' cells. -/
  | array (items : Array Nat)
  /-- A hash: its keys with the places of their values' cells, in the order they were made. -/
  | hash (entries : Array (Bytes × Nat))
  /-- A subroutine, with the variables it sees. -/
  | code (sub : SubDef) (scope : List (String × Nat))
  deriving Repr, Inhabited

/-- A scope: the variables a block declared, and what `local` changed in it. -/
structure Frame where
  /-- Names (with their sigils) and the cells they stand for. -/
  vars : List (String × Nat) := []
  /-- Cells to give back their contents when the block ends. -/
  savedCells : List (Nat × Cell) := []
  /-- Package names to bind back when the block ends. -/
  savedNames : List (String × Option Nat) := []
  deriving Repr, Inhabited

/-- The last successful match. -/
structure MatchInfo where
  /-- The text matched against. -/
  subject : Bytes
  /-- Where the match starts. -/
  start : Nat
  /-- Where it ends. -/
  stop : Nat
  /-- What the groups captured. -/
  caps : Caps
  /-- How many groups the pattern has. -/
  groups : Nat
  /-- The names of its named groups, with their numbers. -/
  names : List (Bytes × Nat) := []
  deriving Repr, Inhabited

/-- A file opened for reading or writing. -/
inductive Handle where
  /-- Reading: what is left of the file. -/
  | reader (rest : Bytes)
  /-- Writing to a path. -/
  | writer (path : String)
  deriving Repr, Inhabited

/-- How a run leaves the statements it was running. -/
inductive Flow where
  /-- `next`, `last` or `redo`, with a label. -/
  | loop (kind : LoopCtl) (label : Option String)
  /-- `return`, with its values. -/
  | ret (values : List Scalar)
  /-- A death, with its value: the whole message, or what else was given to `die`. -/
  | die (value : Scalar)
  /-- `exit`, with a status. -/
  | exit (status : Nat)
  /-- The run takes too many steps. -/
  | endless
  deriving Repr, Inhabited

/-- The state of a run. -/
structure Machine where
  /-- The cells. -/
  heap : Array Cell := #[]
  /-- The package variables: names with sigils and their cells. -/
  globals : List (String × Nat) := []
  /-- The scopes, innermost first. -/
  frames : List Frame := [{}]
  /-- The subroutines. -/
  subs : List SubDef := []
  /-- The output. -/
  out : Bytes := []
  /-- The error stream. -/
  err : Bytes := []
  /-- What is left of the standard input. -/
  stdin : Bytes := []
  /-- Whether the standard input was read. -/
  tookStdin : Bool := false
  /-- The files there are. -/
  files : List (String × Bytes) := []
  /-- The files written, with their whole contents, in the order first written. -/
  written : List (String × Bytes) := []
  /-- The handles opened, by name. -/
  handles : List (String × Handle) := []
  /-- How many handles were opened: names for new ones. -/
  handleCount : Nat := 0
  /-- The file `<>` reads: its name and what is left of it. -/
  argvFile : Option (String × Bytes) := none
  /-- Whether `<>` has begun to read. -/
  argvStarted : Bool := false
  /-- `$.`: the number of the last line read. -/
  lineNo : Nat := 0
  /-- The handle read last, for the place in messages. -/
  lastHandle : Option String := none
  /-- The last successful match. -/
  lastMatch : Option MatchInfo := none
  /-- The last successful pattern, which an empty pattern stands for. -/
  lastPattern : Option Rx := none
  /-- Where `m//g` stopped in each cell, and whether that match was empty. -/
  positions : List (Nat × Nat × Bool) := []
  /-- Where `each` is in each hash. -/
  eachPositions : List (Nat × Nat) := []
  /-- The state of each `..` switch: whether it is on, and its count. -/
  switches : List (Nat × Bool × Nat) := []
  /-- The line of the statement running. -/
  line : Nat := 1
  /-- The name of the program, for messages. -/
  fileName : String := "-e"
  /-- Steps left before the run counts as never ending. -/
  steps : Nat := 0
  /-- Whether the subroutine running was called for a list. -/
  wantList : Bool := false
  /-- How many subroutine calls are running. -/
  callDepth : Nat := 0
  /-- The error number of the last failed system call. -/
  errno : Nat := 0
  /-- The state of `rand`. -/
  randState : Nat := 0
  /-- Whether `srand` was called. -/
  seeded : Bool := false
  /-- `-i`: the files of `<>` are edited in place, the old contents kept under the name with
  this ending when it is not empty. -/
  inPlace : Option Bytes := none
  /-- The file the output goes to while it is edited in place. -/
  outputFile : Option String := none
  /-- The files removed and not written again. -/
  removed : List String := []
  /-- The package of the code running. -/
  package : String := "main"
  /-- The classes cells were blessed into. -/
  blessings : List (Nat × String) := []
  deriving Inhabited

/-- Running a program. -/
abbrev Run := ExceptT Flow (StateM Machine)

/-- Take one step of the budget. -/
def tick : Run Unit := do
  -- the state is changed in place, never copied
  let left ← modifyGet fun m => if m.steps = 0 then (false, m) else (true, { m with steps := m.steps - 1 })
  if !left then throw .endless

/-! ## Cells -/

/-- Make a cell: its place. -/
def alloc (c : Cell) : Run Nat :=
  modifyGet fun m => (m.heap.size, { m with heap := m.heap.push c })

/-- The cell at a place. -/
def cellAt (a : Nat) : Run Cell := do
  return ((← get).heap[a]?).getD (.scalar .undefined)

/-- Replace the cell at a place. -/
def setCell (a : Nat) (c : Cell) : Run Unit :=
  modify fun m => { m with heap := m.heap.set! a c }

/-- The scalar in a cell. -/
def readCell (a : Nat) : Run Scalar := do
  match ← cellAt a with
  | .scalar v => return v
  | _ => return .undefined

/-- Put a scalar in a cell. -/
def writeCell (a : Nat) (v : Scalar) : Run Unit := setCell a (.scalar v)

/-- A new scalar cell. -/
def newScalar (v : Scalar) : Run Nat := alloc (.scalar v)

/-- The element places of an array cell. -/
def arrayItems (a : Nat) : Run (Array Nat) := do
  match ← cellAt a with
  | .array items => return items
  | _ => return #[]

/-- The entries of a hash cell. -/
def hashEntries (a : Nat) : Run (Array (Bytes × Nat)) := do
  match ← cellAt a with
  | .hash entries => return entries
  | _ => return #[]

/-- The values of an array. -/
def arrayValues (a : Nat) : Run (List Scalar) := do
  (← arrayItems a).toList.mapM readCell

/-- Fill an array with new cells holding values. -/
def setArrayValues (a : Nat) (vs : List Scalar) : Run Unit := do
  let cells ← vs.mapM newScalar
  setCell a (.array cells.toArray)

/-- Fill a hash from a list of keys and values; a later key replaces an earlier one. -/
def setHashValues (a : Nat) (vs : List Scalar) : Run Unit := do
  setCell a (.hash #[])
  let rec go : Nat → List Scalar → Run Unit
    | 0, _ => pure ()
    | _, [] => pure ()
    | fuel + 1, k :: rest => do
      let (v, more) := match rest with
        | v :: more => (v, more)
        | [] => (Scalar.undefined, [])
      let key := k.toText
      let entries ← hashEntries a
      match entries.find? (·.1 == key) with
      | some (_, c) => writeCell c v
      | none =>
        let c ← newScalar v
        setCell a (.hash (entries.push (key, c)))
      go fuel more
  go (vs.length + 1) vs

/-! ## Names -/

/-- The name of a package variable without `main::`. -/
def plainName (key : String) : String :=
  match key.toList with
  | sigil :: rest =>
    let name := String.ofList rest
    if name.startsWith "main::" then String.singleton sigil ++ (name.drop 6).toString else key
  | [] => key

/-- The cell a name stands for in the scopes, if declared there. -/
def lexicalCell (key : String) : Run (Option Nat) := do
  let m ← get
  return m.frames.findSome? fun f => f.vars.lookup key

/-- The cell of a package variable, made when first named. -/
def globalCell (key : String) (fresh : Cell) : Run Nat := do
  let key := plainName key
  match (← get).globals.lookup key with
  | some a => return a
  | none =>
    let a ← alloc fresh
    modify fun m => { m with globals := (key, a) :: m.globals }
    return a

/-- Whether a variable's name puts it in `main` whatever the package: punctuation, digits,
and `ENV`, `INC`, `ARGV`, `ARGVOUT`, `STDIN`, `STDOUT`, `STDERR` and `_`. -/
def isMainName (name : String) : Bool :=
  match name.toList with
  | c :: _ =>
    !(c.isAlpha || c = '_') || name = "_" ||
      ["ENV", "INC", "ARGV", "ARGVOUT", "STDIN", "STDOUT", "STDERR"].contains name
  | [] => true

/-- The full name of a package variable in the package running: names with `::` and those that
live in `main` stay as they are. -/
def qualify (key : String) : Run String := do
  match key.toList with
  | sigil :: rest =>
    let name := String.ofList rest
    let pkg := (← get).package
    if (name.splitOn "::").length > 1 || isMainName name || pkg = "main" then return key
    return String.singleton sigil ++ pkg ++ "::" ++ name
  | [] => return key

/-- The cell a name stands for. -/
def varCell (key : String) (fresh : Cell) : Run Nat := do
  match ← lexicalCell key with
  | some a => return a
  | none => globalCell (← qualify key) fresh

/-- Declare a name in the innermost scope, with a new cell. -/
def declareName (key : String) (fresh : Cell) : Run Nat := do
  let a ← alloc fresh
  modify fun m =>
    match m.frames with
    | f :: rest => { m with frames := { f with vars := (key, a) :: f.vars } :: rest }
    | [] => { m with frames := [{ vars := [(key, a)] }] }
  return a

/-- Bind a package name to another cell until the innermost scope ends. -/
def bindGlobal (key : String) (a : Nat) : Run Unit := do
  let key := plainName key
  let m ← get
  let old := m.globals.lookup key
  let frames := match m.frames with
    | f :: rest => { f with savedNames := (key, old) :: f.savedNames } :: rest
    | [] => []
  set { m with frames, globals := (key, a) :: m.globals.filter (·.1 != key) }

/-- Save a cell's contents until the innermost scope ends. -/
def saveCell (a : Nat) : Run Unit := do
  let c ← cellAt a
  modify fun m =>
    match m.frames with
    | f :: rest => { m with frames := { f with savedCells := (a, c) :: f.savedCells } :: rest }
    | [] => m

/-- Open a scope. -/
def pushScope : Run Unit := modify fun m => { m with frames := {} :: m.frames }

/-- Close the innermost scope, giving back what `local` changed. -/
def popScope : Run Unit := do
  let m ← get
  match m.frames with
  | f :: rest =>
    let heap := f.savedCells.foldl (fun h (a, c) => h.set! a c) m.heap
    let globals := f.savedNames.foldl (fun gs (k, old) =>
      match old with
      | some a => (k, a) :: gs.filter (·.1 != k)
      | none => gs.filter (·.1 != k)) m.globals
    set { m with frames := rest, heap, globals }
  | [] => pure ()

/-- Run inside a new scope, closing it however the run ends. -/
def inScope {α : Type} (body : Run α) : Run α := do
  pushScope
  try
    let v ← body
    popScope
    return v
  catch e =>
    popScope
    throw e

/-! ## Output -/

/-- The contents of a file as the run sees it: as last written, unless it was removed. -/
def fileContent (path : String) : Run (Option Bytes) := do
  let m ← get
  match m.written.lookup path with
  | some c => return some c
  | none => return if m.removed.contains path then none else m.files.lookup path

/-- Make a file hold bytes. -/
def setFile (path : String) (bs : Bytes) : Run Unit :=
  modify fun m => { m with written := m.written.filter (·.1 != path) ++ [(path, bs)],
                           removed := m.removed.filter (· != path) }

/-- Add bytes to the end of a file written. -/
def appendFile (path : String) (bs : Bytes) : Run Unit :=
  modify fun m =>
    match m.written.lookup path with
    | some old => { m with written := m.written.map fun (p, c) => if p = path then (p, old ++ bs) else (p, c) }
    | none => { m with written := m.written ++ [(path, bs)] }

/-- Write to a handle by name: the output (or the file edited in place), the error stream, or
a file. -/
def writeHandle (name : String) (bs : Bytes) : Run Bool := do
  match name with
  | "STDOUT" =>
    match (← get).outputFile with
    | some path => appendFile path bs
    | none => modify fun m => { m with out := m.out ++ bs }
    return true
  | "STDERR" => modify fun m => { m with err := m.err ++ bs }; return true
  | _ =>
    match (← get).handles.lookup name with
    | some (.writer path) =>
      appendFile path bs
      return true
    | _ => return false

/-! ## Messages -/

/-- Where a message was raised: ` at -e line N`, with the line of input last read. -/
def placeText : Run Bytes := do
  let m ← get
  let input : String := match m.lastHandle with
    | some h =>
      let shown := if h = "ARGV" then "" else h
      if m.lineNo > 0 then s!", <{shown}> line {m.lineNo}" else ""
    | none => ""
  return rawOf s!" at {m.fileName} line {m.line}{input}.\n"

/-- Die with a message of perl's own: the place is added. -/
def dieWith {α : Type} (msg : String) : Run α := do
  throw (.die (.str (rawOf msg ++ (← placeText))))

/-- The text of an error number. -/
def errnoText (n : Nat) : String :=
  match n with
  | 2 => "No such file or directory"
  | 13 => "Permission denied"
  | 21 => "Is a directory"
  | 20 => "Not a directory"
  | 9 => "Bad file descriptor"
  | 17 => "File exists"
  | 0 => ""
  | k => s!"Unknown error {k}"

/-! ## Numbers of `rand` -/

/-- The next state of the 48-bit generator of `rand`. -/
def randStep (s : Nat) : Nat := (0x5DEECE66D * s + 0xB) % Nat.pow 2 48

/-- The state `srand` gives a seed. -/
def seedState (seed : Nat) : Nat := (seed % Nat.pow 2 32 * Nat.pow 2 16 + 0x330E) % Nat.pow 2 48

end Chatbot.Perl
