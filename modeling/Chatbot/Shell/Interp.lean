import Chatbot.Shell.Parse
import Chatbot.Shell.Arith
import Chatbot.Shell.Format
import Chatbot.Shell.Tools
import Chatbot.Shell.Glob
import Chatbot.Shell.Condition
import Chatbot.Shell.StreamEdit
import Chatbot.Shell.Search
import Chatbot.Shell.Signal
import Chatbot.Shell.Pathname
import Chatbot.Shell.Layout
import Chatbot.Shell.Base64
import Chatbot.Shell.Expression
import Chatbot.Shell.Sorting
import Chatbot.Shell.Fields
import Chatbot.Shell.Files
import Chatbot.Shell.Extended
import Chatbot.Shell.Sequence
import Chatbot.Shell.Digest
import Chatbot.Shell.Dump
import Chatbot.Shell.Factor
import Chatbot.Shell.Tabs
import Chatbot.Shell.Fill
import Chatbot.Shell.Merge
import Chatbot.Shell.Precedence
import Chatbot.Shell.FormatTool
import Chatbot.Shell.Launch
import Chatbot.Awk.Tool
import Chatbot.Perl.Tool

/-!
# Running shell command lines

A script runs line by line against a shell state: its variables and positional parameters,
the last exit status, and the input it reads. Around the shell is the *world*, which a
subshell shares: the bytes written to the process's output and error streams (each capped
at a size), the buffers of pipes and command substitutions, the files written, and the clock.

Output goes through descriptors. Each command receives the map from descriptors to sinks:
the output or error stream, `/dev/null`, a file, a pipe buffer, or nothing when closed.
Redirections change that map for one command, left to right, so `2>&1` and `>&2` mean what
they mean to the shell.

Words expand to fields. Parameters, command substitutions and arithmetic expand first;
what an unquoted expansion produced is then split at the characters of `IFS`, while quoted
text and literal text stay whole; `"$@"` gives one field per parameter. There is no pathname
expansion: the patterns a script writes reach the command as written.

A command stops early in four ways: `exit`, `break`, `continue`, or because it never ends.
Running out of the step budget or the fuel counts as never ending, as does
`sleep infinity`; a process that never ends is one its caller must time out.

Every stage of a pipeline with more than one stage, every `( … )`, every command
substitution and every background job runs in a subshell: it sees a copy of the shell state,
and only the world outlives it. Stages of a pipeline run at the same time, so the pipeline
takes as long as its slowest stage. A background job does not delay the shell, but the
process ends only when every job still writing to its streams has ended.

Messages are the shell's: `sh: LINE: NAME: not found` with status 127, syntax errors with
status 2, and the errors of arithmetic and of `${x?}` that end the shell with status 2.
-/

namespace Chatbot.Shell

/-! ## State -/

/-- Where output written to a descriptor goes. -/
inductive Sink where
  /-- The process's output stream. -/
  | out
  /-- The process's error stream. -/
  | err
  /-- Nowhere (`/dev/null`). -/
  | null
  /-- A file, by name. -/
  | file (name : String)
  /-- A pipe or substitution buffer, by its level. -/
  | pipe (level : Nat)
  /-- A closed descriptor. -/
  | closed
  deriving DecidableEq, Repr

/-- The descriptors open for a command and where each one writes. -/
abbrev Fds := List (Nat × Sink)

/-- Where a descriptor writes. -/
def Fds.sinkOf (fds : Fds) (fd : Nat) : Sink := (fds.lookup fd).getD .closed

/-- Point a descriptor at a sink. -/
def Fds.put (fds : Fds) (fd : Nat) (s : Sink) : Fds := (fd, s) :: fds.filter (·.1 != fd)

/-- The descriptors after the changes `exec` made, each applied where the descriptor still
writes where it wrote when `exec` ran, so that a command's own redirection wins. -/
def Fds.withOverrides (fds : Fds) (os : List (Nat × Sink × Sink)) : Fds :=
  os.foldl (fun fds (fd, before, after) => if fds.sinkOf fd = before then fds.put fd after else fds) fds

/-- The descriptors of a process: output and error streams. -/
def standardFds : Fds := [(1, .out), (2, .err)]

/-- Why running stopped early. -/
inductive Stop where
  /-- `exit` with a status. -/
  | exit (status : Nat)
  /-- `break` out of this many loops. -/
  | breakLoop (levels : Nat)
  /-- `continue` this many loops out. -/
  | continueLoop (levels : Nat)
  /-- The command never ends. -/
  | endless
  /-- The shell was killed by a signal. -/
  | signal (n : Nat)
  /-- `return` from a function with a status. -/
  | returnFn (status : Nat)
  /-- A write to a pipe whose reader may be gone: the writing shell dies of `SIGPIPE`. -/
  | pipeFull
  /-- A read past the end of a pipe's contents when more would have come: the reader waits
  for input this run did not make. -/
  | needInput
  deriving DecidableEq, Repr

/-- A background job: its process id, when it ends (`none`: never), and whether it writes
to the process's streams, which then stay open until it ends. -/
structure Job where
  /-- Its process id. -/
  pid : Nat
  /-- When it ends; `none` if it never does. -/
  ends : Option Nat
  /-- Whether it holds the process's streams open. -/
  holds : Bool
  deriving DecidableEq, Repr

/-- The shell's own process id. -/
def shellPid : Nat := 4242

/-- A pipe between the stages of a pipeline, or the buffer of a command substitution. -/
structure Pipe where
  /-- What was written to it. -/
  data : Bytes := []
  /-- How many more bytes it takes; `none` when it takes any number. -/
  room : Option Nat := none
  /-- Whether a write did not fit: the writer would have gone on writing. -/
  cut : Bool := false
  deriving DecidableEq, Repr

/-- Write to a pipe: the pipe after it, and whether the write did not fit. -/
def Pipe.push (p : Pipe) (bs : Bytes) : Pipe × Bool :=
  match p.room with
  | none => ({ p with data := p.data ++ bs }, false)
  | some r =>
    if bs.length ≤ r then ({ p with data := p.data ++ bs, room := some (r - bs.length) }, false)
    else ({ p with data := p.data ++ bs.take r, room := some 0, cut := true }, true)

/-- What outlives a subshell. -/
structure World where
  /-- Bytes kept from the output stream. -/
  out : Bytes := []
  /-- Bytes kept from the error stream. -/
  err : Bytes := []
  /-- How many more output bytes are kept. -/
  outRoom : Nat
  /-- How many more error bytes are kept. -/
  errRoom : Nat
  /-- Pipe and substitution buffers, by level. -/
  pipes : List Pipe := []
  /-- How many bytes a pipe between stages takes in this run. -/
  capacity : Nat := 512
  /-- The most bytes a write wanted a pipe to hold when it did not fit. -/
  demand : Nat := 0
  /-- Files written, with their contents. -/
  files : List (String × Bytes) := []
  /-- Milliseconds since the start. -/
  clock : Nat := 0
  /-- Background jobs started, oldest first. -/
  jobs : List Job := []
  /-- Steps left before the script counts as never ending. -/
  steps : Nat
  /-- When `timeout` stops the command it runs, and the signal it sends then. -/
  deadline : Option (Nat × Nat) := none

/-- A shell. -/
structure ShellState where
  /-- What subshells share. -/
  world : World
  /-- Variables, in the order they were made. -/
  vars : List (String × Bytes)
  /-- Names of exported variables. -/
  exported : List String
  /-- Positional parameters. -/
  params : List Bytes := []
  /-- Status of the last command. -/
  status : Nat := 0
  /-- Status of the last command substitution of the current command. -/
  substStatus : Option Nat := none
  /-- Input not yet read. -/
  input : Bytes := []
  /-- Whether more input would follow what is there: it comes from a pipe that was cut. -/
  inputCut : Bool := false
  /-- How many loops enclose the current command. -/
  loops : Nat := 0
  /-- Line of the current command. -/
  line : Nat := 1
  /-- The functions defined, each with its body and the line of its definition. -/
  funcs : List (String × Cmd × Nat) := []
  /-- The line of the definition of the function running; `0` outside functions. -/
  funcLine : Nat := 0
  /-- One frame per running function: the variables `local` hid in it, each with its value
  before (`none`: unset). -/
  locals : List (List (String × Option Bytes)) := []
  /-- The commands to run on exit (signal `0`) and on signals; an empty command ignores the
  signal. -/
  traps : List (Nat × Bytes) := []
  /-- `set -e`: a failing command ends the shell. -/
  errexit : Bool := false
  /-- `set -u`: expanding an unset parameter is an error. -/
  nounset : Bool := false
  /-- `set -f`: fields are not expanded as pathname patterns. -/
  noglob : Bool := false
  /-- What `exec` without a command did to the descriptors: each descriptor, where it wrote
  before, and where it writes since. -/
  fdOverrides : List (Nat × Sink × Sink) := []
  /-- The aliases defined, in the order they were made. -/
  aliases : List (String × Bytes) := []
  /-- Whether the status of the current command is being tested (in a condition, left of
  `&&` or `||`, or under `!`), where `set -e` does not apply. -/
  tested : Bool := false
  /-- The names of the variables marked read-only. -/
  readonlyVars : List String := []
  /-- The file mode creation mask. -/
  umask : Nat := 0o022
  /-- Where `getopts` goes on: the place of the next argument, counted from 1. -/
  optIndex : Nat := 1
  /-- Where `getopts` goes on within the argument before `optIndex`, if it is not done. -/
  optOffset : Option Nat := none
  /-- The programs found in the directories of `PATH`, as `hash` remembers them: each name
  with its path, in the order of the table. -/
  hashed : List (String × String) := []
  /-- The shell's name, `$0`, which begins its messages. -/
  shellName : Bytes := bytesOf "sh"
  /-- Whether the shell is `bash`: its messages name lines as `line N`, `echo` reads options,
  and arithmetic has the power operator `**`. -/
  bash : Bool := false

/-- Running shell commands. -/
abbrev Sh := ExceptT Stop (StateM ShellState)

/-- Apply a change to one element of a list. -/
def modifyAt {α : Type} (f : α → α) : Nat → List α → List α
  | _, [] => []
  | 0, x :: xs => f x :: xs
  | n + 1, x :: xs => x :: modifyAt f n xs

/-- Set a file's contents, keeping the order of the files. -/
def putFile (files : List (String × Bytes)) (name : String) (data : Bytes) :
    List (String × Bytes) :=
  if files.any (·.1 == name) then files.map fun f => if f.1 = name then (name, data) else f
  else files ++ [(name, data)]

/-- Write bytes to a sink: the world after it, and whether a pipe could not take them. -/
def World.write (w : World) (s : Sink) (bs : Bytes) : World × Bool :=
  match s with
  | .out => ({ w with out := w.out ++ bs.take w.outRoom, outRoom := w.outRoom - bs.length }, false)
  | .err => ({ w with err := w.err ++ bs.take w.errRoom, errRoom := w.errRoom - bs.length }, false)
  | .file name =>
    ({ w with files := putFile w.files name (((w.files.lookup name).getD []) ++ bs) }, false)
  | .pipe k =>
    match w.pipes[k]? with
    | some p =>
      let (p', full) := p.push bs
      ({ w with pipes := modifyAt (fun _ => p') k w.pipes,
                demand := if full then max w.demand (p.data.length + bs.length) else w.demand },
        full)
    | none => (w, false)
  | _ => (w, false)

/-- Write bytes to a descriptor, for a command of the shell: when a pipe cannot take them, the
shell writing dies of `SIGPIPE`. -/
def emit (fds : Fds) (fd : Nat) (bs : Bytes) : Sh Unit := do
  if bs.isEmpty then return
  let st ← get
  let (w, full) := st.world.write (fds.sinkOf fd) bs
  set { st with world := w }
  if full then throw .pipeFull

/-- Write bytes to a descriptor, for another program: whether a pipe could not take them (the
program then dies of `SIGPIPE`, and the shell goes on). -/
def emitFrom (fds : Fds) (fd : Nat) (bs : Bytes) : Sh Bool := do
  if bs.isEmpty then return false
  let st ← get
  let (w, full) := st.world.write (fds.sinkOf fd) bs
  set { st with world := w }
  pure full

/-- The line the shell names in its messages: inside a function, counted from the line of
its definition. -/
def ShellState.shownLine (st : ShellState) : Nat :=
  if st.funcLine = 0 then st.line else st.line + 1 - st.funcLine

/-- What begins a message of the shell: its name and the line, `sh: LINE: ` (`bash: line LINE: `
for `bash`). -/
def ShellState.messageHead (st : ShellState) : Bytes :=
  st.shellName ++ bytesOf (if st.bash then s!": line {st.shownLine}: " else s!": {st.shownLine}: ")

/-- Write a message of the shell, `sh: LINE: message`, to the error descriptor. -/
def complain (fds : Fds) (msg : Bytes) : Sh Unit := do
  let st ← get
  emit fds 2 (st.messageHead ++ msg ++ [0x0A])

/-- Set the status. -/
def setStatus (n : Nat) : Sh Unit := modify fun st => { st with status := n }

/-- Take one step of the budget. -/
def tick : Sh Unit := do
  let st ← get
  if st.world.steps = 0 then throw .endless
  set { st with world := { st.world with steps := st.world.steps - 1 } }

/-- Set a variable, keeping its place if it exists. -/
def setVar (name : String) (v : Bytes) : Sh Unit :=
  modify fun st =>
    if st.vars.any (·.1 == name) then
      { st with vars := st.vars.map fun e => if e.1 = name then (name, v) else e }
    else { st with vars := st.vars ++ [(name, v)] }

/-- Assign a variable as a command does: a variable marked read-only is refused with the
shell's message, naming the built-in command `cmd` that assigned it if there is one, and the
shell ends with status 2. Assigning `OPTIND` starts `getopts` over at the place it gives. -/
def assignVar (fds : Fds) (cmd : Option String) (name : String) (v : Bytes) : Sh Unit := do
  if (← get).readonlyVars.contains name then
    let st ← get
    let who := match cmd with
      | some c => c ++ ": "
      | none => ""
    emit fds 2 (st.messageHead ++ bytesOf s!"{who}{name}: is read only" ++ [0x0A])
    throw (.exit 2)
  setVar name v
  if name = "OPTIND" then
    let place := match natOfBytes v with
      | some 0 | none => 1
      | some n => n
    modify fun st => { st with optIndex := place, optOffset := none }

/-- The path of a program found in the directories of `PATH`, if any. -/
def ShellState.findProgram (st : ShellState) (name : String) : Option String :=
  let dirs := (textOf ((st.vars.lookup "PATH").getD [])).splitOn ":"
  (dirs.map fun d => joinPath (if d.isEmpty then "." else d) name).find? fun p =>
    match HostNode.lookup p with
    | some (.file true) => true
    | _ => false

/-- Remember where a program was found, as the last entry of its bucket. -/
def ShellState.remember (st : ShellState) (name path : String) : ShellState :=
  { st with hashed := st.hashed.filter (·.1 != name) ++ [(name, path)] }

/-- The field separators. -/
def ShellState.ifs (st : ShellState) : Bytes := (st.vars.lookup "IFS").getD (bytesOf " \t\n")

/-- The value of a parameter, if it is set. -/
def ShellState.param (st : ShellState) (name : String) : Option Bytes :=
  match name with
  | "?" => some (decimalBytes st.status)
  | "#" => some (decimalBytes st.params.length)
  | "$" => some (decimalBytes shellPid)
  | "!" => st.world.jobs.getLast?.map fun j => decimalBytes j.pid
  | "-" => some ((if st.errexit then [0x65] else []) ++ (if st.nounset then [0x75] else []))
  | "0" => some st.shellName
  | "@" | "*" =>
    if st.params.isEmpty then none
    else some ((st.params.intersperse (st.ifs.take 1)).flatten)
  | _ =>
    match name.toNat? with
    | some n => if n = 0 then none else st.params[n - 1]?
    | none => st.vars.lookup name

/-- The environment a command receives: the exported variables, then the assignments made
for it. -/
def ShellState.environment (st : ShellState) (assigns : List (String × Bytes)) : List (String × Bytes) :=
  let base := st.vars.filter fun e => st.exported.contains e.1 && !assigns.any (·.1 == e.1)
  base ++ assigns

/-- Run in a subshell: its status, with the shell state restored and only the world kept.
The subshell starts without the parent's traps, except that ignored signals stay ignored;
when it ends, `atExit` runs with its status and gives the status it ends with. A command
that never ends stays never ending. -/
def isolate (body : Sh Unit) (atExit : Nat → Sh Nat) : Sh Nat := do
  let saved ← get
  modify fun st => { st with traps := st.traps.filter fun t => t.2.isEmpty }
  let r ← tryCatch (do body; pure none) fun e => pure (some e)
  let ended := (← get).status
  let (status, stop) ← match r with
    | some .endless => pure (ended, some Stop.endless)
    | some (.signal n) => pure (ended, some (Stop.signal n))
    | some .needInput => pure (ended, some Stop.needInput)
    | some .pipeFull => pure (141, none)
    | _ =>
      let status := match r with
        | some (.exit n) | some (.returnFn n) => n
        | _ => ended
      tryCatch (do pure ((← atExit status), none)) fun e => pure (status, some e)
  let after ← get
  set { saved with world := after.world, status }
  match stop with
  | some .endless => throw .endless
  | some (.signal n) => throw (.signal n)
  | some .needInput => throw .needInput
  | _ => pure status

/-- Run with the status tested: `set -e` does not apply inside. -/
def withTested (body : Sh Unit) : Sh Unit := do
  let saved := (← get).tested
  modify fun st => { st with tested := true }
  tryCatch body fun e => do
    modify fun st => { st with tested := saved }
    throw e
  modify fun st => { st with tested := saved }

/-- Under `set -e`, end the shell when the last command failed and its status is not being
tested. -/
def checkErrexit : Sh Unit := do
  let st ← get
  if st.errexit && !st.tested && st.status != 0 then throw (.exit st.status)

/-- Run with the input restored afterwards. -/
def keepInput (body : Sh Unit) : Sh Unit := do
  let saved := (← get).input
  let cut := (← get).inputCut
  tryCatch body fun e => do
    modify fun st => { st with input := saved, inputCut := cut }
    throw e
  modify fun st => { st with input := saved, inputCut := cut }

/-- Run with redirections: the input is restored afterwards when there are any. -/
def withInput (rs : List Redirect) (body : Sh Unit) : Sh Unit :=
  if rs.isEmpty then body else keepInput body

/-- Where the descriptors point after a command's own redirections, as far as they can be
told without expanding anything: a file stands for any sink other than the streams. -/
def redirectedSinks (fds : Fds) : List Redirect → Fds
  | [] => fds
  | r :: rs =>
    let fds := match r with
      | .write fd target _ =>
        match plainText target with
        | some "/dev/stdout" => fds.put fd (fds.sinkOf 1)
        | some "/dev/stderr" => fds.put fd (fds.sinkOf 2)
        | _ => fds.put fd .null
      | .read fd _ | .here fd _ => fds.put fd .null
      | .dup fd target =>
        match plainText target with
        | some "-" => fds.put fd .closed
        | some t =>
          match t.toNat? with
          | some n => fds.put fd (fds.sinkOf n)
          | none => fds
        | none => fds
    redirectedSinks fds rs

/-- The redirections a command carries itself. -/
def Cmd.ownRedirects : Cmd → List Redirect
  | .simple _ _ rs _ | .group _ rs | .subshell _ rs | .ifThen _ _ _ rs | .forIn _ _ _ rs
  | .loop _ _ _ rs | .caseOf _ _ rs => rs
  | _ => []

/-- Open a new pipe buffer: its level. A pipe between stages (`bounded`) takes as many bytes
as the run's capacity; a substitution's buffer takes any number. -/
def openPipe (bounded : Bool) : Sh Nat := do
  let st ← get
  let p : Pipe := { room := if bounded then some st.world.capacity else none }
  set { st with world := { st.world with pipes := st.world.pipes ++ [p] } }
  pure st.world.pipes.length

/-- Close the pipe buffer of a level, and any opened after it: the pipe. -/
def closePipe (level : Nat) : Sh Pipe := do
  let st ← get
  set { st with world := { st.world with pipes := st.world.pipes.take level } }
  pure (st.world.pipes[level]?.getD {})

/-- Set the clock. -/
def setClock (t : Nat) : Sh Unit := do
  match (← get).world.deadline with
  | some (d, sig) =>
    if t > d then
      modify fun st => { st with world := { st.world with clock := d } }
      throw (.signal sig)
    modify fun st => { st with world := { st.world with clock := t } }
  | none => modify fun st => { st with world := { st.world with clock := t } }

/-! ## Fields -/

/-- A piece of an expanded word. -/
inductive Piece where
  /-- Text written unquoted in the word. -/
  | lit (bs : Bytes)
  /-- Quoted text, or what a quoted expansion produced. -/
  | quoted (bs : Bytes)
  /-- What an unquoted expansion produced: split into fields. -/
  | loose (bs : Bytes)
  /-- A field boundary, between the parameters of `"$@"`. -/
  | cut
  deriving DecidableEq, Repr

/-- The bytes of a piece. -/
def Piece.bytes : Piece → Bytes
  | .lit bs | .quoted bs | .loose bs => bs
  | .cut => []

/-- The bytes of pieces, joined. -/
def piecesBytes (ps : List Piece) : Bytes := (ps.map Piece.bytes).flatten

/-- Pieces as a pattern: each byte with whether it is active. -/
def piecesPattern (ps : List Piece) : List (UInt8 × Bool) :=
  ps.flatMap fun
    | .lit bs | .loose bs => bs.map fun b => (b, true)
    | .quoted bs => bs.map fun b => (b, false)
    | .cut => []

/-- Field splitting in progress. Each byte of a field says whether it may act in a pathname
pattern: it does unless it was quoted. -/
structure Splitter where
  /-- Fields finished. -/
  fields : List (List (UInt8 × Bool)) := []
  /-- The field being built. -/
  cur : List (UInt8 × Bool) := []
  /-- Whether the field being built exists (it may be empty but quoted). -/
  has : Bool := false
  /-- Whether a field was just ended by blanks of `IFS`. -/
  afterBlank : Bool := false

/-- Whether a byte is a blank that `IFS` may hold. -/
def isIfsBlank (b : UInt8) : Bool := b = 0x20 || b = 0x09 || b = 0x0A

/-- Finish the field being built. -/
def Splitter.push (s : Splitter) : Splitter := { fields := s.fields ++ [s.cur] }

/-- Split at one byte of an unquoted expansion. -/
def Splitter.looseByte (ifs : Bytes) (s : Splitter) (b : UInt8) : Splitter :=
  if ifs.contains b then
    if isIfsBlank b then
      if s.has then { s.push with afterBlank := true } else s
    else if s.has then s.push
    else if s.afterBlank then { s with afterBlank := false }
    else s.push
  else { s with cur := s.cur ++ [(b, true)], has := true, afterBlank := false }

/-- Add a piece. -/
def Splitter.piece (ifs : Bytes) (s : Splitter) : Piece → Splitter
  | .lit bs => { s with cur := s.cur ++ bs.map (·, true), has := true, afterBlank := false }
  | .quoted bs => { s with cur := s.cur ++ bs.map (·, false), has := true, afterBlank := false }
  | .loose bs => bs.foldl (Splitter.looseByte ifs) s
  | .cut => if s.has then s.push else s

/-- The fields of an expanded word, each byte with whether it may act in a pattern. -/
def splitPatternFields (ifs : Bytes) (ps : List Piece) : List (List (UInt8 × Bool)) :=
  let s := ps.foldl (Splitter.piece ifs) {}
  if s.has then s.fields ++ [s.cur] else s.fields

/-- The fields of an expanded word. -/
def splitFields (ifs : Bytes) (ps : List Piece) : List Bytes :=
  (splitPatternFields ifs ps).map fun f => f.map Prod.fst

/-- Remove trailing line feeds, as command substitution does. -/
def dropTrailingNewlines (bs : Bytes) : Bytes :=
  (bs.reverse.dropWhile (· = 0x0A)).reverse

/-- Read a script's next command: it, the reader after it, and the line it starts on. -/
def nextCommand (lx : Lexer) : Except SyntaxError (Option (Cmd × Lexer × Nat)) :=
  match (skipNewlines lx.rest.length).run lx with
  | .error e => .error e
  | .ok ((), lx) =>
    match readLine.run lx with
    | .error e => .error e
    | .ok (none, _) => .ok none
    | .ok (some c, lx') => .ok (some (c, lx', lx.line))

/-! ## Built-in commands -/

/-- Read a line for `read`: each byte with whether a backslash protected it, the input left,
and whether a line feed ended the line. Without `raw`, a backslash protects the next byte and
a backslash before a line feed joins lines. -/
def readInputLine (raw : Bool) : Nat → Bytes → List (UInt8 × Bool) → List (UInt8 × Bool) × Bytes × Bool
  | 0, input, acc => (acc, input, false)
  | _, [], acc => (acc, [], false)
  | fuel + 1, b :: rest, acc =>
    if b = 0x0A then (acc, rest, true)
    else if b = 0x5C && !raw then
      match rest with
      | 0x0A :: r => readInputLine raw fuel r acc
      | c :: r => readInputLine raw fuel r (acc ++ [(c, true)])
      | [] => (acc, [], false)
    else readInputLine raw fuel rest (acc ++ [(b, false)])

/-- Assign the fields of a line to names: each name but the last takes one field, the last
takes the rest without the separators around it. -/
def readAssign (ifs : Bytes) : List String → List (UInt8 × Bool) → List (String × Bytes)
  | [], _ => []
  | [name], line =>
    let isSep (p : UInt8 × Bool) : Bool := !p.2 && ifs.contains p.1 && isIfsBlank p.1
    let body := ((line.dropWhile isSep).reverse.dropWhile isSep).reverse
    [(name, body.map Prod.fst)]
  | name :: names, line =>
    let isBlankSep (p : UInt8 × Bool) : Bool := !p.2 && ifs.contains p.1 && isIfsBlank p.1
    let isSep (p : UInt8 × Bool) : Bool := !p.2 && ifs.contains p.1
    let line := line.dropWhile isBlankSep
    let field := line.takeWhile fun p => !isSep p
    let rest := line.drop field.length
    let rest := rest.dropWhile isBlankSep
    let rest := match rest with
      | p :: r => if isSep p then r.dropWhile isBlankSep else rest
      | [] => []
    (name, field.map Prod.fst) :: readAssign ifs names rest

/-- The special built-in commands: found before functions, and the assignments written before
them stay. -/
def specialBuiltins : List String :=
  [":", ".", "break", "continue", "eval", "exec", "exit", "export", "readonly", "return", "set",
   "shift", "times", "trap", "unset"]

/-- The text of bytes read as UTF-8, one character per byte where they are not UTF-8. -/
def textOfUtf8 (bs : Bytes) : String := (String.fromUTF8? (ByteArray.mk bs.toArray)).getD (textOf bs)

/-- Commands that write as they read, so that what they wrote before waiting for more input
stands. -/
def streamingTools : List String :=
  ["cat", "tr", "head", "uniq", "cut", "rev", "sed", "grep", "egrep", "fgrep", "tee"]

/-- Commands that write their output as they go rather than holding it back. -/
def unbufferedTools : List String := ["cat", "tee"]

/-- The bytes a tool's standard output holds back before it writes them. -/
def stdioBuffer : Nat := 4096

/-- The external commands: each from the files, the input, the arguments and the
environment. -/
def toolNamed (name : String) :
    Option (List (String × Bytes) → Bytes → List Bytes → List (String × Bytes) → ToolRun) :=
  match name with
  | "cat" => some fun files stdin args _ => catTool files stdin args
  | "awk" => some fun files stdin args env => Chatbot.Awk.awkTool files stdin args env
  | "perl" => some fun files stdin args env => Chatbot.Perl.perlTool files stdin args env
  | "wc" => some fun files stdin args _ => wcTool files stdin args
  | "tr" => some fun _ stdin args _ => trTool stdin args
  | "head" => some fun files stdin args _ => headTool files stdin args
  | "tail" => some fun files stdin args _ => tailTool files stdin args
  | "sort" => some fun files stdin args _ => sortTool files stdin args
  | "uniq" => some fun files stdin args _ => uniqTool files stdin args
  | "cut" => some fun files stdin args _ => cutTool files stdin args
  | "rev" => some fun files stdin args _ => revTool files stdin args
  | "seq" => some fun _ _ args _ => seqTool args
  | "basename" => some fun _ _ args _ => basenameTool args
  | "dirname" => some fun _ _ args _ => dirnameTool args
  | "printenv" => some fun _ _ args env => printenvTool env args
  | "echo" => some fun _ _ args _ => echoTool args
  | "sleep" => some fun _ _ args _ => sleepTool args
  | "sed" => some fun files stdin args _ => sedTool files stdin args
  | "grep" => some fun files stdin args _ => grepTool files stdin args
  | "egrep" => some fun files stdin args _ => grepTool files stdin (bytesOf "-E" :: args)
  | "fgrep" => some fun files stdin args _ => grepTool files stdin (bytesOf "-F" :: args)
  | "tee" => some fun files stdin args _ => teeTool files stdin args
  | "tac" => some fun files stdin args _ => tacTool files stdin args
  | "nl" => some fun files stdin args _ => nlTool files stdin args
  | "paste" => some fun files stdin args _ => pasteTool files stdin args
  | "fold" => some fun files stdin args _ => foldTool files stdin args
  | "base64" => some fun files stdin args _ => radixTool base64Codec files stdin args
  | "base32" => some fun files stdin args _ => radixTool base32Codec files stdin args
  | "expr" => some fun _ _ args _ => exprTool args
  | "rm" => some fun files _ args _ => rmTool files args
  | "touch" => some fun files _ args _ => touchTool files args
  | "cp" => some fun files _ args _ => copyTool "cp" false files args
  | "mv" => some fun files _ args _ => copyTool "mv" true files args
  | "true" => some fun _ _ _ _ => {}
  | "false" => some fun _ _ _ _ => { status := 1 }
  | "cksum" => some fun files stdin args _ => cksumTool files stdin args
  | "sum" => some fun files stdin args _ => sumTool files stdin args
  | "od" => some fun files stdin args _ => odTool files stdin args
  | "factor" => some fun _ stdin args _ => factorTool stdin args
  | "printf" => some fun _ _ args _ => printfTool args
  | "readlink" => some fun files _ args _ => readlinkTool files args
  | "realpath" => some fun files _ args _ => realpathTool files args
  | "test" => some fun files _ args _ => testProgram false files args
  | "[" => some fun files _ args _ => testProgram true files args
  | "comm" => some fun files stdin args _ => commTool files stdin args
  | "join" => some fun files stdin args _ => joinTool files stdin args
  | "tsort" => some fun files stdin args _ => tsortTool files stdin args
  | "fmt" => some fun files stdin args _ => fmtTool files stdin args
  | "expand" => some fun files stdin args _ => tabTool false files stdin args
  | "unexpand" => some fun files stdin args _ => tabTool true files stdin args
  | _ =>
    (digestNamed name).map fun (tag, digest) =>
      fun files stdin args _ => digestTool name tag digest files stdin args

/-- What `env` was asked: to start from an empty environment, names to remove, assignments,
and the command to run with its arguments (none to print the environment). -/
structure EnvJob where
  /-- `-i`: start from an empty environment. -/
  clear : Bool := false
  /-- `-u NAME`: names to remove. -/
  unset : List String := []
  /-- `NAME=VALUE` words. -/
  assigns : List (String × Bytes) := []
  /-- The command and its arguments. -/
  command : List Bytes := []
  deriving Repr

/-- Read the arguments of `env`: options, then assignments, then the command. -/
def readEnvArgs : Nat → Bool → EnvJob → List Bytes → EnvJob
  | 0, _, j, rest => { j with command := rest }
  | _, _, j, [] => j
  | fuel + 1, opts, j, a :: rest =>
    if opts && (a = bytesOf "-i" || a = bytesOf "-" || a = bytesOf "--ignore-environment") then
      readEnvArgs fuel true { j with clear := true } rest
    else if opts && a = bytesOf "-u" then
      match rest with
      | n :: r => readEnvArgs fuel true { j with unset := j.unset ++ [textOf n] } r
      | [] => { j with command := [] }
    else if opts && a = bytesOf "--" then readEnvArgs fuel false j rest
    else
      match a.idxOf? 0x3D with
      | some k =>
        if k = 0 then { j with command := a :: rest }
        else readEnvArgs fuel false { j with assigns := j.assigns ++ [(textOf (a.take k), a.drop (k + 1))] } rest
      | none => { j with command := a :: rest }

/-- The command `env` layers run at last, with its arguments and environment; `none` for the
command when the last `env` prints the environment. -/
def peelEnv : Nat → String → List Bytes → List (String × Bytes) →
    Option String × List Bytes × List (String × Bytes)
  | 0, cmd, args, env => (some cmd, args, env)
  | fuel + 1, cmd, args, env =>
    if cmd != "env" then (some cmd, args, env)
    else
      let j := readEnvArgs (args.length + 1) true {} args
      let env := if j.clear then [] else env.filter fun e => !j.unset.contains e.1
      let env := (env.filter fun e => !j.assigns.any (·.1 == e.1)) ++ j.assigns
      match j.command with
      | [] => (none, [], env)
      | c :: rest => peelEnv fuel (textOf c) rest env

/-- The command a name runs: a path under `/bin` or `/usr/bin` names the command itself. -/
def commandName (name : String) : String :=
  if name.startsWith "/usr/bin/" then (name.drop 9).toString
  else if name.startsWith "/bin/" then (name.drop 5).toString
  else name

/-- `yes`: write a line (`y`, or the arguments) again and again. Only a pipe whose reader may
stop ends it, by `SIGPIPE`. -/
def runYes (fds : Fds) (args : List Bytes) : Sh Unit := do
  let line := (if args.isEmpty then bytesOf "y" else (args.intersperse [0x20]).flatten) ++ [0x0A]
  match fds.sinkOf 1 with
  | .pipe k =>
    match ((← get).world.pipes[k]?).bind Pipe.room with
    | some room =>
      let _ ← emitFrom fds 1 (List.replicate (room / line.length + 1) line).flatten
      setStatus 141
    | none => throw .endless
  | .closed =>
    let _ ← emitFrom fds 2 (bytesOf "yes: standard output: Bad file descriptor\n")
    setStatus 1
  | _ => throw .endless

/-- Run a tool with an environment, `first` being the name it was run by (`env` when `env`
runs it): whether there is a program of that name. One that reads all of an input from a cut
pipe waits for more: what it wrote before waiting stands if it writes as it reads. -/
def runToolIn (fds : Fds) (env : List (String × Bytes)) (first cmd : String) (args : List Bytes) :
    Sh Bool := do
  let st ← get
  if cmd = "yes" then
    runYes fds args
    return true
  match toolNamed cmd with
  | none =>
    if first = "env" then
      let _ ← emitFrom fds 2 (bytesOf "env: " ++ rawOf (localeQuote cmd) ++ bytesOf ": No such file or directory\n")
      setStatus 127
      return true
    return false
  | some tool =>
    -- the null device reads as empty and swallows what is written to it
    let r := tool (st.world.files ++ [("/dev/null", [])]) st.input args env
    let waits := st.inputCut && r.readStdin && !r.stoppedEarly
    let shown := if waits && !streamingTools.contains cmd then [] else r.out
    let (broken, broken2) ←
      if (r.buffered || !unbufferedTools.contains cmd) && shown.length ≤ stdioBuffer then do
        let b2 ← emitFrom fds 2 r.err
        let b1 ← emitFrom fds 1 shown
        pure (b1, b2)
      else do
        let b1 ← emitFrom fds 1 shown
        let b2 ← emitFrom fds 2 r.err
        pure (b1, b2)
    modify fun st =>
      let w := st.world
      let files := (r.writes.filter (·.1 != "/dev/null")).foldl (fun fs f => putFile fs f.1 f.2) w.files
      { st with world := { w with files := files.filter fun f => !r.removes.contains f.1 } }
    if r.readStdin then
      modify fun st => { st with input := [] }
    if waits then throw .needInput
    match r.time with
    | none => throw .endless
    | some t => setClock ((← get).world.clock + t)
    setStatus (if broken || broken2 then 141 else r.status)
    return true

/-- Remember where the program a command name runs was found, when the name is not a path. -/
def rememberProgram (first : String) : Sh Unit := do
  let st ← get
  if !first.contains '/' then
    match st.findProgram first with
    | some p => if !st.hashed.any (·.1 == first) then modify fun st => st.remember first p
    | none => pure ()

/-- Run an external command that is a tool; a name that is none is not found. -/
def runTool (fds : Fds) (assigns : List (String × Bytes)) (name : Bytes) (args : List Bytes) :
    Sh Unit := do
  let st ← get
  let first := commandName (textOf name)
  let (peeled, args, env) := peelEnv (args.length + 1) first args (st.environment assigns)
  let cmd := (peeled.map commandName).getD "printenv"
  if cmd != "yes" && (toolNamed cmd).isSome then rememberProgram first
  if !(← runToolIn fds env first cmd args) then
    complain fds (name ++ bytesOf (if st.bash then ": command not found" else ": not found"))
    setStatus 127

/-- The programs that run commands of their own. -/
def launchers : List String := ["sh", "dash", "bash", "timeout", "xargs"]

/-- The version `bash` gives in `BASH_VERSION`. -/
def bashVersion : String := "5.2.15(1)-release"

/-- The number a count argument of `exit`, `shift`, `break` or `continue` gives. -/
def countArg (fds : Fds) (cmd : String) (arg : Bytes) : Sh Nat := do
  match natOfBytes arg with
  | some n => pure n
  | none =>
    complain fds (bytesOf (cmd ++ ": Illegal number: ") ++ arg)
    throw (.exit 2)

/-- `test` and `[`. -/
def runTest (fds : Fds) (name : String) (args : List Bytes) : Sh Unit := do
  let st ← get
  let fv : FileView := ⟨st.world.files.map fun f => (f.1, f.2.length)⟩
  let words? : Option (List Bytes) :=
    if name = "[" then
      if args.getLast? = some (bytesOf "]") then some args.dropLast else none
    else some args
  match words? with
  | none =>
    complain fds (bytesOf "[: missing ]")
    setStatus 2
  | some ws =>
    match decideTest fv ws with
    | .ok n => setStatus n
    | .error e =>
      complain fds (bytesOf (name ++ ": ") ++ rawOf e)
      setStatus 2

/-- `read`: assign a line of the input to names. -/
def runRead (fds : Fds) (args : List Bytes) : Sh Unit := do
  let raw := args.head? = some (bytesOf "-r")
  let names := (if raw then args.drop 1 else args).map textOf
  if names.isEmpty then
    complain fds (bytesOf "read: arg count")
    setStatus 2
    return
  let st ← get
  let (line, rest, ended) := readInputLine raw (st.input.length + 1) st.input []
  if !ended && st.inputCut then throw .needInput
  modify fun st => { st with input := rest }
  for (n, v) in readAssign st.ifs names line do
    if (← get).readonlyVars.contains n then
      complain fds (bytesOf ("read: " ++ n ++ ": is read only"))
      setStatus 2
      return
    setVar n v
  setStatus (if ended then 0 else 1)

/-- `kill`: send a signal (`TERM` unless `-s NAME`, `-NAME` or `-N` says otherwise) to
processes. Signalling the shell itself takes effect at once, unless a trap ignores the signal
or handles it: the handlers to run come back. Signalling a background job ends it now. -/
def runKill (fds : Fds) (args : List Bytes) : Sh (List Bytes) := do
  if args.head? = some (bytesOf "-l") then
    match args.drop 1 with
    | [] =>
      emit fds 1 (bytesOf (String.join (("0" :: signalListing).map (· ++ "\n"))))
      setStatus 0
    | a :: _ =>
      match natOfBytes a with
      | none =>
        complain fds (bytesOf "kill: Illegal number: " ++ a)
        setStatus 2
      | some n =>
        let n := if n > 128 then n - 128 else n
        match (if n = 0 then none else signalListing[n - 1]?) with
        | some name =>
          emit fds 1 (bytesOf (name ++ "\n"))
          setStatus 0
        | none =>
          complain fds (bytesOf "kill: invalid signal number or exit status: " ++ a)
          setStatus 2
    return []
  let (sig?, pids) : Option (Option Nat) × List Bytes := match args with
    | s :: v :: rest =>
      if s = bytesOf "-s" || s = bytesOf "-n" then (some (signalNumber (textOf v)), rest)
      else if s.head? = some 0x2D && s != bytesOf "--" then (some (signalNumber (textOf (s.drop 1))), v :: rest)
      else if s = bytesOf "--" then (some (some 15), v :: rest)
      else (some (some 15), s :: v :: rest)
    | [s] =>
      if s.head? = some 0x2D && s != bytesOf "--" then (some (signalNumber (textOf (s.drop 1))), [])
      else (some (some 15), [s])
    | [] => (some (some 15), [])
  match sig? with
  | none | some none =>
    let bad := (args.find? fun a => a.head? = some 0x2D).getD []
    complain fds (bytesOf "kill: invalid signal number or name: " ++ bad.drop 1)
    setStatus 2
    pure []
  | some (some sig) =>
    if pids.isEmpty then
      complain fds (bytesOf "kill: usage: kill [-s sigspec | -signum | -sigspec] [pid | job]... or")
      setStatus 2
      return []
    setStatus 0
    let mut handlers : List Bytes := []
    for p in pids do
      match natOfBytes p with
      | none =>
        complain fds (bytesOf "kill: Illegal number: " ++ p)
        setStatus 2
      | some pid =>
        if pid = shellPid then
          let traps := (← get).traps
          let trap : Option Bytes := if sig = 9 || sig = 19 then none else traps.lookup sig
          match trap with
          | some action => if !action.isEmpty then handlers := handlers ++ [action]
          | none =>
            match signalAction sig with
            | .ignore => pure ()
            | .stop => throw .endless
            | .terminate => throw (.signal sig)
        else
          let w := (← get).world
          if w.jobs.any (·.pid == pid) then
            if signalAction sig = .terminate then
              let jobs := w.jobs.map fun j =>
                if j.pid = pid then { j with ends := some (min w.clock ((j.ends).getD w.clock)) } else j
              modify fun st => { st with world := { st.world with jobs } }
          else
            complain fds (bytesOf "kill: No such process")
            setStatus 1
    pure handlers

/-- `export` and `readonly`. -/
def runExport (fds : Fds) (export_ : Bool) (args : List Bytes) : Sh Unit := do
  let mark (name : String) : Sh Unit :=
    if export_ then modify fun st => { st with exported := st.exported ++ [name] }
    else modify fun st =>
      { st with readonlyVars := if st.readonlyVars.contains name then st.readonlyVars
                                else st.readonlyVars ++ [name] }
  for a in args do
    let t := textOf a
    match t.splitOn "=" with
    | name :: _ :: _ =>
      assignVar fds (some (if export_ then "export" else "readonly")) name (a.drop (name.length + 1))
      mark name
    | _ => mark t
  setStatus 0

/-- Turn on (or off) the option a letter of `set` names; `none` for a letter that names none. -/
def ShellState.setOption (st : ShellState) (on : Bool) (c : Char) : Option ShellState :=
  match c with
  | 'e' => some { st with errexit := on }
  | 'u' => some { st with nounset := on }
  | 'f' => some { st with noglob := on }
  | 'a' | 'b' | 'C' | 'h' | 'm' | 'n' | 'v' | 'x' => some st
  | _ => none

/-- Turn on (or off) the option a name of `set -o` names. -/
def ShellState.setNamedOption (st : ShellState) (on : Bool) (name : String) : Option ShellState :=
  match name with
  | "errexit" => some { st with errexit := on }
  | "nounset" => some { st with nounset := on }
  | "noglob" => some { st with noglob := on }
  | "allexport" | "notify" | "noclobber" | "monitor" | "noexec" | "verbose"
  | "xtrace" | "ignoreeof" | "nolog" | "vi" | "emacs" => some st
  | _ => none

/-- Apply the option letters of one argument of `set`: the new state, or the first letter
that names no option. -/
def ShellState.setLetters (st : ShellState) (on : Bool) : List Char → Except Char ShellState
  | [] => .ok st
  | c :: cs =>
    match st.setOption on c with
    | some st' => st'.setLetters on cs
    | none => .error c

/-- `set`: options (`-e`, `+e`, `-o errexit`, …), then new positional parameters if any
follow. A letter or name that is no option ends the shell. -/
def runSet (fds : Fds) : Nat → List Bytes → Sh Unit
  | 0, _ => setStatus 0
  | _, [] => setStatus 0
  | fuel + 1, a :: rest => do
    let t := textOf a
    let sign := if t.startsWith "-" then "-" else "+"
    if t = "--" then
      modify fun st => { st with params := rest, optIndex := 1, optOffset := none }
      setStatus 0
    else if (t.startsWith "-" || t.startsWith "+") && t.length > 1 then
      let on := t.startsWith "-"
      if (t.drop 1).toString == "o" then
        match rest with
        | n :: rest' =>
          match (← get).setNamedOption on (textOf n) with
          | some st =>
            set st
            runSet fds fuel rest'
          | none =>
            complain fds (bytesOf ("set: Illegal option " ++ sign ++ "o ") ++ n)
            throw (.exit 2)
        | [] => setStatus 0
      else
        match (← get).setLetters on (t.drop 1).toString.toList with
        | .ok st =>
          set st
          runSet fds fuel rest
        | .error c =>
          complain fds (rawOf ("set: Illegal option " ++ sign ++ String.singleton c))
          throw (.exit 2)
    else
      modify fun st => { st with params := a :: rest, optIndex := 1, optOffset := none }
      setStatus 0

/-- The signal a `trap` operand names: a number, `EXIT` (signal `0`), or a signal's name. -/
def trapSignal (s : String) : Option Nat :=
  if s.toUpper = "EXIT" then some 0 else signalNumber s

/-- Set (or, with `none`, reset) the trap of a signal, keeping the traps in the order of
their signals. -/
def setTrap (traps : List (Nat × Bytes)) (n : Nat) (action : Option Bytes) : List (Nat × Bytes) :=
  let others := traps.filter (·.1 != n)
  match action with
  | none => others
  | some a => others.filter (·.1 < n) ++ [(n, a)] ++ others.filter (·.1 > n)

/-- Quote a text for the shell: in single quotes, with each run of single quotes in double
quotes between them. -/
def singleQuoted : Nat → Bytes → Bytes
  | 0, _ => []
  | fuel + 1, s =>
    let plain := s.takeWhile (· != 0x27)
    let rest := s.drop plain.length
    let head := [0x27] ++ plain ++ [0x27]
    match rest with
    | [] => head
    | _ =>
      let quotes := rest.takeWhile (· = 0x27)
      let after := rest.drop quotes.length
      head ++ [0x22] ++ quotes ++ [0x22] ++ (if after.isEmpty then [] else singleQuoted fuel after)

/-- `trap`: without operands, list the traps; with one operand, or when the first names a
signal, reset the signals named; otherwise set the first operand (`-` resets, the empty
command ignores) as the command for the signals named after it. -/
def runTrap (fds : Fds) (args : List Bytes) : Sh Unit := do
  let args := if args.head? = some (bytesOf "--") then args.drop 1 else args
  match args with
  | [] =>
    for (n, action) in (← get).traps do
      let name := if n = 0 then "EXIT" else (signalName n).getD (toString n)
      emit fds 1 (bytesOf "trap -- " ++ singleQuoted (action.length + 1) action ++
        bytesOf (" " ++ name) ++ [0x0A])
    setStatus 0
  | first :: more =>
    let resets := more.isEmpty || (trapSignal (textOf first)).isSome
    let action : Option Bytes := if resets || first = bytesOf "-" then none else some first
    setStatus 0
    for s in (if resets then args else more) do
      match trapSignal (textOf s) with
      | none =>
        emit fds 2 (bytesOf "trap: " ++ s ++ bytesOf ": bad trap\n")
        setStatus 1
        return
      | some n => modify fun st => { st with traps := setTrap st.traps n action }

/-- The reserved words of the shell. -/
def shellKeywords : List String :=
  ["!", "\x7b", "\x7d", "case", "do", "done", "elif", "else", "esac", "fi", "for", "if", "in", "then",
   "until", "while"]

/-- The regular built-in commands. -/
def regularBuiltins : List String :=
  ["[", "alias", "bg", "cd", "command", "echo", "false", "fc", "fg", "getopts", "hash", "jobs",
   "kill", "local", "printf", "pwd", "read", "test", "true", "type", "ulimit", "umask", "unalias",
   "wait"]

/-- What a name runs, as `command -v` (brief) or `command -V` and `type` (verbose) say it:
the text, or `none` when nothing is found. -/
def ShellState.describe (st : ShellState) (verbose : Bool) (name : String) : Option Bytes :=
  let say (brief long : String) : Option Bytes := some (bytesOf (if verbose then name ++ long else brief))
  if shellKeywords.contains name then say name " is a shell keyword"
  else
    match st.aliases.lookup name with
    | some v =>
      if verbose then some (bytesOf (name ++ " is an alias for ") ++ v)
      else some (bytesOf ("alias " ++ name ++ "=") ++ singleQuoted (v.length + 1) v)
    | none =>
      if st.funcs.any (·.1 == name) then say name " is a shell function"
      else if specialBuiltins.contains name then say name " is a special shell builtin"
      else if regularBuiltins.contains name then say name " is a shell builtin"
      else if name.contains '/' then
        match HostNode.lookup name with
        | some (.file true) => say name (" is " ++ name)
        | _ => none
      else
        match st.findProgram name with
        | some p =>
          if st.hashed.any (·.1 == name) then say p (" is a tracked alias for " ++ p)
          else say p (" is " ++ p)
        | none => none

/-- `command -v`, `command -V` and `type`: describe names; a name not found gives status
127, with `: not found` in the verbose form. -/
def runDescribe (fds : Fds) (verbose : Bool) (names : List Bytes) : Sh Unit := do
  let st ← get
  let mut status := 0
  for n in names do
    match st.describe verbose (textOf n) with
    | some text =>
      emit fds 1 (text ++ [0x0A])
      let name := textOf n
      if !name.contains '/' then
        match (← get).findProgram name with
        | some p =>
          if !(shellKeywords.contains name || specialBuiltins.contains name ||
              regularBuiltins.contains name || (← get).funcs.any (·.1 == name) ||
              (← get).aliases.any (·.1 == name) || (← get).hashed.any (·.1 == name)) then
            modify fun st => st.remember name p
        | none => pure ()
    | none =>
      if verbose then emit fds 1 (n ++ bytesOf ": not found\n")
      status := 127
  setStatus status

/-- `alias`: list the aliases, show those named, or define `name=value`. -/
def runAlias (fds : Fds) (args : List Bytes) : Sh Unit := do
  let entry (name : String) (v : Bytes) : Bytes := bytesOf (name ++ "=") ++ singleQuoted (v.length + 1) v ++ [0x0A]
  if args.isEmpty then
    for (n, v) in (← get).aliases do
      emit fds 1 (entry n v)
    setStatus 0
    return
  let mut status := 0
  for a in args do
    match (a.drop 1).findIdx? (· = 0x3D) with
    | some i =>
      let name := textOf (a.take (i + 1))
      let value := a.drop (i + 2)
      modify fun st => { st with aliases := (st.aliases.filter (·.1 != name)) ++ [(name, value)] }
    | none =>
      match (← get).aliases.lookup (textOf a) with
      | some v => emit fds 1 (entry (textOf a) v)
      | none =>
        emit fds 2 (bytesOf "alias: " ++ a ++ bytesOf " not found\n")
        status := 1
  setStatus status

/-- `unalias`: remove the aliases named, or all with `-a`. -/
def runUnalias (fds : Fds) (args : List Bytes) : Sh Unit := do
  if args.head? = some (bytesOf "-a") then
    modify fun st => { st with aliases := [] }
    setStatus 0
    return
  let mut status := 0
  for a in args do
    if (← get).aliases.any (·.1 == textOf a) then
      modify fun st => { st with aliases := st.aliases.filter (·.1 != textOf a) }
    else
      emit fds 2 (bytesOf "unalias: " ++ a ++ bytesOf " not found\n")
      status := 1
  setStatus status

/-- Where an option letter stands among the letters `getopts` allows: `none` when it is not
there, else whether it takes an argument (a `:` follows it). -/
def optionTakesArg : Nat → Bytes → UInt8 → Option Bool
  | 0, _, _ => none
  | _, [], _ => none
  | fuel + 1, q :: rest, c =>
    if q = c then some (rest.head? = some 0x3A)
    else
      match rest with
      | 0x3A :: rest' => optionTakesArg fuel rest' c
      | _ => optionTakesArg fuel rest c

/-- `getopts SPEC NAME [ARG...]`: read the next option of the arguments given, or else of the
positional parameters, into `NAME`, and its argument into `OPTARG`; `OPTIND` tells the place of
the next argument. Letters grouped in one word are read one call at a time. The status is 1
once the options are done (at an operand, at `-` or after `--`). An unknown letter or a
missing argument gives `?` with a message, or, when `SPEC` starts with `:`, quietly `?` or `:`
with the letter in `OPTARG`. -/
def runGetopts (fds : Fds) (args : List Bytes) : Sh Unit := do
  match args with
  | spec :: var :: given =>
    let st ← get
    let words := if given.isEmpty then st.params else given
    let (ind, off) :=
      if st.optIndex > words.length + 1 then (1, none) else (st.optIndex, st.optOffset)
    let quiet := spec.head? = some 0x3A
    -- the word being read and the place in it, if one is not done
    let current : Option (Bytes × Nat) :=
      match off with
      | some o =>
        match words[ind - 2]? with
        | some w => if ind ≥ 2 && o < w.length then some (w, o) else none
        | none => none
      | none => none
    let finish (next : Nat) (letter : UInt8) (place : Option Nat) (done : Bool) : Sh Unit := do
      setVar "OPTIND" (decimalBytes (next + 1))
      setVar (textOf var) [letter]
      modify fun st => { st with optIndex := next + 1, optOffset := place }
      setStatus (if done then 1 else 0)
    let start : Option (Bytes × Nat × Nat) :=
      match current with
      | some (w, o) => some (w, o, ind - 1)
      | none =>
        match words[ind - 1]? with
        | some w =>
          if w.head? != some 0x2D || w.length < 2 || w = bytesOf "--" then none
          else some (w, 1, ind)
        | none => none
    match start with
    | none =>
      let next := if words[ind - 1]? = some (bytesOf "--") then ind else ind - 1
      finish next 0x3F none true
    | some (w, o, next) =>
      let c := w.getD o 0
      let after := o + 1
      match optionTakesArg (spec.length + 1) spec c with
      | none =>
        if quiet then setVar "OPTARG" [c]
        else
          emit fds 2 (bytesOf "Illegal option -" ++ [c, 0x0A])
          modify fun st => { st with vars := st.vars.filter (·.1 != "OPTARG") }
        finish next 0x3F (if after < w.length then some after else none) false
      | some false =>
        setVar "OPTARG" []
        finish next c (if after < w.length then some after else none) false
      | some true =>
        if after < w.length then
          setVar "OPTARG" (w.drop after)
          finish next c none false
        else
          match words[next]? with
          | some a =>
            setVar "OPTARG" a
            finish (next + 1) c none false
          | none =>
            if quiet then
              setVar "OPTARG" [c]
              finish next 0x3A none false
            else
              emit fds 2 (bytesOf "No arg for -" ++ [c] ++ bytesOf " option\n")
              modify fun st => { st with vars := st.vars.filter (·.1 != "OPTARG") }
              finish next 0x3F none false
  | _ =>
    complain fds (bytesOf "getopts: Usage: getopts optstring var [arg]")
    setStatus 2

/-- The permission letters `rwx` of three bits. -/
def permissionLetters (bits : Nat) : String :=
  (if bits &&& 4 != 0 then "r" else "") ++ (if bits &&& 2 != 0 then "w" else "") ++
    (if bits &&& 1 != 0 then "x" else "")

/-- The permissions of a symbolic mode (`u=rwx,g+w,o-x`, …) applied to `perms`, or `none`
when the mode is not one. -/
def applySymbolicMode (perms : Nat) (mode : Bytes) : Option Nat :=
  (mode.splitOn 0x2C).foldlM (fun perms clause => do
    let who := clause.takeWhile fun b => b = 0x75 || b = 0x67 || b = 0x6F || b = 0x61
    let whoMask := if who.isEmpty then 0o777 else who.foldl (fun m b =>
      m ||| (if b = 0x75 then 0o700 else if b = 0x67 then 0o070 else if b = 0x6F then 0o007 else 0o777)) 0
    let ops := clause.drop who.length
    if ops.isEmpty then failure
    -- each operator and the letters after it, in order
    let rec steps : Nat → Bytes → Option (List (UInt8 × Nat))
      | 0, _ => some []
      | _, [] => some []
      | fuel + 1, op :: rest =>
        if op != 0x2B && op != 0x2D && op != 0x3D then none
        else
          let letters := rest.takeWhile fun b => b = 0x72 || b = 0x77 || b = 0x78
          let bits := letters.foldl (fun m b =>
            m ||| (if b = 0x72 then 0o444 else if b = 0x77 then 0o222 else 0o111)) 0
          (steps fuel (rest.drop letters.length)).map ((op, bits &&& whoMask) :: ·)
    let ss ← steps (ops.length + 1) ops
    pure (ss.foldl (fun p (op, bits) =>
      if op = 0x2B then p ||| bits
      else if op = 0x2D then p &&& (0o777 - bits)
      else (p &&& (0o777 - whoMask)) ||| bits) perms)) perms

/-- `umask`: show the file mode creation mask, in octal or (`-S`) as the permissions it
leaves, or set it from octal digits or a symbolic mode. -/
def runUmask (fds : Fds) (args : List Bytes) : Sh Unit := do
  let symbolic := args.head? = some (bytesOf "-S")
  let args := if symbolic then args.drop 1 else args
  match args with
  | [] =>
    let mask := (← get).umask
    if symbolic then
      let perms := 0o777 - mask % 0o1000
      emit fds 1 (bytesOf ("u=" ++ permissionLetters (perms / 64) ++ ",g=" ++
        permissionLetters (perms / 8 % 8) ++ ",o=" ++ permissionLetters (perms % 8) ++ "\n"))
    else
      let digits := Nat.toDigits 8 mask
      emit fds 1 (bytesOf (String.ofList (List.replicate (4 - digits.length) '0' ++ digits) ++ "\n"))
    setStatus 0
  | a :: _ =>
    if a.head?.any fun b => 0x30 ≤ b && b ≤ 0x39 then
      if a.all fun b => 0x30 ≤ b && b ≤ 0x37 then
        let mask := a.foldl (fun m b => m * 8 + (b - 0x30).toNat) 0
        modify fun st => { st with umask := mask % 0o10000 }
        setStatus 0
      else
        complain fds (bytesOf "umask: Illegal number: " ++ a)
        setStatus 2
    else
      let mask := (← get).umask
      match applySymbolicMode (0o777 - mask % 0o1000) a with
      | some perms =>
        modify fun st => { st with umask := 0o777 - perms }
        setStatus 0
      | none =>
        complain fds (bytesOf "umask: Illegal mode: " ++ a)
        setStatus 2

/-- The bucket of a name in the shell's table of programs, which orders what `hash` lists. -/
def hashBucket (name : String) : Nat :=
  let bs := bytesOf name
  ((bs.headD 0).toNat * 16 + (bs.map UInt8.toNat).foldr (· + ·) 0) % 32768 % 31

/-- `hash`: list the programs remembered, bucket by bucket; forget them all (`-r`); or look
the names given up again, each one not found giving a message and status 1. -/
def runHash (fds : Fds) (args : List Bytes) : Sh Unit := do
  match args with
  | [] =>
    let entries := (← get).hashed.mergeSort fun a b => hashBucket a.1 ≤ hashBucket b.1
    for (_, path) in entries do
      emit fds 1 (bytesOf (path ++ "\n"))
    setStatus 0
  | a :: rest =>
    if a = bytesOf "-r" then
      modify fun st => { st with hashed := [] }
      setStatus 0
      return
    let mut status := 0
    for n in a :: rest do
      let name := textOf n
      match (← get).findProgram name with
      | some p => modify fun st => st.remember name p
      | none =>
        if !(shellKeywords.contains name || specialBuiltins.contains name ||
            regularBuiltins.contains name || (← get).funcs.any (·.1 == name)) then
          complain fds (bytesOf ("hash: " ++ name ++ ": not found"))
          status := 1
    setStatus status

/-- `local`: make variables local to the running function, each keeping its value unless
`name=value` gives a new one. -/
def runLocal (fds : Fds) (args : List Bytes) : Sh Unit := do
  if (← get).locals.isEmpty then
    complain fds (bytesOf "local: not in a function")
    setStatus 2
    return
  for a in args do
    let t := textOf a
    let name := (t.splitOn "=").headD t
    let st ← get
    match st.locals with
    | frame :: frames =>
      if !frame.any (·.1 == name) then
        set { st with locals := (frame ++ [(name, st.vars.lookup name)]) :: frames }
    | [] => pure ()
    if name.length < t.length then setVar name (a.drop (name.length + 1))
  setStatus 0

/-! ## Running -/

mutual

/-- Expand a word into pieces. -/
def expandWord : Nat → Fds → Word → Sh (List Piece)
  | 0, _, _ => pure []
  | fuel + 1, fds, w =>
    match w with
    | .text s false :: rest =>
      if s = "~" || s.startsWith "~/" then do
        let home := ((← get).vars.lookup "HOME").getD (bytesOf "~")
        let tail := (s.drop 1).toString
        expandParts fuel fds (.text tail false :: rest) >>= fun ps => pure (.quoted home :: ps)
      else expandParts fuel fds w
    | _ => expandParts fuel fds w

/-- Expand parts one after another. -/
def expandParts : Nat → Fds → List Part → Sh (List Piece)
  | 0, _, _ => pure []
  | _, _, [] => pure []
  | fuel + 1, fds, p :: ps => do
    let a ← expandPart fuel fds p
    let b ← expandParts fuel fds ps
    pure (a ++ b)

/-- Expand one part. -/
def expandPart : Nat → Fds → Part → Sh (List Piece)
  | 0, _, _ => pure []
  | fuel + 1, fds, p =>
    match p with
    | .text s q => pure [if q then .quoted (bytesOf s) else .lit (bytesOf s)]
    | .param name op q => expandParam fuel fds name op q
    | .subst script q => do
      let bs ← substitute fuel fds script
      pure [if q then .quoted bs else .loose bs]
    | .arith text q => do
      let v ← arithmetic fuel fds text
      pure [if q then .quoted v else .loose v]

/-- Expand the word of a parameter operation. -/
def expandOpWord : Nat → Fds → String → Bool → Sh (List Piece)
  | 0, _, _, _ => pure []
  | fuel + 1, fds, text, q =>
    match readWordText text q with
    | .error e => do
      complain fds (bytesOf e.message)
      throw (.exit 2)
    | .ok w => do
      let ps ← expandWord fuel fds w
      pure (ps.map fun p => match p with
        | .lit bs => if q then .quoted bs else .loose bs
        | p => p)

/-- Expand a parameter. -/
def expandParam : Nat → Fds → String → ParamOp → Bool → Sh (List Piece)
  | 0, _, _, _, _ => pure []
  | fuel + 1, fds, name, op, q => do
    if op = .invalid then
      complain fds (bytesOf "Bad substitution")
      throw (.exit 2)
    let st ← get
    let wrap (bs : Bytes) : Piece := if q then .quoted bs else .loose bs
    let value := st.param name
    let missing (colon : Bool) : Bool := value.isNone || (colon && value = some [])
    let unsetError : Bool := st.nounset && value.isNone && name != "@" && name != "*"
    let needsValue : Bool := match op with
      | .plain | .length | .dropSuffix _ _ | .dropPrefix _ _ => true
      | _ => false
    if unsetError && needsValue then
      complain fds (bytesOf (name ++ ": parameter not set"))
      throw (.exit 2)
    match op with
    | .plain =>
      if name = "@" || (name = "*" && !q) then
        let each := st.params.map fun p => if q then Piece.quoted p else Piece.loose p
        pure (each.intersperse .cut)
      else pure [wrap (value.getD [])]
    | .length =>
      let separators := match st.vars.lookup "IFS" with
        | some [] => 0
        | _ => st.params.length - 1
      let n := if name = "@" || name = "*" then (st.params.map List.length).foldl (· + ·) separators
        else (value.getD []).length
      pure [wrap (decimalBytes n)]
    | .orDefault colon w =>
      if missing colon then expandOpWord fuel fds w q else pure [wrap (value.getD [])]
    | .orAssign colon w =>
      if missing colon then do
        let v := piecesBytes (← expandOpWord fuel fds w true)
        assignVar fds none name v
        pure [wrap v]
      else pure [wrap (value.getD [])]
    | .ifSet colon w =>
      if missing colon then pure [] else expandOpWord fuel fds w q
    | .orFail colon w =>
      if missing colon then do
        let msg ← if w.isEmpty then
            pure (bytesOf (if colon then "parameter not set or null" else "parameter not set"))
          else pure (piecesBytes (← expandOpWord fuel fds w true))
        complain fds (bytesOf (name ++ ": ") ++ msg)
        throw (.exit 2)
      else pure [wrap (value.getD [])]
    | .dropSuffix longest w => do
      let pat := piecesPattern (← expandOpWord fuel fds w false)
      pure [wrap (dropMatchingSuffix pat longest (value.getD []))]
    | .dropPrefix longest w => do
      let pat := piecesPattern (← expandOpWord fuel fds w false)
      pure [wrap (dropMatchingPrefix pat longest (value.getD []))]
    | .invalid => pure []

/-- Run a command substitution: what it wrote, without trailing line feeds. -/
def substitute : Nat → Fds → String → Sh Bytes
  | 0, _, _ => pure []
  | fuel + 1, fds, script => do
    let level ← openPipe false
    let line := (← get).line
    let inner := fds.put 1 (.pipe level)
    let status ← isolate (do
        modify fun st => { st with tested := false }
        runScript fuel inner script line) (runExitTrap fuel inner)
    let captured := (← closePipe level).data
    modify fun st => { st with substStatus := some status }
    pure (dropTrailingNewlines captured)

/-- Evaluate an arithmetic expansion. -/
def arithmetic : Nat → Fds → String → Sh Bytes
  | 0, _, _ => pure []
  | fuel + 1, fds, text =>
    match readWordText text true with
    | .error e => do
      complain fds (bytesOf e.message)
      throw (.exit 2)
    | .ok w => do
      let expr := textOf (piecesBytes (← expandWord fuel fds w))
      let st ← get
      match evalArithWith st.bash (fun n => (st.param n).map textOf) expr with
      | .ok (v, assigned) => do
        for (n, x) in assigned.reverse do
          assignVar fds none n (bytesOf (toString x))
        pure (bytesOf (toString v))
      | .error msg => do
        complain fds (rawOf msg)
        throw (.exit 2)

/-- Expand words into fields, and fields that are patterns into the paths they match. -/
def expandFields : Nat → Fds → List Word → Sh (List Bytes)
  | 0, _, _ => pure []
  | _, _, [] => pure []
  | fuel + 1, fds, w :: ws => do
    let ps ← expandWord fuel fds w
    let st ← get
    let fields := (splitPatternFields st.ifs ps).flatMap fun f =>
      let plain := f.map Prod.fst
      if st.noglob || !hasMeta f then [plain]
      else
        match expandPathname (st.world.files.map Prod.fst) f with
        | [] => [plain]
        | paths => paths.map rawOf
    let rest ← expandFields fuel fds ws
    pure (fields ++ rest)

/-- Expand assignments, without splitting. -/
def expandAssigns : Nat → Fds → List (String × Word) → Sh (List (String × Bytes))
  | 0, _, _ => pure []
  | _, _, [] => pure []
  | fuel + 1, fds, (n, w) :: rest => do
    let v := piecesBytes (← expandWord fuel fds w)
    let more ← expandAssigns fuel fds rest
    pure ((n, v) :: more)

/-- Perform redirections: the new descriptors, or `none` after a message when one fails. -/
def redirect : Nat → Fds → List Redirect → Sh (Option Fds)
  | 0, fds, _ => pure (some fds)
  | _, fds, [] => pure (some fds)
  | fuel + 1, fds, r :: rs => do
    match r with
    | .write fd target append =>
      let name := textOf (piecesBytes (← expandWord fuel fds target))
      let sink : Sink :=
        if name = "/dev/null" then .null
        else if name = "/dev/stdout" then fds.sinkOf 1
        else if name = "/dev/stderr" then fds.sinkOf 2
        else .file name
      match sink with
      | .file n =>
        modify fun st =>
          let w := st.world
          let data := if append then (w.files.lookup n).getD [] else []
          { st with world := { w with files := putFile w.files n data } }
      | _ => pure ()
      redirect fuel (fds.put fd sink) rs
    | .read fd target =>
      let raw := piecesBytes (← expandWord fuel fds target)
      let name := textOf raw
      let files := (← get).world.files
      let content? : Option Bytes := if name = "/dev/null" then some [] else files.lookup name
      match content? with
      | none =>
        complain fds (bytesOf "cannot open " ++ raw ++ bytesOf ": No such file")
        setStatus 2
        pure none
      | some content =>
        if fd = 0 then modify fun st => { st with input := content, inputCut := false }
        redirect fuel fds rs
    | .here fd body =>
      let content := piecesBytes (← expandWord fuel fds body)
      if fd = 0 then modify fun st => { st with input := content, inputCut := false }
      redirect fuel fds rs
    | .dup fd target =>
      let raw := piecesBytes (← expandWord fuel fds target)
      if raw = bytesOf "-" then
        if fd = 0 then modify fun st => { st with input := [], inputCut := false }
        redirect fuel (fds.put fd .closed) rs
      else
        match natOfBytes raw with
        | some n =>
          if fd = 0 then redirect fuel fds rs
          else
            match fds.lookup n with
            | some s => redirect fuel (fds.put fd s) rs
            | none =>
              complain fds (raw ++ bytesOf ": Bad file descriptor")
              setStatus 2
              pure none
        | none =>
          complain fds (bytesOf "Syntax error: Bad fd number")
          throw (.exit 2)

/-- Run a command. -/
def exec : Nat → Fds → Cmd → Sh Unit
  | 0, _, _ => throw .endless
  | fuel + 1, fds, c => do
    tick
    let fds := fds.withOverrides (← get).fdOverrides
    match c with
    | .skip => setStatus 0
    | .simple assigns words rs line => do
      modify fun st => { st with line }
      runSimple fuel fds assigns words rs
      checkErrexit
    | .pipeline negated stages => do
      let run : Sh Unit := match stages with
        | [one] => exec fuel fds one
        | _ => do
          let st ← get
          keepInput (runStages fuel fds stages st.input st.inputCut st.world.clock st.world.clock)
      if negated then
        withTested run
        setStatus (if (← get).status = 0 then 1 else 0)
      else
        run
        checkErrexit
    | .andThen a b => do
      withTested (exec fuel fds a)
      if (← get).status = 0 then exec fuel fds b
    | .orElse a b => do
      withTested (exec fuel fds a)
      if (← get).status != 0 then exec fuel fds b
    | .seq a b => do
      exec fuel fds a
      exec fuel fds b
    | .background a => runBackground fuel fds a
    | .group body rs => withInput rs do
      match ← redirect fuel fds rs with
      | none => pure ()
      | some fds => exec fuel fds body
    | .subshell body rs => withInput rs do
      match ← redirect fuel fds rs with
      | none => pure ()
      | some fds =>
        let _ ← isolate (exec fuel fds body) (runExitTrap fuel fds)
        checkErrexit
    | .ifThen cond thenPart elsePart rs => withInput rs do
      match ← redirect fuel fds rs with
      | none => pure ()
      | some fds => do
        withTested (exec fuel fds cond)
        if (← get).status = 0 then exec fuel fds thenPart else exec fuel fds elsePart
    | .forIn var items body rs => withInput rs do
      match ← redirect fuel fds rs with
      | none => pure ()
      | some fds => do
        let values ← match items with
          | none => pure (← get).params
          | some ws => expandFields fuel fds ws
        setStatus 0
        modify fun st => { st with loops := st.loops + 1 }
        runFor fuel fds var values body
        modify fun st => { st with loops := st.loops - 1 }
    | .loop negated cond body rs => withInput rs do
      match ← redirect fuel fds rs with
      | none => pure ()
      | some fds => do
        modify fun st => { st with loops := st.loops + 1 }
        runLoop fuel fds negated cond body 0
        modify fun st => { st with loops := st.loops - 1 }
    | .caseOf subject arms rs => withInput rs do
      match ← redirect fuel fds rs with
      | none => pure ()
      | some fds => do
        let s := piecesBytes (← expandWord fuel fds subject)
        runCase fuel fds s arms
    | .funcDef name body line => do
      modify fun st =>
        let others := st.funcs.filter (·.1 != name)
        { st with funcs := others ++ [(name, body, line)] }
      setStatus 0

/-- Run the stages of a pipeline, each from the same start, feeding each one's output to the
next: the clock ends at the latest stage's end. A stage's output is cut when it did not fit
its pipe, or when the stage waited for more input than it got; the next stage then reads it as
input after which more would come. -/
def runStages : Nat → Fds → List Cmd → Bytes → Bool → Nat → Nat → Sh Unit
  | 0, _, _, _, _, _, _ => throw .endless
  | _, _, [], _, _, _, latest => setClock latest
  | fuel + 1, fds, [last], stdin, cut, start, latest => do
    modify fun st => { st with input := stdin, inputCut := cut }
    setClock start
    let status ← isolate (exec fuel fds last) (runExitTrap fuel fds)
    setClock (max latest (← get).world.clock)
    setStatus status
  | fuel + 1, fds, c :: rest, stdin, cut, start, latest => do
    let level ← openPipe true
    modify fun st => { st with input := stdin, inputCut := cut }
    setClock start
    let inner := fds.put 1 (.pipe level)
    let waited ← tryCatch (do
        let _ ← isolate (exec fuel inner c) (runExitTrap fuel inner)
        pure false) fun e => if e = .needInput then pure true else throw e
    let out ← closePipe level
    runStages fuel fds rest out.data (out.cut || waited) start (max latest (← get).world.clock)

/-- Run a background job. -/
def runBackground : Nat → Fds → Cmd → Sh Unit
  | 0, _, _ => throw .endless
  | fuel + 1, fds, a => do
    let start := (← get).world.clock
    let own := redirectedSinks fds a.ownRedirects
    let holds := [own.sinkOf 1, own.sinkOf 2].any fun s => s = .out || s = .err
    let saved := (← get).input
    modify fun st => { st with input := [] }
    let never ← tryCatch (do
        let _ ← isolate (exec fuel fds a) (runExitTrap fuel fds)
        pure false) fun e => if e = .endless then pure true else throw e
    modify fun st => { st with input := saved }
    let finish := (← get).world.clock
    modify fun st =>
      let w := st.world
      let job : Job := { pid := shellPid + w.jobs.length + 1, ends := if never then none else some finish, holds }
      { st with world := { w with clock := start, jobs := w.jobs ++ [job] } }
    setStatus 0

/-- Run the body of a `for` loop for each value. -/
def runFor : Nat → Fds → String → List Bytes → Cmd → Sh Unit
  | 0, _, _, _, _ => throw .endless
  | _, _, _, [], _ => pure ()
  | fuel + 1, fds, var, v :: vs, body => do
    tick
    assignVar fds none var v
    let r ← tryCatch (do
        exec fuel fds body
        pure 0) fun e =>
      match e with
      | .breakLoop 1 => pure 1
      | .breakLoop (n + 2) => throw (.breakLoop (n + 1))
      | .continueLoop 1 => pure 0
      | .continueLoop (n + 2) => throw (.continueLoop (n + 1))
      | e => throw e
    if r = 0 then runFor fuel fds var vs body

/-- Run a `while` (or, `negated`, an `until`) loop; `last` is the status of the body's last
run. -/
def runLoop : Nat → Fds → Bool → Cmd → Cmd → Nat → Sh Unit
  | 0, _, _, _, _, _ => throw .endless
  | fuel + 1, fds, negated, cond, body, last => do
    tick
    withTested (exec fuel fds cond)
    let ok := ((← get).status = 0) != negated
    if !ok then
      setStatus last
      return
    let r ← tryCatch (do
        exec fuel fds body
        pure 0) fun e =>
      match e with
      | .breakLoop 1 => pure 1
      | .breakLoop (n + 2) => throw (.breakLoop (n + 1))
      | .continueLoop 1 => pure 0
      | .continueLoop (n + 2) => throw (.continueLoop (n + 1))
      | e => throw e
    if r = 0 then runLoop fuel fds negated cond body (← get).status

/-- Run the first arm of a `case` with a pattern matching the subject. -/
def runCase : Nat → Fds → Bytes → List (List Word × Cmd) → Sh Unit
  | 0, _, _, _ => throw .endless
  | _, _, _, [] => setStatus 0
  | fuel + 1, fds, s, (pats, body) :: arms => do
    if ← anyPatternMatches fuel fds s pats then exec fuel fds body
    else runCase fuel fds s arms

/-- Whether one of the patterns matches the subject, expanding them in order. -/
def anyPatternMatches : Nat → Fds → Bytes → List Word → Sh Bool
  | 0, _, _, _ => pure false
  | _, _, _, [] => pure false
  | fuel + 1, fds, s, p :: ps => do
    let pat := piecesPattern (← expandWord fuel fds p)
    if globMatches pat s then pure true else anyPatternMatches fuel fds s ps

/-- Run a simple command. -/
def runSimple : Nat → Fds → List (String × Word) → List Word → List Redirect → Sh Unit
  | 0, _, _, _, _ => throw .endless
  | fuel + 1, fds, assigns, words, rs => do
    modify fun st => { st with substStatus := none }
    let fields ← expandFields fuel fds words
    let values ← expandAssigns fuel fds assigns
    match fields with
    | [] => withInput rs do
      match ← redirect fuel fds rs with
      | none => pure ()
      | some fds' =>
        for (n, v) in values do
          assignVar fds' none n v
        setStatus ((← get).substStatus.getD 0)
    | name :: args =>
      if name = bytesOf "exec" && (args.isEmpty || args = [bytesOf "--"]) then
        match ← redirect fuel fds rs with
        | none => pure ()
        | some after =>
          let changed := (List.range 10).filter fun fd => after.sinkOf fd != fds.sinkOf fd
          modify fun st => { st with
            fdOverrides := st.fdOverrides ++ changed.map fun fd => (fd, fds.sinkOf fd, after.sinkOf fd) }
          setStatus 0
      else withInput rs do
        match ← redirect fuel fds rs with
        | none => pure ()
        | some fds => runCommand fuel fds values name args

/-- Run a command by name: a special built-in command, else a function, else any other
command. -/
def runCommand : Nat → Fds → List (String × Bytes) → Bytes → List Bytes → Sh Unit
  | 0, _, _, _, _ => throw .endless
  | fuel + 1, fds, assigns, nameBytes, args => do
    let name := textOf nameBytes
    if specialBuiltins.contains name then runBuiltin fuel fds assigns nameBytes args
    else
      match (← get).funcs.find? (·.1 == name) with
      | some (_, body, line) => callFunction fuel fds assigns body line args
      | none => runBuiltin fuel fds assigns nameBytes args

/-- Call a function: the arguments become the positional parameters, and the assignments
written before the call hold (exported) while it runs. Loops around the call do not reach
into it, and `return` ends it. -/
def callFunction : Nat → Fds → List (String × Bytes) → Cmd → Nat → List Bytes → Sh Unit
  | 0, _, _, _, _, _ => throw .endless
  | fuel + 1, fds, assigns, body, defLine, args => do
    let saved ← get
    let frame := assigns.map fun (n, _) => (n, saved.vars.lookup n)
    let added := (assigns.map Prod.fst).filter fun n => !saved.exported.contains n
    for (n, v) in assigns do
      assignVar fds none n v
    modify fun st => { st with params := args, loops := 0, funcLine := defLine,
                               locals := frame :: st.locals, exported := st.exported ++ added,
                               optIndex := 1, optOffset := none }
    let r ← tryCatch (do exec fuel fds body; pure none) fun e =>
      match e with
      | .returnFn n => pure (some n)
      | e => throw e
    let hidden := ((← get).locals.head?).getD []
    modify fun st => { st with params := saved.params, loops := saved.loops,
                               funcLine := saved.funcLine, locals := st.locals.drop 1,
                               exported := st.exported.filter fun n => !added.contains n,
                               optIndex := saved.optIndex, optOffset := saved.optOffset }
    for (n, old) in hidden.reverse do
      match old with
      | some v => setVar n v
      | none => modify fun st => { st with vars := st.vars.filter (·.1 != n) }
    match r with
    | some n => setStatus n
    | none => pure ()

/-- Run a trap's command: the status stays what it was unless the command ends the shell. -/
def runHandler : Nat → Fds → Bytes → Sh Unit
  | 0, _, _ => throw .endless
  | fuel + 1, fds, action => do
    let status := (← get).status
    runScript fuel fds (textOfUtf8 action) 1
    setStatus status

/-- Run the `EXIT` trap, if one is set, after the shell ended with `status`: the status it
then ends with, which only an `exit` in the trap changes. -/
def runExitTrap : Nat → Fds → Nat → Sh Nat
  | 0, _, status => pure status
  | fuel + 1, fds, status => do
    match (← get).traps.lookup 0 with
    | some action =>
      modify fun st => { st with traps := st.traps.filter (·.1 != 0), status }
      if action.isEmpty then return status
      let r : Option Stop ← tryCatch (do runScript fuel fds (textOfUtf8 action) 1; pure none)
        fun e =>
          match e with
          | .endless => throw Stop.endless
          | .signal n => throw (Stop.signal n)
          | e => pure (some e)
      match r with
      | some (.exit n) => pure n
      | _ => pure status
    | none => pure status

/-- Run a built-in command or an external one by name. -/
def runBuiltin : Nat → Fds → List (String × Bytes) → Bytes → List Bytes → Sh Unit
  | 0, _, _, _, _ => throw .endless
  | fuel + 1, fds, assigns, nameBytes, args => do
    let name := textOf nameBytes
    if specialBuiltins.contains name then
      for (n, v) in assigns do
        assignVar fds none n v
    match name with
    | ":" | "true" => setStatus 0
    | "false" => setStatus 1
    | "echo" =>
      emit fds 1 (if (← get).bash then (echoTool args).out else echoOutput args)
      setStatus 0
    | "printf" =>
      let (out, errs, status) := printfOutput args
      for e in errs do
        complain fds (rawOf e)
      emit fds 1 out
      setStatus status
    | "exit" =>
      match args with
      | [] => throw (.exit (← get).status)
      | a :: _ => throw (.exit ((← countArg fds "exit" a) % 256))
    | "export" => runExport fds true args
    | "readonly" => runExport fds false args
    | "unset" =>
      let functions := args.head? = some (bytesOf "-f")
      let names := (args.filter fun a => a.head? != some 0x2D).map textOf
      if functions then
        modify fun st => { st with funcs := st.funcs.filter fun f => !names.contains f.1 }
      else
        modify fun st =>
          let vars := st.vars.filter fun e => !names.contains e.1
          let exported := st.exported.filter fun e => !names.contains e
          { st with vars, exported }
      setStatus 0
    | "set" => runSet fds (args.length + 1) args
    | "trap" => runTrap fds args
    | "local" => runLocal fds args
    | "return" =>
      match args with
      | [] => throw (.returnFn (← get).status)
      | a :: _ => throw (.returnFn ((← countArg fds "return" a) % 256))
    | "shift" =>
      let n ← match args with
        | [] => pure 1
        | a :: _ => countArg fds "shift" a
      let st ← get
      if n > st.params.length then
        complain fds (bytesOf "shift: can't shift that many")
        throw (.exit 2)
      set { st with params := st.params.drop n, status := 0 }
    | "eval" => runScript fuel fds (String.intercalate " " (args.map textOfUtf8)) 1
    | "break" | "continue" =>
      let n ← match args with
        | [] => pure 1
        | a :: _ => countArg fds name a
      if n = 0 then
        complain fds (bytesOf (name ++ ": Illegal number: 0"))
        throw (.exit 2)
      let loops := (← get).loops
      if loops = 0 then setStatus 0
      else if name = "break" then throw (.breakLoop (min n loops))
      else throw (.continueLoop (min n loops))
    | "test" | "[" => runTest fds name args
    | "read" => runRead fds args
    | "wait" =>
      let w := (← get).world
      match w.jobs.mapM Job.ends with
      | none => throw .endless
      | some ts => setClock (ts.foldl max w.clock)
      setStatus 0
    | "kill" =>
      for action in ← runKill fds args do
        runHandler fuel fds action
    | "cd" => setStatus 0
    | "exec" =>
      match args with
      | [] => setStatus 0
      | c :: rest =>
        runBuiltin fuel fds assigns c rest
        throw (.exit (← get).status)
    | "command" =>
      match args with
      | [] => setStatus 0
      | c :: rest =>
        if c = bytesOf "-v" || c = bytesOf "-V" then
          runDescribe fds (c = bytesOf "-V") (rest.take 1)
        else if c = bytesOf "-p" then
          match rest with
          | [] => setStatus 0
          | c :: rest => runBuiltin fuel fds assigns c rest
        else runBuiltin fuel fds assigns c rest
    | "type" => runDescribe fds true args
    | "getopts" => runGetopts fds args
    | "umask" => runUmask fds args
    | "hash" => runHash fds args
    | "alias" => runAlias fds args
    | "unalias" => runUnalias fds args
    | _ => runProgram fuel fds assigns nameBytes args

/-- Run a program by name, not a command of the shell: a shell, `timeout` and `xargs` run
commands of their own; any other program is a tool. `env` in front of it is peeled first. -/
def runProgram : Nat → Fds → List (String × Bytes) → Bytes → List Bytes → Sh Unit
  | 0, _, _, _, _ => throw .endless
  | fuel + 1, fds, assigns, nameBytes, args => do
    let st ← get
    let first := commandName (textOf nameBytes)
    let (peeled, rest, env) := peelEnv (args.length + 1) first args (st.environment assigns)
    match peeled with
    | some cmd =>
      if launchers.contains (commandName cmd) then
        rememberProgram first
        runLauncher fuel fds env cmd rest
      else runTool fds assigns nameBytes args
    | none => runTool fds assigns nameBytes args

/-- Run a program by name with an environment, as a program that runs commands does: whether
there is a program of that name. -/
def runNamed : Nat → Fds → List (String × Bytes) → Bytes → List Bytes → Sh Bool
  | 0, _, _, _, _ => throw .endless
  | fuel + 1, fds, env, nameBytes, args => do
    let first := commandName (textOf nameBytes)
    let (peeled, rest, env) := peelEnv (args.length + 1) first args env
    match peeled with
    | some cmd =>
      if launchers.contains (commandName cmd) then
        runLauncher fuel fds env cmd rest
        pure true
      else runToolIn fds env first (commandName cmd) rest
    | none => runToolIn fds env first "printenv" rest

/-- Run a program that runs commands of its own, by the name it was run by. -/
def runLauncher : Nat → Fds → List (String × Bytes) → String → List Bytes → Sh Unit
  | 0, _, _, _, _ => throw .endless
  | fuel + 1, fds, env, name, args =>
    match commandName name with
    | "timeout" => runTimeout fuel fds env args
    | "xargs" => runXargs fuel fds env args
    | shell => runShellProgram fuel fds env (shell = "bash") (rawOf name) args

/-- Run a shell as a program: its script comes from `-c`, a file or the input, and it starts
afresh with the environment it is given, its name and its parameters. -/
def runShellProgram : Nat → Fds → List (String × Bytes) → Bool → Bytes → List Bytes → Sh Unit
  | 0, _, _, _, _, _ => throw .endless
  | fuel + 1, fds, env, bash, invoked, args => do
    match readShellArgs bash args with
    | .error (msg, status) =>
      let head := if bash then invoked ++ bytesOf ": " else invoked ++ bytesOf ": 0: "
      let _ ← emitFrom fds 2 (head ++ rawOf msg ++ [0x0A])
      setStatus status
    | .ok start =>
      let st ← get
      let script? : Except (Bytes × Nat) Bytes ← match start.source with
        | .command t => pure (.ok t)
        | .file path =>
          match st.world.files.lookup (textOf path) with
          | some d => pure (.ok d)
          | none =>
            if bash then pure (.error (invoked ++ bytesOf ": " ++ path ++ bytesOf ": No such file or directory", 127))
            else pure (.error (invoked ++ bytesOf ": 0: cannot open " ++ path ++ bytesOf ": No such file", 2))
        | .input =>
          if st.inputCut then throw .needInput
          modify fun st => { st with input := [] }
          pure (.ok st.input)
      match script? with
      | .error (msg, status) =>
        let _ ← emitFrom fds 2 (msg ++ [0x0A])
        setStatus status
      | .ok script =>
        let own := if env.any (·.1 == "OPTIND") then [] else [("OPTIND", bytesOf "1")]
        let bashVars := if bash then [("BASH_VERSION", bytesOf bashVersion)] else []
        let status ← isolate (do
          modify fun st => { st with
            vars := env ++ own ++ bashVars, exported := env.map Prod.fst, params := start.params,
            shellName := start.name.getD invoked, bash, funcs := [], funcLine := 0, locals := [],
            loops := 0, errexit := start.flags.errexit, nounset := start.flags.nounset,
            noglob := start.flags.noglob, aliases := [], tested := false, readonlyVars := [],
            optIndex := 1, optOffset := none, hashed := [], line := 1, substStatus := none,
            status := 0 }
          runScript fuel fds (textOfUtf8 script) 1) (runExitTrap fuel fds)
        setStatus status

/-- `timeout`: run a command, stopping it with a signal when its time is up; status 124 when
it was stopped. -/
def runTimeout : Nat → Fds → List (String × Bytes) → List Bytes → Sh Unit
  | 0, _, _, _ => throw .endless
  | fuel + 1, fds, env, args => do
    match readTimeoutArgs args with
    | .error msg =>
      let _ ← emitFrom fds 2 (rawOf msg)
      setStatus 125
    | .ok job =>
      match job.command with
      | [] => setStatus 125
      | cmd :: cmdArgs =>
        let before ← get
        let outer := before.world.deadline
        let ends := before.world.clock + job.limit
        let binding := job.limit > 0 && (match outer with
          | some (d, _) => ends < d
          | none => true)
        if binding then
          modify fun st => { st with world := { st.world with deadline := some (ends, job.signal) } }
        let r ← tryCatch (do pure (Sum.inr (← runNamed fuel fds env cmd cmdArgs))) fun e => pure (Sum.inl e)
        modify fun st => { st with world := { st.world with deadline := outer } }
        let now := (← get).world.clock
        let stopped : Bool := binding && match r with
          | .inl .endless => true
          | .inl (.signal n) => n = job.signal && now = ends
          | _ => false
        if stopped then
          modify fun st => { st with world := { st.world with clock := ends, steps := before.world.steps } }
          if job.verbose then
            let name := (signalName job.signal).getD (toString job.signal)
            let _ ← emitFrom fds 2 (bytesOf "timeout: sending signal " ++ rawOf name ++
              bytesOf " to command " ++ rawOf (localeQuote (textOf cmd)) ++ [0x0A])
          setStatus (if job.preserve then 128 + job.signal else 124)
        else
          match r with
          | .inl e => throw e
          | .inr true => pure ()
          | .inr false =>
            let _ ← emitFrom fds 2 (bytesOf "timeout: failed to run command " ++
              rawOf (localeQuote (textOf cmd)) ++ bytesOf ": No such file or directory\n")
            setStatus 127

/-- `xargs`: run a command with the items of the input as more arguments, in batches. The
commands read no input. -/
def runXargs : Nat → Fds → List (String × Bytes) → List Bytes → Sh Unit
  | 0, _, _, _ => throw .endless
  | fuel + 1, fds, env, args => do
    match readXargsArgs args with
    | .error msg =>
      let _ ← emitFrom fds 2 (rawOf msg)
      setStatus 1
    | .ok job =>
      let st ← get
      let data? : Option Bytes ← match job.argFile with
        | some f =>
          if f = bytesOf "-" then pure (some st.input)
          else pure (st.world.files.lookup (textOf f))
        | none =>
          if st.inputCut then throw .needInput
          pure (some st.input)
      match data? with
      | none =>
        let _ ← emitFrom fds 2 (bytesOf "xargs: " ++ (job.argFile.getD []) ++ bytesOf ": No such file or directory\n")
        setStatus 1
      | some data =>
        let input := xargsItems job data
        let mut failed := 0
        for c in xargsCommands job input do
          match c with
          | [] => pure ()
          | cmd :: cargs =>
            if job.trace then
              let _ ← emitFrom fds 2 ((c.map (· ++ [0x20])).flatten ++ [0x0A])
            modify fun st => { st with input := [], inputCut := false }
            if !(← runNamed fuel fds env cmd cargs) then
              let _ ← emitFrom fds 2 (bytesOf "xargs: " ++ cmd ++ bytesOf ": No such file or directory\n")
              setStatus 127
              return
            let status := (← get).status
            if status = 255 then
              let _ ← emitFrom fds 2 (bytesOf "xargs: " ++ cmd ++ bytesOf ": exited with status 255; aborting\n")
              setStatus 124
              return
            if status != 0 then failed := 123
        modify fun st => { st with input := [], inputCut := false }
        match input.error with
        | some e =>
          let _ ← emitFrom fds 2 (rawOf e)
          setStatus 1
        | none => setStatus failed

/-- Run a script line by line, its first line counted as `line`. -/
def runScript : Nat → Fds → String → Nat → Sh Unit
  | 0, _, _, _ => throw .endless
  | fuel + 1, fds, text, line => runLines fuel fds (text.length + 1) { rest := text.toList, line }

/-- Run the lines left in a reader. -/
def runLines : Nat → Fds → Nat → Lexer → Sh Unit
  | 0, _, _, _ => throw .endless
  | _, _, 0, _ => pure ()
  | fuel + 1, fds, lines + 1, lx =>
    match nextCommand lx with
    | .error e => do
      modify fun st => { st with line := e.line }
      complain fds (bytesOf e.message)
      throw (.exit 2)
    | .ok none => pure ()
    | .ok (some (c, lx', line)) => do
      modify fun st => { st with line := line }
      exec fuel fds c
      runLines fuel fds lines lx'

end

/-! ## Processes -/

/-- What a shell process did: its exit status, its output and error streams as kept, and how
long it ran, `none` when it never ends. -/
structure ShellRun where
  /-- How it ended. -/
  status : Exit
  /-- The output stream, up to its cap. -/
  out : Bytes
  /-- The error stream, up to its cap. -/
  err : Bytes
  /-- Milliseconds until both streams closed; `none` if they never do. -/
  duration : Option Nat
  deriving DecidableEq, Repr

/-- Fuel for a whole script: deeper than any script nests, longer than any loop it may run
within its step budget. -/
def scriptFuel : Nat := 1000000

/-- Steps a script may take before it counts as never ending. -/
def stepBudget : Nat := 200000

/-- The capacity of the pipes between stages in a first run. -/
def firstCapacity : Nat := 512

/-- The largest capacity of pipes reached by doubling: a pipeline that still waits for more
input reads from a writer that never stops, and never ends. -/
def maxCapacity : Nat := 2097152

/-- The largest capacity of pipes tried for one write that did not fit, as a long output
written at once asks for. -/
def maxDemand : Nat := 67108864

/-- What a run that never ends shows. -/
def ShellRun.endless : ShellRun := ⟨.code 0, [], [], none⟩

/-- The search path a process inherits when it is given none. -/
def defaultPath : String := "/usr/local/sbin:/usr/local/bin:/usr/sbin:/usr/bin:/sbin:/bin"

/-- Run a script once with pipes of a capacity: how it ended, or `none` with the capacity a
pipe was asked for when a stage waited for more input than its pipe held. The environment
always holds a search path, and the shell starts with `OPTIND` at 1. -/
def runOnce (env : List (String × Bytes)) (script : String) (outCap errCap capacity : Nat) :
    Option ShellRun × Nat :=
  let env := if env.any (·.1 == "PATH") then env else ("PATH", bytesOf defaultPath) :: env
  let own := if env.any (·.1 == "OPTIND") then [] else [("OPTIND", bytesOf "1")]
  let st0 : ShellState := {
    world := { outRoom := outCap, errRoom := errCap, steps := stepBudget, capacity }
    vars := env ++ own
    exported := env.map Prod.fst }
  let (r, st) := ((runScript scriptFuel standardFds script 1).run.run st0)
  let ends (st : ShellState) : Option Nat :=
    ((st.world.jobs.filter Job.holds).mapM Job.ends).map fun ts => ts.foldl max st.world.clock
  match r with
  | .error .needInput => (none, st.world.demand)
  | .error .endless => (some ⟨.code 0, st.world.out, st.world.err, none⟩, 0)
  | .error (.signal n) => (some ⟨.signal n, st.world.out, st.world.err, ends st⟩, 0)
  | _ =>
    let status := match r with
      | .error (.exit n) | .error (.returnFn n) => n
      | _ => st.status
    match (runExitTrap scriptFuel standardFds status).run.run st with
    | (.ok n, st) => (some ⟨.code (n % 256), st.world.out, st.world.err, ends st⟩, 0)
    | (.error .needInput, st) => (none, st.world.demand)
    | (.error (.signal n), st) => (some ⟨.signal n, st.world.out, st.world.err, ends st⟩, 0)
    | (.error _, st) => (some ⟨.code 0, st.world.out, st.world.err, none⟩, 0)

/-- Run a script as `sh -c` does, with an environment and the caps on the two streams. The
shell's pipes are as large as the run needs: a run where a stage waited for input that a cut
pipe did not hold is run again with larger pipes. -/
def runShell (env : List (String × Bytes)) (script : String) (outCap errCap : Nat) : ShellRun :=
  go 64 firstCapacity
where
  /-- Run with pipes of capacity `c`, then larger ones while needed. -/
  go : Nat → Nat → ShellRun
    | 0, _ => ShellRun.endless
    | n + 1, c =>
      match runOnce env script outCap errCap c with
      | (some r, _) => r
      | (none, demand) =>
        if demand > 2 * c then (if demand > maxDemand then ShellRun.endless else go n demand)
        else if 2 * c > maxCapacity then ShellRun.endless else go n (2 * c)

end Chatbot.Shell
