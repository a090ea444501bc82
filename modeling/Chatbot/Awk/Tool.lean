import Chatbot.Awk.Parser
import Chatbot.Awk.Machine
import Chatbot.Shell.Tools

/-!
# The awk command

`awk [-F fs] [-v var=value] [-f file] [--] ['program'] [file | var=value ...]` reads its
program from the first operand or the files of `-f`, then runs it: the `BEGIN` rules, then
each record of the input through the other rules, then the `END` rules. With only `BEGIN`
rules the input is not read. `exit` skips to the `END` rules, and ends the run there.

A syntax error is written `awk: line N: message` and ends with status 2, as does a run-time
error, written `awk: run time error: message` with the file and record where it happened. A
file of the input that cannot be opened ends the run the same way.
-/

namespace Chatbot.Awk

open Chatbot.Shell

/-- What `awk` is asked to do. -/
structure AwkJob where
  /-- `-F`: the field separator. -/
  fs : Option Bytes := none
  /-- `-v`: the assignments made before the program starts. -/
  assigns : List (String × Bytes) := []
  /-- `-f`: the files of the program. -/
  programFiles : List Bytes := []
  /-- The program, when given as an operand. -/
  program : Option Bytes := none
  /-- The operands after the program. -/
  operands : List Bytes := []
  deriving Repr

/-- What `awk` writes when it is given no program. -/
def awkUsage : String :=
  "usage: awk [-F value] [-v var=value] [--] 'program text' [file ...]\n" ++
  "usage: awk [-F value] [-v var=value] [-f program-file] [--] [file ...]\n"

/-- Read the arguments of `awk`: the job, or the message of an error. -/
def readAwkArgs : Nat → List Bytes → AwkJob → Except String AwkJob
  | 0, _, job => .ok job
  | _, [], job => .ok job
  | fuel + 1, a :: rest, job =>
    let finish (args : List Bytes) : Except String AwkJob :=
      if job.programFiles.isEmpty then
        match args with
        | p :: more => .ok { job with program := some p, operands := more }
        | [] => .error awkUsage
      else .ok { job with operands := args }
    let withValue (letter : UInt8) (attached : Bytes) (k : Bytes → List Bytes → Except String AwkJob) :
        Except String AwkJob :=
      if !attached.isEmpty then k attached rest
      else
        match rest with
        | v :: more => k v more
        | [] => .error s!"awk: option requires an argument -- {textOf [letter]}\n{awkUsage}"
    match a with
    | [0x2D, 0x2D] => finish rest
    | 0x2D :: 0x46 :: v => withValue 0x46 v fun v more => readAwkArgs fuel more { job with fs := some v }
    | 0x2D :: 0x66 :: v =>
      withValue 0x66 v fun v more => readAwkArgs fuel more { job with programFiles := job.programFiles ++ [v] }
    | 0x2D :: 0x76 :: v =>
      withValue 0x76 v fun v more =>
        match argAssignment v with
        | some (n, x) => readAwkArgs fuel more { job with assigns := job.assigns ++ [(n, x)] }
        | none => .error s!"awk: improper assignment: -v {textOf v}\n"
    | 0x2D :: 0x57 :: v => withValue 0x57 v fun _ more => readAwkArgs fuel more job
    | 0x2D :: c :: _ => .error s!"awk: not an option: -{textOf [c]}\n{awkUsage}"
    | _ => finish (a :: rest)

/-- The variables of awk when it starts. -/
def initialGlobals (argc : Nat) : List (String × Value) :=
  [("FS", .str (bytesOf " ")), ("OFS", .str (bytesOf " ")), ("ORS", .str [0x0A]),
   ("RS", .str [0x0A]), ("NR", .num zero), ("NF", .num zero), ("FNR", .num zero),
   ("SUBSEP", .str [0x1C]), ("CONVFMT", .str (bytesOf "%.6g")), ("OFMT", .str (bytesOf "%.6g")),
   ("RSTART", .num zero), ("RLENGTH", .num (ofInt (-1))), ("FILENAME", .str []),
   ("ARGC", .num (ofNat argc))]

/-- Read the escapes of text given on the command line. -/
def unescapeArg (v : Bytes) : Bytes := unescape (v.length + 1) v

/-- Whether a rule applies to the record; a range rule keeps its state by its place `i`. -/
def ruleApplies (fuel : Nat) (i : Nat) (p : Pattern) : Run Bool := do
  match p with
  | .always => return true
  | .begin | .finish => return false
  | .test e => return (← eval unescapeArg fuel e).truth
  | .range a b =>
    let active := ((← get).ranges[i]?).getD false
    let setRange (on : Bool) : Run Unit :=
      modify fun m => { m with ranges := (m.ranges ++ List.replicate (i + 1 - m.ranges.length) false).set i on }
    if active then
      if (← eval unescapeArg fuel b).truth then setRange false
      return true
    else if (← eval unescapeArg fuel a).truth then
      if !(← eval unescapeArg fuel b).truth then setRange true
      return true
    else return false

/-- Run a rule's action; without one, print the record. -/
def runAction (fuel : Nat) (action : Option Stmt) : Run Unit := do
  match action with
  | some s => exec unescapeArg fuel s
  | none => writeTo none ((← get).record ++ (← globalText "ORS"))

/-- Run the rules for the record. -/
def runRules (fuel : Nat) (rules : List Rule) : Run Unit := do
  for (rule, i) in rules.zipIdx do
    if ← ruleApplies fuel i rule.pattern then runAction fuel rule.action

/-- Run the rules for each record of the input. -/
def recordLoop (fuel : Nat) (rules : List Rule) : Nat → Run Unit
  | 0 => throw .endless
  | n + 1 => do
    match ← nextRecord unescapeArg 1000000 with
    | none => pure ()
    | some rec =>
      countRecord
      setRecord rec
      tryCatch (runRules fuel rules) fun e =>
        match e with
        | .next => pure ()
        | .nextFile => modify fun m => { m with current := none }
        | e => throw e
      recordLoop fuel rules n

/-- Run the actions of rules in turn. -/
def runActions (fuel : Nat) (rules : List Rule) : Run Unit := do
  for r in rules do
    runAction fuel r.action

/-- Run a program: `BEGIN`, the records, `END`. -/
def runProgramPhases (prog : Program) : Run Unit := do
  let fuel := 10000000
  let begins := prog.rules.filter fun r => match r.pattern with
    | .begin => true
    | _ => false
  let ends := prog.rules.filter fun r => match r.pattern with
    | .finish => true
    | _ => false
  let hasMain := prog.rules.any fun r => match r.pattern with
    | .begin => false
    | _ => true
  let leave (e : Flow) : Run Bool :=
    match e with
    | .exit => pure true
    | .next | .nextFile => pure false
    | e => throw e
  let exited ← tryCatch (do runActions fuel begins; pure false) leave
  let exited ← if !exited && hasMain then tryCatch (do recordLoop fuel prog.rules 100000000; pure false) leave
    else pure exited
  let _ := exited
  tryCatch (runActions fuel ends) fun e =>
    match e with
    | .exit => pure ()
    | e => throw e

/-- Steps an awk program may take before it counts as never ending. -/
def awkSteps : Nat := 2000000

/-- `awk`: run a program over the input. -/
def awkTool (files : List (String × Bytes)) (stdin : Bytes) (args : List Bytes)
    (env : List (String × Bytes)) : ToolRun :=
  match readAwkArgs (args.length + 1) args {} with
  | .error e => { err := rawOf e, status := 2 }
  | .ok job =>
    if job.program.isNone && job.programFiles.isEmpty then { err := rawOf awkUsage, status := 2 }
    else
    let text? : Option Bytes :=
      match job.program with
      | some p => some p
      | none =>
        (job.programFiles.mapM fun f =>
          if f = bytesOf "-" then some stdin else files.lookup (textOf f)).map fun ps =>
            (ps.intersperse [0x0A]).flatten
    match text? with
    | none =>
      let missing := (job.programFiles.find? fun f => (files.lookup (textOf f)).isNone).getD []
      { err := rawOf s!"awk: couldn't open file {textOf missing} (No such file or directory)\n", status := 2 }
    | some text =>
      match readProgram text with
      | .error e => { err := rawOf s!"awk: line {e.line}: {e.message}\n", status := 2 }
      | .ok prog =>
        let argv := (bytesOf "awk" :: job.operands).zipIdx.map fun (a, i) =>
          (bytesOf (toString i), Value.ofInput a)
        let m0 : Machine :=
          { functions := prog.functions, globals := initialGlobals (job.operands.length + 1),
            arrays := [("ENVIRON", env.map fun (k, v) => (bytesOf k, Value.ofInput v)), ("ARGV", argv)],
            files, stdin, steps := awkSteps,
            ranges := prog.rules.map fun _ => false }
        let setup : Run Unit := do
          match job.fs with
          | some fs => setGlobal "FS" (.str (unescapeArg fs))
          | none => pure ()
          for (n, v) in job.assigns do
            assignVar n (Value.ofInput (unescapeArg v))
          runProgramPhases prog
        let (r, m) := (setup.run).run m0
        let base : ToolRun := { out := m.out, err := m.err, writes := m.written, readStdin := m.tookStdin }
        match r with
        | .ok _ => { base with status := m.exitStatus }
        | .error .endless => { base with time := none }
        | .error (.fail msg true) =>
          let shown (name : String) : String := textOf ((globalValue m name).toText [])
          let file := shown "FILENAME"
          let fnr := shown "FNR"
          let nr := shown "NR"
          let place := s!"\tFILENAME=\"{file}\" FNR={fnr} NR={nr}\n"
          { base with err := m.err ++ rawOf s!"awk: run time error: {msg}\n{place}", status := 2 }
        | .error (.fail msg false) => { base with err := m.err ++ rawOf s!"awk: {msg}\n", status := 2 }
        | .error _ => { base with status := m.exitStatus }

end Chatbot.Awk
