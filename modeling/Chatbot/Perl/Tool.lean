import Chatbot.Perl.Machine
import Chatbot.Shell.Tools

/-!
# The perl command

`perl [switches] [--] [program-file | -e program] [arguments]` runs a program given with `-e`
(several join into lines), read from a file, or read from the standard input. The switches
that change the program are those of one-liners:

* `-n` runs it for every line of the input (`<>`: the files named by the arguments, or the
  standard input), in a loop labelled `LINE`; `-p` prints each line after it;
* `-l` takes the line feed off each line read and puts one after each `print`;
* `-a` splits each line into `@F` at white space, `-F` by a pattern (and turns on `-a`
  and `-n`);
* `-0` sets the record separator: `-0` a NUL byte, `-00` paragraphs, `-0777` the whole input;
* `-i` edits the files of `<>` in place, keeping the old contents under a name with the
  ending given;
* `-E` turns on `say`; `-M` and `-m` load a module as `use` does.

A program that cannot be read is reported as perl reports it, `syntax error at -e line N,
near "…"` and `Execution of -e aborted due to compilation errors.`, with status 255. A run
that dies writes its message and ends with status 255, or the error number of the last
failed system call. The `END` blocks run in every case, in the reverse order of their
definitions.
-/

namespace Chatbot.Perl

open Chatbot.Shell Chatbot.Awk

/-- What `perl` is asked to do. -/
structure PerlJob where
  /-- The lines of `-e` and `-E`. -/
  lines : List Bytes := []
  /-- `-E`: whether `say` is on. -/
  sayOn : Bool := false
  /-- `-n`: run for each line. -/
  eachLine : Bool := false
  /-- `-p`: run for each line and print it. -/
  printLines : Bool := false
  /-- `-l`: take line feeds off and put them back. -/
  chompLines : Bool := false
  /-- `-a`: split each line into `@F`. -/
  autoSplit : Bool := false
  /-- `-F`: the pattern of `-a`. -/
  splitPattern : Option Bytes := none
  /-- `-0`: the record separator, `none` when undefined. -/
  separator : Option (Option Bytes) := none
  /-- `-i`: edit in place, with the ending of the backups. -/
  inPlace : Option Bytes := none
  /-- `-M` and `-m`: the statements that load modules. -/
  uses : List Bytes := []
  /-- `-c`: only check the program. -/
  checkOnly : Bool := false
  /-- The operands: the program file unless there are lines of `-e`, then the arguments. -/
  operands : List Bytes := []
  deriving Repr

/-- The value of octal digits. -/
def octalValue (ds : Bytes) : Nat := ds.foldl (fun acc d => 8 * acc + (d - 0x30).toNat) 0

/-- The record separator `-0` sets with its digits. -/
def separatorOf (ds : Bytes) : Option Bytes :=
  if ds.isEmpty then some [0]
  else
    let v := octalValue ds
    if v = 0 then some [] else if v ≥ 0o400 then none else some [UInt8.ofNat v]

/-- The statement `-M` or `-m` stands for: `use Module (imports)`. -/
def useStatement (plain : Bool) (spec : Bytes) : Bytes :=
  let (negate, spec) := match spec with
    | 0x2D :: rest => (true, rest)
    | _ => (false, spec)
  let keyword := rawOf (if negate then "no " else "use ")
  match spec.splitOn 0x3D with
  | [name] => keyword ++ name ++ (if plain then rawOf " ()" else []) ++ [0x3B]
  | name :: rest =>
    let items := ((rest.intersperse [0x3D]).flatten).map fun b => if b = 0x2C then 0x20 else b
    keyword ++ name ++ rawOf " qw(" ++ items ++ rawOf ");"
  | [] => keyword ++ [0x3B]

/-- Read the switches of one cluster after its dash: the job, with the arguments left, or a
message. -/
def readCluster : Nat → Bytes → List Bytes → PerlJob → Except String (PerlJob × List Bytes)
  | 0, _, rest, job => .ok (job, rest)
  | _, [], rest, job => .ok (job, rest)
  | fuel + 1, c :: more, rest, job =>
    let codeArg (say : Bool) : Except String (PerlJob × List Bytes) :=
      let job := { job with sayOn := job.sayOn || say }
      if !more.isEmpty then .ok ({ job with lines := job.lines ++ [more] }, rest)
      else
        match rest with
        | code :: after => .ok ({ job with lines := job.lines ++ [code] }, after)
        | [] => .error s!"No code specified for -{textOf [c]}."
    match c with
    | 0x65 => codeArg false
    | 0x45 => codeArg true
    | 0x6E => readCluster fuel more rest { job with eachLine := true }
    | 0x70 => readCluster fuel more rest { job with printLines := true }
    | 0x61 => readCluster fuel more rest { job with autoSplit := true, eachLine := true }
    | 0x6C =>
      let ds := more.takeWhile isOctal
      readCluster fuel (more.drop ds.length) rest { job with chompLines := true }
    | 0x30 =>
      let (taken, sep) := match more with
        | x :: hs =>
          if x = 0x78 || x = 0x58 then
            let ds := hs.takeWhile fun b => (hexValue b).isSome
            (ds.length + 1, some (codePointBytes (ds.foldl (fun acc d => 16 * acc + (hexValue d).getD 0) 0)))
          else
            let ds := more.takeWhile isOctal
            (ds.length, separatorOf ds)
        | [] => (0, separatorOf [])
      readCluster fuel (more.drop taken) rest { job with separator := some sep }
    | 0x46 =>
      let job := { job with autoSplit := true, eachLine := true }
      if !more.isEmpty then .ok ({ job with splitPattern := some more }, rest)
      else
        match rest with
        | p :: after => .ok ({ job with splitPattern := some p }, after)
        | [] => .error "No pattern specified for -F."
    | 0x69 => .ok ({ job with inPlace := some more }, rest)
    | 0x4D | 0x6D =>
      let spec := if more.isEmpty then rest.headD [] else more
      let after := if more.isEmpty then rest.drop 1 else rest
      if spec.isEmpty then .error s!"Missing argument to -{textOf [c]}."
      else .ok ({ job with uses := job.uses ++ [useStatement (c = 0x6D) spec] }, after)
    | 0x63 => readCluster fuel more rest { job with checkOnly := true }
    | 0x77 | 0x57 | 0x58 | 0x73 | 0x54 | 0x74 | 0x55 => readCluster fuel more rest job
    | 0x43 => .ok (job, rest)
    | 0x49 =>
      if more.isEmpty then .ok (job, rest.drop 1) else .ok (job, rest)
    | _ => .error s!"Unrecognized switch: -{textOf (c :: more)}  (-h will show valid options)."

/-- Read the arguments of `perl`: the job, or a message. -/
def readPerlArgs : Nat → List Bytes → PerlJob → Except String PerlJob
  | 0, rest, job => .ok { job with operands := rest }
  | _, [], job => .ok job
  | fuel + 1, a :: rest, job =>
    match a with
    | [0x2D, 0x2D] => .ok { job with operands := rest }
    | [0x2D] => .ok { job with operands := a :: rest }
    | 0x2D :: cluster =>
      match readCluster (cluster.length + 1) cluster rest job with
      | .ok (job, more) => readPerlArgs fuel more job
      | .error e => .error e
    | _ => .ok { job with operands := a :: rest }

/-- The text that begins each line of `-n` and `-p`: `chomp` for `-l`, the split into `@F`
for `-a`. -/
def linePrelude (job : PerlJob) : Bytes :=
  let chompPart := if job.chompLines then rawOf "chomp;" else []
  let splitPart :=
    if job.autoSplit then
      let pattern := match job.splitPattern with
        | some p =>
          match p with
          | 0x2F :: _ | 0x27 :: _ | 0x22 :: _ => p
          | _ => [0x2F] ++ p ++ [0x2F]
        | none => rawOf "' '"
      rawOf "our @F = split(" ++ pattern ++ rawOf ", $_, 0);"
    else []
  chompPart ++ splitPart

/-- The program as `-n` and `-p` run it: the text inside a loop over the lines of `<>`, as
perl writes it, so that `\x7d\x7b` in the program ends the loop and starts a block after it. The
text before the program stays on its first line, so the lines keep their numbers. -/
def wrapLines (job : PerlJob) (text : Bytes) : Bytes :=
  if !(job.eachLine || job.printLines) then text
  else
    let start := rawOf "LINE: while (defined($_ = <ARGV>)) \x7b" ++ linePrelude job
    let finish := rawOf "\n;\x7d" ++
      (if job.printLines then rawOf " continue \x7b print; \x7d" else [])
    start ++ text ++ finish

/-- The variables of perl when it starts. -/
def initialVars (job : PerlJob) (args : List Bytes) (env : List (String × Bytes)) (name : String) :
    Run Unit := do
  setArrayValues (← globalCell "@ARGV" (.array #[])) (args.map Scalar.str)
  setHashValues (← globalCell "%ENV" (.hash #[])) (env.flatMap fun (k, v) => [.str (rawOf k), .str v])
  writeCell (← globalCell "$0" (.scalar .undefined)) (.str (rawOf name))
  writeCell (← globalCell "$\"" (.scalar .undefined)) (.str [0x20])
  writeCell (← globalCell "$;" (.scalar .undefined)) (.str [0x1C])
  writeCell (← globalCell "$@" (.scalar .undefined)) (.str [])
  let sep : Scalar := match job.separator with
    | some (some s) => .str s
    | some none => .undefined
    | none => .str [0x0A]
  writeCell (← globalCell "$/" (.scalar .undefined)) sep
  if job.chompLines then
    writeCell (← globalCell "$\\" (.scalar .undefined)) (.str [0x0A])
  let _ ← globalCell "@INC" (.array #[])
  let _ ← globalCell "$_" (.scalar .undefined)

/-- How a run ended. -/
inductive Ending where
  /-- It ran to its end, or to `exit` with a status. -/
  | done (status : Nat)
  /-- It died with a message. -/
  | died (message : Bytes)
  /-- It would never end. -/
  | endless
  deriving Repr

/-- Run statements, turning how they were left into an ending; the body of the program runs
in the scope of the file, which subroutines see. -/
def runPart (fuel : Nat) (fileScope : Bool) (body : List Stmt) : Run Ending := do
  try
    if fileScope then execStmts fuel body else inScope (execStmts fuel body)
    return .done 0
  catch f =>
    match f with
    | .exit status => return .done status
    | .die v => return .died v.toText
    | .endless => return .endless
    | .loop kind _ =>
      let word := match kind with
        | .next => "next"
        | .last => "last"
        | .redo => "redo"
      let place ← placeText
      return .died (rawOf s!"Can't \"{word}\" outside a loop block" ++ place)
    | .ret _ => return .done 0

/-- Run the `END` blocks, last defined first. -/
def runEnds (fuel : Nat) (ends : List (List Stmt)) (ending : Ending) : Run Ending := do
  let mut result := ending
  for block in ends.reverse do
    match ← runPart fuel false block with
    | .done s =>
      match result with
      | .done _ => result := .done s
      | _ => pure ()
    | other => result := other
  return result

/-- Run a program: the `BEGIN` blocks, the body, and the `END` blocks. -/
def runProgram (fuel : Nat) (prog : Program) (body : List Stmt) : Run Ending := do
  let mut ending : Ending := .done 0
  for block in prog.begins do
    match ending with
    | .done 0 => ending ← runPart fuel false block
    | _ => pure ()
  let mut ranBody := false
  match ending with
  | .done 0 =>
    ending ← runPart fuel true body
    ranBody := true
  | _ => pure ()
  match ending with
  | .endless => return .endless
  | .died msg =>
    modify fun m => { m with err := m.err ++ msg }
    let errno := (← get).errno
    let status : Nat := if errno ≠ 0 then errno else 255
    let _ := ranBody
    match ← runEnds fuel prog.ends (.done status) with
    | .died msg2 =>
      modify fun m => { m with err := m.err ++ msg2 }
      return .done status
    | other => return other
  | .done s =>
    match ← runEnds fuel prog.ends (.done s) with
    | .died msg2 =>
      modify fun m => { m with err := m.err ++ msg2 }
      return .done 255
    | other => return other

/-- Steps a perl program may take before it counts as never ending. -/
def perlSteps : Nat := 6000000

/-- Whether a byte is one of those operators are written with. -/
def isOperatorByte (b : UInt8) : Bool := (rawOf "=!<>+-*/&|.~^%?:").contains b

/-- The length of the token at the start of bytes. -/
def tokenLength (bs : Bytes) : Nat :=
  match bs with
  | [] => 0
  | b :: rest =>
    if isIdentByte b then (bs.takeWhile isIdentByte).length
    else if b = 0x24 || b = 0x40 || b = 0x25 || b = 0x26 then
      let name := rest.takeWhile fun c => isIdentByte c || c = 0x3A
      if name.isEmpty then (if rest.isEmpty then 1 else 2) else 1 + name.length
    else if b = 0x22 || b = 0x27 then
      let body := rest.takeWhile (· != b)
      if body.length < rest.length then body.length + 2 else bs.length
    else if isOperatorByte b then (bs.takeWhile isOperatorByte).length
    else if b = 0x7B then 1 + (rest.takeWhile fun c => c = 0x20 || c = 0x09).length
    else 1

/-- The length of the token at the end of bytes, blanks after it left out: the blanks and the
token. -/
def tokenBefore (bs : Bytes) : Nat × Nat :=
  let rev := bs.reverse
  let blanks := (rev.takeWhile fun c => c = 0x20 || c = 0x09 || c = 0x0A).length
  let rev := rev.drop blanks
  let len := match rev with
    | [] => 0
    | b :: rest =>
      if isIdentByte b then
        let word := (rev.takeWhile isIdentByte).length
        match rev.drop word with
        | s :: _ => if s = 0x24 || s = 0x40 || s = 0x25 || s = 0x26 then word + 1 else word
        | [] => word
      else if b = 0x22 || b = 0x27 then
        let body := rest.takeWhile (· != b)
        if body.length < rest.length then body.length + 2 else 1
      else if isOperatorByte b then (rev.takeWhile isOperatorByte).length
      else 1
  (blanks, len)

/-- The text perl shows after `near`: from the token before the place to the end of the token
at it. -/
def nearText (src : Bytes) (pos : Nat) : Bytes :=
  let (blanks, len) := tokenBefore (src.take pos)
  let start := pos - blanks - len
  let stop := pos + tokenLength (src.drop pos)
  (src.take stop).drop start

/-- The line of a place, a line feed that ends the text not counted. -/
def lineAt (src : Bytes) (pos : Nat) : Nat :=
  let body := if src.getLast? = some 0x0A then src.dropLast else src
  ((body.take pos).filter (· == 0x0A)).length + 1

/-- The kind of term perl names when it finds one where an operator should stand. -/
def termKind (b : UInt8) : String :=
  if isDigit b then "Number"
  else if b = 0x24 then "Scalar"
  else if b = 0x40 then "Array"
  else if b = 0x22 || b = 0x27 then "String"
  else "Bareword"

/-- The message of a program that cannot be read. -/
def syntaxMessage (name : String) (src : Bytes) (e : ParseError) : Bytes :=
  let place := s!" at {name} line {lineAt src e.pos}"
  let rest := src.drop e.pos
  let atEnd := (rest.all fun c => c = 0x20 || c = 0x09 || c = 0x0A)
  let near := nearText src e.pos
  let nearPart : Bytes :=
    if atEnd then rawOf ", at EOF" else rawOf ", near \"" ++ near ++ rawOf "\""
  let aborted := rawOf s!"Execution of {name} aborted due to compilation errors.\n"
  let syntaxLine := rawOf s!"syntax error{place}" ++ nearPart ++ [0x0A]
  match e.message with
  | "syntax error" => syntaxLine ++ aborted
  | "operator expected" =>
    let token := rest.take (tokenLength rest)
    let kind := termKind (rest.headD 0)
    -- after a word that is not a known function, perl asks whether it should be declared
    let (blanks, len) := tokenBefore (src.take e.pos)
    let before := (src.take (e.pos - blanks)).drop (e.pos - blanks - len)
    let hint := match before with
      | b :: _ =>
        if isIdentStart b then rawOf "Do you need to predeclare \"" ++ before ++ rawOf "\"?"
        else rawOf "Missing operator before \"" ++ token ++ rawOf "\"?"
      | [] => rawOf "Missing operator before \"" ++ token ++ rawOf "\"?"
    rawOf s!"{kind} found where operator expected (" ++ hint ++
      rawOf s!"){place}, near \"" ++ near ++ rawOf "\"\n" ++ syntaxLine ++ aborted
  | "Missing right curly or square bracket" | "Unmatched right curly bracket" =>
    rawOf s!"{e.message}{place}, at end of line\n" ++ syntaxLine ++ aborted
  | _ => rawOf s!"{e.message}{place}.\n"

/-- `perl`: run a program. -/
def perlTool (files : List (String × Bytes)) (stdin : Bytes) (args : List Bytes)
    (env : List (String × Bytes)) : ToolRun :=
  match readPerlArgs (args.length + 1) args {} with
  | .error e => { err := rawOf (e ++ "\n"), status := 29 }
  | .ok job =>
    let source : Except ToolRun (String × Bytes × List Bytes × Bytes × Bool) :=
      if !job.lines.isEmpty then
        .ok ("-e", (job.lines.map fun l => l ++ [0x0A]).flatten, job.operands, stdin, false)
      else
        match job.operands with
        | [] => .ok ("-", stdin, [], [], true)
        | [0x2D] :: rest => .ok ("-", stdin, rest, [], true)
        | f :: rest =>
          match files.lookup (textOf f) with
          | some text => .ok (textOf f, text, rest, stdin, false)
          | none =>
            .error { err := rawOf s!"Can't open perl script \"{textOf f}\": No such file or directory\n",
                     status := 2 }
    match source with
    | .error r => r
    | .ok (name, text, operands, input, tookInput) =>
      let usesText := job.uses.flatten
      let src := usesText ++ wrapLines job text
      match parseProgram src { fileName := name, sayOn := job.sayOn } with
      | .error e =>
        let shown := syntaxMessage name src e
        { err := shown, status := 255, readStdin := tookInput, buffered := true }
      | .ok prog =>
        if job.checkOnly then { err := rawOf s!"{name} syntax OK\n", readStdin := tookInput }
        else
        let body := prog.body
        let m0 : Machine :=
          { subs := prog.subs, files, stdin := input, steps := perlSteps, fileName := name,
            inPlace := job.inPlace, tookStdin := tookInput }
        let fuel := perlSteps
        let run : Run Ending := do
          initialVars job operands env name
          for (pkg, bases) in prog.inherits do
            let key := if pkg = "main" then "@ISA" else "@" ++ pkg ++ "::ISA"
            let isa ← globalCell key (.array #[])
            setArrayValues isa ((← arrayValues isa) ++ bases.map fun b => Scalar.str (rawOf b))
          runProgram fuel prog body
        let (r, m) := (run.run).run m0
        let base : ToolRun :=
          { out := m.out, err := m.err, writes := m.written, removes := m.removed, readStdin := m.tookStdin,
            buffered := true }
        match r with
        | .ok (.done status) => { base with status }
        | .ok (.died _) => { base with status := 255 }
        | .ok .endless => { base with time := none }
        | .error .endless => { base with time := none }
        | .error _ => { base with status := 255 }

end Chatbot.Perl
