import Chatbot.Shell.Tools
import Chatbot.Shell.Signal

/-!
# Programs that run commands

A shell (`sh`, `dash`, `bash`), `timeout` and `xargs` are programs whose work is to run other
commands. This module reads what they are asked to do: a shell's options and where its script
comes from, the time `timeout` allows a command, and the items `xargs` reads and the command
lines it makes of them. Running the commands is the interpreter's.

These programs read their options only up to the first operand: what follows is the command
to run, with its own options.

`xargs` splits its input at blanks and line feeds, where single and double quotes keep blanks
in an item and a backslash keeps the byte after it; a quote left open is an error, which comes
after the items before it were run. With `-0` or `-d` the input is split at one byte only and
nothing is special. With `-I` every line is one item, put in place of the replacement string in
the command's arguments.
-/

namespace Chatbot.Shell

/-! ## Options read in order -/

/-- How an option takes an argument. -/
inductive ArgTaking where
  /-- It takes none. -/
  | none
  /-- It takes one: the rest of its word, or the next word. -/
  | required
  /-- It may take one, only within its own word. -/
  | attached
  deriving DecidableEq, Repr

/-- Read options up to the first operand, as `getopt` does when it may not reorder
arguments: letters grouped in a word, long options abbreviated to any prefix that names one,
`--` ending the options. The options in order and the words from the first operand on, or
the message of the first bad option. -/
def readOptionsInOrder (letters : List (UInt8 × ArgTaking)) (longs : List (String × ArgTaking)) :
    Nat → List Bytes → List ToolOption → Except String (List ToolOption × List Bytes)
  | 0, args, opts => .ok (opts, args)
  | _, [], opts => .ok (opts, [])
  | fuel + 1, a :: rest, opts =>
    match a with
    | [0x2D, 0x2D] => .ok (opts, rest)
    | 0x2D :: 0x2D :: name =>
      let text := textOf name
      let (word, value) := match text.splitOn "=" with
        | w :: v :: more => (w, some (rawOf (String.intercalate "=" (v :: more))))
        | _ => (text, none)
      let found : Option (String × ArgTaking) := match longs.find? (·.1 = word) with
        | some l => some l
        | none =>
          match longs.filter (·.1.startsWith word) with
          | [l] => some l
          | _ => none
      match found with
      | none => .error s!"unrecognized option '--{word}'"
      | some (full, .attached) => readOptionsInOrder letters longs fuel rest (opts ++ [ToolOption.long full value])
      | some (full, .required) =>
        match value, rest with
        | some v, _ => readOptionsInOrder letters longs fuel rest (opts ++ [ToolOption.long full (some v)])
        | none, v :: rest' => readOptionsInOrder letters longs fuel rest' (opts ++ [ToolOption.long full (some v)])
        | none, [] => .error s!"option '--{full}' requires an argument"
      | some (full, .none) =>
        if value.isSome then .error s!"option '--{full}' doesn't allow an argument"
        else readOptionsInOrder letters longs fuel rest (opts ++ [ToolOption.long full none])
    | 0x2D :: c :: more =>
      match grouped (more.length + 1) c more [] with
      | .error e => .error e
      | .ok (found, none) => readOptionsInOrder letters longs fuel rest (opts ++ found)
      | .ok (found, some l) =>
        match rest with
        | v :: rest' => readOptionsInOrder letters longs fuel rest' (opts ++ found ++ [.short l (some v)])
        | [] => .error s!"option requires an argument -- '{textOf [l]}'"
    | _ => .ok (opts, a :: rest)
where
  /-- The options of one word of letters, and the letter that takes the next word as its
  argument, if the word ends with one. -/
  grouped : Nat → UInt8 → Bytes → List ToolOption → Except String (List ToolOption × Option UInt8)
    | 0, _, _, acc => .ok (acc, none)
    | fuel + 1, c, more, acc =>
      match letters.lookup c with
      | none => .error s!"invalid option -- '{textOf [c]}'"
      | some .required =>
        if more.isEmpty then .ok (acc, some c) else .ok (acc ++ [.short c (some more)], none)
      | some .attached =>
        .ok (acc ++ [.short c (if more.isEmpty then none else some more)], none)
      | some .none =>
        match more with
        | [] => .ok (acc ++ [.short c none], none)
        | d :: more' => grouped fuel d more' (acc ++ [.short c none])

/-- The argument of the last option given by a letter or a long name, if any was given:
`some none` for one given without an argument. -/
def lastOption (opts : List ToolOption) (letter : UInt8) (long : String) : Option (Option Bytes) :=
  (opts.filterMap fun o => match o with
    | .short c v => if c = letter then some v else none
    | .long n v => if n = long then some v else none).getLast?

/-! ## Shells -/

/-- Where a shell reads its script. -/
inductive ScriptSource where
  /-- The text given with `-c`. -/
  | command (text : Bytes)
  /-- A file named by the first operand. -/
  | file (path : Bytes)
  /-- The standard input. -/
  | input
  deriving DecidableEq, Repr

/-- The options of a shell that its script sees. -/
structure ShellFlags where
  /-- `-c`: the script is the first operand. -/
  command : Bool := false
  /-- `-s`: the script is the standard input, all operands are parameters. -/
  fromInput : Bool := false
  /-- `-e`: a failing command ends the shell. -/
  errexit : Bool := false
  /-- `-u`: expanding an unset parameter is an error. -/
  nounset : Bool := false
  /-- `-f`: no pathname expansion. -/
  noglob : Bool := false
  deriving DecidableEq, Repr

/-- A shell as its arguments start it. -/
structure ShellStart where
  /-- Where its script comes from. -/
  source : ScriptSource
  /-- `$0`, when the arguments give it. -/
  name : Option Bytes
  /-- The positional parameters. -/
  params : List Bytes
  /-- Its options. -/
  flags : ShellFlags
  deriving DecidableEq, Repr

/-- The option letters a shell takes that change nothing here. -/
def quietShellLetters (bash : Bool) : Bytes :=
  bytesOf (if bash then "abhiklmnprtvxBCDEHPT" else "abhilmnpqvxCEIV")

/-- Set an option by its letter, on after `-` and off after `+`; `none` for a letter that is
not an option. -/
def ShellFlags.setLetter (bash : Bool) (f : ShellFlags) (on : Bool) (c : UInt8) : Option ShellFlags :=
  if c = 0x63 then some { f with command := on }
  else if c = 0x73 then some { f with fromInput := on }
  else if c = 0x65 then some { f with errexit := on }
  else if c = 0x75 then some { f with nounset := on }
  else if c = 0x66 then some { f with noglob := on }
  else if (quietShellLetters bash).contains c then some f
  else none

/-- Set an option by its name, as `-o` gives it. -/
def ShellFlags.setNamed (f : ShellFlags) (on : Bool) (name : Bytes) : ShellFlags :=
  match textOf name with
  | "errexit" => { f with errexit := on }
  | "nounset" => { f with nounset := on }
  | "noglob" => { f with noglob := on }
  | _ => f

/-- The long options `bash` takes before its short ones. -/
def bashLongOptions : List String :=
  ["debug", "debugger", "dump-po-strings", "dump-strings", "help", "init-file", "login",
   "noediting", "noprofile", "norc", "posix", "pretty-print", "rcfile", "restricted", "verbose",
   "version"]

/-- What `bash` writes after a bad option. -/
def bashUsage : String :=
  "Usage:\tbash [GNU long option] [option] ...\n\tbash [GNU long option] [option] script-file ...\n" ++
  "GNU long options:\n" ++ String.join (bashLongOptions.map fun o => "\t--" ++ o ++ "\n") ++
  "Shell options:\n\t-ilrsD or -c command or -O shopt_option\t\t(invocation only)\n" ++
  "\t-abefhkmnptuvxBCEHPT or -o option\n"

/-- Read a shell's options: the options and the words after them, or the message of a bad
option (without the shell's name) and the status it ends with. -/
def readShellOptions (bash : Bool) : Nat → List Bytes → ShellFlags →
    Except (String × Nat) (ShellFlags × List Bytes)
  | 0, args, f => .ok (f, args)
  | _, [], f => .ok (f, [])
  | fuel + 1, a :: rest, f =>
    if a = bytesOf "--" || a = bytesOf "-" then .ok (f, rest)
    else
      match a with
      | 0x2D :: 0x2D :: long =>
        if bash && bashLongOptions.contains (textOf long) then readShellOptions bash fuel rest f
        else if bash then .error (s!"{textOf a}: invalid option\n" ++ bashUsage, 2)
        else .error ("Illegal option --", 2)
      | sign :: letters =>
        if sign = 0x2D || sign = 0x2B then
          match setLetters (sign = 0x2D) letters rest f with
          | .ok (f, rest) => readShellOptions bash fuel rest f
          | .error e => .error e
        else .ok (f, a :: rest)
      | [] => .ok (f, a :: rest)
where
  /-- Set the options of one word of letters; `o` takes the next word as a name. -/
  setLetters (on : Bool) : Bytes → List Bytes → ShellFlags →
      Except (String × Nat) (ShellFlags × List Bytes)
    | [], rest, f => .ok (f, rest)
    | c :: more, rest, f =>
      if c = 0x6F then
        match rest with
        | name :: rest' => setLetters on more rest' (f.setNamed on name)
        | [] => .ok (f, [])
      else
        match f.setLetter bash on c with
        | some f => setLetters on more rest f
        | none =>
          let sign := if on then "-" else "+"
          if bash then .error (s!"{sign}{textOf [c]}: invalid option\n" ++ bashUsage, 2)
          else .error (s!"Illegal option {sign}{textOf [c]}", 2)

/-- Read a shell's arguments: how it starts, or the message of the error (without the shell's
name) and the status it ends with. -/
def readShellArgs (bash : Bool) (args : List Bytes) : Except (String × Nat) ShellStart :=
  match readShellOptions bash (args.length + 1) args {} with
  | .error e => .error e
  | .ok (flags, operands) =>
    if flags.command then
      match operands with
      | [] => .error (if bash then "-c: option requires an argument" else "-c requires an argument", 2)
      | script :: rest => .ok { source := .command script, name := rest.head?, params := rest.drop 1, flags }
    else if flags.fromInput then .ok { source := .input, name := none, params := operands, flags }
    else
      match operands with
      | [] => .ok { source := .input, name := none, params := [], flags }
      | file :: rest => .ok { source := .file file, name := some file, params := rest, flags }

/-! ## `timeout` -/

/-- What `timeout` is asked to do. -/
structure TimeoutJob where
  /-- The time allowed, in milliseconds; `0` allows any time. -/
  limit : Nat
  /-- The signal sent when the time is up. -/
  signal : Nat := 15
  /-- `--preserve-status`: end with the command's status even when it was stopped. -/
  preserve : Bool := false
  /-- `--verbose`: say which signal was sent. -/
  verbose : Bool := false
  /-- The command and its arguments. -/
  command : List Bytes
  deriving DecidableEq, Repr

/-- The decimal digits at the start of some bytes, as a number and a count. -/
def leadingDecimal (bs : Bytes) : Nat × Nat :=
  let ds := bs.takeWhile fun b => 0x30 ≤ b && b ≤ 0x39
  (ds.foldl (fun v b => 10 * v + (b - 0x30).toNat) 0, ds.length)

/-- A duration as `timeout` and `sleep` read one: a decimal number, perhaps with a fraction,
then perhaps one of the units `s`, `m`, `h`, `d`; in milliseconds, rounded up. -/
def readDuration (text : Bytes) : Option Nat :=
  let (whole, n) := leadingDecimal text
  let rest := text.drop n
  let (frac, k, rest) := match rest with
    | 0x2E :: more =>
      let (f, k) := leadingDecimal more
      (f, k, more.drop k)
    | _ => (0, 0, rest)
  if n + k = 0 then none
  else
    let unit : Option Nat := match rest with
      | [] | [0x73] => some 1
      | [0x6D] => some 60
      | [0x68] => some 3600
      | [0x64] => some 86400
      | _ => none
    unit.map fun u =>
      let scale := Nat.pow 10 k
      let num := (whole * scale + frac) * u * 1000
      (num + scale - 1) / scale

/-- Read `timeout`'s arguments: the job, or the message of the error, ended by a line feed. -/
def readTimeoutArgs (args : List Bytes) : Except String TimeoutJob :=
  let tryHelp := "Try 'timeout --help' for more information.\n"
  let letters : List (UInt8 × ArgTaking) :=
    [(0x6B, .required), (0x73, .required), (0x76, .none), (0x66, .none), (0x70, .none)]
  let longs : List (String × ArgTaking) :=
    [("kill-after", .required), ("signal", .required), ("verbose", .none), ("foreground", .none),
     ("preserve-status", .none)]
  match readOptionsInOrder letters longs (args.length + 1) args [] with
  | .error e => .error s!"timeout: {e}\n{tryHelp}"
  | .ok (opts, operands) =>
    let signalArg := (lastOption opts 0x73 "signal").bind id
    let signal? := match signalArg with
      | none => some 15
      | some s => signalNumber (textOf s)
    match signal?, operands with
    | none, _ => .error s!"timeout: {localeQuote (textOf (signalArg.getD []))}: invalid signal\n{tryHelp}"
    | some _, [] | some _, [_] => .error tryHelp
    | some signal, d :: command =>
      match readDuration d with
      | none => .error s!"timeout: invalid time interval {localeQuote (textOf d)}\n{tryHelp}"
      | some limit =>
        .ok { limit, signal, command,
              preserve := (lastOption opts 0x70 "preserve-status").isSome,
              verbose := (lastOption opts 0x76 "verbose").isSome }

/-! ## `xargs` -/

/-- What `xargs` is asked to do. -/
structure XargsJob where
  /-- The byte items are split at with `-0` or `-d`; `none` splits at blanks and line feeds. -/
  delimiter : Option UInt8 := none
  /-- `-n`: the most items a command takes. -/
  maxArgs : Option Nat := none
  /-- `-L`: the most lines a command takes. -/
  maxLines : Option Nat := none
  /-- `-I`: the text replaced by each line. -/
  replace : Option Bytes := none
  /-- `-E`: the item that ends the input. -/
  eofItem : Option Bytes := none
  /-- `-r`: run nothing when there are no items. -/
  noEmpty : Bool := false
  /-- `-t`: write each command line to the error stream before running it. -/
  trace : Bool := false
  /-- `-a`: the file the items are read from, instead of the input. -/
  argFile : Option Bytes := none
  /-- The command and its first arguments. -/
  command : List Bytes
  deriving DecidableEq, Repr

/-- The byte a delimiter argument of `-d` names: one byte, or a backslash escape. -/
def readDelimiter (arg : Bytes) : Option UInt8 :=
  match arg with
  | [b] => some b
  | 0x5C :: c :: more =>
    let simple : List (UInt8 × UInt8) :=
      [(0x61, 7), (0x62, 8), (0x66, 12), (0x6E, 10), (0x72, 13), (0x74, 9), (0x76, 11), (0x5C, 0x5C)]
    match simple.lookup c, more with
    | some b, [] => some b
    | _, _ =>
      if c = 0x78 then
        let v := more.foldl (fun acc d => acc.bind fun a =>
          (digitValue16 (Char.ofNat d.toNat)).map fun x => 16 * a + x) (some 0)
        if more.isEmpty then none else v.bind fun v => if v < 256 then some (UInt8.ofNat v) else none
      else
        let digits := c :: more
        if digits.all (fun d => 0x30 ≤ d && d ≤ 0x37) then
          let v := digits.foldl (fun acc d => 8 * acc + (d - 0x30).toNat) 0
          if v < 256 then some (UInt8.ofNat v) else none
        else none
  | _ => none

/-- A count argument of `xargs`, which must be at least 1. -/
def readXargsCount (letter : String) (arg : Bytes) : Except String Nat :=
  match natOfBytes arg with
  | some 0 => .error s!"xargs: value {textOf arg} for -{letter} option should be >= 1\n"
  | some n => .ok n
  | none => .error s!"xargs: invalid number {localeQuote (textOf arg)} for -{letter} option\n"

/-- Read `xargs`'s arguments: the job, or the message of the error, ended by a line feed. -/
def readXargsArgs (args : List Bytes) : Except String XargsJob := do
  let tryHelp := "Try 'xargs --help' for more information.\n"
  let letters : List (UInt8 × ArgTaking) :=
    [(0x30, .none), (0x61, .required), (0x45, .required), (0x65, .attached), (0x69, .attached),
     (0x49, .required), (0x6C, .attached), (0x4C, .required), (0x6E, .required), (0x6F, .none),
     (0x70, .none), (0x72, .none), (0x73, .required), (0x74, .none), (0x78, .none),
     (0x50, .required), (0x64, .required)]
  let longs : List (String × ArgTaking) :=
    [("null", .none), ("arg-file", .required), ("delimiter", .required), ("eof", .attached),
     ("replace", .attached), ("max-lines", .attached), ("max-args", .required),
     ("open-tty", .none), ("interactive", .none), ("no-run-if-empty", .none),
     ("max-chars", .required), ("verbose", .none), ("exit", .none), ("max-procs", .required),
     ("process-slot-var", .required), ("show-limits", .none)]
  let (opts, command) ← match readOptionsInOrder letters longs (args.length + 1) args [] with
    | .error e => throw s!"xargs: {e}\n{tryHelp}"
    | .ok r => pure r
  let step (job : XargsJob) (o : ToolOption) : Except String XargsJob :=
    match o with
    | .short 0x30 _ | .long "null" _ => pure { job with delimiter := some 0 }
    | .short 0x64 (some d) | .long "delimiter" (some d) =>
      match readDelimiter d with
      | some b => pure { job with delimiter := some b }
      | none => throw ("xargs: Invalid input delimiter specification " ++ localeQuote (textOf d) ++
          ": the delimiter must be either a single character or an escape sequence starting with \\.\n")
    | .short 0x61 (some f) | .long "arg-file" (some f) => pure { job with argFile := some f }
    | .short 0x45 (some e) => pure { job with eofItem := some e }
    | .short 0x65 e | .long "eof" e => pure { job with eofItem := e }
    | .short 0x49 (some r) => pure { job with replace := some r, maxLines := some 1, maxArgs := none }
    | .short 0x69 r | .long "replace" r =>
      pure { job with replace := some (r.getD (bytesOf "\x7b\x7d")), maxLines := some 1, maxArgs := none }
    | .short 0x4C (some n) => do
      let n ← readXargsCount "L" n
      pure { job with maxLines := some n, maxArgs := none }
    | .short 0x6C n | .long "max-lines" n => do
      let n ← match n with
        | some n => readXargsCount "l" n
        | none => pure 1
      pure { job with maxLines := some n, maxArgs := none }
    | .short 0x6E (some n) | .long "max-args" (some n) => do
      let n ← readXargsCount "n" n
      pure { job with maxArgs := some n, maxLines := none }
    | .short 0x72 _ | .long "no-run-if-empty" _ => pure { job with noEmpty := true }
    | .short 0x74 _ | .long "verbose" _ => pure { job with trace := true }
    | _ => pure job
  opts.foldlM step { command := if command.isEmpty then [bytesOf "echo"] else command }

/-- The state of reading items at blanks and quotes. -/
structure ItemReader where
  /-- The bytes of the item being read. -/
  item : Bytes := []
  /-- Whether an item has begun: something other than white space came since the last one
  ended. -/
  started : Bool := false
  /-- The quote open, if any. -/
  quote : Option UInt8 := none
  /-- Whether the byte before was a backslash outside quotes. -/
  escaped : Bool := false
  /-- The items read since the last line ended. -/
  line : List Bytes := []
  deriving DecidableEq, Repr

/-- What reading the input of `xargs` gives: the lines, each with its items, and the error that
ended it, if any. -/
structure XargsInput where
  /-- The lines read, each as the items on it. A line that ends in a blank goes on into the
  next one. -/
  lines : List (List Bytes)
  /-- The message of the error that ended the reading. -/
  error : Option String
  deriving DecidableEq, Repr

/-- Whether a byte is a blank for `xargs`: a space or a tab. -/
def isXargsBlank (b : UInt8) : Bool := b = 0x20 || b = 0x09

/-- Whether a byte is white space, as `xargs` skips it between items. -/
def isXargsSpace (b : UInt8) : Bool := b = 0x20 || (0x09 ≤ b && b ≤ 0x0D)

/-- The message of a quote left open. -/
def unmatchedQuote (q : UInt8) : String :=
  let kind := if q = 0x22 then "double" else "single"
  s!"xargs: unmatched {kind} quote; by default quotes are special to xargs unless you use the -0 option\n"

/-- What one byte does to the reading of items. -/
inductive ItemStep where
  /-- Reading goes on, and a line ended if one is given. -/
  | next (r : ItemReader) (ended : Option (List Bytes))
  /-- Reading stops, after the line given, with an error if one is given. -/
  | stop (ended : Option (List Bytes)) (error : Option String)
  deriving DecidableEq, Repr

/-- The items of a line read so far, as a line if there are any. -/
def ItemReader.lineSoFar (r : ItemReader) : Option (List Bytes) :=
  if r.line.isEmpty then none else some r.line

/-- Read one byte of items at blanks and quotes. With `whole` (`-I`) blanks do not end an
item: each line is one. An item equal to `eof` ends the input. An item that is empty when its
line ends is dropped, and the line goes on. -/
def itemStep (whole : Bool) (eof : Option Bytes) (r : ItemReader) (b : UInt8) : ItemStep :=
  if r.escaped then .next { r with item := r.item ++ [b], escaped := false } none
  else
    match r.quote with
    | some q =>
      if b = 0x0A then .stop r.lineSoFar (some (unmatchedQuote q))
      else if b = q then .next { r with quote := none } none
      else .next { r with item := r.item ++ [b] } none
    | none =>
      if !r.started && isXargsSpace b then .next r none
      else if b = 0x0A then
        if r.item.isEmpty then .next { r with started := false } none
        else if some r.item = eof then .stop r.lineSoFar none
        else .next {} (some (r.line ++ [r.item]))
      else if !whole && isXargsBlank b then
        if some r.item = eof then .stop r.lineSoFar none
        else .next { r with line := r.line ++ [r.item], item := [], started := false } none
      else if b = 0x5C then .next { r with escaped := true, started := true } none
      else if b = 0x22 || b = 0x27 then .next { r with quote := some b, started := true } none
      else .next { r with item := r.item ++ [b], started := true } none

/-- The end of the input: the last line, and the error of a quote left open after a part of
an item. -/
def itemsEnd (eof : Option Bytes) (r : ItemReader) : Option (List Bytes) × Option String :=
  if r.item.isEmpty then (r.lineSoFar, none)
  else
    match r.quote with
    | some q => (r.lineSoFar, some (unmatchedQuote q))
    | none =>
      if r.line.isEmpty && some r.item = eof then (none, none)
      else (some (r.line ++ [r.item]), none)

/-- Read items at blanks and quotes, a byte at a time. -/
def blankItems (whole : Bool) (eof : Option Bytes) : Nat → Bytes → ItemReader →
    List (List Bytes) → XargsInput
  | 0, _, _, acc => { lines := acc, error := none }
  | _, [], r, acc =>
    let (last, error) := itemsEnd eof r
    { lines := acc ++ last.toList, error }
  | fuel + 1, b :: rest, r, acc =>
    match itemStep whole eof r b with
    | .next r ended => blankItems whole eof fuel rest r (acc ++ ended.toList)
    | .stop ended error => { lines := acc ++ ended.toList, error }

/-- The items of `xargs`'s input, by line. -/
def xargsItems (job : XargsJob) (data : Bytes) : XargsInput :=
  match job.delimiter with
  | some d =>
    let parts := data.splitOn d
    let parts := if data.getLast? = some d || data.isEmpty then parts.dropLast else parts
    { lines := parts.map fun p => [p], error := none }
  | none => blankItems job.replace.isSome job.eofItem (data.length + 1) data {} []

/-- Pieces of `n` elements, the last perhaps shorter. -/
def piecesOf {α : Type} (n : Nat) (xs : List α) : List (List α) :=
  if n = 0 then [xs] else (List.range ((xs.length + n - 1) / n)).map fun i => (xs.drop (i * n)).take n

/-- The command lines `xargs` runs, in order: the arguments of each. -/
def xargsCommands (job : XargsJob) (input : XargsInput) : List (List Bytes) :=
  match job.replace with
  | some r =>
    input.lines.filterMap fun line =>
      line.head?.map fun item => job.command.map fun a => replaceAll r item a
  | none =>
    let items := input.lines.flatten
    let batches : List (List Bytes) :=
      match job.maxArgs, job.maxLines with
      | some n, _ => piecesOf n items
      | none, some n => (piecesOf n input.lines).map List.flatten
      | none, none => if items.isEmpty then [] else [items]
    let batches := batches.filter (!·.isEmpty)
    if batches.isEmpty && !job.noEmpty && input.error.isNone then [job.command]
    else batches.map (job.command ++ ·)
where
  /-- Replace every occurrence of `r` in `a` by `item`. -/
  replaceAll (r item : Bytes) (a : Bytes) : Bytes :=
    if r.isEmpty then a
    else
      let rec go : Nat → Bytes → Bytes
        | 0, rest => rest
        | fuel + 1, rest =>
          match rest with
          | [] => []
          | c :: more => if r.isPrefixOf rest then item ++ go fuel (rest.drop r.length) else c :: go fuel more
      go (a.length + 1) a

end Chatbot.Shell
