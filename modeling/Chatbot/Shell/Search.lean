import Chatbot.Shell.Posix
import Chatbot.Shell.Tools

/-!
# Searching lines

`grep` prints the lines of its inputs that match one of its patterns: basic regexes by
default, extended ones with `-E`, fixed texts with `-F`. A pattern argument may hold several
patterns, one per line, and `-e` adds more.

* `-i` ignores case, `-v` selects the lines that do not match, `-x` needs the whole line to
  match and `-w` a whole word;
* `-c` prints counts, `-l` (`-L`) the names of inputs with (without) a selected line, `-q`
  nothing, `-o` each match alone;
* `-n` puts the line number before a line, and the input's name goes first when there are
  several inputs (`-H` always, `-h` never);
* `-m n` stops after `n` selected lines, `-s` keeps quiet about missing inputs.

The status is 0 when a line was selected, 1 when none was, and 2 on an error (a missing input
or a bad pattern), unless `-q` found a line.
-/

namespace Chatbot.Shell

/-- The options of `grep`. -/
structure GrepOptions where
  /-- `-E`. -/
  extended : Bool := false
  /-- `-F`. -/
  fixed : Bool := false
  /-- `-i`. -/
  fold : Bool := false
  /-- `-v`. -/
  invert : Bool := false
  /-- `-c`. -/
  count : Bool := false
  /-- `-n`. -/
  numbers : Bool := false
  /-- `-o`. -/
  only : Bool := false
  /-- `-q`. -/
  quiet : Bool := false
  /-- `-s`. -/
  silent : Bool := false
  /-- `-x`. -/
  wholeLine : Bool := false
  /-- `-w`. -/
  wholeWord : Bool := false
  /-- `-l`. -/
  listMatching : Bool := false
  /-- `-L`. -/
  listOthers : Bool := false
  /-- `-h` (`some false`) or `-H` (`some true`). -/
  names : Option Bool := none
  /-- `-m`. -/
  maxCount : Option Nat := none
  /-- `-b`: the byte offset before each line. -/
  offsets : Bool := false
  /-- `-A`: lines of context after a selected line. -/
  after : Nat := 0
  /-- `-B`: lines of context before a selected line. -/
  before : Nat := 0
  /-- Whether `-A`, `-B` or `-C` was given. -/
  context : Bool := false
  /-- Patterns from `-e`. -/
  patterns : List Bytes := []
  /-- Whether `-e` was given. -/
  givenPatterns : Bool := false
  /-- Operands. -/
  operands : List Bytes := []
  /-- An unknown option. -/
  bad : Option String := none

/-- Apply one option letter; `none` when it takes an argument. -/
def GrepOptions.flag (o : GrepOptions) (c : UInt8) : Option GrepOptions :=
  match c with
  | 0x45 => some { o with extended := true, fixed := false }
  | 0x46 => some { o with fixed := true }
  | 0x47 => some { o with extended := false, fixed := false }
  | 0x50 => some { o with extended := true, fixed := false }
  | 0x69 | 0x79 => some { o with fold := true }
  | 0x76 => some { o with invert := true }
  | 0x63 => some { o with count := true }
  | 0x6E => some { o with numbers := true }
  | 0x6F => some { o with only := true }
  | 0x71 => some { o with quiet := true }
  | 0x73 => some { o with silent := true }
  | 0x78 => some { o with wholeLine := true }
  | 0x77 => some { o with wholeWord := true }
  | 0x6C => some { o with listMatching := true }
  | 0x4C => some { o with listOthers := true }
  | 0x68 => some { o with names := some false }
  | 0x48 => some { o with names := some true }
  | 0x62 => some { o with offsets := true }
  | _ => none

/-- Read the arguments of `grep`. -/
def grepOptions : Nat → List Bytes → GrepOptions → GrepOptions
  | 0, _, o => o
  | _, [], o => o
  | fuel + 1, a :: rest, o =>
    let s := textOf a
    if s = "--" then { o with operands := o.operands ++ rest }
    else if s = "--ignore-case" then grepOptions fuel rest { o with fold := true }
    else if s = "--invert-match" then grepOptions fuel rest { o with invert := true }
    else if s = "--count" then grepOptions fuel rest { o with count := true }
    else if s = "--byte-offset" then grepOptions fuel rest { o with offsets := true }
    else if s.startsWith "--color" || s.startsWith "--colour" then grepOptions fuel rest o
    else if s.startsWith "--" then { o with bad := some s!"unrecognized option '{s}'" }
    else if s.startsWith "-" && s.length > 1 then
      match a.drop 1 with
      | c :: more =>
        if 0x30 ≤ c && c ≤ 0x39 then
          let ds := (c :: more).takeWhile fun b => 0x30 ≤ b && b ≤ 0x39
          let more' := (c :: more).drop ds.length
          let n := ds.foldl (fun v b => 10 * v + (b - 0x30).toNat) 0
          let o' := { o with after := n, before := n, context := true }
          if more'.isEmpty then grepOptions fuel rest o' else grepOptions fuel ((0x2D :: more') :: rest) o'
        else if c = 0x41 || c = 0x42 || c = 0x43 then
          let (value, rest') : Option Bytes × List Bytes :=
            if more.isEmpty then (rest.head?, rest.drop 1) else (some more, rest)
          match value with
          | none => { o with bad := some s!"option requires an argument -- '{textOf [c]}'" }
          | some v =>
            match natOfBytes v with
            | some n =>
              let o := { o with context := true }
              let o := if c = 0x41 then { o with after := n }
                else if c = 0x42 then { o with before := n }
                else { o with after := n, before := n }
              grepOptions fuel rest' o
            | none => { o with bad := some s!"{textOf v}: invalid context length argument" }
        else if c = 0x65 || c = 0x6D then
          let (value, rest') : Option Bytes × List Bytes :=
            if more.isEmpty then (rest.head?, rest.drop 1) else (some more, rest)
          match value with
          | none => { o with bad := some s!"option requires an argument -- '{textOf [c]}'" }
          | some v =>
            if c = 0x65 then
              grepOptions fuel rest' { o with patterns := o.patterns ++ [v], givenPatterns := true }
            else
              match natOfBytes v with
              | some n => grepOptions fuel rest' { o with maxCount := some n }
              | none => { o with bad := some s!"invalid max count" }
        else
          match o.flag c with
          | some o' =>
            if more.isEmpty then grepOptions fuel rest o'
            else grepOptions fuel ((0x2D :: more) :: rest) o'
          | none => { o with bad := some s!"invalid option -- '{textOf [c]}'" }
      | [] => grepOptions fuel rest { o with operands := o.operands ++ [a] }
    else grepOptions fuel rest { o with operands := o.operands ++ [a] }

/-- A fixed text as a pattern. -/
def fixedRx (fold : Bool) (t : Bytes) : Rx :=
  t.foldr (fun b r => .cat (literalRx fold b) r) .empty

/-- The ways patterns match a line from a start: each end. -/
def endsFrom (pats : List Rx) (fold : Bool) (hay : Array UInt8) (s : Nat) : List Nat :=
  pats.flatMap fun rx => (rx.run hay fold s noCaps).map Prod.fst

/-- Whether a match from `s` to `e` stands as a whole word. -/
def wholeWordAt (hay : Array UInt8) (s e : Nat) : Bool :=
  !wordBefore hay s && !wordByteAt hay e

/-- The matches of a line that count under `-x` and `-w`, leftmost first, each the longest
from its start. -/
def lineMatchesAt (o : GrepOptions) (pats : List Rx) (hay : Array UInt8) (s : Nat) : Option Nat :=
  let ends := endsFrom pats o.fold hay s
  let ok := ends.filter fun e =>
    if o.wholeLine then s = 0 && e = hay.size
    else if o.wholeWord then wholeWordAt hay s e
    else true
  ok.max?

/-- Whether a line matches. -/
def lineMatches (o : GrepOptions) (pats : List Rx) (line : Bytes) : Bool :=
  let hay := line.toArray
  if o.wholeLine then (lineMatchesAt o pats hay 0).isSome
  else (List.range (hay.size + 1)).any fun s => (lineMatchesAt o pats hay s).isSome

/-- The non-empty matches of a line, left to right, each with where it starts. -/
def lineMatchTexts (o : GrepOptions) (pats : List Rx) (line : Bytes) : List (Nat × Bytes) :=
  let hay := line.toArray
  let rec go : Nat → Nat → List (Nat × Bytes) → List (Nat × Bytes)
    | 0, _, acc => acc
    | fuel + 1, pos, acc =>
      if pos > hay.size then acc
      else
        match lineMatchesAt o pats hay pos with
        | some e =>
          if e > pos then go fuel e (acc ++ [(pos, (hay.extract pos e).toList)])
          else go fuel (pos + 1) acc
        | none => go fuel (pos + 1) acc
  go (hay.size + 2) 0 []

/-- The lines `grep` prints around the selected ones: each index with whether it is selected,
in order. A line is printed when selected, or within `before` lines before a selected one, or
within `after` lines after one. -/
def linesWithContext (o : GrepOptions) (count : Nat) (selected : List Nat) : List (Nat × Bool) :=
  (List.range count).filterMap fun i =>
    if selected.contains i then some (i, true)
    else if selected.any (fun j => (j < i && i ≤ j + o.after) || (i < j && j ≤ i + o.before)) then
      some (i, false)
    else none

/-- `grep`. -/
def grepTool (files : List (String × Bytes)) (stdin : Bytes) (args : List Bytes) : ToolRun :=
  let o := grepOptions (args.length * 4 + 4) args {}
  match o.bad with
  | some msg =>
    ToolRun.failureWith s!"grep: {msg}\nUsage: grep [OPTION]... PATTERNS [FILE]...\nTry 'grep --help' for more information." 2
  | none =>
    let (patternArgs, names) : List Bytes × List Bytes :=
      if o.givenPatterns then (o.patterns, o.operands)
      else match o.operands with
        | p :: rest => ([p], rest)
        | [] => ([], [])
    if patternArgs.isEmpty && !o.givenPatterns then
      ToolRun.failureWith "Usage: grep [OPTION]... PATTERNS [FILE]...\nTry 'grep --help' for more information." 2
    else
      let texts := patternArgs.flatMap fun p => p.splitOn 0x0A
      let compiled : Except String (List Rx) := texts.mapM fun t =>
        if o.fixed then .ok (fixedRx o.fold t) else parseRxWith true true t o.extended o.fold
      match compiled with
      | .error e => ToolRun.failureWith s!"grep: {e}" 2
      | .ok pats =>
        let names := if names.isEmpty then [bytesOf "-"] else names
        let showNames := o.names.getD (names.length > 1)
        let step (acc : Bytes × Bytes × Bool × Bool × Bool) (n : Bytes) :
            Bytes × Bytes × Bool × Bool × Bool :=
          let (out, err, anySelected, anyError, printedBefore) := acc
          let shown := if textOf n = "-" then bytesOf "(standard input)" else n
          match readInput files stdin (textOf n) with
          | none =>
            let msg := if o.silent then [] else rawOf s!"grep: {textOf n}: No such file or directory\n"
            (out, err ++ msg, anySelected, true, printedBefore)
          | some data =>
            let lines := (splitLines data).zipIdx
            let selected := lines.filter fun (l, _) => lineMatches o pats l != o.invert
            let selected := match o.maxCount with
              | some m => selected.take m
              | none => selected
            let starts := ((splitLines data).foldl (fun (acc : List Nat × Nat) l =>
              (acc.1 ++ [acc.2], acc.2 + l.length + 1)) ([], 0)).1
            let marked (i : Nat) (sep : UInt8) (extra : Nat) : Bytes :=
              (if showNames then shown ++ [sep] else []) ++
              (if o.numbers then decimalBytes (i + 1) ++ [sep] else []) ++
              (if o.offsets then decimalBytes (starts.getD i 0 + extra) ++ [sep] else [])
            let prefixOf (i : Nat) : Bytes := marked i 0x3A 0
            let withContext : Bytes × Bool :=
              let shownLines := linesWithContext o lines.length (selected.map Prod.snd)
              (shownLines.foldl (fun (acc : Bytes × Option Nat × Bool) (i, sel) =>
                let (text, prev, printed) := acc
                let gap := match prev with
                  | some p => decide (p + 1 < i)
                  | none => printed
                let line := (lines.getD i ([], 0)).1
                (text ++ (if gap then bytesOf "--\n" else []) ++
                  marked i (if sel then 0x3A else 0x2D) 0 ++ line ++ [0x0A], some i, printed))
                ([], none, printedBefore)).1 |> fun t => (t, printedBefore || !shownLines.isEmpty)
            let body : Bytes :=
              if o.quiet then []
              else if o.listMatching then (if selected.isEmpty then [] else shown ++ [0x0A])
              else if o.listOthers then (if selected.isEmpty then shown ++ [0x0A] else [])
              else if o.count then
                (if showNames then shown ++ [0x3A] else []) ++ decimalBytes selected.length ++ [0x0A]
              else if o.only then
                if o.invert then []
                else (selected.flatMap fun (l, i) =>
                  (lineMatchTexts o pats l).flatMap fun (at_, m) => marked i 0x3A at_ ++ m ++ [0x0A])
              else if o.context then withContext.1
              else selected.flatMap fun (l, i) => prefixOf i ++ l ++ [0x0A]
            let printed := printedBefore || (o.context && withContext.2)
            (out ++ body, err, anySelected || !selected.isEmpty, anyError, printed)
        let (out, err, anySelected, anyError, _) := names.foldl step ([], [], false, false, false)
        let status := if anyError && !(o.quiet && anySelected) then 2 else if anySelected then 0 else 1
        let readStdin := names.contains (bytesOf "-")
        let stoppedEarly : Bool := readStdin &&
          let selected := ((splitLines stdin).filter fun l => lineMatches o pats l != o.invert).length
          ((o.quiet || o.listMatching) && selected > 0) ||
            (match o.maxCount with
              | some m => selected ≥ m
              | none => false)
        { out, err, status, readStdin, stoppedEarly }

end Chatbot.Shell
