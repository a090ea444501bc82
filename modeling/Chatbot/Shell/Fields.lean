import Chatbot.Shell.Tools

/-!
# `cut` and `uniq`

`cut` keeps parts of each line: bytes (`-b`), characters (`-c`, the same as bytes) or fields
separated by a delimiter (`-f`, with `-d`, a tab by default), chosen by a list of positions
and ranges such as `1,3-5,7-`. `--complement` keeps the others, `--output-delimiter` joins
what is kept, and `-s` drops lines without the delimiter, which are otherwise kept whole.

`uniq` writes one line of each run of equal adjacent lines. Lines are compared after
skipping `-f` fields and `-s` bytes, on at most `-w` bytes, ignoring case with `-i`; `-c`
prefixes each line with the length of its run, `-d` keeps only runs of more than one line,
`-u` only runs of one, and `-D` writes every line of the runs of more than one.
-/

namespace Chatbot.Shell

/-! ## Position lists -/

/-- A closed range of positions, counting from one; the end may be past any line. -/
structure PositionRange where
  /-- The first position. -/
  first : Nat
  /-- The last position. -/
  last : Nat
  deriving DecidableEq, Repr

/-- The largest position, for an open-ended range. -/
def openEnd : Nat := Nat.pow 2 64 - 1

/-- The state of reading a list of positions. -/
structure ListReader where
  /-- The ranges read so far. -/
  ranges : List PositionRange := []
  /-- The number being read. -/
  value : Nat := 0
  /-- The start of the range being read. -/
  initial : Nat := 1
  /-- Whether a number came before the dash. -/
  lhs : Bool := false
  /-- Whether a number came after the dash. -/
  rhs : Bool := false
  /-- Whether a dash was read. -/
  dash : Bool := false
  deriving Repr

/-- Read a list of positions, as `cut -b`, `-c` and `-f` take it: numbers and ranges `N-M`,
`N-` and `-M`, separated by commas or blanks. The message tells what is wrong. -/
def readPositions (fields : Bool) (spec : Bytes) : Except String (List PositionRange) :=
  let zeroMsg := if fields then "fields are numbered from 1"
    else "byte/character positions are numbered from 1"
  let rec go : Nat → ListReader → Bytes → Except String (List PositionRange)
    | 0, st, _ => .ok st.ranges
    | fuel + 1, st, rest =>
      let c := rest.head?
      if c = some 0x2D then
        if st.dash then .error (if fields then "invalid field range" else "invalid byte or character range")
        else if st.lhs && st.value = 0 then .error zeroMsg
        else go fuel { st with dash := true, initial := if st.lhs then st.value else 1, value := 0 } rest.tail
      else if c = none || c = some 0x2C || c = some 0x20 || c = some 0x09 then
        let closed : Except String ListReader :=
          if st.dash then
            if !st.lhs && !st.rhs then .error "invalid range with no endpoint: -"
            else if !st.rhs then .ok { st with ranges := st.ranges ++ [⟨st.initial, openEnd⟩] }
            else if st.value < st.initial then .error "invalid decreasing range"
            else .ok { st with ranges := st.ranges ++ [⟨st.initial, st.value⟩] }
          else if st.value = 0 then .error zeroMsg
          else .ok { st with ranges := st.ranges ++ [⟨st.value, st.value⟩] }
        match closed with
        | .error e => .error e
        | .ok st =>
          let st := { st with value := 0, dash := false, lhs := false, rhs := false }
          if c = none then .ok st.ranges else go fuel st rest.tail
      else
        match c with
        | some d =>
          if 0x30 ≤ d && d ≤ 0x39 then
            let st := if st.dash then { st with rhs := true } else { st with lhs := true }
            go fuel { st with value := 10 * st.value + (d - 0x30).toNat } rest.tail
          else
            let what := if fields then "invalid field value" else "invalid byte/character position"
            .error s!"{what} {localeQuote (textOf rest)}"
        | none => .ok st.ranges
  go (spec.length + 2) {} spec

/-- Ranges sorted by their start and merged where they overlap or touch. -/
def mergeRanges (rs : List PositionRange) : List PositionRange :=
  let sorted := rs.mergeSort fun a b => a.first ≤ b.first
  (sorted.foldl (fun (acc : List PositionRange) r =>
    match acc with
    | p :: more => if r.first ≤ p.last + 1 then ⟨p.first, max p.last r.last⟩ :: more else r :: acc
    | [] => [r]) []).reverse

/-- The ranges of the positions that merged ranges leave out. -/
def complementRanges (rs : List PositionRange) : List PositionRange :=
  let (acc, next) := rs.foldl (fun (acc : List PositionRange × Nat) r =>
    let (out, next) := acc
    let out := if next < r.first then out ++ [⟨next, r.first - 1⟩] else out
    (out, if r.last = openEnd then openEnd else r.last + 1)) ([], 1)
  if next = openEnd then acc else acc ++ [⟨next, openEnd⟩]

/-- The range a position is in, by its index in the merged list. -/
def rangeIndexOf (rs : List PositionRange) (pos : Nat) : Option Nat :=
  rs.findIdx? fun r => r.first ≤ pos && pos ≤ r.last

/-! ## `cut` -/

/-- What `cut` was asked to do. -/
structure CutJob where
  /-- `b`, `c` or `f`, with its list. -/
  mode : Option (UInt8 × Bytes) := none
  /-- The delimiter of `-d`. -/
  delimiter : Option UInt8 := none
  /-- `--output-delimiter`. -/
  outputDelimiter : Option Bytes := none
  /-- `-s`. -/
  onlyDelimited : Bool := false
  /-- `--complement`. -/
  complement : Bool := false
  /-- `-z`. -/
  zero : Bool := false
  deriving Repr

/-- Read the arguments of `cut`: the job and the files, or the message and whether the hint
about `--help` follows it. -/
def readCutJob (args : List Bytes) : Except (String × Bool) (CutJob × List Bytes) := do
  let letters : List (UInt8 × Bool) :=
    [(0x62, true), (0x63, true), (0x66, true), (0x64, true), (0x6E, false), (0x73, false),
     (0x7A, false)]
  let longs : List (String × Bool) :=
    [("bytes", true), ("characters", true), ("fields", true), ("delimiter", true),
     ("only-delimited", false), ("zero-terminated", false), ("complement", false),
     ("output-delimiter", true)]
  let (opts, files) ← match readToolOptions letters longs (args.length + 1) args [] [] with
    | .ok r => pure r
    | .error e => throw (e, true)
  let mut job : CutJob := {}
  for opt in opts do
    let (c, arg) : Option UInt8 × Option Bytes := match opt with
      | .short c a => (some c, a)
      | .long "bytes" a => (some 0x62, a)
      | .long "characters" a => (some 0x63, a)
      | .long "fields" a => (some 0x66, a)
      | .long "delimiter" a => (some 0x64, a)
      | .long "only-delimited" a => (some 0x73, a)
      | .long "zero-terminated" a => (some 0x7A, a)
      | .long "complement" a => (some 0x01, a)
      | .long _ a => (some 0x02, a)
    match c with
    | some 0x62 | some 0x63 | some 0x66 =>
      if job.mode.isSome then throw ("only one list may be specified", true)
      job := { job with mode := some (c.getD 0, arg.getD []) }
    | some 0x64 =>
      match arg.getD [] with
      | [] => job := { job with delimiter := some 0 }
      | [d] => job := { job with delimiter := some d }
      | _ => throw ("the delimiter must be a single character", true)
    | some 0x73 => job := { job with onlyDelimited := true }
    | some 0x7A => job := { job with zero := true }
    | some 0x01 => job := { job with complement := true }
    | some 0x02 =>
      job := { job with outputDelimiter := some (match arg.getD [] with
        | [] => [0]
        | d => d) }
    | _ => pure ()
  match job.mode with
  | none => throw ("you must specify a list of bytes, characters, or fields", true)
  | some (m, _) =>
    if job.delimiter.isSome && m != 0x66 then
      throw ("an input delimiter may be specified only when operating on fields", true)
    if job.onlyDelimited && m != 0x66 then
      throw ("suppressing non-delimited lines makes sense\n\tonly when operating on fields", true)
  return (job, files)

/-- The parts of one line that `cut` keeps. -/
def cutLine (job : CutJob) (fields : Bool) (ranges : List PositionRange) (line : Bytes) :
    Option Bytes :=
  if fields then
    let d := job.delimiter.getD 0x09
    if !line.contains d then (if job.onlyDelimited then none else some line)
    else
      let parts := line.splitOn d
      let kept := (parts.zipIdx 1).filter fun (_, i) => (rangeIndexOf ranges i).isSome
      let sep := job.outputDelimiter.getD [d]
      some (sep.intercalate (kept.map Prod.fst))
  else
    let sep := job.outputDelimiter
    let kept := (line.zipIdx 1).filterMap fun (b, i) => (rangeIndexOf ranges i).map (b, i, ·)
    let (out, _) := kept.foldl (fun (acc : Bytes × Option Nat) (b, _, r) =>
      let (out, prev) := acc
      let gap := match sep, prev with
        | some s, some p => if p != r then s else []
        | _, _ => []
      (out ++ gap ++ [b], some r)) ([], none)
    some out

/-- `cut`: the chosen parts of each line of the inputs. -/
def cutTool (files : List (String × Bytes)) (stdin : Bytes) (args : List Bytes) : ToolRun :=
  match readCutJob args with
  | .error (e, hint) =>
    if hint then usageFailure "cut" e else ToolRun.failure s!"cut: {e}"
  | .ok (job, names) =>
    let (m, spec) := job.mode.getD (0x66, [])
    let fields := m = 0x66
    match readPositions fields spec with
    | .error e => usageFailure "cut" e
    | .ok rs =>
      let merged := mergeRanges rs
      let ranges := if job.complement then complementRanges merged else merged
      let sep : UInt8 := if job.zero then 0 else 0x0A
      let names := if names.isEmpty then [bytesOf "-"] else names
      let each (name : Bytes) : Bytes × Bytes :=
        match readInput files stdin (textOf name) with
        | none => ([], rawOf s!"cut: {textOf name}: No such file or directory\n")
        | some data =>
          let records := match data.splitOn sep with
            | [] => []
            | parts => if data.isEmpty || data.getLast? = some sep then parts.dropLast else parts
          (records.foldr (fun l acc =>
            match cutLine job fields ranges l with
            | some o => o ++ sep :: acc
            | none => acc) [], [])
      let results := names.map each
      { out := results.flatMap Prod.fst, err := results.flatMap Prod.snd,
        status := if results.any (!·.2.isEmpty) then 1 else 0, readStdin := fromStdin names }

/-! ## `uniq` -/

/-- What `uniq` was asked to do. -/
structure UniqJob where
  /-- `-c`. -/
  count : Bool := false
  /-- Write runs of one line (no `-d`). -/
  unique : Bool := true
  /-- Write the first line of longer runs (no `-u`). -/
  firstRepeated : Bool := true
  /-- `-D`: write the later lines of longer runs too. -/
  laterRepeated : Bool := false
  /-- How `-D` separates runs: `0` not, `1` before each, `2` between them. -/
  delimit : Nat := 0
  /-- How `--group` separates runs, if given: `0` between them, `1` before each, `2` after
  each, `3` before and after each. -/
  grouping : Option Nat := none
  /-- Whether `-c`, `-d`, `-D` or `-u` was given. -/
  chosen : Bool := false
  /-- `-f`. -/
  skipFields : Nat := 0
  /-- `-s`. -/
  skipChars : Nat := 0
  /-- `-w`. -/
  checkChars : Option Nat := none
  /-- `-i`. -/
  ignoreCase : Bool := false
  /-- `-z`. -/
  zero : Bool := false
  deriving Repr

/-- The part of a line `uniq` compares. -/
def UniqJob.compared (job : UniqJob) (line : Bytes) : Bytes :=
  let arr := line.toArray
  let blank (b : UInt8) : Bool := b = 0x20 || b = 0x09
  let rec skip : Nat → Nat → Nat
    | 0, i => i
    | n + 1, i =>
      if i < arr.size then
        skip n (skipBytes (fun b => !blank b) arr arr.size (skipBytes blank arr arr.size i))
      else i
  let i := skip job.skipFields 0
  let i := i + min job.skipChars (arr.size - i)
  let rest := line.drop i
  let rest := match job.checkChars with
    | some w => rest.take w
    | none => rest
  if job.ignoreCase then rest.map fun b => if 0x61 ≤ b && b ≤ 0x7A then b - 32 else b else rest

/-- Read a count of `uniq`. -/
def uniqCount (arg : Bytes) (what : String) : Except String Nat :=
  match natOfBytes arg with
  | some n => .ok n
  | none => .error s!"{textOf arg}: {what}"

/-- Read the arguments of `uniq`. -/
def readUniqJob (args : List Bytes) : Except (String × Bool) (UniqJob × List Bytes) := do
  let letters : List (UInt8 × Bool) :=
    [(0x63, false), (0x64, false), (0x44, false), (0x75, false), (0x69, false), (0x7A, false),
     (0x66, true), (0x73, true), (0x77, true)]
  let longs : List (String × Bool) :=
    [("count", false), ("repeated", false), ("all-repeated", false), ("unique", false),
     ("ignore-case", false), ("zero-terminated", false), ("skip-fields", true),
     ("skip-chars", true), ("check-chars", true), ("group", false)]
  let optional := ["all-repeated", "group"]
  let (opts, files) ← match readOptionsWith optional letters longs (args.length + 1) args [] [] with
    | .ok r => pure r
    | .error e => throw (e, true)
  let mut job : UniqJob := {}
  for opt in opts do
    let (c, arg) : Option UInt8 × Option Bytes := match opt with
      | .short c a => (some c, a)
      | .long "count" a => (some 0x63, a)
      | .long "repeated" a => (some 0x64, a)
      | .long "all-repeated" a => (some 0x44, a)
      | .long "unique" a => (some 0x75, a)
      | .long "ignore-case" a => (some 0x69, a)
      | .long "zero-terminated" a => (some 0x7A, a)
      | .long "skip-fields" a => (some 0x66, a)
      | .long "skip-chars" a => (some 0x73, a)
      | .long "check-chars" a => (some 0x77, a)
      | .long "group" a => (some 0x47, a)
      | .long _ a => (none, a)
    let lift (r : Except String Nat) : Except (String × Bool) Nat :=
      match r with
      | .ok n => .ok n
      | .error e => .error (e, false)
    let method (option : String) (choices : List String) (v : Bytes) :
        Except (String × Bool) Nat :=
      match argMatch option choices v with
      | .ok n => .ok n
      | .error e => .error (e, true)
    match c with
    | some 0x63 => job := { job with count := true, chosen := true }
    | some 0x64 => job := { job with unique := false, chosen := true }
    | some 0x44 =>
      let delimit ← match arg with
        | some v => method "--all-repeated" ["none", "prepend", "separate"] v
        | none => pure 0
      job := { job with unique := false, laterRepeated := true, delimit, chosen := true }
    | some 0x75 => job := { job with firstRepeated := false, chosen := true }
    | some 0x47 =>
      let g ← match arg with
        | some v => method "--group" ["separate", "prepend", "append", "both"] v
        | none => pure 0
      job := { job with grouping := some g }
    | some 0x69 => job := { job with ignoreCase := true }
    | some 0x7A => job := { job with zero := true }
    | some 0x66 =>
      job := { job with skipFields := ← lift (uniqCount (arg.getD []) "invalid number of fields to skip") }
    | some 0x73 =>
      job := { job with skipChars := ← lift (uniqCount (arg.getD []) "invalid number of bytes to skip") }
    | some 0x77 =>
      job := { job with checkChars := some (← lift (uniqCount (arg.getD []) "invalid number of bytes to compare")) }
    | _ => pure ()
  if job.grouping.isSome && job.chosen then
    throw ("--group is mutually exclusive with -c/-d/-D/-u", true)
  if job.laterRepeated && job.count then
    throw ("printing all duplicated lines and repeat counts is meaningless", true)
  match files with
  | _ :: _ :: extra :: _ => throw (s!"extra operand {localeQuote (textOf extra)}", true)
  | _ => return (job, files)

/-- The lines `uniq --group` writes: every line, with a separator between runs (`0`), before
each (`1`), after each (`2`) or both (`3`). -/
def groupLines (job : UniqJob) (grouping : Nat) (sep : UInt8) (lines : List Bytes) : Bytes :=
  let step (acc : Bytes × Option Bytes) (line : Bytes) : Bytes × Option Bytes :=
    let (out, prev) := acc
    let newGroup := match prev with
      | none => true
      | some p => job.compared line != job.compared p
    let mark := newGroup && (grouping = 1 || grouping = 3 ||
      (prev.isSome && (grouping = 2 || grouping = 0)))
    (out ++ (if mark then [sep] else []) ++ line ++ [sep], some line)
  let (out, prev) := lines.foldl step ([], none)
  out ++ (if (grouping = 3 || grouping = 2) && prev.isSome then [sep] else [])

/-- The lines `uniq` writes for its input lines. -/
def uniqLines (job : UniqJob) (sep : UInt8) (lines : List Bytes) : Bytes :=
  let write (line : Bytes) (matched : Bool) (count : Nat) : Bytes :=
    let wanted := if count = 0 then job.unique else if !matched then job.firstRepeated else job.laterRepeated
    if !wanted then []
    else
      let prefixed := if job.count then
          let n := toString (count + 1)
          rawOf (String.ofList (List.replicate (7 - n.length) ' ') ++ n ++ " ")
        else []
      prefixed ++ line ++ [sep]
  match lines with
  | [] => []
  | first :: rest =>
    let step (acc : Bytes × Bytes × Nat × Bool) (line : Bytes) : Bytes × Bytes × Nat × Bool :=
      let (out, prev, count, firstGroup) := acc
      let matched := job.compared line = job.compared prev
      let count' := if matched then count + 1 else count
      let marks : Bytes :=
        if job.delimit = 0 then []
        else if !matched then []
        else if count' = 1 && (job.delimit = 1 || !firstGroup) then [sep] else []
      let firstGroup := if !matched && count' > 0 then false else firstGroup
      if !matched || job.laterRepeated then
        (out ++ marks ++ write prev matched count', line, if matched then count' else 0, firstGroup)
      else (out ++ marks, prev, count', firstGroup)
    let (out, prev, count, _) := rest.foldl step ([], first, 0, true)
    out ++ write prev false count

/-- `uniq`: one line of each run of equal lines of the input. -/
def uniqTool (files : List (String × Bytes)) (stdin : Bytes) (args : List Bytes) : ToolRun :=
  match readUniqJob args with
  | .error (e, hint) => if hint then usageFailure "uniq" e else ToolRun.failure s!"uniq: {e}"
  | .ok (job, names) =>
    let input := (names.head?.getD (bytesOf "-"))
    match readInput files stdin (textOf input) with
    | none => ToolRun.failure s!"uniq: {textOf input}: No such file or directory"
    | some data =>
      let sep : UInt8 := if job.zero then 0 else 0x0A
      let lines := match data.splitOn sep with
        | [] => []
        | parts => if data.isEmpty || data.getLast? = some sep then parts.dropLast else parts
      let out := match job.grouping with
        | some g => groupLines job g sep lines
        | none => uniqLines job sep lines
      let readStdin := input = bytesOf "-"
      match names with
      | [_, o] => if o = bytesOf "-" then { out, readStdin } else { writes := [(textOf o, out)], readStdin }
      | _ => { out, readStdin }

end Chatbot.Shell
