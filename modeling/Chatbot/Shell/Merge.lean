import Chatbot.Shell.Sorting

/-!
# Merging sorted inputs

Two tools walk two sorted inputs side by side.

* `comm` writes the lines found only in the first input, only in the second, and in both, in
  three columns set apart by tabs (`--output-delimiter`); `-1`, `-2`, `-3` leave a column out
  and `--total` adds a line of counts.
* `join` writes, for each pair of lines whose join fields (`-1`, `-2`, `-j`; the first by
  default) are equal, the join field followed by the other fields of both lines. Fields are
  separated by runs of blanks, or by the character of `-t`. `-a` adds the lines of an input
  that pair with none, `-v` writes only those, `-o` chooses the fields to write, `-e` fills
  the missing ones, and `-i` compares fields without regard to case.

Both compare bytes. They check that each input is sorted only once a line has been found that
pairs with nothing (`--check-order`: always; `--nocheck-order`: never): the first line of an
input out of order is reported once, and the run fails at its end.
-/

namespace Chatbot.Shell

/-- How an input's order is checked: only once an unpairable line was seen (`none`), always
(`some true`) or never (`some false`). -/
abbrev OrderCheck := Option Bool

/-- Whether the order is checked now, given whether an unpairable line was seen. -/
def OrderCheck.active (c : OrderCheck) (unpairable : Bool) : Bool :=
  match c with
  | none => unpairable
  | some b => b

/-! ## `comm` -/

/-- What `comm` was asked. -/
structure CommonJob where
  /-- Which columns are written. -/
  columns : Bool × Bool × Bool := (true, true, true)
  /-- How the order is checked. -/
  check : OrderCheck := none
  /-- What sets the columns apart. -/
  delimiter : Bytes := [0x09]
  /-- `--total`. -/
  total : Bool := false
  /-- The byte that ends a line. -/
  eol : UInt8 := 0x0A
  deriving DecidableEq, Repr

/-- The state of a `comm` run. -/
structure CommonRun where
  /-- The output. -/
  out : Bytes := []
  /-- The error output. -/
  err : Bytes := []
  /-- Whether a line found in one input only was seen. -/
  unpairable : Bool := false
  /-- Whether each input was reported out of order. -/
  warned : Bool × Bool := (false, false)
  /-- Whether the run stopped at a line out of order. -/
  stopped : Bool := false
  /-- The counts of the three columns. -/
  counts : Nat × Nat × Nat := (0, 0, 0)
  deriving DecidableEq, Repr

/-- Check that two lines of input `k` (1 or 2) are in order. -/
def CommonRun.checkOrder (j : CommonJob) (r : CommonRun) (k : Nat) (prev cur : Bytes) :
    CommonRun :=
  let warned := if k = 1 then r.warned.1 else r.warned.2
  if j.check.active r.unpairable && !warned && compareLex prev cur > 0 then
    { r with err := r.err ++ rawOf s!"comm: file {k} is not in sorted order\n",
             warned := if k = 1 then (true, r.warned.2) else (r.warned.1, true),
             stopped := j.check == some true }
  else r

/-- Move on in input `k` from its line `p`: check the next line against it, or at the end
the last two lines again. -/
def CommonRun.advance (j : CommonJob) (r : CommonRun) (k : Nat) (lines : Array Bytes) (p : Nat) :
    CommonRun :=
  match lines[p + 1]?, lines[p]? with
  | some next, some cur => r.checkOrder j k cur next
  | none, some cur =>
    if p = 0 then r
    else match lines[p - 1]? with
      | some before => r.checkOrder j k before cur
      | none => r
  | _, _ => r

/-- Write a line in a column (1, 2 or 3), after the delimiters of the columns before it that
are written. -/
def CommonJob.write (j : CommonJob) (column : Nat) (line : Bytes) : Bytes :=
  let (c1, c2, c3) := j.columns
  let shown := if column = 1 then c1 else if column = 2 then c2 else c3
  if !shown then []
  else
    let lead := (if column ≥ 2 && c1 then j.delimiter else []) ++
      (if column = 3 && c2 then j.delimiter else [])
    lead ++ line ++ [j.eol]

/-- Walk the two inputs from lines `i` and `k`. -/
def commonWalk (j : CommonJob) (a b : Array Bytes) : Nat → Nat → Nat → CommonRun → CommonRun
  | 0, _, _, r => r
  | fuel + 1, i, k, r =>
    if r.stopped then r
    else
      match a[i]?, b[k]? with
      | none, none => r
      | x, y =>
        let order : Int := match x, y with
          | none, _ => 1
          | _, none => -1
          | some l1, some l2 => compareLex l1 l2
        let (n1, n2, n3) := r.counts
        let r :=
          if order = 0 then
            { r with out := r.out ++ j.write 3 (y.getD []), counts := (n1, n2, n3 + 1) }
          else if order < 0 then
            { r with out := r.out ++ j.write 1 (x.getD []), counts := (n1 + 1, n2, n3),
                     unpairable := true }
          else
            { r with out := r.out ++ j.write 2 (y.getD []), counts := (n1, n2 + 1, n3),
                     unpairable := true }
        let r := if order ≤ 0 then r.advance j 1 a i else r
        let r := if order ≥ 0 && !r.stopped then r.advance j 2 b k else r
        commonWalk j a b fuel (if order ≤ 0 then i + 1 else i) (if order ≥ 0 then k + 1 else k) r

/-- The lines of an input ended by a byte, a last one without it kept. -/
def linesEndedBy (eol : UInt8) (data : Bytes) : List Bytes :=
  match data.splitOn eol with
  | [] => []
  | parts => if data.getLast? = some eol || data.isEmpty then parts.dropLast else parts

/-- Read the options of `comm`. -/
def readCommonArgs (args : List Bytes) : Except String (CommonJob × List Bytes) :=
  let letters : List (UInt8 × Bool) := [(0x31, false), (0x32, false), (0x33, false), (0x7A, false)]
  let longs : List (String × Bool) :=
    [("check-order", false), ("nocheck-order", false), ("output-delimiter", true),
     ("total", false), ("zero-terminated", false)]
  match readToolOptions letters longs (args.length + 1) args [] [] with
  | .error e => .error e
  | .ok (opts, names) =>
    let job := opts.foldl (fun (j : CommonJob) o =>
      let (c1, c2, c3) := j.columns
      match o with
      | .short 0x31 _ => { j with columns := (false, c2, c3) }
      | .short 0x32 _ => { j with columns := (c1, false, c3) }
      | .short 0x33 _ => { j with columns := (c1, c2, false) }
      | .short 0x7A _ | .long "zero-terminated" _ => { j with eol := 0 }
      | .long "check-order" _ => { j with check := some true }
      | .long "nocheck-order" _ => { j with check := some false }
      | .long "total" _ => { j with total := true }
      | .long "output-delimiter" (some d) => { j with delimiter := if d.isEmpty then [0] else d }
      | _ => j) {}
    .ok (job, names)

/-- Name two operands' inputs, or say what is wrong with the operands. -/
def twoOperands (tool : String) (names : List Bytes) : Except ToolRun (Bytes × Bytes) :=
  match names with
  | [] => .error (usageFailure tool "missing operand")
  | [a] => .error (usageFailure tool s!"missing operand after {localeQuote (textOf a)}")
  | [a, b] => .ok (a, b)
  | _ :: _ :: c :: _ => .error (usageFailure tool s!"extra operand {localeQuote (textOf c)}")

/-- Read an input a tool names, or the message that it does not exist. -/
def readNamed (tool : String) (files : List (String × Bytes)) (stdin : Bytes) (name : Bytes) :
    Except ToolRun Bytes :=
  match readInput files stdin (textOf name) with
  | some d => .ok d
  | none => .error (ToolRun.failure s!"{tool}: {textOf name}: No such file or directory")

/-- `comm`: compare two sorted inputs line by line. -/
def commTool (files : List (String × Bytes)) (stdin : Bytes) (args : List Bytes) : ToolRun :=
  match readCommonArgs args with
  | .error e => usageFailure "comm" e
  | .ok (j, names) =>
    match twoOperands "comm" names with
    | .error r => r
    | .ok (n1, n2) =>
      match readNamed "comm" files stdin n1, readNamed "comm" files stdin n2 with
      | .error r, _ => r
      | _, .error r => r
      | .ok d1, .ok d2 =>
        let a := (linesEndedBy j.eol d1).toArray
        let b := (linesEndedBy j.eol d2).toArray
        let r := commonWalk j a b (a.size + b.size + 1) 0 0 {}
        let readStdin := fromStdin names
        if r.stopped then { out := r.out, err := r.err, status := 1, readStdin, buffered := true }
        else
          let (t1, t2, t3) := r.counts
          let totals := if j.total then
              bytesOf (toString t1) ++ j.delimiter ++ bytesOf (toString t2) ++ j.delimiter ++
                bytesOf (toString t3) ++ j.delimiter ++ bytesOf "total" ++ [j.eol]
            else []
          let unsorted := r.warned.1 || r.warned.2
          { out := r.out ++ totals,
            err := r.err ++ (if unsorted then bytesOf "comm: input is not in sorted order\n" else []),
            status := if unsorted then 1 else 0, readStdin, buffered := true }

/-! ## `join` -/

/-- Whether a byte separates fields when no `-t` is given. -/
def isJoinBlank (c : UInt8) : Bool := c = 0x20 || c = 0x09 || c = 0x0A

/-- The fields of a line separated by runs of blanks, leading blanks skipped; blanks at the
end leave an empty last field. -/
def blankFields : Nat → Bytes → List Bytes
  | 0, _ => []
  | fuel + 1, line =>
    let field := line.takeWhile (!isJoinBlank ·)
    let after := line.drop field.length
    if after.isEmpty then [field]
    else
      let rest := after.dropWhile isJoinBlank
      if rest.isEmpty then [field, []] else field :: blankFields fuel rest

/-- The fields of a line: split at each `-t` character; at runs of blanks without one; the
whole line when `-t` is the line feed. An empty line has none. -/
def joinFields (tab : Option UInt8) (line : Bytes) : List Bytes :=
  if line.isEmpty then []
  else
    match tab with
    | some 0x0A => [line]
    | some t => line.splitOn t
    | none =>
      let body := line.dropWhile isJoinBlank
      if body.isEmpty then [] else blankFields (body.length + 1) body

/-- A field of `join`'s output: the join field (`0`) or a field of an input. -/
inductive OutField where
  /-- The join field. -/
  | key
  /-- Field `n` (from 0) of input `file` (1 or 2). -/
  | field (file : Nat) (n : Nat)
  deriving DecidableEq, Repr

/-- What `join` was asked. -/
structure JoinJob where
  /-- The join field of each input, from 0. -/
  keys : Nat × Nat := (0, 0)
  /-- The field separator. -/
  tab : Option UInt8 := none
  /-- Whether the unpairable lines of each input are written. -/
  unpaired : Bool × Bool := (false, false)
  /-- Whether the pairs are written. -/
  pairs : Bool := true
  /-- What fills a missing field. -/
  empty : Option Bytes := none
  /-- The fields written, when `-o` chooses them. -/
  format : List OutField := []
  /-- `-o auto`. -/
  auto : Bool := false
  /-- `-i`. -/
  ignoreCase : Bool := false
  /-- How the order is checked. -/
  check : OrderCheck := none
  /-- `--header`. -/
  header : Bool := false
  /-- The byte that ends a line. -/
  eol : UInt8 := 0x0A
  deriving DecidableEq, Repr

/-- A byte in upper case, when it is an ASCII letter. -/
def upperAscii (c : UInt8) : UInt8 := if 0x61 ≤ c && c ≤ 0x7A then c - 0x20 else c

/-- Compare the join fields of two lines: an empty field first, then bytes in order (without
regard to case for `-i`). -/
def JoinJob.compare (j : JoinJob) (f1 f2 : List Bytes) (k1 k2 : Nat) : Int :=
  let a := f1.getD k1 []
  let b := f2.getD k2 []
  if a.isEmpty then (if b.isEmpty then 0 else -1)
  else if b.isEmpty then 1
  else if j.ignoreCase then compareLex (a.map upperAscii) (b.map upperAscii)
  else compareLex a b

/-- The separator of `join`'s output fields. -/
def JoinJob.separator (j : JoinJob) : UInt8 := j.tab.getD 0x20

/-- A field as written: itself, or the filler of `-e` when it is missing or empty. -/
def JoinJob.fieldText (j : JoinJob) (fields : List Bytes) (n : Nat) : Bytes :=
  match fields[n]? with
  | some f => if f.isEmpty then j.empty.getD [] else f
  | none => j.empty.getD []

/-- The output line of two lines (either missing for an unpairable line), given the number of
fields `-o auto` takes from each input. -/
def JoinJob.line (j : JoinJob) (autoCounts : Nat × Nat) (l1 l2 : Option (List Bytes)) : Bytes :=
  let f1 := l1.getD []
  let f2 := l2.getD []
  let keyText := if l1.isNone then j.fieldText f2 j.keys.2 else j.fieldText f1 j.keys.1
  let body :=
    if !j.format.isEmpty then
      (j.format.map fun o => match o with
        | .key => keyText
        | .field 1 n => j.fieldText f1 n
        | .field _ n => j.fieldText f2 n).intersperse [j.separator] |>.flatten
    else
      let others (fs : List Bytes) (key : Nat) (count : Nat) : Bytes :=
        ((List.range count).filter (· ≠ key)).flatMap fun i => j.separator :: j.fieldText fs i
      let c1 := if j.auto then autoCounts.1 else f1.length
      let c2 := if j.auto then autoCounts.2 else f2.length
      keyText ++ others f1 j.keys.1 c1 ++ others f2 j.keys.2 c2
  body ++ [j.eol]

/-- The state of a `join` run. -/
structure JoinRun where
  /-- The output. -/
  out : Bytes := []
  /-- The error output. -/
  err : Bytes := []
  /-- Whether a line that pairs with nothing was seen. -/
  unpairable : Bool := false
  /-- Whether each input was reported out of order. -/
  warned : Bool × Bool := (false, false)
  /-- The line of each input read last, to check the next against. -/
  prev : Option Nat × Option Nat := (none, none)
  /-- Whether the run stopped at a line out of order. -/
  stopped : Bool := false
  deriving DecidableEq, Repr

/-- The inputs of a `join` run: the names shown in messages, and the lines with their fields. -/
structure JoinInputs where
  /-- The names of the inputs. -/
  names : String × String
  /-- The lines of each input. -/
  lines : Array Bytes × Array Bytes
  /-- The fields of each line. -/
  fields : Array (List Bytes) × Array (List Bytes)
  deriving Repr

/-- Read line `p` of input `k` (1 or 2): whether there is one; it is checked against the line
read before it. -/
def JoinRun.read (j : JoinJob) (ins : JoinInputs) (r : JoinRun) (k p : Nat) : Bool × JoinRun :=
  let lines := if k = 1 then ins.lines.1 else ins.lines.2
  let fields := if k = 1 then ins.fields.1 else ins.fields.2
  let key := if k = 1 then j.keys.1 else j.keys.2
  if p ≥ lines.size then (false, r)
  else
    let prev := if k = 1 then r.prev.1 else r.prev.2
    let warned := if k = 1 then r.warned.1 else r.warned.2
    let r := { r with prev := if k = 1 then (some p, r.prev.2) else (r.prev.1, some p) }
    match prev with
    | some q =>
      if j.check.active r.unpairable && !warned &&
          j.compare (fields.getD q []) (fields.getD p []) key key > 0 then
        let name := if k = 1 then ins.names.1 else ins.names.2
        (true, { r with
          err := r.err ++ rawOf s!"join: {name}:{p + 1}: is not sorted: " ++ lines.getD p [] ++ [0x0A],
          warned := if k = 1 then (true, r.warned.2) else (r.warned.1, true),
          stopped := j.check == some true })
      else (true, r)
    | none => (true, r)

/-- Read lines of input `k` from `p` on while their join field equals that of `other`'s line:
the first line that differs (or the end), and the run. -/
def JoinRun.readGroup (j : JoinJob) (ins : JoinInputs) (k : Nat) (other : List Bytes) :
    Nat → JoinRun → Nat → Nat × JoinRun
  | 0, r, p => (p, r)
  | fuel + 1, r, p =>
    let (found, r) := r.read j ins k p
    if !found then (p, r)
    else
      let fields := (if k = 1 then ins.fields.1 else ins.fields.2).getD p []
      let same := if k = 1 then j.compare fields other j.keys.1 j.keys.2 = 0
        else j.compare other fields j.keys.1 j.keys.2 = 0
      if same then JoinRun.readGroup j ins k other fuel r (p + 1) else (p, r)

/-- Walk both inputs from lines `i` and `k`: the run and where each input stopped. -/
def joinWalk (j : JoinJob) (ins : JoinInputs) (autoCounts : Nat × Nat) :
    Nat → Nat → Nat → JoinRun → JoinRun × Nat × Nat
  | 0, i, k, r => (r, i, k)
  | fuel + 1, i, k, r =>
    if r.stopped then (r, i, k)
    else
      match ins.fields.1[i]?, ins.fields.2[k]? with
      | some f1, some f2 =>
        let diff := j.compare f1 f2 j.keys.1 j.keys.2
        if diff < 0 then
          let r := if j.unpaired.1 then { r with out := r.out ++ j.line autoCounts (some f1) none } else r
          let (_, r) := r.read j ins 1 (i + 1)
          joinWalk j ins autoCounts fuel (i + 1) k { r with unpairable := true }
        else if diff > 0 then
          let r := if j.unpaired.2 then { r with out := r.out ++ j.line autoCounts none (some f2) } else r
          let (_, r) := r.read j ins 2 (k + 1)
          joinWalk j ins autoCounts fuel i (k + 1) { r with unpairable := true }
        else
          let (e1, r) := r.readGroup j ins 1 f2 (ins.lines.1.size + 1) (i + 1)
          let (e2, r) := r.readGroup j ins 2 f1 (ins.lines.2.size + 1) (k + 1)
          let r := if j.pairs then
              { r with out := r.out ++ ((List.range (e1 - i)).flatMap fun a =>
                  (List.range (e2 - k)).flatMap fun b =>
                    j.line autoCounts (ins.fields.1[i + a]?) (ins.fields.2[k + b]?)) }
            else r
          joinWalk j ins autoCounts fuel e1 e2 r
      | _, _ => (r, i, k)

/-- Read the rest of input `k` from its line `p`, writing each line when it is unpairable; the
lines are read to check their order unless that was turned off. -/
def joinTail (j : JoinJob) (ins : JoinInputs) (autoCounts : Nat × Nat) (k : Nat) :
    Nat → Nat → JoinRun → JoinRun
  | 0, _, r => r
  | fuel + 1, p, r =>
    if r.stopped then r
    else
      let (found, r) := r.read j ins k p
      if !found then r
      else
        let write := if k = 1 then j.unpaired.1 else j.unpaired.2
        let fields := (if k = 1 then ins.fields.1 else ins.fields.2).getD p []
        let r := if write then
            { r with out := r.out ++ (if k = 1 then j.line autoCounts (some fields) none
                                     else j.line autoCounts none (some fields)) }
          else r
        let warned := if k = 1 then r.warned.1 else r.warned.2
        if warned && !write then r else joinTail j ins autoCounts k fuel (p + 1) r

/-- Run `join` over two inputs. -/
def joinRun (j : JoinJob) (ins : JoinInputs) : JoinRun :=
  let (n1, n2) := (ins.lines.1.size, ins.lines.2.size)
  let autoCounts := ((ins.fields.1[0]?.map List.length).getD 0,
    (ins.fields.2[0]?.map List.length).getD 0)
  let r : JoinRun := { prev := (if n1 > 0 then some 0 else none, if n2 > 0 then some 0 else none) }
  let (r, i, k) :=
    if j.header && (n1 > 0 || n2 > 0) then
      let r := { r with out := j.line autoCounts (ins.fields.1[0]?) (ins.fields.2[0]?),
                        prev := (none, none) }
      let (r, i) := if n1 > 0 then ((r.read j ins 1 1).2, 1) else (r, 0)
      let (r, k) := if n2 > 0 then ((r.read j ins 2 1).2, 1) else (r, 0)
      (r, i, k)
    else (r, 0, 0)
  let (r, i, k) := joinWalk j ins autoCounts (n1 + n2 + 1) i k r
  if r.stopped then r
  else
    let checkTail := j.check != some false && !(r.warned.1 && r.warned.2)
    let r :=
      if (j.unpaired.1 || checkTail) && i < n1 then
        let r := if j.unpaired.1 then
            { r with out := r.out ++ j.line autoCounts (ins.fields.1[i]?) none } else r
        let r := if k < n2 then { r with unpairable := true } else r
        joinTail j ins autoCounts 1 (n1 + 1) (i + 1) r
      else r
    if r.stopped then r
    else
      if (j.unpaired.2 || checkTail) && k < n2 then
        let r := if j.unpaired.2 then
            { r with out := r.out ++ j.line autoCounts none (ins.fields.2[k]?) } else r
        let r := if i < n1 then { r with unpairable := true } else r
        joinTail j ins autoCounts 2 (n2 + 1) (k + 1) r
      else r

/-- Read a field number of `-1`, `-2` or `-j`: from 1. -/
def readJoinField (v : Bytes) : Except String Nat :=
  match natOfBytes v with
  | some n => if n = 0 then .error s!"invalid field number: {localeQuote (textOf v)}" else .ok (n - 1)
  | none => .error s!"invalid field number: {localeQuote (textOf v)}"

/-- Read an input number of `-a` or `-v`. -/
def readJoinFile (v : Bytes) : Except String Nat :=
  if v = bytesOf "1" then .ok 1 else if v = bytesOf "2" then .ok 2
  else .error s!"invalid file number: {localeQuote (textOf v)}"

/-- Read the list of `-o`: `0` or `N.M`, separated by commas or blanks. -/
def readJoinFormat (v : Bytes) : Except String (List OutField) :=
  let specs := ((v.splitOn 0x2C).flatMap fun p => (p.splitOn 0x20).flatMap (·.splitOn 0x09)).filter
    (!·.isEmpty)
  specs.mapM fun s =>
    if s = bytesOf "0" then .ok .key
    else
      match s with
      | f :: 0x2E :: n =>
        if f = 0x31 || f = 0x32 then
          match natOfBytes n with
          | some m => if m = 0 then .error s!"invalid field number: {localeQuote (textOf n)}"
            else .ok (.field (f - 0x30).toNat (m - 1))
          | none => .error s!"invalid field number: {localeQuote (textOf n)}"
        else .error s!"invalid file number in field spec: {localeQuote (textOf s)}"
      | _ => .error s!"invalid field specifier: {localeQuote (textOf s)}"

/-- Read the options of `join`: the job and the operands, or the message of a bad option and
whether the hint about `--help` follows it. -/
def readJoinArgs (args : List Bytes) : Except (String × Bool) (JoinJob × List Bytes) :=
  let letters : List (UInt8 × Bool) :=
    [(0x61, true), (0x65, true), (0x69, false), (0x6A, true), (0x6F, true), (0x74, true),
     (0x76, true), (0x31, true), (0x32, true), (0x7A, false)]
  let longs : List (String × Bool) :=
    [("ignore-case", false), ("check-order", false), ("nocheck-order", false),
     ("zero-terminated", false), ("header", false)]
  match readToolOptions letters longs (args.length + 1) args [] [] with
  | .error e => .error (e, true)
  | .ok (opts, names) =>
    let step (acc : Except (String × Bool) JoinJob) (o : ToolOption) : Except (String × Bool) JoinJob :=
      match acc with
      | .error e => .error e
      | .ok j =>
        let lift {α : Type} (r : Except String α) : Except (String × Bool) α :=
          match r with
          | .ok v => .ok v
          | .error e => .error (e, false)
        match o with
        | .short 0x61 (some v) =>
          (lift (readJoinFile v)).map fun f =>
            { j with unpaired := if f = 1 then (true, j.unpaired.2) else (j.unpaired.1, true) }
        | .short 0x76 (some v) =>
          (lift (readJoinFile v)).map fun f =>
            { j with pairs := false,
                     unpaired := if f = 1 then (true, j.unpaired.2) else (j.unpaired.1, true) }
        | .short 0x65 (some v) => .ok { j with empty := some v }
        | .short 0x69 _ | .long "ignore-case" _ => .ok { j with ignoreCase := true }
        | .short 0x6A (some v) => (lift (readJoinField v)).map fun n => { j with keys := (n, n) }
        | .short 0x31 (some v) => (lift (readJoinField v)).map fun n => { j with keys := (n, j.keys.2) }
        | .short 0x32 (some v) => (lift (readJoinField v)).map fun n => { j with keys := (j.keys.1, n) }
        | .short 0x6F (some v) =>
          if v = bytesOf "auto" then .ok { j with auto := true }
          else (lift (readJoinFormat v)).map fun fs => { j with format := j.format ++ fs }
        | .short 0x74 (some v) =>
          let t : Except (String × Bool) UInt8 := match v with
            | [] => .ok 0x0A
            | [c] => .ok c
            | _ => if v = bytesOf "\\0" then .ok 0
              else .error (s!"multi-character tab {localeQuote (textOf v)}", false)
          t.bind fun t =>
            match j.tab with
            | some old => if old = t then .ok j else .error ("incompatible tabs", false)
            | none => .ok { j with tab := some t }
        | .short 0x7A _ | .long "zero-terminated" _ => .ok { j with eol := 0 }
        | .long "check-order" _ => .ok { j with check := some true }
        | .long "nocheck-order" _ => .ok { j with check := some false }
        | .long "header" _ => .ok { j with header := true }
        | _ => .ok j
    (opts.foldl step (.ok {})).map fun j => (j, names)

/-- `join`: join the lines of two sorted inputs on a common field. -/
def joinTool (files : List (String × Bytes)) (stdin : Bytes) (args : List Bytes) : ToolRun :=
  match readJoinArgs args with
  | .error (e, hint) => if hint then usageFailure "join" e else ToolRun.failure s!"join: {e}"
  | .ok (j, names) =>
    match twoOperands "join" names with
    | .error r => r
    | .ok (n1, n2) =>
      if n1 = bytesOf "-" && n2 = bytesOf "-" then
        ToolRun.failure "join: both files cannot be standard input"
      else
        match readNamed "join" files stdin n1, readNamed "join" files stdin n2 with
        | .error r, _ => r
        | _, .error r => r
        | .ok d1, .ok d2 =>
          let l1 := (linesEndedBy j.eol d1).toArray
          let l2 := (linesEndedBy j.eol d2).toArray
          let ins : JoinInputs :=
            { names := (textOf n1, textOf n2), lines := (l1, l2),
              fields := (l1.map (joinFields j.tab), l2.map (joinFields j.tab)) }
          let r := joinRun j ins
          let readStdin := fromStdin names
          if r.stopped then { out := r.out, err := r.err, status := 1, readStdin, buffered := true }
          else
            let unsorted := r.warned.1 || r.warned.2
            { out := r.out,
              err := r.err ++ (if unsorted then bytesOf "join: input is not in sorted order\n" else []),
              status := if unsorted then 1 else 0, readStdin, buffered := true }

end Chatbot.Shell
