import Chatbot.Shell.Tools

/-!
# Tabs and spaces

`expand` writes each tab as the spaces that reach the next tab stop; `unexpand` writes runs of
blanks that reach a tab stop as tabs. By default they change only the blanks at the start of a
line (`expand -i`, plain `unexpand`), or every blank (plain `expand`, `unexpand -a`).

Tab stops are every eighth column, or as a list says (`-t 4`, `-t 2,5,9`, `-4`): one number is
a tab size, several are the columns of the stops. A last entry `/N` adds a stop at every
multiple of `N` after the listed ones, and `+N` one every `N` columns after the last listed.
A backspace moves one column back; every other byte takes one column. The inputs are read as
one stream, so a line may go on from one file into the next.
-/

namespace Chatbot.Shell

/-- Tab stops as the options set them. -/
structure TabStops where
  /-- The columns listed. -/
  stops : List Nat := []
  /-- `/N`: a stop at every multiple of `N` after the listed ones (zero for none). -/
  extend : Nat := 0
  /-- `+N`: a stop every `N` columns after the last listed one (zero for none). -/
  increment : Nat := 0
  deriving DecidableEq, Repr

/-- The single tab size the stops come down to, or zero when they are a list. -/
def TabStops.size (t : TabStops) : Nat :=
  match t.stops with
  | [] => if t.extend ≠ 0 then t.extend else if t.increment ≠ 0 then t.increment else 8
  | [s] => if t.extend = 0 && t.increment = 0 then s else 0
  | _ => 0

/-- The first tab stop after `column`, looking at the listed stops from `index` on, with the
index reached; `none` when the column is past the last stop. -/
def TabStops.next (t : TabStops) (column index : Nat) : Option Nat × Nat :=
  if t.size ≠ 0 then (some (column + (t.size - column % t.size)), index)
  else
    let later := (t.stops.drop index).zipIdx.find? fun (s, _) => column < s
    match later with
    | some (s, k) => (some s, index + k)
    | none =>
      let index := max index t.stops.length
      if t.extend ≠ 0 then (some (column + (t.extend - column % t.extend)), index)
      else if t.increment ≠ 0 then
        let last := t.stops.getLastD 0
        (some (last + t.increment * (1 + (column - last) / t.increment)), index)
      else (none, index)

/-- The state of reading a tab list: the number being read, and whether it began with `/` or
`+`. -/
structure TabListState where
  /-- The stops so far. -/
  stops : TabStops
  /-- The digits of the number being read, if one is. -/
  value : Option Nat := none
  /-- Whether the number began with `/`. -/
  extend : Bool := false
  /-- Whether the number began with `+`. -/
  increment : Bool := false

/-- Add the number being read, if there is one, to the stops. -/
def TabListState.close (s : TabListState) : Except String TabListState :=
  match s.value with
  | none => .ok { s with value := none }
  | some v =>
    if s.extend then
      if s.stops.extend ≠ 0 then .error "'/' specifier only allowed with the last value"
      else .ok { stops := { s.stops with extend := v } }
    else if s.increment then
      if s.stops.increment ≠ 0 then .error "'+' specifier only allowed with the last value"
      else .ok { stops := { s.stops with increment := v } }
    else .ok { stops := { s.stops with stops := s.stops.stops ++ [v] } }

/-- Read a tab list into the stops: numbers separated by commas or blanks. -/
def readTabList (stops : TabStops) (list : Bytes) : Except String TabStops :=
  let rec go : Bytes → TabListState → Except String TabListState
    | [], s => s.close
    | c :: rest, s =>
      if c = 0x2C || c = 0x20 || c = 0x09 then
        match s.close with
        | .ok s => go rest { s with extend := false, increment := false }
        | .error e => .error e
      else if c = 0x2F then
        if s.value.isSome then
          .error s!"'/' specifier not at start of number: {localeQuote (textOf (c :: rest))}"
        else go rest { s with extend := true, increment := false }
      else if c = 0x2B then
        if s.value.isSome then
          .error s!"'+' specifier not at start of number: {localeQuote (textOf (c :: rest))}"
        else go rest { s with increment := true, extend := false }
      else if 0x30 ≤ c && c ≤ 0x39 then
        go rest { s with value := some (10 * s.value.getD 0 + (c - 0x30).toNat) }
      else .error s!"tab size contains invalid character(s): {localeQuote (textOf (c :: rest))}"
  (go list { stops }).map (·.stops)

/-- Check the stops: none zero, each above the one before, not both `/` and `+`. -/
def TabStops.check (t : TabStops) : Except String TabStops :=
  let rec ascending : Nat → List Nat → Except String Unit
    | _, [] => .ok ()
    | prev, s :: rest =>
      if s = 0 then .error "tab size cannot be 0"
      else if s ≤ prev then .error "tab sizes must be ascending"
      else ascending s rest
  match ascending 0 t.stops with
  | .error e => .error e
  | .ok () =>
    if t.extend ≠ 0 && t.increment ≠ 0 then .error "'/' specifier is mutually exclusive with '+'"
    else .ok t

/-- The options of `expand` or `unexpand`: the tab stops, whether `-i`/`-a`/`--first-only`
were given, and the files; or the message of a bad option and whether the hint about `--help`
follows it. -/
structure TabJob where
  /-- The tab stops. -/
  stops : TabStops := {}
  /-- `expand -i` or `unexpand --first-only`: only leading blanks. -/
  initial : Bool := false
  /-- `unexpand -a` or `-t`: every blank. -/
  all : Bool := false
  /-- Whether a tab list was given with `-t` or `--tabs`. -/
  listed : Bool := false
  /-- The files. -/
  files : List Bytes := []

/-- Read the arguments of `expand` (`unexpanding` false) or `unexpand`. -/
def readTabArgs (unexpanding : Bool) : Nat → List Bytes → TabJob →
    Except (String × Bool) TabJob
  | 0, _, j => .ok j
  | _, [], j => .ok j
  | fuel + 1, a :: rest, j =>
    let withList (list : Bytes) (rest : List Bytes) (named : Bool) :
        Except (String × Bool) TabJob :=
      match readTabList j.stops list with
      | .ok stops => readTabArgs unexpanding fuel rest { j with stops, listed := j.listed || named }
      | .error e => .error (e, false)
    match a with
    | [0x2D, 0x2D] => .ok { j with files := j.files ++ rest }
    | 0x2D :: 0x2D :: name =>
      let text := textOf name
      if text.startsWith "tabs=" then withList (name.drop 5) rest true
      else if "tabs".startsWith text && text ≠ "" then
        match rest with
        | v :: rest' => withList v rest' true
        | [] => .error ("option '--tabs' requires an argument", true)
      else if !unexpanding && "initial".startsWith text && text ≠ "" then
        readTabArgs unexpanding fuel rest { j with initial := true }
      else if unexpanding && "all".startsWith text && text ≠ "" then
        readTabArgs unexpanding fuel rest { j with all := true }
      else if unexpanding && "first-only".startsWith text && text ≠ "" then
        readTabArgs unexpanding fuel rest { j with initial := true }
      else .error (s!"unrecognized option '--{text}'", true)
    | 0x2D :: c :: more =>
      if c = 0x74 then
        if more.isEmpty then
          match rest with
          | v :: rest' => withList v rest' true
          | [] => .error ("option requires an argument -- 't'", true)
        else withList more rest true
      else if 0x30 ≤ c && c ≤ 0x39 then withList (c :: more) rest false
      else if !unexpanding && c = 0x69 then
        if more.isEmpty then readTabArgs unexpanding fuel rest { j with initial := true }
        else readTabArgs unexpanding fuel ((0x2D :: more) :: rest) { j with initial := true }
      else if unexpanding && c = 0x61 then
        if more.isEmpty then readTabArgs unexpanding fuel rest { j with all := true }
        else readTabArgs unexpanding fuel ((0x2D :: more) :: rest) { j with all := true }
      else .error (s!"invalid option -- '{textOf [c]}'", true)
    | _ => readTabArgs unexpanding fuel rest { j with files := j.files ++ [a] }

/-- The state of `expand` or `unexpand` within a line. -/
structure TabState where
  /-- The column of the next byte. -/
  column : Nat := 0
  /-- The index of the next listed stop to look at. -/
  index : Nat := 0
  /-- Whether blanks are still changed on this line. -/
  convert : Bool := true
  /-- The blanks `unexpand` holds back until it is known whether a tab replaces them. -/
  pending : Bytes := []
  /-- Whether the first blank held back came just before a tab stop. -/
  oneBefore : Bool := false
  /-- Whether the byte before was a blank; so it is at the start of a line. -/
  prevBlank : Bool := true
  deriving DecidableEq, Repr

/-- Whether a byte is a blank: a space or a tab. -/
def isTabBlank (c : UInt8) : Bool := c = 0x20 || c = 0x09

/-- One byte through `expand`: what it writes and the state after. -/
def expandStep (t : TabStops) (entire : Bool) (s : TabState) (c : UInt8) : Bytes × TabState :=
  let (out, s) : Bytes × TabState :=
    if !s.convert then ([c], s)
    else if c = 0x09 then
      let (stop, index) := t.next s.column s.index
      let target := stop.getD (s.column + 1)
      (List.replicate (target - s.column) 0x20, { s with column := target, index })
    else if c = 0x08 then
      ([c], { s with column := s.column - 1, index := s.index - 1, convert := entire })
    else ([c], { s with column := s.column + 1, convert := entire || c = 0x20 })
  (out, if c = 0x0A then {} else s)

/-- Replace the first blank held back by a tab. -/
def tabFirst : Bytes → Bytes
  | [] => []
  | _ :: more => 0x09 :: more

/-- The blanks held back as they are written: a tab first when there are several and the
first came just before a stop. -/
def TabState.held (s : TabState) : Bytes :=
  if s.pending.length > 1 && s.oneBefore then tabFirst s.pending else s.pending

/-- One byte through `unexpand`: what it writes and the state after. A blank that reaches a
tab stop after another blank becomes a tab and replaces the blanks held back; one that does not
is held back until it is known. -/
def unexpandStep (t : TabStops) (entire : Bool) (s : TabState) (c : UInt8) : Bytes × TabState :=
  if !s.convert then ([c], if c = 0x0A then {} else s)
  else if isTabBlank c then
    let (stop?, index) := t.next s.column s.index
    let kept := if s.oneBefore then (tabFirst s.pending).take 1 else []
    match stop? with
    | none => emit { s with index, convert := false } c
    | some stop =>
      if c = 0x09 then emit { s with column := stop, index, pending := kept } c
      else
        let column := s.column + 1
        if s.prevBlank && column = stop then emit { s with column, index, pending := kept } 0x09
        else
          ([], { s with column, index, pending := s.pending ++ [c], prevBlank := true,
                        oneBefore := s.oneBefore || column = stop })
  else
    let s := if c = 0x08 then { s with column := s.column - 1, index := s.index - 1 }
      else { s with column := s.column + 1 }
    (s.held ++ [c], if c = 0x0A then {}
      else { s with pending := [], oneBefore := false, prevBlank := false, convert := entire })
where
  /-- Write the blanks held back, then the blank `c`. -/
  emit (s : TabState) (c : UInt8) : Bytes × TabState :=
    (s.held ++ [c], { s with pending := [], oneBefore := false, prevBlank := true })

/-- Run a step function over bytes from a state: all it writes, and the state at the end. -/
def runSteps (step : TabState → UInt8 → Bytes × TabState) (s : TabState) (bs : Bytes) :
    Bytes × TabState :=
  bs.foldl (fun (out, s) c => let (o, s) := step s c; (out ++ o, s)) ([], s)

/-- `expand` (`unexpanding` false) or `unexpand`: tabs to spaces, or spaces to tabs. -/
def tabTool (unexpanding : Bool) (files : List (String × Bytes)) (stdin : Bytes)
    (args : List Bytes) : ToolRun :=
  let tool := if unexpanding then "unexpand" else "expand"
  match readTabArgs unexpanding (args.length + 1) args {} with
  | .error (e, hint) => if hint then usageFailure tool e else ToolRun.failure s!"{tool}: {e}"
  | .ok j =>
    match j.stops.check with
    | .error e => ToolRun.failure s!"{tool}: {e}"
    | .ok stops =>
      let names := if j.files.isEmpty then [bytesOf "-"] else j.files
      let (data, r) := names.foldl (fun (acc : Bytes × ToolRun) n =>
        match readInput files stdin (textOf n) with
        | some d => (acc.1 ++ d, acc.2)
        | none =>
          (acc.1, { acc.2 with err := acc.2.err ++ rawOf s!"{tool}: {textOf n}: No such file or directory\n",
                               status := 1 }))
        ([], { readStdin := fromStdin names, buffered := true })
      let out :=
        if unexpanding then
          let entire := (j.all || j.listed) && !j.initial
          let (o, s) := runSteps (unexpandStep stops entire) {} data
          o ++ (if s.convert then s.held else [])
        else (runSteps (expandStep stops !j.initial) {} data).1
      { r with out }

end Chatbot.Shell
