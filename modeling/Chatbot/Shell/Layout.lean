import Chatbot.Shell.Tools

/-!
# Laying out lines

Four tools that rearrange the lines of their inputs without looking into them:

* `tac` writes the lines of each input last first; a line feed ends a line, so a last line
  without one is joined to the line written after it. `-s` makes another string the
  separator, and `-b` puts each separator before its record instead of after it.
* `nl` numbers lines: the non-empty ones (`-b t`, the default), all (`-b a`) or none
  (`-b n`), right-aligned in six columns (`-w`), followed by a tab (`-s`); a line left
  unnumbered is indented as far as a number and its separator would reach.
* `paste` joins the `n`-th lines of its inputs with tabs (or the delimiters of `-d`, used in
  turn); `-s` joins all lines of each input instead. Every `-` operand reads the next line of
  the standard input.
* `fold` breaks lines longer than a width (80 by default, `-w`), counting a tab to the next
  multiple of eight, a backspace one column back and a carriage return back to the first
  column (`-b` counts bytes); `-s` breaks after the last blank that fits.
-/

namespace Chatbot.Shell

/-! ## `tac` -/

/-- The records of bytes, each ended by a line feed except perhaps the last. -/
def records (bs : Bytes) : List Bytes :=
  let parts := bs.splitOn 0x0A
  let n := parts.length
  (parts.zipIdx.filterMap fun (p, i) =>
    if i + 1 < n then some (p ++ [0x0A]) else if p.isEmpty then none else some p)

/-- The records of bytes, last first. -/
def reverseRecords (bs : Bytes) : Bytes := (records bs).reverse.flatten

/-- Where a separator occurs in bytes, from the last place down; occurrences may overlap. -/
def separatorPlaces (sep : Bytes) (data : Array UInt8) : List Nat :=
  let n := data.size
  let len := sep.length
  ((List.range (n + 1 - len)).filter fun p =>
    len ≤ n && (List.range len).all fun i => data[p + i]? == sep[i]?).reverse

/-- The records of bytes separated by `sep`, last first: each record ends with its separator,
or begins with it when `before`. -/
def reverseBySeparator (sep : Bytes) (before : Bool) (data : Bytes) : Bytes :=
  let arr := data.toArray
  let slice (a b : Nat) : Bytes := (data.drop a).take (b - a)
  let (out, pastEnd) := (separatorPlaces sep arr).foldl (fun (acc : Bytes × Nat) p =>
    let (out, pastEnd) := acc
    if before then (out ++ slice p pastEnd, p)
    else (out ++ slice (p + sep.length) pastEnd, p + sep.length)) ([], data.length)
  out ++ slice 0 pastEnd

/-- `tac`: each input with its lines (or the records of `-s`) last first. -/
def tacTool (files : List (String × Bytes)) (stdin : Bytes) (args : List Bytes) : ToolRun :=
  let letters : List (UInt8 × Bool) := [(0x62, false), (0x72, false), (0x73, true)]
  let longs : List (String × Bool) := [("before", false), ("regex", false), ("separator", true)]
  match readToolOptions letters longs (args.length + 1) args [] [] with
  | .error e => usageFailure "tac" e
  | .ok (opts, names) =>
    let before := opts.any fun o => o == .short 0x62 none || o == .long "before" none
    let sep := (opts.filterMap fun o => match o with
      | .short 0x73 v | .long "separator" v => v
      | _ => none).getLastD [0x0A]
    if sep.isEmpty then ToolRun.failure "tac: separator cannot be empty"
    else
      let names := if names.isEmpty then [bytesOf "-"] else names
      names.foldl (fun r n =>
        match readInput files stdin (textOf n) with
        | some data =>
          let text := if sep = [0x0A] && !before then reverseRecords data
            else reverseBySeparator sep before data
          { r with out := r.out ++ text }
        | none =>
          { r with err := r.err ++ rawOf s!"tac: failed to open '{textOf n}' for reading: No such file or directory\n",
                   status := 1 })
        { readStdin := fromStdin names }

/-! ## `nl` -/

/-- How `nl` numbers lines. -/
structure Numbering where
  /-- Which lines get numbers: `a` all, `t` non-empty ones, `n` none. -/
  style : UInt8 := 0x74
  /-- How a number is written: `ln` left-aligned, `rn` right-aligned, `rz` with zeros. -/
  format : String := "rn"
  /-- The columns of a number. -/
  width : Nat := 6
  /-- What follows a number. -/
  separator : Bytes := [0x09]
  /-- The first number. -/
  start : Int := 1
  /-- The step between numbers. -/
  step : Int := 1

/-- Read the options of `nl`: the numbering and the files, or the message of a bad option
and whether the hint about `--help` follows it. -/
def readNumbering : Nat → List Bytes → Numbering → List Bytes →
    Except (String × Bool) (Numbering × List Bytes)
  | 0, _, o, names => .ok (o, names)
  | _, [], o, names => .ok (o, names)
  | fuel + 1, a :: rest, o, names =>
    match a with
    | 0x2D :: c :: v =>
      if [0x62, 0x6E, 0x77, 0x73, 0x76, 0x69].contains c then
        let (value, rest') : Option Bytes × List Bytes :=
          if v.isEmpty then (rest.head?, rest.drop 1) else (some v, rest)
        match value with
        | none => .error (s!"option requires an argument -- '{textOf [c]}'", true)
        | some v =>
          let o? : Except (String × Bool) Numbering :=
            if c = 0x62 then
              if v = [0x61] || v = [0x74] || v = [0x6E] then .ok { o with style := v.headD 0x74 }
              else .error (s!"invalid body numbering style: {localeQuote (textOf v)}", true)
            else if c = 0x6E then
              if ["ln", "rn", "rz"].contains (textOf v) then .ok { o with format := textOf v }
              else .error (s!"invalid line numbering format: {localeQuote (textOf v)}", true)
            else if c = 0x73 then .ok { o with separator := v }
            else if c = 0x77 then
              match rangedDecimal "invalid line number field width" 1 2147483647 false v with
              | .ok n => .ok { o with width := n.toNat }
              | .error e => .error (e, false)
            else if c = 0x76 then
              match rangedDecimal "invalid starting line number" (-intMax64 - 1) intMax64 false v with
              | .ok n => .ok { o with start := n }
              | .error e => .error (e, false)
            else
              match rangedDecimal "invalid line number increment" (-intMax64 - 1) intMax64 false v with
              | .ok n => .ok { o with step := n }
              | .error e => .error (e, false)
          o?.bind fun o => readNumbering fuel rest' o names
      else .error (s!"invalid option -- '{textOf [c]}'", true)
    | _ => readNumbering fuel rest o (names ++ [a])

/-- A line number as `nl` writes it: a minus sign comes before the zeros that pad it. -/
def Numbering.show (o : Numbering) (n : Int) : Bytes :=
  let digits := bytesOf (toString n)
  let pad := o.width - digits.length
  match o.format with
  | "ln" => digits ++ List.replicate pad (0x20 : UInt8)
  | "rz" =>
    if n < 0 then 0x2D :: List.replicate pad (0x30 : UInt8) ++ digits.drop 1
    else List.replicate pad (0x30 : UInt8) ++ digits
  | _ => List.replicate pad (0x20 : UInt8) ++ digits

/-- Number the lines of an input, from the number `next`: the output and the next number. -/
def numberLines (o : Numbering) (data : Bytes) (next : Int) : Bytes × Int :=
  (records data).foldl (fun (out, k) r =>
    let body := if r.getLast? = some 0x0A then r.dropLast else r
    let numbered := o.style = 0x61 || (o.style = 0x74 && !body.isEmpty)
    if numbered then (out ++ o.show k ++ o.separator ++ r, k + o.step)
    else (out ++ List.replicate (o.width + o.separator.length) (0x20 : UInt8) ++ r, k))
    ([], next)

/-- `nl`: the lines of the inputs, numbered. -/
def nlTool (files : List (String × Bytes)) (stdin : Bytes) (args : List Bytes) : ToolRun :=
  match readNumbering (args.length + 1) args {} [] with
  | .error (e, true) => usageFailure "nl" e
  | .error (e, false) => ToolRun.failure s!"nl: {e}"
  | .ok (o, names) =>
    let names := if names.isEmpty then [bytesOf "-"] else names
    let (r, _) := names.foldl (fun (r, k) n =>
      match readInput files stdin (textOf n) with
      | some data =>
        let (out, k') := numberLines o data k
        ({ r with out := r.out ++ out }, k')
      | none =>
        ({ r with err := r.err ++ rawOf s!"nl: {textOf n}: No such file or directory\n", status := 1 }, k))
      (({ readStdin := fromStdin names } : ToolRun), o.start)
    r

/-! ## `paste` -/

/-- The delimiters of `paste -d`, with `\n`, `\t`, `\b`, `\f`, `\r`, `\v`, `\\` and `\0` (no
delimiter) read; `none` when the list ends with a lone backslash. -/
def pasteDelimiters : Nat → Bytes → Option (List Bytes)
  | 0, _ => some []
  | _, [] => some []
  | _, [0x5C] => none
  | fuel + 1, 0x5C :: c :: rest =>
    let d : Bytes := match c with
      | 0x6E => [0x0A]
      | 0x74 => [0x09]
      | 0x62 => [0x08]
      | 0x66 => [0x0C]
      | 0x72 => [0x0D]
      | 0x76 => [0x0B]
      | 0x30 => []
      | c => [c]
    (pasteDelimiters fuel rest).map (d :: ·)
  | fuel + 1, c :: rest => (pasteDelimiters fuel rest).map ([c] :: ·)

/-- The lines of bytes, each without its line feed. -/
def linesOf (bs : Bytes) : List Bytes :=
  (records bs).map fun r => if r.getLast? = some 0x0A then r.dropLast else r

/-- Join lines with delimiters used in turn. -/
def joinCycling (delims : List Bytes) (ls : List Bytes) : Bytes :=
  match ls with
  | [] => []
  | first :: rest =>
    (rest.zipIdx.foldl (fun acc (l, i) =>
      acc ++ (if delims.isEmpty then [0x09] else delims[i % delims.length]?.getD []) ++ l) first)

/-- The `n`-th rows of the inputs: each row takes the next line of each input, or nothing from
an input already at its end. Inputs read from the standard input share its lines. -/
def pasteRows (delims : List Bytes) : Nat → List (Option (List Bytes)) → List Bytes → List Bytes
  | 0, _, _ => []
  | fuel + 1, inputs, stdinLines =>
    let fileLeft := inputs.any fun i => match i with
      | some ls => !ls.isEmpty
      | none => false
    let stdinUsed := inputs.any Option.isNone
    if !fileLeft && (!stdinUsed || stdinLines.isEmpty) then []
    else
      let step (acc : List Bytes × List (Option (List Bytes)) × List Bytes) (i : Option (List Bytes)) :
          List Bytes × List (Option (List Bytes)) × List Bytes :=
        let (cells, rest, sl) := acc
        match i with
        | some ls => (cells ++ [ls.headD []], rest ++ [some ls.tail], sl)
        | none => (cells ++ [sl.headD []], rest ++ [none], sl.tail)
      let (cells, inputs', stdinLines') := inputs.foldl step ([], [], stdinLines)
      joinCycling delims cells :: pasteRows delims fuel inputs' stdinLines'

/-- `paste`: the lines of the inputs side by side, or (`-s`) each input on one line. -/
def pasteTool (files : List (String × Bytes)) (stdin : Bytes) (args : List Bytes) : ToolRun :=
  let letters : List (UInt8 × Bool) := [(0x73, false), (0x64, true)]
  let longs : List (String × Bool) := [("serial", false), ("delimiters", true)]
  match readToolOptions letters longs (args.length + 1) args [] [] with
  | .error e => usageFailure "paste" e
  | .ok (opts, names) =>
  let serial := opts.any fun o => o == .short 0x73 none || o == .long "serial" none
  let delimSpec : Option Bytes := opts.foldl (fun d o =>
    match o with
    | .short 0x64 (some v) | .long "delimiters" (some v) => some v
    | _ => d) none
  match delimSpec.map fun d => (d, pasteDelimiters (d.length + 1) d) with
  | some (d, none) =>
    ToolRun.failure s!"paste: delimiter list ends with an unescaped backslash: {textOf d}"
  | spec =>
  -- an empty list of delimiters joins with nothing
  let delims := match spec with
    | some (_, some ds) => if ds.isEmpty then [[]] else ds
    | _ => [[0x09]]
  let names := if names.isEmpty then [bytesOf "-"] else names
  match names.find? fun n => (readInput files stdin (textOf n)).isNone with
  | some n => ToolRun.failure s!"paste: {textOf n}: No such file or directory"
  | none =>
    let readStdin := fromStdin names
    if serial then
      let out := names.flatMap fun n =>
        joinCycling delims (linesOf ((readInput files stdin (textOf n)).getD [])) ++ [0x0A]
      { out, readStdin }
    else
      let inputs : List (Option (List Bytes)) := names.map fun n =>
        if textOf n = "-" then none else some (linesOf ((readInput files stdin (textOf n)).getD []))
      let stdinLines := linesOf stdin
      let total := stdinLines.length + (inputs.map fun i => (i.map List.length).getD 0).foldl max 0 + 1
      { out := joinLines (pasteRows delims total inputs stdinLines), readStdin }

/-! ## `fold` -/

/-- The column after a byte, counting as `fold` does. -/
def foldColumn (bytes : Bool) (column : Nat) (b : UInt8) : Nat :=
  if bytes then column + 1
  else if b = 0x08 then column - 1
  else if b = 0x0D then 0
  else if b = 0x09 then column + 8 - column % 8
  else column + 1

/-- Fold bytes at a width: the output so far, the line being built, and its column. -/
def foldBytes (width : Nat) (bytes spaces : Bool) : Nat → Bytes → Bytes → Bytes → Bytes
  | 0, _, out, line => out ++ line
  | _, [], out, line => out ++ line
  | fuel + 1, b :: rest, out, line =>
    if b = 0x0A then foldBytes width bytes spaces fuel rest (out ++ line ++ [0x0A]) []
    else
      let column := (line ++ [b]).foldl (foldColumn bytes) 0
      if column ≤ width then foldBytes width bytes spaces fuel rest out (line ++ [b])
      else
        let blank := if spaces then line.reverse.findIdx? (fun c => c = 0x20 || c = 0x09) else none
        match blank with
        | some j =>
          let keep := line.length - j
          foldBytes width bytes spaces fuel (b :: rest) (out ++ line.take keep ++ [0x0A]) (line.drop keep)
        | none =>
          if line.isEmpty then foldBytes width bytes spaces fuel rest out [b]
          else foldBytes width bytes spaces fuel (b :: rest) (out ++ line ++ [0x0A]) []

/-- `fold`: break long lines of the inputs. -/
def foldTool (files : List (String × Bytes)) (stdin : Bytes) (args : List Bytes) : ToolRun :=
  let rec opts : Nat → List Bytes → Option Bytes × Bool × Bool × List Bytes →
      Option Bytes × Bool × Bool × List Bytes
    | 0, _, st => st
    | _, [], st => st
    | fuel + 1, a :: rest, (w, b, s, names) =>
      match a with
      | [0x2D, 0x77] => opts fuel (rest.drop 1) (rest.head?, b, s, names)
      | 0x2D :: 0x77 :: v => opts fuel rest (some v, b, s, names)
      | 0x2D :: c :: more =>
        if 0x30 ≤ c && c ≤ 0x39 then opts fuel rest (some (c :: more), b, s, names)
        else
          let letters := c :: more
          opts fuel rest (w, b || letters.contains 0x62, s || letters.contains 0x73, names)
      | _ => opts fuel rest (w, b, s, names ++ [a])
  let (widthArg, bytes, spaces, names) := opts (args.length + 1) args (none, false, false, [])
  let width? : Except String Int := match widthArg with
    | some v => rangedDecimal "invalid number of columns" 1 ((Nat.pow 2 64 : Int) - 10) true v
    | none => .ok 80
  match width? with
  | .error e => ToolRun.failure s!"fold: {e}"
  | .ok width =>
    let width := width.toNat
    let names := if names.isEmpty then [bytesOf "-"] else names
    names.foldl (fun r n =>
      match readInput files stdin (textOf n) with
      | some data => { r with out := r.out ++ foldBytes width bytes spaces (3 * data.length + 3) data [] [] }
      | none => { r with err := r.err ++ rawOf s!"fold: {textOf n}: No such file or directory\n", status := 1 })
      { readStdin := fromStdin names }

end Chatbot.Shell
