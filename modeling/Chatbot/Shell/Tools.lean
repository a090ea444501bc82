import Chatbot.Shell.Syntax
import Chatbot.Shell.Format
import Chatbot.Shell.Capture
import Chatbot.Unicode.Width

/-!
# Text tools

The programs a command line most often pipes text through, each as a function from its
arguments, its input and the files it may read to its output, error output and status:
`cat`, `wc`, `tr`, `head`, `tail`, `sort`, `uniq`, `cut`, `rev`, `basename`,
`dirname`, `printenv` and `sleep`. They work on bytes, as in the C locale, and report errors
with the messages of the GNU tools.

## Honest scope

Only the common options are known; an unknown option is refused as the tools refuse it.
-/

namespace Chatbot.Shell

/-- What a tool did. -/
structure ToolRun where
  /-- Its output. -/
  out : Bytes := []
  /-- Its error output. -/
  err : Bytes := []
  /-- Its exit status. -/
  status : Nat := 0
  /-- How long it ran, in milliseconds; `none` when it never ends. -/
  time : Option Nat := some 0
  /-- Files it wrote, with their whole new contents. -/
  writes : List (String × Bytes) := []
  /-- Files it removed, after those it wrote. -/
  removes : List String := []
  /-- Whether it read its standard input. -/
  readStdin : Bool := false
  /-- Whether it had all it needed before the end of its standard input. -/
  stoppedEarly : Bool := false
  /-- Whether it holds its output back until it ends, so that a short output comes after the
  error messages it wrote meanwhile. -/
  buffered : Bool := false
  deriving DecidableEq, Repr

/-- A failed run with an error message (a line feed is added) and a status. -/
def ToolRun.failureWith (message : String) (status : Nat) : ToolRun :=
  { err := rawOf (message ++ "\n"), status }

/-- A failed run with an error message (a line feed is added) and status 1. -/
def ToolRun.failure (message : String) : ToolRun := ToolRun.failureWith message 1

/-- An argument quoted as the GNU tools quote one in a message under a UTF-8 locale, between
curly single quotes; the text is of raw byte characters, so the quotes are their UTF-8 bytes. -/
def localeQuote (s : String) : String := "\xe2\x80\x98" ++ s ++ "\xe2\x80\x99"

/-- A message about an invalid usage, with the hint the GNU tools add. -/
def usageFailure (tool message : String) : ToolRun :=
  ToolRun.failure s!"{tool}: {message}\nTry '{tool} --help' for more information."

/-- An option as a tool reads it. -/
inductive ToolOption where
  /-- A one-letter option, with its argument if it takes one. -/
  | short (c : UInt8) (arg : Option Bytes)
  /-- A long option, by its full name, with its argument if it has one. -/
  | long (name : String) (arg : Option Bytes)
  deriving DecidableEq, Repr

/-- The long option a word names: the name itself, or the only one it begins. -/
def matchLong (longs : List (String × Bool)) (word : String) : Option (String × Bool) :=
  match longs.find? (·.1 = word) with
  | some l => some l
  | none =>
    match longs.filter (·.1.startsWith word) with
    | [l] => some l
    | _ => none

/-- Read arguments as the GNU tools do: options and operands in any order until `--`; letters
grouped in one word (`-sd:`); an option that takes an argument takes the rest of its word or
the next word; long options `--name`, `--name=value` or `--name value`, abbreviated to any
prefix that names one. `letters` says which letters are options and whether each takes an
argument; `longs` the same for long options, and `optional` names the long options whose
argument is optional, given only as `--name=value`. The options in order and the operands, or
the message of the first bad option. -/
def readOptionsWith (optional : List String) (letters : List (UInt8 × Bool))
    (longs : List (String × Bool)) :
    Nat → List Bytes → List ToolOption → List Bytes → Except String (List ToolOption × List Bytes)
  | 0, _, opts, operands => .ok (opts, operands)
  | _, [], opts, operands => .ok (opts, operands)
  | fuel + 1, a :: rest, opts, operands =>
    match a with
    | [0x2D, 0x2D] => .ok (opts, operands ++ rest)
    | 0x2D :: 0x2D :: name =>
      let text := textOf name
      let (word, value) := match text.splitOn "=" with
        | w :: v :: more => (w, some (rawOf (String.intercalate "=" (v :: more))))
        | _ => (text, none)
      match matchLong longs word with
      | none => .error s!"unrecognized option '--{word}'"
      | some (full, takes) =>
        if optional.contains full then
          readOptionsWith optional letters longs fuel rest (opts ++ [.long full value]) operands
        else if takes then
          match value with
          | some v => readOptionsWith optional letters longs fuel rest (opts ++ [.long full (some v)]) operands
          | none =>
            match rest with
            | v :: rest' => readOptionsWith optional letters longs fuel rest' (opts ++ [.long full (some v)]) operands
            | [] => .error s!"option '--{full}' requires an argument"
        else if value.isSome then .error s!"option '--{full}' doesn't allow an argument"
        else readOptionsWith optional letters longs fuel rest (opts ++ [.long full none]) operands
    | 0x2D :: c :: more =>
      match grouped c more with
      | .error e => .error e
      | .ok (found, needsNext) =>
        match needsNext with
        | none => readOptionsWith optional letters longs fuel rest (opts ++ found) operands
        | some l =>
          match rest with
          | v :: rest' => readOptionsWith optional letters longs fuel rest' (opts ++ found ++ [.short l (some v)]) operands
          | [] => .error s!"option requires an argument -- '{textOf [l]}'"
    | _ => readOptionsWith optional letters longs fuel rest opts (operands ++ [a])
where
  /-- The options of one word of letters, and the letter that takes the next word as its
  argument, if the word ends with one. -/
  grouped (c : UInt8) (more : Bytes) : Except String (List ToolOption × Option UInt8) :=
    let rec go : Nat → UInt8 → Bytes → List ToolOption → Except String (List ToolOption × Option UInt8)
      | 0, _, _, acc => .ok (acc, none)
      | fuel + 1, c, more, acc =>
        match letters.lookup c with
        | none => .error s!"invalid option -- '{textOf [c]}'"
        | some true =>
          if more.isEmpty then .ok (acc, some c) else .ok (acc ++ [.short c (some more)], none)
        | some false =>
          match more with
          | [] => .ok (acc ++ [.short c none], none)
          | d :: more' => go fuel d more' (acc ++ [.short c none])
    go (more.length + 1) c more []

/-- Read arguments as the GNU tools do, no long option taking an optional argument. -/
def readToolOptions (letters : List (UInt8 × Bool)) (longs : List (String × Bool)) (fuel : Nat)
    (args : List Bytes) (opts : List ToolOption) (operands : List Bytes) :
    Except String (List ToolOption × List Bytes) :=
  readOptionsWith [] letters longs fuel args opts operands

/-- The choice an argument names among the values an option takes: the value itself, or the
only one it begins; else the message of `invalid argument` or `ambiguous argument`, with the
list of valid arguments. -/
def argMatch (option : String) (choices : List String) (arg : Bytes) : Except String Nat :=
  let text := textOf arg
  let valid := "Valid arguments are:" ++ String.join (choices.map fun c => "\n  - " ++ localeQuote c)
  match choices.idxOf? text with
  | some i => .ok i
  | none =>
    match (choices.zipIdx.filter fun (c, _) => c.startsWith text) with
    | [(_, i)] => .ok i
    | [] => .error s!"invalid argument {localeQuote text} for {localeQuote option}\n{valid}"
    | _ => .error s!"ambiguous argument {localeQuote text} for {localeQuote option}\n{valid}"

/-- Split bytes into lines, each without its line feed; a last line without one is kept. -/
def splitLines (bs : Bytes) : List Bytes :=
  match bs.splitOn 0x0A with
  | [] => []
  | parts => if bs.getLast? = some 0x0A || bs.isEmpty then parts.dropLast else parts

/-- Join lines, each ended by a line feed. -/
def joinLines (ls : List Bytes) : Bytes := ls.foldr (fun l acc => l ++ 0x0A :: acc) []

/-- Whether the input ends without a line feed after its last line. -/
def lacksFinalNewline (bs : Bytes) : Bool := !bs.isEmpty && bs.getLast? != some 0x0A

/-- Join lines as they were: every line but perhaps the last ended by a line feed. -/
def rejoin (input : Bytes) (ls : List Bytes) : Bytes :=
  let whole := joinLines ls
  if lacksFinalNewline input && !ls.isEmpty then whole.dropLast else whole

/-- Read a file of the given files, or the input for `-`. -/
def readInput (files : List (String × Bytes)) (stdin : Bytes) (name : String) :
    Option Bytes :=
  if name = "-" then some stdin else (files.find? fun f => f.1 = name).map Prod.snd

/-- Whether a tool with these file operands reads its standard input: when there are none,
or one is `-`. -/
def fromStdin (names : List Bytes) : Bool := names.isEmpty || names.contains (bytesOf "-")

/-- The first place at or after `i` whose byte fails `p`, or the end. -/
def skipBytes (p : UInt8 → Bool) (bytes : Array UInt8) : Nat → Nat → Nat
  | 0, i => i
  | fuel + 1, i =>
    match bytes[i]? with
    | some b => if p b then skipBytes p bytes fuel (i + 1) else i
    | none => i

/-- A decimal number of bytes, if the text is one. -/
def natOfBytes (bs : Bytes) : Option Nat :=
  if bs.isEmpty || !bs.all (fun b => 0x30 ≤ b && b ≤ 0x39) then none
  else some (bs.foldl (fun v b => 10 * v + (b - 0x30).toNat) 0)

/-- The largest value of a signed 64-bit integer. -/
def intMax64 : Int := 9223372036854775807

/-- Read a number argument as the GNU tools read one: blanks, a sign (none when `unsigned`),
then decimal digits only. The number when it lies from `lo` to `hi`; else the message
`what: ‘v’`, followed by `: Numerical result out of range` when the text is a number out of
the range. -/
def rangedDecimal (what : String) (lo hi : Int) (unsigned : Bool) (v : Bytes) : Except String Int :=
  let body := v.dropWhile fun b => b = 0x20 || (0x09 ≤ b && b ≤ 0x0D)
  let (neg, digits) : Bool × Bytes := match body with
    | 0x2D :: r => (true, r)
    | 0x2B :: r => (false, r)
    | r => (false, r)
  if digits.isEmpty || !digits.all (fun b => 0x30 ≤ b && b ≤ 0x39) || (unsigned && neg) then
    .error s!"{what}: {localeQuote (textOf v)}"
  else
    let n : Int := digits.foldl (fun a b => 10 * a + (b - 0x30).toNat) 0
    let n := if neg then -n else n
    if n < lo || n > hi then
      .error s!"{what}: {localeQuote (textOf v)}: Numerical result out of range"
    else .ok n

/-- The decimal digits of a number. -/
def decimalBytes (n : Nat) : Bytes := bytesOf (toString n)

/-! ## `cat` -/

/-- A byte as `cat -v` shows it: control bytes as `^X`, delete as `^?`, and bytes from 128
as `M-` followed by how the byte 128 lower shows; tab and line feed stay. -/
def showNonprinting (tabs : Bool) (b : UInt8) : Bytes :=
  let low (c : UInt8) : Bytes :=
    if c < 0x20 then [0x5E, c + 0x40] else if c = 0x7F then [0x5E, 0x3F] else [c]
  if b = 0x09 then (if tabs then [0x5E, 0x49] else [b])
  else if b = 0x0A then [b]
  else if b ≥ 0x80 then [0x4D, 0x2D] ++ low (b - 0x80)
  else low b

/-- What `cat` was asked to do. -/
structure CatJob where
  /-- `-b`: number the lines that are not empty. -/
  numberNonblank : Bool := false
  /-- `-n`: number every line. -/
  number : Bool := false
  /-- `-s`: write one empty line for a run of them. -/
  squeeze : Bool := false
  /-- `-E`: mark line ends with `$`. -/
  ends : Bool := false
  /-- `-T`: show tabs as `^I`. -/
  tabs : Bool := false
  /-- `-v`: show other control bytes and bytes from 128. -/
  nonprinting : Bool := false
  deriving Repr

/-- Read the options of `cat`. -/
def readCatJob (opts : List ToolOption) : CatJob :=
  opts.foldl (fun j o =>
    let c : UInt8 := match o with
      | .short c _ => c
      | .long "show-all" _ => 0x41
      | .long "number-nonblank" _ => 0x62
      | .long "show-ends" _ => 0x45
      | .long "number" _ => 0x6E
      | .long "squeeze-blank" _ => 0x73
      | .long "show-tabs" _ => 0x54
      | .long "show-nonprinting" _ => 0x76
      | .long _ _ => 0
    match c with
    | 0x41 => { j with nonprinting := true, ends := true, tabs := true }
    | 0x62 => { j with numberNonblank := true }
    | 0x65 => { j with nonprinting := true, ends := true }
    | 0x45 => { j with ends := true }
    | 0x6E => { j with number := true }
    | 0x73 => { j with squeeze := true }
    | 0x74 => { j with nonprinting := true, tabs := true }
    | 0x54 => { j with tabs := true }
    | 0x76 => { j with nonprinting := true }
    | _ => j) {}

/-- The text `cat` writes for its whole input under a job. -/
def catRender (j : CatJob) (data : Bytes) : Bytes :=
  if !(j.numberNonblank || j.number || j.squeeze || j.ends || j.tabs || j.nonprinting) then data
  else
    let parts := data.splitOn 0x0A
    let count := parts.length
    let lines := (parts.zipIdx 0).filterMap fun (l, i) =>
      if i + 1 = count then (if l.isEmpty then none else some (l, false)) else some (l, true)
    let body (l : Bytes) : Bytes :=
      if j.nonprinting then l.flatMap (showNonprinting j.tabs)
      else if j.tabs then l.flatMap fun b => if b = 0x09 then [0x5E, 0x49] else [b]
      else l
    let step (acc : Bytes × Nat × Bool) (line : Bytes × Bool) : Bytes × Nat × Bool :=
      let (out, n, prevEmpty) := acc
      let (l, ended) := line
      if j.squeeze && l.isEmpty && ended && prevEmpty then acc
      else
        let numbered := if j.numberNonblank then !l.isEmpty else j.number
        let pre := if numbered then
            let d := decimalBytes (n + 1)
            List.replicate (6 - d.length) (0x20 : UInt8) ++ d ++ [0x09]
          else []
        let tail : Bytes := if ended then (if j.ends then [0x24, 0x0A] else [0x0A]) else []
        (out ++ pre ++ body l ++ tail, if numbered then n + 1 else n, l.isEmpty && ended)
    (lines.foldl step ([], 0, false)).1

/-- `cat`: the named files (or the input) one after another; `-n` and `-b` number lines,
`-s` squeezes empty lines, `-E`, `-T` and `-v` show line ends, tabs and other bytes. -/
def catTool (files : List (String × Bytes)) (stdin : Bytes) (args : List Bytes) : ToolRun :=
  let letters : List (UInt8 × Bool) :=
    [0x41, 0x62, 0x65, 0x45, 0x6E, 0x73, 0x74, 0x54, 0x75, 0x76].map (·, false)
  let longs : List (String × Bool) :=
    [("show-all", false), ("number-nonblank", false), ("show-ends", false), ("number", false),
     ("squeeze-blank", false), ("show-tabs", false), ("show-nonprinting", false)]
  match readToolOptions letters longs (args.length + 1) args [] [] with
  | .error e => usageFailure "cat" e
  | .ok (opts, names) =>
    let job := readCatJob opts
    let names := if names.isEmpty then [bytesOf "-"] else names
    let (data, err) := names.foldl (fun (acc : Bytes × Bytes) name =>
      match readInput files stdin (textOf name) with
      | some d => (acc.1 ++ d, acc.2)
      | none => (acc.1, acc.2 ++ bytesOf s!"cat: {textOf name}: No such file or directory\n"))
      ([], [])
    { out := catRender job data, err, status := if err.isEmpty then 0 else 1,
      readStdin := fromStdin names }

/-! ## `wc` -/

/-- Whether a printable character parts words for `wc`: a white space character or a no-break
space. -/
def partsWords (n : Nat) : Bool :=
  n = 0xA0 || n = 0x1680 || (0x2000 ≤ n && n ≤ 0x200A) || n = 0x202F || n = 0x205F ||
  n = 0x2060 || n = 0x3000

/-- What `wc` has counted so far: lines, words, characters, the widest line, the column in
the current line, and whether a word is open. -/
structure WcTally where
  /-- Line feeds. -/
  lines : Nat := 0
  /-- Words begun. -/
  words : Nat := 0
  /-- Characters read. -/
  chars : Nat := 0
  /-- The most columns a line took. -/
  widest : Nat := 0
  /-- The column reached in the current line. -/
  column : Nat := 0
  /-- Whether the last character was part of a word. -/
  inWord : Bool := false

/-- Count one character. Line feeds, carriage returns and form feeds end a line's width, a
tab goes to the next multiple of 8; other characters that are not printable count only as
characters. -/
def WcTally.add (t : WcTally) (n : Nat) : WcTally :=
  let t := { t with chars := t.chars + 1 }
  let endLine (t : WcTally) : WcTally :=
    { t with widest := max t.widest t.column, column := 0, inWord := false }
  if n = 0x0A then endLine { t with lines := t.lines + 1 }
  else if n = 0x0D || n = 0x0C then endLine t
  else if n = 0x09 then { t with column := t.column + 8 - t.column % 8, inWord := false }
  else if n = 0x20 then { t with column := t.column + 1, inWord := false }
  else if n = 0x0B then { t with inWord := false }
  else
    match Chatbot.Unicode.columnWidth n with
    | none => t
    | some w =>
      let t := { t with column := t.column + w }
      if partsWords n then { t with inWord := false }
      else if t.inWord then t
      else { t with words := t.words + 1, inWord := true }

/-- Count the characters of UTF-8 bytes; a byte that starts no character counts for
nothing. -/
def wcTally : Nat → Bytes → WcTally → WcTally
  | 0, _, t => t
  | _, [], t => t
  | fuel + 1, b :: rest, t =>
    match decodeOne (b :: rest) with
    | (some c, k) => wcTally fuel ((b :: rest).drop k) (t.add c.toNat)
    | (none, _) => wcTally fuel rest t

/-- The counts `wc` makes: lines, words, characters, bytes and the widest line. -/
def wcCounts (data : Bytes) : List Nat :=
  let t := wcTally (data.length + 1) data {}
  [t.lines, t.words, t.chars, data.length, max t.widest t.column]

/-- `wc`: counts of lines, words, characters, bytes or the longest line, of each named file
(or the input), right-aligned to a common width. -/
def wcTool (files : List (String × Bytes)) (stdin : Bytes) (args : List Bytes) : ToolRun :=
  let letters : List (UInt8 × Bool) :=
    [(0x63, false), (0x6D, false), (0x6C, false), (0x4C, false), (0x77, false)]
  let longs : List (String × Bool) :=
    [("bytes", false), ("chars", false), ("lines", false), ("max-line-length", false),
     ("words", false)]
  match readToolOptions letters longs (args.length + 1) args [] [] with
  | .error e => usageFailure "wc" e
  | .ok (opts, names) =>
  let has (c : UInt8) (long : String) : Bool :=
    opts.any fun o => o == .short c none || o == .long long none
  let pick := [has 0x6C "lines", has 0x77 "words", has 0x6D "chars", has 0x63 "bytes",
    has 0x4C "max-line-length"]
  let pick := if pick.any id then pick else [true, true, false, true, false]
  let chosen := pick.count true
  let inputs : List (Option String × Option Bytes) :=
    if names.isEmpty then [(none, some stdin)]
    else names.map fun n => (some (textOf n), readInput files stdin (textOf n))
  let fromPipe := inputs.any fun i => i.1.isNone || i.1 = some "-"
  let regularTotal := (inputs.filterMap fun i => if i.1.isSome && i.1 != some "-" then i.2 else none).foldl
    (fun t d => t + d.length) 0
  let width :=
    if inputs.length = 1 && chosen = 1 then 1
    else max (if fromPipe then 7 else 1) (toString regularTotal).length
  let render (counts : List Nat) (name : Option String) : Bytes :=
    let shown := (counts.zip pick).filterMap fun (c, p) => if p then some c else none
    let cells := shown.map fun c =>
      let s := decimalBytes c
      List.replicate (width - s.length) (0x20 : UInt8) ++ s
    (cells.intersperse [0x20]).flatten ++ (match name with
      | some n => 0x20 :: bytesOf n
      | none => []) ++ [0x0A]
  let (r, totals) := inputs.foldl (fun (r, totals) i =>
    match i.2 with
    | some data =>
      let cs := wcCounts data
      -- the total of the widest line is the widest of all
      let sums := (totals.zip cs).map fun (a, b) => a + b
      ({ r with out := r.out ++ render cs i.1 },
        sums.take 4 ++ [max (totals.getD 4 0) (cs.getD 4 0)])
    | none =>
      let name := i.1.getD ""
      ({ r with err := r.err ++ bytesOf s!"wc: {name}: No such file or directory\n", status := 1 }, totals))
    (({ readStdin := fromStdin names } : ToolRun), [0, 0, 0, 0, 0])
  if inputs.length > 1 then { r with out := r.out ++ render totals (some "total") } else r

/-! ## `tr` -/

/-- The bytes of a POSIX class name in `tr`. -/
def trClass (name : Bytes) : Option Bytes :=
  let range (a b : Nat) : Bytes := (List.range (b + 1 - a)).map fun k => UInt8.ofNat (a + k)
  match textOf name with
  | "alpha" => some (range 0x41 0x5A ++ range 0x61 0x7A)
  | "upper" => some (range 0x41 0x5A)
  | "lower" => some (range 0x61 0x7A)
  | "digit" => some (range 0x30 0x39)
  | "alnum" => some (range 0x30 0x39 ++ range 0x41 0x5A ++ range 0x61 0x7A)
  | "space" => some (range 0x09 0x0D ++ [0x20])
  | "blank" => some [0x09, 0x20]
  | "punct" => some (range 0x21 0x2F ++ range 0x3A 0x40 ++ range 0x5B 0x60 ++ range 0x7B 0x7E)
  | "xdigit" => some (range 0x30 0x39 ++ range 0x41 0x46 ++ range 0x61 0x66)
  | "cntrl" => some (range 0 0x1F ++ [0x7F])
  | "print" => some (range 0x20 0x7E)
  | "graph" => some (range 0x21 0x7E)
  | _ => none

/-- Read one possibly escaped byte of a `tr` set. -/
def trByte : Bytes → Option (UInt8 × Bytes)
  | 0x5C :: b :: rest =>
    if isOctal b then
      let (v, r) := readOctal 3 0 (b :: rest)
      some (UInt8.ofNat v, r)
    else match letterEscape b with
      | some v => some (v, rest)
      | none => some (b, rest)
  | [0x5C] => some (0x5C, [])
  | b :: rest => some (b, rest)
  | [] => none

/-- A piece of a `tr` set: bytes, or a byte repeated to make the second set as long as the
first (`[c*]`). -/
inductive TrPiece where
  /-- Bytes as they are. -/
  | bytes (bs : Bytes)
  /-- A byte repeated as often as needed. -/
  | fill (c : UInt8)
  deriving DecidableEq, Repr

/-- The repeat construct `[c*n]` at the start of a set, if there is one: the byte, the count
(`none` for `[c*]`, or a count of zero) and the rest. The count is octal when it starts with
`0`. -/
def trRepeat (s : Bytes) : Option (UInt8 × Option Nat × Bytes) :=
  match s with
  | 0x5B :: rest =>
    match trByte rest with
    | some (c, 0x2A :: r) =>
      let ds := r.takeWhile fun b => 0x30 ≤ b && b ≤ 0x39
      match r.drop ds.length with
      | 0x5D :: more =>
        let n := if ds.head? = some 0x30 then (readOctal ds.length 0 ds).1 else
          ds.foldl (fun v b => 10 * v + (b - 0x30).toNat) 0
        some (c, if n = 0 then none else some n, more)
      | _ => none
    | _ => none
  | _ => none

/-- Expand a `tr` set into its pieces, or give the error message. -/
def trSet : Nat → Bytes → Except String (List TrPiece)
  | 0, _ => .ok []
  | _, [] => .ok []
  | fuel + 1, s =>
    match trRepeat s with
    | some (c, count, more) =>
      let piece := match count with
        | some n => TrPiece.bytes (List.replicate n c)
        | none => TrPiece.fill c
      (trSet fuel more).map (piece :: ·)
    | none =>
    match s with
    | 0x5B :: 0x3A :: rest =>
      let name := rest.takeWhile fun b => b != 0x3A
      match rest.drop name.length with
      | 0x3A :: 0x5D :: more =>
        match trClass name with
        | some bs => (trSet fuel more).map (.bytes bs :: ·)
        | none => .error s!"invalid character class {localeQuote (textOf name)}"
      | _ => literal fuel s
    | _ => literal fuel s
where
  /-- A byte, or a range of bytes. -/
  literal (fuel : Nat) (s : Bytes) : Except String (List TrPiece) :=
    match trByte s with
    | some (a, 0x2D :: r) =>
      match trByte r with
      | some (b, r') =>
        if b < a then .error s!"range-endpoints of '{textOf [a]}-{textOf [b]}' are in reverse collating sequence order"
        else (trSet fuel r').map (.bytes ((List.range (b.toNat + 1 - a.toNat)).map fun k => UInt8.ofNat (a.toNat + k)) :: ·)
      | none => (trSet fuel [0x2D]).map (.bytes [a] :: ·)
    | some (a, r) => (trSet fuel r).map (.bytes [a] :: ·)
    | none => .ok []

/-- The bytes of pieces, a fill made long enough to reach `target` bytes in all. -/
def trPiecesBytes (target : Nat) (ps : List TrPiece) : Bytes :=
  let fixed := ps.foldl (fun n p => match p with
    | .bytes bs => n + bs.length
    | .fill _ => n) 0
  ps.flatMap fun p => match p with
    | .bytes bs => bs
    | .fill c => List.replicate (target - fixed) c

/-- `tr`: translate, delete (`-d`) or squeeze (`-s`) bytes; `-c` complements the first set and
`-t` cuts it to the length of the second. -/
def trTool (stdin : Bytes) (args : List Bytes) : ToolRun :=
  -- options come before the first operand; a later word that starts with `-` is a set
  let lead := args.takeWhile fun a => a.length > 1 && a.head? = some 0x2D
  let letters : List (UInt8 × Bool) :=
    [(0x63, false), (0x43, false), (0x64, false), (0x73, false), (0x74, false)]
  let longs : List (String × Bool) :=
    [("complement", false), ("delete", false), ("squeeze-repeats", false),
     ("truncate-set1", false)]
  match readToolOptions letters longs (lead.length + 1) lead [] [] with
  | .error e => usageFailure "tr" e
  | .ok (opts, leadOperands) =>
  let has (c : UInt8) (long : String) : Bool :=
    opts.any fun o => o == .short c none || o == .long long none
  let sets := leadOperands ++ args.drop lead.length
  let delete := has 0x64 "delete"
  let squeeze := has 0x73 "squeeze-repeats"
  let complement := has 0x63 "complement" || has 0x43 "complement"
  let truncate := has 0x74 "truncate-set1"
  match sets with
  | [] => usageFailure "tr" "missing operand"
  | s1 :: more =>
    match trSet (s1.length + 1) s1 with
    | .error e => ToolRun.failure s!"tr: {e}"
    | .ok pieces1 =>
      if pieces1.any (fun p => match p with
          | .fill _ => true
          | .bytes _ => false) then
        ToolRun.failure "tr: the [c*] repeat construct may not appear in string1"
      else
      let set1 := trPiecesBytes 0 pieces1
      let inSet1 (b : UInt8) : Bool := set1.contains b != complement
      let set1 := if complement then (List.range 256).map UInt8.ofNat |>.filter fun b => !set1.contains b else set1
      let set2 := match more with
        | s2 :: _ => (trSet (s2.length + 1) s2).map (trPiecesBytes set1.length)
        | [] => .ok []
      match set2 with
      | .error e => ToolRun.failure s!"tr: {e}"
      | .ok set2 =>
        let squeezeIn (s : Bytes) (bs : Bytes) : Bytes :=
          (bs.foldl (fun (acc, last) b =>
            if s.contains b && last = some b then (acc, last) else (acc ++ [b], some b))
            (([] : Bytes), (none : Option UInt8))).1
        if delete then
          if squeeze && more.isEmpty then
            usageFailure "tr" s!"missing operand after {localeQuote (textOf s1)}\nTwo strings must be given when both deleting and squeezing repeats."
          else if !squeeze && !more.isEmpty then
            usageFailure "tr" s!"extra operand {localeQuote (textOf (more.headD []))}\nOnly one string may be given when deleting without squeezing repeats."
          else
            let kept := stdin.filter fun b => !inSet1 b
            { out := if squeeze then squeezeIn set2 kept else kept }
        else if more.isEmpty then
          if squeeze then { out := squeezeIn set1 stdin }
          else usageFailure "tr" s!"missing operand after {localeQuote (textOf s1)}\nTwo strings must be given when translating."
        else if set2.isEmpty && !truncate then
          ToolRun.failure "tr: when not truncating set1, string2 must be non-empty"
        else
          -- with `-t` the first set is cut to the length of the second
          let source := if truncate then set1.take set2.length else set1
          let padded := set2 ++ List.replicate (source.length - set2.length) (set2.getLastD 0)
          let table := source.zip padded
          let mapByte (b : UInt8) : UInt8 :=
            match (table.reverse.find? fun e => e.1 = b) with
            | some (_, c) => c
            | none => b
          let mapped := stdin.map fun b => if inSet1 b then mapByte b else b
          { out := if squeeze then squeezeIn set2 mapped else mapped }

/-! ## `head` and `tail` -/

/-- A count with an optional multiplier suffix: `b` (512), `K`/`k` (1024), `M`/`m`, `G`, `T`,
`P`, `E`, `Z`, `Y`, `R`, `Q` for the next powers of 1024, each of them with `B` for the powers
of 1000 instead and `iB` for those of 1024. -/
def countWithSuffix (bs : Bytes) : Option Nat :=
  let ds := bs.takeWhile fun b => 0x30 ≤ b && b ≤ 0x39
  let suffix := bs.drop ds.length
  if ds.isEmpty then none
  else
    let n := ds.foldl (fun v b => 10 * v + (b - 0x30).toNat) 0
    let power (c : UInt8) : Option Nat :=
      match c with
      | 0x6B | 0x4B => some 1
      | 0x6D | 0x4D => some 2
      | 0x47 => some 3
      | 0x54 => some 4
      | 0x50 => some 5
      | 0x45 => some 6
      | 0x5A => some 7
      | 0x59 => some 8
      | 0x52 => some 9
      | 0x51 => some 10
      | _ => none
    match suffix with
    | [] => some n
    | [0x62] => some (n * 512)
    | [c] => (power c).map fun p => n * Nat.pow 1024 p
    | [c, 0x42] => (power c).map fun p => n * Nat.pow 1000 p
    | [c, 0x69, 0x42] => (power c).map fun p => n * Nat.pow 1024 p
    | _ => none

/-- What `head` or `tail` was asked: whether it counts bytes, the count, whether it was
signed `+` or `-`, whether headers are written (`-v`) or not (`-q`) whatever the number of
files, and the files. -/
structure CountJob where
  /-- `-c`: count bytes rather than lines. -/
  bytes : Bool := false
  /-- The count. -/
  count : Nat := 10
  /-- The sign written before the count. -/
  sign : Option UInt8 := none
  /-- `-v` (`some true`) or `-q` (`some false`). -/
  headers : Option Bool := none
  /-- The files. -/
  files : List Bytes := []
  deriving DecidableEq, Repr

/-- Whether a byte is a decimal digit. -/
def isDecimalByte (b : UInt8) : Bool := 0x30 ≤ b && b ≤ 0x39

/-- The old form of `tail`'s count, one word before at most one file: `+N` from line `N` on,
`-N` the last `N`, the digits optional (10) and followed by `b` (blocks of 512 bytes), `c`
(bytes) or `l` (lines). `none` when the arguments are not of that form. -/
def tailObsolete (args : List Bytes) : Option (Except ToolRun CountJob) :=
  let applies := match args with
    | [_] => true
    | [_, f] => !(f.length > 1 && f.head? = some 0x2D)
    | _ => false
  match args with
  | [] => none
  | a :: files =>
    let body : Option (Option UInt8 × Bytes) := match a with
      | 0x2B :: p => some (some 0x2B, p)
      | 0x2D :: p => if p.isEmpty || p = [0x63] then none else some (none, p)
      | _ => none
    match applies, body with
    | true, some (sign, p) =>
      let digits := p.takeWhile isDecimalByte
      let unit : Option (Bool × Nat) := match p.drop digits.length with
        | [] | [0x6C] => some (false, 1)
        | [0x63] => some (true, 1)
        | [0x62] => some (true, 512)
        | _ => none
      unit.map fun (bytes, scale) =>
        let n := if digits.isEmpty then 10 else (natOfBytes digits).getD 0
        if n * scale ≥ Nat.pow 2 64 then
          .error (ToolRun.failure
            s!"tail: invalid number: {localeQuote (textOf a)}: Numerical result out of range")
        else .ok { bytes, count := n * scale, sign, files }
    | _, _ => none

/-- The old form of `head`'s count in its first word, `-N` with letters after the digits: `c`
(bytes), `b`, `k`, `m` (bytes, in blocks of 512, 1024 or 1048576), `l` (lines), `q` and `v`
(headers) and `z`. -/
def headObsolete (digits letters : Bytes) : Except ToolRun CountJob :=
  let step (acc : Except ToolRun (CountJob × Nat)) (c : UInt8) : Except ToolRun (CountJob × Nat) :=
    acc.bind fun (j, scale) =>
      match c with
      | 0x63 => .ok ({ j with bytes := true }, 1)
      | 0x62 => .ok ({ j with bytes := true }, 512)
      | 0x6B => .ok ({ j with bytes := true }, 1024)
      | 0x6D => .ok ({ j with bytes := true }, 1048576)
      | 0x6C => .ok ({ j with bytes := false }, scale)
      | 0x71 => .ok ({ j with headers := some false }, scale)
      | 0x76 => .ok ({ j with headers := some true }, scale)
      | 0x7A => .ok (j, scale)
      | _ => .error (usageFailure "head" s!"invalid trailing option -- {textOf [c]}")
  (letters.foldl step (.ok ({}, 1))).bind fun (j, scale) =>
    let n := (natOfBytes digits).getD 0
    if n * scale ≥ Nat.pow 2 64 then
      let what := if j.bytes then "bytes" else "lines"
      .error (ToolRun.failure s!"head: invalid number of {what}: {localeQuote (textOf digits)}: Value too large for defined data type")
    else .ok { j with count := n * scale }

/-- Read the options of `head` or `tail`: a count (`-n N`, `-nN`, `-c N`, `--lines=N`,
`--bytes=N`, or the old forms of `tailObsolete` and `headObsolete`) and `-q`/`-v`. A word of
digits in another place is refused. -/
def readCount (tool : String) (args : List Bytes) : Except ToolRun CountJob :=
  if tool = "tail" then
    match tailObsolete args with
    | some r => r
    | none => go args {}
  else
    match args with
    | (0x2D :: d :: more) :: rest =>
      if isDecimalByte d then
        let digits := (d :: more).takeWhile isDecimalByte
        (headObsolete digits ((d :: more).drop digits.length)).bind fun j => go rest j
      else go args {}
    | _ => go args {}
where
  /-- Read arguments. -/
  go : List Bytes → CountJob → Except ToolRun CountJob
    | [], j => .ok j
    | a :: rest, j =>
      match a with
      | 0x2D :: 0x6E :: [] | 0x2D :: 0x63 :: [] =>
        match rest with
        | v :: rest' => (value j (a.getD 1 0 = 0x63) v).bind fun j => go rest' j
        | [] => .error (usageFailure tool s!"option requires an argument -- '{textOf [a.getD 1 0]}'")
      | 0x2D :: 0x6E :: v | 0x2D :: 0x63 :: v =>
        (value j (a.getD 1 0 = 0x63) v).bind fun j => go rest j
      | [0x2D, 0x71] => go rest { j with headers := some false }
      | [0x2D, 0x76] => go rest { j with headers := some true }
      | 0x2D :: 0x2D :: name =>
        let text := textOf name
        if text = "quiet" || text = "silent" then go rest { j with headers := some false }
        else if text = "verbose" then go rest { j with headers := some true }
        else if text.startsWith "lines=" then (value j false (name.drop 6)).bind fun j => go rest j
        else if text.startsWith "bytes=" then (value j true (name.drop 6)).bind fun j => go rest j
        else if text = "" then .ok { j with files := j.files ++ rest }
        else .error (usageFailure tool s!"unrecognized option '--{text}'")
      | 0x2D :: d :: _ =>
        if isDecimalByte d then
          if tool = "tail" then
            .error (ToolRun.failure s!"tail: option used in invalid context -- {textOf [d]}")
          else .error (usageFailure tool s!"invalid trailing option -- {textOf [d]}")
        else .error (usageFailure tool s!"invalid option -- '{textOf [d]}'")
      | _ => go rest { j with files := j.files ++ [a] }
  /-- Read a count with an optional sign. -/
  value (j : CountJob) (bytes : Bool) (v : Bytes) : Except ToolRun CountJob :=
    let (sign, digits) := match v with
      | s :: r => if s = 0x2B || s = 0x2D then (some s, r) else (none, v)
      | [] => (none, v)
    let what := if bytes then "bytes" else "lines"
    match countWithSuffix digits with
    | some n =>
      if n ≥ Nat.pow 2 64 then
        .error (ToolRun.failure s!"{tool}: invalid number of {what}: {localeQuote (textOf v)}: Value too large for defined data type")
      else .ok { j with bytes, count := n, sign }
    | none =>
      .error (ToolRun.failure s!"{tool}: invalid number of {what}: {localeQuote (textOf v)}")

/-- Read the inputs of `head` or `tail` and apply `f` to each; headers name the inputs when
there are several, unless `headers` says otherwise. -/
def eachInput (tool : String) (files : List (String × Bytes)) (stdin : Bytes) (names : List Bytes)
    (headers : Option Bool) (f : Bytes → Bytes) : ToolRun :=
  let names := if names.isEmpty then [bytesOf "-"] else names
  let several := headers.getD (names.length > 1)
  let (r, _) := names.foldl (fun (r, first) n =>
    match readInput files stdin (textOf n) with
    | some data =>
      let shown := if textOf n = "-" then "standard input" else textOf n
      let header := if several then
          bytesOf ((if first then "" else "\n") ++ s!"==> {shown} <==\n")
        else []
      ({ r with out := r.out ++ header ++ f data }, false)
    | none =>
      let message := bytesOf s!"{tool}: cannot open '{textOf n}' for reading: No such file or directory\n"
      ({ r with err := r.err ++ message, status := 1 }, first))
    (({ readStdin := fromStdin names } : ToolRun), true)
  r

/-- The first `n` lines of bytes, line feeds included. -/
def takeLines (n : Nat) (bs : Bytes) : Bytes :=
  let rec go : Nat → Bytes → Bytes
    | 0, _ => []
    | _, [] => []
    | k + 1, b :: rest => if b = 0x0A then b :: go k rest else b :: go (k + 1) rest
  go n bs

/-- Bytes after the first `n` lines. -/
def dropLines (n : Nat) (bs : Bytes) : Bytes :=
  bs.drop (takeLines n bs).length

/-- The number of lines, counting a last line without a line feed. -/
def lineCount (bs : Bytes) : Nat := bs.count 0x0A + (if lacksFinalNewline bs then 1 else 0)

/-- `head`: the first lines (or bytes) of each input; a count `-N` leaves out the last ones. -/
def headTool (files : List (String × Bytes)) (stdin : Bytes) (args : List Bytes) : ToolRun :=
  match readCount "head" args with
  | .error r => r
  | .ok j =>
    let n := j.count
    let r := eachInput "head" files stdin j.files j.headers fun data =>
      if j.bytes then
        if j.sign = some 0x2D then data.take (data.length - n) else data.take n
      else if j.sign = some 0x2D then takeLines (lineCount data - n) data
      else takeLines n data
    let enough := j.sign != some 0x2D && (if j.bytes then stdin.length ≥ n else stdin.count 0x0A ≥ n)
    { r with stoppedEarly := enough }

/-- `tail`: the last lines (or bytes) of each input; a count `+N` starts at line `N`. -/
def tailTool (files : List (String × Bytes)) (stdin : Bytes) (args : List Bytes) : ToolRun :=
  match readCount "tail" args with
  | .error r => r
  | .ok j =>
    let n := j.count
    eachInput "tail" files stdin j.files j.headers fun data =>
      if j.bytes then
        if j.sign = some 0x2B then data.drop (n - 1) else data.drop (data.length - n)
      else if j.sign = some 0x2B then dropLines (n - 1) data
      else dropLines (lineCount data - n) data

/-! ## `rev` -/

/-- The length of the UTF-8 sequence that starts bytes; a byte that starts none counts as
one character. -/
def utf8SequenceLength (bs : Bytes) : Nat :=
  match bs with
  | [] => 0
  | b :: rest =>
    let n := if b < 0x80 then 1 else if b &&& 0xE0 = 0xC0 then 2 else if b &&& 0xF0 = 0xE0 then 3
      else if b &&& 0xF8 = 0xF0 then 4 else 1
    let tail := rest.take (n - 1)
    if tail.length = n - 1 && tail.all (fun c => c &&& 0xC0 = 0x80) then n else 1

/-- The characters of bytes in the reverse order, each character's bytes kept in order. -/
def reverseCharacters : Nat → Bytes → Bytes → Bytes
  | 0, _, acc => acc
  | _, [], acc => acc
  | fuel + 1, bs, acc =>
    let n := max 1 (utf8SequenceLength bs)
    reverseCharacters fuel (bs.drop n) (bs.take n ++ acc)

/-- `rev`: each line with its characters reversed. -/
def revTool (files : List (String × Bytes)) (stdin : Bytes) (args : List Bytes) : ToolRun :=
  let data := match args with
    | n :: _ => readInput files stdin (textOf n)
    | [] => some stdin
  match data with
  | none => ToolRun.failure s!"rev: cannot open {textOf (args.headD [])}: No such file or directory"
  | some data =>
    { out := rejoin data ((splitLines data).map fun l => reverseCharacters (l.length + 1) l []),
      readStdin := fromStdin (args.take 1) }

/-! ## `tee` -/

/-- `tee`: the input to the output and to each named file (added to its end with `-a`). -/
def teeTool (files : List (String × Bytes)) (stdin : Bytes) (args : List Bytes) : ToolRun :=
  let append := args.contains (bytesOf "-a")
  let names := (args.filter fun a => a != bytesOf "-a").map textOf
  let writes := names.map fun n =>
    (n, (if append then (files.lookup n).getD [] else []) ++ stdin)
  { out := stdin, writes, readStdin := true }

/-! ## Names, variables and time -/

/-- `basename`: the last component of a path, without a given suffix. -/
def basenameTool (args : List Bytes) : ToolRun :=
  let letters : List (UInt8 × Bool) := [(0x61, false), (0x73, true), (0x7A, false)]
  let longs : List (String × Bool) := [("multiple", false), ("suffix", true), ("zero", false)]
  match readToolOptions letters longs (args.length + 1) args [] [] with
  | .error e => usageFailure "basename" e
  | .ok (opts, names) =>
    let suffixOpt := opts.foldl (fun acc o => match o with
      | .short 0x73 a | .long "suffix" a => a
      | _ => acc) none
    let multiple := suffixOpt.isSome || opts.any fun o => o = .short 0x61 none || o = .long "multiple" none
    let zero := opts.any fun o => o = .short 0x7A none || o = .long "zero" none
    let ending : Bytes := if zero then [0] else [0x0A]
    let baseOf (p : Bytes) (suffix : Option Bytes) : Bytes :=
      let trimmed := (p.reverse.dropWhile (· = 0x2F)).reverse
      let base := if trimmed.isEmpty then (if p.isEmpty then [] else [0x2F])
        else (trimmed.splitOn 0x2F).getLastD []
      let base := match suffix with
        | some s => if s.length < base.length && s.isSuffixOf base then base.take (base.length - s.length) else base
        | none => base
      base ++ ending
    match names with
    | [] => usageFailure "basename" "missing operand"
    | p :: rest =>
      if multiple then { out := names.flatMap (baseOf · suffixOpt) }
      else
        match rest with
        | [] => { out := baseOf p none }
        | [s] => { out := baseOf p (some s) }
        | _ :: extra :: _ => usageFailure "basename" s!"extra operand {localeQuote (textOf extra)}"

/-- The bytes `echo -e` writes for an argument, and whether a `\c` ended all output. -/
def programEscapes : Nat → Bytes → Bytes × Bool
  | 0, _ => ([], false)
  | _, [] => ([], false)
  | fuel + 1, 0x5C :: c :: rest =>
    let hexValue (b : UInt8) : Option Nat :=
      if 0x30 ≤ b && b ≤ 0x39 then some (b - 0x30).toNat
      else if 0x61 ≤ b && b ≤ 0x66 then some (b - 0x57).toNat
      else if 0x41 ≤ b && b ≤ 0x46 then some (b - 0x37).toNat
      else none
    if c = 0x63 then ([], true)
    else if c = 0x65 then
      let (o, stop) := programEscapes fuel rest
      (0x1B :: o, stop)
    else if c = 0x30 then
      let (v, r) := readOctal 3 0 rest
      let (o, stop) := programEscapes fuel r
      (UInt8.ofNat v :: o, stop)
    else if c = 0x78 then
      match rest with
      | h :: r =>
        match hexValue h with
        | some v =>
          let (v, r) := match r with
            | h2 :: r2 =>
              match hexValue h2 with
              | some w => (16 * v + w, r2)
              | none => (v, r)
            | [] => (v, r)
          let (o, stop) := programEscapes fuel r
          (UInt8.ofNat v :: o, stop)
        | none =>
          let (o, stop) := programEscapes fuel rest
          (0x5C :: c :: o, stop)
      | [] => ([0x5C, c], false)
    else
      match letterEscape c with
      | some v =>
        let (o, stop) := programEscapes fuel rest
        (v :: o, stop)
      | none =>
        let (o, stop) := programEscapes fuel rest
        (0x5C :: c :: o, stop)
  | fuel + 1, b :: rest =>
    let (o, stop) := programEscapes fuel rest
    (b :: o, stop)

/-- `echo` as a program: the arguments joined by spaces, with a line feed. Leading words made
only of the letters `n` (no line feed), `e` (read backslash escapes) and `E` (do not) after a
`-` are options. -/
def echoTool (args : List Bytes) : ToolRun :=
  let isOption (a : Bytes) : Bool :=
    match a with
    | 0x2D :: letters => !letters.isEmpty && letters.all fun c => c = 0x6E || c = 0x65 || c = 0x45
    | _ => false
  let opts := args.takeWhile isOption
  let words := args.drop opts.length
  let (newline, escapes) := opts.foldl (fun (acc : Bool × Bool) o =>
    o.tail.foldl (fun (acc : Bool × Bool) c =>
      if c = 0x6E then (false, acc.2) else if c = 0x65 then (acc.1, true) else (acc.1, false)) acc)
    (true, false)
  let joined := (words.intersperse [0x20]).flatten
  if escapes then
    let (o, stop) := programEscapes (joined.length + 1) joined
    { out := if stop || !newline then o else o ++ [0x0A] }
  else { out := if newline then joined ++ [0x0A] else joined }

/-- `dirname`: a path without its last component. -/
def dirnameTool (args : List Bytes) : ToolRun :=
  match args with
  | [] => usageFailure "dirname" "missing operand"
  | ps => { out := (ps.map fun p =>
      let trimmed := (p.reverse.dropWhile (· = 0x2F)).reverse
      let dir := (trimmed.reverse.dropWhile (· != 0x2F)).reverse
      let dir := (dir.reverse.dropWhile (· = 0x2F)).reverse
      (if dir.isEmpty then (if trimmed.head? = some 0x2F || (p.head? = some 0x2F) then [0x2F] else [0x2E]) else dir) ++ [0x0A]).flatten }

/-- `printenv`: the values of the named variables, or all of them. -/
def printenvTool (env : List (String × Bytes)) (args : List Bytes) : ToolRun :=
  match args with
  | [] => { out := (env.map fun (k, v) => bytesOf k ++ [0x3D] ++ v ++ [0x0A]).flatten }
  | names =>
    let found := names.filterMap fun n => (env.find? fun e => e.1 = textOf n).map Prod.snd
    { out := (found.map (· ++ [0x0A])).flatten, status := if found.length = names.length then 0 else 1 }

/-- The milliseconds of a `sleep` argument: a decimal number with an optional unit `s`, `m`,
`h` or `d`; `none` if it is not one. `inf` and `infinity` never end. -/
def sleepMillis (arg : Bytes) : Option (Option Nat) :=
  let t := textOf arg
  if t = "inf" || t = "infinity" then some none
  else
    let (body, unit) : String × Nat := match arg.getLast? with
      | some 0x73 => (textOf arg.dropLast, 1000)
      | some 0x6D => (textOf arg.dropLast, 60000)
      | some 0x68 => (textOf arg.dropLast, 3600000)
      | some 0x64 => (textOf arg.dropLast, 86400000)
      | _ => (t, 1000)
    match body.splitOn "." with
    | [w] => (natOfBytes (bytesOf w)).map fun n => some (n * unit)
    | [w, f] =>
      let whole := if w.isEmpty then some 0 else natOfBytes (bytesOf w)
      let frac := if f.isEmpty then some 0 else natOfBytes (bytesOf f)
      if w.isEmpty && f.isEmpty then none
      else whole.bind fun a => frac.map fun b => some (a * unit + b * unit / Nat.pow 10 f.length)
    | _ => none

/-- `sleep`: wait for the sum of its arguments. -/
def sleepTool (args : List Bytes) : ToolRun :=
  match args with
  | [] => usageFailure "sleep" "missing operand"
  | _ =>
    match args.mapM sleepMillis with
    | some ts => { time := ts.foldl (fun acc t => acc.bind fun a => t.map (a + ·)) (some 0) }
    | none =>
      let bad := (args.find? fun a => (sleepMillis a).isNone).getD []
      usageFailure "sleep" s!"invalid time interval {localeQuote (textOf bad)}"

end Chatbot.Shell
