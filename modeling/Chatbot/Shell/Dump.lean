import Chatbot.Shell.Tools

/-!
# `od`

`od` writes its input as blocks of 16 bytes (`-w` changes the count), each block once for
every output type asked for (`-t`, or the short options `-c`, `-x`, …; two-byte octal words
by default). A line starts with the offset of its block (`-A`: octal by default, decimal,
hexadecimal, or none), written with 7 digits (6 in hexadecimal); the lines of the later types
start with as many blanks instead. The input's total size ends the output on a line of its
own.

Each type reads the block as items of its size, least significant byte first: characters
(`c`, with C escapes and octal for the others; `a`, with the names of the ASCII controls),
or integers of 1, 2, 4 or 8 bytes in octal, hexadecimal (both zero-padded), signed or
unsigned decimal. Every item is written right-aligned in a field one wider than its widest
text; when several types are written, the fields of each line are widened so that all lines
of a block are equally long, the extra blanks spread over the fields. The items of a last
short block are read as if it were padded with zeros, and only those that hold input are
written.

A block equal to the one before it is written as a line `*` (once for a run of them), unless
`-v`. `-j` skips bytes of the input and `-N` reads at most so many.
-/

namespace Chatbot.Shell

/-- How a type writes its items. -/
inductive DumpKind where
  /-- Characters, with C escapes. -/
  | char
  /-- Characters, with the names of the ASCII controls. -/
  | named
  /-- Octal, zero-padded. -/
  | octal
  /-- Hexadecimal, zero-padded. -/
  | hex
  /-- Signed decimal. -/
  | signed
  /-- Unsigned decimal. -/
  | unsigned
  deriving DecidableEq, Repr

/-- An output type: how its items are written, how many bytes each item takes, and whether the
printable characters of the block follow it (`z`). -/
structure DumpType where
  /-- How items are written. -/
  kind : DumpKind
  /-- Bytes per item. -/
  size : Nat
  /-- Whether the characters of the block follow, between `>` and `<`. -/
  trailer : Bool := false
  deriving DecidableEq, Repr

/-- The width of the widest text of an item of a type. -/
def DumpType.fieldWidth (t : DumpType) : Nat :=
  match t.kind with
  | .char | .named => 3
  | .octal => (t.size * 8 + 2) / 3
  | .hex => 2 * t.size
  | .signed => if t.size = 1 then 4 else if t.size = 2 then 6 else if t.size = 4 then 11 else 20
  | .unsigned => if t.size = 1 then 3 else if t.size = 2 then 5 else if t.size = 4 then 10 else 20

/-- The names `a` gives the ASCII controls and the space, by code. -/
def controlNames : List String :=
  ["nul", "soh", "stx", "etx", "eot", "enq", "ack", "bel", "bs", "ht", "nl", "vt", "ff", "cr",
   "so", "si", "dle", "dc1", "dc2", "dc3", "dc4", "nak", "syn", "etb", "can", "em", "sub", "esc",
   "fs", "gs", "rs", "us", "sp"]

/-- Digits of a number in a base, zero-padded to a count. -/
def paddedDigits (base : Nat) (count : Nat) (n : Nat) : Bytes :=
  let ds := digitsOf base false n
  List.replicate (count - ds.length) (0x30 : UInt8) ++ ds

/-- The text of one item of a type, from its bytes (least significant first). -/
def DumpType.itemText (t : DumpType) (bytes : Bytes) : Bytes :=
  let value := bytes.foldr (fun b acc => acc * 256 + b.toNat) 0
  match t.kind with
  | .char =>
    let c := bytes.headD 0
    match c with
    | 0x00 => bytesOf "\\0"
    | 0x07 => bytesOf "\\a"
    | 0x08 => bytesOf "\\b"
    | 0x0C => bytesOf "\\f"
    | 0x0A => bytesOf "\\n"
    | 0x0D => bytesOf "\\r"
    | 0x09 => bytesOf "\\t"
    | 0x0B => bytesOf "\\v"
    | _ => if 0x20 ≤ c && c < 0x7F then [c] else paddedDigits 8 3 c.toNat
  | .named =>
    let c := (bytes.headD 0).toNat % 128
    if c = 127 then bytesOf "del"
    else if c ≤ 32 then bytesOf (controlNames.getD c "")
    else [UInt8.ofNat c]
  | .octal => paddedDigits 8 t.fieldWidth value
  | .hex => paddedDigits 16 t.fieldWidth value
  | .unsigned => digitsOf 10 false value
  | .signed =>
    let limit := Nat.pow 2 (8 * t.size)
    if value ≥ limit / 2 then 0x2D :: digitsOf 10 false (limit - value) else digitsOf 10 false value

/-- Read the letters of one `-t` argument: the types, or the message refusing them. -/
def readDumpTypes : Nat → Bytes → List DumpType → Except String (List DumpType)
  | 0, _, acc => .ok acc
  | _, [], acc => .ok acc
  | fuel + 1, c :: rest, acc =>
    let withSize (kind : DumpKind) : Except String (List DumpType) :=
      let (digits, after) := (rest.takeWhile fun b => 0x30 ≤ b && b ≤ 0x39, rest.dropWhile fun b => 0x30 ≤ b && b ≤ 0x39)
      let (size, after) : Option Nat × Bytes :=
        if !digits.isEmpty then (some (digits.foldl (fun v b => 10 * v + (b - 0x30).toNat) 0), after)
        else match after with
          | 0x43 :: r => (some 1, r)
          | 0x53 :: r => (some 2, r)
          | 0x49 :: r => (some 4, r)
          | 0x4C :: r => (some 8, r)
          | r => (some 4, r)
      match size with
      | some s =>
        if s = 1 || s = 2 || s = 4 || s = 8 then
          let (trailer, after) := match after with
            | 0x7A :: r => (true, r)
            | r => (false, r)
          readDumpTypes fuel after (acc ++ [{ kind, size := s, trailer }])
        else .error s!"invalid type string {localeQuote (textOf (c :: rest))};\nthis system doesn't provide a {s}-byte integral type"
      | none => .error s!"invalid type string {localeQuote (textOf (c :: rest))}"
    match c with
    | 0x63 =>
      let (trailer, r) := match rest with
        | 0x7A :: r => (true, r)
        | r => (false, r)
      readDumpTypes fuel r (acc ++ [{ kind := .char, size := 1, trailer }])
    | 0x61 =>
      let (trailer, r) := match rest with
        | 0x7A :: r => (true, r)
        | r => (false, r)
      readDumpTypes fuel r (acc ++ [{ kind := .named, size := 1, trailer }])
    | 0x6F => withSize .octal
    | 0x78 => withSize .hex
    | 0x64 => withSize .signed
    | 0x75 => withSize .unsigned
    | _ => .error s!"invalid character '{textOf [c]}' in type string {localeQuote (textOf (c :: rest))}"

/-- What `od` was asked. -/
structure DumpJob where
  /-- The radix of offsets: `o`, `d`, `x` or `n` (none). -/
  radix : UInt8 := 0x6F
  /-- The output types. -/
  types : List DumpType := []
  /-- Bytes per block. -/
  width : Nat := 16
  /-- Whether to write equal blocks again instead of `*`. -/
  verbose : Bool := false
  /-- Bytes to skip. -/
  skip : Nat := 0
  /-- Bytes to read at most. -/
  limit : Option Nat := none

/-- The type a short option of `od` stands for. -/
def shortDumpType (c : UInt8) : Option DumpType :=
  match c with
  | 0x61 => some ⟨.named, 1, false⟩
  | 0x62 => some ⟨.octal, 1, false⟩
  | 0x63 => some ⟨.char, 1, false⟩
  | 0x64 => some ⟨.unsigned, 2, false⟩
  | 0x44 => some ⟨.unsigned, 4, false⟩
  | 0x69 => some ⟨.signed, 4, false⟩
  | 0x49 | 0x4C | 0x6C => some ⟨.signed, 8, false⟩
  | 0x6F | 0x42 => some ⟨.octal, 2, false⟩
  | 0x4F => some ⟨.octal, 4, false⟩
  | 0x73 => some ⟨.signed, 2, false⟩
  | 0x78 | 0x68 => some ⟨.hex, 2, false⟩
  | 0x58 | 0x48 => some ⟨.hex, 4, false⟩
  | _ => none

/-- Read a size argument of `od`: decimal, or hexadecimal after `0x`, or octal after `0`,
with an optional multiplier `b` (512), `k` (1024) or `m` (1048576). -/
def readDumpSize (v : Bytes) : Option Nat :=
  let (base, digits) : Nat × Bytes := match v with
    | 0x30 :: 0x78 :: r | 0x30 :: 0x58 :: r => (16, r)
    | 0x30 :: r => if r.isEmpty then (10, v) else (8, r)
    | r => (10, r)
  let isDigit (b : UInt8) : Bool :=
    (0x30 ≤ b && b ≤ 0x39 && (b - 0x30).toNat < base) ||
      (base = 16 && ((0x61 ≤ b && b ≤ 0x66) || (0x41 ≤ b && b ≤ 0x46)))
  let ds := digits.takeWhile isDigit
  let rest := digits.drop ds.length
  let value := ds.foldl (fun v b =>
    let d := if b ≤ 0x39 then (b - 0x30).toNat else if b ≥ 0x61 then (b - 0x61).toNat + 10 else (b - 0x41).toNat + 10
    base * v + d) 0
  if ds.isEmpty && base != 8 then none
  else
    match rest with
    | [] => some value
    | [0x62] => some (value * 512)
    | [0x6B] | [0x4B] => some (value * 1024)
    | [0x6D] | [0x4D] => some (value * 1048576)
    | _ => none

/-- Read the arguments of `od`: the job and the files, or the message of a bad argument. -/
def readDumpArgs : Nat → List Bytes → DumpJob → List Bytes → Except String (DumpJob × List Bytes)
  | 0, _, j, names => .ok (j, names)
  | _, [], j, names => .ok (j, names)
  | fuel + 1, a :: rest, j, names =>
    match a with
    | [0x2D, 0x2D] => .ok (j, names ++ rest)
    | [0x2D] => readDumpArgs fuel rest j (names ++ [a])
    | 0x2D :: c :: more =>
      let valued (k : Bytes → List Bytes → Except String (DumpJob × List Bytes)) :
          Except String (DumpJob × List Bytes) :=
        if !more.isEmpty then k more rest
        else match rest with
          | v :: rest' => k v rest'
          | [] => .error s!"option requires an argument -- '{textOf [c]}'"
      match c with
      | 0x41 => valued fun v rest' =>
        if v = [0x6F] || v = [0x64] || v = [0x78] || v = [0x6E] then
          readDumpArgs fuel rest' { j with radix := v.headD 0x6F } names
        else .error s!"invalid output address radix '{textOf v}'; it must be one character from [doxn]"
      | 0x74 => valued fun v rest' =>
        match readDumpTypes (v.length + 1) v [] with
        | .ok ts => readDumpArgs fuel rest' { j with types := j.types ++ ts } names
        | .error e => .error e
      | 0x77 =>
        if more.isEmpty then readDumpArgs fuel rest { j with width := 32 } names
        else
          match readDumpSize more with
          | some w => readDumpArgs fuel rest { j with width := w } names
          | none => .error s!"invalid -w argument {localeQuote (textOf more)}"
      | 0x6A => valued fun v rest' =>
        match readDumpSize v with
        | some n => readDumpArgs fuel rest' { j with skip := n } names
        | none => .error s!"invalid -j argument {localeQuote (textOf v)}"
      | 0x4E => valued fun v rest' =>
        match readDumpSize v with
        | some n => readDumpArgs fuel rest' { j with limit := some n } names
        | none => .error s!"invalid -N argument {localeQuote (textOf v)}"
      | 0x76 =>
        let j := { j with verbose := true }
        if more.isEmpty then readDumpArgs fuel rest j names
        else readDumpArgs fuel ((0x2D :: more) :: rest) j names
      | _ =>
        match shortDumpType c with
        | some t =>
          let j := { j with types := j.types ++ [t] }
          if more.isEmpty then readDumpArgs fuel rest j names
          else readDumpArgs fuel ((0x2D :: more) :: rest) j names
        | none => .error s!"invalid option -- '{textOf [c]}'"
    | _ => readDumpArgs fuel rest j (names ++ [a])

/-- The offset at the start of a line, in the radix asked for. -/
def DumpJob.offsetText (j : DumpJob) (n : Nat) : Bytes :=
  match j.radix with
  | 0x64 => paddedDigits 10 7 n
  | 0x78 => paddedDigits 16 6 n
  | 0x6E => []
  | _ => paddedDigits 8 7 n

/-- The blanks that stand for the offset on the lines of the later types. -/
def DumpJob.offsetBlank (j : DumpJob) : Bytes :=
  List.replicate (j.offsetText 0).length (0x20 : UInt8)

/-- The line of one type for a block of `n` bytes (padded with zeros to the block size), its
fields widened by `pad` blanks spread over them. -/
def dumpLine (t : DumpType) (width pad : Nat) (block : Bytes) (n : Nat) : Bytes :=
  let fields := width / t.size
  let shown := fields - (width - n) / t.size
  let (out, _) := (List.range shown).foldl (fun (out, remaining) k =>
    let i := fields - k
    let nextPad := pad * (i - 1) / fields
    let fieldWidth := remaining - nextPad + t.fieldWidth
    let text := t.itemText ((block.drop (k * t.size)).take t.size)
    (out ++ List.replicate (fieldWidth - text.length) (0x20 : UInt8) ++ text, nextPad))
    (([] : Bytes), pad)
  let trailer : Bytes :=
    if t.trailer then
      let spaces := List.replicate ((fields - shown) * (t.fieldWidth + 1)) (0x20 : UInt8)
      spaces ++ bytesOf "  >" ++ (block.take n).map (fun b => if 0x20 ≤ b && b < 0x7F then b else 0x2E) ++
        bytesOf "<"
    else []
  out ++ trailer

/-- `od`: see the module's description. -/
def odTool (files : List (String × Bytes)) (stdin : Bytes) (args : List Bytes) : ToolRun :=
  match readDumpArgs (args.length + 1) args {} [] with
  | .error e => usageFailure "od" e
  | .ok (job, names) =>
    let types := if job.types.isEmpty then [⟨.octal, 2, false⟩] else job.types
    let names' := if names.isEmpty then [bytesOf "-"] else names
    let read := names'.foldl (fun (acc : Bytes × Bytes × Nat) n =>
      let (data, err, status) := acc
      match readInput files stdin (textOf n) with
      | some d => (data ++ d, err, status)
      | none => (data, err ++ rawOf s!"od: {textOf n}: No such file or directory\n", 1)) ([], [], 0)
    let (data, err, status) := read
    let data := data.drop job.skip
    let data := match job.limit with
      | some l => data.take l
      | none => data
    let width := job.width
    let blockWidth := types.foldl (fun m t => max m ((t.fieldWidth + 1) * (width / t.size))) 0
    let blocks := (List.range ((data.length + width - 1) / width)).map fun k =>
      (k * width, (data.drop (k * width)).take width)
    let (lines, _, _) := blocks.foldl (fun (acc : List Bytes × Option Bytes × Bool) (offset, block) =>
      let (lines, prev, starred) := acc
      if !job.verbose && block.length = width && prev = some block then
        if starred then (lines, prev, true) else (bytesOf "*\n" :: lines, prev, true)
      else
        let padded := block ++ List.replicate (width - block.length) (0 : UInt8)
        let typeLines := types.zipIdx.map fun (t, i) =>
          let pad := blockWidth - t.fieldWidth * (width / t.size)
          (if i = 0 then job.offsetText offset else job.offsetBlank) ++
            dumpLine t width pad padded block.length ++ [0x0A]
        (typeLines.reverse ++ lines, some block, false)) ([], none, false)
    let final := if job.radix = 0x6E then [] else job.offsetText data.length ++ [0x0A]
    { out := lines.reverse.flatten ++ final, err, status, readStdin := fromStdin names }

end Chatbot.Shell
