import Chatbot.Shell.Tools
import Chatbot.Shell.Format
import Chatbot.Shell.Extended

/-!
# The `printf` program

The `printf` program, as against the shell's built-in command, formats numbers of the
conversions `f`, `e`, `g` and `a` as `long double`, in the extended format, and knows the
directive `%q`, which writes its argument quoted for the shell, and the escapes `\u` and `\U`
of a universal character name. Length modifiers (`h`, `l`, `L`, `j`, `t`, `z`) are read and
have no effect.

Its messages follow the GNU tools: an argument that is not completely a number is reported
and makes the status 1, its value being what was read of it; a directive it does not know
ends the run at once with status 1, after what was written so far. Output is written when
the program ends, after its messages.
-/

namespace Chatbot.Shell

/-- The state of a run of the `printf` program. -/
structure PrintfRun where
  /-- Arguments not yet used. -/
  args : List Bytes
  /-- Arguments used so far. -/
  used : Nat := 0
  /-- Output so far. -/
  out : Bytes := []
  /-- Error output so far. -/
  err : Bytes := []
  /-- Exit status. -/
  status : Nat := 0
  /-- Whether the run ended early (`\c`, or a fatal error). -/
  stopped : Bool := false
  deriving DecidableEq, Repr

/-- Take the next argument, or the empty text. -/
def PrintfRun.next (st : PrintfRun) : Bytes × PrintfRun :=
  match st.args with
  | a :: rest => (a, { st with args := rest, used := st.used + 1 })
  | [] => ([], st)

/-- Report a message. -/
def PrintfRun.warn (st : PrintfRun) (message : String) (fail : Bool) : PrintfRun :=
  { st with err := st.err ++ rawOf ("printf: " ++ message ++ "\n"),
            status := if fail then 1 else st.status }

/-- The code of the character that starts bytes read as UTF-8, with the bytes it took; one
byte when they do not start a character. -/
def firstCharacter (bs : Bytes) : Nat × Nat :=
  let n := utf8SequenceLength bs
  if n ≤ 1 then ((bs.head?.map UInt8.toNat).getD 0, 1)
  else
    let lead := (bs.headD 0).toNat % Nat.pow 2 (7 - n)
    ((bs.take n).drop 1 |>.foldl (fun v b => v * 64 + b.toNat % 64) lead, n)

/-- A numeric argument whose first byte is a quote: the code of the character after it, with
a warning when more follows. -/
def PrintfRun.quotedCode (st : PrintfRun) (rest : Bytes) : Int × PrintfRun :=
  let (code, n) := firstCharacter rest
  let after := rest.drop n
  if after.isEmpty then (code, st)
  else (code, st.warn s!"warning: {textOf after}: character(s) following character constant have been ignored" false)

/-- Take the next argument as an integer (signed for `d` and `i`). -/
def PrintfRun.nextInteger (st : PrintfRun) (signed : Bool) : Int × PrintfRun :=
  let (a, st) := st.next
  match a with
  | q :: rest =>
    if (q = 0x22 || q = 0x27) && !rest.isEmpty then st.quotedCode rest
    else
      let (v, neg, n) := readCInteger a
      let limit : Nat := if signed then Nat.pow 2 63 else Nat.pow 2 64
      let shown := localeQuote (textOf a)
      let outOfRange := if signed then (!neg && v ≥ limit) || (neg && v > limit) else v ≥ limit
      let value : Int :=
        if signed then
          if outOfRange then (if neg then -(limit : Int) else limit - 1) else if neg then -(v : Int) else v
        else if outOfRange then limit - 1
        else if neg then ((limit - v) % limit : Nat) else v
      let st :=
        if outOfRange then st.warn s!"{shown}: Numerical result out of range" true
        else if n < a.length then
          st.warn (if n = 0 then s!"{shown}: expected a numeric value"
            else s!"{shown}: value not completely converted") true
        else st
      (value, st)
  | [] => (0, st)

/-- Take the next argument as a number of the extended format. -/
def PrintfRun.nextExtended (st : PrintfRun) : Double × PrintfRun :=
  let (a, st) := st.next
  match a with
  | q :: rest =>
    if (q = 0x22 || q = 0x27) && !rest.isEmpty then
      let (code, st) := st.quotedCode rest
      (.finite false code.toNat 0, st)
    else
      let (d, n, range) := readCFloat .extended a
      let shown := localeQuote (textOf a)
      let st :=
        if range then st.warn s!"{shown}: Numerical result out of range" true
        else if n < a.length then
          st.warn (if n = 0 then s!"{shown}: expected a numeric value"
            else s!"{shown}: value not completely converted") true
        else st
      (d, st)
  | [] => (.finite false 0 0, st)

/-- `%a` of a number of the extended format: `0x`, the leading hexadecimal digit holding the
top four bits of the 64-bit significand, the other bits in hexadecimal without trailing zeros
(or rounded to the precision), and the binary exponent of the leading digit. -/
def hexExtendedDigits (m : Nat) (e : Int) (precision : Option Nat) (alt upper : Bool) : Bytes :=
  let (m, e) : Nat × Int :=
    if m = 0 then (0, 0)
    else
      let shift := 63 - m.log2
      (m * Nat.pow 2 shift, e - shift)
  let lead := m / Nat.pow 2 60
  let frac := m % Nat.pow 2 60
  let ex : Int := if m = 0 then 0 else e + 60
  let (lead, fracText, ex) : Nat × Bytes × Int := match precision with
    | none => (lead, ((hexPlaces upper 15 frac).reverse.dropWhile (· = 0x30)).reverse, ex)
    | some p =>
      if p ≥ 15 then (lead, hexPlaces upper 15 frac ++ List.replicate (p - 15) (0x30 : UInt8), ex)
      else
        let unit := Nat.pow 16 (15 - p)
        let total := roundHalfEven (lead * Nat.pow 16 15 + frac) unit
        let top := total / Nat.pow 16 p
        -- a carry past the leading digit halves it again
        if top ≥ 16 then (top / 2, hexPlaces upper p (total % Nat.pow 16 p / 2), ex + 1)
        else (top, hexPlaces upper p (total % Nat.pow 16 p), ex)
  let point : Bytes := if fracText.isEmpty && !alt then [] else [0x2E]
  bytesOf (if upper then "0X" else "0x") ++ hexPlaces upper 1 lead ++ point ++ fracText ++
    [if upper then 0x50 else 0x70, if ex < 0 then 0x2D else 0x2B] ++ bytesOf (toString ex.natAbs)

/-- Format a number of the extended format in a conversion `f`, `F`, `e`, `E`, `g`, `G`, `a`
or `A`. -/
def formatExtended (sp : Spec) (conv : UInt8) (d : Double) : Bytes :=
  let hex := conv = 0x61 || conv = 0x41
  match d with
  | .finite neg m e =>
    if hex then
      let upper := conv = 0x41
      let body := hexExtendedDigits m e sp.precision sp.alt upper
      let sign : Bytes := if neg then [0x2D] else if sp.plus then [0x2B] else if sp.space then [0x20] else []
      if sp.zero && !sp.left then
        let head := sign ++ body.take 2
        head ++ List.replicate (sp.width - head.length - (body.length - 2)) (0x30 : UInt8) ++ body.drop 2
      else sp.pad (sign ++ body)
    else formatDouble sp conv (.finite neg m e)
  | other => formatDouble sp conv other

/-- Whether a byte can stand in a word the shell reads without quoting. -/
def shellPlain (first : Bool) (b : UInt8) : Bool :=
  (0x30 ≤ b && b ≤ 0x39) || (0x41 ≤ b && b ≤ 0x5A) || (0x61 ≤ b && b ≤ 0x7A) ||
    [0x25, 0x2B, 0x2C, 0x2D, 0x2E, 0x2F, 0x3A, 0x40, 0x5F, 0x5D, 0x7B, 0x7D].contains b ||
    (!first && (b = 0x23 || b = 0x7E || b = 0x3D))

/-- An argument quoted for the shell as `%q` writes it: as it is when no byte needs quoting,
else between single quotes, a single quote written `'\''`, and control bytes in `$'…'`
with their escapes. -/
def shellEscaped (a : Bytes) : Bytes :=
  if a.isEmpty then bytesOf "''"
  else if a.zipIdx.all (fun (b, i) => shellPlain (i = 0) b || b ≥ 0x80) then a
  else
    let control (b : UInt8) : Bool := b < 0x20 || b = 0x7F
    if !a.any control then
      [0x27] ++ a.flatMap (fun b => if b = 0x27 then bytesOf "'\\''" else [b]) ++ [0x27]
    else
      let esc (b : UInt8) : Bytes :=
        match b with
        | 0x07 => bytesOf "\\a"
        | 0x08 => bytesOf "\\b"
        | 0x09 => bytesOf "\\t"
        | 0x0A => bytesOf "\\n"
        | 0x0B => bytesOf "\\v"
        | 0x0C => bytesOf "\\f"
        | 0x0D => bytesOf "\\r"
        | 0x1B => bytesOf "\\E"
        | _ =>
          let v := b.toNat
          [0x5C, UInt8.ofNat (0x30 + v / 64), UInt8.ofNat (0x30 + v / 8 % 8), UInt8.ofNat (0x30 + v % 8)]
      -- runs of control bytes go in $'…', the rest in '…'
      let rec pieces : Nat → Bytes → Bytes
        | 0, _ => []
        | _, [] => []
        | fuel + 1, bs@(b :: _) =>
          if control b then
            let run := bs.takeWhile control
            bytesOf "$'" ++ run.flatMap esc ++ [0x27] ++ pieces fuel (bs.drop run.length)
          else
            let run := bs.takeWhile (!control ·)
            [0x27] ++ run.flatMap (fun c => if c = 0x27 then bytesOf "'\\''" else [c]) ++ [0x27] ++
              pieces fuel (bs.drop run.length)
      pieces (a.length + 1) a

/-- The UTF-8 bytes of a code point. -/
def utf8Of (c : Nat) : Bytes :=
  if c < 0x80 then [UInt8.ofNat c]
  else if c < 0x800 then [UInt8.ofNat (0xC0 + c / 64), UInt8.ofNat (0x80 + c % 64)]
  else if c < 0x10000 then
    [UInt8.ofNat (0xE0 + c / 4096), UInt8.ofNat (0x80 + c / 64 % 64), UInt8.ofNat (0x80 + c % 64)]
  else
    [UInt8.ofNat (0xF0 + c / 262144), UInt8.ofNat (0x80 + c / 4096 % 64),
     UInt8.ofNat (0x80 + c / 64 % 64), UInt8.ofNat (0x80 + c % 64)]

/-- Read the escape after a backslash, in the format (`zeroOctal` false) or in an argument of
`%b` (`zeroOctal` true, where `\0` may begin up to three more octal digits): the bytes it
writes, the rest, and what ends the run — `some none` for `\c`, which ends it with status 0,
`some (some msg)` for a fatal error. -/
def printfEscape (zeroOctal : Bool) (bs : Bytes) : Bytes × Bytes × Option (Option String) :=
  match bs with
  | [] => ([0x5C], [], none)
  | c :: rest =>
    if c = 0x78 then
      let ds := (rest.take 2).takeWhile fun b => (digitValue16 (Char.ofNat b.toNat)).isSome
      if ds.isEmpty then ([], rest, some (some "missing hexadecimal number in escape"))
      else ([UInt8.ofNat (ds.foldl (fun v b => 16 * v + (digitValue16 (Char.ofNat b.toNat)).getD 0) 0)], rest.drop ds.length, none)
    else if isOctal c then
      let body := if zeroOctal && c = 0x30 then rest else bs
      let (v, r) := readOctal 3 0 body
      ([UInt8.ofNat (v % 256)], r, none)
    else if c = 0x63 then ([], rest, some none)
    else if c = 0x65 then ([0x1B], rest, none)
    else if c = 0x22 then ([0x22], rest, none)
    else if c = 0x75 || c = 0x55 then
      let count := if c = 0x75 then 4 else 8
      let ds := rest.take count
      if ds.length < count || !ds.all (fun b => (digitValue16 (Char.ofNat b.toNat)).isSome) then
        ([], rest, some (some "missing hexadecimal number in escape"))
      else
        let v := ds.foldl (fun v b => 16 * v + (digitValue16 (Char.ofNat b.toNat)).getD 0) 0
        if (v ≤ 0x9F && v != 0x24 && v != 0x40 && v != 0x60) || (0xD800 ≤ v && v ≤ 0xDFFF) then
          let digits := hexPlaces false count v
          ([], rest, some (some s!"invalid universal character name \\{textOf [c]}{textOf digits}"))
        else (utf8Of v, rest.drop count, none)
    else
      match letterEscape c with
      | some v => ([v], rest, none)
      | none => ([0x5C, c], rest, none)

/-- Write text with escapes, as the format or an argument of `%b` has them. -/
def formatEscapesWith (zeroOctal : Bool) : Nat → Bytes → PrintfRun → PrintfRun
  | 0, _, st => st
  | _, [], st => st
  | fuel + 1, b :: rest, st =>
    if b = 0x5C then
      let (out, rest, stop) := printfEscape zeroOctal rest
      let st := { st with out := st.out ++ out }
      match stop with
      | none => formatEscapesWith zeroOctal fuel rest st
      | some none => { st with stopped := true, status := 0 }
      | some (some msg) => { (st.warn msg true) with stopped := true }
    else formatEscapesWith zeroOctal fuel rest { st with out := st.out ++ [b] }

/-- The flags of a directive, with the conversions they leave allowed. -/
def readDirectiveFlags : Nat → Spec × List UInt8 → Bytes → (Spec × List UInt8) × Bytes
  | 0, acc, bs => (acc, bs)
  | _, acc, [] => (acc, [])
  | n + 1, (sp, ok), b :: bs =>
    match b with
    | 0x2D => readDirectiveFlags n ({ sp with left := true }, ok) bs
    | 0x2B => readDirectiveFlags n ({ sp with plus := true }, ok) bs
    | 0x20 => readDirectiveFlags n ({ sp with space := true }, ok) bs
    | 0x30 => readDirectiveFlags n ({ sp with zero := true }, ok.filter (· ∉ [0x63, 0x73])) bs
    | 0x23 => readDirectiveFlags n ({ sp with alt := true }, ok.filter (· ∉ [0x63, 0x64, 0x69, 0x73, 0x75])) bs
    | 0x27 | 0x49 =>
      readDirectiveFlags n (sp, ok.filter (· ∉ [0x61, 0x41, 0x63, 0x65, 0x45, 0x6F, 0x73, 0x78, 0x58])) bs
    | _ => ((sp, ok), b :: bs)

/-- The conversions a directive may end with. -/
def printfConversions : List UInt8 := bytesOf "aAcdeEfFgGiosuxX"

/-- Take a width or precision `*` from the next argument. -/
def PrintfRun.nextStar (st : PrintfRun) : Int × PrintfRun :=
  match st.args with
  | [] => (0, st)
  | _ => st.nextInteger true

/-- Run the format once over the arguments. -/
def printfFormat : Nat → Bytes → PrintfRun → PrintfRun
  | 0, _, st => st
  | _, [], st => st
  | fuel + 1, b :: rest, st =>
    if st.stopped then st
    else if b = 0x5C then
      let (out, rest, stop) := printfEscape false rest
      let st := { st with out := st.out ++ out }
      match stop with
      | none => printfFormat fuel rest st
      | some none => { st with stopped := true, status := 0 }
      | some (some msg) => { (st.warn msg true) with stopped := true }
    else if b != 0x25 then printfFormat fuel rest { st with out := st.out ++ [b] }
    else
      match rest with
      | 0x25 :: r => printfFormat fuel r { st with out := st.out ++ [0x25] }
      | 0x62 :: r =>
        match st.args with
        | [] => printfFormat fuel r st
        | _ =>
          let (a, st) := st.next
          let st := formatEscapesWith true (a.length + 1) a st
          if st.stopped then st else printfFormat fuel r st
      | 0x71 :: r =>
        match st.args with
        | [] => printfFormat fuel r st
        | _ =>
          let (a, st) := st.next
          printfFormat fuel r { st with out := st.out ++ shellEscaped a }
      | _ =>
        let ((sp, ok), r) := readDirectiveFlags (rest.length + 1) ({}, printfConversions) rest
        let (sp, r, st) : Spec × Bytes × PrintfRun := match r with
          | 0x2A :: r' =>
            let (w, st) := st.nextStar
            let sp := if w < 0 then { sp with left := true, width := w.natAbs } else { sp with width := w.toNat }
            (sp, r', st)
          | _ =>
            let (w, r') := readDecimalBytes r
            ({ sp with width := w.getD 0 }, r', st)
        let (sp, ok, r, st) : Spec × List UInt8 × Bytes × PrintfRun := match r with
          | 0x2E :: 0x2A :: r' =>
            let (p, st) := st.nextStar
            ({ sp with precision := if p < 0 then none else some p.toNat }, ok.erase 0x63, r', st)
          | 0x2E :: r' =>
            let (p, r'') := readDecimalBytes r'
            ({ sp with precision := some (p.getD 0) }, ok.erase 0x63, r'', st)
          | _ => (sp, ok, r, st)
        let r := r.dropWhile fun c => [0x6C, 0x4C, 0x68, 0x6A, 0x74, 0x7A].contains c
        let spec := b :: rest.take (rest.length - r.length + 1)
        match r with
        | c :: r' =>
          if !ok.contains c then
            { (st.warn s!"{textOf spec}: invalid conversion specification" true) with stopped := true }
          else if c = 0x73 then
            let (a, st) := st.next
            printfFormat fuel r' { st with out := st.out ++ formatText sp a }
          else if c = 0x63 then
            let (a, st) := st.next
            printfFormat fuel r' { st with out := st.out ++ sp.pad [a.headD 0] }
          else if c = 0x64 || c = 0x69 then
            let (v, st) := st.nextInteger true
            printfFormat fuel r' { st with out := st.out ++ formatSigned sp v }
          else if c = 0x6F || c = 0x75 || c = 0x78 || c = 0x58 then
            let (v, st) := st.nextInteger false
            printfFormat fuel r' { st with out := st.out ++ formatUnsigned sp c v.toNat }
          else
            let (v, st) := st.nextExtended
            printfFormat fuel r' { st with out := st.out ++ formatExtended sp c v }
        | [] =>
          { (st.warn s!"{textOf spec}: invalid conversion specification" true) with stopped := true }

/-- `printf`: write the format, again while arguments are left and it takes some. -/
def printfTool (args : List Bytes) : ToolRun :=
  let args := match args with
    | [0x2D, 0x2D] :: rest => rest
    | _ => args
  match args with
  | [] => usageFailure "printf" "missing operand"
  | fmt :: rest =>
    let rec loop : Nat → PrintfRun → PrintfRun
      | 0, st => st
      | n + 1, st =>
        let before := st.used
        let st := printfFormat (fmt.length + 1) fmt st
        if st.stopped || st.used = before || st.args.isEmpty then st else loop n st
    let st := loop (rest.length + 1) { args := rest }
    let st := if !st.stopped && !st.args.isEmpty then
        st.warn s!"warning: ignoring excess arguments, starting with {localeQuote (textOf (st.args.headD []))}" false
      else st
    { out := st.out, err := st.err, status := st.status, buffered := true }

end Chatbot.Shell
