import Chatbot.Shell.Syntax
import Chatbot.Shell.Arith
import Chatbot.Shell.Floating

/-!
# `echo` and `printf`

`echo` writes its arguments separated by spaces and ended by a line feed; a first argument
`-n` drops the line feed. Backslash escapes are always interpreted: `\\`, `\a`, `\b`, `\f`,
`\n`, `\r`, `\t`, `\v`, `\0` with up to three octal digits (or up to three octal digits
directly), and `\c`, which ends all output at once. Any other backslash stands for itself.

`printf` writes its format, replacing each directive `%[flags][width][.precision]conversion`
by the next argument: `s` as text, `b` as text with `echo`'s escapes, `c` as its first byte,
`d i` as a signed and `o u x X` as an unsigned 64-bit number, `%%` by `%`. A width or
precision `*` takes the next argument. In the format itself, backslash escapes are those of
`echo` without `\c` and without the `\0` prefix. When arguments are left after the format is
used up, the format is used again, as long as it takes arguments. Missing arguments count as
empty or zero. A number that does not read completely is reported, and makes the status 1.
-/

namespace Chatbot.Shell

/-- Whether a byte is an octal digit. -/
def isOctal (b : UInt8) : Bool := 0x30 ≤ b && b ≤ 0x37

/-- Read up to `n` octal digits: their value and the rest. -/
def readOctal : Nat → Nat → Bytes → Nat × Bytes
  | 0, v, bs => (v, bs)
  | _, v, [] => (v, [])
  | n + 1, v, b :: bs => if isOctal b then readOctal n (8 * v + (b - 0x30).toNat) bs else (v, b :: bs)

/-- The byte of a one-letter escape. -/
def letterEscape : UInt8 → Option UInt8
  | 0x5C => some 0x5C
  | 0x61 => some 0x07
  | 0x62 => some 0x08
  | 0x66 => some 0x0C
  | 0x6E => some 0x0A
  | 0x72 => some 0x0D
  | 0x74 => some 0x09
  | 0x76 => some 0x0B
  | _ => none

/-- Read the escape after a backslash in a format: the byte it stands for and the rest. A
backslash that starts no escape stands for itself, and what follows it is read normally. The
shell's own `echo` and `printf` also know `\e`, the escape byte. -/
def formatEscape (bs : Bytes) : UInt8 × Bytes :=
  match bs with
  | 0x65 :: rest => (0x1B, rest)
  | b :: rest =>
    match letterEscape b with
    | some v => (v, rest)
    | none =>
      if isOctal b then
        let (v, r) := readOctal 3 0 bs
        (UInt8.ofNat v, r)
      else (0x5C, bs)
  | [] => (0x5C, [])

/-- Interpret `echo`'s escapes: the bytes, and whether a `\c` ended the output. -/
def echoEscapes : Nat → Bytes → Bytes → Bytes × Bool
  | 0, acc, _ => (acc, false)
  | _, acc, [] => (acc, false)
  | fuel + 1, acc, b :: rest =>
    if b != 0x5C then echoEscapes fuel (acc ++ [b]) rest
    else
      match rest with
      | 0x63 :: _ => (acc, true)
      | 0x30 :: d :: more =>
        if isOctal d then
          let (v, r) := readOctal 3 0 (d :: more)
          echoEscapes fuel (acc ++ [UInt8.ofNat v]) r
        else
          let (v, r) := formatEscape rest
          echoEscapes fuel (acc ++ [v]) r
      | _ =>
        let (v, r) := formatEscape rest
        echoEscapes fuel (acc ++ [v]) r

/-- Interpret escapes as `echo` does. -/
def expandEscapes (bs : Bytes) : Bytes × Bool := echoEscapes (bs.length + 1) [] bs

/-- What `echo` writes. -/
def echoOutput (args : List Bytes) : Bytes :=
  let (newline, args) := match args with
    | a :: rest => if a = bytesOf "-n" then (false, rest) else (true, args)
    | [] => (true, [])
  let rec go : List Bytes → Bytes
    | [] => if newline then [0x0A] else []
    | [a] =>
      let (out, stopped) := expandEscapes a
      if stopped then out else out ++ (if newline then [0x0A] else [])
    | a :: more =>
      let (out, stopped) := expandEscapes a
      if stopped then out else out ++ [0x20] ++ go more
  go args

/-! ## Numbers as C reads them -/

/-- Whether a byte is C white space. -/
def isCSpace (b : UInt8) : Bool := b = 0x20 || (0x09 ≤ b && b ≤ 0x0D)

/-- Read digits of a base: their value and how many were read. -/
def readBaseDigits (base : Nat) : Bytes → Nat → Nat → Nat × Nat
  | [], v, n => (v, n)
  | b :: bs, v, n =>
    match digitValue16 (Char.ofNat b.toNat) with
    | some d => if d < base then readBaseDigits base bs (base * v + d) (n + 1) else (v, n)
    | none => (v, n)

/-- Read a number as `strtoimax` with base detection does (`0x` hexadecimal, `0b` binary, `0`
octal): its magnitude, whether it is negative, and how many bytes were read (0 when there is
no number). -/
def readCInteger (s : Bytes) : Nat × Bool × Nat :=
  let lead := (s.takeWhile isCSpace).length
  let t := s.drop lead
  let (neg, signLen, t) := match t with
    | 0x2D :: r => (true, 1, r)
    | 0x2B :: r => (false, 1, r)
    | r => (false, 0, r)
  let (v, n) : Nat × Nat := match t with
    | 0x30 :: x :: r =>
      if x = 0x78 || x = 0x58 then
        let (v, k) := readBaseDigits 16 r 0 0
        if k = 0 then (0, 1) else (v, k + 2)
      else if x = 0x62 || x = 0x42 then
        let (v, k) := readBaseDigits 2 r 0 0
        if k = 0 then (0, 1) else (v, k + 2)
      else
        let (v, k) := readBaseDigits 8 (x :: r) 0 0
        (v, k + 1)
    | r => readBaseDigits 10 r 0 0
  if n = 0 then (0, false, 0) else (v, neg, lead + signLen + n)

/-- A numeric argument as `printf` reads it: a leading quote gives the code of the next byte;
otherwise the number, with a warning when it does not read completely or is out of range. -/
def numericArg (signed : Bool) (arg : Bytes) : Int × Option String :=
  let text := String.ofList (arg.map fun b => Char.ofNat b.toNat)
  match arg with
  | q :: rest =>
    if q = 0x22 || q = 0x27 then ((rest.head?.map UInt8.toNat).getD 0, none)
    else
      let (v, neg, n) := readCInteger arg
      let warn : Option String :=
        if n < arg.length then
          some (if n = 0 then s!"{text}: expected numeric value" else s!"{text}: not completely converted")
        else none
      let limit : Nat := if signed then Nat.pow 2 63 else Nat.pow 2 64
      if signed then
        if !neg && v ≥ limit then (limit - 1, warn <|> some s!"{text}: Numerical result out of range")
        else if neg && v > limit then (-(limit : Int), warn <|> some s!"{text}: Numerical result out of range")
        else (if neg then -(v : Int) else v, warn)
      else
        if v ≥ limit then (limit - 1, warn <|> some s!"{text}: Numerical result out of range")
        else ((if neg then ((limit - v) % limit : Nat) else v : Nat), warn)
  | [] => (0, none)

/-! ## Directives -/

/-- The flags, width and precision of a directive. -/
structure Spec where
  /-- `-`: pad on the right. -/
  left : Bool := false
  /-- `+`: always write a sign. -/
  plus : Bool := false
  /-- ` `: write a space for a positive sign. -/
  space : Bool := false
  /-- `0`: pad numbers with zeros. -/
  zero : Bool := false
  /-- `#`: the alternate form. -/
  alt : Bool := false
  /-- The least width. -/
  width : Nat := 0
  /-- The precision, if given. -/
  precision : Option Nat := none

/-- Pad to the width. -/
def Spec.pad (sp : Spec) (body : Bytes) : Bytes :=
  let fill := List.replicate (sp.width - body.length) (0x20 : UInt8)
  if sp.left then body ++ fill else fill ++ body

/-- Digits of a number in a base (at least 2), lower or upper case. -/
def digitsOf (base : Nat) (upper : Bool) (n : Nat) : Bytes :=
  let digit (d : Nat) : UInt8 :=
    if d < 10 then UInt8.ofNat (0x30 + d) else UInt8.ofNat ((if upper then 0x41 else 0x61) + d - 10)
  let rec go : Nat → Nat → Bytes → Bytes
    | 0, _, acc => acc
    | fuel + 1, m, acc =>
      let acc := digit (m % base) :: acc
      if m / base = 0 then acc else go fuel (m / base) acc
  go (n + 1) n []

/-- Format a number: its sign text, prefix and digits, with precision, zero padding and
width. -/
def formatNumber (sp : Spec) (sign prefixText digits : Bytes) (isZero : Bool) : Bytes :=
  let digits := match sp.precision with
    | some 0 => if isZero then [] else digits
    | some p => List.replicate (p - digits.length) (0x30 : UInt8) ++ digits
    | none => digits
  let head := sign ++ prefixText
  if sp.zero && !sp.left && sp.precision.isNone then
    head ++ List.replicate (sp.width - head.length - digits.length) (0x30 : UInt8) ++ digits
  else sp.pad (head ++ digits)

/-- Format a signed number. -/
def formatSigned (sp : Spec) (v : Int) : Bytes :=
  let sign : Bytes := if v < 0 then [0x2D] else if sp.plus then [0x2B] else if sp.space then [0x20] else []
  formatNumber sp sign [] (digitsOf 10 false v.natAbs) (v = 0)

/-- Format an unsigned number in a conversion `o`, `u`, `x` or `X`. -/
def formatUnsigned (sp : Spec) (conv : UInt8) (v : Nat) : Bytes :=
  match conv with
  | 0x6F =>
    let ds := digitsOf 8 false v
    let ds := if sp.alt && ds.head? != some 0x30 then 0x30 :: ds else ds
    formatNumber sp [] [] ds (v = 0 && !sp.alt)
  | 0x78 => formatNumber sp [] (if sp.alt && v != 0 then bytesOf "0x" else []) (digitsOf 16 false v) (v = 0)
  | 0x58 => formatNumber sp [] (if sp.alt && v != 0 then bytesOf "0X" else []) (digitsOf 16 true v) (v = 0)
  | _ => formatNumber sp [] [] (digitsOf 10 false v) (v = 0)

/-- Format text under a precision and width. -/
def formatText (sp : Spec) (s : Bytes) : Bytes :=
  sp.pad (match sp.precision with
    | some p => s.take p
    | none => s)

/-- Read the flags of a directive. -/
def readFlags : Nat → Spec → Bytes → Spec × Bytes
  | 0, sp, bs => (sp, bs)
  | _, sp, [] => (sp, [])
  | n + 1, sp, b :: bs =>
    match b with
    | 0x2D => readFlags n { sp with left := true } bs
    | 0x2B => readFlags n { sp with plus := true } bs
    | 0x20 => readFlags n { sp with space := true } bs
    | 0x30 => readFlags n { sp with zero := true } bs
    | 0x23 => readFlags n { sp with alt := true } bs
    | _ => (sp, b :: bs)

/-- Read decimal digits: their value, if any, and the rest. -/
def readDecimalBytes (bs : Bytes) : Option Nat × Bytes :=
  let ds := bs.takeWhile fun b => 0x30 ≤ b && b ≤ 0x39
  if ds.isEmpty then (none, bs)
  else (some (ds.foldl (fun v b => 10 * v + (b - 0x30).toNat) 0), bs.drop ds.length)

/-- The state of `printf`: arguments left, output, warnings and status. -/
structure Printf where
  /-- Arguments not yet used. -/
  args : List Bytes
  /-- Whether an argument was used. -/
  used : Bool := false
  /-- Output so far. -/
  out : Bytes := []
  /-- Error output so far. -/
  err : List String := []
  /-- Exit status. -/
  status : Nat := 0

/-- Take the next argument, or the empty text. -/
def Printf.next (st : Printf) : Bytes × Printf :=
  match st.args with
  | a :: rest => (a, { st with args := rest, used := true })
  | [] => ([], st)

/-- Take the next argument as a number. -/
def Printf.nextNumber (st : Printf) (signed : Bool) : Int × Printf :=
  match st.args with
  | [] => (0, st)
  | _ =>
    let (a, st) := st.next
    let (v, warn) := numericArg signed a
    match warn with
    | some w => (v, { st with err := st.err ++ ["printf: " ++ w], status := 1 })
    | none => (v, st)

/-- Take the next argument as a floating-point number. -/
def Printf.nextDouble (st : Printf) : Double × Printf :=
  match st.args with
  | [] => (.finite false 0 0, st)
  | _ =>
    let (a, st) := st.next
    let text := String.ofList (a.map fun b => Char.ofNat b.toNat)
    match a with
    | q :: rest =>
      if q = 0x22 || q = 0x27 then (.finite false ((rest.head?.map UInt8.toNat).getD 0) 0, st)
      else
        let (d, n, range) := readCDouble a
        let warn : Option String :=
          if n < a.length then
            some (if n = 0 then s!"{text}: expected numeric value" else s!"{text}: not completely converted")
          else if range then some s!"{text}: Numerical result out of range"
          else none
        match warn with
        | some w => (d, { st with err := st.err ++ ["printf: " ++ w], status := 1 })
        | none => (d, st)
    | [] => (.finite false 0 0, st)

/-- Format a floating-point number in a conversion `f`, `F`, `e`, `E`, `g`, `G`, `a` or `A`. -/
def formatDouble (sp : Spec) (conv : UInt8) (d : Double) : Bytes :=
  let upper := conv = 0x46 || conv = 0x45 || conv = 0x47 || conv = 0x41
  let hex := conv = 0x61 || conv = 0x41
  let places := sp.precision.getD 6
  let (neg, body, finite) : Bool × Bytes × Bool := match d with
    | .finite neg m e =>
      let body :=
        if conv = 0x66 || conv = 0x46 then fixedDigits m e places sp.alt
        else if conv = 0x65 || conv = 0x45 then expDigits m e places sp.alt upper
        else if hex then hexFloatDigits m e sp.precision sp.alt upper
        else generalDigits m e places sp.alt upper
      (neg, body, true)
    | .inf neg => (neg, bytesOf (if upper then "INF" else "inf"), false)
    | .nan neg => (neg, bytesOf (if upper then "NAN" else "nan"), false)
  let sign : Bytes := if neg then [0x2D] else if sp.plus then [0x2B] else if sp.space then [0x20] else []
  if sp.zero && !sp.left && finite then
    let (head, body) := if hex then (sign ++ body.take 2, body.drop 2) else (sign, body)
    head ++ List.replicate (sp.width - head.length - body.length) (0x30 : UInt8) ++ body
  else sp.pad (sign ++ body)

/-- Run one pass of the format: `some` state to go on with, or `none` in the state where
output stopped (at `\c` in a `%b` argument, or at an error). -/
def printfPass : Nat → Bytes → Printf → Printf × Bool
  | 0, _, st => (st, true)
  | _, [], st => (st, true)
  | fuel + 1, b :: rest, st =>
    if b = 0x5C then
      let (v, r) := formatEscape rest
      printfPass fuel r { st with out := st.out ++ [v] }
    else if b != 0x25 then printfPass fuel rest { st with out := st.out ++ [b] }
    else
      match rest with
      | 0x25 :: r => printfPass fuel r { st with out := st.out ++ [0x25] }
      | _ =>
        let (sp, r) := readFlags (rest.length + 1) {} rest
        let (sp, r, st) : Spec × Bytes × Printf := match r with
          | 0x2A :: r' =>
            let (w, st) := st.nextNumber true
            let sp := if w < 0 then { sp with left := true, width := w.natAbs } else { sp with width := w.toNat }
            (sp, r', st)
          | _ =>
            let (w, r') := readDecimalBytes r
            ({ sp with width := w.getD 0 }, r', st)
        let (sp, r, st) : Spec × Bytes × Printf := match r with
          | 0x2E :: 0x2A :: r' =>
            let (p, st) := st.nextNumber true
            ({ sp with precision := if p < 0 then none else some p.toNat }, r', st)
          | 0x2E :: r' =>
            let (p, r'') := readDecimalBytes r'
            ({ sp with precision := some (p.getD 0) }, r'', st)
          | _ => (sp, r, st)
        let directive := String.ofList ((b :: rest.take (rest.length - r.length + 1)).map fun x => Char.ofNat x.toNat)
        match r with
        | [] =>
          ({ st with err := st.err ++ ["printf: missing format character"], status := 2 }, false)
        | c :: r' =>
          if c = 0x73 then
            let (a, st) := st.next
            printfPass fuel r' { st with out := st.out ++ formatText sp a }
          else if c = 0x62 then
            let (a, st) := st.next
            let (e, stopped) := expandEscapes a
            let st := { st with out := st.out ++ formatText sp e }
            if stopped then (st, false) else printfPass fuel r' st
          else if c = 0x63 then
            let (a, st) := st.next
            printfPass fuel r' { st with out := st.out ++ sp.pad [a.headD 0] }
          else if c = 0x64 || c = 0x69 then
            let (v, st) := st.nextNumber true
            printfPass fuel r' { st with out := st.out ++ formatSigned sp v }
          else if [0x66, 0x46, 0x65, 0x45, 0x67, 0x47, 0x61, 0x41].contains c then
            let (v, st) := st.nextDouble
            printfPass fuel r' { st with out := st.out ++ formatDouble sp c v }
          else if c = 0x6F || c = 0x75 || c = 0x78 || c = 0x58 then
            let (v, st) := st.nextNumber false
            printfPass fuel r' { st with out := st.out ++ formatUnsigned sp c v.toNat }
          else
            ({ st with err := st.err ++ [s!"printf: {directive}: invalid directive"], status := 2 }, false)

/-- Run `printf` on its arguments: the output, the error lines and the status. An option
other than `--` is refused, and an invalid format writes nothing: the output waits in a
buffer that the error discards. -/
def printfOutput (args : List Bytes) : Bytes × List String × Nat :=
  let args : Except String (List Bytes) := match args with
    | [0x2D, 0x2D] :: rest => .ok rest
    | (0x2D :: c :: _) :: _ => .error s!"printf: Illegal option -{textOf [c]}"
    | _ => .ok args
  match args with
  | .error e => ([], [e], 2)
  | .ok [] => ([], ["printf: usage: printf format [arg ...]"], 2)
  | .ok (fmt :: rest) =>
    let rec loop : Nat → Printf → Printf
      | 0, st => st
      | n + 1, st =>
        let (st', goOn) := printfPass (fmt.length + 1) fmt st
        if goOn && st'.used && !st'.args.isEmpty then loop n st' else st'
    let st := loop (rest.length + 1) { args := rest }
    (if st.status = 2 then [] else st.out, st.err, st.status)

end Chatbot.Shell
