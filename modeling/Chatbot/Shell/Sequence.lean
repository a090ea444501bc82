import Chatbot.Shell.Tools
import Chatbot.Shell.Extended

/-!
# `seq`

`seq [-f FORMAT] [-s SEPARATOR] [-w] [FIRST [INCREMENT]] LAST` writes the numbers from
`FIRST` (1 by default) by `INCREMENT` (1 by default) up to `LAST`, or down to it for a
negative increment, separated by `SEPARATOR` (a line feed by default) and ended by a line
feed. Options come before the operands; a word such as `-1` or `-.5` is an operand.

The numbers are counted in one of two ways.

* When every operand is written with decimal digits only, the increment is at most 200,
  and there is no format, no `-w` and a separator of one byte, the numbers are whole and
  exact, however large.
* Otherwise each operand is read as a number of the extended format (`strtold`), and the
  `k`-th number is `FIRST + k · INCREMENT` computed in that format. The numbers go on while
  they do not pass `LAST`; the first one past it is still written when it is written as a
  number equal to `LAST` and not as the number before it, so that rounding loses no last
  number. Each is written with the format: the one `-f` gives, which holds exactly one
  directive `%e`, `%f`, `%g` or `%a` (any case) with its flags, width and precision, and `%%`
  for a percent sign; or else `%.PLf`, `P` being the most digits after the point of `FIRST`
  and `INCREMENT` as written (zero-padded to the width of the wider of `FIRST` and `LAST`
  under `-w`), or `%Lg` when an operand is hexadecimal or infinite.

A run that would write more than a million numbers counts as one that does not end.
-/

namespace Chatbot.Shell

/-- What `seq` was asked besides its operands. -/
structure SeqJob where
  /-- `-f`: the format of each number. -/
  format : Option Bytes := none
  /-- `-s`: what separates the numbers. -/
  separator : Bytes := [0x0A]
  /-- `-w`: pad the numbers with zeros to one width. -/
  equalWidth : Bool := false
  deriving Repr

/-- The long options of `seq`, and whether each takes an argument. -/
def seqLongOptions : List (String × Bool) :=
  [("format", true), ("separator", true), ("equal-width", false), ("help", false),
   ("version", false)]

/-- Read one word of option letters: the job and the words left after it (`-f` and `-s`
take the rest of the word, or else the next word). -/
def seqLetters (rest : List Bytes) : Nat → SeqJob → Bytes → Except String (SeqJob × List Bytes)
  | 0, j, _ => .ok (j, rest)
  | _, j, [] => .ok (j, rest)
  | fuel + 1, j, c :: more =>
    if c = 0x77 then seqLetters rest fuel { j with equalWidth := true } more
    else if c = 0x66 || c = 0x73 then
      let set (v : Bytes) : SeqJob :=
        if c = 0x66 then { j with format := some v } else { j with separator := v }
      if !more.isEmpty then .ok (set more, rest)
      else
        match rest with
        | v :: rest' => .ok (set v, rest')
        | [] => .error s!"option requires an argument -- '{textOf [c]}'"
    else .error s!"invalid option -- '{textOf [c]}'"

/-- Read the options of `seq`, up to the first operand: the job and the operands, or the
message of a bad option. -/
def readSeqArgs : Nat → List Bytes → SeqJob → Except String (SeqJob × List Bytes)
  | 0, rest, j => .ok (j, rest)
  | _, [], j => .ok (j, [])
  | fuel + 1, a :: rest, j =>
    match a with
    | [0x2D, 0x2D] => .ok (j, rest)
    | 0x2D :: 0x2D :: long =>
      let name := long.takeWhile (· != 0x3D)
      let value : Option Bytes :=
        if name.length < long.length then some (long.drop (name.length + 1)) else none
      match matchLong seqLongOptions (textOf name) with
      | none => .error s!"unrecognized option '{textOf a}'"
      | some (n, takes) =>
        let apply (v : Bytes) (j : SeqJob) : SeqJob :=
          if n = "format" then { j with format := some v }
          else if n = "separator" then { j with separator := v }
          else { j with equalWidth := true }
        if takes then
          match value with
          | some v => readSeqArgs fuel rest (apply v j)
          | none =>
            match rest with
            | v :: rest' => readSeqArgs fuel rest' (apply v j)
            | [] => .error s!"option '--{n}' requires an argument"
        else if value.isSome then .error s!"option '--{n}' doesn't allow an argument"
        else readSeqArgs fuel rest (apply [] j)
    | 0x2D :: c :: more =>
      if c = 0x2E || (0x30 ≤ c && c ≤ 0x39) then .ok (j, a :: rest)
      else
        match seqLetters rest (more.length + 2) j (c :: more) with
        | .ok (j', rest') => readSeqArgs fuel rest' j'
        | .error e => .error e
    | _ => .ok (j, a :: rest)

/-! ## Formats -/

/-- A format with its one directive: the text before it and after it (`%%` already made
`%`), the directive's flags, width and precision, and its conversion letter. -/
structure SeqFormat where
  /-- The text before the directive. -/
  before : Bytes
  /-- Flags, width and precision. -/
  spec : Spec
  /-- The conversion letter. -/
  conv : UInt8
  /-- The text after the directive. -/
  after : Bytes

/-- Read the text of a format up to its directive, `%%` standing for `%`: the text, and what
follows the `%` of the directive, or `none` when there is no directive. -/
def textBeforeDirective : Nat → Bytes → Bytes → Option (Bytes × Bytes)
  | 0, _, _ => none
  | _, [], _ => none
  | fuel + 1, 0x25 :: 0x25 :: rest, acc => textBeforeDirective fuel rest (acc ++ [0x25])
  | _, 0x25 :: rest, acc => some (acc, rest)
  | fuel + 1, b :: rest, acc => textBeforeDirective fuel rest (acc ++ [b])

/-- Read the flags of a directive of `seq`, the grouping flag `'` among them. -/
def seqFlags : Nat → Spec → Bytes → Spec × Bytes
  | 0, sp, bs => (sp, bs)
  | _, sp, [] => (sp, [])
  | fuel + 1, sp, b :: bs =>
    if b = 0x27 then seqFlags fuel sp bs
    else
      let (sp', bs') := readFlags 1 sp [b]
      if bs'.isEmpty then seqFlags fuel sp' bs else (sp, b :: bs)

/-- Read a format of `seq`, or the message that refuses it. -/
def readSeqFormat (fmt : Bytes) : Except String SeqFormat :=
  let quoted := localeQuote (textOf fmt)
  match textBeforeDirective (fmt.length + 1) fmt [] with
  | none => .error s!"format {quoted} has no % directive"
  | some (before, rest) =>
    let (sp, r) := seqFlags (rest.length + 1) {} rest
    let (w, r) := readDecimalBytes r
    let sp := { sp with width := w.getD 0 }
    let (sp, r) : Spec × Bytes := match r with
      | 0x2E :: r' =>
        let (p, r'') := readDecimalBytes r'
        ({ sp with precision := some (p.getD 0) }, r'')
      | _ => (sp, r)
    let r := match r with
      | 0x4C :: r' => r'
      | _ => r
    match r with
    | [] => .error s!"format {quoted} ends in %"
    | c :: after =>
      if !(bytesOf "efgaEFGA").contains c then
        .error s!"format {quoted} has unknown %{textOf [c]} directive"
      else
        match textBeforeDirective (after.length + 1) after [] with
        | some _ => .error s!"format {quoted} has too many % directives"
        | none =>
          let unescaped := (textBeforeDirective (after.length + 2) (after ++ [0x25]) []).map Prod.fst
          .ok { before, spec := sp, conv := c, after := unescaped.getD after }

/-- The directive's text for a number. -/
def SeqFormat.body (f : SeqFormat) (x : Double) : Bytes := formatDouble f.spec f.conv x

/-- The whole text for a number. -/
def SeqFormat.show (f : SeqFormat) (x : Double) : Bytes := f.before ++ f.body x ++ f.after

/-! ## Operands -/

/-- An operand read: its value, and the width and digits after the point it is written
with (`none` for digits when it is hexadecimal or infinite). -/
structure SeqOperand where
  /-- The number. -/
  value : Double
  /-- The width of the number as written, without its exponent. -/
  width : Int
  /-- The digits after the point, the exponent taken into account. -/
  precision : Option Nat

/-- The operand `1`. -/
def seqOne : SeqOperand := ⟨extendedOfNat 1, 1, some 0⟩

/-- The value of the integer at the start of bytes as `strtol` reads it: blanks, a sign and
digits; zero when there are none. -/
def leadingInteger (bs : Bytes) : Int :=
  let t := bs.dropWhile isCSpace
  let (neg, t) : Bool × Bytes := match t with
    | 0x2D :: r => (true, r)
    | 0x2B :: r => (false, r)
    | r => (false, r)
  let ds := t.takeWhile fun b => 0x30 ≤ b && b ≤ 0x39
  let v : Int := ds.foldl (fun v b => 10 * v + (b - 0x30).toNat) 0
  if neg then -v else v

/-- The width and the digits after the point of an operand as written: the width leaves out
blanks and a `+` in front, counts a `0` before a leading point and no point at the end, and
takes the exponent into account. -/
def seqLayout (arg : Bytes) (v : Double) : Int × Option Nat :=
  let t := arg.dropWhile fun b => isCSpace b || b = 0x2B
  let finite := match v with
    | .finite .. => true
    | _ => false
  if t.any (fun b => b = 0x78 || b = 0x58) || !finite then (0, none)
  else
    let isDigitAt (k : Nat) : Bool := (t[k]?.map fun b => 0x30 ≤ b && b ≤ 0x39).getD false
    let point := t.idxOf? 0x2E
    let (prec, width) : Nat × Int := match point with
      | none => (0, t.length)
      | some k =>
        let fracLen := ((t.drop (k + 1)).takeWhile fun b => b != 0x65 && b != 0x45).length
        let adjust : Int :=
          if fracLen = 0 then -1 else if k = 0 || !isDigitAt (k - 1) then 1 else 0
        (fracLen, (t.length : Int) + adjust)
    let e := match t.idxOf? 0x65 with
      | some k => some k
      | none => t.idxOf? 0x45
    match e with
    | none => (width, some prec)
    | some ei =>
      let exponent := leadingInteger (t.drop (ei + 1))
      let prec' : Nat := if exponent < 0 then prec + exponent.natAbs else prec - min prec exponent.toNat
      let width := width - ((t.length : Int) - ei)
      let width :=
        if exponent < 0 then
          (match point with
            | some k => if ei = k + 1 then width + 1 else width
            | none => width + 1) + exponent.natAbs
        else
          (if point.isSome && prec' = 0 && exponent != 0 then width - 1 else width) + exponent
      (width, some prec')

/-- Read an operand as `strtold` does, refusing text that is not wholly a number, a number
too large, and a number that is not one. -/
def scanSeqOperand (arg : Bytes) : Except String SeqOperand :=
  let (v, n, range) := readCFloat .extended arg
  let nonzero := match v with
    | .finite _ m _ => m != 0
    | _ => true
  if n = 0 || n < arg.length || (range && nonzero) then
    .error s!"invalid floating point argument: {localeQuote (textOf arg)}"
  else
    match v with
    | .nan _ =>
      let what := localeQuote "not-a-number"
      .error s!"invalid {what} argument: {localeQuote (textOf arg)}"
    | _ =>
      let (width, precision) := seqLayout arg v
      .ok { value := v, width, precision }

/-! ## Writing the numbers -/

/-- The most numbers `seq` writes before it counts as running on for good. -/
def seqLimit : Nat := 1000000

/-- Write the numbers `first + k · step` in the extended format while they do not pass
`last` (the one just past it too when it is written as `last` and not as the number before
it), separated by `sep` and ended by a line feed: the text, and whether the numbers came to
an end within the limit. -/
def seqNumbers (f : SeqFormat) (sep : Bytes) (first step last : Double) : Bytes × Bool :=
  let zero : Double := .finite false 0 0
  let down := extendedLess step zero
  let past (x : Double) : Bool := if down then extendedLess x last else extendedLess last x
  let readsAsLast (x : Double) : Bool :=
    let text := f.body x
    let (v, n, range) := readCFloat .extended text
    let nonzero := match v with
      | .finite _ m _ => m != 0
      | _ => true
    n > 0 && n = text.length && !(range && nonzero) && extendedEqual v last
  let rec go : Nat → Nat → Double → List Bytes → List Bytes × Bool
    | 0, _, _, acc => (acc, false)
    | fuel + 1, i, x, acc =>
      let acc := f.show x :: acc
      let next := extendedAdd first (extendedMul (extendedOfNat i) step)
      if past next then
        if readsAsLast next && f.body next != f.body x then
          ([0x0A] :: f.show next :: sep :: acc, true)
        else ([0x0A] :: acc, true)
      else go fuel (i + 1) next (sep :: acc)
  if past first then ([], true)
  else
    let (chunks, ended) := go seqLimit 1 first []
    (chunks.reverse.flatten, ended)

/-- Whether bytes are decimal digits only, at least one. -/
def allDigits (bs : Bytes) : Bool := !bs.isEmpty && bs.all fun b => 0x30 ≤ b && b ≤ 0x39

/-- The whole numbers from `first` by `step` up to `last`, written exactly: the text, and
whether they came to an end within the limit. -/
def seqWhole (sep : Bytes) (first step last : Nat) : Bytes × Bool :=
  if last < first then ([], true)
  else
    let count := (last - first) / step + 1
    let shown := min count seqLimit
    let values := (List.range shown).map fun j => decimalBytes (first + j * step)
    ((values.intersperse sep).flatten ++ [0x0A], count ≤ seqLimit)

/-- The default format: `%.PLf` (`%0W.PLf` with `-w`), or `%Lg` when an operand has no
digits after the point to go by. -/
def defaultSeqFormat (equal : Bool) (first step last : SeqOperand) : SeqFormat :=
  let general : SeqFormat := ⟨[], {}, 0x67, []⟩
  match first.precision, step.precision, last.precision with
  | some fp, some sp, some lp =>
    let prec := max fp sp
    if equal then
      let firstWidth := first.width + ((prec : Int) - fp) + (if fp = 0 && prec > 0 then 1 else 0)
      let lastWidth := last.width + ((prec : Int) - lp) - (if lp > 0 && prec = 0 then 1 else 0) +
        (if lp = 0 && prec > 0 then 1 else 0)
      ⟨[], { zero := true, width := (max firstWidth lastWidth).toNat, precision := some prec },
        0x66, []⟩
    else ⟨[], { precision := some prec }, 0x66, []⟩
  | _, _, _ => general

/-- `seq`: see the module's description. -/
def seqTool (args : List Bytes) : ToolRun :=
  match readSeqArgs (args.length + 1) args {} with
  | .error e => usageFailure "seq" e
  | .ok (job, operands) =>
    if operands.isEmpty then usageFailure "seq" "missing operand"
    else if operands.length > 3 then
      usageFailure "seq" s!"extra operand {localeQuote (textOf (operands.getD 3 []))}"
    else
      let format? : Except String (Option SeqFormat) := match job.format with
        | some f => (readSeqFormat f).map some
        | none => .ok none
      match format? with
      | .error e => ToolRun.failure s!"seq: {e}"
      | .ok fmt =>
        if fmt.isSome && job.equalWidth then
          usageFailure "seq" "format string may not be specified when printing equal width strings"
        else
          let n := operands.length
          let op (k : Nat) : Bytes := operands.getD k []
          let value (k : Nat) : Nat := (op k).foldl (fun v b => 10 * v + (b - 0x30).toNat) 0
          let stepOk := n != 3 || (allDigits (op 1) && 0 < value 1 && value 1 ≤ 200)
          let fast := allDigits (op 0) && (n = 1 || allDigits (op 1)) &&
            (n < 3 || (stepOk && allDigits (op 2))) && !job.equalWidth && fmt.isNone &&
            job.separator.length = 1
          if fast then
            let (first, step, last) :=
              if n = 1 then (1, 1, value 0)
              else if n = 2 then (value 0, 1, value 1)
              else (value 0, value 1, value 2)
            let (out, ended) := seqWhole job.separator first step last
            { out, time := if ended then some 0 else none }
          else
            let scanned : Except String (SeqOperand × SeqOperand × SeqOperand) := do
              let a ← scanSeqOperand (op 0)
              if n = 1 then return (seqOne, seqOne, a)
              let b ← scanSeqOperand (op 1)
              if n = 2 then return (a, seqOne, b)
              if extendedEqual b.value (.finite false 0 0) then
                throw s!"invalid Zero increment value: {localeQuote (textOf (op 1))}"
              let c ← scanSeqOperand (op 2)
              return (a, b, c)
            match scanned with
            | .error e => usageFailure "seq" e
            | .ok (first, step, last) =>
              let f := fmt.getD (defaultSeqFormat job.equalWidth first step last)
              let (out, ended) := seqNumbers f job.separator first.value step.value last.value
              { out, time := if ended then some 0 else none }

end Chatbot.Shell
