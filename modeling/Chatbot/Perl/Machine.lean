import Chatbot.Perl.Heap
import Chatbot.Shell.Host

/-!
# Running perl programs

An expression is evaluated in a context: for one scalar, or for a list. The two differ where
perl's do: an array gives its length for a scalar and its elements for a list, a list in
parentheses its last item or all of them, a match whether it matched or what it captured,
`reverse` a reversed string or a reversed list, a list assignment the number of values on its
right or the values.

Places are cells: a variable's, an element's (made when it is assigned, so that `$h{a}{b} = 1`
makes the hash that `$h{a}` refers to), or a new cell for a value that has none.

A subroutine runs with `@_` holding its arguments' cells and sees the variables of the file
(a closure, those of the block it was made in); its value is what `return` gives or the value
of its last statement, in the context of its call.

A pattern finds perl's match: the leftmost place where it matches, and there the first way in
its order of trying. `m//g` in a list finds every match; for a scalar it goes on from where the
last one stopped. `s///` replaces the first match or every one; with `/e` the replacement is
code. After a match that is empty, the next may not be empty at the same place.

`die` adds the place, ` at -e line N.`, to a message that does not end in a line feed, as
perl's own errors do (`Illegal division by zero`, `Can't take log of 0`, …).
-/

namespace Chatbot.Perl

open Chatbot.Shell Chatbot.Awk

/-! ## Special variables -/

/-- The text a group of the last match captured. -/
def groupText (m : MatchInfo) (k : Nat) : Scalar :=
  if k = 0 then .str ((m.subject.drop m.start).take (m.stop - m.start))
  else
    match m.caps.getD (k - 1) none with
    | some (a, b) => .str ((m.subject.drop a).take (b - a))
    | none => .undefined

/-- The value of a variable perl keeps itself, if the name is one. -/
def specialScalar (name : String) : Run (Option Scalar) := do
  let m ← get
  if name.length > 0 && name.all Char.isDigit && name != "0" then
    let k := name.toNat!
    return some (match m.lastMatch with
      | some mi => if k ≤ mi.groups then groupText mi k else .undefined
      | none => .undefined)
  match name with
  | "&" => return some ((m.lastMatch.map fun mi => groupText mi 0).getD .undefined)
  | "`" => return some ((m.lastMatch.map fun mi => Scalar.str (mi.subject.take mi.start)).getD .undefined)
  | "'" => return some ((m.lastMatch.map fun mi => Scalar.str (mi.subject.drop mi.stop)).getD .undefined)
  | "+" =>
    return some ((m.lastMatch.map fun mi =>
      ((List.range mi.groups).reverse.findSome? fun k =>
        match mi.caps.getD k none with
        | some _ => some (groupText mi (k + 1))
        | none => none).getD .undefined).getD .undefined)
  | "." => return some (if m.lastHandle.isSome then .int m.lineNo else .undefined)
  | "0" => return some (.str (rawOf m.fileName))
  | "$" => return some (.int 4242)
  | "!" => return some (.str (rawOf (errnoText m.errno)))
  | "]" => return some (.num (readCDouble (rawOf "5.036000")).1)
  | "^O" => return some (.str (rawOf "linux"))
  | "^V" => return some (.str (rawOf "v5.36.0"))
  | "^X" => return some (.str (rawOf "/usr/bin/perl"))
  | "^T" => return some (.int 1700000000)
  | "^W" => return some (.int 0)
  | "|" =>
    let v ← readCell (← globalCell "$|" (.scalar .undefined))
    return some (.int (if v.truth then 1 else 0))
  | _ => return none

/-- The value of a package or declared scalar variable. -/
def readScalarVar (name : String) : Run Scalar := do
  match ← specialScalar name with
  | some v => return v
  | none => readCell (← varCell ("$" ++ name) (.scalar .undefined))

/-- The text of a variable perl keeps: `$,`, `$\`, `$"`, `$/`. -/
def varText (name : String) : Run Bytes := do
  return (← readScalarVar name).toText

/-! ## Operators -/

/-- Whether a scalar is a string that is not also a number. -/
def isPlainString : Scalar → Bool
  | .str _ => true
  | _ => false

/-- Bytes joined bitwise, the shorter padded with zeros for `|` and `^`, cut for `&`. -/
def bitwiseBytes (f : UInt8 → UInt8 → UInt8) (cut : Bool) (a b : Bytes) : Bytes :=
  let n := if cut then min a.length b.length else max a.length b.length
  (List.range n).map fun i => f (a.getD i 0) (b.getD i 0)

/-- A binary operation on two values. -/
def binaryOp (op : BinOp) (a b : Scalar) : Run Scalar := do
  match op with
  | .add => return addScalars a b
  | .sub => return subScalars a b
  | .mul => return mulScalars a b
  | .div =>
    match divScalars a b with
    | some v => return v
    | none => dieWith "Illegal division by zero"
  | .mod =>
    match modScalars a b with
    | some v => return v
    | none => dieWith "Illegal modulus zero"
  | .pow => return powScalars a b
  | .concat => return .str (a.toText ++ b.toText)
  | .repeat =>
    let k := b.toInt
    let t := a.toText
    return .str (if k ≤ 0 then [] else (List.replicate k.toNat t).flatten)
  | .numEq => return boolScalar (compareNumbers a b = some .eq)
  | .numNe => return boolScalar (compareNumbers a b != some .eq)
  | .numLt => return boolScalar (compareNumbers a b = some .lt)
  | .numGt => return boolScalar (compareNumbers a b = some .gt)
  | .numLe => return boolScalar (compareNumbers a b = some .lt || compareNumbers a b = some .eq)
  | .numGe => return boolScalar (compareNumbers a b = some .gt || compareNumbers a b = some .eq)
  | .numCmp =>
    return match compareNumbers a b with
      | some .lt => .int (-1)
      | some .eq => .int 0
      | some .gt => .int 1
      | none => .undefined
  | .strEq => return boolScalar (compareStrings a b = .eq)
  | .strNe => return boolScalar (compareStrings a b != .eq)
  | .strLt => return boolScalar (compareStrings a b = .lt)
  | .strGt => return boolScalar (compareStrings a b = .gt)
  | .strLe => return boolScalar (compareStrings a b != .gt)
  | .strGe => return boolScalar (compareStrings a b != .lt)
  | .strCmp =>
    return .int (match compareStrings a b with
      | .lt => -1
      | .eq => 0
      | .gt => 1)
  | .bitAnd =>
    if isPlainString a && isPlainString b then return .str (bitwiseBytes (· &&& ·) true a.toText b.toText)
    return .int (Nat.land a.toBits b.toBits)
  | .bitOr =>
    if isPlainString a && isPlainString b then return .str (bitwiseBytes (· ||| ·) false a.toText b.toText)
    return .int (Nat.lor a.toBits b.toBits)
  | .bitXor =>
    if isPlainString a && isPlainString b then return .str (bitwiseBytes (· ^^^ ·) false a.toText b.toText)
    return .int (Nat.xor a.toBits b.toBits)
  | .shiftLeft => return .int (shiftBits a.toBits b.toInt)
  | .shiftRight => return .int (shiftBits a.toBits (-b.toInt))

/-- `~a`: the bits of the number turned over, or of the bytes of a string. -/
def bitNotScalar (a : Scalar) : Scalar :=
  if isPlainString a then .str (a.toText.map fun b => b ^^^ 0xFF)
  else .int (Nat.pow 2 64 - 1 - a.toBits)

/-! ## Records -/

/-- Take a record from the front of input, by the separator (`none` to take all, empty for
paragraphs): the record and the rest, or `none` at the end. -/
def takeRecord (sep : Option Bytes) (bs : Bytes) : Option (Bytes × Bytes) :=
  if bs.isEmpty then none
  else
    match sep with
    | none => some (bs, [])
    | some [] =>
      let t := bs.dropWhile (· == 0x0A)
      if t.isEmpty then none
      else
        match indexFrom t [0x0A, 0x0A] 0 with
        | some i =>
          let rest := (t.drop (i + 2)).dropWhile (· == 0x0A)
          some (t.take (i + 2), rest)
        | none => some (t, [])
    | some s =>
      match indexFrom bs s 0 with
      | some i => some (bs.take (i + s.length), bs.drop (i + s.length))
      | none => some (bs, [])

/-- The record separator `$/`: `none` when it is undefined. -/
def recordSeparator : Run (Option Bytes) := do
  match ← readScalarVar "/" with
  | .undefined => return none
  | v => return some v.toText

/-- Count a line read from a handle. -/
def countLine (handle : String) : Run Unit :=
  modify fun m => { m with lineNo := m.lineNo + 1, lastHandle := some handle }

/-- Read a record from the standard input. -/
def readStdinRecord : Run (Option Bytes) := do
  let sep ← recordSeparator
  let m ← get
  set { m with tookStdin := true }
  match takeRecord sep m.stdin with
  | some (r, rest) =>
    modify fun m => { m with stdin := rest }
    return some r
  | none => return none

/-- Open the next file of `@ARGV` for `<>`: whether there was one. -/
def openNextArgv : Nat → Run Bool
  | 0 => return false
  | fuel + 1 => do
    let argv ← globalCell "@ARGV" (.array #[])
    let items ← arrayItems argv
    modify fun m => { m with outputFile := none }
    if items.isEmpty then
      if (← get).argvStarted then return false
      modify fun m => { m with argvStarted := true, argvFile := some ("-", []) }
      writeCell (← globalCell "$ARGV" (.scalar .undefined)) (.str [0x2D])
      return true
    let name := (← readCell items[0]!).toText
    setCell argv (.array (items.extract 1 items.size))
    modify fun m => { m with argvStarted := true }
    writeCell (← globalCell "$ARGV" (.scalar .undefined)) (.str name)
    if name = [0x2D] then
      modify fun m => { m with argvFile := some ("-", []) }
      return true
    match ← fileContent (textOf name) with
    | some content =>
      modify fun m => { m with argvFile := some (textOf name, content) }
      match (← get).inPlace with
      | some ending =>
        let path := textOf name
        setFile path []
        modify fun m => { m with outputFile := some path }
        if !ending.isEmpty then setFile (textOf (name ++ ending)) content
      | none => pure ()
      return true
    | none =>
      let m ← get
      let msg := rawOf s!"Can't open {textOf name}: No such file or directory at {m.fileName} line {m.line}"
      let input : Bytes := if m.lineNo > 0 then rawOf s!", <> line {m.lineNo}" else []
      modify fun m => { m with err := m.err ++ msg ++ input ++ rawOf ".\n", errno := 2 }
      openNextArgv fuel

/-- Read a record for `<>`: from the files named in `@ARGV` in turn, or the standard input. -/
def readArgvRecord : Nat → Run (Option Bytes)
  | 0 => return none
  | fuel + 1 => do
    let sep ← recordSeparator
    match (← get).argvFile with
    | some ("-", _) =>
      match ← readStdinRecord with
      | some r => return some r
      | none =>
        modify fun m => { m with argvFile := none }
        if ← openNextArgv (fuel + 1) then readArgvRecord fuel else return none
    | some (name, content) =>
      match takeRecord sep content with
      | some (r, rest) =>
        modify fun m => { m with argvFile := some (name, rest) }
        return some r
      | none =>
        modify fun m => { m with argvFile := none }
        if ← openNextArgv (fuel + 1) then readArgvRecord fuel else return none
    | none =>
      if (← get).argvStarted && (← arrayItems (← globalCell "@ARGV" (.array #[]))).isEmpty then
        return none
      if ← openNextArgv (fuel + 1) then readArgvRecord fuel else return none

/-- Read a record from a handle by name. -/
def readRecordFrom (handle : String) : Run (Option Bytes) := do
  let r ← match handle with
    | "STDIN" => readStdinRecord
    | "ARGV" =>
      let m ← get
      readArgvRecord (m.files.length + m.heap.size + 4)
    | _ =>
      match (← get).handles.lookup handle with
      | some (.reader rest) =>
        let sep ← recordSeparator
        match takeRecord sep rest with
        | some (r, more) =>
          modify fun m => { m with handles := m.handles.map fun (k, h) =>
            if k = handle then (k, .reader more) else (k, h) }
          pure (some r)
        | none => pure none
      | _ => pure none
  if r.isSome then countLine handle
  return r

/-- Whether a handle has nothing more to read. -/
def atEof (handle : String) : Run Bool := do
  let m ← get
  match handle with
  | "STDIN" => return m.stdin.isEmpty
  | "ARGV" =>
    match m.argvFile with
    | some ("-", _) => return m.stdin.isEmpty
    | some (_, rest) => return rest.isEmpty
    | none => return true
  | _ =>
    match m.handles.lookup handle with
    | some (.reader rest) => return rest.isEmpty
    | _ => return true

/-- The name of a handle a scalar holds. -/
def handleName (v : Scalar) : String :=
  let t := textOf v.toText
  if t.startsWith "*main::" then (t.drop 7).toString else t

/-! ## Dates -/

/-- The civil date of a day counted from 1970-01-01: year, month (1 to 12), day. -/
def civilOfDays (z : Int) : Int × Nat × Nat :=
  let z := z + 719468
  let era := (if z ≥ 0 then z else z - 146096) / 146097
  let doe := z - era * 146097
  let yoe := (doe - doe / 1460 + doe / 36524 - doe / 146096) / 365
  let y := yoe + era * 400
  let doy := doe - (365 * yoe + yoe / 4 - yoe / 100)
  let mp := (5 * doy + 2) / 153
  let d := doy - (153 * mp + 2) / 5 + 1
  let m := if mp < 10 then mp + 3 else mp - 9
  ((if m ≤ 2 then y + 1 else y), m.toNat, d.toNat)

/-- Two digits. -/
def twoDigits (n : Nat) : String := if n < 10 then "0" ++ toString n else toString n

/-- The day, counted from 1970-01-01, of a civil date (month 1 to 12). -/
def daysOfCivil (y : Int) (m d : Nat) : Int :=
  let y := if m ≤ 2 then y - 1 else y
  let era := (if y ≥ 0 then y else y - 399) / 400
  let yoe := y - era * 400
  let mp : Int := if m > 2 then (m : Int) - 3 else (m : Int) + 9
  let doy := (153 * mp + 2) / 5 + d - 1
  let doe := yoe * 365 + yoe / 4 - yoe / 100 + doy
  era * 146097 + doe - 719468

/-- The parts of a time as `gmtime` gives them: seconds, minutes, hours, day, month (from 0),
year less 1900, day of the week, day of the year. -/
def timeParts (t : Int) : List Int :=
  let days := if t ≥ 0 then t / 86400 else -((-t + 86399) / 86400)
  let secs := t - days * 86400
  let (y, mo, d) := civilOfDays days
  let wday := (days % 7 + 11) % 7
  let yday := days - daysOfCivil y 1 1
  [secs % 60, secs / 60 % 60, secs / 3600, d, (mo : Int) - 1, y - 1900, wday, yday]

/-- The names of the days of the week, from Sunday. -/
def dayNames : List String := ["Sunday", "Monday", "Tuesday", "Wednesday", "Thursday", "Friday", "Saturday"]

/-- The names of the months. -/
def monthNames : List String :=
  ["January", "February", "March", "April", "May", "June", "July", "August", "September",
   "October", "November", "December"]

/-- The text `gmtime` gives a time in a scalar context. -/
def timeText (t : Int) : Bytes :=
  let parts := timeParts t
  let get (i : Nat) : Int := parts.getD i 0
  let day := get 3
  let dayText := if day < 10 then " " ++ toString day else toString day
  let dayName := ((dayNames.getD (get 6).toNat "").take 3).toString
  let monthName := ((monthNames.getD (get 4).toNat "").take 3).toString
  rawOf s!"{dayName} {monthName} {dayText} {twoDigits (get 2).toNat}:{twoDigits (get 1).toNat}:{twoDigits (get 0).toNat} {get 5 + 1900}"

/-- A number padded to a width with a byte. -/
def padNumber (fill : UInt8) (width : Nat) (n : Int) : Bytes :=
  let digits := rawOf (toString n.natAbs)
  let sign : Bytes := if n < 0 then [0x2D] else []
  sign ++ List.replicate (width - digits.length - sign.length) fill ++ digits

/-- What a composite directive of `strftime` stands for. -/
def strftimeComposite (c : UInt8) : Option Bytes :=
  match c with
  | 0x46 => some (rawOf "%Y-%m-%d")
  | 0x54 => some (rawOf "%H:%M:%S")
  | 0x44 | 0x78 => some (rawOf "%m/%d/%y")
  | 0x52 => some (rawOf "%H:%M")
  | 0x72 => some (rawOf "%I:%M:%S %p")
  | 0x58 => some (rawOf "%H:%M:%S")
  | 0x63 => some (rawOf "%a %b %e %H:%M:%S %Y")
  | _ => none

/-- Put in the directives of a format that `expand` knows, the pieces last first; a directive
it does not know stays. -/
def expandDirectives (expand : UInt8 → Option Bytes) : Nat → Bytes → List Bytes → List Bytes
  | 0, rest, acc => rest :: acc
  | _, [], acc => acc
  | fuel + 1, 0x25 :: c :: rest, acc =>
    match expand c with
    | some t => expandDirectives expand fuel rest (t :: acc)
    | none => expandDirectives expand fuel rest ([0x25, c] :: acc)
  | fuel + 1, b :: rest, acc => expandDirectives expand fuel rest ([b] :: acc)

/-- `POSIX::strftime`: the format with the parts of a time put in (seconds, minutes, hours,
day, month from 0, year less 1900); the day of the week and of the year follow from the date,
which is normalised as `mktime` does. -/
def strftimeText (fmt : Bytes) (parts : List Int) : Bytes :=
  let get (i : Nat) : Int := parts.getD i 0
  let seconds := get 0 + 60 * get 1 + 3600 * get 2
  let monthIndex := get 4
  let year := 1900 + get 5 + (if monthIndex ≥ 0 then monthIndex / 12 else -((11 - monthIndex) / 12))
  let month := ((monthIndex % 12 + 12) % 12).toNat + 1
  let dayShift := if seconds ≥ 0 then seconds / 86400 else -((86399 - seconds) / 86400)
  let days := daysOfCivil year month 1 + (get 3 - 1) + dayShift
  let t := days * 86400 + (seconds - dayShift * 86400)
  let p := timeParts t
  let at_ (i : Nat) : Int := p.getD i 0
  let hour := at_ 2
  let wday := at_ 6
  let yday := at_ 7
  let hour12 := if hour % 12 = 0 then 12 else hour % 12
  let weekFrom (first : Int) : Int := (yday + 7 - ((wday - first + 7) % 7)) / 7
  let one (c : UInt8) : Option Bytes :=
    match c with
    | 0x59 => some (rawOf (toString (at_ 5 + 1900)))
    | 0x43 => some (padNumber 0x30 2 ((at_ 5 + 1900) / 100))
    | 0x79 => some (padNumber 0x30 2 ((at_ 5 + 1900) % 100))
    | 0x6D => some (padNumber 0x30 2 (at_ 4 + 1))
    | 0x64 => some (padNumber 0x30 2 (at_ 3))
    | 0x65 => some (padNumber 0x20 2 (at_ 3))
    | 0x48 => some (padNumber 0x30 2 hour)
    | 0x49 => some (padNumber 0x30 2 hour12)
    | 0x4D => some (padNumber 0x30 2 (at_ 1))
    | 0x53 => some (padNumber 0x30 2 (at_ 0))
    | 0x6A => some (padNumber 0x30 3 (yday + 1))
    | 0x61 => some (rawOf ((dayNames.getD wday.toNat "").take 3).toString)
    | 0x41 => some (rawOf (dayNames.getD wday.toNat ""))
    | 0x62 | 0x68 => some (rawOf ((monthNames.getD (at_ 4).toNat "").take 3).toString)
    | 0x42 => some (rawOf (monthNames.getD (at_ 4).toNat ""))
    | 0x70 => some (rawOf (if hour < 12 then "AM" else "PM"))
    | 0x50 => some (rawOf (if hour < 12 then "am" else "pm"))
    | 0x75 => some (rawOf (toString (if wday = 0 then 7 else wday)))
    | 0x77 => some (rawOf (toString wday))
    | 0x55 => some (padNumber 0x30 2 (weekFrom 0))
    | 0x57 => some (padNumber 0x30 2 (weekFrom 1))
    | 0x73 => some (rawOf (toString t))
    | 0x7A => some (rawOf "+0000")
    | 0x5A => some (rawOf "UTC")
    | 0x6E => some [0x0A]
    | 0x74 => some [0x09]
    | 0x25 => some [0x25]
    | _ => none
  let first := (expandDirectives strftimeComposite (fmt.length + 1) fmt []).reverse.flatten
  (expandDirectives one (first.length + 1) first []).reverse.flatten

/-! ## Sorting -/

/-- Merge two sorted lists, the left item first unless the right one is strictly before. -/
def mergeWith {m : Type → Type} [Monad m] {α : Type} (before : α → α → m Bool) :
    Nat → List α → List α → m (List α)
  | 0, xs, ys => pure (xs ++ ys)
  | _, [], ys => pure ys
  | _, xs, [] => pure xs
  | fuel + 1, x :: xs, y :: ys => do
    if ← before y x then return y :: (← mergeWith before fuel (x :: xs) ys)
    else return x :: (← mergeWith before fuel xs (y :: ys))

/-- Sort a list stably by a comparison that may run code. -/
def sortWith {m : Type → Type} [Monad m] {α : Type} (before : α → α → m Bool) :
    Nat → List α → m (List α)
  | 0, xs => pure xs
  | fuel + 1, xs =>
    if xs.length ≤ 1 then pure xs
    else do
      let k := xs.length / 2
      let a ← sortWith before fuel (xs.take k)
      let b ← sortWith before fuel (xs.drop k)
      mergeWith before (a.length + b.length + 1) a b

/-! ## Patterns -/

/-- Compile a pattern with its flags, or die with perl's message. -/
def compilePattern (pattern : Bytes) (flags : Bytes) : Run Rx := do
  if pattern.isEmpty then
    match (← get).lastPattern with
    | some rx => return rx
    | none => pure ()
  match readPattern pattern (PatternFlags.ofLetters flags) with
  | .ok rx => return rx
  | .error e =>
    let m ← get
    throw (.die (.str (rawOf s!"{e}; marked by <-- HERE in m/{textOf pattern} <-- HERE / at {m.fileName} line {m.line}.\n")))

/-- Record a successful match. -/
def setMatch (rx : Rx) (names : List (Bytes × Nat)) (subject : Bytes) (m : RxMatch) : Run Unit :=
  modify fun st => { st with
    lastMatch := some { subject, start := m.start, stop := m.stop, caps := m.caps,
                        groups := rx.groupCount, names },
    lastPattern := some rx }

/-- `@-` and `@+`: where the last match and its groups start, or end. -/
def matchOffsets (ends : Bool) : Run (List Scalar) := do
  match (← get).lastMatch with
  | some mi =>
    let whole : Scalar := .int (if ends then mi.stop else mi.start)
    let groups := (List.range mi.groups).map fun k =>
      match mi.caps.getD k none with
      | some (a, b) => Scalar.int (if ends then b else a)
      | none => .undefined
    return whole :: groups
  | none => return []

/-- `%+`: what the named groups of the last match captured. -/
def namedCaptures : Run (List Scalar) := do
  match (← get).lastMatch with
  | some mi =>
    return mi.names.flatMap fun (name, k) =>
      match groupText mi k with
      | .undefined => []
      | v => [.str name, v]
  | none => return []

/-- Where `m//g` stopped in a cell, and whether that match was empty. -/
def positionOf (cell : Nat) : Run (Option (Nat × Bool)) := do
  return (← get).positions.lookup cell

/-- Set where `m//g` stopped in a cell, or forget it. -/
def setPosition (cell : Nat) (p : Option (Nat × Bool)) : Run Unit :=
  modify fun m => { m with positions :=
    match p with
    | some q => (cell, q) :: m.positions.filter (·.1 != cell)
    | none => m.positions.filter (·.1 != cell) }

/-- Every match of a pattern from a place on, each after the last: the global scan. -/
def allMatches (rx : Rx) (hay : Array UInt8) : Nat → Nat → Bool → List RxMatch
  | 0, _, _ => []
  | fuel + 1, pos, afterEmpty =>
    if pos > hay.size then []
    else
      match nextMatch rx hay pos afterEmpty with
      | some m => m :: allMatches rx hay fuel m.stop (m.start = m.stop)
      | none => []

/-- Apply the marks of case to a piece of text: the marks in force (last first) and a pending
mark for the next byte. -/
def caseText (modes : List CaseMark) (pending : Option CaseMark) (bs : Bytes) : Bytes :=
  let quoted := if modes.contains .quote then quoteMeta bs else bs
  let cased := match modes.find? fun m => m = .upper || m = .lower || m = .fold with
    | some .upper => upperBytes quoted
    | some .lower | some .fold => lowerBytes quoted
    | _ => quoted
  match pending, cased with
  | some .upperNext, b :: rest => upperOf b :: rest
  | some .lowerNext, b :: rest => lowerOf b :: rest
  | _, _ => cased

/-- Change the marks in force by a new mark. -/
def applyMark (modes : List CaseMark) (m : CaseMark) : List CaseMark :=
  match m with
  | .finish => modes.drop 1
  | .upper | .lower | .fold =>
    m :: modes.filter fun x => !(x = .upper || x = .lower || x = .fold)
  | .quote => m :: modes
  | _ => modes

/-- The target of a list assignment. -/
inductive Target where
  /-- A scalar cell, which takes one value. -/
  | one (cell : Nat)
  /-- An array, which takes the rest. -/
  | array (cell : Nat)
  /-- A hash, which takes the rest in pairs. -/
  | hash (cell : Nat)
  /-- A place that drops its value. -/
  | skip
  deriving Repr

/-- Whether an assignment to an expression assigns a list. -/
def isListTarget : Expr → Bool
  | .list _ | .arrayVar _ | .hashVar _ | .derefArray _ | .derefHash _ | .slice _ _ | .hslice _ _ => true
  | .declare _ [.scalarVar _] => false
  | .declare _ _ => true
  | _ => false

/-- The value of a loop item: a cell the loop variable stands for, or a value with no cell. -/
abbrev Item := Sum Nat Scalar

/-! ## Classes -/

/-- The package of a subroutine's full name: what stands before its last `::`, or `main`. -/
def packageOf (name : String) : String :=
  match (name.splitOn "::").dropLast with
  | [] => "main"
  | parts => "::".intercalate parts

/-- The classes a class inherits from: its `@ISA`. -/
def parentsOf (cls : String) : Run (List String) := do
  let key := if cls = "main" then "@ISA" else "@" ++ cls ++ "::ISA"
  match (← get).globals.lookup key with
  | some a => return (← arrayValues a).map fun v => textOf v.toText
  | none => return []

/-- The subroutine a method name finds in a class or, depth first, in the classes it inherits
from. -/
def findMethod : Nat → String → String → Run (Option SubDef)
  | 0, _, _ => return none
  | fuel + 1, cls, name => do
    let full := if cls = "main" then name else cls ++ "::" ++ name
    match (← get).subs.find? (·.name == full) with
    | some d => return some d
    | none =>
      let mut found : Option SubDef := none
      for p in ← parentsOf cls do
        if found.isNone then found ← findMethod fuel p name
      return found

/-- Whether a class is another class or inherits from it. -/
def classIsa : Nat → String → String → Run Bool
  | 0, _, _ => return false
  | fuel + 1, cls, target => do
    if cls = target then return true
    let mut found := false
    for p in ← parentsOf cls do
      if !found then found ← classIsa fuel p target
    return found

/-- Whether a package has anything in it: a subroutine or a parent. -/
def packageKnown (cls : String) : Run Bool := do
  let m ← get
  return m.subs.any (fun d => d.name.startsWith (cls ++ "::")) ||
    m.globals.any (fun g => g.1 = "@" ++ cls ++ "::ISA")

/-- The values of `a .. b` in a list: numbers counting up, or strings by the magic
increment. -/
def rangeValues (a b : Scalar) : List Scalar :=
  let numeric := match a, b with
    | .str s, .str t =>
      let looks (x : Bytes) : Bool :=
        let k := decimalPrefix x
        k > 0 && k = x.length
      (looks s && s.head? != some 0x30 && looks t) || s.isEmpty
    | .str s, .undefined => s.isEmpty
    | .undefined, _ => true
    | _, _ => true
  if numeric then
    let lo := a.toInt
    let hi := b.toInt
    if hi < lo then []
    else (List.range (hi - lo + 1).toNat).map fun (k : Nat) => Scalar.int (lo + k)
  else
    let s := a.toText
    let t := b.toText
    if isMagicIncrement s then (stringRange s t (Nat.pow 2 20)).map Scalar.str else [.str s]

/-- Read every record left in a handle. -/
def readAll : Nat → String → Run (List Bytes)
  | 0, _ => return []
  | fuel + 1, name => do
    match ← readRecordFrom name with
    | some r => return r :: (← readAll fuel name)
    | none => return []

/-- The expression that reads back what a list assignment assigned. -/
def targetView : Expr → Expr
  | .declare _ vars => .list vars
  | .list items => .list (items.map fun i => match i with
    | .declare _ vars => .list vars
    | x => x)
  | x => x

/-- Run with `$_` standing for an item. -/
def withTopic {α : Type} (it : Item) (body : Run α) : Run α := do
  let c ← match it with
    | .inl c => pure c
    | .inr v => newScalar v
  inScope do
    bindGlobal "$_" c
    body

/-! ## Dumping data -/

/-- A value as `Data::Dumper` writes a plain scalar: a small integer bare, anything else
between single quotes. -/
def dumpPlain (v : Scalar) : Bytes :=
  match v with
  | .undefined => rawOf "undef"
  | .int i =>
    let t := rawOf (toString i)
    if i.natAbs < 1000000000 then t else [0x27] ++ t ++ [0x27]
  | other =>
    let escaped := other.toText.flatMap fun b => if b = 0x27 || b = 0x5C then [0x5C, b] else [b]
    [0x27] ++ escaped ++ [0x27]

/-- How `Data::Dumper` lays out what it writes: `$Data::Dumper::Indent` (0, 1 or 2) and
whether hash keys are sorted. -/
structure DumpStyle where
  /-- The style of indentation. -/
  indent : Nat := 2
  /-- Whether the keys of a hash are sorted. -/
  sortKeys : Bool := false

/-- Write a value, its opening bracket at column `col`, `level` brackets deep; an object as
`bless( …, 'Class' )` unless `plain`. -/
def dumpValue (style : DumpStyle) : Nat → Bool → Nat → Nat → Scalar → Run Bytes
  | 0, _, _, _, _ => return rawOf "undef"
  | fuel + 1, plain, col, level, v => do
    let blessings := (← get).blessings
    let blessing := match v with
      | .ref _ a => if plain then none else blessings.lookup a
      | _ => none
    match blessing with
    | some cls =>
      let col' := if style.indent = 2 then col + 7 else col
      let body ← dumpValue style fuel true col' level v
      return rawOf "bless( " ++ body ++ rawOf ", " ++ dumpPlain (.str (rawOf cls)) ++ rawOf " )"
    | none =>
      -- the place of an item inside a bracket, and of the closing bracket
      let inner : Bytes := match style.indent with
        | 0 => []
        | 1 => [0x0A] ++ List.replicate (2 * (level + 1)) 0x20
        | _ => [0x0A] ++ List.replicate (col + 2) 0x20
      let closing : Bytes := match style.indent with
        | 0 => []
        | 1 => [0x0A] ++ List.replicate (2 * level) 0x20
        | _ => [0x0A] ++ List.replicate col 0x20
      let itemCol := match style.indent with
        | 1 => 2 * (level + 1)
        | _ => col + 2
      match v with
      | .ref .array a =>
        let items ← arrayItems a
        if items.isEmpty then return rawOf "[]"
        let parts ← items.toList.mapM fun c => do
          dumpValue style fuel false itemCol (level + 1) (← readCell c)
        let body := ((parts.map (inner ++ ·)).intersperse [0x2C]).flatten
        return [0x5B] ++ body ++ closing ++ [0x5D]
      | .ref .hash a =>
        let entries ← hashEntries a
        if entries.isEmpty then return rawOf "{}"
        let entries := if style.sortKeys then
            entries.toList.mergeSort fun x y => byteOrder x.1 y.1 != .gt
          else entries.toList
        let parts ← entries.mapM fun (k, c) => do
          let key := dumpPlain (.str k) ++ rawOf " => "
          let value ← dumpValue style fuel false (itemCol + key.length) (level + 1) (← readCell c)
          return key ++ value
        let body := ((parts.map (inner ++ ·)).intersperse [0x2C]).flatten
        return [0x7B] ++ body ++ closing ++ [0x7D]
      | .ref .scalar a => return [0x5C] ++ (← dumpValue style fuel false (col + 1) level (← readCell a))
      | .ref .code _ => return rawOf "sub \x7b \"DUMMY\" \x7d"
      | other => return dumpPlain other

/-- `Dumper`: each value as `$VARn = …;`, laid out as the settings of `Data::Dumper` say. -/
def dumper (vals : List Scalar) : Run Bytes := do
  let setting (name : String) : Run Scalar := do
    readCell (← globalCell ("$Data::Dumper::" ++ name) (.scalar .undefined))
  let indent := match ← setting "Indent" with
    | .undefined => 2
    | x => x.toInt.toNat
  let style : DumpStyle := { indent := min indent 2, sortKeys := (← setting "Sortkeys").truth }
  let terse := (← setting "Terse").truth
  let parts ← vals.zipIdx.mapM fun (v, i) => do
    let name := if terse then [] else rawOf s!"$VAR{i + 1} = "
    let col := if style.indent = 2 then name.length else 0
    let body ← dumpValue style (4 * (← get).heap.size + 8) false col 0 v
    let ending : Bytes := if terse then [] else [0x3B]
    let lineEnd : Bytes := if style.indent = 0 then [] else [0x0A]
    return name ++ body ++ ending ++ lineEnd
  return parts.flatten

/-- A function of a module (`List::Util`, `POSIX`, …) on values. -/
def moduleFunction (name : String) (vals : List Scalar) (wantList : Bool) : Run (Option (List Scalar)) := do
  let numOrder (a b : Scalar) : Bool := compareNumbers a b = some .lt
  match name with
  | "sum" | "sum0" =>
    if vals.isEmpty then return some [if name = "sum" then .undefined else .int 0]
    return some [vals.foldl addScalars (.int 0)]
  | "product" => return some [vals.foldl mulScalars (.int 1)]
  | "max" => return some [vals.foldl (fun m v => if numOrder m v then v else m) (vals.headD .undefined)]
  | "min" => return some [vals.foldl (fun m v => if numOrder v m then v else m) (vals.headD .undefined)]
  | "maxstr" => return some [vals.foldl (fun m v => if compareStrings m v = .lt then v else m) (vals.headD .undefined)]
  | "minstr" => return some [vals.foldl (fun m v => if compareStrings v m = .lt then v else m) (vals.headD .undefined)]
  | "uniq" | "uniqstr" | "uniqnum" =>
    let out := vals.foldl (fun (acc : List Scalar) v =>
      if acc.any fun w => (if name = "uniqnum" then compareNumbers w v = some .eq else w.toText = v.toText)
      then acc else acc ++ [v]) []
    return some (if wantList then out else [.int out.length])
  | "shuffle" => return some vals
  | "floor" | "ceil" | "round" | "trunc" =>
    let d := (vals.headD .undefined).toDouble
    let t := truncateValue d
    let r := match name with
      | "floor" => if less d t then sub t (ofNat 1) else t
      | "ceil" => if less t d then add t (ofNat 1) else t
      | "round" =>
        let half := div (ofNat 1) (ofNat 2)
        if signOf d then negate (truncateValue (add (negate d) half)) else truncateValue (add d half)
      | _ => t
    return some [.num r]
  | "fmod" => return some [.num (fmod (vals.headD .undefined).toDouble (vals.getD 1 .undefined).toDouble)]
  | "pow" => return some [powScalars (vals.headD .undefined) (vals.getD 1 .undefined)]
  | "INT_MAX" => return some [.int 2147483647]
  | "INT_MIN" => return some [.int (-2147483648)]
  | "UINT_MAX" => return some [.int 4294967295]
  | "LONG_MAX" => return some [.int 9223372036854775807]
  | "LONG_MIN" => return some [.int (-9223372036854775808)]
  | "DBL_MAX" => return some [.num (readCDouble (rawOf "1.7976931348623157e308")).1]
  | "DBL_MIN" => return some [.num (readCDouble (rawOf "2.2250738585072014e-308")).1]
  | "looks_like_number" =>
    let v := vals.headD .undefined
    let ok := match v with
      | .str s =>
        let t := s.dropWhile isNumberBlank
        let k := decimalPrefix t
        k > 0 && (t.drop k).all isNumberBlank
      | .undefined => false
      | _ => true
    return some [boolScalar ok]
  | "blessed" =>
    match vals.headD .undefined with
    | .ref _ a =>
      match (← get).blessings.lookup a with
      | some c => return some [.str (rawOf c)]
      | none => return some [.undefined]
    | _ => return some [.undefined]
  | "reftype" =>
    match vals.headD .undefined with
    | .ref k _ => return some [.str (rawOf k.name)]
    | _ => return some [.undefined]
  | "Dumper" => return some [.str (← dumper vals)]
  | "strftime" =>
    match vals with
    | f :: parts => return some [.str (strftimeText f.toText (parts.map Scalar.toInt))]
    | [] => return some [.undefined]
  | "mktime" =>
    let get (i : Nat) : Int := (vals.getD i .undefined).toInt
    let p := strftimeText (rawOf "%s") [get 0, get 1, get 2, get 3, get 4, get 5]
    return some [.int (textOf p).toInt!]
  | "head" =>
    let k := (vals.headD .undefined).toInt
    let rest := vals.drop 1
    return some (if k ≥ 0 then rest.take k.toNat else rest.take (rest.length - k.natAbs))
  | "tail" =>
    let k := (vals.headD .undefined).toInt
    let rest := vals.drop 1
    return some (if k ≥ 0 then rest.drop (rest.length - k.toNat) else rest.drop k.natAbs)
  | _ => return none

/-- A file test: `-e`, `-f`, `-d`, `-s`, `-z`, `-r`, `-w`, `-x`, `-l`. -/
def fileTest (op : UInt8) (path : Bytes) : Run Scalar := do
  let p := textOf path
  let inFiles ← fileContent p
  let node := HostNode.lookup p
  let exists_ := inFiles.isSome || node.isSome
  let isDir := match node with
    | some .dir => true
    | _ => false
  match op with
  | 0x65 => return boolScalar exists_
  | 0x66 => return boolScalar (inFiles.isSome || (match node with
      | some (.file _) => true
      | _ => false))
  | 0x64 => return boolScalar isDir
  | 0x73 =>
    match inFiles with
    | some c => return if c.isEmpty then .str [] else .int c.length
    | none => return .undefined
  | 0x7A => return boolScalar ((inFiles.map List.isEmpty).getD false)
  | 0x72 | 0x77 => return boolScalar exists_
  | 0x78 => return boolScalar (isDir || (match node with
      | some (.file true) => true
      | _ => false))
  | 0x6C => return boolScalar (match HostNode.lookupLink p with
      | some (.link _) => true
      | _ => false)
  | _ => return boolScalar exists_

mutual

/-- Evaluate for one scalar. -/
def evalScalar : Nat → Expr → Run Scalar
  | 0, _ => throw .endless
  | n + 1, e => do
    match e with
    | .lit v => return v
    | .interp parts => return .str (← interpolate n parts)
    | .scalarVar name => readScalarVar name
    | .arrayVar _ | .derefArray _ =>
      match ← arrayCellOf n e false with
      | some a => return .int (← arrayItems a).size
      | none => return .int 0
    | .hashVar _ | .derefHash _ =>
      match ← hashCellOf n e false with
      | some a => return .int (← hashEntries a).size
      | none => return .int 0
    | .derefScalar r =>
      match ← evalScalar n r with
      | .ref .scalar a => readCell a
      | .ref .array a => return .int (← arrayItems a).size
      | .undefined => return .undefined
      | .str s => readScalarVar (textOf s)
      | _ => dieWith "Not a SCALAR reference"
    | .elem agg idx =>
      match ← elemCell n agg idx false with
      | some c => readCell c
      | none => return .undefined
    | .helem agg key =>
      match ← helemCell n agg key false with
      | some c => readCell c
      | none => return .undefined
    | .slice _ _ | .hslice _ _ | .listSlice _ _ | .sortList _ _ =>
      let vs ← evalList n e
      return vs.getLastD .undefined
    | .lastIndex agg =>
      match ← arrayCellOf n agg false with
      | some a => return .int ((← arrayItems a).size - 1 : Int)
      | none => return .int (-1)
    | .list items =>
      match items.reverse with
      | [] => return .undefined
      | last :: firsts =>
        for x in firsts.reverse do
          let _ ← evalScalar n x
        evalScalar n last
    | .declare _ _ =>
      let cells ← declareCells n e
      match cells.getLast? with
      | some (.one c) => readCell c
      | _ => return .undefined
    | .assign t v =>
      if isListTarget t then
        let vals ← evalList n v
        assignList n t vals
        return .int vals.length
      else
        let val ← evalScalar n v
        assignScalar n t val
    | .opAssign op t v =>
      let c ← cellOf n t
      let old ← readCell c
      let rhs ← evalScalar n v
      let new ← binaryOp op old rhs
      writeCell c new
      return new
    | .logAssign op t v =>
      let c ← cellOf n t
      let old ← readCell c
      let keep := match op with
        | .or => old.truth
        | .and => !old.truth
        | .definedOr => old.defined
        | .xor => false
      if keep then return old
      let new ← evalScalar n v
      writeCell c new
      return new
    | .binary op a b =>
      let x ← evalScalar n a
      let y ← evalScalar n b
      binaryOp op x y
    | .repeatList l c =>
      let x ← evalScalar n l
      let k ← evalScalar n c
      binaryOp .repeat x k
    | .logical op a b =>
      let x ← evalScalar n a
      match op with
      | .and => if x.truth then evalScalar n b else return x
      | .or => if x.truth then return x else evalScalar n b
      | .definedOr => if x.defined then return x else evalScalar n b
      | .xor =>
        let y ← evalScalar n b
        return boolScalar (x.truth != y.truth)
    | .not a => return boolScalar !(← evalScalar n a).truth
    | .neg a => return negScalar (← evalScalar n a)
    | .bitNot a => return bitNotScalar (← evalScalar n a)
    | .cond c a b => if (← evalScalar n c).truth then evalScalar n a else evalScalar n b
    | .range id a b => flipFlop n id a b
    | .step pre up t =>
      let c ← cellOf n t
      let old ← readCell c
      let new := if up then incrementScalar old else subScalars old (.int 1)
      writeCell c new
      if pre then return new
      return match old with
        | .undefined => .int 0
        | v => v
    | .refOf x =>
      let refs ← refsOf n x
      return refs.getLastD .undefined
    | .anonArray items =>
      let vals ← evalItems n items
      let cells ← vals.mapM newScalar
      return .ref .array (← alloc (.array cells.toArray))
    | .anonHash items =>
      let vals ← evalItems n items
      let a ← alloc (.hash #[])
      setHashValues a vals
      return .ref .hash a
    | .anonSub body =>
      let m ← get
      let scope := m.frames.flatMap (·.vars)
      let name := if m.package = "main" then "__ANON__" else m.package ++ "::__ANON__"
      return .ref .code (← alloc (.code { name, body } scope))
    | .call _ _ | .callRef _ _ | .builtin _ _ | .mapList _ _ _ | .blockCall _ _ _ | .readLine _ |
      .doBlock _ | .evalBlock _ | .methodCall _ _ _ =>
      let vs ← evalIn n e false
      return vs.getLastD .undefined
    | .print kind h args => doPrint n kind h args
    | .matchOp t neg parts flags =>
      let vs ← doMatch n t neg parts flags false
      return vs.getLastD .undefined
    | .substOp t parts repl flags => doSubst n t parts repl flags
    | .transOp t src dst flags => doTrans n t src dst flags
    | .quoteRegex parts flags =>
      let p ← interpolate n parts
      let on := flags.filter fun b => b = 0x69 || b = 0x6D || b = 0x73 || b = 0x78
      return .str (rawOf "(?^" ++ on ++ [0x3A] ++ p ++ [0x29])
    | .loopCtl kind label => throw (.loop kind label)
    | .ret v =>
      let wantList := (← get).wantList
      let vals ← match v with
        | some x => if wantList then evalList n x else do pure [← evalScalar n x]
        | none => pure []
      throw (.ret vals)
    | .fileTest op f => fileTest op (← evalScalar n f).toText
    | .handle name => return .str (rawOf ("*main::" ++ name))
    | .wantArray => return boolScalar (← get).wantList
    | .subName name => return .str (rawOf name)
termination_by structural fuel _ => fuel

/-- Evaluate for a list. -/
def evalList : Nat → Expr → Run (List Scalar)
  | 0, _ => throw .endless
  | n + 1, e => do
    match e with
    | .arrayVar _ | .derefArray _ =>
      match ← arrayCellOf n e false with
      | some a => arrayValues a
      | none => return []
    | .hashVar _ | .derefHash _ =>
      match ← hashCellOf n e false with
      | some a =>
        let entries ← hashEntries a
        let pairs ← entries.toList.mapM fun (k, c) => do return [Scalar.str k, ← readCell c]
        return pairs.flatten
      | none => return []
    | .list items => evalItems n items
    | .slice agg idx =>
      let is ← evalList n idx
      match ← arrayCellOf n agg false with
      | some a =>
        let items ← arrayItems a
        is.mapM fun i => do
          let k : Int := i.toInt
          let k : Int := if k < 0 then k + items.size else k
          if 0 ≤ k && k < items.size then readCell items[k.toNat]! else return .undefined
      | none => return is.map fun _ => .undefined
    | .hslice agg keys =>
      let ks ← evalList n keys
      match ← hashCellOf n agg false with
      | some a =>
        let entries ← hashEntries a
        ks.mapM fun k => do
          match entries.find? (·.1 == k.toText) with
          | some (_, c) => readCell c
          | none => return .undefined
      | none => return ks.map fun _ => .undefined
    | .listSlice l idx =>
      let vs ← evalList n l
      let is ← evalList n idx
      if vs.isEmpty then return []
      return is.map fun i =>
        let k : Int := i.toInt
        let k : Int := if k < 0 then k + vs.length else k
        if 0 ≤ k then vs.getD k.toNat .undefined else .undefined
    | .declare _ _ =>
      let ts ← declareCells n e
      let vals ← ts.mapM fun t => do
        match t with
        | .one c => return [← readCell c]
        | .array c => arrayValues c
        | .hash c => evalList n (.hashVar "") >>= fun _ => do
            let entries ← hashEntries c
            let pairs ← entries.toList.mapM fun (k, v) => do return [Scalar.str k, ← readCell v]
            return pairs.flatten
        | .skip => return []
      return vals.flatten
    | .assign t v =>
      if isListTarget t then
        let vals ← evalList n v
        assignList n t vals
        evalList n (targetView t)
      else
        let val ← evalScalar n v
        return [← assignScalar n t val]
    | .repeatList l c =>
      let vs ← evalList n l
      let k := (← evalScalar n c).toInt
      return if k ≤ 0 then [] else (List.replicate k.toNat vs).flatten
    | .logical op a b =>
      let x ← evalScalar n a
      match op with
      | .and => if x.truth then evalList n b else return [x]
      | .or => if x.truth then return [x] else evalList n b
      | .definedOr => if x.defined then return [x] else evalList n b
      | .xor =>
        let y ← evalScalar n b
        return [boolScalar (x.truth != y.truth)]
    | .cond c a b => if (← evalScalar n c).truth then evalList n a else evalList n b
    | .range _ a b =>
      let x ← evalScalar n a
      let y ← evalScalar n b
      return rangeValues x y
    | .refOf x => refsOf n x
    | .sortList cmp items => doSort n cmp items
    | .call _ _ | .callRef _ _ | .builtin _ _ | .mapList _ _ _ | .blockCall _ _ _ | .readLine _ |
      .doBlock _ | .evalBlock _ | .methodCall _ _ _ => evalIn n e true
    | .matchOp t neg parts flags => doMatch n t neg parts flags true
    | .ret _ | .loopCtl _ _ => do let _ ← evalScalar n e; return []
    | _ => return [← evalScalar n e]
termination_by structural fuel _ => fuel

/-- Evaluate the expressions that depend on their context. -/
def evalIn : Nat → Expr → Bool → Run (List Scalar)
  | 0, _, _ => throw .endless
  | n + 1, e, wantList => do
    match e with
    | .call name args =>
      let cells ← match args with
        | some xs => argCells n xs
        | none =>
          let a ← varCell "@_" (.array #[])
          pure (← arrayItems a).toList
      callNamed n name cells wantList
    | .callRef code args =>
      let cells ← argCells n args
      match ← evalScalar n code with
      | .ref .code a =>
        match ← cellAt a with
        | .code sub scope => callSub n sub (some scope) cells wantList
        | _ => dieWith "Not a CODE reference"
      | .str s => callNamed n (textOf s) cells wantList
      | _ => dieWith "Not a CODE reference"
    | .builtin name args => builtin n name args wantList
    | .methodCall inv meth args =>
      let v ← evalScalar n inv
      let invCell ← newScalar v
      let cells ← argCells n args
      let mv ← evalScalar n meth
      match mv with
      | .ref .code a =>
        match ← cellAt a with
        | .code sub scope => callSub n sub (some scope) (invCell :: cells) wantList
        | _ => dieWith "Not a CODE reference"
      | _ =>
        let name := textOf mv.toText
        let superCall := name.startsWith "SUPER::"
        let name := if superCall then (name.drop 7).toString else name
        let cls ← match v with
          | .ref _ a =>
            match (← get).blessings.lookup a with
            | some c => pure c
            | none => dieWith s!"Can't call method \"{name}\" on unblessed reference"
          | .undefined => dieWith s!"Can't call method \"{name}\" on an undefined value"
          | other =>
            let t := textOf other.toText
            if t.isEmpty then dieWith s!"Can't call method \"{name}\" without a package or object reference"
            else pure ((plainName ("$" ++ t)).drop 1).toString
        let depth := (← get).subs.length + 8
        let found ← if superCall then do
            let mut f : Option SubDef := none
            for p in ← parentsOf (← get).package do
              if f.isNone then f ← findMethod depth p name
            pure f
          else findMethod depth cls name
        match found with
        | some sub => callSub n sub none (invCell :: cells) wantList
        | none =>
          let argVals ← cells.mapM readCell
          let target := textOf (argVals.headD .undefined).toText
          match name with
          | "isa" | "DOES" => return [boolScalar (← classIsa depth cls target)]
          | "can" =>
            match ← findMethod depth cls target with
            | some d => return [.ref .code (← alloc (.code d []))]
            | none => return [.str []]
          | "VERSION" => return [← readCell (← globalCell ("$" ++ cls ++ "::VERSION") (.scalar .undefined))]
          | _ =>
            let hint := if ← packageKnown cls then "" else s!" (perhaps you forgot to load \"{cls}\"?)"
            dieWith s!"Can't locate object method \"{name}\" via package \"{cls}\"{hint}"
    | .mapList keep body items =>
      let its ← itemsOf n items
      let results ← its.mapM fun it => withTopic it do
        if keep then
          let ok := (← evalBody n body false).getLastD .undefined
          if ok.truth then
            match it with
            | .inl c => return [← readCell c]
            | .inr v => return [v]
          else return []
        else evalBody n body true
      let all := results.flatten
      if wantList then return all else return [.int all.length]
    | .blockCall name body items => blockFunction n name body items wantList
    | .readLine h =>
      let name ← match h with
        | .handle nm => pure nm
        | other => do pure (handleName (← evalScalar n other))
      if wantList then
        let m ← get
        let size := m.stdin.length + (m.files.map (·.2.length)).sum + (m.written.map (·.2.length)).sum
        let lines ← readAll (size + 1) name
        return lines.map Scalar.str
      match ← readRecordFrom name with
      | some r => return [.str r]
      | none => return [.undefined]
    | .doBlock body => inScope (execValue n body wantList)
    | .evalBlock body =>
      let errCell ← globalCell "$@" (.scalar (.str []))
      try
        let v ← inScope (execValue n body wantList)
        writeCell errCell (.str [])
        return v
      catch f =>
        match f with
        | .die v =>
          writeCell errCell v
          return if wantList then [] else [.undefined]
        | other => throw other
    | other =>
      if wantList then evalList n other else do return [← evalScalar n other]
termination_by structural fuel _ _ => fuel

/-- Evaluate expressions for a list, one after the other. -/
def evalItems : Nat → List Expr → Run (List Scalar)
  | 0, _ => throw .endless
  | _, [] => return []
  | n + 1, x :: rest => do
    let a ← evalList n x
    let b ← evalItems n rest
    return a ++ b
termination_by structural fuel _ => fuel

/-- Put values into text: the parts' texts joined, with the marks of case applied. -/
def interpolate : Nat → List Part → Run Bytes
  | 0, _ => throw .endless
  | n + 1, parts => do
    let mut modes : List CaseMark := []
    let mut pending : Option CaseMark := none
    let mut out : Bytes := []
    for p in parts do
      match p with
      | .mark m =>
        if m = .upperNext || m = .lowerNext then pending := some m
        else modes := applyMark modes m
      | _ =>
        let bs ← match p with
          | .text t => pure t
          | .scalar x => do pure (← evalScalar n x).toText
          | .list x => do
            let vs ← evalList n x
            let sep ← varText "\""
            pure ((vs.map Scalar.toText).intersperse sep).flatten
          | .mark _ => pure []
        if !bs.isEmpty then
          out := out ++ caseText modes pending bs
          pending := none
    return out
termination_by structural fuel _ => fuel

/-- The cell an expression names, made when needed; a value with no cell gets a new one. -/
def cellOf : Nat → Expr → Run Nat
  | 0, _ => throw .endless
  | n + 1, e => do
    match e with
    | .scalarVar name => varCell ("$" ++ name) (.scalar .undefined)
    | .elem agg idx =>
      match ← elemCell n agg idx true with
      | some c => return c
      | none => newScalar .undefined
    | .helem agg key =>
      match ← helemCell n agg key true with
      | some c => return c
      | none => newScalar .undefined
    | .derefScalar r =>
      match ← evalScalar n r with
      | .ref .scalar a => return a
      | .undefined =>
        let a ← newScalar .undefined
        writeCell (← cellOf n r) (.ref .scalar a)
        return a
      | .str s => varCell ("$" ++ textOf s) (.scalar .undefined)
      | _ => dieWith "Not a SCALAR reference"
    | .declare _ _ =>
      match (← declareCells n e).getLast? with
      | some (.one c) => return c
      | _ => newScalar .undefined
    | .list [x] => cellOf n x
    | .cond c a b => if (← evalScalar n c).truth then cellOf n a else cellOf n b
    | .assign t v =>
      if isListTarget t then
        let vals ← evalList n v
        assignList n t vals
        newScalar (.int vals.length)
      else
        let val ← evalScalar n v
        match t with
        | .builtin _ _ =>
          let _ ← assignScalar n t val
          newScalar val
        | _ =>
          let c ← cellOf n t
          writeCell c val
          return c
    | .opAssign op t v =>
      let c ← cellOf n t
      let old ← readCell c
      let rhs ← evalScalar n v
      writeCell c (← binaryOp op old rhs)
      return c
    | .logAssign op t v =>
      let c ← cellOf n t
      let old ← readCell c
      let keep := match op with
        | .or => old.truth
        | .and => !old.truth
        | .definedOr => old.defined
        | .xor => false
      if !keep then writeCell c (← evalScalar n v)
      return c
    | .step true up t =>
      let c ← cellOf n t
      let old ← readCell c
      writeCell c (if up then incrementScalar old else subScalars old (.int 1))
      return c
    | other => newScalar (← evalScalar n other)
termination_by structural fuel _ => fuel

/-- The cell of an array an aggregate names; made when `create`. -/
def arrayCellOf : Nat → Expr → Bool → Run (Option Nat)
  | 0, _, _ => throw .endless
  | n + 1, e, create => do
    match e with
    | .arrayVar "-" | .arrayVar "+" =>
      let a ← alloc (.array #[])
      setArrayValues a (← matchOffsets (e matches .arrayVar "+"))
      return some a
    | .arrayVar name => return some (← varCell ("@" ++ name) (.array #[]))
    | .derefArray r =>
      match ← evalScalar n r with
      | .ref .array a => return some a
      | .undefined =>
        if create then
          let a ← alloc (.array #[])
          writeCell (← cellOf n r) (.ref .array a)
          return some a
        return none
      | .str s =>
        if s.isEmpty then dieWith "Can't use an undefined value as an ARRAY reference"
        return some (← globalCell ("@" ++ textOf s) (.array #[]))
      | .ref _ _ => dieWith "Not an ARRAY reference"
      | v => return some (← globalCell ("@" ++ textOf v.toText) (.array #[]))
    | .declare _ [x] =>
      let _ ← declareCells n e
      arrayCellOf n x create
    | other =>
      let vals ← evalList n other
      let a ← alloc (.array #[])
      setArrayValues a vals
      return some a
termination_by structural fuel _ _ => fuel

/-- The cell of a hash an aggregate names; made when `create`. -/
def hashCellOf : Nat → Expr → Bool → Run (Option Nat)
  | 0, _, _ => throw .endless
  | n + 1, e, create => do
    match e with
    | .hashVar "+" =>
      let a ← alloc (.hash #[])
      setHashValues a (← namedCaptures)
      return some a
    | .hashVar name => return some (← varCell ("%" ++ name) (.hash #[]))
    | .derefHash r =>
      match ← evalScalar n r with
      | .ref .hash a => return some a
      | .undefined =>
        if create then
          let a ← alloc (.hash #[])
          writeCell (← cellOf n r) (.ref .hash a)
          return some a
        return none
      | .str s =>
        if s.isEmpty then dieWith "Can't use an undefined value as a HASH reference"
        return some (← globalCell ("%" ++ textOf s) (.hash #[]))
      | .ref _ _ => dieWith "Not a HASH reference"
      | v => return some (← globalCell ("%" ++ textOf v.toText) (.hash #[]))
    | .declare _ [x] =>
      let _ ← declareCells n e
      hashCellOf n x create
    | other =>
      let vals ← evalList n other
      let a ← alloc (.hash #[])
      setHashValues a vals
      return some a
termination_by structural fuel _ _ => fuel

/-- The cell of an element of an array; made (with the array) when `create`. -/
def elemCell : Nat → Expr → Expr → Bool → Run (Option Nat)
  | 0, _, _, _ => throw .endless
  | n + 1, agg, idx, create => do
    let i := (← evalScalar n idx).toInt
    -- an element through a reference makes the array it refers to, as perl does
    match ← arrayCellOf n agg (create || agg matches .derefArray _) with
    | none => return none
    | some a =>
      let items ← arrayItems a
      let k := if i < 0 then i + items.size else i
      if k < 0 then
        if create then dieWith s!"Modification of non-creatable array value attempted, subscript {i}"
        return none
      if k < items.size then return some items[k.toNat]!
      if !create then return none
      let extra ← (List.range (k.toNat + 1 - items.size)).mapM fun _ => newScalar .undefined
      setCell a (.array (items ++ extra.toArray))
      return extra.getLast?
termination_by structural fuel _ _ _ => fuel

/-- The key of a hash subscript: a list of keys is joined by `$;`. -/
def keyText : Nat → Expr → Run Bytes
  | 0, _ => throw .endless
  | n + 1, key => do
    match key with
    | .list items =>
      let vs ← evalItems n items
      let sep ← varText ";"
      return ((vs.map Scalar.toText).intersperse sep).flatten
    | _ => return (← evalScalar n key).toText
termination_by structural fuel _ => fuel

/-- The cell of an element of a hash; made (with the hash) when `create`. -/
def helemCell : Nat → Expr → Expr → Bool → Run (Option Nat)
  | 0, _, _, _ => throw .endless
  | n + 1, agg, key, create => do
    let k ← keyText n key
    match ← hashCellOf n agg (create || agg matches .derefHash _) with
    | none => return none
    | some a =>
      let entries ← hashEntries a
      match entries.find? (·.1 == k) with
      | some (_, c) => return some c
      | none =>
        if !create then return none
        let c ← newScalar .undefined
        setCell a (.hash ((← hashEntries a).push (k, c)))
        return some c
termination_by structural fuel _ _ _ => fuel

/-- Declare variables: their targets. -/
def declareCells : Nat → Expr → Run (List Target)
  | 0, _ => throw .endless
  | n + 1, e => do
    match e with
    | .declare kind vars =>
      let ts ← vars.mapM fun v => do
        match kind, v with
        | .my, .scalarVar nm => return Target.one (← declareName ("$" ++ nm) (.scalar .undefined))
        | .my, .arrayVar nm => return Target.array (← declareName ("@" ++ nm) (.array #[]))
        | .my, .hashVar nm => return Target.hash (← declareName ("%" ++ nm) (.hash #[]))
        | .our, .scalarVar nm => return Target.one (← globalCell (← qualify ("$" ++ nm)) (.scalar .undefined))
        | .our, .arrayVar nm => return Target.array (← globalCell (← qualify ("@" ++ nm)) (.array #[]))
        | .our, .hashVar nm => return Target.hash (← globalCell (← qualify ("%" ++ nm)) (.hash #[]))
        | .local, .scalarVar nm =>
          let a ← newScalar .undefined
          bindGlobal (← qualify ("$" ++ nm)) a
          return Target.one a
        | .local, .arrayVar nm =>
          let a ← alloc (.array #[])
          bindGlobal (← qualify ("@" ++ nm)) a
          return Target.array a
        | .local, .hashVar nm =>
          let a ← alloc (.hash #[])
          bindGlobal (← qualify ("%" ++ nm)) a
          return Target.hash a
        | .local, other =>
          let c ← cellOf n other
          saveCell c
          return Target.one c
        | _, .builtin "undef" [] => return Target.skip
        | _, other => return Target.one (← cellOf n other)
      return ts
    | _ => return []
termination_by structural fuel _ => fuel

/-- Assign one value to a target: the value assigned. -/
def assignScalar : Nat → Expr → Scalar → Run Scalar
  | 0, _, _ => throw .endless
  | n + 1, t, v => do
    match t with
    | .builtin "substr" (s :: off :: rest) =>
      let c ← cellOf n s
      let text := (← readCell c).toText
      let o := (← evalScalar n off).toInt
      let cnt ← match rest with
        | l :: _ => do pure (some (← evalScalar n l).toInt)
        | [] => pure none
      match substrSpan text.length o cnt with
      | some (st, len) =>
        writeCell c (.str (text.take st ++ v.toText ++ text.drop (st + len)))
        return v
      | none => dieWith "substr outside of string"
    | .builtin "local" [x] => assignScalar n (.declare .local [x]) v
    | .lastIndex agg =>
      match ← arrayCellOf n agg true with
      | some a =>
        let items ← arrayItems a
        let size := (v.toInt + 1).toNat
        if size ≤ items.size then setCell a (.array (items.extract 0 size))
        else
          let extra ← (List.range (size - items.size)).mapM fun _ => newScalar .undefined
          setCell a (.array (items ++ extra.toArray))
        return v
      | none => return v
    | _ =>
      let c ← cellOf n t
      -- a value is copied, so that a later change of it is not seen
      writeCell c v
      return v
termination_by structural fuel _ _ => fuel

/-- The targets of a list assignment. -/
def listTargets : Nat → Expr → Run (List Target)
  | 0, _ => throw .endless
  | n + 1, e => do
    match e with
    | .list items => do
      let ts ← items.mapM (listTargets n)
      return ts.flatten
    | .declare _ _ => declareCells n e
    | .arrayVar _ | .derefArray _ =>
      match ← arrayCellOf n e true with
      | some a => return [.array a]
      | none => return [.skip]
    | .hashVar _ | .derefHash _ =>
      match ← hashCellOf n e true with
      | some a => return [.hash a]
      | none => return [.skip]
    | .builtin "undef" [] => return [.skip]
    | .lit .undefined => return [.skip]
    | .slice agg idx =>
      let is ← evalList n idx
      is.mapM fun i => do
        match ← elemCell n agg (.lit i) true with
        | some c => return Target.one c
        | none => return Target.skip
    | .hslice agg keys =>
      let ks ← evalList n keys
      ks.mapM fun k => do
        match ← helemCell n agg (.lit k) true with
        | some c => return Target.one c
        | none => return Target.skip
    | other => return [.one (← cellOf n other)]
termination_by structural fuel _ => fuel

/-- Assign values to the targets of a list assignment. -/
def assignList : Nat → Expr → List Scalar → Run Unit
  | 0, _, _ => throw .endless
  | n + 1, t, vals => do
    let ts ← listTargets n t
    let mut rest := vals
    for tg in ts do
      match tg with
      | .one c =>
        writeCell c (rest.headD .undefined)
        rest := rest.drop 1
      | .array c =>
        setArrayValues c rest
        rest := []
      | .hash c =>
        setHashValues c rest
        rest := []
      | .skip => rest := rest.drop 1
termination_by structural fuel _ _ => fuel

/-- References to what an expression names: `\@a`, `\%h`, `\&f`, `\$x`, `\(…)`. -/
def refsOf : Nat → Expr → Run (List Scalar)
  | 0, _ => throw .endless
  | n + 1, e => do
    match e with
    | .arrayVar _ | .derefArray _ =>
      match ← arrayCellOf n e true with
      | some a => return [.ref .array a]
      | none => return [.undefined]
    | .hashVar _ | .derefHash _ =>
      match ← hashCellOf n e true with
      | some a => return [.ref .hash a]
      | none => return [.undefined]
    | .call name none =>
      match (← get).subs.find? (·.name == name) with
      | some sub =>
        let m ← get
        let scope := (m.frames.getLast?.map (·.vars)).getD []
        return [.ref .code (← alloc (.code sub scope))]
      | none => dieWith s!"Undefined subroutine &main::{name} called"
    | .list items => do
      let rs ← items.mapM (refsOf n)
      return rs.flatten
    | .anonSub _ => return [.ref .scalar (← newScalar (← evalScalar n e))]
    | .declare _ _ =>
      let ts ← declareCells n e
      return ts.map fun t => match t with
        | .one c => .ref .scalar c
        | .array c => .ref .array c
        | .hash c => .ref .hash c
        | .skip => .undefined
    | other => return [.ref .scalar (← cellOf n other)]
termination_by structural fuel _ => fuel

/-- The cells of arguments, which stand for the caller's variables. -/
def argCells : Nat → List Expr → Run (List Nat)
  | 0, _ => throw .endless
  | n + 1, args => do
    let its ← itemsOf n args
    its.mapM fun it => do
      match it with
      | .inl c => return c
      | .inr v => newScalar v
termination_by structural fuel _ => fuel

/-- The items of a list for a loop, `map`, `grep` or a call: the cells of variables and
elements, which the loop variable stands for, and the values of the rest. -/
def itemsOf : Nat → List Expr → Run (List Item)
  | 0, _ => throw .endless
  | _, [] => return []
  | n + 1, x :: rest => do
    let here : List Item ← match x with
      | .scalarVar name =>
        if (← specialScalar name).isSome then do pure [.inr (← readScalarVar name)]
        else do pure [.inl (← varCell ("$" ++ name) (.scalar .undefined))]
      | .arrayVar _ | .derefArray _ =>
        match ← arrayCellOf n x false with
        | some a => do pure ((← arrayItems a).toList.map Sum.inl)
        | none => pure []
      | .elem agg idx =>
        match ← elemCell n agg idx false with
        | some c => pure [.inl c]
        | none => do pure [.inr .undefined]
      | .helem agg key =>
        match ← helemCell n agg key false with
        | some c => pure [.inl c]
        | none => do pure [.inr .undefined]
      | .list items => itemsOf n items
      | .declare _ _ =>
        let ts ← declareCells n x
        pure (ts.filterMap fun t => match t with
          | .one c => some (Sum.inl c)
          | _ => none)
      | other => do pure ((← evalList n other).map Sum.inr)
    return here ++ (← itemsOf n rest)
termination_by structural fuel _ => fuel

/-- A body of `map`, `grep` or a comparison: a block run in its own scope, or an expression. -/
def evalBody : Nat → Expr → Bool → Run (List Scalar)
  | 0, _, _ => throw .endless
  | n + 1, body, wantList => do
    match body with
    | .doBlock stmts => inScope (execValue n stmts wantList)
    | e => if wantList then evalList n e else do return [← evalScalar n e]
termination_by structural fuel _ _ => fuel

/-- Call a subroutine by name. -/
def callNamed : Nat → String → List Nat → Bool → Run (List Scalar)
  | 0, _, _, _ => throw .endless
  | n + 1, name, cells, wantList => do
    let short := plainName ("&" ++ name) |>.drop 1 |>.toString
    let full := ((← qualify ("&" ++ short)).drop 1).toString
    let subs := (← get).subs
    match subs.find? (·.name == full) with
    | some sub => callSub n sub none cells wantList
    | none =>
      match subs.find? (·.name == short) with
      | some sub => callSub n sub none cells wantList
      | none =>
        let vals ← cells.mapM readCell
        let last := ((short.splitOn "::").getLast?).getD short
        match ← moduleFunction last vals wantList with
        | some r => return r
        | none =>
          let shown := if (full.splitOn "::").length > 1 then full else "main::" ++ full
          dieWith s!"Undefined subroutine &{shown} called"
termination_by structural fuel _ _ _ => fuel

/-- Run a subroutine with its arguments' cells, in the scope of the file or of its closure. -/
def callSub : Nat → SubDef → Option (List (String × Nat)) → List Nat → Bool → Run (List Scalar)
  | 0, _, _, _, _ => throw .endless
  | n + 1, sub, scope, cells, wantList => do
    let m ← get
    if m.callDepth > 150000 then throw .endless
    let argsCell ← alloc (.array cells.toArray)
    let saved := m.frames
    let savedWant := m.wantList
    let outer := match scope with
      | some vars => vars
      | none => (m.frames.getLast?.map (·.vars)).getD []
    let inner : List Frame := [{ vars := [("@_", argsCell)] }, { vars := outer }]
    let savedPackage := m.package
    modify fun m => { m with frames := inner, wantList := wantList, callDepth := m.callDepth + 1,
                             package := packageOf sub.name }
    let restore : Run Unit :=
      modify fun m => { m with frames := saved, wantList := savedWant, callDepth := m.callDepth - 1,
                               package := savedPackage }
    try
      let v ← inScope (execValue n sub.body wantList)
      restore
      return v
    catch f =>
      restore
      match f with
      | .ret vals => return (if wantList then vals else [vals.getLastD .undefined])
      | other => throw other
termination_by structural fuel _ _ _ _ => fuel

/-- Run statements: the value of the last one, in the context asked. -/
def execValue : Nat → List Stmt → Bool → Run (List Scalar)
  | 0, _, _ => throw .endless
  | _, [], _ => return []
  | n + 1, [s], wantList => do
    match s with
    | .expr e line =>
      tick
      modify fun m => { m with line }
      if wantList then evalList n e else do return [← evalScalar n e]
    | .ifs branches otherwise line =>
      modify fun m => { m with line }
      let mut chosen : Option (List Stmt) := none
      for (c, body) in branches do
        if chosen.isNone then
          if (← evalScalar n c).truth then chosen := some body
      match chosen with
      | some body => inScope (execValue n body wantList)
      | none => inScope (execValue n otherwise wantList)
    | other => do
      execStmt n other
      return []
  | n + 1, s :: rest, wantList => do
    execStmt n s
    execValue n rest wantList
termination_by structural fuel _ _ => fuel

/-- Run statements in turn. -/
def execStmts : Nat → List Stmt → Run Unit
  | 0, _ => throw .endless
  | _, [] => pure ()
  | n + 1, s :: rest => do
    execStmt n s
    execStmts n rest
termination_by structural fuel _ => fuel

/-- Run a loop's body once: whether to go on, or to leave the loop. -/
def loopOnce : Nat → Option String → List Stmt → Run Bool
  | 0, _, _ => throw .endless
  | n + 1, label, body => do
    try
      inScope (execStmts n body)
      return true
    catch f =>
      match f with
      | .loop .last l => if l.isNone || l == label then return false else throw f
      | .loop .redo l => if l.isNone || l == label then loopOnce n label body else throw f
      | .loop _ l => if l.isNone || l == label then return true else throw f
      | other => throw other
termination_by structural fuel _ _ => fuel

/-- Run a statement. -/
def execStmt : Nat → Stmt → Run Unit
  | 0, _ => throw .endless
  | n + 1, s => do
    tick
    match s with
    | .expr e line =>
      modify fun m => { m with line }
      let _ ← evalScalar n e
    | .ifs branches otherwise line =>
      modify fun m => { m with line }
      let mut chosen : Option (List Stmt) := none
      for (c, body) in branches do
        if chosen.isNone then
          if (← evalScalar n c).truth then chosen := some body
      match chosen with
      | some body => inScope (execStmts n body)
      | none => inScope (execStmts n otherwise)
    | .whileLoop label cond neg body cont line => runWhile n label cond neg body cont line
    | .doLoop body cond neg line =>
      modify fun m => { m with line }
      let _ ← evalScalar n body
      runDoLoop n body cond neg line
    | .cfor label init cond step body line =>
      inScope do
        modify fun m => { m with line }
        match init with
        | some i => let _ ← evalScalar n i
        | none => pure ()
        runFor n label cond step body line
    | .foreach label var fresh items body line =>
      modify fun m => { m with line }
      let its ← itemsOf n [items]
      runForeach n label var fresh its body
    | .block label body =>
      let _ ← loopOnce n label body
termination_by structural fuel _ => fuel

/-- Run a `while` loop. -/
def runWhile : Nat → Option String → Option Expr → Bool → List Stmt → List Stmt → Nat → Run Unit
  | 0, _, _, _, _, _, _ => throw .endless
  | n + 1, label, cond, neg, body, cont, line => do
    tick
    modify fun m => { m with line }
    let go ← match cond with
      | some c => do pure ((← evalScalar n c).truth != neg)
      | none => pure true
    if !go then return
    if ← loopOnce n label body then
      inScope (execStmts n cont)
      runWhile n label cond neg body cont line
termination_by structural fuel _ _ _ _ _ _ => fuel

/-- Run the rest of `do {} while`. -/
def runDoLoop : Nat → Expr → Expr → Bool → Nat → Run Unit
  | 0, _, _, _, _ => throw .endless
  | n + 1, body, cond, neg, line => do
    tick
    modify fun m => { m with line }
    if (← evalScalar n cond).truth == neg then return
    let _ ← evalScalar n body
    runDoLoop n body cond neg line
termination_by structural fuel _ _ _ _ => fuel

/-- Run a `for (;;)` loop after its start. -/
def runFor : Nat → Option String → Option Expr → Option Expr → List Stmt → Nat → Run Unit
  | 0, _, _, _, _, _ => throw .endless
  | n + 1, label, cond, step, body, line => do
    tick
    modify fun m => { m with line }
    let go ← match cond with
      | some c => do pure (← evalScalar n c).truth
      | none => pure true
    if !go then return
    if ← loopOnce n label body then
      match step with
      | some st => let _ ← evalScalar n st
      | none => pure ()
      runFor n label cond step body line
termination_by structural fuel _ _ _ _ _ => fuel

/-- Run a `foreach` loop over the items left. -/
def runForeach : Nat → Option String → Option String → Bool → List Item → List Stmt → Run Unit
  | 0, _, _, _, _, _ => throw .endless
  | _, _, _, _, [], _ => pure ()
  | n + 1, label, var, fresh, it :: rest, body => do
    tick
    let c ← match it with
      | .inl c => pure c
      | .inr v => newScalar v
    let key := "$" ++ var.getD "_"
    let goOn ← inScope do
      if fresh then
        modify fun m => match m.frames with
          | f :: fs => { m with frames := { f with vars := (key, c) :: f.vars } :: fs }
          | [] => m
      else
        match ← lexicalCell key with
        | some _ =>
          modify fun m => match m.frames with
            | f :: fs => { m with frames := { f with vars := (key, c) :: f.vars } :: fs }
            | [] => m
        | none => bindGlobal key c
      loopOnce n label body
    if goOn then runForeach n label var fresh rest body
termination_by structural fuel _ _ _ _ _ => fuel

/-- The scalar-context `..`: a switch that turns on when the left side holds and off after
the right side does, counting the items between. -/
def flipFlop : Nat → Nat → Expr → Expr → Run Scalar
  | 0, _, _, _ => throw .endless
  | n + 1, id, a, b => do
    let test (x : Expr) : Run Bool := do
      match x with
      | .lit v =>
        match v with
        | .int _ | .num _ => return compareNumbers v (.int (← get).lineNo) = some .eq
        | _ => return v.truth
      | _ => return (← evalScalar n x).truth
    let (on, count) := ((← get).switches.lookup id).getD (false, 0)
    let save (on : Bool) (count : Nat) : Run Unit :=
      modify fun m => { m with switches := (id, on, count) :: m.switches.filter (·.1 != id) }
    if !on then
      if ← test a then
        if ← test b then
          save false 0
          return .str (rawOf "1E0")
        save true 1
        return .int 1
      return .str []
    else
      let count := count + 1
      if ← test b then
        save false 0
        return .str (rawOf (toString count ++ "E0"))
      save true count
      return .int count
termination_by structural fuel _ _ _ => fuel

/-- `print`, `printf` and `say`. -/
def doPrint : Nat → PrintKind → Option Expr → List Expr → Run Scalar
  | 0, _, _, _ => throw .endless
  | n + 1, kind, h, args => do
    let name ← match h with
      | none => pure "STDOUT"
      | some (.handle nm) => pure nm
      | some other => do pure (handleName (← evalScalar n other))
    let vals ← if args.isEmpty then do pure [← readScalarVar "_"] else evalItems n args
    let text ← match kind with
      | .printf =>
        match vals with
        | f :: rest => pure (perlSprintf f.toText rest)
        | [] => pure []
      | .print =>
        let sep ← varText ","
        let ors ← varText "\\"
        pure (((vals.map Scalar.toText).intersperse sep).flatten ++ ors)
      | .say =>
        let sep ← varText ","
        pure (((vals.map Scalar.toText).intersperse sep).flatten ++ [0x0A])
    return boolScalar (← writeHandle name text)
termination_by structural fuel _ _ _ => fuel

/-- The text and the cell of the target of a match, `$_` when none. -/
def matchSubject : Nat → Option Expr → Bool → Run (Bytes × Option Nat)
  | 0, _, _ => throw .endless
  | n + 1, t, needCell => do
    match t with
    | none =>
      let c ← varCell "$_" (.scalar .undefined)
      return ((← readCell c).toText, some c)
    | some x =>
      match x with
      | .scalarVar _ | .elem _ _ | .helem _ _ | .derefScalar _ =>
        if needCell then
          let c ← cellOf n x
          return ((← readCell c).toText, some c)
        return ((← evalScalar n x).toText, none)
      | .declare _ _ | .assign _ _ =>
        let c ← cellOf n x
        return ((← readCell c).toText, some c)
      | .list [y] => matchSubject n (some y) needCell
      | _ => return ((← evalScalar n x).toText, none)
termination_by structural fuel _ _ => fuel

/-- `m//`: in a list, what it captured or every match; for a scalar, whether it matched. -/
def doMatch : Nat → Option Expr → Bool → List Part → Bytes → Bool → Run (List Scalar)
  | 0, _, _, _, _, _ => throw .endless
  | n + 1, t, neg, parts, flags, wantList => do
    let global := flags.contains 0x67
    let (text, cell) ← matchSubject n t global
    let pattern ← interpolate n parts
    let rx ← compilePattern pattern flags
    let names := patternNames pattern
    let hay := text.toArray
    if global && wantList && !neg then
      let ms := allMatches rx hay (hay.size + 2) 0 false
      match ms.getLast? with
      | some m => setMatch rx names text m
      | none => pure ()
      match cell with
      | some c => setPosition c none
      | none => pure ()
      let groups := rx.groupCount
      return ms.flatMap fun m =>
        if groups = 0 then [Scalar.str (hay.extract m.start m.stop).toList]
        else capturedTexts hay groups m.caps
    if global then
      let (pos, afterEmpty) ← match cell with
        | some c => do pure ((← positionOf c).getD (0, false))
        | none => pure (0, false)
      match (if pos ≤ hay.size then nextMatch rx hay pos afterEmpty else none) with
      | some m =>
        setMatch rx names text m
        match cell with
        | some c => setPosition c (some (m.stop, m.start = m.stop))
        | none => pure ()
        return [boolScalar !neg]
      | none =>
        if !flags.contains 0x63 then
          match cell with
          | some c => setPosition c none
          | none => pure ()
        return [boolScalar neg]
    match firstMatch rx false hay 0 with
    | some m =>
      setMatch rx names text m
      if neg then return [boolScalar false]
      if wantList then
        let groups := rx.groupCount
        if groups = 0 then return [.int 1]
        return capturedTexts hay groups m.caps
      return [.int 1]
    | none =>
      if neg then return [.int 1]
      if wantList then return []
      return [.str []]
termination_by structural fuel _ _ _ _ _ => fuel

/-- `s///`: the number of replacements, or with `/r` the new text. -/
def doSubst : Nat → Option Expr → List Part → Expr → Bytes → Run Scalar
  | 0, _, _, _, _ => throw .endless
  | n + 1, t, parts, repl, flags => do
    let keep := flags.contains 0x72
    let (text, cell) ← matchSubject n t (!keep)
    let pattern ← interpolate n parts
    let rx ← compilePattern pattern flags
    let names := patternNames pattern
    let hay := text.toArray
    let ms := if flags.contains 0x67 then allMatches rx hay (hay.size + 2) 0 false
      else (firstMatch rx false hay 0).toList
    if ms.isEmpty then
      return if keep then .str text else .str []
    -- the pieces of the new text, last first
    let mut pieces : List Bytes := []
    let mut pos := 0
    for m in ms do
      setMatch rx names text m
      let r ← evalScalar n repl
      pieces := r.toText :: (hay.extract pos m.start).toList :: pieces
      pos := m.stop
    let out := (((hay.extract pos hay.size).toList :: pieces).reverse).flatten
    if keep then return .str out
    match cell with
    | some c => writeCell c (.str out)
    | none => dieWith "Can't modify constant item in substitution (s///)"
    return .int ms.length
termination_by structural fuel _ _ _ _ => fuel

/-- `tr///`: the number of bytes in the source list, or with `/r` the new text. -/
def doTrans : Nat → Option Expr → Bytes → Bytes → Bytes → Run Scalar
  | 0, _, _, _, _ => throw .endless
  | n + 1, t, src, dst, flags => do
    let tf := TransFlags.ofLetters flags
    let changes := !dst.isEmpty || tf.delete || tf.squeeze
    let (text, cell) ← matchSubject n t (changes && !tf.result)
    let (out, count) := transliterate src dst tf text
    if tf.result then return .str out
    if changes then
      match cell with
      | some c => writeCell c (.str out)
      | none => pure ()
    return .int count
termination_by structural fuel _ _ _ _ => fuel

/-- `sort`, by a block, a subroutine or the order of strings. -/
def doSort : Nat → Option Expr → List Expr → Run (List Scalar)
  | 0, _, _ => throw .endless
  | n + 1, cmp, items => do
    let vals ← evalItems n items
    match cmp with
    | none => sortWith (fun a b => pure (compareStrings a b = .lt)) (vals.length + 1) vals
    | some c =>
      let ca ← globalCell (← qualify "$a") (.scalar .undefined)
      let cb ← globalCell (← qualify "$b") (.scalar .undefined)
      let before (x y : Scalar) : Run Bool := do
        writeCell ca x
        writeCell cb y
        let r ← match c with
          | .subName nm => do pure ((← callNamed n nm [] false).getLastD .undefined)
          | .scalarVar _ => do pure ((← evalIn n (.callRef c []) false).getLastD .undefined)
          | body => do pure ((← evalBody n body false).getLastD .undefined)
        return r.toInt < 0
      sortWith before (vals.length + 1) vals
termination_by structural fuel _ _ => fuel

/-- The functions of modules that take a block: `first`, `any`, `all`, `none`, `notall`,
`reduce`. -/
def blockFunction : Nat → String → Expr → List Expr → Bool → Run (List Scalar)
  | 0, _, _, _, _ => throw .endless
  | n + 1, name, body, items, wantList => do
    let its ← itemsOf n items
    let test (it : Item) : Run Bool := withTopic it do
      return ((← evalBody n body false).getLastD .undefined).truth
    let value (it : Item) : Run Scalar :=
      match it with
      | .inl c => readCell c
      | .inr v => pure v
    match name with
    | "first" =>
      for it in its do
        if ← test it then return [← value it]
      return [.undefined]
    | "any" =>
      for it in its do
        if ← test it then return [.int 1]
      return [.str []]
    | "all" =>
      for it in its do
        if !(← test it) then return [.str []]
      return [.int 1]
    | "none" =>
      for it in its do
        if ← test it then return [.str []]
      return [.int 1]
    | "notall" =>
      for it in its do
        if !(← test it) then return [.int 1]
      return [.str []]
    | "reduce" =>
      match its with
      | [] => return [.undefined]
      | first :: rest =>
        let ca ← globalCell (← qualify "$a") (.scalar .undefined)
        let cb ← globalCell (← qualify "$b") (.scalar .undefined)
        let mut acc ← value first
        for it in rest do
          writeCell ca acc
          writeCell cb (← value it)
          acc := (← evalBody n body false).getLastD .undefined
        return [acc]
    | _ =>
      let _ := wantList
      dieWith s!"Undefined subroutine &main::{name} called"
termination_by structural fuel _ _ _ _ => fuel

/-- A built-in function. -/
def builtin : Nat → String → List Expr → Bool → Run (List Scalar)
  | 0, _, _, _ => throw .endless
  | n + 1, name, args, wantList => do
    let topic : Run Scalar := readScalarVar "_"
    let arg1 : Run Scalar := match args with
      | x :: _ => evalScalar n x
      | [] => topic
    let one (v : Scalar) : Run (List Scalar) := pure [v]
    match name with
    | "defined" =>
      match args with
      | [] => one (boolScalar (← topic).defined)
      | x :: _ =>
        match x with
        | .call nm none =>
          let short := (plainName ("&" ++ nm)).drop 1 |>.toString
          one (boolScalar ((← get).subs.any (·.name == short)))
        | .elem agg idx =>
          match ← elemCell n agg idx false with
          | some c => one (boolScalar (← readCell c).defined)
          | none => one (boolScalar false)
        | .helem agg key =>
          match ← helemCell n agg key false with
          | some c => one (boolScalar (← readCell c).defined)
          | none => one (boolScalar false)
        | .arrayVar _ | .derefArray _ => one (boolScalar ((← evalScalar n x).toInt > 0))
        | _ => one (boolScalar (← evalScalar n x).defined)
    | "undef" =>
      match args with
      | [] => one .undefined
      | x :: _ =>
        match x with
        | .arrayVar _ | .derefArray _ =>
          match ← arrayCellOf n x true with
          | some a => setCell a (.array #[])
          | none => pure ()
        | .hashVar _ | .derefHash _ =>
          match ← hashCellOf n x true with
          | some a => setCell a (.hash #[])
          | none => pure ()
        | _ => writeCell (← cellOf n x) .undefined
        one .undefined
    | "ref" =>
      match ← arg1 with
      | .ref k a =>
        match (← get).blessings.lookup a with
        | some cls => one (.str (rawOf cls))
        | none => one (.str (rawOf k.name))
      | _ => one (.str [])
    | "package" =>
      let name := textOf (← arg1).toText
      modify fun m => { m with package := name }
      one .undefined
    | "scalar" => one (← arg1)
    | "lc" => one (.str (lowerBytes (← arg1).toText))
    | "fc" => one (.str (lowerBytes (← arg1).toText))
    | "uc" => one (.str (upperBytes (← arg1).toText))
    | "lcfirst" => one (.str (lowerFirst (← arg1).toText))
    | "ucfirst" => one (.str (upperFirst (← arg1).toText))
    | "length" =>
      let v ← arg1
      if v.defined then one (.int v.toText.length) else one .undefined
    | "chr" =>
      let k := (← arg1).toInt
      one (.str (if k < 0 then codePointBytes 0xFFFD else codePointBytes k.toNat))
    | "ord" => one (.int (((← arg1).toText.head?.map (·.toNat)).getD 0))
    | "hex" => one (naturalScalar (hexText (← arg1).toText))
    | "oct" => one (naturalScalar (octText (← arg1).toText))
    | "abs" =>
      match (← arg1).numeric with
      | .int i => one (ofIntValue i.natAbs)
      | x => one (.num (let d := x.toDouble; if signOf d then negate d else d))
    | "int" =>
      match (← arg1).numeric with
      | .int i => one (.int i)
      | x =>
        let d := x.toDouble
        match d with
        | .finite _ _ _ =>
          let t := truncateValue d
          match exactInt t with
          | some i => one (.int i)
          | none => one (.num t)
        | _ => one (.num d)
    | "sqrt" =>
      let v ← arg1
      let d := v.toDouble
      if less d zero then dieWith s!"Can't take sqrt of {textOf v.toText}"
      one (.num (machine Float.sqrt d))
    | "log" =>
      let v ← arg1
      let d := v.toDouble
      if !less zero d then dieWith s!"Can't take log of {textOf (Scalar.num d).toText}"
      one (.num (machine Float.log d))
    | "exp" => one (.num (machine Float.exp (← arg1).toDouble))
    | "sin" => one (.num (machine Float.sin (← arg1).toDouble))
    | "cos" => one (.num (machine Float.cos (← arg1).toDouble))
    | "atan2" =>
      let vs ← evalItems n args
      let y := (vs.getD 0 .undefined).toDouble
      let x := (vs.getD 1 .undefined).toDouble
      one (.num (ofFloat (Float.atan2 (toFloat y) (toFloat x))))
    | "quotemeta" => one (.str (quoteMeta (← arg1).toText))
    | "rand" =>
      let limit ← match args with
        | x :: _ => evalScalar n x
        | [] => pure (.int 1)
      let m ← get
      if !m.seeded then modify fun m => { m with randState := seedState 0, seeded := true }
      let s := randStep (← get).randState
      modify fun m => { m with randState := s }
      let lim := if isZero limit.toDouble then ofNat 1 else limit.toDouble
      one (.num (mul lim (div (ofNat s) (ofNat (Nat.pow 2 48)))))
    | "srand" =>
      let seed ← match args with
        | x :: _ => do pure (← evalScalar n x).toInt
        | [] => pure 0
      modify fun m => { m with randState := seedState seed.toNat, seeded := true }
      one (.int seed)
    | "time" => one (.int 1700000000)
    | "times" => return [.num zero, .num zero, .num zero, .num zero]
    | "localtime" | "gmtime" =>
      let t ← match args with
        | x :: _ => do pure (← evalScalar n x).toInt
        | [] => pure 1700000000
      if wantList then return (timeParts t).map Scalar.int ++ [.int 0]
      one (.str (timeText t))
    | "join" =>
      let vs ← evalItems n args
      match vs with
      | sep :: rest => one (.str ((rest.map Scalar.toText).intersperse sep.toText).flatten)
      | [] => one (.str [])
    | "split" => doSplit n args wantList
    | "push" | "unshift" =>
      match args with
      | a :: rest =>
        match ← arrayCellOf n a true with
        | some arr =>
          let vals ← evalItems n rest
          let cells ← vals.mapM newScalar
          let items ← arrayItems arr
          let items := if name = "push" then items ++ cells.toArray else cells.toArray ++ items
          setCell arr (.array items)
          one (.int items.size)
        | none => one (.int 0)
      | [] => dieWith s!"Not enough arguments for {name}"
    | "pop" | "shift" =>
      let arrExpr := match args with
        | x :: _ => x
        | [] => .arrayVar "_"
      let arrExpr ← match arrExpr with
        | .arrayVar "_" => do
          if (← get).callDepth > 0 then pure arrExpr else pure (Expr.arrayVar "ARGV")
        | x => pure x
      match ← arrayCellOf n arrExpr true with
      | some arr =>
        let items ← arrayItems arr
        if items.isEmpty then one .undefined
        else if name = "pop" then
          setCell arr (.array items.pop)
          one (← readCell items.back!)
        else
          setCell arr (.array (items.extract 1 items.size))
          one (← readCell items[0]!)
      | none => one .undefined
    | "splice" =>
      match args with
      | a :: rest =>
        match ← arrayCellOf n a true with
        | some arr =>
          let items ← arrayItems arr
          let restVals ← evalItems n rest
          let off := (restVals.getD 0 (.int 0)).toInt
          let off := if off < 0 then off + items.size else off
          let off := if off < 0 then 0 else if off > items.size then (items.size : Int) else off
          let len := match restVals[1]? with
            | some l =>
              let k := l.toInt
              if k < 0 then max 0 (items.size - off.toNat + k) else k
            | none => items.size - off.toNat
          let len := min len.toNat (items.size - off.toNat)
          let removed := (items.toList.drop off.toNat).take len
          let inserted ← (restVals.drop 2).mapM newScalar
          let newItems := items.toList.take off.toNat ++ inserted ++ items.toList.drop (off.toNat + len)
          setCell arr (.array newItems.toArray)
          let vals ← removed.mapM readCell
          if wantList then return vals
          one (vals.getLastD .undefined)
        | none => return []
      | [] => return []
    | "reverse" =>
      let vs ← evalItems n args
      if wantList then return vs.reverse
      let here ← topic
      let t := if args.isEmpty then here.toText else (vs.map Scalar.toText).flatten
      one (.str t.reverse)
    | "sprintf" =>
      let vs ← evalItems n args
      match vs with
      | f :: rest => one (.str (perlSprintf f.toText rest))
      | [] => one (.str [])
    | "die" =>
      let vs ← evalItems n args
      let msg := (vs.map Scalar.toText).flatten
      let msg := if msg.isEmpty then rawOf "Died" else msg
      match vs with
      | [v@(.ref _ _)] => throw (.die v)
      | _ => pure ()
      if msg.getLast? = some 0x0A then throw (.die (.str msg))
      throw (.die (.str (msg ++ (← placeText))))
    | "warn" =>
      let vs ← evalItems n args
      let msg := (vs.map Scalar.toText).flatten
      let msg := if msg.isEmpty then rawOf "Warning: something's wrong" else msg
      let place ← placeText
      let msg := if msg.getLast? = some 0x0A then msg else msg ++ place
      modify fun m => { m with err := m.err ++ msg }
      one (.int 1)
    | "exit" =>
      let code ← match args with
        | x :: _ => do pure (← evalScalar n x).toInt
        | [] => pure 0
      throw (.exit (code % 256).toNat)
    | "keys" | "values" | "each" =>
      match args with
      | x :: _ =>
        match x with
        | .arrayVar _ | .derefArray _ =>
          match ← arrayCellOf n x false with
          | some a =>
            let items ← arrayItems a
            if !wantList then one (.int items.size)
            else if name = "keys" then return (List.range items.size).map fun (i : Nat) => Scalar.int i
            else items.toList.mapM readCell
          | none => return []
        | _ =>
          match ← hashCellOf n x (name != "each") with
          | some h =>
            let entries ← hashEntries h
            if name = "each" then
              let p := ((← get).eachPositions.lookup h).getD 0
              match entries[p]? with
              | some (k, c) =>
                modify fun m => { m with eachPositions := (h, p + 1) :: m.eachPositions.filter (·.1 != h) }
                return [.str k, ← readCell c]
              | none =>
                modify fun m => { m with eachPositions := m.eachPositions.filter (·.1 != h) }
                return []
            modify fun m => { m with eachPositions := m.eachPositions.filter (·.1 != h) }
            if !wantList then one (.int entries.size)
            else if name = "keys" then return entries.toList.map fun (k, _) => .str k
            else entries.toList.mapM fun (_, c) => readCell c
          | none => if wantList then return [] else one (.int 0)
      | [] => return []
    | "delete" =>
      match args with
      | x :: _ =>
        match x with
        | .helem agg key =>
          match ← hashCellOf n agg (agg matches .derefHash _) with
          | some h =>
            let k ← keyText n key
            let entries ← hashEntries h
            match entries.find? (·.1 == k) with
            | some (_, c) =>
              setCell h (.hash (entries.filter (·.1 != k)))
              one (← readCell c)
            | none => one .undefined
          | none => one .undefined
        | .hslice agg keys =>
          let ks ← evalList n keys
          match ← hashCellOf n agg (agg matches .derefHash _) with
          | some h =>
            let vals ← ks.mapM fun k => do
              let entries ← hashEntries h
              match entries.find? (·.1 == k.toText) with
              | some (_, c) =>
                setCell h (.hash (entries.filter (·.1 != k.toText)))
                readCell c
              | none => return .undefined
            if wantList then return vals else one (vals.getLastD .undefined)
          | none => return []
        | .elem agg idx =>
          match ← arrayCellOf n agg (agg matches .derefArray _) with
          | some a =>
            let items ← arrayItems a
            let i := (← evalScalar n idx).toInt
            let k := if i < 0 then i + items.size else i
            if 0 ≤ k && k < items.size then
              let c := items[k.toNat]!
              let v ← readCell c
              if k.toNat + 1 = items.size then setCell a (.array items.pop)
              else writeCell c .undefined
              one v
            else one .undefined
          | none => one .undefined
        | _ => dieWith "delete argument is not a HASH or ARRAY element or slice"
      | [] => one .undefined
    | "exists" =>
      match args with
      | x :: _ =>
        match x with
        | .helem agg key =>
          match ← hashCellOf n agg (agg matches .derefHash _) with
          | some h =>
            let k ← keyText n key
            one (boolScalar ((← hashEntries h).any (·.1 == k)))
          | none => one (boolScalar false)
        | .elem agg idx =>
          match ← arrayCellOf n agg (agg matches .derefArray _) with
          | some a =>
            let items ← arrayItems a
            let i := (← evalScalar n idx).toInt
            let k := if i < 0 then i + items.size else i
            one (boolScalar (0 ≤ k && k < items.size))
          | none => one (boolScalar false)
        | .call nm _ =>
          let short := (plainName ("&" ++ nm)).drop 1 |>.toString
          one (boolScalar ((← get).subs.any (·.name == short)))
        | _ => dieWith "exists argument is not a HASH or ARRAY element or a subroutine"
      | [] => one (boolScalar false)
    | "wantarray" => one (boolScalar (← get).wantList)
    | "chomp" | "chop" =>
      let its ← if args.isEmpty then do pure [Sum.inl (← varCell "$_" (.scalar .undefined))]
        else do
          let xs ← args.mapM fun x => do
            match x with
            | .assign _ _ | .declare _ _ =>
              let ts ← match x with
                | .assign t v =>
                  if isListTarget t then do
                    let vals ← evalList n v
                    assignList n t vals
                    itemsOf n [targetView t]
                  else do pure [Sum.inl (← cellOf n x)]
                | _ => itemsOf n [x]
              pure ts
            | _ => itemsOf n [x]
          pure xs.flatten
      let sep ← recordSeparator
      let mut count : Nat := 0
      let mut last : Scalar := .str []
      for it in its do
        match it with
        | .inl c =>
          let v ← readCell c
          if v.defined then
            let t := v.toText
            if name = "chop" then
              match t.getLast? with
              | some b =>
                writeCell c (.str t.dropLast)
                last := .str [b]
                count := count + 1
              | none => pure ()
            else
              match sep with
              | some [] =>
                let stripped := (t.reverse.dropWhile (· == 0x0A)).reverse
                count := count + (t.length - stripped.length)
                if stripped.length != t.length then writeCell c (.str stripped)
              | some s =>
                if !s.isEmpty && s.isSuffixOf t then
                  writeCell c (.str (t.take (t.length - s.length)))
                  count := count + s.length
              | none => pure ()
        | .inr _ => pure ()
      if name = "chop" then one last else one (.int count)
    | "index" =>
      let vs ← evalItems n args
      let pos := match vs[2]? with
        | some p => p.toInt
        | none => 0
      one (.int (perlIndex (vs.getD 0 .undefined).toText (vs.getD 1 .undefined).toText pos))
    | "rindex" =>
      let vs ← evalItems n args
      one (.int (perlRindex (vs.getD 0 .undefined).toText (vs.getD 1 .undefined).toText (vs[2]?.map Scalar.toInt)))
    | "substr" =>
      match args with
      | s :: off :: rest =>
        let cell ← if rest.length ≥ 2 then do pure (some (← cellOf n s)) else pure none
        let text ← match cell with
          | some c => do pure (← readCell c).toText
          | none => do pure (← evalScalar n s).toText
        let o := (← evalScalar n off).toInt
        let cnt ← match rest with
          | l :: _ => do pure (some (← evalScalar n l).toInt)
          | [] => pure none
        match substrSpan text.length o cnt with
        | some (st, len) =>
          let piece := (text.drop st).take len
          match cell, rest with
          | some c, _ :: r :: _ =>
            let rv ← evalScalar n r
            writeCell c (.str (text.take st ++ rv.toText ++ text.drop (st + len)))
          | _, _ => pure ()
          one (.str piece)
        | none =>
          if cell.isSome then dieWith "substr outside of string"
          let m ← get
          modify fun m => { m with err := m.err ++ rawOf s!"substr outside of string at {m.fileName} line {m.line}.\n" }
          let _ := m
          one .undefined
      | _ => dieWith "Not enough arguments for substr"
    | "pos" =>
      let c ← match args with
        | x :: _ => cellOf n x
        | [] => varCell "$_" (.scalar .undefined)
      match ← positionOf c with
      | some (p, _) => one (.int p)
      | none => one .undefined
    | "sleep" => one (.int (← arg1).toInt)
    | "eof" =>
      let name ← match args with
        | x :: _ =>
          match x with
          | .handle nm => pure nm
          | other => do pure (handleName (← evalScalar n other))
        | [] => pure ((← get).lastHandle.getD "ARGV")
      if name = "ARGV" then
        let m ← get
        let curEmpty ← atEof "ARGV"
        if !curEmpty then one (boolScalar false)
        else if args.isEmpty then one (boolScalar true)
        else
          let more := (← arrayItems (← globalCell "@ARGV" (.array #[]))).size > 0
          one (boolScalar (!more && (m.argvStarted || m.stdin.isEmpty)))
      else one (boolScalar (← atEof name))
    | "open" => doOpen n args
    | "close" =>
      let name ← match args with
        | x :: _ =>
          match x with
          | .handle nm => pure nm
          | other => do pure (handleName (← evalScalar n other))
        | [] => pure ""
      let had := (← get).handles.any (·.1 == name)
      modify fun m => { m with handles := m.handles.filter (·.1 != name) }
      if name = "ARGV" then modify fun m => { m with lineNo := 0 }
      one (boolScalar (had || name = "STDOUT" || name = "STDERR" || name = "STDIN" || name = "ARGV"))
    | "binmode" | "select" | "lock" | "study" | "utime" | "chmod" | "chown" | "alarm" =>
      let _ ← evalItems n args
      one (.int 1)
    | "unlink" =>
      let vs ← evalItems n args
      let names := vs.map fun v => textOf v.toText
      let mut count := 0
      for p in names do
        if (← fileContent p).isSome then
          count := count + 1
          modify fun m => { m with written := m.written.filter (·.1 != p), removed := m.removed ++ [p] }
      one (.int count)
    | "eval" =>
      let code ← arg1
      let errCell ← globalCell "$@" (.scalar (.str []))
      match parseProgram code.toText { fileName := s!"(eval 1)" } with
      | .error e =>
        writeCell errCell (.str (rawOf s!"{e.message} at (eval 1) line {e.line}.\n"))
        one .undefined
      | .ok prog =>
        for d in prog.subs do
          modify fun m => { m with subs := m.subs.filter (·.name != d.name) ++ [d] }
        try
          let v ← inScope (execValue n prog.body wantList)
          writeCell errCell (.str [])
          return v
        catch f =>
          match f with
          | .die v =>
            writeCell errCell v
            return if wantList then [] else [.undefined]
          | other => throw other
    | "do" => one .undefined
    | "caller" => if wantList then return [] else one .undefined
    | "umask" => one (.int 18)
    | "getppid" => one (.int 1)
    | "system" | "exec" | "fork" | "wait" | "waitpid" | "kill" =>
      let _ ← evalItems n args
      one (.int (-1))
    | "bless" =>
      let vs ← evalItems n args
      let cls := match vs[1]? with
        | some c => textOf c.toText
        | none => ""
      let pkg := (← get).package
      let cls := if cls.isEmpty then pkg else cls
      match vs.headD .undefined with
      | .ref k a =>
        modify fun m => { m with blessings := (a, cls) :: m.blessings.filter (·.1 != a) }
        one (.ref k a)
      | _ => dieWith "Can't bless non-reference value"
    | "local" =>
      match args with
      | x :: _ => evalIn n (.declare .local [x]) wantList
      | [] => return []
    | _ =>
      let vals ← evalItems n args
      match ← moduleFunction name vals wantList with
      | some r => return r
      | none => dieWith s!"Unsupported function {name}"
termination_by structural fuel _ _ _ => fuel

/-- `split /pattern/, text, limit`. -/
def doSplit : Nat → List Expr → Bool → Run (List Scalar)
  | 0, _, _ => throw .endless
  | n + 1, args, wantList => do
    let (patExpr, rest) := match args with
      | p :: r => (some p, r)
      | [] => (none, [])
    let text ← match rest with
      | t :: _ => evalScalar n t
      | [] => readScalarVar "_"
    let limit ← match rest with
      | _ :: l :: _ => do pure (← evalScalar n l).toInt
      | _ => pure 0
    let hay := text.toText
    let fields ← match patExpr with
      | none => pure (splitOnBlanks hay limit)
      | some (.lit (.str [0x20])) => pure (splitOnBlanks hay limit)
      | some (.matchOp none false parts flags) =>
        let p ← interpolate n parts
        let p := if p = [0x5E] then rawOf "(?m)^" else p
        match readPattern p (PatternFlags.ofLetters flags) with
        | .ok rx => pure (splitByPattern rx hay limit)
        | .error e => dieWith e
      | some e =>
        let p := (← evalScalar n e).toText
        if p = [0x20] then pure (splitOnBlanks hay limit)
        else
          match readPattern p {} with
          | .ok rx => pure (splitByPattern rx hay limit)
          | .error e => dieWith e
    if wantList then return fields
    return [.int fields.length]
termination_by structural fuel _ _ => fuel

/-- `open`: a handle to read a file or to write one. -/
def doOpen : Nat → List Expr → Run (List Scalar)
  | 0, _ => throw .endless
  | n + 1, args => do
    match args with
    | h :: rest =>
      let vals ← evalItems n rest
      let (mode, path) : Bytes × Bytes := match vals with
        | [spec] =>
          let t := spec.toText.dropWhile (· == 0x20)
          if [0x3E, 0x3E].isPrefixOf t then ([0x3E, 0x3E], t.drop 2)
          else if [0x3E].isPrefixOf t then ([0x3E], t.drop 1)
          else if [0x3C].isPrefixOf t then ([0x3C], t.drop 1)
          else ([0x3C], t)
        | m :: p :: _ => (m.toText, p.toText)
        | [] => ([0x3C], [])
      let path := textOf ((path.dropWhile (· == 0x20)).reverse.dropWhile (· == 0x20)).reverse
      let mode := (mode.filter fun b => b = 0x3C || b = 0x3E || b = 0x2B)
      let name ← match h with
        | .handle nm => pure nm
        | .lit (.str s) => pure (textOf s)
        | other =>
          let m ← get
          let nm := s!"FH{m.handleCount}"
          modify fun m => { m with handleCount := m.handleCount + 1 }
          let c ← cellOf n other
          writeCell c (.str (rawOf ("*main::" ++ nm)))
          pure nm
      if mode = [0x3C] then
        match ← fileContent path with
        | some content =>
          modify fun m => { m with handles := (name, .reader content) :: m.handles.filter (·.1 != name) }
          return [.int 1]
        | none =>
          modify fun m => { m with errno := 2 }
          return [.int 0]
      else
        let append := mode = [0x3E, 0x3E]
        let old := (← fileContent path).getD []
        setFile path (if append then old else [])
        modify fun m => { m with handles := (name, .writer path) :: m.handles.filter (·.1 != name) }
        return [.int 1]
    | [] => return [.int 0]
termination_by structural fuel _ => fuel

end

end Chatbot.Perl
