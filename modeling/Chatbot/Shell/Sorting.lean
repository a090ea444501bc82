import Chatbot.Shell.Tools
import Chatbot.Shell.Floating

/-!
# `sort`

`sort` writes the lines of its inputs in order. Lines are compared by their keys, in turn:
a key (`-k F[.C][opts][,F[.C][opts]]`) is a stretch of the line from a field and character
to another, fields being separated by the byte of `-t`, or else each starting at the blanks
before it. A key is compared as text, as a number (`-n`: sign, digits, fraction), as a
floating-point number (`-g`), as a size with a unit (`-h`), as a month name (`-M`) or as a
version (`-V`); `-d` keeps only letters, digits and blanks, `-i` only printable bytes, `-f`
folds lower case to upper case, `-b` skips leading blanks, `-r` reverses. A key without
options of its own takes the global ones; with no key, the whole line is the key.

Lines whose keys are all equal are compared as whole lines, byte by byte, unless `-s` keeps
them in input order or `-u` keeps only the first of them. `-c` checks that the input is in
order instead of sorting it.
-/

namespace Chatbot.Shell

/-- How a key is compared. -/
structure KeyOrder where
  /-- `b` at the start: skip blanks before the start character. -/
  skipStart : Bool := false
  /-- `b` at the end: skip blanks before the end character. -/
  skipEnd : Bool := false
  /-- `d`: only letters, digits and blanks count. -/
  dictionary : Bool := false
  /-- `i`: only printable bytes count. -/
  printable : Bool := false
  /-- `f`: lower case counts as upper case. -/
  fold : Bool := false
  /-- `n`: a number. -/
  numeric : Bool := false
  /-- `g`: a floating-point number. -/
  general : Bool := false
  /-- `h`: a number with a unit such as `K` or `M`. -/
  human : Bool := false
  /-- `M`: a month name. -/
  month : Bool := false
  /-- `V`: a version. -/
  version : Bool := false
  /-- `R`: at random. -/
  random : Bool := false
  /-- `r`: the reverse order. -/
  reverse : Bool := false
  deriving DecidableEq, Repr

/-- Whether an order has no option that changes how text compares. -/
def KeyOrder.isPlain (o : KeyOrder) : Bool :=
  !(o.skipStart || o.skipEnd || o.dictionary || o.printable || o.fold || o.numeric ||
    o.general || o.human || o.month || o.version || o.random)

/-- Set the option a letter names, at the start or the end of a key. -/
def KeyOrder.setLetter (o : KeyOrder) (atEnd : Bool) (c : UInt8) : Option KeyOrder :=
  match c with
  | 0x62 => some (if atEnd then { o with skipEnd := true } else { o with skipStart := true })
  | 0x64 => some { o with dictionary := true }
  | 0x69 => some { o with printable := true }
  | 0x66 => some { o with fold := true }
  | 0x6E => some { o with numeric := true }
  | 0x67 => some { o with general := true }
  | 0x68 => some { o with human := true }
  | 0x4D => some { o with month := true }
  | 0x56 => some { o with version := true }
  | 0x52 => some { o with random := true }
  | 0x72 => some { o with reverse := true }
  | _ => none

/-- A key: where it starts (field and character, from zero), where it ends (the field from
zero, and the character from one, `0` for the end of the field; no field for the end of
the line), and how it compares. -/
structure SortKey where
  /-- The field it starts in. -/
  startField : Nat
  /-- The character of that field it starts at. -/
  startChar : Nat
  /-- The field it ends in, if not at the end of the line. -/
  endField : Option Nat
  /-- The character of that field it ends with; `0` for the whole field. -/
  endChar : Nat
  /-- How it compares. -/
  order : KeyOrder
  deriving DecidableEq, Repr

/-- Whether a byte is a blank: a space, a tab or a line feed. -/
def isSortBlank (b : UInt8) : Bool := b = 0x20 || b = 0x09 || b = 0x0A

/-- Move past `n` fields from `i`: with a separator, to just after the `n`-th separator; else
past blanks and then past what is not blank, `n` times. -/
def passFields (tab : Option UInt8) (line : Array UInt8) : Nat → Nat → Nat
  | 0, i => i
  | n + 1, i =>
    if i ≥ line.size then i
    else
      let i := match tab with
        | some t =>
          let j := skipBytes (· != t) line line.size i
          if j < line.size then j + 1 else j
        | none =>
          skipBytes (fun b => !isSortBlank b) line line.size (skipBytes isSortBlank line line.size i)
      passFields tab line n i

/-- Where a key starts in a line. -/
def keyStart (tab : Option UInt8) (line : Array UInt8) (k : SortKey) : Nat :=
  let i := passFields tab line k.startField 0
  let i := if k.order.skipStart then skipBytes isSortBlank line line.size i else i
  min line.size (i + k.startChar)

/-- Where a key ends in a line (exclusive). -/
def keyEnd (tab : Option UInt8) (line : Array UInt8) (k : SortKey) : Nat :=
  match k.endField with
  | none => line.size
  | some f =>
    let words := if k.endChar = 0 then f + 1 else f
    let rec pass : Nat → Nat → Nat
      | 0, i => i
      | n + 1, i =>
        if i ≥ line.size then i
        else
          match tab with
          | some t =>
            let j := skipBytes (· != t) line line.size i
            let j := if j < line.size && (n > 0 || k.endChar != 0) then j + 1 else j
            pass n j
          | none =>
            pass n (skipBytes (fun b => !isSortBlank b) line line.size (skipBytes isSortBlank line line.size i))
    let i := pass words 0
    if k.endChar = 0 then i
    else
      let i := if k.order.skipEnd then skipBytes isSortBlank line line.size i else i
      min line.size (i + k.endChar)

/-- The text of a key in a line. -/
def keyText (tab : Option UInt8) (line : Bytes) (k : SortKey) : Bytes :=
  let arr := line.toArray
  let a := keyStart tab arr k
  let b := keyEnd tab arr k
  (line.drop a).take (b - a)

/-- Compare bytes in order: negative, zero or positive. -/
def compareLex : Bytes → Bytes → Int
  | [], [] => 0
  | [], _ :: _ => -1
  | _ :: _, [] => 1
  | a :: as, b :: bs => if a < b then -1 else if b < a then 1 else compareLex as bs

/-- A number as `-n` reads it, after blanks: whether it is negative, its whole digits
without leading zeros, and its fraction digits without trailing zeros. -/
def readSortNumber (bs : Bytes) : Bool × Bytes × Bytes :=
  let bs := bs.dropWhile isSortBlank
  let (neg, bs) := match bs with
    | 0x2D :: r => (true, r)
    | r => (false, r)
  let isDigit (b : UInt8) : Bool := 0x30 ≤ b && b ≤ 0x39
  let whole := (bs.takeWhile isDigit).dropWhile (· = 0x30)
  let rest := bs.dropWhile isDigit
  let frac := match rest with
    | 0x2E :: r => ((r.takeWhile isDigit).reverse.dropWhile (· = 0x30)).reverse
    | _ => []
  let zero := whole.isEmpty && frac.isEmpty
  (neg && !zero, whole, frac)

/-- Compare two numbers as `-n` reads them. -/
def compareNumbers (a b : Bytes) : Int :=
  let (na, wa, fa) := readSortNumber a
  let (nb, wb, fb) := readSortNumber b
  let magnitude : Int :=
    if wa.length != wb.length then (if wa.length < wb.length then -1 else 1)
    else
      let c := compareLex wa wb
      if c != 0 then c else compareLex fa fb
  if na && !nb then -1
  else if nb && !na then 1
  else if na then -magnitude else magnitude

/-- The unit of a size as `-h` reads it: `K` (or `k`) 1, `M` 2, … `Q` 10, and `0` without one
or for a number without a nonzero digit; negative for a negative number. -/
def unitOrder (bs : Bytes) : Int :=
  let bs := bs.dropWhile isSortBlank
  let (neg, bs) := match bs with
    | 0x2D :: r => (true, r)
    | r => (false, r)
  let isDigit (b : UInt8) : Bool := 0x30 ≤ b && b ≤ 0x39
  let ds := bs.takeWhile isDigit
  let rest := bs.drop ds.length
  let (ds, rest) := match rest with
    | 0x2E :: r =>
      let fr := r.takeWhile isDigit
      (ds ++ fr, r.drop fr.length)
    | r => (ds, r)
  let order : Int := match rest.head? with
    | some 0x4B | some 0x6B => 1
    | some 0x4D => 2
    | some 0x47 => 3
    | some 0x54 => 4
    | some 0x50 => 5
    | some 0x45 => 6
    | some 0x5A => 7
    | some 0x59 => 8
    | some 0x52 => 9
    | some 0x51 => 10
    | _ => 0
  if ds.any (· != 0x30) then (if neg then -order else order) else 0

/-- The month a key names by its first three letters, in any case: 1 to 12, or 0. -/
def monthOf (bs : Bytes) : Nat :=
  let bs := (bs.dropWhile isSortBlank).take 3
  let up := bs.map fun b => if 0x61 ≤ b && b ≤ 0x7A then b - 32 else b
  let names := ["JAN", "FEB", "MAR", "APR", "MAY", "JUN", "JUL", "AUG", "SEP", "OCT", "NOV", "DEC"]
  match names.findIdx? (bytesOf · = up) with
  | some i => i + 1
  | none => 0

/-- A floating-point key in the order of `-g`: text that is no number first, then NaN, then
the numbers from −∞ to +∞, read in the extended format and compared exactly. -/
def compareGeneral (a b : Bytes) : Int :=
  let (da, na, _) := readCFloat .extended a
  let (db, nb, _) := readCFloat .extended b
  if na = 0 then (if nb = 0 then 0 else -1)
  else if nb = 0 then 1
  else
    let rank : Double → Int
      | .nan _ => 0
      | .inf true => 1
      | .finite _ _ _ => 2
      | .inf false => 3
    match da, db with
    | .finite n1 m1 e1, .finite n2 m2 e2 =>
      let sign (n : Bool) (m : Nat) : Int := if m = 0 then 0 else if n then -1 else 1
      let s1 := sign n1 m1
      let s2 := sign n2 m2
      if s1 != s2 then (if s1 < s2 then -1 else 1)
      else if s1 = 0 then 0
      else
        let e := min e1 e2
        let x := m1 * Nat.pow 2 (e1 - e).toNat
        let y := m2 * Nat.pow 2 (e2 - e).toNat
        let c : Int := if x < y then -1 else if y < x then 1 else 0
        s1 * c
    | x, y => if rank x < rank y then -1 else if rank y < rank x then 1 else 0

/-- The weight of a byte in a version: digits none, letters their code, `~` below all and the
end just above it, other bytes above all letters. -/
def versionWeight (b : Option UInt8) : Int :=
  match b with
  | none => -1
  | some c =>
    if 0x30 ≤ c && c ≤ 0x39 then 0
    else if (0x41 ≤ c && c ≤ 0x5A) || (0x61 ≤ c && c ≤ 0x7A) then c.toNat
    else if c = 0x7E then -2
    else c.toNat + 256

/-- Compare versions part by part: the bytes before digits by their weights, then the digits
as numbers. -/
def versionParts : Nat → Bytes → Bytes → Int
  | 0, _, _ => 0
  | _, [], [] => 0
  | fuel + 1, a, b =>
    let isDigit (x : UInt8) : Bool := 0x30 ≤ x && x ≤ 0x39
    let rec letters : Nat → Bytes → Bytes → Int × Bytes × Bytes
      | 0, a, b => (0, a, b)
      | n + 1, a, b =>
        let aMore := match a.head? with
          | some x => !isDigit x
          | none => false
        let bMore := match b.head? with
          | some x => !isDigit x
          | none => false
        if aMore || bMore then
          let wa := versionWeight (if aMore then a.head? else none)
          let wb := versionWeight (if bMore then b.head? else none)
          if wa != wb then (wa - wb, a, b)
          else letters n (if aMore then a.tail else a) (if bMore then b.tail else b)
        else (0, a, b)
    let (d, a, b) := letters (a.length + b.length + 1) a b
    if d != 0 then d
    else
      let a := a.dropWhile (· = 0x30)
      let b := b.dropWhile (· = 0x30)
      let da := a.takeWhile isDigit
      let db := b.takeWhile isDigit
      if da.length != db.length then (if da.length < db.length then -1 else 1)
      else
        let c := compareLex da db
        if c != 0 then c else versionParts fuel (a.drop da.length) (b.drop db.length)

/-- The length of a name without its suffix: the longest run of `.` followed by a letter or
`~` and then letters, digits and `~`, at its end. -/
def versionPrefixLength (s : Bytes) : Nat :=
  let arr := s.toArray
  let n := arr.size
  let isAlpha (c : UInt8) : Bool := (0x41 ≤ c && c ≤ 0x5A) || (0x61 ≤ c && c ≤ 0x7A)
  let isAlnum (c : UInt8) : Bool := isAlpha c || (0x30 ≤ c && c ≤ 0x39)
  let rec scan : Nat → Nat → Nat → Nat
    | 0, _, pre => pre
    | fuel + 1, i, pre =>
      if i ≥ n then pre
      else
        let i := i + 1
        let pre := i
        let rec suffixes : Nat → Nat → Nat
          | 0, i => i
          | f + 1, i =>
            if i + 1 < n && arr[i]? = some 0x2E &&
                (match arr[i + 1]? with
                  | some c => isAlpha c || c = 0x7E
                  | none => false) then
              suffixes f (skipBytes (fun c => isAlnum c || c = 0x7E) arr n (i + 2))
            else i
        scan fuel (suffixes n i) pre
  scan (n + 1) 0 0

/-- Compare two texts as versions, as `-V` and `ls -v` do: empty first, then `.`, `..` and
other names starting with `.`; suffixes such as `.tar.gz` count only when the rest is equal. -/
def versionCompare (a b : Bytes) : Int :=
  if a.isEmpty then (if b.isEmpty then 0 else -1)
  else if b.isEmpty then 1
  else
    let dots : Option Int :=
      match a.head?, b.head? with
      | some 0x2E, some 0x2E =>
        if a = [0x2E] then some (if b = [0x2E] then 0 else -1)
        else if b = [0x2E] then some 1
        else if a = [0x2E, 0x2E] then some (if b = [0x2E, 0x2E] then 0 else -1)
        else if b = [0x2E, 0x2E] then some 1
        else none
      | some 0x2E, _ => some (-1)
      | _, some 0x2E => some 1
      | _, _ => none
    match dots with
    | some r => r
    | none =>
      let pa := versionPrefixLength a
      let pb := versionPrefixLength b
      let fuel := a.length + b.length + 2
      let first := versionParts fuel (a.take pa) (b.take pb)
      if first != 0 || (pa = a.length && pb = b.length) then first
      else versionParts fuel a b

/-- Compare two keys in an order. -/
def compareKeys (o : KeyOrder) (a b : Bytes) : Int :=
  let r : Int :=
    if o.numeric then compareNumbers a b
    else if o.general then compareGeneral a b
    else if o.human then
      let d := unitOrder a - unitOrder b
      if d != 0 then d else compareNumbers a b
    else if o.month then (monthOf a : Int) - monthOf b
    else if o.version then versionCompare a b
    else if o.dictionary || o.printable || o.fold then
      let keep (c : UInt8) : Bool :=
        (!o.dictionary || isSortBlank c || (0x30 ≤ c && c ≤ 0x39) || (0x41 ≤ c && c ≤ 0x5A) ||
          (0x61 ≤ c && c ≤ 0x7A)) && (!o.printable || (0x20 ≤ c && c ≤ 0x7E))
      let up (c : UInt8) : UInt8 := if o.fold && 0x61 ≤ c && c ≤ 0x7A then c - 32 else c
      compareLex ((a.filter keep).map up) ((b.filter keep).map up)
    else compareLex a b
  if o.reverse then -r else r

/-- What `sort` was asked to do. -/
structure SortJob where
  /-- The keys, in order; none for the whole line. -/
  keys : List SortKey := []
  /-- The global order. -/
  global : KeyOrder := {}
  /-- The field separator of `-t`. -/
  tab : Option UInt8 := none
  /-- `-u`. -/
  unique : Bool := false
  /-- `-s`. -/
  stable : Bool := false
  /-- `-c` (`some true`) or `-C` (`some false`): check instead of sorting, saying so when
  `true`. -/
  check : Option Bool := none
  /-- `-o`: the file to write. -/
  output : Option Bytes := none
  /-- `-z`: lines end with a zero byte. -/
  zero : Bool := false
  /-- The files. -/
  files : List Bytes := []
  deriving Repr

/-- The keys with the global order given to those that have none of their own. -/
def SortJob.effectiveKeys (j : SortJob) : List SortKey :=
  if j.keys.isEmpty then
    if j.global.isPlain && !j.global.reverse then []
    else [{ startField := 0, startChar := 0, endField := none, endChar := 0, order := j.global }]
  else j.keys.map fun k =>
    if k.order.isPlain && !k.order.reverse then { k with order := j.global } else k

/-- Compare two lines by their keys only. -/
def SortJob.compareByKeys (j : SortJob) (a b : Bytes) : Int :=
  (j.effectiveKeys).foldl (fun acc k =>
    if acc != 0 then acc else compareKeys k.order (keyText j.tab a k) (keyText j.tab b k)) 0

/-- Compare two lines: by the keys, then, unless `-s` or `-u`, as whole lines. -/
def SortJob.compare (j : SortJob) (a b : Bytes) : Int :=
  let keys := j.effectiveKeys
  let byKeys := j.compareByKeys a b
  if !keys.isEmpty && (byKeys != 0 || j.unique || j.stable) then byKeys
  else
    let whole := compareLex a b
    if j.global.reverse then -whole else whole

/-- Read a count of a key position: the number and the rest, or the message. -/
def readKeyCount (spec : String) (what : String) (bs : Bytes) : Except String (Nat × Bytes) :=
  let ds := bs.takeWhile fun b => 0x30 ≤ b && b ≤ 0x39
  if ds.isEmpty then .error s!"{what}: invalid count at start of {localeQuote (textOf bs)}"
  else
    let _ := spec
    .ok (ds.foldl (fun v b => 10 * v + (b - 0x30).toNat) 0, bs.drop ds.length)

/-- Read the ordering letters of a key position. -/
def readKeyLetters (o : KeyOrder) (atEnd : Bool) : Nat → Bytes → KeyOrder × Bytes
  | 0, bs => (o, bs)
  | _, [] => (o, [])
  | fuel + 1, c :: rest =>
    match o.setLetter atEnd c with
    | some o => readKeyLetters o atEnd fuel rest
    | none => (o, c :: rest)

/-- Read a key definition `F[.C][opts][,F[.C][opts]]`. -/
def readSortKey (spec : Bytes) : Except String SortKey := do
  let bad (msg : String) : String := s!"{msg}: invalid field specification {localeQuote (textOf spec)}"
  let (f, rest) ← readKeyCount (textOf spec) "invalid number at field start" spec
  if f = 0 then throw (bad "field number is zero")
  let (c, rest) ← match rest with
    | 0x2E :: r =>
      match readKeyCount (textOf spec) "invalid number after '.'" r with
      | .ok (c, r) =>
        if c = 0 then .error (bad "character offset is zero") else .ok (c, r)
      | .error e => .error e
    | r => .ok (1, r)
  let (o, rest) := readKeyLetters {} false (rest.length + 1) rest
  let (endField, endChar, o, rest) ← match rest with
    | 0x2C :: r => do
      let (ef, r) ← readKeyCount (textOf spec) "invalid number after ','" r
      if ef = 0 then throw (bad "field number is zero")
      let (ec, r) ← match r with
        | 0x2E :: r' => readKeyCount (textOf spec) "invalid number after '.'" r'
        | r' => pure (0, r')
      let (o, r) := readKeyLetters o true (r.length + 1) r
      pure (some (ef - 1), ec, o, r)
    | r => pure (none, 0, o, r)
  if !rest.isEmpty then throw (bad "stray character in field spec")
  return { startField := f - 1, startChar := c - 1, endField, endChar, order := o }

/-- Read the arguments of `sort`. -/
def readSortJob (args : List Bytes) : Except String SortJob := do
  let letters : List (UInt8 × Bool) :=
    ([0x62, 0x64, 0x66, 0x67, 0x68, 0x69, 0x4D, 0x6E, 0x52, 0x72, 0x56, 0x63, 0x43, 0x6D, 0x73,
      0x75, 0x7A].map (·, false)) ++ ([0x6B, 0x74, 0x6F, 0x53, 0x54].map (·, true))
  let longs : List (String × Bool) :=
    [("ignore-leading-blanks", false), ("dictionary-order", false), ("ignore-case", false),
     ("general-numeric-sort", false), ("human-numeric-sort", false), ("ignore-nonprinting", false),
     ("month-sort", false), ("numeric-sort", false), ("random-sort", false), ("reverse", false),
     ("version-sort", false), ("check", false), ("merge", false), ("stable", false),
     ("unique", false), ("zero-terminated", false), ("key", true), ("field-separator", true),
     ("output", true), ("buffer-size", true), ("temporary-directory", true), ("parallel", true),
     ("sort", true), ("debug", false)]
  let (opts, files) ← readToolOptions letters longs (args.length + 1) args [] []
  let longLetter : String → Option UInt8
    | "ignore-leading-blanks" => some 0x62
    | "dictionary-order" => some 0x64
    | "ignore-case" => some 0x66
    | "general-numeric-sort" => some 0x67
    | "human-numeric-sort" => some 0x68
    | "ignore-nonprinting" => some 0x69
    | "month-sort" => some 0x4D
    | "numeric-sort" => some 0x6E
    | "random-sort" => some 0x52
    | "reverse" => some 0x72
    | "version-sort" => some 0x56
    | "check" => some 0x63
    | "merge" => some 0x6D
    | "stable" => some 0x73
    | "unique" => some 0x75
    | "zero-terminated" => some 0x7A
    | "key" => some 0x6B
    | "field-separator" => some 0x74
    | "output" => some 0x6F
    | _ => none
  let mut job : SortJob := { files }
  for opt in opts do
    let (c, arg) : Option UInt8 × Option Bytes := match opt with
      | .short c a => (some c, a)
      | .long n a => (longLetter n, a)
    match c with
    | some 0x6B =>
      let k ← readSortKey (arg.getD [])
      job := { job with keys := job.keys ++ [k] }
    | some 0x74 =>
      match arg.getD [] with
      | [] => throw "empty tab"
      | [t] => job := { job with tab := some t }
      | [0x5C, 0x30] => job := { job with tab := some 0 }
      | t => throw s!"multi-character tab {localeQuote (textOf t)}"
    | some 0x6F => job := { job with output := arg }
    | some 0x75 => job := { job with unique := true }
    | some 0x73 => job := { job with stable := true }
    | some 0x63 => job := { job with check := some true }
    | some 0x43 => job := { job with check := some false }
    | some 0x7A => job := { job with zero := true }
    | some c =>
      match job.global.setLetter false c with
      | some g => job := { job with global := if c = 0x62 then { g with skipEnd := true } else g }
      | none => pure ()
    | none => pure ()
  return job

/-- `sort`: the lines of the inputs in order. -/
def sortTool (files : List (String × Bytes)) (stdin : Bytes) (args : List Bytes) : ToolRun :=
  match readSortJob args with
  | .error e =>
    if e.startsWith "invalid option" || e.startsWith "unrecognized option" ||
        e.startsWith "option " then
      ToolRun.failureWith s!"sort: {e}\nTry 'sort --help' for more information." 2
    else ToolRun.failureWith s!"sort: {e}" 2
  | .ok job =>
    let names := if job.files.isEmpty then [bytesOf "-"] else job.files
    match names.find? fun n => (readInput files stdin (textOf n)).isNone with
    | some n => ToolRun.failureWith s!"sort: cannot read: {textOf n}: No such file or directory" 2
    | none =>
      let sep : UInt8 := if job.zero then 0 else 0x0A
      let recordsOf (data : Bytes) : List Bytes :=
        match data.splitOn sep with
        | [] => []
        | parts => if data.getLast? = some sep || data.isEmpty then parts.dropLast else parts
      let lines := names.flatMap fun n => recordsOf ((readInput files stdin (textOf n)).getD [])
      let readStdin := fromStdin names
      match job.check with
      | some loud =>
        let pairs := lines.zip (lines.drop 1)
        let bad := (pairs.zipIdx 2).find? fun ((a, b), _) =>
          let c := job.compare a b
          c > 0 || (job.unique && c = 0)
        match bad with
        | some ((_, b), i) =>
          let name := textOf (names.headD (bytesOf "-"))
          if loud then
            { err := rawOf s!"sort: {name}:{i}: disorder: " ++ b ++ [0x0A], status := 1, readStdin }
          else { status := 1, readStdin }
        | none => { readStdin }
      | none =>
        let sorted := lines.mergeSort fun a b => job.compare a b ≤ 0
        let kept := if job.unique then
            sorted.foldl (fun (acc : List Bytes) l =>
              match acc.head? with
              | some m => if job.compareByKeys m l = 0 && (!job.effectiveKeys.isEmpty || m = l) then acc else l :: acc
              | none => [l]) [] |>.reverse
          else sorted
        let out := kept.foldr (fun l acc => l ++ sep :: acc) []
        match job.output with
        | some f => { writes := [(textOf f, out)], readStdin }
        | none => { out, readStdin }

end Chatbot.Shell
