import Chatbot.Perl.Syntax

/-!
# Quoted text and literals of perl

The text of a quote-like construct runs from its opening delimiter to the closing one. A
bracket (`(`, `[`, `{`, `<`) closes with its partner and may nest inside; any other byte
closes with itself. A backslash takes the byte after it along, so an escaped delimiter does
not close.

Between single quotes only `\\` and an escaped delimiter are escapes. Between double quotes
the escapes of control bytes, octal and hexadecimal codes (`\x{…}` writes the code point in
UTF-8) and `\c` stand for bytes; any other escaped byte stands for itself.

A number is decimal with `_` between digits, a point and an exponent, or hexadecimal (`0x`),
binary (`0b`) or octal (a leading `0`). A whole decimal that fits is an integer, any other
number a double. A point followed by another point ends the number, so `1..3` is a range.

The lists of `tr` expand `a-z` into the bytes between.
-/

namespace Chatbot.Perl

open Chatbot.Shell Chatbot.Awk

/-- Whether a byte may begin an identifier. -/
def isIdentStart (b : UInt8) : Bool := isLetter b || b = 0x5F

/-- Whether a byte may continue an identifier. -/
def isIdentByte (b : UInt8) : Bool := isIdentStart b || isDigit b

/-- The closing delimiter of an opening one. -/
def closingOf (b : UInt8) : UInt8 :=
  match b with
  | 0x28 => 0x29
  | 0x5B => 0x5D
  | 0x7B => 0x7D
  | 0x3C => 0x3E
  | _ => b

/-- Read up to the closing delimiter, with brackets nesting when the delimiters are a pair:
the text inside and the rest after the close, or `none` when it never closes. -/
def readDelimited (openDelim : UInt8) (bs : Bytes) : Option (Bytes × Bytes) :=
  go (bs.length + 1) 0 bs []
where
  /-- Read on, `depth` brackets deep. -/
  go : Nat → Nat → Bytes → Bytes → Option (Bytes × Bytes)
    | 0, _, _, _ => none
    | _, _, [], _ => none
    | fuel + 1, depth, b :: rest, acc =>
      let close := closingOf openDelim
      if b = 0x5C then
        match rest with
        | c :: more => go fuel depth more (acc ++ [b, c])
        | [] => none
      else if b = close then
        if depth = 0 then some (acc, rest) else go fuel (depth - 1) rest (acc ++ [b])
      else if b = openDelim && close != openDelim then go fuel (depth + 1) rest (acc ++ [b])
      else go fuel depth rest (acc ++ [b])

/-- The text between single quotes: `\\` is a backslash and an escaped delimiter the
delimiter; every other backslash stays. -/
def singleQuoted (openDelim : UInt8) : Bytes → Bytes
  | [] => []
  | 0x5C :: c :: rest =>
    if c = 0x5C || c = openDelim || c = closingOf openDelim then c :: singleQuoted openDelim rest
    else 0x5C :: singleQuoted openDelim (c :: rest)
  | b :: rest => b :: singleQuoted openDelim rest

/-- The value of a hexadecimal digit. -/
def hexValue (b : UInt8) : Option Nat :=
  if 0x30 ≤ b && b ≤ 0x39 then some (b - 0x30).toNat
  else if 0x61 ≤ b && b ≤ 0x66 then some ((b - 0x61).toNat + 10)
  else if 0x41 ≤ b && b ≤ 0x46 then some ((b - 0x41).toNat + 10)
  else none

/-- The bytes of a code point: itself below 256, else its UTF-8. -/
def codePointBytes (n : Nat) : Bytes :=
  if n < 256 then [UInt8.ofNat n] else (String.singleton (Char.ofNat n)).toUTF8.toList

/-- Read the escape after a backslash in double quotes: the bytes it stands for and the rest;
`none` when it is a mark of case. -/
def readDoubleEscape (bs : Bytes) : Option (Bytes × Bytes) :=
  match bs with
  | [] => some ([0x5C], [])
  | c :: rest =>
    match c with
    | 0x6E => some ([0x0A], rest)
    | 0x74 => some ([0x09], rest)
    | 0x72 => some ([0x0D], rest)
    | 0x66 => some ([0x0C], rest)
    | 0x62 => some ([0x08], rest)
    | 0x61 => some ([0x07], rest)
    | 0x65 => some ([0x1B], rest)
    | 0x78 =>
      match rest with
      | 0x7B :: more =>
        let ds := more.takeWhile (· != 0x7D)
        let v := (ds.filter (· != 0x5F)).foldl (fun acc d => 16 * acc + (hexValue d).getD 0) 0
        some (codePointBytes v, (more.drop ds.length).drop 1)
      | _ =>
        let ds := (rest.takeWhile fun d => (hexValue d).isSome).take 2
        let v := ds.foldl (fun acc d => 16 * acc + (hexValue d).getD 0) 0
        some ([UInt8.ofNat v], rest.drop ds.length)
    | 0x63 =>
      match rest with
      | d :: more =>
        let up := if 0x61 ≤ d && d ≤ 0x7A then d - 32 else d
        some ([up ^^^ 0x40], more)
      | [] => some ([0x63], [])
    | 0x4E =>
      match rest with
      | 0x7B :: 0x55 :: 0x2B :: more =>
        let ds := more.takeWhile (· != 0x7D)
        let v := ds.foldl (fun acc d => 16 * acc + (hexValue d).getD 0) 0
        some (codePointBytes v, (more.drop ds.length).drop 1)
      | _ => some ([0x4E], rest)
    | 0x6F =>
      match rest with
      | 0x7B :: more =>
        let ds := more.takeWhile (· != 0x7D)
        let v := ds.foldl (fun acc d => 8 * acc + (d - 0x30).toNat) 0
        some (codePointBytes v, (more.drop ds.length).drop 1)
      | _ => some ([0x6F], rest)
    | 0x55 | 0x4C | 0x51 | 0x45 | 0x75 | 0x6C | 0x46 => none
    | _ =>
      if isOctal c then
        let ds := ((c :: rest).takeWhile isOctal).take 3
        let v := ds.foldl (fun acc d => 8 * acc + (d - 0x30).toNat) 0
        some (codePointBytes v, (c :: rest).drop ds.length)
      else some ([c], rest)

/-- The mark of case a letter after a backslash gives. -/
def caseMarkOf (c : UInt8) : Option CaseMark :=
  match c with
  | 0x55 => some .upper
  | 0x4C => some .lower
  | 0x51 => some .quote
  | 0x46 => some .fold
  | 0x45 => some .finish
  | 0x75 => some .upperNext
  | 0x6C => some .lowerNext
  | _ => none

/-- Digits with `_` between them: the digits and the rest. -/
def takeDigits (ok : UInt8 → Bool) (bs : Bytes) : Bytes × Bytes :=
  let run := bs.takeWhile fun b => ok b || b = 0x5F
  (run.filter (· != 0x5F), bs.drop run.length)

/-- A whole number in a base from its digits. -/
def digitsValue (base : Nat) (ds : Bytes) : Nat :=
  ds.foldl (fun acc d => base * acc + (hexValue d).getD 0) 0

/-- A whole number as a scalar: an integer when it fits, else a double. -/
def naturalScalar (n : Nat) : Scalar :=
  if n < Nat.pow 2 64 then .int n else .num (ofNat n)

/-- Read a number at the start of bytes: its value and the rest. -/
def readNumber (bs : Bytes) : Option (Scalar × Bytes) :=
  match bs with
  | 0x30 :: x :: rest =>
    if x = 0x78 || x = 0x58 then
      let (ds, more) := takeDigits (fun b => (hexValue b).isSome) rest
      some (naturalScalar (digitsValue 16 ds), more)
    else if x = 0x62 || x = 0x42 then
      let (ds, more) := takeDigits (fun b => b = 0x30 || b = 0x31) rest
      some (naturalScalar (digitsValue 2 ds), more)
    else if x = 0x6F || x = 0x4F then
      let (ds, more) := takeDigits isOctal rest
      some (naturalScalar (digitsValue 8 ds), more)
    else if isDigit x || x = 0x5F then
      let (ds, more) := takeDigits isOctal (x :: rest)
      some (naturalScalar (digitsValue 8 ds), more)
    else decimal bs
  | _ => decimal bs
where
  /-- A decimal number. -/
  decimal (bs : Bytes) : Option (Scalar × Bytes) :=
    let (whole, rest) := takeDigits isDigit bs
    let (frac, rest, pointed) : Bytes × Bytes × Bool := match rest with
      | 0x2E :: 0x2E :: _ => ([], rest, false)
      | 0x2E :: more =>
        let (f, more) := takeDigits isDigit more
        (f, more, true)
      | _ => ([], rest, false)
    if whole.isEmpty && frac.isEmpty then none
    else
      let (expo, rest) : Bytes × Bytes := match rest with
        | e :: more =>
          if e = 0x65 || e = 0x45 then
            let (sign, more') : Bytes × Bytes := match more with
              | 0x2D :: m => ([0x2D], m)
              | 0x2B :: m => ([0x2B], m)
              | m => ([], m)
            let (ds, more'') := takeDigits isDigit more'
            if ds.isEmpty then ([], rest) else ([0x65] ++ sign ++ ds, more'')
          else ([], rest)
        | [] => ([], rest)
      if !pointed && expo.isEmpty then
        some (naturalScalar (digitsValue 10 whole), rest)
      else
        let text := (if whole.isEmpty then [0x30] else whole) ++ [0x2E] ++ frac ++ expo
        some (.num (readCDouble text).1, rest)

/-- Expand the ranges of a `tr` list and read its escapes. -/
def expandRanges : Nat → Bytes → Bytes
  | 0, _ => []
  | _, [] => []
  | fuel + 1, bs =>
    let (b, rest) := one bs
    match rest with
    | 0x2D :: next :: more =>
      let (hi, after) := one (next :: more)
      if b ≤ hi then
        (List.range (hi.toNat - b.toNat + 1)).map (fun k => UInt8.ofNat (b.toNat + k)) ++
          expandRanges fuel after
      else b :: expandRanges fuel rest
    | _ => b :: expandRanges fuel rest
where
  /-- One byte of the list, perhaps escaped. -/
  one : Bytes → UInt8 × Bytes
    | 0x5C :: c :: rest =>
      if c = 0x2D || c = 0x5C then (c, rest)
      else
        match readDoubleEscape (c :: rest) with
        | some (b :: _, more) => (b, more)
        | _ => (c, rest)
    | b :: rest => (b, rest)
    | [] => (0, [])

end Chatbot.Perl
