import Chatbot.Perl.Pattern
import Chatbot.Perl.Quote

/-!
# Perl's functions on strings

The functions here work on bytes alone: case (`lc`, `uc`, `ucfirst`, `lcfirst`, ASCII
letters only), `quotemeta` (a backslash before every byte that is not a letter, a digit or
`_`), `index` and `rindex`, `substr` with offsets from the end, `hex` and `oct` (which reads
`0x`, `0b` and `0o` prefixes), `tr` (with its flags `c`, `d`, `s`), `split` and the ranges of
`..` on strings.

`split` cuts a string at the matches of a pattern. A match that is empty where the last field
starts does not cut, so an empty pattern splits into bytes and a leading empty field comes
only from a match that is not empty. What the pattern's groups captured goes between the
fields. A positive limit bounds the number of fields; without one, empty fields at the end
are dropped. A single space as the pattern splits at runs of white space, ignoring those at
the start.
-/

namespace Chatbot.Perl

open Chatbot.Shell Chatbot.Awk

/-- A byte in lower case. -/
def lowerOf (b : UInt8) : UInt8 := if 0x41 ≤ b && b ≤ 0x5A then b + 32 else b

/-- A byte in upper case. -/
def upperOf (b : UInt8) : UInt8 := if 0x61 ≤ b && b ≤ 0x7A then b - 32 else b

/-- Bytes in lower case. -/
def lowerBytes (bs : Bytes) : Bytes := bs.map lowerOf

/-- Bytes in upper case. -/
def upperBytes (bs : Bytes) : Bytes := bs.map upperOf

/-- The first byte in upper case. -/
def upperFirst : Bytes → Bytes
  | [] => []
  | b :: rest => upperOf b :: rest

/-- The first byte in lower case. -/
def lowerFirst : Bytes → Bytes
  | [] => []
  | b :: rest => lowerOf b :: rest

/-- A backslash before every byte that is not a letter, a digit or `_` (bytes above 127
stay). -/
def quoteMeta (bs : Bytes) : Bytes :=
  bs.flatMap fun b => if isIdentByte b || b ≥ 0x80 then [b] else [0x5C, b]

/-- The first place at or after `from` where `needle` occurs in `hay`. -/
def indexFrom (hay needle : Bytes) (from_ : Nat) : Option Nat :=
  (List.range' from_ (hay.length + 1 - from_)).find? fun i =>
    i + needle.length ≤ hay.length && needle.isPrefixOf (hay.drop i)

/-- The last place at or before `upto` where `needle` occurs in `hay`. -/
def rindexUpto (hay needle : Bytes) (upto : Nat) : Option Nat :=
  ((List.range (min upto (hay.length - needle.length) + 1)).reverse.find? fun i =>
    needle.isPrefixOf (hay.drop i)).filter fun _ => needle.length ≤ hay.length

/-- `index`: the place of the first occurrence at or after a position, `-1` when none. -/
def perlIndex (hay needle : Bytes) (pos : Int) : Int :=
  let p := if pos < 0 then 0 else min pos.toNat hay.length
  match indexFrom hay needle p with
  | some i => i
  | none => -1

/-- `rindex`: the place of the last occurrence at or before a position, `-1` when none. -/
def perlRindex (hay needle : Bytes) (pos : Option Int) : Int :=
  let p := match pos with
    | some q => if q < 0 then 0 else q.toNat
    | none => hay.length
  match rindexUpto hay needle p with
  | some i => i
  | none => -1

/-- The span `substr` takes: where it starts and how many bytes, or `none` when the start is
outside the string. -/
def substrSpan (len : Nat) (offset : Int) (count : Option Int) : Option (Nat × Nat) :=
  let start : Int := if offset < 0 then len + offset else offset
  if start < 0 || start > len then none
  else
    let s := start.toNat
    let stop : Int := match count with
      | none => len
      | some c => if c < 0 then len + c else start + c
    let stop := if stop < start then start else if stop > len then len else stop
    some (s, stop.toNat - s)

/-- The number a text of hexadecimal digits stands for, `_` allowed between them. -/
def hexText (bs : Bytes) : Nat :=
  let body := match bs with
    | 0x30 :: x :: rest => if x = 0x78 || x = 0x58 then rest else bs
    | 0x78 :: rest | 0x58 :: rest => rest
    | _ => bs
  digitsValue 16 ((body.takeWhile fun b => (hexValue b).isSome || b = 0x5F).filter (· != 0x5F))

/-- The number `oct` reads: `0x` hexadecimal, `0b` binary, `0o` or plain octal. -/
def octText (bs : Bytes) : Nat :=
  let t := bs.dropWhile isNumberBlank
  let t := match t with
    | 0x30 :: rest => if rest.head? = some 0x78 || rest.head? = some 0x58 ||
        rest.head? = some 0x62 || rest.head? = some 0x42 || rest.head? = some 0x6F ||
        rest.head? = some 0x4F then rest else t
    | _ => t
  match t with
  | 0x78 :: rest | 0x58 :: rest => hexText rest
  | 0x62 :: rest | 0x42 :: rest =>
    digitsValue 2 ((rest.takeWhile fun b => b = 0x30 || b = 0x31 || b = 0x5F).filter (· != 0x5F))
  | 0x6F :: rest | 0x4F :: rest =>
    digitsValue 8 ((rest.takeWhile fun b => isOctal b || b = 0x5F).filter (· != 0x5F))
  | _ => digitsValue 8 ((t.takeWhile fun b => isOctal b || b = 0x5F).filter (· != 0x5F))

/-! ## Transliteration -/

/-- The flags of `tr`. -/
structure TransFlags where
  /-- `c`: the complement of the source list. -/
  complement : Bool := false
  /-- `d`: delete what has no partner in the destination. -/
  delete : Bool := false
  /-- `s`: squeeze runs of the same translated byte. -/
  squeeze : Bool := false
  /-- `r`: give the new string and leave the target. -/
  result : Bool := false
  deriving DecidableEq, Repr

/-- The flags of `tr` from their letters. -/
def TransFlags.ofLetters (bs : Bytes) : TransFlags :=
  { complement := bs.contains 0x63, delete := bs.contains 0x64, squeeze := bs.contains 0x73,
    result := bs.contains 0x72 }

/-- What `tr` does to one byte: `none` when it is not in the source list, else the byte it
becomes (`none` inside when it is deleted). -/
def transByte (src dst : Bytes) (flags : TransFlags) (b : UInt8) : Option (Option UInt8) :=
  if flags.complement then
    if src.contains b then none
    else
      -- the complement list is every other byte in order; the destination's last byte repeats
      let idx := ((List.range 256).filter fun k => !src.contains (UInt8.ofNat k)).idxOf b.toNat
      if dst.isEmpty then some (if flags.delete then none else some b)
      else if idx < dst.length then some (some (dst.getD idx 0))
      else if flags.delete then some none else some (dst.getLast?)
  else
    match src.idxOf? b with
    | none => none
    | some idx =>
      if dst.isEmpty then some (if flags.delete then none else some b)
      else if idx < dst.length then some (some (dst.getD idx 0))
      else if flags.delete then some none else some dst.getLast?

/-- `tr`: the new bytes and how many bytes were in the source list. -/
def transliterate (src dst : Bytes) (flags : TransFlags) (text : Bytes) : Bytes × Nat :=
  let step (acc : Bytes × Nat × Option UInt8) (b : UInt8) : Bytes × Nat × Option UInt8 :=
    let (out, count, last) := acc
    match transByte src dst flags b with
    | none => (out ++ [b], count, none)
    | some none => (out, count + 1, last)
    | some (some c) =>
      if flags.squeeze && last = some c then (out, count + 1, last)
      else (out ++ [c], count + 1, some c)
  let (out, count, _) := text.foldl step ([], 0, none)
  (out, count)

/-! ## Splitting -/

/-- The next match for a global scan from `pos`: a match there may not be empty when the last
match was empty and ended there. -/
def nextMatch (rx : Rx) (hay : Array UInt8) (pos : Nat) (afterEmpty : Bool) : Option RxMatch :=
  match firstMatch rx false hay pos with
  | some m =>
    if afterEmpty && m.start = pos && m.stop = pos then
      -- another way at the same place that is not empty, or the next match further on
      match (rx.run hay false pos noCaps).find? fun (p : Nat × Caps) => p.1 > pos with
      | some (e, c) => some ⟨pos, e, c⟩
      | none => if pos < hay.size then firstMatch rx false hay (pos + 1) else none
    else some m
  | none => none

/-- The texts a match's groups captured, as scalars. -/
def capturedTexts (hay : Array UInt8) (groups : Nat) (caps : Caps) : List Scalar :=
  (List.range groups).map fun k =>
    match caps.getD k none with
    | some (a, b) => .str (hay.extract a b).toList
    | none => .undefined

/-- Cut a text at the matches of a pattern from `pos`, `fields` the number of fields made and
`acc` what was cut off so far, last first. -/
def splitLoop (rx : Rx) (arr : Array UInt8) (limit : Nat) :
    Nat → Nat → Nat → List Scalar → List Scalar
  | 0, pos, _, acc => (.str (arr.extract pos arr.size).toList :: acc).reverse
  | fuel + 1, pos, fields, acc =>
    let rest : Scalar := .str (arr.extract pos arr.size).toList
    if limit > 0 && fields + 1 ≥ limit then (rest :: acc).reverse
    else
      -- a match may not be empty where the field starts
      let m := match firstMatch rx false arr pos with
        | some m =>
          if m.stop = m.start && m.start = pos then
            match (rx.run arr false pos noCaps).find? fun (p : Nat × Caps) => p.1 > pos with
            | some (e, c) => some (RxMatch.mk pos e c)
            | none => if pos < arr.size then firstMatch rx false arr (pos + 1) else none
          else some m
        | none => none
      match m with
      | none => (rest :: acc).reverse
      | some m =>
        if m.start = m.stop && m.start ≥ arr.size then (rest :: acc).reverse
        else
          let field := Scalar.str (arr.extract pos m.start).toList
          let caps := capturedTexts arr rx.groupCount m.caps
          splitLoop rx arr limit fuel m.stop (fields + 1) (caps.reverse ++ field :: acc)

/-- Whether a scalar is an empty field: undefined or empty. -/
def isEmptyField (v : Scalar) : Bool :=
  match v with
  | .undefined => true
  | .str s => s.isEmpty
  | _ => false

/-- `split` by a pattern, with a limit (`0` for none, negative to keep empty fields at the
end). -/
def splitByPattern (rx : Rx) (hay : Bytes) (limit : Int) : List Scalar :=
  if hay.isEmpty then []
  else
    let lim := if limit > 0 then limit.toNat else 0
    let fields := splitLoop rx hay.toArray lim (hay.length + 2) 0 0 []
    if limit = 0 then (fields.reverse.dropWhile isEmptyField).reverse else fields

/-- `split ' '`: fields between runs of white space, those at the start ignored. -/
def splitOnBlanks (hay : Bytes) (limit : Int) : List Scalar :=
  let t := hay.dropWhile isNumberBlank
  match readPattern (rawOf "\\s+") {} with
  | .ok rx => splitByPattern rx t limit
  | .error _ => [.str t]

/-! ## Ranges -/

/-- The strings from `a` to `b` by the magic increment: until `b`, or until the string is
longer than `b`. -/
def stringRange (a b : Bytes) : Nat → List Bytes
  | 0 => []
  | fuel + 1 =>
    if a.length > b.length then []
    else if a = b then [a]
    else a :: stringRange (incrementText a) b fuel

end Chatbot.Perl
