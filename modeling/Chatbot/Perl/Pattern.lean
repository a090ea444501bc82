import Chatbot.Shell.Posix

/-!
# Perl's regular expressions

A pattern of perl is read into the regular expressions of `Chatbot.Shell.Posix`. Perl's syntax
is that of extended expressions with more escapes: `\d`, `\w`, `\s` and their negations, `\b`,
`\B`, `\A`, `\z`, `\Z`, the escapes of control bytes, `\xHH`, and `\1` to `\9` for what a group
captured. `(?:…)` groups without capturing, and a quantifier followed by `?` prefers as few
repetitions as can be.

The flags: `i` ignores case, `m` lets `^` and `$` match at every line, `s` lets `.` match a line
feed, and `x` ignores white space and comments in the pattern. Without `m`, `$` matches at the
end or before a line feed that ends the text.

Perl's match is not the longest: it is the first way, in its order of trying, at the leftmost
place where there is one. `Rx.run` lists the ways in that order, so the match is the first.
-/

namespace Chatbot.Perl

open Chatbot.Shell

/-- The flags of a pattern. -/
structure PatternFlags where
  /-- `i`: ignore case. -/
  fold : Bool := false
  /-- `m`: `^` and `$` at every line. -/
  multiline : Bool := false
  /-- `s`: `.` matches a line feed. -/
  dotAll : Bool := false
  /-- `x`: white space and comments ignored. -/
  extended : Bool := false
  deriving DecidableEq, Repr

/-- The flags a text of letters gives. -/
def PatternFlags.ofLetters (letters : Bytes) : PatternFlags :=
  { fold := letters.contains 0x69, multiline := letters.contains 0x6D,
    dotAll := letters.contains 0x73, extended := letters.contains 0x78 }

/-- The state of reading a pattern. -/
structure PatReader where
  /-- What is left of the pattern. -/
  rest : Bytes
  /-- How many capturing groups were opened. -/
  groups : Nat := 0
  /-- The flags. -/
  flags : PatternFlags

/-- Reading a pattern. -/
abbrev PatRead := StateT PatReader (Except String)

/-- The ranges of `\d`. -/
def digitRanges : List (UInt8 × UInt8) := [(0x30, 0x39)]

/-- The ranges of `\s`. -/
def spaceRanges : List (UInt8 × UInt8) := [(0x09, 0x0D), (0x20, 0x20)]

/-- The complement of a list of ranges over the bytes. -/
def complementRanges (rs : List (UInt8 × UInt8)) : List (UInt8 × UInt8) :=
  let inside (b : Nat) : Bool := rs.any fun (lo, hi) => lo.toNat ≤ b && b ≤ hi.toNat
  let bytes := (List.range 256).filter fun b => !inside b
  -- merge consecutive bytes into ranges
  bytes.foldl (fun (acc : List (UInt8 × UInt8)) b =>
    match acc.getLast? with
    | some (lo, hi) =>
      if hi.toNat + 1 = b then acc.dropLast ++ [(lo, UInt8.ofNat b)] else acc ++ [(UInt8.ofNat b, UInt8.ofNat b)]
    | none => [(UInt8.ofNat b, UInt8.ofNat b)]) []

/-- The ranges a class escape (`\d`, `\w`, `\s` and their capitals) stands for. -/
def classEscape (c : UInt8) : Option (List (UInt8 × UInt8)) :=
  match c with
  | 0x64 => some digitRanges
  | 0x44 => some (complementRanges digitRanges)
  | 0x77 => some wordRangesRx
  | 0x57 => some (complementRanges wordRangesRx)
  | 0x73 => some spaceRanges
  | 0x53 => some (complementRanges spaceRanges)
  | 0x68 => some [(0x09, 0x09), (0x20, 0x20)]
  | 0x48 => some (complementRanges [(0x09, 0x09), (0x20, 0x20)])
  | 0x76 => some [(0x0A, 0x0D)]
  | 0x56 => some (complementRanges [(0x0A, 0x0D)])
  | 0x4E => some (complementRanges [(0x0A, 0x0A)])
  | _ => none

/-- The byte a control escape stands for. -/
def controlEscape (c : UInt8) : Option UInt8 :=
  match c with
  | 0x6E => some 0x0A
  | 0x74 => some 0x09
  | 0x72 => some 0x0D
  | 0x66 => some 0x0C
  | 0x65 => some 0x1B
  | 0x61 => some 0x07
  | _ => none

/-- Read a hexadecimal escape after `\x`: the byte and the rest. -/
def readHexEscape (bs : Bytes) : UInt8 × Bytes :=
  let hexVal (b : UInt8) : Option Nat :=
    if 0x30 ≤ b && b ≤ 0x39 then some (b - 0x30).toNat
    else if 0x61 ≤ b && b ≤ 0x66 then some ((b - 0x61).toNat + 10)
    else if 0x41 ≤ b && b ≤ 0x46 then some ((b - 0x41).toNat + 10)
    else none
  match bs with
  | 0x7B :: more =>
    let ds := more.takeWhile (· != 0x7D)
    let v := ds.foldl (fun acc d => 16 * acc + (hexVal d).getD 0) 0
    (UInt8.ofNat (v % 256), (more.drop ds.length).drop 1)
  | _ =>
    let ds := (bs.takeWhile fun d => (hexVal d).isSome).take 2
    let v := ds.foldl (fun acc d => 16 * acc + (hexVal d).getD 0) 0
    (UInt8.ofNat v, bs.drop ds.length)

/-- The next byte of the pattern, skipping white space and comments under `x`. -/
def patPeek : PatRead (Option UInt8) := do
  let st ← get
  if st.flags.extended then
    let rest := skipExtended (st.rest.length + 1) st.rest
    set { st with rest }
    return rest.head?
  return st.rest.head?
where
  /-- Skip white space and comments. -/
  skipExtended : Nat → Bytes → Bytes
    | 0, bs => bs
    | fuel + 1, b :: more =>
      if b = 0x20 || b = 0x09 || b = 0x0A || b = 0x0D then skipExtended fuel more
      else if b = 0x23 then skipExtended fuel (more.dropWhile (· != 0x0A))
      else b :: more
    | _, [] => []

/-- Drop bytes of the pattern. -/
def patSkip (n : Nat) : PatRead Unit := modify fun st => { st with rest := st.rest.drop n }

/-- A set of ranges, folded under `i`. -/
def rangesRx (negated : Bool) (rs : List (UInt8 × UInt8)) : PatRead Rx := do
  return foldedSet (← get).flags.fold negated rs

/-- Read the members of a bracket expression after `[` and a `^`: its ranges, up to the `]`. -/
def readClassMembers : Nat → Bool → List (UInt8 × UInt8) → PatRead (List (UInt8 × UInt8))
  | 0, _, acc => pure acc
  | fuel + 1, first, acc => do
    let st ← get
    match st.rest with
    | [] => throw "Unmatched [ in regex"
    | 0x5D :: more =>
      if first then
        set { st with rest := more }
        readClassMembers fuel false (acc ++ [(0x5D, 0x5D)])
      else
        set { st with rest := more }
        return acc
    | 0x5B :: 0x3A :: more =>
      let name := more.takeWhile (· != 0x3A)
      match (more.drop name.length) with
      | 0x3A :: 0x5D :: after =>
        set { st with rest := after }
        let rs := match textOf name with
          | "alpha" => [(0x41, 0x5A), (0x61, 0x7A)]
          | "digit" => digitRanges
          | "alnum" => [(0x30, 0x39), (0x41, 0x5A), (0x61, 0x7A)]
          | "space" => spaceRanges
          | "upper" => [(0x41, 0x5A)]
          | "lower" => [(0x61, 0x7A)]
          | "punct" => [(0x21, 0x2F), (0x3A, 0x40), (0x5B, 0x60), (0x7B, 0x7E)]
          | "xdigit" => [(0x30, 0x39), (0x41, 0x46), (0x61, 0x66)]
          | "word" => wordRangesRx
          | "blank" => [(0x09, 0x09), (0x20, 0x20)]
          | "cntrl" => [(0x00, 0x1F), (0x7F, 0x7F)]
          | "print" => [(0x20, 0x7E)]
          | "graph" => [(0x21, 0x7E)]
          | _ => []
        readClassMembers fuel false (acc ++ rs)
      | _ =>
        set { st with rest := 0x3A :: more }
        readClassMembers fuel false (acc ++ [(0x5B, 0x5B)])
    | _ =>
      let (lo, after, cls) ← readOne st.rest
      match cls with
      | some rs =>
        set { st with rest := after }
        readClassMembers fuel false (acc ++ rs)
      | none =>
        match after with
        | 0x2D :: next :: more =>
          if next = 0x5D then
            set { st with rest := 0x2D :: next :: more }
            readClassMembers fuel false (acc ++ [(lo, lo)])
          else
            let (hi, after2, cls2) ← readOne (next :: more)
            match cls2 with
            | some rs =>
              set { st with rest := after2 }
              readClassMembers fuel false (acc ++ [(lo, lo), (0x2D, 0x2D)] ++ rs)
            | none =>
              set { st with rest := after2 }
              readClassMembers fuel false (acc ++ [(lo, hi)])
        | _ =>
          set { st with rest := after }
          readClassMembers fuel false (acc ++ [(lo, lo)])
where
  /-- One member: a byte (perhaps escaped), or the ranges of a class escape. -/
  readOne (bs : Bytes) : PatRead (UInt8 × Bytes × Option (List (UInt8 × UInt8))) :=
    match bs with
    | 0x5C :: c :: more =>
      match classEscape c with
      | some rs => pure (0, more, some rs)
      | none =>
        match controlEscape c with
        | some b => pure (b, more, none)
        | none =>
          if c = 0x78 then
            let (b, more') := readHexEscape more
            pure (b, more', none)
          else if c = 0x62 then pure (0x08, more, none)
          else if c = 0x30 then pure (0, more, none)
          else pure (c, more, none)
    | b :: more => pure (b, more, none)
    | [] => throw "Unmatched [ in regex"

/-- Read a number of a quantifier. -/
def readQuantNumber (bs : Bytes) : Option Nat × Bytes :=
  let ds := bs.takeWhile fun b => 0x30 ≤ b && b ≤ 0x39
  if ds.isEmpty then (none, bs)
  else (some (ds.foldl (fun acc d => 10 * acc + (d - 0x30).toNat) 0), bs.drop ds.length)

/-- Read a quantifier, if one follows: its least and most repetitions, and whether it prefers
as few as can be. -/
def readPatQuantifier : PatRead (Option (Nat × Option Nat × Bool)) := do
  let base ← match ← patPeek with
    | some 0x2A => patSkip 1; pure (some (0, none))
    | some 0x2B => patSkip 1; pure (some (1, none))
    | some 0x3F => patSkip 1; pure (some (0, some 1))
    | some 0x7B =>
      let st ← get
      match readQuantNumber st.rest.tail with
      | (some n, 0x7D :: more) => set { st with rest := more }; pure (some (n, some n))
      | (some n, 0x2C :: 0x7D :: more) => set { st with rest := more }; pure (some (n, none))
      | (some n, 0x2C :: more) =>
        match readQuantNumber more with
        | (some m, 0x7D :: more') => set { st with rest := more' }; pure (some (n, some m))
        | _ => pure none
      | _ => pure none
    | _ => pure none
  match base with
  | none => return none
  | some (least, most) =>
    let st ← get
    match st.rest with
    | 0x3F :: more =>
      set { st with rest := more }
      return some (least, most, true)
    | 0x2B :: more =>
      set { st with rest := more }
      return some (least, most, false)
    | _ => return some (least, most, false)

/-- Pass the `)` of a group. -/
def closeGroup (body : Rx) : PatRead Rx := do
  let st ← get
  match st.rest with
  | 0x29 :: more =>
    set { st with rest := more }
    return body
  | _ => throw "Unmatched ( in regex"

/-- Turn on the flags of letters. -/
def mergeFlags (f : PatternFlags) (on : Bytes) : PatternFlags :=
  { f with fold := f.fold || on.contains 0x69, multiline := f.multiline || on.contains 0x6D,
           dotAll := f.dotAll || on.contains 0x73, extended := f.extended || on.contains 0x78 }

mutual

/-- Read alternatives separated by `|`. -/
def readPatAlt : Nat → PatRead Rx
  | 0 => throw "regex too complex"
  | fuel + 1 => do
    let first ← readPatBranch fuel Rx.empty
    readPatAltMore fuel first

/-- Go on with the alternatives after the first. -/
def readPatAltMore : Nat → Rx → PatRead Rx
  | 0, acc => pure acc
  | fuel + 1, acc => do
    if (← patPeek) = some 0x7C then
      patSkip 1
      let b ← readPatBranch fuel Rx.empty
      readPatAltMore fuel (.alt acc b)
    else pure acc

/-- Read the pieces of a branch, up to `|`, `)` or the end. -/
def readPatBranch : Nat → Rx → PatRead Rx
  | 0, acc => pure acc
  | fuel + 1, acc => do
    match ← patPeek with
    | none | some 0x7C | some 0x29 => pure acc
    | some _ =>
      let atom ← readPatAtom fuel
      let piece ← match ← readPatQuantifier with
        | some (least, most, true) => pure (Rx.lazyRep least most atom)
        | some (least, most, false) => pure (Rx.rep least most atom)
        | none => pure atom
      readPatBranch fuel (match acc with
        | .empty => piece
        | _ => .cat acc piece)

/-- Read an atom: a group, a class, an escape, an anchor or a byte. -/
def readPatAtom : Nat → PatRead Rx
  | 0 => throw "regex too complex"
  | fuel + 1 => do
    let st ← get
    match st.rest with
    | 0x28 :: 0x3F :: 0x3A :: more =>
      set { st with rest := more }
      let body ← readPatAlt fuel
      closeGroup body
    | 0x28 :: 0x3F :: more =>
      -- inline flags `(?i)` or `(?i:…)`, and named groups
      let letters := more.takeWhile fun b =>
        b = 0x69 || b = 0x6D || b = 0x73 || b = 0x78 || b = 0x2D || b = 0x5E || b = 0x6E
      -- `^` starts from the defaults
      let base : PatternFlags := if letters.contains 0x5E then {} else st.flags
      match more.drop letters.length with
      | 0x29 :: after =>
        let on := letters.takeWhile (· != 0x2D)
        set { st with rest := after, flags := mergeFlags base on }
        return .empty
      | 0x3A :: after =>
        let on := letters.takeWhile (· != 0x2D)
        let saved := st.flags
        set { st with rest := after, flags := mergeFlags base on }
        let body ← readPatAlt fuel
        modify fun s => { s with flags := saved }
        closeGroup body
      | 0x3D :: after | 0x21 :: after =>
        -- a look-ahead
        set { st with rest := after }
        let body ← readPatAlt fuel
        closeGroup (.look false (more.head? = some 0x21) body)
      | 0x3C :: 0x3D :: after | 0x3C :: 0x21 :: after =>
        -- a look-behind
        set { st with rest := after }
        let body ← readPatAlt fuel
        closeGroup (.look true ((more.drop 1).head? = some 0x21) body)
      | 0x3C :: after | 0x50 :: 0x3C :: after =>
        let after := (after.dropWhile (· != 0x3E)).drop 1
        let k := st.groups + 1
        set { st with rest := after, groups := k }
        let body ← readPatAlt fuel
        closeGroup (.group k body)
      | 0x27 :: after =>
        let after := (after.dropWhile (· != 0x27)).drop 1
        let k := st.groups + 1
        set { st with rest := after, groups := k }
        let body ← readPatAlt fuel
        closeGroup (.group k body)
      | 0x23 :: after =>
        -- a comment
        set { st with rest := (after.dropWhile (· != 0x29)).drop 1 }
        return .empty
      | _ => throw "Sequence (?...) not recognized"
    | 0x28 :: more =>
      let k := st.groups + 1
      set { st with rest := more, groups := k }
      let body ← readPatAlt fuel
      closeGroup (.group k body)
    | 0x5B :: more =>
      let (negated, more) := match more with
        | 0x5E :: m => (true, m)
        | m => (false, m)
      set { st with rest := more }
      let rs ← readClassMembers (more.length + 1) true []
      rangesRx negated rs
    | 0x2E :: more =>
      set { st with rest := more }
      if st.flags.dotAll then return .set true [] else return .set true [(0x0A, 0x0A)]
    | 0x5E :: more =>
      set { st with rest := more }
      return if st.flags.multiline then .afterNewline else .lineStart
    | 0x24 :: more =>
      set { st with rest := more }
      return if st.flags.multiline then .beforeNewline else .endBeforeNewline
    | 0x5C :: c :: more =>
      set { st with rest := more }
      match classEscape c with
      | some rs => rangesRx false rs
      | none =>
        match c with
        | 0x62 => return .wordBoundary
        | 0x42 => return .notWordBoundary
        | 0x41 => return .lineStart
        | 0x7A => return .lineEnd
        | 0x5A => return .endBeforeNewline
        | 0x47 => return .empty
        | 0x78 =>
          let (b, after) := readHexEscape more
          set { st with rest := after }
          return literalRx st.flags.fold b
        | _ =>
          if 0x31 ≤ c && c ≤ 0x39 then return .backref (c - 0x30).toNat
          else if c = 0x30 then return literalRx false 0
          else
            match controlEscape c with
            | some b => return literalRx false b
            | none => return literalRx st.flags.fold c
    | [0x5C] => throw "Trailing \\ in regex"
    | b :: more =>
      set { st with rest := more }
      return literalRx st.flags.fold b
    | [] => return .empty

end


/-- Read a pattern with its flags: the expression, or the message of an error. -/
def readPattern (pattern : Bytes) (flags : PatternFlags) : Except String Rx :=
  match (readPatAlt (4 * pattern.length + 8)).run { rest := pattern, flags } with
  | .ok (rx, st) =>
    if st.rest.isEmpty then .ok rx else .error "Unmatched ) in regex"
  | .error e => .error e

/-- The names of the named groups of a pattern, with their numbers. -/
def patternNames (pattern : Bytes) : List (Bytes × Nat) :=
  go (pattern.length + 1) pattern 0 []
where
  /-- Scan on, `count` groups opened so far. -/
  go : Nat → Bytes → Nat → List (Bytes × Nat) → List (Bytes × Nat)
    | 0, _, _, acc => acc
    | _, [], _, acc => acc
    | fuel + 1, b :: rest, count, acc =>
      match b, rest with
      | 0x5C, _ :: more => go fuel more count acc
      | 0x5B, _ =>
        -- a class: up to its `]`, which may come first
        let body := match rest with
          | 0x5E :: 0x5D :: more => more
          | 0x5D :: more => more
          | 0x5E :: more => more
          | more => more
        go fuel ((body.dropWhile (· != 0x5D)).drop 1) count acc
      | 0x28, 0x3F :: 0x3C :: c :: more =>
        if c = 0x3D || c = 0x21 then go fuel more count acc
        else
          let name := (c :: more).takeWhile (· != 0x3E)
          go fuel more (count + 1) (acc ++ [(name, count + 1)])
      | 0x28, 0x3F :: 0x50 :: 0x3C :: more =>
        let name := more.takeWhile (· != 0x3E)
        go fuel more (count + 1) (acc ++ [(name, count + 1)])
      | 0x28, 0x3F :: 0x27 :: more =>
        let name := more.takeWhile (· != 0x27)
        go fuel more (count + 1) (acc ++ [(name, count + 1)])
      | 0x28, 0x3F :: more => go fuel more count acc
      | 0x28, _ => go fuel rest (count + 1) acc
      | _, _ => go fuel rest count acc

/-- The first match of a pattern at or after a place, perl's way: at the leftmost place where
the pattern matches, the first of the ways it does. -/
def firstMatch (rx : Rx) (fold : Bool) (hay : Array UInt8) (from_ : Nat) : Option RxMatch :=
  go (hay.size + 1 - from_) from_
where
  /-- Try the places from `s` on, `k` of them. -/
  go : Nat → Nat → Option RxMatch
    | 0, _ => none
    | k + 1, s =>
      match rx.run hay fold s noCaps with
      | (e, c) :: _ => some ⟨s, e, c⟩
      | [] => go k (s + 1)

end Chatbot.Perl
