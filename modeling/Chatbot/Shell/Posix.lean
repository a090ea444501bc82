import Chatbot.Shell.Glob

/-!
# POSIX regular expressions

The regular expressions of `sed` and `grep`, over bytes, in their basic (BRE) and extended
(ERE) syntax with the GNU additions.

* Basic: `\(…\)` groups, `\|` alternation, `*`, `\+`, `\?` and `\{m,n\}` repetition. `^` is an
  anchor at the start of a branch and `$` at its end, elsewhere they are ordinary; a `*` with
  nothing before it is ordinary.
* Extended: `(…)`, `|`, `*`, `+`, `?` and `{m,n}` without backslashes; `^` and `$` are always
  anchors.
* Both: `.`, bracket expressions `[…]` with ranges and classes `[:alpha:]`, back-references
  `\1` to `\9`, `\w`, `\W`, `\s`, `\S`, and the word anchors `\b`, `\B`, `\<`, `\>`.

The patterns of perl, read elsewhere, add repetition that prefers as few as can be, and the
anchors of its `$` and of its multi-line mode.

Matching follows POSIX: the leftmost match, and of the matches starting there the longest.
`Rx.run` lists every end a pattern can reach from a place, each with the groups it captured,
in order of preference (more repetitions first, the left alternative first); the match is the
longest end, with the captures of its first way.

Errors carry the messages of the C library: `Unmatched ( or \(`, `Invalid preceding regular
expression`, `Trailing backslash`, and the others.
-/

namespace Chatbot.Shell

/-- A regular expression. -/
inductive Rx where
  /-- The empty text. -/
  | empty
  /-- One byte in ranges, or outside them when `negated`. -/
  | set (negated : Bool) (ranges : List (UInt8 × UInt8))
  /-- The start of the text. -/
  | lineStart
  /-- The end of the text. -/
  | lineEnd
  /-- `\b`. -/
  | wordBoundary
  /-- `\B`. -/
  | notWordBoundary
  /-- `\<`. -/
  | wordStart
  /-- `\>`. -/
  | wordEnd
  /-- A numbered group. -/
  | group (index : Nat) (body : Rx)
  /-- A back-reference to a group. -/
  | backref (index : Nat)
  /-- One after the other. -/
  | cat (a b : Rx)
  /-- Either. -/
  | alt (a b : Rx)
  /-- From `least` to `most` (unbounded when `none`) repetitions. -/
  | rep (least : Nat) (most : Option Nat) (body : Rx)
  /-- From `least` to `most` repetitions, as few as can be preferred. -/
  | lazyRep (least : Nat) (most : Option Nat) (body : Rx)
  /-- The end of the text, or the place before a line feed that ends it. -/
  | endBeforeNewline
  /-- The start of the text, or the place after a line feed. -/
  | afterNewline
  /-- The end of the text, or the place before a line feed. -/
  | beforeNewline
  /-- A look-around, which takes no text: whether `body` matches from the place on (or ends
  at it, when `behind`), or does not when `negated`. -/
  | look (behind negated : Bool) (body : Rx)
  deriving Repr

/-- What the groups captured: for groups 1 to 9, the place where each starts and ends. -/
abbrev Caps := List (Option (Nat × Nat))

/-- No group captured. -/
def noCaps : Caps := List.replicate 9 none

/-- Record a group's capture. -/
def Caps.put (c : Caps) (k : Nat) (v : Nat × Nat) : Caps :=
  if 1 ≤ k && k ≤ 9 then c.set (k - 1) (some v) else c

/-- Whether a byte is a word character: a letter, a digit or `_`. -/
def isWordByte (b : UInt8) : Bool :=
  (0x30 ≤ b && b ≤ 0x39) || (0x41 ≤ b && b ≤ 0x5A) || (0x61 ≤ b && b ≤ 0x7A) || b = 0x5F

/-- An ASCII letter in lower case. -/
def lowerByte (b : UInt8) : UInt8 := if 0x41 ≤ b && b ≤ 0x5A then b + 32 else b

/-- Whether the byte at a place is a word character. -/
def wordByteAt (hay : Array UInt8) (i : Nat) : Bool := (hay[i]?.map isWordByte).getD false

/-- Whether the byte before a place is a word character. -/
def wordBefore (hay : Array UInt8) (i : Nat) : Bool := i > 0 && wordByteAt hay (i - 1)

/-- Whether the text at `i` repeats the text from `a` to `b`, ignoring case when `fold`. -/
def repeatsAt (hay : Array UInt8) (fold : Bool) (a b i : Nat) : Bool :=
  let len := b - a
  i + len ≤ hay.size &&
    (List.range len).all fun k =>
      let x := hay[a + k]?.getD 0
      let y := hay[i + k]?.getD 0
      if fold then lowerByte x == lowerByte y else x == y

/-- The levels of a repetition, most repetitions first: each level the ends reached with one
more repetition than the level before it, until a level is empty or there are `fuel` more. -/
def repLevels (step : Nat → List (Nat × Caps) → List (Nat × Caps)) :
    Nat → Nat → List (Nat × Caps) → List (List (Nat × Caps)) → List (List (Nat × Caps))
  | 0, _, _, acc => acc
  | fuel + 1, k, level, acc =>
    let next := step k level
    if next.isEmpty then acc else repLevels step fuel (k + 1) next (next :: acc)

/-- Every end the pattern reaches from place `i` with captures `c`, each with its captures,
in order of preference. -/
def Rx.run (hay : Array UInt8) (fold : Bool) : Rx → Nat → Caps → List (Nat × Caps)
  | .empty, i, c => [(i, c)]
  | .set neg rs, i, c =>
    match hay[i]? with
    | some b => if inByteRanges rs b != neg then [(i + 1, c)] else []
    | none => []
  | .lineStart, i, c => if i = 0 then [(i, c)] else []
  | .lineEnd, i, c => if i = hay.size then [(i, c)] else []
  | .wordBoundary, i, c => if wordBefore hay i != wordByteAt hay i then [(i, c)] else []
  | .notWordBoundary, i, c => if wordBefore hay i == wordByteAt hay i then [(i, c)] else []
  | .wordStart, i, c => if !wordBefore hay i && wordByteAt hay i then [(i, c)] else []
  | .wordEnd, i, c => if wordBefore hay i && !wordByteAt hay i then [(i, c)] else []
  | .group k body, i, c => (body.run hay fold i c).map fun (e, c') => (e, c'.put k (i, e))
  | .backref k, i, caps =>
    match caps[k - 1]? with
    | some (some (a, b)) => if repeatsAt hay fold a b i then [(i + (b - a), caps)] else []
    | _ => []
  | .cat a b, i, c => (a.run hay fold i c).flatMap fun (e, c') => b.run hay fold e c'
  | .alt a b, i, c => a.run hay fold i c ++ b.run hay fold i c
  | .rep least most body, i, c =>
    let limit := match most with
      | some m => m
      | none => least + (hay.size - i) + 1
    let step (k : Nat) (level : List (Nat × Caps)) : List (Nat × Caps) :=
      (level.flatMap fun (p, cc) =>
        (body.run hay fold p cc).filter fun (e, _) => k < least || e > p).eraseDups
    let levels := repLevels step limit 0 [(i, c)] [[(i, c)]]
    ((levels.take (levels.length - least)).flatten).eraseDups
  | .lazyRep least most body, i, c =>
    let limit := match most with
      | some m => m
      | none => least + (hay.size - i) + 1
    let step (k : Nat) (level : List (Nat × Caps)) : List (Nat × Caps) :=
      (level.flatMap fun (p, cc) =>
        (body.run hay fold p cc).filter fun (e, _) => k < least || e > p).eraseDups
    let levels := repLevels step limit 0 [(i, c)] [[(i, c)]]
    ((levels.reverse.drop least).flatten).eraseDups
  | .endBeforeNewline, i, c =>
    if i = hay.size || (i + 1 = hay.size && hay[i]? = some 0x0A) then [(i, c)] else []
  | .afterNewline, i, c => if i = 0 || hay[i - 1]? = some 0x0A then [(i, c)] else []
  | .beforeNewline, i, c => if i = hay.size || hay[i]? = some 0x0A then [(i, c)] else []
  | .look behind neg body, i, c =>
    let found : Option Caps :=
      if behind then
        (List.range (i + 1)).reverse.findSome? fun j =>
          ((body.run hay fold j c).find? fun (p : Nat × Caps) => p.1 = i).map (·.2)
      else ((body.run hay fold i c).head?).map (·.2)
    match found with
    | some c' => if neg then [] else [(i, c')]
    | none => if neg then [(i, c)] else []

/-- A match: where it starts and ends, and the captures. -/
structure RxMatch where
  /-- Where the match starts. -/
  start : Nat
  /-- Where it ends. -/
  stop : Nat
  /-- What the groups captured. -/
  caps : Caps
  deriving DecidableEq, Repr

/-- The longest of the ways a pattern matches from a start, with the captures of the first
way that reaches it. -/
def longestFrom (ends : List (Nat × Caps)) : Option (Nat × Caps) :=
  match ends with
  | [] => none
  | (e, _) :: rest =>
    let best := rest.foldl (fun m x => max m x.1) e
    (ends.find? fun x => x.1 = best).map fun x => (best, x.2)

/-- The number of groups a pattern has. -/
def Rx.groupCount : Rx → Nat
  | .group k body => max k body.groupCount
  | .cat a b | .alt a b => max a.groupCount b.groupCount
  | .rep _ _ body | .lazyRep _ _ body | .look _ _ body => body.groupCount
  | _ => 0

/-- The leftmost-longest match starting at or after `from`. -/
def Rx.search (r : Rx) (hay : Array UInt8) (fold : Bool) (from_ : Nat) : Option RxMatch :=
  (List.range' from_ (hay.size + 1 - from_)).findSome? fun s =>
    (longestFrom (r.run hay fold s noCaps)).map fun (e, c) => ⟨s, e, c⟩

/-- Whether the pattern matches somewhere in the text. -/
def Rx.matchesIn (r : Rx) (hay : Array UInt8) (fold : Bool) : Bool :=
  (r.search hay fold 0).isSome

/-! ## Reading patterns -/

/-- The state of reading a pattern. -/
structure RxReader where
  /-- The bytes not yet read. -/
  rest : List UInt8
  /-- Groups opened so far. -/
  groups : Nat := 0
  /-- Groups closed so far. -/
  closed : List Nat := []
  /-- Extended syntax. -/
  extended : Bool
  /-- Ignore case. -/
  fold : Bool
  /-- Whether a `)` that closes no group is an ordinary character (extended syntax). -/
  looseClose : Bool := false
  /-- Whether the operators beyond POSIX are known: `\+`, `\?` and `\|` in basic syntax,
  and the escapes `\w`, `\W`, `\s`, `\S`, `\b`, `\B`, `\<`, `\>`. -/
  gnuOps : Bool := true

/-- Reading a pattern, which may fail with a message. -/
abbrev RxRead := StateT RxReader (Except String)

/-- The next bytes. -/
def rxPeek : RxRead (List UInt8) := return (← get).rest

/-- Drop bytes. -/
def rxSkip (n : Nat) : RxRead Unit := modify fun st => { st with rest := st.rest.drop n }

/-- The ranges of an ASCII letter's other case, for ranges that hold letters. -/
def otherCase (rs : List (UInt8 × UInt8)) : List (UInt8 × UInt8) :=
  rs.flatMap fun (lo, hi) =>
    let lower := if max lo 0x61 ≤ min hi 0x7A then [(max lo 0x61 - 32, min hi 0x7A - 32)] else []
    let upper := if max lo 0x41 ≤ min hi 0x5A then [(max lo 0x41 + 32, min hi 0x5A + 32)] else []
    lower ++ upper

/-- A set of bytes, closed under case when folding. -/
def foldedSet (fold negated : Bool) (rs : List (UInt8 × UInt8)) : Rx :=
  .set negated (if fold then rs ++ otherCase rs else rs)

/-- Read the members of a bracket expression after `[` (and `^`) up to its `]`. -/
def readMembers : Nat → Bool → List (UInt8 × UInt8) → List UInt8 →
    Except String (List (UInt8 × UInt8) × List UInt8)
  | 0, _, _, _ => .error "Unmatched [, [^, [:, [., or [="
  | _, _, _, [] => .error "Unmatched [, [^, [:, [., or [="
  | fuel + 1, first, acc, b :: rest =>
    if b = 0x5D && !first then .ok (acc, rest)
    else
      let single : Except String (UInt8 × List UInt8) :=
        match b, rest with
        | 0x5B, 0x3D :: c :: 0x3D :: 0x5D :: r => .ok (c, r)
        | 0x5B, 0x2E :: c :: 0x2E :: 0x5D :: r => .ok (c, r)
        | _, _ => .ok (b, rest)
      if b = 0x5B && rest.head? = some 0x3A then
        let name := (rest.drop 1).takeWhile (· != 0x3A)
        match (rest.drop 1).drop name.length with
        | 0x3A :: 0x5D :: r =>
          match classRanges name with
          | some rs => readMembers fuel false (acc ++ rs) r
          | none => .error "Invalid character class name"
        | _ => .error "Unmatched [, [^, [:, [., or [="
      else
        match single with
        | .error e => .error e
        | .ok (lo, r) =>
          match r with
          | 0x2D :: hi :: r' =>
            if hi = 0x5D then readMembers fuel false (acc ++ [(lo, lo)]) r
            else
              let (hi, r'') := match hi, r' with
                | 0x5B, 0x2E :: c :: 0x2E :: 0x5D :: r3 => (c, r3)
                | _, _ => (hi, r')
              if hi < lo then .error "Invalid range end"
              else readMembers fuel false (acc ++ [(lo, hi)]) r''
          | _ => readMembers fuel false (acc ++ [(lo, lo)]) r

/-- Read a bracket expression after its `[`. -/
def readBracketRx : RxRead Rx := do
  let st ← get
  let (negated, body) := match st.rest with
    | 0x5E :: r => (true, r)
    | r => (false, r)
  match readMembers (body.length + 1) true [] body with
  | .ok (rs, r) =>
    set { st with rest := r }
    return foldedSet st.fold negated rs
  | .error e => throw e

/-- Read a decimal number. -/
def readRxNumber (bs : List UInt8) : Option Nat × List UInt8 :=
  let ds := bs.takeWhile fun b => 0x30 ≤ b && b ≤ 0x39
  if ds.isEmpty then (none, bs)
  else (some (ds.foldl (fun v b => 10 * v + (b - 0x30).toNat) 0), bs.drop ds.length)

/-- Read the inside of an interval after its opening brace: the bounds. -/
def readInterval : RxRead (Nat × Option Nat) := do
  let st ← get
  let (lo, r) := readRxNumber st.rest
  let (bounds, r) : (Option Nat × Option Nat × Bool) × List UInt8 := match r with
    | 0x2C :: r' =>
      let (hi, r'') := readRxNumber r'
      ((lo, hi, true), r'')
    | _ => ((lo, lo, false), r)
  let close : Option (List UInt8) := if st.extended then
      match r with
      | 0x7D :: r' => some r'
      | _ => none
    else
      match r with
      | 0x5C :: 0x7D :: r' => some r'
      | _ => none
  match close with
  | none =>
    if r.isEmpty || (r.all fun b => b != 0x7D) then throw "Unmatched \\\x7b"
    else throw "Invalid content of \\\x7b\\\x7d"
  | some r' =>
    let (lo, hi, comma) := bounds
    let least := lo.getD 0
    if lo.isNone && !comma then throw "Invalid content of \\\x7b\\\x7d"
    match hi with
    | some h =>
      if h < least then throw "Invalid content of \\\x7b\\\x7d"
      if h > 32767 then throw "Regular expression too big"
    | none => pure ()
    set { st with rest := r' }
    return (least, if comma then hi else some least)

/-- Whether the next bytes close a branch: the end, an alternation, or a group's end. -/
def atBranchEnd (extended : Bool) (rest : List UInt8) : Bool :=
  match extended, rest with
  | _, [] => true
  | false, 0x5C :: 0x7C :: _ => true
  | false, 0x5C :: 0x29 :: _ => true
  | true, 0x7C :: _ => true
  | true, 0x29 :: _ => true
  | _, _ => false

/-- Read a quantifier, if one comes next. -/
def readQuantifier : RxRead (Option (Nat × Option Nat)) := do
  let st ← get
  match st.extended, st.rest with
  | _, 0x2A :: _ =>
    rxSkip 1
    return some (0, none)
  | true, 0x2B :: _ =>
    rxSkip 1
    return some (1, none)
  | true, 0x3F :: _ =>
    rxSkip 1
    return some (0, some 1)
  | true, 0x7B :: _ =>
    rxSkip 1
    return some (← readInterval)
  | false, 0x5C :: 0x2B :: _ =>
    if !st.gnuOps then return none
    rxSkip 2
    return some (1, none)
  | false, 0x5C :: 0x3F :: _ =>
    if !st.gnuOps then return none
    rxSkip 2
    return some (0, some 1)
  | false, 0x5C :: 0x7B :: _ =>
    rxSkip 2
    return some (← readInterval)
  | _, _ => return none

/-- Apply quantifiers that follow an atom. -/
def readQuantifiers : Nat → Rx → RxRead Rx
  | 0, r => pure r
  | fuel + 1, r => do
    match ← readQuantifier with
    | some (least, most) => readQuantifiers fuel (.rep least most r)
    | none => pure r

/-- A literal byte, as a set closed under case when folding. -/
def literalRx (fold : Bool) (b : UInt8) : Rx := foldedSet fold false [(b, b)]

/-- The ranges of `\w`. -/
def wordRangesRx : List (UInt8 × UInt8) := [(0x30, 0x39), (0x41, 0x5A), (0x61, 0x7A), (0x5F, 0x5F)]

/-- The ranges of `\s`. -/
def spaceRangesRx : List (UInt8 × UInt8) := [(0x09, 0x0D), (0x20, 0x20)]

mutual

/-- Read alternatives up to the end or a group's end. -/
def readAltRx : Nat → Nat → RxRead Rx
  | 0, _ => pure .empty
  | fuel + 1, depth => do
    let first ← readBranchRx fuel depth [] false
    let st ← get
    match st.extended, st.rest with
    | false, 0x5C :: 0x7C :: _ =>
      if !st.gnuOps then return first
      rxSkip 2
      return .alt first (← readAltRx fuel depth)
    | true, 0x7C :: _ =>
      rxSkip 1
      return .alt first (← readAltRx fuel depth)
    | _, _ => return first

/-- Read the pieces of a branch; `anchored` tells that the branch so far is only `^`. -/
def readBranchRx : Nat → Nat → List Rx → Bool → RxRead Rx
  | 0, _, acc, _ => pure (acc.foldr (fun a b => Rx.cat a b) .empty)
  | fuel + 1, depth, acc, anchored => do
    let st ← get
    let done := pure (acc.foldr (fun a b => Rx.cat a b) .empty)
    let ext := st.extended
    match st.rest with
    | [] => done
    | b :: rest =>
      if ext && b = 0x29 && depth = 0 && st.looseClose then
        rxSkip 1
        let atom ← readQuantifiers fuel (literalRx st.fold 0x29)
        readBranchRx fuel depth (acc ++ [atom]) false
      else if atBranchEnd ext st.rest && !(!ext && !st.gnuOps && b = 0x5C && rest.head? = some 0x7C) then
        if (ext && b = 0x29) || (!ext && b = 0x5C && rest.head? = some 0x29) then
          if depth = 0 then throw "Unmatched ) or \\)" else done
        else done
      else
        let starting := acc.isEmpty || anchored
        if b = 0x5E && (ext || acc.isEmpty) then
          rxSkip 1
          readBranchRx fuel depth (acc ++ [.lineStart]) true
        else if b = 0x24 && (ext || atBranchEnd ext rest) then
          rxSkip 1
          readBranchRx fuel depth (acc ++ [.lineEnd]) false
        else if b = 0x2A && starting then
          rxSkip 1
          let atom ← readQuantifiers fuel (literalRx st.fold 0x2A)
          readBranchRx fuel depth (acc ++ [atom]) false
        else if !ext && b = 0x5C && rest.head? = some 0x7B && starting then
          throw "Invalid preceding regular expression"
        else
          let atom ← readAtomRx fuel depth
          let atom ← readQuantifiers fuel atom
          readBranchRx fuel depth (acc ++ [atom]) false

/-- Read one atom. -/
def readAtomRx : Nat → Nat → RxRead Rx
  | 0, _ => pure .empty
  | fuel + 1, depth => do
    let st ← get
    let fold := st.fold
    match st.rest with
    | [] => pure .empty
    | b :: rest =>
      let openGroup : RxRead Rx := do
        let k := st.groups + 1
        modify fun s => { s with groups := k }
        let body ← readAltRx fuel (depth + 1)
        let st' ← get
        let closing := if st'.extended then st'.rest.take 1 = [0x29] else st'.rest.take 2 = [0x5C, 0x29]
        if !closing then throw "Unmatched ( or \\("
        rxSkip (if st'.extended then 1 else 2)
        modify fun s => { s with closed := k :: s.closed }
        return .group k body
      if b = 0x2E then
        rxSkip 1
        return .set true []
      else if b = 0x5B then
        rxSkip 1
        readBracketRx
      else if st.extended && b = 0x28 then
        rxSkip 1
        openGroup
      else if b = 0x5C then
        match rest with
        | [] => throw "Trailing backslash"
        | c :: _ =>
          rxSkip 2
          if !st.extended && c = 0x28 then openGroup
          else if 0x31 ≤ c && c ≤ 0x39 then
            let k := (c - 0x30).toNat
            if st.closed.contains k then return .backref k else throw "Invalid back reference"
          else if !st.gnuOps then return literalRx fold c
          else if c = 0x77 then return .set false wordRangesRx
          else if c = 0x57 then return .set true wordRangesRx
          else if c = 0x73 then return .set false spaceRangesRx
          else if c = 0x53 then return .set true spaceRangesRx
          else if c = 0x62 then return .wordBoundary
          else if c = 0x42 then return .notWordBoundary
          else if c = 0x3C then return .wordStart
          else if c = 0x3E then return .wordEnd
          else if c = 0x60 then return .lineStart
          else if c = 0x27 then return .lineEnd
          else return literalRx fold c
      else
        rxSkip 1
        return literalRx fold b

end

/-- Read a pattern: basic syntax, or extended when `extended`; ignoring case when `fold`; a `)`
that closes no group an ordinary character when `looseClose`; the operators beyond POSIX known
when `gnuOps`. -/
def parseRxWith (looseClose gnuOps : Bool) (pattern : List UInt8) (extended fold : Bool) :
    Except String Rx :=
  let fuel := 4 * pattern.length + 8
  match (readAltRx fuel 0).run { rest := pattern, extended, fold, looseClose, gnuOps } with
  | .ok (r, st) =>
    if st.rest.isEmpty then .ok r
    else .error "Unmatched ) or \\)"
  | .error e => .error e

/-- Read a pattern, a `)` that closes no group being an error. -/
def parseRx (pattern : List UInt8) (extended fold : Bool) : Except String Rx :=
  parseRxWith false true pattern extended fold

end Chatbot.Shell
