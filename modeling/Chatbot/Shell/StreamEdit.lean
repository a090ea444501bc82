import Chatbot.Shell.Posix
import Chatbot.Shell.Tools

/-!
# The stream editor

`sed` runs a script over its input, line by line. Each line is read into the *pattern
space*; the script's commands run in order on it, each when its address selects the line;
at the end of the script the pattern space is printed (unless `-n`), and the next line is
read. A second buffer, the *hold space*, keeps text between lines.

Addresses are a line number, `$` (the last line), `/regex/` (or `\cregexc`), `first~step`,
and ranges `a1,a2` where `a2` may also be `+n` or `~n`; `!` selects the other lines. Commands
are `s`, `y`, `p`, `P`, `d`, `D`, `n`, `N`, `q`, `Q`, `=`, `a`, `i`, `c`, `h`, `H`, `g`, `G`,
`x`, `z`, `b`, `t`, `T`, `:label`, `w` and blocks `{ … }`.

`s/regex/replacement/flags` replaces the first match (`g`: every match; a number `n`: the
`n`-th); `&` and `\1` to `\9` insert the match and its groups, and `\U`, `\L`, `\u`, `\l`,
`\E` change the case of what follows. An empty match right after the previous match is not
replaced. An empty regex means the last one used.

A last line without a line feed is printed without one. Errors are reported as
`sed: -e expression #1, char N: …` with status 1; an input that cannot be read gives status 2.
-/

namespace Chatbot.Shell

/-! ## Scripts -/

/-- A line address. -/
inductive SedAddr where
  /-- A line number. -/
  | line (n : Nat)
  /-- The last line. -/
  | last
  /-- The lines a regex matches (the last regex used when `none`). -/
  | regex (r : Option Rx) (fold : Bool)
  /-- Lines `first`, `first + step`, … -/
  | every (first step : Nat)
  deriving Repr

/-- The end of an address range. -/
inductive SedEnd where
  /-- Up to the line an address selects. -/
  | addr (a : SedAddr)
  /-- `+n`: the `n` lines after the start. -/
  | count (n : Nat)
  /-- `~n`: up to the next line number that `n` divides. -/
  | multiple (n : Nat)
  deriving Repr

/-- Which lines a command runs on. -/
structure Selector where
  /-- The first address; every line when absent. -/
  first : Option SedAddr := none
  /-- The end of a range. -/
  second : Option SedEnd := none
  /-- Select the other lines. -/
  negated : Bool := false
  deriving Repr

/-- A change of case in a replacement. -/
inductive CaseShift where
  /-- No change. -/
  | keep
  /-- Upper case. -/
  | upper
  /-- Lower case. -/
  | lower
  deriving DecidableEq, Repr

/-- A piece of a replacement. -/
inductive ReplPiece where
  /-- Literal bytes. -/
  | text (bs : Bytes)
  /-- A group of the match; 0 is the whole match. -/
  | group (k : Nat)
  /-- `\U`, `\L` or `\E`: change the case of what follows. -/
  | shift (mode : CaseShift)
  /-- `\u` or `\l`: change the case of the next byte. -/
  | shiftNext (mode : CaseShift)
  deriving Repr

/-- How a branch decides. -/
inductive JumpKind where
  /-- `b`: always. -/
  | always
  /-- `t`: when a substitution was made. -/
  | ifReplaced
  /-- `T`: when none was made. -/
  | unlessReplaced
  deriving DecidableEq, Repr

/-- A command of a script. -/
inductive SedCmd where
  /-- `s`. -/
  | subst (r : Option Rx) (fold : Bool) (repl : List ReplPiece) (global : Bool) (nth : Nat)
      (print : Bool) (write : Option String)
  /-- `y`: byte for byte. -/
  | translit (pairs : List (UInt8 × UInt8))
  /-- `p`. -/
  | print
  /-- `P`: up to the first line feed. -/
  | printFirst
  /-- `d`. -/
  | delete
  /-- `D`. -/
  | deleteFirst
  /-- `n`. -/
  | next
  /-- `N`. -/
  | appendNext
  /-- `q` (or `Q` when `silent`) with an exit status. -/
  | quit (code : Nat) (silent : Bool)
  /-- `=`. -/
  | lineNumber
  /-- `a`. -/
  | append (text : Bytes)
  /-- `i`. -/
  | insert (text : Bytes)
  /-- `c`. -/
  | change (text : Bytes)
  /-- `h`. -/
  | hold
  /-- `H`. -/
  | holdAppend
  /-- `g`. -/
  | fetch
  /-- `G`. -/
  | fetchAppend
  /-- `x`. -/
  | exchange
  /-- `z`. -/
  | zap
  /-- `b`, `t`, `T` to a label (the end when empty). -/
  | jump (kind : JumpKind) (label : String)
  /-- `:label`. -/
  | label (name : String)
  /-- `{`. -/
  | blockStart
  /-- `}`. -/
  | blockEnd
  /-- `w file`. -/
  | writeTo (name : String)
  /-- `l`: print the pattern space unambiguously, wrapped at a width (`0` for never). -/
  | list (width : Option Nat)
  deriving Repr

/-- The state of reading a script. -/
structure SedSource where
  /-- Bytes not yet read. -/
  rest : List UInt8
  /-- Bytes read. -/
  pos : Nat := 0
  /-- Blocks open. -/
  depth : Nat := 0
  /-- Extended regexes. -/
  extended : Bool
  /-- `--posix`: regexes without the operators beyond POSIX. -/
  posix : Bool := false

/-- Reading a script. -/
abbrev SedParse := StateT SedSource (Except String)

/-- Fail with a message at the current place. -/
def sedFail {α : Type} (msg : String) : SedParse α := do
  throw s!"-e expression #1, char {(← get).pos}: {msg}"

/-- The next byte. -/
def sedPeek : SedParse (Option UInt8) := return (← get).rest.head?

/-- Take the next byte. -/
def sedTake : SedParse (Option UInt8) := do
  let st ← get
  match st.rest with
  | b :: r =>
    set { st with rest := r, pos := st.pos + 1 }
    return some b
  | [] => return none

/-- Skip spaces and tabs. -/
def sedSkipBlanks : Nat → SedParse Unit
  | 0 => pure ()
  | n + 1 => do
    match ← sedPeek with
    | some 0x20 | some 0x09 =>
      let _ ← sedTake
      sedSkipBlanks n
    | _ => pure ()

/-- Read a decimal number. -/
def sedNumber : Nat → Nat → SedParse Nat
  | 0, acc => pure acc
  | n + 1, acc => do
    match ← sedPeek with
    | some b =>
      if 0x30 ≤ b && b ≤ 0x39 then
        let _ ← sedTake
        sedNumber n (10 * acc + (b - 0x30).toNat)
      else pure acc
    | none => pure acc

/-- Read the rest of a bracket expression after its `[`, as it is: an optional `^`, a `]`
first that stands for itself, classes such as `[:alpha:]` whole, up to the closing `]`. The
delimiter of the command stands for itself inside it. `none` when the line ends first. -/
def sedBracket (fuel : Nat) (acc : Bytes) : SedParse (Option Bytes) := do
  let take1 (acc : Bytes) : SedParse (Option Bytes) := do
    match ← sedPeek with
    | some b =>
      if b = 0x0A then return none
      let _ ← sedTake
      return some (acc ++ [b])
    | none => return none
  let mut acc := acc
  if (← sedPeek) = some 0x5E then
    match ← take1 acc with
    | some a => acc := a
    | none => return none
  if (← sedPeek) = some 0x5D then
    match ← take1 acc with
    | some a => acc := a
    | none => return none
  let rec go : Nat → Bytes → SedParse (Option Bytes)
    | 0, _ => pure none
    | k + 1, acc => do
      let rest := (← get).rest
      match rest with
      | 0x5B :: d :: _ =>
        if d = 0x3A || d = 0x2E || d = 0x3D then
          -- a class, collating element or equivalence class, to its closing `d]`
          let body := (rest.drop 2)
          let close := (List.range body.length).find? fun i =>
            body[i]? = some d && body[i + 1]? = some 0x5D
          match close with
          | some i =>
            let whole := rest.take (i + 4)
            if whole.contains 0x0A then return none
            modify fun st => { st with rest := st.rest.drop whole.length, pos := st.pos + whole.length }
            go k (acc ++ whole)
          | none =>
            let _ ← sedTake
            go k (acc ++ [0x5B])
        else
          let _ ← sedTake
          go k (acc ++ [0x5B])
      | 0x5D :: _ =>
        let _ ← sedTake
        pure (some (acc ++ [0x5D]))
      | 0x0A :: _ => pure none
      | b :: _ =>
        let _ ← sedTake
        go k (acc ++ [b])
      | [] => pure none
  go fuel acc

/-- Read text delimited by `delim`, as the editor reads the parts of `s`, `y` and addresses:
a backslash before the delimiter leaves the delimiter alone; in a regex, `\n` is a line feed;
a backslash before a line feed keeps the line feed; other backslashes stay. `none` when the
text is not closed on its line. -/
def sedDelimited (delim : UInt8) (regex : Bool) : Nat → Bytes → SedParse (Option Bytes)
  | 0, _ => pure none
  | n + 1, acc => do
    match ← sedTake with
    | none => pure none
    | some 0x0A => pure none
    | some c =>
      if c = delim then pure (some acc)
      else if regex && c = 0x5B then
        match ← sedBracket n [c] with
        | some inner => sedDelimited delim regex n (acc ++ inner)
        | none => pure none
      else if c = 0x5C then
        match ← sedTake with
        | none => pure none
        | some d =>
          if d = 0x6E && regex then sedDelimited delim regex n (acc ++ [0x0A])
          else if d = 0x0A || (d = delim && !(!regex && d = 0x26)) then
            sedDelimited delim regex n (acc ++ [d])
          else sedDelimited delim regex n (acc ++ [0x5C, d])
      else sedDelimited delim regex n (acc ++ [c])

/-- The byte a letter escape stands for in a script: `\t`, `\f`, `\v`, `\a`, `\r`. -/
def sedLetterEscape (c : UInt8) : Option UInt8 :=
  match c with
  | 0x74 => some 0x09
  | 0x66 => some 0x0C
  | 0x76 => some 0x0B
  | 0x61 => some 0x07
  | 0x72 => some 0x0D
  | _ => none

/-- The value of a hexadecimal digit. -/
def hexDigitValue (b : UInt8) : Option Nat :=
  if 0x30 ≤ b && b ≤ 0x39 then some (b - 0x30).toNat
  else if 0x61 ≤ b && b ≤ 0x66 then some (b - 0x57).toNat
  else if 0x41 ≤ b && b ≤ 0x46 then some (b - 0x37).toNat
  else none

/-- The byte of `\xHH` (one or two hexadecimal digits) and the rest, after the `x`. -/
def sedHexEscape (rest : Bytes) : Option (UInt8 × Bytes) :=
  match rest with
  | h :: r =>
    match hexDigitValue h with
    | some v =>
      match r with
      | h2 :: r2 =>
        match hexDigitValue h2 with
        | some w => some (UInt8.ofNat (16 * v + w), r2)
        | none => some (UInt8.ofNat v, r)
      | [] => some (UInt8.ofNat v, r)
    | none => none
  | [] => none

/-- A byte written so that a regex takes it literally. -/
def literalInRegex (b : UInt8) : Bytes :=
  if b = 0x5E || b = 0x5C then [0x5C, b]
  else if [0x2E, 0x2A, 0x5B, 0x24, 0x2B, 0x3F, 0x28, 0x29, 0x7B, 0x7D, 0x7C].contains b then [0x5B, b, 0x5D]
  else [b]

/-- Replace the letter and hexadecimal escapes of a regex by their bytes, leaving other
escapes alone. -/
def normalizeRegex : Nat → Bytes → Bytes
  | 0, bs => bs
  | _, [] => []
  | n + 1, 0x5C :: c :: rest =>
    match sedLetterEscape c with
    | some b => b :: normalizeRegex n rest
    | none =>
      if c = 0x78 then
        match sedHexEscape rest with
        | some (b, r) => literalInRegex b ++ normalizeRegex n r
        | none => 0x5C :: c :: normalizeRegex n rest
      else 0x5C :: c :: normalizeRegex n rest
  | n + 1, b :: rest => b :: normalizeRegex n rest

/-- Read a replacement into pieces. -/
def readReplacement : Nat → Bytes → List ReplPiece → List ReplPiece
  | 0, _, acc => acc
  | _, [], acc => acc
  | n + 1, 0x5C :: 0x78 :: rest, acc =>
    match sedHexEscape rest with
    | some (b, r) => readReplacement n r (acc ++ [.text [b]])
    | none => readReplacement n rest (acc ++ [.text [0x78]])
  | n + 1, 0x5C :: c :: rest, acc =>
    let piece : ReplPiece :=
      if 0x30 ≤ c && c ≤ 0x39 then .group (c - 0x30).toNat
      else if c = 0x4C then .shift .lower
      else if c = 0x55 then .shift .upper
      else if c = 0x45 then .shift .keep
      else if c = 0x6C then .shiftNext .lower
      else if c = 0x75 then .shiftNext .upper
      else if c = 0x6E then .text [0x0A]
      else .text [(sedLetterEscape c).getD c]
    readReplacement n rest (acc ++ [piece])
  | n + 1, 0x26 :: rest, acc => readReplacement n rest (acc ++ [.group 0])
  | n + 1, b :: rest, acc => readReplacement n rest (acc ++ [.text [b]])

/-- Compile a regex of a script; the empty regex is the last one used. -/
def sedRegex (text : Bytes) (fold : Bool) : SedParse (Option Rx) := do
  if text.isEmpty then return none
  let st ← get
  match parseRxWith false (!st.posix) (normalizeRegex (text.length + 1) text) st.extended fold with
  | .ok r => return some r
  | .error e => sedFail e

/-- Read an address, if one comes next. -/
def sedAddress : SedParse (Option SedAddr) := do
  match ← sedPeek with
  | some b =>
    if 0x30 ≤ b && b ≤ 0x39 then
      let n ← sedNumber 20 0
      if (← sedPeek) = some 0x7E then
        let _ ← sedTake
        let step ← sedNumber 20 0
        return some (.every n step)
      return some (.line n)
    else if b = 0x24 then
      let _ ← sedTake
      return some .last
    else if b = 0x2F || b = 0x5C then
      let _ ← sedTake
      let delim ← if b = 0x5C then do
          match ← sedTake with
          | some d => pure d
          | none => sedFail "unexpected `,'"
        else pure 0x2F
      match ← sedDelimited delim true ((← get).rest.length + 1) [] with
      | none => sedFail "unterminated address regex"
      | some text =>
        let fold ← if (← sedPeek) = some 0x49 then do
            let _ ← sedTake
            pure true
          else pure false
        return some (.regex (← sedRegex text fold) fold)
    else return none
  | none => return none

/-- Read the text of `a`, `i` or `c` to the end of its line, as it is: a backslash and the
byte after it are kept together, so that a backslash before a line feed goes on to the next
line; a backslash at the very end is dropped. -/
def sedText : Nat → Bytes → SedParse Bytes
  | 0, acc => pure acc
  | n + 1, acc => do
    match ← sedTake with
    | none => pure acc
    | some 0x0A => pure acc
    | some 0x5C =>
      match ← sedTake with
      | none => pure acc
      | some c => sedText n (acc ++ [0x5C, c])
    | some c => sedText n (acc ++ [c])

/-- The text of `a`, `i` or `c` as it is written: a backslash before a letter of a control
character (`\a`, `\f`, `\n`, `\r`, `\t`, `\v`) writes that character, `\xHH` the byte of
two hex digits; before any other byte it writes that byte. -/
def sedTextBytes : Nat → Bytes → Bytes
  | 0, bs => bs
  | _, [] => []
  | n + 1, 0x5C :: c :: rest =>
    if c = 0x6E then 0x0A :: sedTextBytes n rest
    else match sedLetterEscape c with
      | some b => b :: sedTextBytes n rest
      | none =>
        if c = 0x78 then
          match sedHexEscape rest with
          | some (b, rest') => b :: sedTextBytes n rest'
          | none => c :: sedTextBytes n rest
        else c :: sedTextBytes n rest
  | n + 1, b :: rest => b :: sedTextBytes n rest

/-- Read a label or a file name: to the end of the line, or to a `;` for a label. -/
def sedWord (stopAtSemicolon : Bool) : Nat → Bytes → SedParse Bytes
  | 0, acc => pure acc
  | n + 1, acc => do
    match ← sedPeek with
    | none => pure acc
    | some 0x0A => pure acc
    | some c =>
      if stopAtSemicolon && c = 0x3B then pure acc
      else
        let _ ← sedTake
        sedWord stopAtSemicolon n (acc ++ [c])

/-- After a command: only blanks, then the end, a `;`, a line feed, a `}` or a `#`. -/
def sedEndOfCommand : SedParse Unit := do
  sedSkipBlanks 1000
  match ← sedPeek with
  | none | some 0x3B | some 0x0A | some 0x7D | some 0x23 => pure ()
  | some _ =>
    let _ ← sedTake
    sedFail "extra characters after command"

/-- Read the flags of `s`. -/
def sedSubstFlags : Nat → (Bool × Nat × Bool × Bool × Option String) →
    SedParse (Bool × Nat × Bool × Bool × Option String)
  | 0, acc => pure acc
  | n + 1, (g, nth, p, i, w) => do
    match ← sedPeek with
    | none | some 0x3B | some 0x0A | some 0x7D | some 0x23 => pure (g, nth, p, i, w)
    | some c =>
      if c = 0x20 || c = 0x09 then
        let _ ← sedTake
        sedSubstFlags n (g, nth, p, i, w)
      else if c = 0x67 then
        let _ ← sedTake
        if g then sedFail "multiple `g' options to `s' command"
        sedSubstFlags n (true, nth, p, i, w)
      else if c = 0x70 then
        let _ ← sedTake
        if p then sedFail "multiple `p' options to `s' command"
        sedSubstFlags n (g, nth, true, i, w)
      else if c = 0x49 || c = 0x69 then
        let _ ← sedTake
        sedSubstFlags n (g, nth, p, true, w)
      else if c = 0x6D || c = 0x4D || c = 0x65 then
        let _ ← sedTake
        sedSubstFlags n (g, nth, p, i, w)
      else if 0x30 ≤ c && c ≤ 0x39 then
        if nth ≠ 0 then
          let _ ← sedTake
          sedFail "multiple number options to `s' command"
        let k ← sedNumber 20 0
        if k = 0 then sedFail "number option to `s' command may not be zero"
        sedSubstFlags n (g, k, p, i, w)
      else if c = 0x77 then
        let _ ← sedTake
        sedSkipBlanks 1000
        let name ← sedWord false 100000 []
        pure (g, nth, p, i, some (textOf name))
      else
        let _ ← sedTake
        sedFail "unknown option to `s'"

/-- Read the command after its selector. -/
def sedCommand (sel : Selector) (c : UInt8) : SedParse SedCmd := do
  let simple (cmd : SedCmd) : SedParse SedCmd := do
    sedEndOfCommand
    pure cmd
  let oneAddress : SedParse Unit :=
    if sel.second.isSome then sedFail "command only uses one address" else pure ()
  match c with
  | 0x70 => simple .print
  | 0x50 => simple .printFirst
  | 0x64 => simple .delete
  | 0x44 => simple .deleteFirst
  | 0x6E => simple .next
  | 0x4E => simple .appendNext
  | 0x3D => simple .lineNumber
  | 0x68 => simple .hold
  | 0x48 => simple .holdAppend
  | 0x67 => simple .fetch
  | 0x47 => simple .fetchAppend
  | 0x78 => simple .exchange
  | 0x7A => simple .zap
  | 0x6C => do
    sedSkipBlanks 1000
    match ← sedPeek with
    | some d =>
      if 0x30 ≤ d && d ≤ 0x39 then
        let n ← sedNumber 20 0
        simple (.list (some n))
      else simple (.list none)
    | none => simple (.list none)
  | 0x71 | 0x51 => do
    oneAddress
    sedSkipBlanks 1000
    let code ← sedNumber 20 0
    simple (.quit code (c = 0x51))
  | 0x61 | 0x69 | 0x63 => do
    sedSkipBlanks 1000
    let start : Bytes ← match ← sedPeek with
      | none => sedFail "expected \\ after `a', `c' or `i'"
      | some 0x5C =>
        let _ ← sedTake
        match ← sedTake with
        | none => sedFail "expected \\ after `a', `c' or `i'"
        | some 0x0A => pure []
        | some ch => pure [ch]
      | some _ => pure []
    let raw ← sedText ((← get).rest.length + 1) start
    let text := sedTextBytes (raw.length + 1) raw
    pure (if c = 0x61 then .append text else if c = 0x69 then .insert text else .change text)
  | 0x3A => do
    if sel.first.isSome then sedFail ": doesn't want any addresses"
    sedSkipBlanks 1000
    let name ← sedWord true 100000 []
    if name.isEmpty then sedFail "\":\" lacks a label"
    pure (.label (textOf name))
  | 0x62 | 0x74 | 0x54 => do
    sedSkipBlanks 1000
    let name ← sedWord true 100000 []
    let name := (name.reverse.dropWhile fun b => b = 0x20 || b = 0x09).reverse
    let kind : JumpKind := if c = 0x62 then .always else if c = 0x74 then .ifReplaced else .unlessReplaced
    pure (.jump kind (textOf name))
  | 0x77 => do
    sedSkipBlanks 1000
    let name ← sedWord false 100000 []
    if name.isEmpty then sedFail "missing filename in r/R/w/W commands"
    pure (.writeTo (textOf name))
  | 0x73 => do
    let delim ← match ← sedTake with
      | none | some 0x0A | some 0x5C => sedFail "unterminated `s' command"
      | some d => pure d
    let fuel := (← get).rest.length + 1
    let re ← match ← sedDelimited delim true fuel [] with
      | some t => pure t
      | none => sedFail "unterminated `s' command"
    let repl ← match ← sedDelimited delim false fuel [] with
      | some t => pure t
      | none => sedFail "unterminated `s' command"
    let (g, nth, p, fold, w) ← sedSubstFlags 100 (false, 0, false, false, none)
    let nth := if nth = 0 then 1 else nth
    let rx ← sedRegex re fold
    let pieces := readReplacement (repl.length + 1) repl []
    let groups := (rx.map Rx.groupCount).getD 9
    for piece in pieces do
      match piece with
      | .group k =>
        if k > groups then sedFail s!"invalid reference \\{k} on `s' command's RHS"
      | _ => pure ()
    pure (.subst rx fold pieces g nth p w)
  | 0x79 => do
    let delim ← match ← sedTake with
      | none | some 0x0A | some 0x5C => sedFail "unterminated `y' command"
      | some d => pure d
    let fuel := (← get).rest.length + 1
    let src ← match ← sedDelimited delim false fuel [] with
      | some t => pure t
      | none => sedFail "unterminated `y' command"
    let dst ← match ← sedDelimited delim false fuel [] with
      | some t => pure t
      | none => sedFail "unterminated `y' command"
    let unescape (bs : Bytes) : Bytes := (readReplacement (bs.length + 1) bs []).flatMap fun
      | .text t => t
      | .group k => if k = 0 then [0x26] else [0x5C, (k + 0x30).toUInt8]
      | _ => []
    let src := unescape src
    let dst := unescape dst
    if src.length != dst.length then sedFail "strings for `y' command are different lengths"
    sedEndOfCommand
    pure (.translit (src.zip dst))
  | _ => sedFail s!"unknown command: `{textOf [c]}'"

/-- Read a script's commands. -/
def sedCommands : Nat → List (Selector × SedCmd) → SedParse (List (Selector × SedCmd))
  | 0, acc => pure acc
  | n + 1, acc => do
    let rec skipSeparators : Nat → SedParse Unit
      | 0 => pure ()
      | k + 1 => do
        match ← sedPeek with
        | some 0x20 | some 0x09 | some 0x0A | some 0x3B =>
          let _ ← sedTake
          skipSeparators k
        | _ => pure ()
    skipSeparators ((← get).rest.length + 1)
    match ← sedPeek with
    | none =>
      if (← get).depth > 0 then
        modify fun st => { st with pos := 0 }
        sedFail "unmatched `\x7b'"
      pure acc
    | some 0x23 =>
      let _ ← sedWord false 100000 []
      sedCommands n acc
    | some _ =>
      let first ← sedAddress
      let second ← match first with
        | none => pure none
        | some _ =>
          if (← sedPeek) = some 0x2C then do
            let _ ← sedTake
            sedSkipBlanks 1000
            match ← sedPeek with
            | some 0x2B =>
              let _ ← sedTake
              pure (some (SedEnd.count (← sedNumber 20 0)))
            | some 0x7E =>
              let _ ← sedTake
              pure (some (SedEnd.multiple (← sedNumber 20 0)))
            | _ =>
              match ← sedAddress with
              | some a => pure (some (SedEnd.addr a))
              | none => sedFail "unexpected `,'"
          else pure none
      sedSkipBlanks 1000
      let rec bangs : Nat → Bool → SedParse Bool
        | 0, b => pure b
        | k + 1, b => do
          if (← sedPeek) = some 0x21 then
            let _ ← sedTake
            sedSkipBlanks 1000
            bangs k true
          else pure b
      let negated ← bangs 100 false
      match first, second with
      | some (.line 0), some (.addr (.regex _ _)) => pure ()
      | some (.line 0), _ => sedFail "invalid usage of line address 0"
      | _, _ => pure ()
      let sel : Selector := { first, second, negated }
      match ← sedTake with
      | none => sedFail "missing command"
      | some c =>
        if c = 0x0A || c = 0x3B then sedFail "missing command"
        else if c = 0x7B then
          modify fun st => { st with depth := st.depth + 1 }
          sedCommands n (acc ++ [(sel, .blockStart)])
        else if c = 0x7D then
          if first.isSome then sedFail "unexpected `\x7d'"
          if (← get).depth = 0 then sedFail "unexpected `\x7d'"
          modify fun st => { st with depth := st.depth - 1 }
          sedEndOfCommand
          sedCommands n (acc ++ [(sel, .blockEnd)])
        else
          let cmd ← sedCommand sel c
          sedCommands n (acc ++ [(sel, cmd)])

/-- Read a script. -/
def parseSedScript (script : Bytes) (extended posix : Bool) :
    Except String (Array (Selector × SedCmd)) :=
  match (sedCommands (script.length + 2) []).run { rest := script, extended, posix } with
  | .ok (cmds, _) => .ok cmds.toArray
  | .error e => .error e

/-! ## Running -/

/-- The state of a run. -/
structure SedRun where
  /-- Lines not yet read, each with whether a line feed ended it. -/
  input : List (Bytes × Bool)
  /-- The current line number. -/
  lineNo : Nat := 0
  /-- The pattern space. -/
  ps : Bytes := []
  /-- Whether the current line ended with a line feed. -/
  fed : Bool := true
  /-- The hold space. -/
  hs : Bytes := []
  /-- Output so far. -/
  out : Bytes := []
  /-- Whether the last output lacked its line feed. -/
  owed : Bool := false
  /-- Text to print at the end of the cycle. -/
  queued : Bytes := []
  /-- Ranges in progress: the command's index, and the line a counted range ends at. -/
  active : List (Nat × Option Nat) := []
  /-- Whether a substitution was made since the last line was read or the last `t`. -/
  replaced : Bool := false
  /-- The last regex used. -/
  lastRx : Option (Rx × Bool) := none
  /-- Files written by `w`. -/
  writes : List (String × Bytes) := []

/-- How a run of the script on a line ended. -/
inductive SedOutcome where
  /-- At the end of the script: print the pattern space unless told not to. -/
  | finish (autoprint : Bool)
  /-- `D` with a line feed in the pattern space: run again without reading. -/
  | again
  /-- Stop with an exit status, printing the pattern space first when `autoprint`. -/
  | stop (code : Nat) (autoprint : Bool)
  deriving DecidableEq, Repr

/-- Write bytes to the output, first paying a line feed owed by a last line. -/
def SedRun.emit (st : SedRun) (bs : Bytes) (fed : Bool) : SedRun :=
  let owed := if st.owed then [0x0A] else []
  { st with out := st.out ++ owed ++ bs ++ (if fed then [0x0A] else []), owed := !fed }

/-- Print the pattern space, with its line feed unless it is a last line without one. -/
def SedRun.printSpace (st : SedRun) : SedRun := st.emit st.ps (st.fed || !st.input.isEmpty)

/-- Write the pattern space to a file of `w`: `/dev/stdout` is the output itself. -/
def SedRun.writeSpace (st : SedRun) (name : String) : SedRun :=
  if name = "/dev/stdout" then st.printSpace
  else
    let old := (st.writes.lookup name).getD []
    { st with writes := (st.writes.filter (·.1 != name)) ++ [(name, old ++ st.ps ++ [0x0A])] }

/-- Use a regex, or the last one used. -/
def SedRun.useRegex (st : SedRun) (r : Option Rx) (fold : Bool) : Option (Rx × Bool) × SedRun :=
  match r with
  | some r => (some (r, fold), { st with lastRx := some (r, fold) })
  | none => (st.lastRx, st)

/-- Whether an address selects the current line. -/
def SedRun.hits (st : SedRun) (a : SedAddr) : Bool × SedRun :=
  match a with
  | .line n => (st.lineNo = n, st)
  | .last => (st.input.isEmpty, st)
  | .every first step =>
    (if step = 0 then st.lineNo = first else st.lineNo ≥ first && (st.lineNo - first) % step = 0, st)
  | .regex r fold =>
    let (rx, st) := st.useRegex r fold
    match rx with
    | some (rx, f) => (rx.matchesIn st.ps.toArray f, st)
    | none => (false, st)

/-- Whether a selector selects the current line, for the command at `idx`. -/
def SedRun.selects (st : SedRun) (idx : Nat) (sel : Selector) : Bool × SedRun :=
  let (hit, st) : Bool × SedRun := match sel.first with
    | none => (true, st)
    | some a =>
      match sel.second with
      | none => st.hits a
      | some e =>
        match st.active.lookup idx with
        | some stopAt =>
          let (ends, st) : Bool × SedRun := match e with
            | .addr (.line n) => (st.lineNo ≥ n, st)
            | .addr a2 => st.hits a2
            | .count _ => ((stopAt.map fun n => decide (st.lineNo ≥ n)).getD true, st)
            | .multiple n => (n = 0 || st.lineNo % n = 0, st)
          let st := if ends then { st with active := st.active.filter (·.1 != idx) } else st
          (true, st)
        | none =>
          let (start, st) := st.hits a
          if !start then (false, st)
          else
            let oneLine : Bool := match e with
              | .addr (.line n) => n ≤ st.lineNo
              | .count n => n = 0
              | .multiple n => n = 0 || st.lineNo % n = 0
              | _ => false
            if oneLine then (true, st)
            else
              let stopAt := match e with
                | .count n => some (st.lineNo + n)
                | _ => none
              (true, { st with active := st.active ++ [(idx, stopAt)] })
  (hit != sel.negated, st)

/-- Change the case of bytes. -/
def shiftCase (mode : CaseShift) (bs : Bytes) : Bytes :=
  match mode with
  | .keep => bs
  | .upper => bs.map fun b => if 0x61 ≤ b && b ≤ 0x7A then b - 32 else b
  | .lower => bs.map lowerByte

/-- Build a replacement for a match. -/
def buildReplacement (hay : Array UInt8) (m : RxMatch) (pieces : List ReplPiece) : Bytes :=
  let groupText (k : Nat) : Bytes :=
    if k = 0 then (hay.extract m.start m.stop).toList
    else match m.caps[k - 1]? with
      | some (some (a, b)) => (hay.extract a b).toList
      | _ => []
  let (out, _, _) := pieces.foldl (fun (acc : Bytes × CaseShift × CaseShift) p =>
    let (out, mode, next) := acc
    let add (bs : Bytes) : Bytes × CaseShift × CaseShift :=
      match bs with
      | [] => (out, mode, next)
      | b :: r =>
        let first := if next = .keep then shiftCase mode [b] else shiftCase next [b]
        (out ++ first ++ shiftCase mode r, mode, .keep)
    match p with
    | .text bs => add bs
    | .group k => add (groupText k)
    | .shift m => (out, m, .keep)
    | .shiftNext m => (out, mode, m)) ([], .keep, .keep)
  out

/-- Substitute in a text: the new text, or `none` when nothing was replaced. -/
def replaceMatches (rx : Rx) (fold : Bool) (pieces : List ReplPiece) (global : Bool) (nth : Nat)
    (text : Bytes) : Option Bytes :=
  let hay := text.toArray
  let rec go : Nat → Nat → Option Nat → Nat → Bytes → Bool → Bytes × Bool
    | 0, pos, _, _, acc, done => (acc ++ (hay.extract pos hay.size).toList, done)
    | fuel + 1, pos, prevEnd, count, acc, done =>
      match rx.search hay fold pos with
      | none => (acc ++ (hay.extract pos hay.size).toList, done)
      | some m =>
        if m.start = m.stop && prevEnd = some m.start then
          if m.start < hay.size then
            go fuel (m.start + 1) none count (acc ++ (hay.extract pos (m.start + 1)).toList) done
          else (acc ++ (hay.extract pos hay.size).toList, done)
        else
          let count := count + 1
          let here := count ≥ nth && (global || count = nth)
          let piece := if here then buildReplacement hay m pieces
            else (hay.extract m.start m.stop).toList
          let acc := acc ++ (hay.extract pos m.start).toList ++ piece
          let done := done || here
          if !global && count ≥ nth then (acc ++ (hay.extract m.stop hay.size).toList, done)
          else if m.start = m.stop then
            if m.stop < hay.size then
              go fuel (m.stop + 1) none count (acc ++ (hay.extract m.stop (m.stop + 1)).toList) done
            else (acc, done)
          else go fuel m.stop (some m.stop) count acc done
  let (result, done) := go (hay.size + 2) 0 none 0 [] false
  if done then some result else none

/-- Where the block starting at `i` ends: the index of its `}`. -/
def blockEndOf (prog : Array (Selector × SedCmd)) (i : Nat) : Nat :=
  let rec go : Nat → Nat → Nat → Nat
    | 0, j, _ => j
    | fuel + 1, j, depth =>
      match prog[j]? with
      | none => j
      | some (_, SedCmd.blockStart) => go fuel (j + 1) (depth + 1)
      | some (_, SedCmd.blockEnd) => if depth = 1 then j else go fuel (j + 1) (depth - 1)
      | some _ => go fuel (j + 1) depth
  go (prog.size + 1) i 0

/-- The index of a label, or the end of the script. -/
def labelIndex (prog : Array (Selector × SedCmd)) (name : String) : Nat :=
  if name.isEmpty then prog.size
  else
    let found := (List.range prog.size).find? fun j =>
      match prog[j]? with
      | some (_, SedCmd.label n) => n = name
      | _ => false
    found.getD prog.size

/-- The pattern space as `l` shows it: printable bytes as they are (a backslash doubled),
the usual control characters by their letter escapes, other bytes as three octal digits, with
a backslash and a line feed before a piece that would take a line past `width - 1`. -/
def listing (width : Nat) (ps : Bytes) : Bytes :=
  let piece (c : UInt8) : Bytes :=
    if 0x20 ≤ c && c ≤ 0x7E then (if c = 0x5C then [0x5C, 0x5C] else [c])
    else
      match c with
      | 0x07 => [0x5C, 0x61]
      | 0x08 => [0x5C, 0x62]
      | 0x0C => [0x5C, 0x66]
      | 0x0A => [0x5C, 0x6E]
      | 0x0D => [0x5C, 0x72]
      | 0x09 => [0x5C, 0x74]
      | 0x0B => [0x5C, 0x76]
      | _ =>
        let v := c.toNat
        [0x5C, UInt8.ofNat (0x30 + v / 64), UInt8.ofNat (0x30 + v / 8 % 8), UInt8.ofNat (0x30 + v % 8)]
  (ps.foldl (fun (acc : Bytes × Nat) c =>
    let (out, col) := acc
    let p := piece c
    if width > 0 && col + p.length > width - 1 then (out ++ [0x5C, 0x0A] ++ p, p.length)
    else (out ++ p, col + p.length)) ([], 0)).1

/-- Run the script from command `pc` on the current pattern space. -/
def runSedCommands (prog : Array (Selector × SedCmd)) : Nat → Nat → SedRun → SedRun × SedOutcome
  | 0, _, st => (st, .finish true)
  | fuel + 1, pc, st =>
    match prog[pc]? with
    | none => (st, .finish true)
    | some (sel, cmd) =>
      let (hit, st) := st.selects pc sel
      if !hit then
        match cmd with
        | .blockStart => runSedCommands prog fuel (blockEndOf prog pc + 1) st
        | _ => runSedCommands prog fuel (pc + 1) st
      else
        let continue_ (st : SedRun) := runSedCommands prog fuel (pc + 1) st
        match cmd with
        | .blockStart | .blockEnd | .label _ => continue_ st
        | .print => continue_ st.printSpace
        | .printFirst => continue_ (st.emit (st.ps.takeWhile (· != 0x0A)) true)
        | .delete => (st, .finish false)
        | .deleteFirst =>
          if st.ps.contains 0x0A then
            ({ st with ps := (st.ps.dropWhile (· != 0x0A)).drop 1 }, .again)
          else (st, .finish false)
        | .next =>
          match st.input with
          | [] => (st, .stop 0 true)
          | (l, fed) :: rest =>
            let st := st.printSpace
            continue_ { st with input := rest, ps := l, fed, lineNo := st.lineNo + 1 }
        | .appendNext =>
          match st.input with
          | [] => (st, .stop 0 true)
          | (l, fed) :: rest =>
            continue_ { st with input := rest, ps := st.ps ++ [0x0A] ++ l, fed,
                                lineNo := st.lineNo + 1 }
        | .quit code silent => (st, .stop code !silent)
        | .lineNumber => continue_ (st.emit (decimalBytes st.lineNo) true)
        | .append text => continue_ { st with queued := st.queued ++ text ++ [0x0A] }
        | .insert text => continue_ (st.emit text true)
        | .change text =>
          let inRange := sel.second.isSome && (st.active.lookup pc).isSome
          let st := if inRange || sel.negated then st else st.emit text true
          (st, .finish false)
        | .hold => continue_ { st with hs := st.ps }
        | .holdAppend => continue_ { st with hs := st.hs ++ [0x0A] ++ st.ps }
        | .fetch => continue_ { st with ps := st.hs }
        | .fetchAppend => continue_ { st with ps := st.ps ++ [0x0A] ++ st.hs }
        | .exchange => continue_ { st with ps := st.hs, hs := st.ps }
        | .zap => continue_ { st with ps := [] }
        | .translit pairs =>
          continue_ { st with ps := st.ps.map fun b => ((pairs.find? (·.1 == b)).map Prod.snd).getD b }
        | .list width => continue_ (st.emit (listing (width.getD 70) st.ps ++ [0x24]) true)
        | .writeTo name => continue_ (st.writeSpace name)
        | .jump kind label =>
          let go_ := match kind with
            | .always => true
            | .ifReplaced => st.replaced
            | .unlessReplaced => !st.replaced
          let st := if kind = .always then st else { st with replaced := false }
          if go_ then runSedCommands prog fuel (labelIndex prog label) st else continue_ st
        | .subst r fold pieces global nth print write =>
          let (rx, st) := st.useRegex r fold
          match rx with
          | none => continue_ st
          | some (rx, f) =>
            match replaceMatches rx f pieces global nth st.ps with
            | none => continue_ st
            | some ps =>
              let st := { st with ps, replaced := true }
              let st := if print then st.printSpace else st
              let st := match write with
                | some name => st.writeSpace name
                | none => st
              continue_ st

/-- Run cycles until the input ends or the script stops: the state and the exit status. -/
def sedCycles (prog : Array (Selector × SedCmd)) (quiet : Bool) : Nat → Bool → SedRun → SedRun × Nat
  | 0, _, st => (st, 0)
  | fuel + 1, reread, st =>
    let start : Option SedRun :=
      if reread then some st
      else match st.input with
        | [] => none
        | (l, fed) :: rest =>
          some { st with input := rest, ps := l, fed, lineNo := st.lineNo + 1, replaced := false }
    match start with
    | none => (st, 0)
    | some st =>
      let (st, outcome) := runSedCommands prog (prog.size * (st.ps.length + 2) + 1000) 0 st
      let flush (st : SedRun) : SedRun :=
        if st.queued.isEmpty then st else { (st.emit st.queued false) with queued := [], owed := false }
      match outcome with
      | .finish autoprint =>
        let st := if autoprint && !quiet then st.printSpace else st
        sedCycles prog quiet fuel false (flush st)
      | .again => sedCycles prog quiet fuel true (flush st)
      | .stop code autoprint =>
        let st := if autoprint && !quiet then st.printSpace else st
        (flush st, code)

/-- Split input into lines, each with whether a line feed ended it. -/
def inputLinesOf (data : Bytes) : List (Bytes × Bool) :=
  let ls := splitLines data
  let n := ls.length
  ls.zipIdx.map fun (l, i) => (l, i + 1 < n || !lacksFinalNewline data)

/-- The options of `sed`. -/
structure SedOptions where
  /-- `-n`. -/
  quiet : Bool := false
  /-- `-E`, `-r`. -/
  extended : Bool := false
  /-- `-i`. -/
  inPlace : Bool := false
  /-- `-s`. -/
  separate : Bool := false
  /-- `--posix`. -/
  posix : Bool := false
  /-- Script pieces from `-e`. -/
  scripts : List Bytes := []
  /-- Operands. -/
  operands : List Bytes := []
  /-- An unknown option. -/
  bad : Option String := none

/-- Read the arguments of `sed`. -/
def sedOptions : Nat → List Bytes → SedOptions → SedOptions
  | 0, _, o => o
  | _, [], o => o
  | fuel + 1, a :: rest, o =>
    let s := textOf a
    if s = "--" then { o with operands := o.operands ++ rest }
    else if s = "-n" || s = "--quiet" || s = "--silent" then sedOptions fuel rest { o with quiet := true }
    else if s = "-E" || s = "-r" || s = "--regexp-extended" then sedOptions fuel rest { o with extended := true }
    else if s = "-s" || s = "--separate" then sedOptions fuel rest { o with separate := true }
    else if s = "-i" || s = "--in-place" then sedOptions fuel rest { o with inPlace := true }
    else if s = "--posix" then sedOptions fuel rest { o with posix := true }
    else if s = "-e" then
      match rest with
      | v :: r => sedOptions fuel r { o with scripts := o.scripts ++ [v] }
      | [] => { o with bad := some "option requires an argument -- 'e'" }
    else if s.startsWith "--expression=" then
      sedOptions fuel rest { o with scripts := o.scripts ++ [a.drop 13] }
    else if s.startsWith "-" && s.length > 1 && !s.startsWith "--" then
      match a.drop 1 with
      | c :: more =>
        if c = 0x65 then
          if more.isEmpty then sedOptions fuel (bytesOf "-e" :: rest) o
          else sedOptions fuel rest { o with scripts := o.scripts ++ [more] }
        else if c = 0x69 then sedOptions fuel rest { o with inPlace := true }
        else if [0x6E, 0x45, 0x72, 0x73, 0x75, 0x7A].contains c then
          let o := if c = 0x6E then { o with quiet := true }
            else if c = 0x45 || c = 0x72 then { o with extended := true }
            else if c = 0x73 then { o with separate := true }
            else o
          if more.isEmpty then sedOptions fuel rest o
          else sedOptions fuel ((0x2D :: more) :: rest) o
        else { o with bad := some s!"invalid option -- '{textOf [c]}'" }
      | [] => sedOptions fuel rest { o with operands := o.operands ++ [a] }
    else if s.startsWith "--" then { o with bad := some s!"unrecognized option '{s}'" }
    else sedOptions fuel rest { o with operands := o.operands ++ [a] }

/-- `sed`. -/
def sedTool (files : List (String × Bytes)) (stdin : Bytes) (args : List Bytes) : ToolRun :=
  let o := sedOptions (args.length * 4 + 4) args {}
  match o.bad with
  | some msg => usageFailure "sed" msg
  | none =>
    let (script, names) : Option Bytes × List Bytes :=
      if o.scripts.isEmpty then
        match o.operands with
        | s :: rest => (some s, rest)
        | [] => (none, [])
      else (some (o.scripts.intersperse [0x0A]).flatten, o.operands)
    match script with
    | none => ToolRun.failure "Usage: sed [OPTION]... {script-only-if-no-other-script} [input-file]..."
    | some script =>
      match parseSedScript script o.extended o.posix with
      | .error e => ToolRun.failure s!"sed: {e}"
      | .ok prog =>
        let names := if names.isEmpty then [bytesOf "-"] else names
        let inputs := names.map fun n => (n, readInput files stdin (textOf n))
        let missing := inputs.filter fun i => i.2.isNone
        let errs := (missing.map fun (n, _) =>
          rawOf s!"sed: can't read {textOf n}: No such file or directory\n").flatten
        let status := if missing.isEmpty then 0 else 2
        let run (data : Bytes) : SedRun × Nat :=
          let lines := inputLinesOf data
          let fromZero := (List.range prog.size).filter fun i =>
            match prog[i]? with
            | some (sel, _) =>
              match sel.first with
              | some (.line 0) => true
              | _ => false
            | none => false
          sedCycles prog o.quiet (lines.length + 2) false
            { input := lines, active := fromZero.map fun i => (i, none) }
        let readStdin := fromStdin names
        if o.inPlace then
          let results := inputs.filterMap fun (n, d) => d.map fun d => (textOf n, (run d).1)
          { err := errs, status, writes := results.map fun (n, st) => (n, st.out), readStdin }
        else
          let data := (inputs.filterMap Prod.snd).flatten
          let (st, code) := run data
          { out := st.out, err := errs, status := if code ≠ 0 then code else status,
            writes := st.writes, readStdin, stoppedEarly := !st.input.isEmpty }

end Chatbot.Shell
