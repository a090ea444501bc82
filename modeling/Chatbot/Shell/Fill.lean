import Chatbot.Shell.Files

/-!
# Filling paragraphs

`fmt` joins the lines of each paragraph and breaks them again so that every line is shorter
than the width (75 by default, `-w`) and as near as can be to a goal width (`-g`, by default
93% of the width). A paragraph is a run of lines that are not blank, begin with the same
prefix (`-p`) and are indented alike; a blank line, or one without the prefix, is written as
it came.

The breaks are chosen for the whole paragraph at once, by dynamic programming from its last
word back: a line costs the square of how far it falls short of the goal, and half the square of
how much its length differs from the next line's; each line costs a constant more, so that fewer
lines are better. A break after the end of a sentence is cheaper, one after a period that ends
no sentence dearer, and breaks that leave one word of a sentence alone on a line are dearer.
The last line costs nothing. Costs are counted in tenths of a column, squared.

A word ends a sentence when it ends with `.`, `?` or `!` (closing brackets and quotes
after it aside) and is followed by the end of its line or by two blanks; the last word of a
paragraph always does. Such a word is followed by two spaces when the line goes on after it,
any other word by the blanks that followed it (`-u`: by one space).
-/

namespace Chatbot.Shell

/-- What `fmt` was asked. -/
structure FillJob where
  /-- The width every line stays below. -/
  width : Nat := 75
  /-- The width lines are made as near as can be to. -/
  goal : Nat := 69
  /-- `-s`: split long lines but join none. -/
  split : Bool := false
  /-- `-u`: one space between words, two after a sentence. -/
  uniform : Bool := false
  /-- `-c`: the first two lines of a paragraph keep their indentation. -/
  crown : Bool := false
  /-- `-t`: the first line of a paragraph is indented differently from the others. -/
  tagged : Bool := false
  /-- The spaces that begin the prefix of `-p`. -/
  lead : Nat := 0
  /-- The prefix of `-p`, without the spaces around it. -/
  marker : Bytes := []
  /-- The length of the prefix of `-p` with the spaces after it. -/
  markerFull : Nat := 0
  deriving DecidableEq, Repr

/-- A word of a paragraph, with what its neighbourhood says of it. -/
structure FillWord where
  /-- Its bytes. -/
  text : Bytes
  /-- The columns of blank after it. -/
  space : Nat
  /-- Whether it begins with an opening bracket or quote. -/
  paren : Bool
  /-- Whether it ends with `.`, `?` or `!`, before closing brackets and quotes. -/
  period : Bool
  /-- Whether it ends with punctuation. -/
  punct : Bool
  /-- Whether it ends a sentence. -/
  final : Bool
  deriving DecidableEq, Repr

/-- A line as read up to its first word: where its prefix began, the column reached, the
rest of the line, and whether the input ends after it rather than a line feed. -/
structure LineHead where
  /-- The column where the prefix began. -/
  indent : Nat
  /-- The column reached after the prefix and the blanks after it. -/
  column : Nat
  /-- The rest of the line. -/
  rest : Bytes
  /-- Whether the input ends after the line instead of a line feed. -/
  last : Bool
  /-- Whether a tab was among the blanks read. -/
  tabs : Bool
  deriving DecidableEq, Repr

/-- Whether a byte is punctuation in the C locale. -/
def isCPunct (c : UInt8) : Bool :=
  (0x21 ≤ c && c ≤ 0x2F) || (0x3A ≤ c && c ≤ 0x40) || (0x5B ≤ c && c ≤ 0x60) ||
    (0x7B ≤ c && c ≤ 0x7E)

/-- Skip spaces and tabs, counting columns (a tab to the next multiple of eight): the column
reached, the rest, and whether a tab was seen. -/
def skipFillBlanks : Bytes → Nat → Bool → Nat × Bytes × Bool
  | 0x20 :: r, col, t => skipFillBlanks r (col + 1) t
  | 0x09 :: r, col, _ => skipFillBlanks r ((col / 8 + 1) * 8) true
  | r, col, t => (col, r, t)

/-- Read the prefix `-p` asks for: as far as it matches, each byte a column. -/
def matchMarker : Bytes → Bytes → Nat → Option (Bytes × Nat) × Nat × Bytes
  | [], r, col => (some (r, col), col, r)
  | p :: ps, c :: r, col => if p = c then matchMarker ps r (col + 1) else (none, col, c :: r)
  | _ :: _, [], col => (none, col, [])

/-- Read a line up to its first word. -/
def readHead (j : FillJob) (line : Bytes) (last : Bool) : LineHead :=
  let (col, rest, tabs) := skipFillBlanks line 0 false
  if j.marker.isEmpty then
    { indent := min j.lead col, column := col, rest, last, tabs }
  else
    match matchMarker j.marker rest col with
    | (some (r, c), _, _) =>
      let (col', rest', tabs') := skipFillBlanks r c tabs
      { indent := col, column := col', rest := rest', last, tabs := tabs' }
    | (none, c, r) => { indent := col, column := c, rest := r, last, tabs }

/-- Whether a line holds no word: it ends where its first word would begin. -/
def LineHead.isEmpty (h : LineHead) : Bool := h.rest.isEmpty

/-- Whether a line can be part of a paragraph: it has a word and the whole prefix. -/
def LineHead.opens (j : FillJob) (h : LineHead) : Bool :=
  !h.isEmpty && h.indent ≥ j.lead && h.column ≥ h.indent + j.markerFull

/-- Whether a line goes on the paragraph whose prefix began at column `indent`. -/
def LineHead.continues (j : FillJob) (indent : Nat) (h : LineHead) : Bool :=
  h.indent = indent && h.column ≥ h.indent + j.markerFull && !h.isEmpty

/-- The word properties that come from its own bytes: an opening bracket or quote first, a
period before closing brackets and quotes, punctuation last. The NUL byte counts as all of
them. -/
def wordShape (text : Bytes) : Bool × Bool × Bool :=
  let first := text.headD 0
  let isOpen (c : UInt8) : Bool := c = 0 || c = 0x28 || c = 0x5B || c = 0x27 || c = 0x60 || c = 0x22
  let isClose (c : UInt8) : Bool := c = 0 || c = 0x29 || c = 0x5D || c = 0x27 || c = 0x22
  let isPeriod (c : UInt8) : Bool := c = 0 || c = 0x2E || c = 0x3F || c = 0x21
  let inner := (text.drop 1).reverse.dropWhile isClose
  let finish := inner.headD first
  (isOpen first, isPeriod finish, isCPunct (text.getLastD 0))

/-- The words of the rest of a line, from column `col`: each word runs to white space, and is
followed by the blanks after it. The words, the column reached and whether a tab was seen. -/
def lineWords (uniform : Bool) (last : Bool) : Nat → Bytes → Nat → Bool →
    List FillWord × Bool
  | 0, _, _, tabs => ([], tabs)
  | _, [], _, tabs => ([], tabs)
  | fuel + 1, c :: more, col, tabs =>
    let body := more.takeWhile (!isCSpace ·)
    let text := c :: body
    let after := more.drop body.length
    let start := col + text.length
    let (col', rest, tabs) := skipFillBlanks after start tabs
    let (paren, period, punct) := wordShape text
    let atEnd := rest.isEmpty
    let space := col' - start
    let final := (atEnd && last) || (period && (atEnd || space > 1))
    let space := if atEnd || uniform then (if final then 2 else 1) else space
    let w : FillWord := { text, space, paren, period, punct, final }
    let (ws, tabs) := lineWords uniform last fuel rest col' tabs
    (w :: ws, tabs)

/-- The square of a number. -/
def costSquare (n : Int) : Int := n * n

/-- The cost of a line that falls `n` columns short of the goal. -/
def shortCost (n : Int) : Int := costSquare (n * 10)

/-- The cost of a line whose length differs by `n` from the next line's. -/
def raggedCost (n : Int) : Int := shortCost n / 2

/-- The cost of a line beginning at word `i`, whatever its length: a constant, less after the
end of a sentence, a comma or similar and before an opening bracket, more after a period that
ends no sentence and when one word of a sentence is left alone. -/
def baseCost (ws : Array FillWord) (i : Nat) : Int :=
  let w := ws[i]?.getD { text := [], space := 0, paren := false, period := false,
                         punct := false, final := false }
  let before := if i = 0 then 0
    else
      let p := ws[i - 1]?.getD w
      if p.period then (if p.final then -costSquare 50 else costSquare 600)
      else if p.punct then -costSquare 40
      else if i > 1 && (ws[i - 2]?.map (·.final)).getD false then
        costSquare 200 / ((p.text.length : Int) + 2)
      else 0
  let here := if w.paren then -costSquare 40
    else if w.final then costSquare 150 / ((w.text.length : Int) + 2) else 0
  costSquare 70 + before + here

/-- The best breaks found so far: for each word from some on, the cost of the best filling
from it, the word its first line breaks before and that line's length. -/
structure FillPlan where
  /-- The cost of the best filling from each word; the entry past the last is zero. -/
  cost : Array Int
  /-- The word the first line of that filling breaks before. -/
  next : Array Nat
  /-- The length of that line. -/
  length : Array Nat
  deriving Repr

/-- A cost above every real one. -/
def fillMaxCost : Int := (Nat.pow 2 62 : Int)

/-- The best break for a line from word `start`, having looked at breaks before words up to
`w`, with the line up to `w` of length `len`: the cost, the break and the line's length. -/
def bestBreak (j : FillJob) (ws : Array FillWord) (plan : FillPlan) (start : Nat) :
    Nat → Nat → Nat → Int × Nat × Nat → Int × Nat × Nat
  | 0, _, _, acc => acc
  | fuel + 1, w, len, acc =>
    let n := ws.size
    let lineCost : Int :=
      if w = n then 0
      else
        let short := shortCost ((j.goal : Int) - len)
        if plan.next.getD w n ≠ n then
          short + raggedCost ((len : Int) - plan.length.getD w 0)
        else short
    let wcost := lineCost + plan.cost.getD w 0
    let acc := if wcost < acc.1 then (wcost, w, len) else acc
    if w = n then acc
    else
      let len := len + (ws[w - 1]?.map (·.space)).getD 0 + (ws[w]?.map (·.text.length)).getD 0
      if len < j.width then bestBreak j ws plan start fuel (w + 1) len acc else acc

/-- Plan the breaks from word `k - 1` down to the first. -/
def planBreaks (j : FillJob) (ws : Array FillWord) (first other : Nat) : Nat → FillPlan → FillPlan
  | 0, plan => plan
  | k + 1, plan =>
    let len := (if k = 0 then first else other) + (ws[k]?.map (·.text.length)).getD 0
    let (best, brk, lineLen) := bestBreak j ws plan k (ws.size + 1) (k + 1) len (fillMaxCost, k + 1, len)
    let plan := { cost := plan.cost.set! k (best + baseCost ws k),
                  next := plan.next.set! k brk, length := plan.length.set! k lineLen }
    planBreaks j ws first other k plan

/-- The lines of a paragraph, as the words each begins and ends before. -/
def paragraphLines (j : FillJob) (ws : Array FillWord) (first other : Nat) : List (Nat × Nat) :=
  let n := ws.size
  let plan := planBreaks j ws first other n
    { cost := Array.replicate (n + 1) 0, next := Array.replicate (n + 1) n,
      length := Array.replicate (n + 1) 0 }
  let rec walk : Nat → Nat → List (Nat × Nat)
    | 0, _ => []
    | fuel + 1, i => if i ≥ n then [] else
      let e := max (plan.next.getD i n) (i + 1)
      (i, e) :: walk fuel e
  walk n 0

/-- Blanks from column `out` to `out + space`: tabs first when tabs were seen in the input
and a tab stop lies beyond the next column, then spaces. The bytes and the column reached. -/
def fillSpace (tabs : Bool) (out : Nat) (space : Int) : Bytes × Nat :=
  let target := out + space
  if target ≤ out then ([], out)
  else
    let target := target.toNat
    let tabTarget := target / 8 * 8
    let (tabBytes, out) :=
      if tabs && out + 1 < tabTarget then
        let count := (tabTarget - out + 7) / 8
        (List.replicate count 0x09, tabTarget)
      else ([], out)
    (tabBytes ++ List.replicate (target - out) 0x20, max out target)

/-- A line of a paragraph: the prefix indented as it was, the indentation, the words with the
blanks after each but the last. -/
def fillLine (j : FillJob) (tabs : Bool) (indent lineIndent : Nat) (ws : List FillWord) : Bytes :=
  let (lead, out) := fillSpace tabs 0 indent
  let out := out + j.marker.length
  let (pad, out) := fillSpace tabs out ((lineIndent : Int) - out)
  let rec words : Nat → List FillWord → Bytes
    | _, [] => []
    | _, [w] => w.text
    | out, w :: rest =>
      let out := out + w.text.length
      let (gap, out) := fillSpace tabs out w.space
      w.text ++ gap ++ words out rest
  lead ++ j.marker ++ pad ++ words out ws ++ [0x0A]

/-- A line that is no part of a paragraph, as it is written: its prefix and blanks as far as
they went, then the rest of it. -/
def copyLine (j : FillJob) (tabs : Bool) (h : LineHead) : Bytes :=
  let atEnd := h.rest.isEmpty && h.last
  let head :=
    if h.column > h.indent || !h.rest.isEmpty then
      let (lead, out) := fillSpace tabs 0 h.indent
      let shown := j.marker.take (h.column - out)
      let out := out + shown.length
      let (pad, _) := if !h.rest.isEmpty then fillSpace tabs out ((h.column : Int) - out)
        else ([], out)
      let nl := if atEnd && h.column ≥ h.indent + j.marker.length then [(0x0A : UInt8)] else []
      lead ++ shown ++ pad ++ nl
    else []
  head ++ h.rest

/-- What is carried from paragraph to paragraph: whether tabs were seen, and the indentation
of the lines after the first. -/
structure FillState where
  /-- Whether a tab was among the blanks read so far. -/
  tabs : Bool := false
  /-- The indentation of the lines after a paragraph's first. -/
  other : Nat := 0
  deriving DecidableEq, Repr

/-- The indentation of the lines after a paragraph's first, given whether the next line goes on
the paragraph and its column. -/
def otherIndent (j : FillJob) (st : FillState) (first : Nat) (same : Bool) (next : Nat) : Nat :=
  if j.split then first
  else if j.crown then (if same then next else first)
  else if j.tagged then
    if same && next ≠ first then next
    else if st.other = first then (if first = 0 then 3 else 0)
    else st.other
  else first

/-- Read the lines of a paragraph after its first: while each goes on it and is indented as
`other`; the words, the first line after it, and whether a tab was seen. -/
def paragraphRest (j : FillJob) (indent other : Nat) :
    Nat → LineHead → List LineHead → Bool → List FillWord × LineHead × List LineHead × Bool
  | 0, h, rest, tabs => ([], h, rest, tabs)
  | fuel + 1, h, rest, tabs =>
    if h.continues j indent && h.column = other then
      let (ws, tabs) := lineWords j.uniform h.last (h.rest.length + 1) h.rest h.column tabs
      match rest with
      | next :: rest' =>
        let (more, h', rest'', tabs) := paragraphRest j indent other fuel next rest' (tabs || next.tabs)
        (ws ++ more, h', rest'', tabs)
      | [] => (ws, h, [], tabs)
    else ([], h, rest, tabs)

/-- Fill the lines from `h` on; `h` has been read. -/
def fillFrom (j : FillJob) : Nat → FillState → LineHead → List LineHead → Bytes
  | 0, _, _, _ => []
  | fuel + 1, st, h, rest =>
    if !h.opens j then
      let out := copyLine j st.tabs h
      if h.last then out
      else
        match rest with
        | next :: rest' => out ++ [0x0A] ++ fillFrom j fuel { st with tabs := st.tabs || next.tabs } next rest'
        | [] => out ++ [0x0A]
    else
      let first := h.column
      let (ws, tabs) := lineWords j.uniform h.last (h.rest.length + 1) h.rest h.column st.tabs
      match rest with
      | [] => []
      | next :: rest' =>
        let tabs := tabs || next.tabs
        let same := next.continues j h.indent
        let other := otherIndent j st first same next.column
        let st := { st with tabs, other }
        let readMore :=
          if j.split then false
          else if j.crown then same
          else if j.tagged then same && next.column ≠ first
          else true
        let (more, after, rest'', tabs) :=
          if !readMore then ([], next, rest', st.tabs)
          else if j.crown || j.tagged then
            -- the second line is read whatever its indentation
            let (ws2, tabs) := lineWords j.uniform next.last (next.rest.length + 1) next.rest next.column st.tabs
            match rest' with
            | n2 :: rest2 =>
              let (more, after, rest'', tabs) :=
                paragraphRest j h.indent other (rest2.length + 1) n2 rest2 (tabs || n2.tabs)
              (ws2 ++ more, after, rest'', tabs)
            | [] => (ws2, next, [], tabs)
          else paragraphRest j h.indent other (rest'.length + 1) next rest' st.tabs
        let st := { st with tabs }
        let all := ws ++ more
        let all := match all.getLast? with
          | some w => all.dropLast ++ [{ w with period := true, final := true }]
          | none => all
        let arr := all.toArray
        let lines := paragraphLines j arr first other
        let text := lines.flatMap fun (a, b) =>
          fillLine j st.tabs h.indent (if a = 0 then first else other) ((all.drop a).take (b - a))
        text ++ fillFrom j fuel st after rest''

/-- The lines of an input as read up to their first words; the last is ended by the end of the
input, followed by an empty one when it has bytes. -/
def fillHeads (j : FillJob) (data : Bytes) : List LineHead :=
  let parts := data.splitOn 0x0A
  let n := parts.length
  let heads := parts.zipIdx.map fun (p, i) => readHead j p (i + 1 = n)
  if (parts.getLastD []).isEmpty then heads else heads ++ [readHead j [] true]

/-- `fmt` of one input. -/
def fillText (j : FillJob) (data : Bytes) : Bytes :=
  match fillHeads j data with
  | [] => []
  | h :: rest => fillFrom j (rest.length + 2) { tabs := h.tabs } h rest

/-- Read the options of `fmt`: the job and the files, or the message of a bad option and
whether the hint about `--help` follows it. -/
def readFillArgs (args : List Bytes) : Except (String × Bool) (FillJob × List Bytes) :=
  let (oldWidth, args) : Option Bytes × List Bytes := match args with
    | (0x2D :: d :: ds) :: rest => if 0x30 ≤ d && d ≤ 0x39 then (some (d :: ds), rest) else (none, args)
    | _ => (none, args)
  let letters : List (UInt8 × Bool) :=
    [(0x63, false), (0x73, false), (0x74, false), (0x75, false), (0x77, true), (0x70, true),
     (0x67, true)] ++ ((List.range 10).map fun d => ((0x30 + d.toUInt8), false))
  let longs : List (String × Bool) :=
    [("crown-margin", false), ("prefix", true), ("split-only", false),
     ("tagged-paragraph", false), ("uniform-spacing", false), ("width", true), ("goal", true)]
  match readToolOptions letters longs (args.length + 1) args [] [] with
  | .error e => .error (e, true)
  | .ok (opts, names) =>
    let digit := opts.find? fun o => match o with
      | .short c _ => 0x30 ≤ c && c ≤ 0x39
      | _ => false
    match digit with
    | some (.short c _) =>
      .error (s!"invalid option -- {textOf [c]}; -WIDTH is recognized only when it is the first\noption; use -w N instead", true)
    | _ =>
      let base : FillJob × Option Bytes × Option Bytes := ({}, oldWidth, none)
      let (job, width, goal) := opts.foldl (fun (acc : FillJob × Option Bytes × Option Bytes) o =>
        let (j, w, g) := acc
        match o with
        | .short 0x63 _ | .long "crown-margin" _ => ({ j with crown := true }, w, g)
        | .short 0x73 _ | .long "split-only" _ => ({ j with split := true }, w, g)
        | .short 0x74 _ | .long "tagged-paragraph" _ => ({ j with tagged := true }, w, g)
        | .short 0x75 _ | .long "uniform-spacing" _ => ({ j with uniform := true }, w, g)
        | .short 0x77 v | .long "width" v => (j, v, g)
        | .short 0x67 v | .long "goal" v => (j, w, v)
        | .short 0x70 (some p) | .long "prefix" (some p) =>
          let lead := (p.takeWhile (· = 0x20)).length
          let body := p.drop lead
          let trimmed := (body.reverse.dropWhile (· = 0x20)).reverse
          ({ j with lead, marker := trimmed, markerFull := body.length }, w, g)
        | _ => (j, w, g)) base
      let widthValue : Except String Nat := match width with
        | some v => (rangedDecimal "invalid width" 0 2500 false v).map Int.toNat
        | none => .ok 75
      match widthValue with
      | .error e => .error (e, false)
      | .ok w =>
        match goal with
        | some g =>
          match rangedDecimal "invalid width" 0 w false g with
          | .error e => .error (e, false)
          | .ok g =>
            let g := g.toNat
            .ok ({ job with goal := g, width := if width.isSome then w else g + 10 }, names)
        | none => .ok ({ job with width := w, goal := w * 187 / 200 }, names)

/-- `fmt`: fill the paragraphs of each input. -/
def fmtTool (files : List (String × Bytes)) (stdin : Bytes) (args : List Bytes) : ToolRun :=
  match readFillArgs args with
  | .error (e, hint) => if hint then usageFailure "fmt" e else ToolRun.failure s!"fmt: {e}"
  | .ok (j, names) =>
    let names := if names.isEmpty then [bytesOf "-"] else names
    names.foldl (fun (r : ToolRun) n =>
      match readInput files stdin (textOf n) with
      | some d => { r with out := r.out ++ fillText j d }
      | none =>
        { r with err := r.err ++ rawOf s!"fmt: cannot open {shellQuoted (textOf n)} for reading: No such file or directory\n",
                 status := 1 })
      { readStdin := fromStdin names, buffered := true }

end Chatbot.Shell
