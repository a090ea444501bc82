import Chatbot.Text.Blank
import Chatbot.Text.Classes

/-!
# Environment files

Before it reads its settings, the console program loads a `.env` file into its environment:
every `KEY=value` line whose key is not set yet sets it. Loading stops at the first line it
cannot read; the lines before it stay loaded.

## Lines

A byte order mark at the start of the file is dropped. The file is read in physical lines. A
value may go on over several of them while a quote is open or a backslash waits for its
character; inside single quotes too a backslash keeps the next character from closing them
here, though the value itself takes it as written. A `#` after a blank ends the line there, and a
line whose text starts with `#` is a comment. A line feed ends a logical line, and a carriage
return before it goes with it.

## Entries

A logical line, without the blanks at either end, is blank, a comment, or `KEY=value` with
blanks allowed around the `=`; a key
starts with an ASCII letter or `_` and goes on with ASCII letters, digits, `_` and `.`. A
leading `export` is dropped, unless the key is `export` itself.

In a value:
* `'…'` keeps its text as written;
* `"…"` keeps its text but for expansions and backslash escapes;
* outside quotes a backslash escapes the next character, and a blank ends the value, after
  which only blanks and a `#` comment may follow;
* the escapes are `\\`, `\'`, `\"`, `\$`, `\ ` and `\n` (a line feed); any other is an error;
* `$NAME` (letters and digits) and `${NAME}` expand to the environment's value of the name,
  or else to the value the file gave it earlier, or else to nothing. The character that ends
  a `$NAME` is kept as it is, whatever it is.

A value that leaves a quote or a `${` open is an error.

## What is proved

* `loadEnvFile_keeps` — loading never changes a variable that was already set.
-/

namespace Chatbot.Console

open Chatbot.Text

/-- Where the end of a physical line leaves a logical line. -/
inductive LineEnd where
  /-- The line is complete. -/
  | complete
  /-- After a blank: a `#` here starts a comment. -/
  | blank
  /-- After a backslash. -/
  | escape
  /-- Inside double quotes. -/
  | weakOpen
  /-- After a backslash inside double quotes. -/
  | weakOpenEscape
  /-- Inside single quotes. -/
  | strongOpen
  /-- After a backslash inside single quotes. -/
  | strongOpenEscape
  /-- At a comment. -/
  | comment
  deriving DecidableEq, Repr

/-- How a character moves the reading of a line on, given the state before it. -/
def LineEnd.step (st : LineEnd) (c : Char) : LineEnd :=
  let opening : LineEnd :=
    match c with
    | '\\' => .escape
    | '"' => .weakOpen
    | '\'' => .strongOpen
    | _ => .complete
  match st with
  | .blank => if c = '#' then .comment else opening
  | .escape => .complete
  | .complete => if isBlank c && c != '\n' && c != '\r' then .blank else opening
  | .weakOpen => if c = '\\' then .weakOpenEscape else if c = '"' then .complete else .weakOpen
  | .weakOpenEscape => .weakOpen
  | .strongOpen => if c = '\\' then .strongOpenEscape else if c = '\'' then .complete else .strongOpen
  | .strongOpenEscape => .strongOpen
  | .comment => .comment

/-- Read a physical line from a state: the state at its end and, when it reaches a comment,
how many characters come before the `#`. -/
def scanLine : LineEnd → Nat → List Char → LineEnd × Option Nat
  | st, _, [] => (st, none)
  | st, i, c :: cs =>
    match st.step c with
    | .comment => (.comment, some i)
    | s => scanLine s (i + 1) cs

/-- The physical lines of a text, each with its line feed but perhaps the last. -/
def physicalLines (cs : List Char) : List (List Char) :=
  match (cs.splitOn '\n').reverse with
  | [] => []
  | last :: earlier =>
    let withFeeds := earlier.reverse.map (· ++ ['\n'])
    if last.isEmpty then withFeeds else withFeeds ++ [last]

/-- Remove a line feed at the end, and then a carriage return. -/
def dropLineFeed (cs : List Char) : List Char :=
  match cs.reverse with
  | '\n' :: '\r' :: r => r.reverse
  | '\n' :: r => r.reverse
  | _ => cs

/-- The next logical line and the physical lines after it; `none` at the end, an error when
the text ends inside a value. -/
def nextLogical : List (List Char) → LineEnd → List Char →
    Option (Except Unit (List Char) × List (List Char))
  | [], st, _ => if st = .complete then none else some (.error (), [])
  | p :: ps, st, buf =>
    let whole := buf ++ p
    if (dropBlank whole).head? = some '#' then some (.ok [], ps)
    else
      match scanLine st 0 p with
      | (.complete, _) => some (.ok (dropLineFeed whole), ps)
      | (.comment, some i) => some (.ok (buf ++ p.take i), ps)
      | (s, _) => nextLogical ps s whole

/-- Read a key: the key and what follows it. -/
def readKey (cs : List Char) : Except Unit (String × List Char) :=
  let isAscii (c : Char) : Bool := c.toNat < 128
  match cs with
  | c :: _ =>
    if (isAscii c && c.isAlpha) || c = '_' then
      let key := cs.takeWhile fun d => (isAscii d && d.isAlphanum) || d = '_' || d = '.'
      .ok (String.ofList key, cs.drop key.length)
    else .error ()
  | [] => .error ()

/-- How a value reads `$`: not in an expansion, in a `$NAME`, or in a `${NAME}`. -/
inductive Expansion where
  /-- Not in an expansion. -/
  | off
  /-- In `$NAME`. -/
  | plain
  /-- In `${NAME}`. -/
  | braced
  deriving DecidableEq, Repr

/-- The state of reading a value. -/
structure ValueReader where
  /-- Inside single quotes. -/
  strong : Bool := false
  /-- Inside double quotes. -/
  weak : Bool := false
  /-- After a backslash. -/
  escaped : Bool := false
  /-- After the blank that ends the value. -/
  expectingEnd : Bool := false
  /-- The value so far. -/
  out : List Char := []
  /-- The expansion being read. -/
  mode : Expansion := .off
  /-- The name of the expansion being read. -/
  name : List Char := []

/-- What a name expands to: its value in the environment, else the value the file gave it,
else nothing. -/
def expandName (env : List (String × String)) (given : List (String × Option String))
    (name : List Char) : List Char :=
  let n := String.ofList name
  match env.lookup n with
  | some v => v.toList
  | none =>
    match given.lookup n with
    | some (some v) => v.toList
    | _ => []

section Value

variable (env : List (String × String)) (given : List (String × Option String))

/-- Read a value to its end. -/
def readValue : List Char → ValueReader → Except Unit (List Char)
  | [], r =>
    if r.mode = .braced || r.strong || r.weak then .error ()
    else .ok (r.out ++ expandName env given r.name)
  | c :: cs, r =>
    if r.expectingEnd then
      if c = ' ' || c = '\t' then readValue cs r
      else if c = '#' then .ok r.out
      else .error ()
    else if r.escaped then
      match c with
      | '\\' | '\'' | '"' | '$' | ' ' => readValue cs { r with out := r.out ++ [c], escaped := false }
      | 'n' => readValue cs { r with out := r.out ++ ['\n'], escaped := false }
      | _ => .error ()
    else if r.strong then
      if c = '\'' then readValue cs { r with strong := false }
      else readValue cs { r with out := r.out ++ [c] }
    else if r.mode != .off then
      if isAlphanumeric c then readValue cs { r with name := r.name ++ [c] }
      else if r.mode = .plain then
        if c = '{' && r.name.isEmpty then readValue cs { r with mode := .braced }
        else
          let out := r.out ++ expandName env given r.name
          if c = '$' then readValue cs { r with out, name := [], mode := .plain }
          else readValue cs { r with out := out ++ [c], name := [], mode := .off }
      else if c = '}' then
        readValue cs { r with out := r.out ++ expandName env given r.name, name := [], mode := .off }
      else readValue cs { r with name := r.name ++ [c] }
    else if c = '$' then readValue cs { r with mode := .plain }
    else if r.weak then
      if c = '"' then readValue cs { r with weak := false }
      else if c = '\\' then readValue cs { r with escaped := true }
      else readValue cs { r with out := r.out ++ [c] }
    else if c = '\'' then readValue cs { r with strong := true }
    else if c = '"' then readValue cs { r with weak := true }
    else if c = '\\' then readValue cs { r with escaped := true }
    else if c = ' ' || c = '\t' then readValue cs { r with expectingEnd := true }
    else readValue cs { r with out := r.out ++ [c] }

/-- Read a logical line: nothing for a blank line or a comment, else its key, the value the
file records for it (none when the value is only a comment), and the value to set. -/
def readEntry (line : List Char) : Except Unit (Option (String × Option String × String)) := do
  let line := (dropBlank (dropBlank line).reverse).reverse
  if line.isEmpty || line.head? = some '#' then return none
  let (key, rest) ← readKey line
  let rest := dropBlank rest
  let (key, rest) ← match key, rest with
    | _, '=' :: r => pure (key, r)
    | "export", _ => do
      let (k, r) ← readKey rest
      match dropBlank r with
      | '=' :: r' => pure (k, r')
      | _ => throw ()
    | _, _ => throw ()
  let rest := dropBlank rest
  if rest.isEmpty || rest.head? = some '#' then return some (key, none, "")
  let v := String.ofList (← readValue env given rest {})
  return some (key, some v, v)

end Value

/-- Load the logical lines of the physical lines `ps` into the environment, stopping at the
first line that cannot be read. -/
def loadLines : Nat → List (List Char) → List (String × String) → List (String × Option String) →
    List (String × String)
  | 0, _, env, _ => env
  | fuel + 1, ps, env, given =>
    match nextLogical ps .complete [] with
    | none => env
    | some (.error (), _) => env
    | some (.ok line, rest) =>
      match readEntry env given line with
      | .error () => env
      | .ok none => loadLines fuel rest env given
      | .ok (some (k, stored, v)) =>
        let env' := if env.any (·.1 == k) then env else env ++ [(k, v)]
        loadLines fuel rest env' ((k, stored) :: given)

/-- Load an environment file's text into an environment. -/
def loadEnvFile (env : List (String × String)) (text : String) : List (String × String) :=
  let cs := match text.toList with
    | '\uFEFF' :: rest => rest
    | cs => cs
  let ps := physicalLines cs
  loadLines (ps.length + 1) ps env []

theorem loadLines_keeps (k v : String) :
    ∀ (fuel : Nat) (ps : List (List Char)) (env : List (String × String))
      (given : List (String × Option String)),
      (k, v) ∈ env → (k, v) ∈ loadLines fuel ps env given := by
  intro fuel
  induction fuel with
  | zero => intro ps env given h; simpa [loadLines] using h
  | succ n ih =>
    intro ps env given h
    unfold loadLines
    split
    · exact h
    · exact h
    · split
      · exact h
      · exact ih _ _ _ h
      · apply ih
        split
        · exact h
        · exact List.mem_append_left _ h

theorem loadEnvFile_keeps (env : List (String × String)) (text : String) (k v : String)
    (h : (k, v) ∈ env) : (k, v) ∈ loadEnvFile env text :=
  loadLines_keeps k v _ _ _ _ h

end Chatbot.Console
