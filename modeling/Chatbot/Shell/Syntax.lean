/-!
# Shell command lines

External commands are command lines of the POSIX shell language. A line is a list of
*and-or lists* separated by `;`, `&` or line breaks; an and-or list is a chain of pipelines
joined by `&&` and `||`; a pipeline is one or more commands joined by `|`, possibly negated
by `!`. A command is a simple command (assignments, words and redirections), a group
`{ …; }`, a subshell `( … )`, an `if`, a `for`, a `while` or `until` loop, a `case`, or the
definition of a function.

A word is a sequence of parts: literal text, quoted or not, parameter expansions, command
substitutions and arithmetic expansions. Substitutions and the operands of parameter
expansions are kept as the text they were written as, and read again when they are expanded,
the way the shell itself reads them in their own context.

Shell text is bytes: values, outputs and files are byte lists, and a line's characters enter
as their UTF-8 encoding.
-/

namespace Chatbot.Shell

/-- Shell text. -/
abbrev Bytes := List UInt8

/-- The UTF-8 bytes of a string. -/
def bytesOf (s : String) : Bytes := s.toUTF8.toList

/-- The text of bytes, one character per byte (for messages and names). -/
def textOf (bs : Bytes) : String := String.ofList (bs.map fun b => Char.ofNat b.toNat)

/-- The bytes of a text made by `textOf`, one byte per character. -/
def rawOf (s : String) : Bytes := s.toList.map fun c => UInt8.ofNat c.toNat

/-- What a parameter expansion does with the parameter's value. -/
inductive ParamOp where
  /-- `$x` or `${x}`: the value. -/
  | plain
  /-- `${#x}`: the length of the value. -/
  | length
  /-- `${x-w}` (`colon`: `${x:-w}`): the value, or `w` if unset (or empty). -/
  | orDefault (colon : Bool) (word : String)
  /-- `${x=w}`, `${x:=w}`: as `orDefault`, also assigning `w`. -/
  | orAssign (colon : Bool) (word : String)
  /-- `${x+w}`, `${x:+w}`: `w` if set (and not empty), else nothing. -/
  | ifSet (colon : Bool) (word : String)
  /-- `${x?w}`, `${x:?w}`: the value, or an error with message `w` if unset (or empty). -/
  | orFail (colon : Bool) (word : String)
  /-- `${x%w}` (`longest`: `%%`): the value without the shortest (longest) suffix matching
  `w`. -/
  | dropSuffix (longest : Bool) (word : String)
  /-- `${x#w}` (`longest`: `##`): the value without the shortest (longest) prefix matching
  `w`. -/
  | dropPrefix (longest : Bool) (word : String)
  /-- `${…}` written in a way that names no expansion, such as `${x/a/b}`: expanding it fails
  with `Bad substitution`. -/
  | invalid
  deriving DecidableEq, Repr

/-- A part of a word. -/
inductive Part where
  /-- Literal text; `quoted` when it was quoted or escaped. -/
  | text (s : String) (quoted : Bool)
  /-- A parameter expansion of the named parameter. -/
  | param (name : String) (op : ParamOp) (quoted : Bool)
  /-- A command substitution, with the text of its commands. -/
  | subst (script : String) (quoted : Bool)
  /-- An arithmetic expansion, with the text of its expression. -/
  | arith (text : String) (quoted : Bool)
  deriving DecidableEq, Repr

/-- A word. -/
abbrev Word := List Part

/-- A redirection of a file descriptor. -/
inductive Redirect where
  /-- `n>file`, or `n>>file` when `append`. -/
  | write (fd : Nat) (target : Word) (append : Bool)
  /-- `n<file`. -/
  | read (fd : Nat) (target : Word)
  /-- `n>&m` or `n<&m`: `n` becomes a copy of `m` (or is closed by `-`). -/
  | dup (fd : Nat) (target : Word)
  /-- `n<<word`: `n` reads a here-document, whose text expands as `body`. -/
  | here (fd : Nat) (body : Word)
  deriving DecidableEq, Repr

/-- A command. -/
inductive Cmd where
  /-- Nothing. -/
  | skip
  /-- A simple command: assignments, words, redirections, and the line it is written on. -/
  | simple (assigns : List (String × Word)) (words : List Word) (redirects : List Redirect)
      (line : Nat)
  /-- A pipeline; `negated` for `!`. -/
  | pipeline (negated : Bool) (stages : List Cmd)
  /-- `a && b`. -/
  | andThen (a b : Cmd)
  /-- `a || b`. -/
  | orElse (a b : Cmd)
  /-- `a; b`. -/
  | seq (a b : Cmd)
  /-- `a &`: run without waiting. -/
  | background (a : Cmd)
  /-- `{ a; }` with redirections. -/
  | group (body : Cmd) (redirects : List Redirect)
  /-- `( a )` with redirections. -/
  | subshell (body : Cmd) (redirects : List Redirect)
  /-- `if c; then t; else e; fi` with redirections (`elif` is a nested `if`). -/
  | ifThen (cond thenPart elsePart : Cmd) (redirects : List Redirect)
  /-- `for x in words; do body; done`; without `in`, the positional parameters. -/
  | forIn (var : String) (items : Option (List Word)) (body : Cmd) (redirects : List Redirect)
  /-- `while c; do body; done`, or `until` when `negated`. -/
  | loop (negated : Bool) (cond body : Cmd) (redirects : List Redirect)
  /-- `case w in p1|p2) body;; … esac`. -/
  | caseOf (subject : Word) (arms : List (List Word × Cmd)) (redirects : List Redirect)
  /-- `name() body`: define a function, on the line it is written on. -/
  | funcDef (name : String) (body : Cmd) (line : Nat)
  deriving Repr

end Chatbot.Shell
