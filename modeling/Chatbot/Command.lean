import Chatbot.Access

/-!
# Commands

A command has a name, the level it requires, the platforms it is available on, and a *body*:
one of the built-in operations, a message template, or an external command line. It may be
usable inside references (a *subcommand*), may ask that its line not be expanded before it
runs (*postponed* expansion), may carry a time limit in seconds, counts its invocations, and
has a description and an optional module name.

Counters and time limits are 64-bit words: an invocation counter at its largest value goes
back to zero.
-/

namespace Chatbot

/-- The built-in operations. -/
inductive Builtin where
  /-- Generate a sentence from the word model. -/
  | generate
  /-- List learned words matching a pattern. -/
  | findWords
  /-- Forget words matching a pattern, then collect unreachable ones. -/
  | deleteWords
  /-- Remove words that can no longer be generated. -/
  | collect
  /-- Verify and repair the word model. -/
  | check
  /-- Show the size of the word model. -/
  | stats
  /-- Add a template command. -/
  | addTemplate
  /-- Add an external command. -/
  | addExternal
  /-- Replace a command's body. -/
  | update
  /-- Delete a command. -/
  | delete
  /-- Add an alias. -/
  | alias
  /-- Set the required level. -/
  | setLevel
  /-- Set the time limit. -/
  | setTimeLimit
  /-- Enable a command on a platform. -/
  | enable
  /-- Disable a command on a platform. -/
  | disable
  /-- Allow or forbid use as a subcommand. -/
  | setSubcommand
  /-- List commands or describe one. -/
  | help
  /-- Reply with the words after the command's name. -/
  | recite
  deriving DecidableEq, Repr

/-- What a command does when it runs. -/
inductive Body where
  /-- A built-in operation. -/
  | builtin (b : Builtin)
  /-- A message template, expanded and sent. -/
  | template (text : String)
  /-- A command line run as an external process, whose output is sent. -/
  | external (line : String)
  deriving DecidableEq, Repr

/-- The three kinds of bodies. -/
inductive Kind where
  /-- Built in. -/
  | native
  /-- A template. -/
  | template
  /-- An external command line. -/
  | external
  deriving DecidableEq, Repr

namespace Kind

/-- The lower-case name of a kind. -/
def name : Kind → String
  | .native => "native"
  | .template => "template"
  | .external => "external"

end Kind

namespace Body

/-- The kind of a body. -/
def kind : Body → Kind
  | .builtin _ => .native
  | .template _ => .template
  | .external _ => .external

/-- The text of a template or external body. -/
def text? : Body → Option String
  | .builtin _ => none
  | .template t => some t
  | .external l => some l

/-- A body of the same kind with new text; a built-in body has no text to replace. -/
def withText (b : Body) (t : String) : Option Body :=
  match b with
  | .builtin _ => none
  | .template _ => some (.template t)
  | .external _ => some (.external t)

end Body

/-- A command. -/
structure Command where
  /-- The module the command belongs to, if any. -/
  module : Option String := none
  /-- The name it is registered under. -/
  name : String
  /-- The level a caller needs. -/
  level : Level := .user
  /-- What it does. -/
  body : Body
  /-- Where it is available. -/
  platforms : PlatformSet := PlatformSet.full
  /-- Whether references may run it. -/
  subcommand : Bool := false
  /-- Whether its line is passed on unexpanded. -/
  postponed : Bool := false
  /-- Its time limit in seconds, if any. -/
  timeLimit : Option UInt64 := none
  /-- How often it has run. -/
  timesInvoked : UInt64 := 0
  /-- What it is for. -/
  description : String := ""
  deriving DecidableEq, Repr

namespace Command

/-- The kind of the command's body. -/
def kind (c : Command) : Kind := c.body.kind

/-- The time limit as a signed number of seconds, `-1` for none; a limit above the largest
signed value wraps around, as a 64-bit word read as signed does. -/
def timeLimitSecs (c : Command) : Int :=
  match c.timeLimit with
  | some s => s.toInt64.toInt
  | none => -1

/-- Whether the command is one of the built-in operations. -/
def isBuiltin (c : Command) : Bool := c.kind == .native

end Command

end Chatbot
