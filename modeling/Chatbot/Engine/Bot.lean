import Chatbot.Settings
import Chatbot.Context
import Chatbot.Registry
import Chatbot.Words.Chain

/-!
# The bot and its effects

The bot's state is its settings, its registry, its word model, the process runner, the random
source of the `markov` command (a SplitMix64 generator), the messages delivered so far, the
reports of removal observers, and a clock that measures, in milliseconds, how long processes
have run. The runner is any function of a line, the clock and a deadline: the engine is the
same whatever runs its lines, and the stand-ins `Runner.stub` run nothing.

A command runs in `Run`, which may change the state and may be *cut short* at a deadline; on
top of it `Attempt` may fail with a command error. A failure keeps what was done before it, as
a cut does.

A reply is delivered unless the context is silent or the text empty; on a transport that
cannot deliver it fails. A notice is a reply whose failure is ignored.

The last part gives the steps every built-in command is made of: reading a required argument
or the rest of the line, changing the registry, and confirming with a reply.
-/

namespace Chatbot

open Chatbot.Words

/-- Why a command failed. -/
inductive CommandError where
  /-- No command has this name. -/
  | unknownCommand (name : String)
  /-- The caller's level is too low. -/
  | permissionDenied (name : String) (required : Level)
  /-- The command is not available on the caller's platform. -/
  | unsupportedPlatform (name : String)
  /-- The command may not run inside a reference. -/
  | notSubcommand (name : String)
  /-- References nest deeper than allowed. -/
  | depthExceeded (limit : Nat)
  /-- The command ran past its time limit. -/
  | timeout (name : String) (seconds : UInt64)
  /-- The arguments do not fit the command. -/
  | usage (form : String)
  /-- An argument has no acceptable value. -/
  | invalidArgument (text : String)
  /-- An external process failed. -/
  | process (text : String)
  /-- A reply could not be delivered. -/
  | delivery (text : String)
  /-- A registry operation failed. -/
  | registry (e : RegistryError)
  /-- A word-model operation failed. -/
  | words (e : WordsError)
  deriving DecidableEq, Repr

/-- The message of a command error. -/
def CommandError.message : CommandError → String
  | .unknownCommand n => s!"Unknown command: {n}"
  | .permissionDenied n l => s!"You need {l.name} permissions to use `{n}`"
  | .unsupportedPlatform n => s!"Command `{n}` is not available on this platform"
  | .notSubcommand n => s!"Command `{n}` cannot be used as a subcommand"
  | .depthExceeded d => s!"Subcommands nested deeper than {d} levels"
  | .timeout n s => s!"Command `{n}` took too long to execute (limit: {s}s)"
  | .usage u => s!"Usage: {u}"
  | .invalidArgument t => s!"Invalid argument: {t}"
  | .process t => s!"Process failed: {t}"
  | .delivery t => s!"Failed to deliver message: {t}"
  | .registry e => e.message
  | .words e => e.message

/-- How a process run ended: with its output, with a failure, or stopped at a deadline. -/
inductive ProcessEnd where
  /-- The process answered this output. -/
  | output (text : String)
  /-- The process failed, for this reason. -/
  | failure (text : String)
  /-- The process was stopped at this deadline, in milliseconds of the bot's clock. -/
  | cut (deadline : Nat)
  deriving DecidableEq, Repr

/-- How external command lines are run. A runner is given the line, the bot's clock and the
earliest deadline; it says how the run ended and what the clock reads after it. It sees
nothing else of the bot and changes nothing else. -/
structure Runner where
  /-- Run a line from a clock reading, before an optional deadline. -/
  run : String → Nat → Option Nat → ProcessEnd × Nat

/-- A stand-in that runs nothing and takes no time: a line starting with `fail` fails, for the
reason `reason` gives the line, and any other line answers `ran` and the line. -/
def Runner.stub (reason : String → String) : Runner where
  run line now _ :=
    (if line.startsWith "fail" then .failure (reason line) else .output ("ran " ++ line), now)

/-- The stand-in of the scenarios, whose failures give the line itself as the reason. A
stand-in whose failures read `exit status: 1` is `Runner.stub fun _ => "exit status: 1"`. -/
def Runner.recorder : Runner := .stub id

/-- The bot's state. -/
structure Bot where
  /-- The settings. -/
  settings : Settings := {}
  /-- The commands. -/
  registry : Registry := {}
  /-- The word model. -/
  chain : Chain := {}
  /-- How external lines run. -/
  runner : Runner := .recorder
  /-- The random source of the `markov` command. -/
  source : SplitMix := ⟨0⟩
  /-- Messages delivered, oldest first. -/
  outbox : List String := []
  /-- Reports of the removal observers, oldest first. -/
  removals : List String := []
  /-- Milliseconds of process time so far. -/
  clock : Nat := 0

/-- A run cut short at a deadline, in milliseconds of the bot's clock. -/
structure Cut where
  /-- The deadline that passed. -/
  deadline : Nat
  deriving DecidableEq, Repr

/-- A computation on the bot that a deadline may cut short. -/
abbrev Run := ExceptT Cut (StateM Bot)

/-- A computation on the bot that may also fail with a command error. -/
abbrev Attempt := ExceptT CommandError Run

/-- Deliver a reply: nothing when the context is silent or the text empty. -/
def reply (ctx : Context) (text : String) : Attempt Unit := do
  if ctx.silent || text.isEmpty then pure ()
  else if ctx.transport.delivers then
    modify fun b => { b with outbox := b.outbox ++ [text] }
  else throw (.delivery "transport closed")

/-- Deliver a notice, ignoring a failure to deliver it. -/
def notify (ctx : Context) (text : String) : Run Unit := do
  let _ ← (reply ctx text).run
  pure ()

/-- Use a registry result, failing with its error. -/
def liftRegistry {α : Type} (r : Except RegistryError α) : Attempt α :=
  match r with
  | .ok a => pure a
  | .error e => throw (.registry e)

/-- Use a word-model result, failing with its error. -/
def liftWords {α : Type} (r : Except WordsError α) : Attempt α :=
  match r with
  | .ok a => pure a
  | .error e => throw (.words e)

/-- Remove a command; the observers' reports are kept. -/
def removeCommand (name : String) : Attempt Command := do
  let b ← get
  let (c, r) ← liftRegistry (b.registry.remove name)
  set { b with registry := r, removals := b.removals ++ b.registry.removalReports c.name }
  pure c

end Chatbot

/-! ### Arguments of built-in commands

A built-in command receives the words of its line, its own name first. An argument that is
required and missing fails with the command's usage; a required *rest* (the words from a
position on, joined by single spaces) fails the same way when it is empty. -/

namespace Chatbot.Builtin

/-- The argument at position `i`, or the usage error. -/
def required (args : List String) (i : Nat) (usage : String) : Attempt String :=
  match args[i]? with
  | some a => pure a
  | none => throw (.usage usage)

/-- The words from position `i` on, joined by single spaces. -/
def restFrom (args : List String) (i : Nat) : String := " ".intercalate (args.drop i)

/-- The words from position `i` on, or the usage error when there are none. -/
def requiredRest (args : List String) (i : Nat) (usage : String) : Attempt String :=
  let t := restFrom args i
  if t.isEmpty then throw (.usage usage) else pure t

/-- Reply with a text and answer it. -/
def confirm (ctx : Context) (text : String) : Attempt (Option String) := do
  reply ctx text
  pure (some text)

/-- Change the registry with a result that may fail. -/
def updateRegistry (f : Registry → Except RegistryError Registry) : Attempt Unit := do
  let b ← get
  let r ← liftRegistry (f b.registry)
  set { b with registry := r }

end Chatbot.Builtin
