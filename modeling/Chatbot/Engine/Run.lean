import Chatbot.Engine.Bot
import Chatbot.Builtin.Catalog
import Chatbot.Template.Placeholder
import Chatbot.Template.Reference
import Chatbot.Text.Blank

/-!
# Running command lines

A command line runs in these steps:

1. Its words are taken; a line without words does nothing.
2. The first word must name a command or an alias (else *unknown command*), available on the
   caller's platform (else *unsupported platform*) at a level the caller satisfies (else
   *permission denied*).
3. The command's invocation counter goes up.
4. Unless the command postpones expansion, the line's placeholders and then its references
   are expanded and its words taken again; if none are left, nothing more happens.
5. A built-in operation gets the words. A template is expanded with these words and sent. An
   external line is expanded in safe mode and run, and its output sent.

A reference is evaluated by running its line one level deeper, in the silenced context; an
unknown or ineligible command, or a reference nested deeper than the settings allow, leaves
a notice and the empty text. In safe mode an output that is not safe becomes empty.

When the command has a time limit, its steps after the counter run under a deadline. Only
processes take time: the runner moves the clock, and a process it stops at a deadline makes the
innermost construct whose deadline that is give up, with *took too long*.

Failures of a top-level run become a notice in the caller's context.

The recursion through references is written open: `runWith` takes the run of a line one level
deeper as an argument, and `unroll stop n` stacks `n` levels of the engine above `stop`. A
reference is refused once its context's depth has reached the settings' limit, so a run at
depth `d` needs at most `maxDepth - d + 1` levels, and `run` unrolls that many above a run
that does nothing.
-/

namespace Chatbot.Engine

open Chatbot.Text Chatbot.Template

/-- Running a line one level deeper, given the earliest deadline. -/
abbrev Nested := Option Nat → Context → String → Run (Option String)

/-- Run an external command line with the bot's runner, before `deadline`: the clock moves to
where the runner leaves it, and the line answers its output, fails, or is cut short. -/
def runProcess (line : String) (deadline : Option Nat) : Attempt String := do
  let b ← get
  let (e, t) := b.runner.run line b.clock deadline
  set { b with clock := t }
  match e with
  | .output out => pure out
  | .failure reason => throw (.process reason)
  | .cut d => throwThe Cut ⟨d⟩

/-- Evaluate a reference's line: its output one level deeper, or the empty text. -/
def evaluate (nested : Nested) (deadline : Option Nat) (safe : Bool) (ctx : Context)
    (line : String) : Run String := do
  match words line with
  | [] => pure ""
  | name :: _ =>
    let b ← get
    match b.registry.get? name with
    | none =>
      notify ctx (CommandError.unknownCommand name).message
      pure ""
    | some c =>
      if !c.subcommand then
        notify ctx (CommandError.notSubcommand c.name).message
        pure ""
      else if b.settings.maxDepth ≤ ctx.depth then
        notify ctx (CommandError.depthExceeded b.settings.maxDepth).message
        pure ""
      else
        let v := (← nested deadline ctx.silenced line).getD ""
        if safe && !v.isEmpty && !isSafe v then pure "" else pure v

/-- Expand a text's placeholders, then its references. -/
def expandText (nested : Nested) (deadline : Option Nat) (safe : Bool) (ctx : Context)
    (tokens : List String) (text : String) : Run String :=
  expandRefs (evaluate nested deadline safe ctx) (expand text tokens ctx safe)

/-- Step 5: with no words left nothing happens; else dispatch on the body. -/
def dispatch (nested : Nested) (deadline : Option Nat) (c : Command) (tokens : List String)
    (ctx : Context) : Attempt (Option String) := do
  if tokens.isEmpty then return none
  match c.body with
  | .builtin b => b.call tokens ctx
  | .template t =>
    let text ← expandText nested deadline false ctx tokens t
    reply ctx text
    pure (some text)
  | .external l =>
    let l ← expandText nested deadline true ctx tokens l
    let out ← runProcess l deadline
    reply ctx out
    pure (some out)

/-- Steps 4 and 5: expand the line unless postponed, then dispatch on the body. -/
def execute (nested : Nested) (deadline : Option Nat) (c : Command) (line : String)
    (tokens : List String) (ctx : Context) : Attempt (Option String) := do
  let tokens ←
    if c.postponed then pure tokens
    else pure (words (← expandText nested deadline false ctx tokens line))
  dispatch nested deadline c tokens ctx

/-- Run a line, failing with the first error. -/
def tryRunWith (nested : Nested) (deadline : Option Nat) (ctx : Context) (line : String) :
    Attempt (Option String) := do
  let tokens := words line
  match tokens with
  | [] => pure none
  | name :: _ =>
    let b ← get
    match b.registry.get? name with
    | none => throw (.unknownCommand name)
    | some c =>
      if !c.platforms.contains ctx.platform then throw (.unsupportedPlatform c.name)
      if !ctx.level.satisfies c.level then throw (.permissionDenied c.name c.level)
      set { b with registry := (b.registry.recordInvocation c.name).2 }
      match c.timeLimit with
      | none => execute nested deadline c line tokens ctx
      | some secs =>
        let mine := b.clock + secs.toNat * 1000
        let earliest := match deadline with
          | some d => min d mine
          | none => mine
        tryCatchThe Cut (execute nested (some earliest) c line tokens ctx) fun cut =>
          if cut.deadline = mine then throw (.timeout c.name secs) else throwThe Cut cut

/-- Run a line; a failure becomes a notice. -/
def runWith (nested : Nested) (deadline : Option Nat) (ctx : Context) (line : String) :
    Run (Option String) := do
  match ← (tryRunWith nested deadline ctx line).run with
  | .ok r => pure r
  | .error e =>
    notify ctx e.message
    pure none

/-- The engine unrolled `n` levels deep above `stop`, which runs the lines nested deeper. -/
def unroll (stop : Nested) : Nat → Nested
  | 0 => stop
  | n + 1 => fun deadline ctx line => runWith (unroll stop n) deadline ctx line

/-- A run that does nothing; nothing is nested deep enough to reach it. -/
def idle : Nested := fun _ _ _ => pure none

/-- How many more levels a context may nest. -/
def levelsLeft (ctx : Context) : Run Nat := do
  pure ((← get).settings.maxDepth - ctx.depth)

/-- Run a command line, failing with the first error. -/
def tryRun (ctx : Context) (line : String) : Attempt (Option String) := do
  tryRunWith (unroll idle (← levelsLeft ctx)) none ctx line

/-- Run a command line; a failure becomes a notice. -/
def run (ctx : Context) (line : String) : Run (Option String) := do
  unroll idle ((← levelsLeft ctx) + 1) none ctx line

/-- Expand the references of a text in a context. -/
def expandReferences (ctx : Context) (text : String) (safe : Bool) : Run String := do
  expandRefs (evaluate (unroll idle (← levelsLeft ctx)) none safe ctx) text

/-- Handle a message: a line after the command prefix runs; any other text is learned when
learning is on. -/
def handleMessage (ctx : Context) (text : String) : Run (Option String) := do
  let b ← get
  match stripStart? b.settings.commandPrefix.toList text.toList with
  | some rest => run ctx (String.ofList rest)
  | none =>
    if b.settings.learn then
      set { b with chain := (b.chain.learn text).2 }
    pure none

end Chatbot.Engine

namespace Chatbot.Bot

/-- A bot with the given settings and runner and no commands. -/
def bare (s : Settings) (runner : Runner) : Bot :=
  { settings := s, runner,
    chain := { options := { seedAttempts := s.seedAttempts, maxWords := s.maxWords } } }

/-- A bot with the given settings and runner and the built-in commands. -/
def withBuiltins (s : Settings) (runner : Runner) : Bot :=
  let b := bare s runner
  { b with registry := Builtin.install b.registry }

end Chatbot.Bot
