import Chatbot.Text.Blank
import Chatbot.Text.Quoted
import Chatbot.Text.Decimal

/-!
# Settings

The bot's settings: the command prefix, how deeply references may nest, the time limit given to
commands added by users, the process timeout and output cap, and the word model's generation
bounds and whether it learns from ordinary messages.

Settings are read from named variables (`CMDBOT_PREFIX`, `CMDBOT_MAX_DEPTH`, ...). A numeric
variable is trimmed of blanks and read as a decimal; its message on failure quotes the value as
it was given. The variables are read in a fixed order and the first failure is the answer.
A time limit is given in seconds, `-1` standing for none.

## What is proved

* `TimeLimit.parse_eq_ok_iff`: which seconds values are accepted, and as what.
-/

namespace Chatbot

open Chatbot.Text

/-- The bot's settings. -/
structure Settings where
  /-- The text that marks a message as a command line. -/
  commandPrefix : String := "!"
  /-- How many reference levels a command line may nest. -/
  maxDepth : Nat := 16
  /-- The time limit, in seconds, of commands that users add; `none` for no limit. -/
  defaultTimeLimit : Option Nat := none
  /-- Seconds an external process may run. -/
  processTimeout : Nat := 30
  /-- Bytes of process output kept. -/
  maxOutput : Nat := 65536
  /-- Draws spent looking for a requested first word. -/
  seedAttempts : Nat := 100
  /-- The most words of a generated sentence. -/
  maxWords : Nat := 200
  /-- Whether ordinary messages are learned. -/
  learn : Bool := true
  deriving DecidableEq, Repr

instance : Inhabited Settings := ⟨{}⟩

namespace TimeLimit

/-- Read a time limit in seconds: `-1` is no limit, a non-negative value is that limit. -/
def parse (secs : Int) : Except Int (Option Nat) :=
  if secs = -1 then .ok none
  else if 0 ≤ secs then .ok (some secs.toNat)
  else .error secs

/-- The message for a refused time limit. -/
def errorMessage (secs : Int) : String :=
  s!"time limit must be -1 or non-negative, got {secs}"

/-- Which values are accepted, and as what. -/
theorem parse_eq_ok_iff (secs : Int) (r : Option Nat) :
    parse secs = .ok r ↔ (secs = -1 ∧ r = none) ∨ (0 ≤ secs ∧ r = some secs.toNat) := by
  unfold parse
  split
  · rename_i h; subst h; simp [eq_comm]
  · split
    · rename_i h1 h2; simp [h1, h2, eq_comm]
    · rename_i h1 h2; simp [h1, h2]

end TimeLimit

/-- Why settings could not be read. -/
inductive SettingsError where
  /-- A numeric variable holds no number of its range. -/
  | invalidValue (key raw : String) (cause : NumberError)
  /-- The default time limit is below `-1`. -/
  | timeLimit (secs : Int)
  deriving DecidableEq, Repr

/-- The message of a settings error. -/
def SettingsError.message : SettingsError → String
  | .invalidValue key raw cause => s!"{key} has invalid value {quote raw}: {cause.message}"
  | .timeLimit secs => TimeLimit.errorMessage secs

namespace Settings

/-- Read the numeric variable `key`, if set, with `read`, trimmed of blanks. -/
def readVar {α : Type} (env : String → Option String) (key : String)
    (read : String → Except NumberError α) : Except SettingsError (Option α) :=
  match env key with
  | none => .ok none
  | some raw =>
    match read (trimBlank raw) with
    | .ok v => .ok (some v)
    | .error e => .error (.invalidValue key raw e)

/-- Read the default time limit, if set. -/
def readTimeLimit (env : String → Option String) :
    Except SettingsError (Option (Option Nat)) := do
  match ← readVar env "CMDBOT_DEFAULT_TIME_LIMIT" readSignedWord with
  | none => pure none
  | some secs =>
    match TimeLimit.parse secs with
    | .ok l => pure (some l)
    | .error s => throw (.timeLimit s)

/-- Read settings from variables; unset ones keep their defaults. -/
def ofEnv (env : String → Option String) : Except SettingsError Settings := do
  let d : Settings := {}
  let commandPrefix := match env "CMDBOT_PREFIX" with
    | some p => if p.isEmpty then d.commandPrefix else p
    | none => d.commandPrefix
  let maxDepth ← readVar env "CMDBOT_MAX_DEPTH" readWord
  let limit ← readTimeLimit env
  let processTimeout ← readVar env "CMDBOT_PROCESS_TIMEOUT" readWord
  let maxOutput ← readVar env "CMDBOT_PROCESS_MAX_OUTPUT" readWord
  let seedAttempts ← readVar env "CMDBOT_MARKOV_SEED_ATTEMPTS" readWord
  let maxWords ← readVar env "CMDBOT_MARKOV_MAX_WORDS" readWord
  let learn := match env "CMDBOT_LEARN" with
    | some v => v == "true" || v == "1"
    | none => d.learn
  pure {
    commandPrefix
    maxDepth := maxDepth.getD d.maxDepth
    defaultTimeLimit := limit.getD d.defaultTimeLimit
    processTimeout := processTimeout.getD d.processTimeout
    maxOutput := maxOutput.getD d.maxOutput
    seedAttempts := seedAttempts.getD d.seedAttempts
    maxWords := maxWords.getD d.maxWords
    learn }

end Settings

end Chatbot
