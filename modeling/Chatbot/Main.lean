import Chatbot.Console.Session

/-!
# The console program's entry point

Reads the program's arguments, the environment variables it uses, the `.env` file of the
current directory if there is one, and all of its input, then prints what the console session
printed and exits with its status.
-/

open Chatbot.Console

/-- The environment variables the program and its settings read. -/
def knownVariables : List String :=
  ["PATH", "HOME", "USER", "LANG", "RUST_LOG", "CMDBOT_PREFIX", "CMDBOT_MAX_DEPTH",
   "CMDBOT_DEFAULT_TIME_LIMIT", "CMDBOT_PROCESS_TIMEOUT", "CMDBOT_PROCESS_MAX_OUTPUT",
   "CMDBOT_MARKOV_SEED_ATTEMPTS", "CMDBOT_MARKOV_MAX_WORDS", "CMDBOT_LEARN"]

/-- Read a stream to its end. -/
partial def readToEnd (s : IO.FS.Stream) (acc : ByteArray) : IO ByteArray := do
  let chunk ← s.read 65536
  if chunk.isEmpty then return acc else readToEnd s (acc ++ chunk)

/-- Run the console program. -/
def main (args : List String) : IO UInt32 := do
  let mut env : List (String × String) := []
  for k in knownVariables do
    match ← IO.getEnv k with
    | some v => env := env ++ [(k, v)]
    | none => pure ()
  let envFile ← try (some <$> IO.FS.readFile ".env") catch _ => pure none
  let input ← readToEnd (← IO.getStdin) ByteArray.empty
  let r := consoleSession args env envFile input.data.toList
  let out ← IO.getStdout
  out.putStr r.stdout
  out.flush
  match r.error with
  | some e => (← IO.getStderr).putStrLn e
  | none => pure ()
  return r.status.toUInt32
