import Chatbot.Engine.Bot
import Chatbot.Shell.Interp
import Chatbot.Shell.Capture

/-!
# The shell runner

The console program runs external command lines in a shell: `sh -c` runs the line with no
input, and its streams are read to their end, so a process whose streams never close runs
forever. The runner keeps at most its output cap of the output stream and a quarter of that of
the error stream.

A process that succeeds answers its output, trimmed at the end; one that fails answers its
error stream, trimmed, or its exit status when that is blank. The runner gives each process its
own timeout: a process still running then is stopped and fails with *timed out*. When a
deadline comes first the process is stopped there and the run is cut short; when the timeout
and the deadline fall together, the timeout wins.
-/

namespace Chatbot.Shell

/-- What a process did: its exit status, its output and error streams, and how long it ran. -/
structure ProcessRun where
  /-- How it ended. -/
  status : Exit
  /-- Bytes written to the output stream. -/
  stdout : List UInt8
  /-- Bytes written to the error stream. -/
  stderr : List UInt8
  /-- Milliseconds it ran; `none` when it never ends. -/
  duration : Option Nat
  deriving DecidableEq, Repr

/-- Run a command line with the given environment, keeping at most `outCap` bytes of output
and `errCap` bytes of errors. -/
def runLine (env : List (String × String)) (line : String) (outCap errCap : Nat) : ProcessRun :=
  let r := runShell (env.map fun (k, v) => (k, bytesOf v)) line outCap errCap
  { status := r.status, stdout := r.out, stderr := r.err, duration := r.duration }

end Chatbot.Shell

namespace Chatbot.Engine

open Chatbot.Text Chatbot.Shell

/-- The answer of a finished process: its output, trimmed at the end, if it succeeded; else
its error stream, trimmed, or its exit status. -/
def processAnswer (maxOutput : Nat) (pr : ProcessRun) : Except String String :=
  if pr.status = .code 0 then .ok (trimBlankEnd (lossyText (readCapped maxOutput [pr.stdout]).1))
  else
    let err := trimBlank (lossyText (readCapped (maxOutput / 4) [pr.stderr]).1)
    if !err.isEmpty then .error err else .error ("exited with " ++ pr.status.describe)

/-- Run a line with the shell runner on its own, with its timeout in seconds and its output
cap: the trimmed output, or what failed. A process still running at the timeout is timed
out. -/
def runnerAnswer (timeout maxOutput : Nat) (line : String) : Except String String :=
  let pr := runLine [] line maxOutput (maxOutput / 4)
  let late : Bool := match pr.duration with
    | some d => decide (timeout * 1000 ≤ d)
    | none => true
  if late then .error s!"timed out after {timeout} seconds" else processAnswer maxOutput pr

/-- How a finished process ended, from its answer. -/
def answerEnd : Except String String → ProcessEnd
  | .ok out => .output out
  | .error e => .failure e

/-- Run a line in the shell with the given environment, timeout in seconds and output cap,
from the clock reading `now` and before an optional deadline. -/
def shellRun (env : List (String × String)) (timeout maxOutput : Nat) (line : String) (now : Nat)
    (deadline : Option Nat) : ProcessEnd × Nat :=
  let pr := runLine env line maxOutput (maxOutput / 4)
  let own := now + timeout * 1000
  let ends := match pr.duration with
    | some d => now + d
    | none => max own ((deadline.getD own) + 1)
  let ownFirst := match deadline with
    | some d => own ≤ d
    | none => true
  if own ≤ ends && ownFirst then (.failure s!"timed out after {timeout} seconds", own)
  else
    match deadline with
    | some d =>
      if d ≤ ends then (.cut d, max now d) else (answerEnd (processAnswer maxOutput pr), ends)
    | none => (answerEnd (processAnswer maxOutput pr), ends)

end Chatbot.Engine

namespace Chatbot.Runner

/-- The shell runner, with the given environment variables, timeout in seconds and output
cap. -/
def shell (env : List (String × String)) (timeout maxOutput : Nat) : Runner :=
  ⟨Engine.shellRun env timeout maxOutput⟩

end Chatbot.Runner
