import Chatbot.Shell.Syntax

/-!
# Signals and exit statuses

A process ends with an exit status or is killed by a signal. Signals are known by number and
by name (`HUP`, `INT`, …, `SYS`, the Linux numbering), with or without the `SIG` prefix and
in any case. What a signal does to a process that has not changed its handling is its
*default action*: most end the process; `CHLD`, `URG`, `WINCH` and `CONT` are ignored; `STOP`,
`TSTP`, `TTIN` and `TTOU` stop it, so that it never ends by itself.

How an ending is described follows the description of an exit status: `exit status: N`, or
`signal: N (SIGNAME)` for a signal that has a name.
-/

namespace Chatbot.Shell

/-- The names of the signals 1 to 31. -/
def signalNames : List String :=
  ["HUP", "INT", "QUIT", "ILL", "TRAP", "ABRT", "BUS", "FPE", "KILL", "USR1", "SEGV", "USR2",
   "PIPE", "ALRM", "TERM", "STKFLT", "CHLD", "CONT", "STOP", "TSTP", "TTIN", "TTOU", "URG",
   "XCPU", "XFSZ", "VTALRM", "PROF", "WINCH", "IO", "PWR", "SYS"]

/-- What `kill -l` writes for each signal number from 1 to 64: its name, or the number for
the real-time signals. -/
def signalListing : List String :=
  signalNames ++ (List.range 33).map fun i => toString (i + 32)

/-- The name of a signal, if it has one. -/
def signalName (n : Nat) : Option String :=
  if n = 0 then none else signalNames[n - 1]?

/-- The number a signal's name or number gives. -/
def signalNumber (text : String) : Option Nat :=
  match text.toNat? with
  | some n => if n < 65 then some n else none
  | none =>
    let up := text.toUpper
    let bare := if up.startsWith "SIG" then (up.drop 3).toString else up
    (signalNames.findIdx? (· = bare)).map (· + 1)

/-- What a signal does by default to a process. -/
inductive SignalAction where
  /-- Ends the process. -/
  | terminate
  /-- Nothing. -/
  | ignore
  /-- Stops the process. -/
  | stop
  deriving DecidableEq, Repr

/-- The default action of a signal. -/
def signalAction (n : Nat) : SignalAction :=
  if n = 0 || n = 17 || n = 18 || n = 23 || n = 28 then .ignore
  else if n = 19 || n = 20 || n = 21 || n = 22 then .stop
  else .terminate

/-- How a process ended. -/
inductive Exit where
  /-- With an exit status. -/
  | code (n : Nat)
  /-- Killed by a signal. -/
  | signal (n : Nat)
  deriving DecidableEq, Repr

/-- The description of an ending. -/
def Exit.describe : Exit → String
  | .code n => s!"exit status: {n}"
  | .signal n =>
    match signalName n with
    | some name => s!"signal: {n} (SIG{name})"
    | none => s!"signal: {n}"

end Chatbot.Shell
