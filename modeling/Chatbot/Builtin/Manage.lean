import Chatbot.Engine.Bot
import Chatbot.Text.Quoted
import Chatbot.Text.Decimal

/-!
# Managing commands

The built-in commands that add, change, alias and delete commands. Each checks its arguments
before it changes anything, so a failure leaves the registry as it was. The confirmations
name the command as the caller wrote it; only deletion names the command it removed.
-/

namespace Chatbot.Builtin.Manage

open Chatbot.Text Chatbot.Builtin

/-- `addcmd <name> <template>`: add a template command with the default time limit. -/
def addTemplate (args : List String) (ctx : Context) : Attempt (Option String) := do
  let usage := "addcmd <name> <template>"
  let name ← required args 1 usage
  let body ← requiredRest args 2 usage
  let limit := (← get).settings.defaultTimeLimit.map Nat.toUInt64
  updateRegistry (·.register { name, body := .template body, timeLimit := limit })
  confirm ctx s!"Command `{name}` added"

/-- `addext <name> <command line>`: add an external command with the default time limit. -/
def addExternal (args : List String) (ctx : Context) : Attempt (Option String) := do
  let usage := "addext <name> <command line>"
  let name ← required args 1 usage
  let body ← requiredRest args 2 usage
  let limit := (← get).settings.defaultTimeLimit.map Nat.toUInt64
  updateRegistry (·.register { name, body := .external body, timeLimit := limit })
  confirm ctx s!"External command `{name}` added"

/-- `updatecmd <name> <body>`: replace the body of a template or external command. -/
def update (args : List String) (ctx : Context) : Attempt (Option String) := do
  let usage := "updatecmd <name> <body>"
  let name ← required args 1 usage
  let body ← requiredRest args 2 usage
  updateRegistry (·.updateBody name body)
  confirm ctx s!"Command `{name}` updated"

/-- `delcmd <name>`: delete a template or external command, by name or alias. -/
def delete (args : List String) (ctx : Context) : Attempt (Option String) := do
  let name ← required args 1 "delcmd <name>"
  match (← get).registry.get? name with
  | none => throw (.registry (.notFound name))
  | some c =>
    if c.isBuiltin then throw (.registry (.nativeImmutable c.name))
    let removed ← removeCommand c.name
    confirm ctx s!"Command `{removed.name}` deleted"

/-- `alias <alias> <name>`: add another name for a command. -/
def addAlias (args : List String) (ctx : Context) : Attempt (Option String) := do
  let usage := "alias <alias> <name>"
  let name ← required args 1 usage
  let target ← required args 2 usage
  updateRegistry (·.addAlias name target)
  confirm ctx s!"`{name}` is now an alias of `{target}`"

/-- `setperm <name> <user|mod|admin>`: set the level a command requires. -/
def setLevel (args : List String) (ctx : Context) : Attempt (Option String) := do
  let usage := "setperm <name> <user|mod|admin>"
  let name ← required args 1 usage
  let raw ← required args 2 usage
  match Level.parse raw with
  | none => throw (.invalidArgument s!"unknown permission level {quote raw}")
  | some l =>
    updateRegistry (·.setLevel name l)
    confirm ctx s!"Command `{name}` now requires {l.name}"

/-- `settimelimit <name> <seconds|-1>`: set or clear a command's time limit. -/
def setTimeLimit (args : List String) (ctx : Context) : Attempt (Option String) := do
  let usage := "settimelimit <name> <seconds|-1>"
  let name ← required args 1 usage
  let raw ← required args 2 usage
  match readSignedWord raw with
  | .error _ => throw (.invalidArgument s!"{quote raw} is not a number")
  | .ok secs =>
    match TimeLimit.parse secs with
    | .error s => throw (.invalidArgument (TimeLimit.errorMessage s))
    | .ok limit =>
      updateRegistry (·.setTimeLimit name (limit.map Nat.toUInt64))
      match limit with
      | some s => confirm ctx s!"Command `{name}` is limited to {s}s"
      | none => confirm ctx s!"Command `{name}` has no time limit"

/-- `enablecmd` or `disablecmd <name> <platform>`: make a command available or not. -/
def setPlatform (enabled : Bool) (args : List String) (ctx : Context) :
    Attempt (Option String) := do
  let usage := if enabled then "enablecmd <name> <platform>" else "disablecmd <name> <platform>"
  let name ← required args 1 usage
  let raw ← required args 2 usage
  match Platform.parse raw with
  | none => throw (.invalidArgument s!"unknown platform {quote raw}")
  | some p =>
    if enabled then
      updateRegistry (·.enablePlatform name p)
      confirm ctx s!"Command `{name}` enabled on {p.name}"
    else
      updateRegistry (·.disablePlatform name p)
      confirm ctx s!"Command `{name}` disabled on {p.name}"

/-- Read a switch: `on`, `true` or `yes`; `off`, `false` or `no`. -/
def readSwitch : String → Option Bool
  | "on" | "true" | "yes" => some true
  | "off" | "false" | "no" => some false
  | _ => none

/-- `subcmd <name> <on|off>`: allow or forbid a command inside references. -/
def setSubcommand (args : List String) (ctx : Context) : Attempt (Option String) := do
  let usage := "subcmd <name> <on|off>"
  let name ← required args 1 usage
  let raw ← required args 2 usage
  match readSwitch raw with
  | none => throw (.usage usage)
  | some b =>
    updateRegistry (·.setSubcommand name b)
    if b then confirm ctx s!"Command `{name}` can be used as a subcommand"
    else confirm ctx s!"Command `{name}` can no longer be used as a subcommand"

end Chatbot.Builtin.Manage
