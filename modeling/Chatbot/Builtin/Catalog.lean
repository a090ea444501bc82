import Chatbot.Builtin.Manage
import Chatbot.Builtin.WordCommands
import Chatbot.Engine.Bot

/-!
# The built-in commands

The seventeen built-in operations, each with its name, required level, flags and description,
and the `echo` template, which repeats its arguments. A new bot binds them in this order under
their modules (`markov` for the word-model commands, `info` for `help` and `echo`, `manage`
for the rest) and makes `commands` an alias of `help`. The `help` command itself comes first.
-/

/-! ### Help

`help` lists the commands the caller may run on their platform, in name order, or describes
one command: its name, kind, required level, whether it is a subcommand, its time limit, its
description, its aliases and how often it has run. -/

namespace Chatbot.Builtin.Info

open Chatbot.Builtin

/-- The description of a command, with its aliases. -/
def describe (c : Command) (aliases : List String) : String :=
  let flags := [c.kind.name, s!"requires {c.level.name}"] ++
    (if c.subcommand then ["subcommand"] else []) ++
    (match c.timeLimit with
     | some s => [s!"limit {s}s"]
     | none => [])
  let head := c.name ++ " (" ++ ", ".intercalate flags ++ ")"
  let desc := if c.description.isEmpty then "" else ": " ++ c.description
  let als := if aliases.isEmpty then "" else " [aliases: " ++ ", ".intercalate aliases ++ "]"
  head ++ desc ++ als ++ s!" [used {c.timesInvoked} times]"

/-- The names of the commands a context may run. -/
def usableNames (r : Registry) (ctx : Context) : List String :=
  r.names.filter fun n =>
    match r.get? n with
    | some c => ctx.level.satisfies c.level && c.platforms.contains ctx.platform
    | none => false

/-- `help [name]`: list usable commands, or describe one. -/
def help (args : List String) (ctx : Context) : Attempt (Option String) := do
  let r := (← get).registry
  match args[1]? with
  | some name =>
    match r.get? name with
    | none => throw (.registry (.notFound name))
    | some c => confirm ctx (describe c (r.aliasesOf c.name))
  | none => confirm ctx ("Commands: " ++ ", ".intercalate (usableNames r ctx))

/-- Reply with the words after the command's name. -/
def recite (args : List String) (ctx : Context) : Attempt (Option String) :=
  confirm ctx (" ".intercalate (args.drop 1))

end Chatbot.Builtin.Info

namespace Chatbot

open Chatbot.Builtin

/-- Run a built-in operation on the words of its line. -/
def Builtin.call : Builtin → List String → Context → Attempt (Option String)
  | .generate, args, ctx => WordCommands.generate args ctx
  | .findWords, args, ctx => WordCommands.find args ctx
  | .deleteWords, args, ctx => WordCommands.delete args ctx
  | .collect, _, ctx => WordCommands.collect ctx
  | .check, _, ctx => WordCommands.check ctx
  | .stats, args, ctx => WordCommands.stats args ctx
  | .addTemplate, args, ctx => Manage.addTemplate args ctx
  | .addExternal, args, ctx => Manage.addExternal args ctx
  | .update, args, ctx => Manage.update args ctx
  | .delete, args, ctx => Manage.delete args ctx
  | .alias, args, ctx => Manage.addAlias args ctx
  | .setLevel, args, ctx => Manage.setLevel args ctx
  | .setTimeLimit, args, ctx => Manage.setTimeLimit args ctx
  | .enable, args, ctx => Manage.setPlatform true args ctx
  | .disable, args, ctx => Manage.setPlatform false args ctx
  | .setSubcommand, args, ctx => Manage.setSubcommand args ctx
  | .help, args, ctx => Info.help args ctx
  | .recite, args, ctx => Info.recite args ctx

namespace Builtin

/-- The module a built-in command belongs to. -/
def moduleOf (name : String) : String :=
  if name.startsWith "markov" then "markov"
  else if name == "help" || name == "echo" then "info"
  else "manage"

/-- A built-in command. -/
def native (name : String) (b : Builtin) (level : Level) (description : String)
    (subcommand postponed : Bool := false) : Command :=
  { name, body := .builtin b, level, description, subcommand, postponed }

/-- The built-in commands, in the order they are bound. -/
def catalog : List Command :=
  [ native "markov" .generate .user
      "Generate a sentence, optionally from a word: markov [word]" true,
    native "markovfind" .findWords .moderator
      "List learned words matching a regex: markovfind <regex>" false true,
    native "markovdel" .deleteWords .admin
      "Forget words matching a regex: markovdel <regex>" false true,
    native "markovgc" .collect .admin "Remove words that can no longer be generated",
    native "markovcheck" .check .admin "Verify and repair the Markov model",
    native "markovstats" .stats .user "Show the size of the Markov model",
    native "addcmd" .addTemplate .moderator
      "Add a message command: addcmd <name> <template>" false true,
    native "addext" .addExternal .admin
      "Add an external command: addext <name> <command line>" false true,
    native "updatecmd" .update .moderator
      "Replace the body of a command: updatecmd <name> <body>" false true,
    native "delcmd" .delete .moderator "Delete a command: delcmd <name>",
    native "alias" .alias .moderator "Add another name for a command: alias <alias> <name>",
    native "setperm" .setLevel .admin
      "Set the required permission: setperm <name> <user|mod|admin>",
    native "settimelimit" .setTimeLimit .admin
      "Set the time limit, -1 for none: settimelimit <name> <secs>",
    native "enablecmd" .enable .moderator
      "Enable a command on a platform: enablecmd <name> <platform>",
    native "disablecmd" .disable .moderator
      "Disable a command on a platform: disablecmd <name> <platform>",
    native "subcmd" .setSubcommand .moderator "Allow use as a subcommand: subcmd <name> <on|off>",
    native "help" .help .user "List commands or describe one: help [name]",
    { name := "echo", body := .template "@args@", subcommand := true,
      description := "Repeat the arguments" } ]

/-- Bind one command under its module, keeping the registry if binding fails. -/
def bindOne (r : Registry) (c : Command) : Registry :=
  match r.insert { c with module := some (moduleOf c.name) } with
  | .ok (_, r') => r'
  | .error _ => r

/-- Bind every built-in command and alias `commands` to `help`. -/
def install (r : Registry) : Registry :=
  let r := catalog.foldl bindOne r
  match r.addAlias "commands" "help" with
  | .ok r' => r'
  | .error _ => r

end Builtin

end Chatbot
