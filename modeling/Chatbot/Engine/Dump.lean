import Chatbot.Engine.Bot
import Chatbot.Text.Quoted

/-!
# Structure dumps

The bot can describe its state, a command and a context as a structure dump: a type name,
then its fields as `name: value` between braces, separated by commas. Strings are quoted with
escapes, absent values are `None` and present ones `Some(...)`, maps are `{key: value, ...}`,
and a built-in body is `Native(..)`.
-/

namespace Chatbot.Dump

open Chatbot.Text Chatbot.Words

/-- A structure with named fields. -/
def record (name : String) (fields : List (String × String)) : String :=
  name ++ " \x7b " ++ ", ".intercalate (fields.map fun f => f.1 ++ ": " ++ f.2) ++ " \x7d"

/-- A map from keys to values. -/
def mapping (entries : List (String × String)) : String :=
  "\x7b" ++ ", ".intercalate (entries.map fun e => e.1 ++ ": " ++ e.2) ++ "\x7d"

/-- An optional value. -/
def optional (v : Option String) : String :=
  match v with
  | some s => "Some(" ++ s ++ ")"
  | none => "None"

/-- The dump of a settings value. -/
def settings (s : Settings) : String :=
  record "Config" [("command_prefix", quote s.commandPrefix),
    ("max_subcommand_depth", toString s.maxDepth),
    ("default_time_limit", optional (s.defaultTimeLimit.map toString)),
    ("process_timeout_secs", toString s.processTimeout),
    ("process_max_output_bytes", toString s.maxOutput),
    ("markov_seed_attempts", toString s.seedAttempts),
    ("markov_max_words", toString s.maxWords), ("learn", toString s.learn)]

/-- The dump of a body. -/
def body : Body → String
  | .builtin _ => "Native(..)"
  | .template t => "Template(" ++ quote t ++ ")"
  | .external l => "External(" ++ quote l ++ ")"

/-- The dump of a command. -/
def command (c : Command) : String :=
  record "Command" [("module", optional (c.module.map quote)), ("name", quote c.name),
    ("permission", c.level.label), ("implementation", body c.body),
    ("platforms", s!"PlatformSet({c.platforms.bits})"), ("subcommand", toString c.subcommand),
    ("postpone_expansion", toString c.postponed),
    ("time_limit", optional (c.timeLimit.map toString)),
    ("times_invoked", toString c.timesInvoked), ("description", quote c.description)]

/-- The dump of a successor. -/
def successor : Successor → String
  | .word w => "Word(" ++ quote w ++ ")"
  | .stop => "End"

/-- The dump of a node. -/
def node (n : Node) : String :=
  record "MarkovNode" [("edges", mapping (n.edges.map fun e => (successor e.1, toString e.2))),
    ("total", toString n.total)]

/-- The dump of the word model. -/
def chain (c : Chain) : String :=
  let graph := record "MarkovGraph" [("start", node c.graph.start),
    ("words", mapping (c.graph.words.map fun e => (quote e.1, node e.2)))]
  record "MarkovChain" [("graph", record "RwLock" [("data", graph)]),
    ("options", record "GenerateOptions" [("seed_attempts", toString c.options.seedAttempts),
      ("max_words", toString c.options.maxWords)])]

/-- The dump of the bot. -/
def bot (b : Bot) : String :=
  record "BotState" [("config", settings b.settings),
    ("registry", record "CommandRegistry" [("commands", toString b.registry.size),
      ("remove_hooks", toString b.registry.hooks.length)]),
    ("markov", chain b.chain)]

/-- The dump of a context. -/
def context (c : Context) : String :=
  record "Context" [("platform", c.platform.label), ("permission", c.level.label),
    ("silent", toString c.silent), ("depth", toString c.depth)]

end Chatbot.Dump
