import Chatbot.Engine.Run
import Chatbot.Engine.ShellRunner
import Chatbot.Console.EnvFile
import Chatbot.Text.Quoted

/-!
# The console program

The console program is the bot with one conversation: the terminal. It reads its level from
the arguments, its settings from the environment (after loading a `.env` file), and then
handles every line of its input as a message from the console user, printing each reply on
a line of its own.

* `--level L` or `-l L` sets the caller's level (administrator when absent, or when `-l` is
  the last argument). A level that is not one is an error, even when help is asked for.
* `--help` or `-h` prints the help text and stops.
* A bad setting is an error.
* The author (name and id) is `$USER`, or `console`; the channel (name and id) is `console`;
  there is no server. External commands run in a shell with the program's environment.
* Input is read line by line; the line feed and a carriage return before it are dropped. A
  line that is not UTF-8 ends the input.

An error is printed as `Error: …` and the program exits with status 1.
-/

namespace Chatbot.Console

open Chatbot.Text

/-- What the console program did: what it printed, the error it stopped with, and its exit
status. -/
structure ConsoleRun where
  /-- The printed replies, each ended by a line feed. -/
  stdout : String
  /-- The error the program stopped with, as printed. -/
  error : Option String
  /-- The exit status. -/
  status : Nat
  deriving DecidableEq, Repr

/-- The version the program reports. -/
def version : String := "0.1.0"

/-- The help text. -/
def helpText : String := String.intercalate "\n" [
  "cmdbot v" ++ version,
  "",
  "Usage: cmdbot [OPTIONS]",
  "",
  "Options:",
  "  --level, -l <LEVEL>  Console user level: user|mod|admin (default: admin)",
  "  --json-logs          Log to stderr as JSON",
  "  --help, -h           Show this help",
  "",
  "Environment variables:",
  "  CMDBOT_PREFIX                Command prefix (default: !)",
  "  CMDBOT_MAX_DEPTH             Maximum subcommand nesting (default: 16)",
  "  CMDBOT_DEFAULT_TIME_LIMIT    Added command limit, -1 for none (default: -1)",
  "  CMDBOT_PROCESS_TIMEOUT       Process timeout in seconds (default: 30)",
  "  CMDBOT_PROCESS_MAX_OUTPUT    Process output cap in bytes (default: 65536)",
  "  CMDBOT_MARKOV_SEED_ATTEMPTS  Draws spent on a seed word (default: 100)",
  "  CMDBOT_MARKOV_MAX_WORDS      Longest generated sentence (default: 200)",
  "  CMDBOT_LEARN                 Learn from non-command messages (default: true)",
  ""]

/-- The caller's level the arguments choose: the word after the first `--level` or `-l`. -/
def levelOfArgs (args : List String) : Except String Level :=
  match args.dropWhile (fun a => a != "--level" && a != "-l") with
  | _ :: l :: _ =>
    match Level.parse l with
    | some lv => .ok lv
    | none => .error s!"unknown permission level {quote l}"
  | _ => .ok .admin

/-- Whether the arguments ask for help. -/
def wantsHelp (args : List String) : Bool := args.any fun a => a == "--help" || a == "-h"

/-- The lines of the input: split at line feeds, each without its line feed and a carriage
return before it, up to the first line that is not UTF-8. -/
def inputLines (input : List UInt8) : List String :=
  let parts := input.splitOn 0x0A
  let ended : Bool := input.getLast? == some 0x0A
  let lines : List (List UInt8 × Bool) :=
    match parts.reverse with
    | [] => []
    | last :: earlier =>
      let full := earlier.reverse.map fun p => (p, true)
      if last.isEmpty then full else full ++ [(last, ended)]
  let decode : List UInt8 × Bool → Option String := fun (bs, fed) =>
    let bs := if fed && bs.getLast? = some 0x0D then bs.dropLast else bs
    String.fromUTF8? (ByteArray.mk bs.toArray)
  (lines.map decode).takeWhile Option.isSome |>.filterMap id

/-- The console's conversation for an author. -/
def consoleContext (author : String) (level : Level) : Context :=
  { transport := { platform := .console, author, authorId := author, channel := "console",
                   channelId := "console" }
    level }

/-- Handle the lines one after another. -/
def handleLines (ctx : Context) : List String → Bot → Bot
  | [], b => b
  | l :: ls, b =>
    let b' := match ((Engine.handleMessage ctx l).run).run b with
      | (_, b') => b'
    handleLines ctx ls b'

/-- Run the console program on its arguments, its environment, the text of its `.env` file
if there is one, and its input. -/
def consoleSession (args : List String) (env : List (String × String)) (envFile : Option String)
    (input : List UInt8) : ConsoleRun :=
  let env := match envFile with
    | some text => loadEnvFile env text
    | none => env
  match levelOfArgs args with
  | .error e => ⟨"", some ("Error: " ++ e), 1⟩
  | .ok level =>
    if wantsHelp args then ⟨helpText, none, 0⟩
    else
      match Settings.ofEnv (fun k => env.lookup k) with
      | .error e => ⟨"", some ("Error: " ++ e.message), 1⟩
      | .ok settings =>
        let bot := Bot.withBuiltins settings (.shell env settings.processTimeout settings.maxOutput)
        let author := (env.lookup "USER").getD "console"
        let b := handleLines (consoleContext author level) (inputLines input) bot
        ⟨String.join (b.outbox.map (· ++ "\n")), none, 0⟩

end Chatbot.Console
