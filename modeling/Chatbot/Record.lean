import Chatbot.Registry
import Chatbot.Json.Read

/-!
# Exported commands

A template or external command can be exported as a *record* of its fields and imported
again. Built-in commands have no record. A record is written as a JSON object; on reading,
`name`, `kind` and `body` are required and the other members default to a user-level command
on every platform with no flags, no limit, no invocations and no description. Level and kind
names are lower case only; the platforms are the one-byte mask.

Exporting lists the records sorted by name. Importing binds each record's command (replacing a
command of that name and dropping an alias of it), skipping built-in kinds and invalid names,
and counts the commands bound.
-/

namespace Chatbot

open Chatbot.Json

/-- The exported form of a command. -/
structure Record where
  /-- The command's name. -/
  name : String
  /-- Its module. -/
  module : Option String := none
  /-- Its kind. -/
  kind : Kind
  /-- Its template or command line. -/
  body : String
  /-- The level it requires. -/
  level : Level := .user
  /-- Its platforms. -/
  platforms : PlatformSet := PlatformSet.full
  /-- Whether references may run it. -/
  subcommand : Bool := false
  /-- Whether its line is passed on unexpanded. -/
  postponed : Bool := false
  /-- Its time limit in seconds. -/
  timeLimit : Option UInt64 := none
  /-- How often it ran. -/
  timesInvoked : UInt64 := 0
  /-- Its description. -/
  description : String := ""
  deriving DecidableEq, Repr

namespace Record

/-- The record of a template or external command. -/
def ofCommand? (c : Command) : Option Record :=
  c.body.text?.map fun body =>
    { name := c.name, module := c.module, kind := c.kind, body, level := c.level,
      platforms := c.platforms, subcommand := c.subcommand, postponed := c.postponed,
      timeLimit := c.timeLimit, timesInvoked := c.timesInvoked, description := c.description }

/-- The command of a record; a built-in kind has none. -/
def toCommand? (r : Record) : Option Command :=
  let body? : Option Body := match r.kind with
    | .native => none
    | .template => some (.template r.body)
    | .external => some (.external r.body)
  body?.map fun body =>
    { module := r.module, name := r.name, level := r.level, body, platforms := r.platforms,
      subcommand := r.subcommand, postponed := r.postponed, timeLimit := r.timeLimit,
      timesInvoked := r.timesInvoked, description := r.description }

/-- The JSON of a record. -/
def toJson (r : Record) : Json.Value :=
  .obj [("name", .str r.name),
    ("module", match r.module with | some m => .str m | none => .null),
    ("kind", .str r.kind.name), ("body", .str r.body), ("permission", .str r.level.name),
    ("platforms", .num (.int r.platforms.bits.toNat)), ("subcommand", .bool r.subcommand),
    ("postpone_expansion", .bool r.postponed),
    ("time_limit", match r.timeLimit with | some s => .num (.int s.toNat) | none => .null),
    ("times_invoked", .num (.int r.timesInvoked.toNat)), ("description", .str r.description)]

/-- Read a kind name. -/
def readKind : Json.Value → Except DecodeError Kind :=
  readNamed [("native", .native), ("template", .template), ("external", .external)]

/-- Read a level name. -/
def readLevel : Json.Value → Except DecodeError Level :=
  readNamed [("user", .user), ("mod", .moderator), ("admin", .admin)]

/-- Read a platform mask. -/
def readPlatforms (j : Json.Value) : Except DecodeError PlatformSet :=
  (readUnsigned 8 "u8" j).map fun n => ⟨n.toUInt8⟩

/-- The members of a record as they are read: each one present or not. -/
structure Fields where
  /-- `name`. -/
  name : Option String := none
  /-- `module`. -/
  module : Option (Option String) := none
  /-- `kind`. -/
  kind : Option Kind := none
  /-- `body`. -/
  body : Option String := none
  /-- `permission`. -/
  level : Option Level := none
  /-- `platforms`. -/
  platforms : Option PlatformSet := none
  /-- `subcommand`. -/
  subcommand : Option Bool := none
  /-- `postpone_expansion`. -/
  postponed : Option Bool := none
  /-- `time_limit`. -/
  timeLimit : Option (Option UInt64) := none
  /-- `times_invoked`. -/
  timesInvoked : Option UInt64 := none
  /-- `description`. -/
  description : Option String := none

/-- Read one member into the fields read so far; other keys are skipped. -/
def readMember (f : Fields) (kv : String × Json.Value) : Except DecodeError Fields :=
  let v := kv.2
  match kv.1 with
  | "name" => do pure { f with name := some (← readString v) }
  | "module" => do pure { f with module := some (← readOption readString v) }
  | "kind" => do pure { f with kind := some (← readKind v) }
  | "body" => do pure { f with body := some (← readString v) }
  | "permission" => do pure { f with level := some (← readLevel v) }
  | "platforms" => do pure { f with platforms := some (← readPlatforms v) }
  | "subcommand" => do pure { f with subcommand := some (← readBool v) }
  | "postpone_expansion" => do pure { f with postponed := some (← readBool v) }
  | "time_limit" => do pure { f with timeLimit := some (← readOption readWord v) }
  | "times_invoked" => do pure { f with timesInvoked := some (← readWord v) }
  | "description" => do pure { f with description := some (← readString v) }
  | _ => pure f

/-- A record from the fields read, or the first missing required member. -/
def ofFields (f : Fields) : Except DecodeError Record := do
  let some name := f.name | throw (.missingField "name")
  let some kind := f.kind | throw (.missingField "kind")
  let some body := f.body | throw (.missingField "body")
  pure { name, kind, body, module := f.module.getD none, level := f.level.getD .user,
         platforms := f.platforms.getD PlatformSet.full, subcommand := f.subcommand.getD false,
         postponed := f.postponed.getD false, timeLimit := f.timeLimit.getD none,
         timesInvoked := f.timesInvoked.getD 0, description := f.description.getD "" }

/-- The members of a record in declared order, with their readers into fields, and whether
they are required. -/
def positional : List (Bool × (Fields → Json.Value → Except DecodeError Fields)) :=
  [(true, fun f v => do pure { f with name := some (← readString v) }),
   (false, fun f v => do pure { f with module := some (← readOption readString v) }),
   (true, fun f v => do pure { f with kind := some (← readKind v) }),
   (true, fun f v => do pure { f with body := some (← readString v) }),
   (false, fun f v => do pure { f with level := some (← readLevel v) }),
   (false, fun f v => do pure { f with platforms := some (← readPlatforms v) }),
   (false, fun f v => do pure { f with subcommand := some (← readBool v) }),
   (false, fun f v => do pure { f with postponed := some (← readBool v) }),
   (false, fun f v => do pure { f with timeLimit := some (← readOption readWord v) }),
   (false, fun f v => do pure { f with timesInvoked := some (← readWord v) }),
   (false, fun f v => do pure { f with description := some (← readString v) })]

/-- Read the array form: the members in declared order. -/
def readPositional : List (Bool × (Fields → Json.Value → Except DecodeError Fields)) → Nat →
    List Json.Value → Fields → Except DecodeError Fields
  | [], _, _, f => .ok f
  | (req, rd) :: more, i, xs, f =>
    match xs with
    | x :: rest => do readPositional more (i + 1) rest (← rd f x)
    | [] =>
      if req then .error (.invalidLength i "struct CommandRecord with 11 elements")
      else readPositional more (i + 1) [] f

/-- Read a record. -/
def ofJson : Json.Value → Except DecodeError Record
  | .obj kvs => do ofFields (← kvs.foldlM readMember {})
  | .arr xs => do
    let f ← readPositional positional 0 xs {}
    noExtra xs 11
    ofFields f
  | j => .error (.invalidType j.unexpected "struct CommandRecord")

/-- Read a list of records. -/
def listOfJson (j : Json.Value) : Except DecodeError (List Record) :=
  readList ofJson "a sequence" j

end Record

namespace Registry

/-- The records of the template and external commands, sorted by name. -/
def exportRecords (r : Registry) : List Record :=
  (r.commands.filterMap Record.ofCommand?).mergeSort fun a b => !decide (b.name < a.name)

/-- Bind the command of each record; the number bound comes back. -/
def importRecords (r : Registry) (records : List Record) : Nat × Registry :=
  records.foldl importOne (0, r)
where
  /-- Bind one record's command, counting it if bound. -/
  importOne (acc : Nat × Registry) (rec : Record) : Nat × Registry :=
    match rec.toCommand? with
    | none => acc
    | some c =>
      match acc.2.insert c with
      | .ok (_, r') => (acc.1 + 1, r')
      | .error _ => acc

end Registry

end Chatbot
