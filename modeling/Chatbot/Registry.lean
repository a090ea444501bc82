import Chatbot.Command
import Chatbot.Text.Blank
import Chatbot.Text.Quoted

/-!
# The command registry

The registry holds the commands, each under its own name, and *aliases*: further names that
stand for a command. A name is looked up in one step: an alias gives its command's name, any
other name stands for itself. An alias always names a command, never another alias, and no
name is both a command's and an alias.

A valid name is non-empty and holds neither a blank nor one of the characters that open or
close references and placeholders: `$ ( ) [ ] { }`, the backtick, and `@`.

The registry also keeps the tags of its removal observers; each successful removal reports
`tag:name` for every observer, in the order they were added.

Every operation that fails leaves the registry as it was.

## What is proved

* `get?_register`: after a command is added, its name stands for it.
-/

namespace Chatbot

open Chatbot.Text

/-- Why a registry operation failed. -/
inductive RegistryError where
  /-- The name is already a command's or an alias. -/
  | alreadyExists (name : String)
  /-- No command has this name. -/
  | notFound (name : String)
  /-- Built-in commands cannot be changed this way. -/
  | nativeImmutable (name : String)
  /-- The name is not a valid command name. -/
  | invalidName (name : String)
  deriving DecidableEq, Repr

/-- The message of a registry error. -/
def RegistryError.message : RegistryError → String
  | .alreadyExists n => s!"Command `{n}` already exists"
  | .notFound n => s!"Command `{n}` does not exist"
  | .nativeImmutable n => s!"Command `{n}` is built in and cannot be changed"
  | .invalidName n => s!"Invalid command name: {quote n}"

/-- Commands, aliases and removal observers. -/
structure Registry where
  /-- The commands, each under its own name. -/
  commands : List Command := []
  /-- Aliases and the command names they stand for. -/
  aliases : List (String × String) := []
  /-- Tags of the removal observers, in the order they were added. -/
  hooks : List String := []
  deriving DecidableEq, Repr

/-- Texts in increasing order. -/
def sortTexts (xs : List String) : List String := xs.mergeSort fun a b => !decide (b < a)

namespace Registry

/-- The characters a command name may not hold, besides blanks. -/
def isDelimiter (c : Char) : Bool := "$()[]{}`@".toList.contains c

/-- A valid name is non-empty, without blanks and without delimiters. -/
def validName (name : String) : Bool :=
  !name.isEmpty && !name.toList.any fun c => isBlank c || isDelimiter c

/-- Refuse an invalid name. -/
def checkName (name : String) : Except RegistryError Unit :=
  if validName name then .ok () else .error (.invalidName name)

/-- The command name a name stands for: an alias's target, or the name itself. -/
def resolve (r : Registry) (name : String) : String :=
  (r.aliases.lookup name).getD name

/-- The command registered under `key`. -/
def find? (r : Registry) (key : String) : Option Command :=
  r.commands.find? fun c => c.name == key

/-- Whether a name is a command's or an alias. -/
def taken (r : Registry) (name : String) : Bool :=
  r.commands.any (fun c => c.name == name) || r.aliases.any (fun a => a.1 == name)

/-- The command a name or alias stands for. -/
def get? (r : Registry) (name : String) : Option Command := r.find? (r.resolve name)

/-- Whether a name or alias stands for a command. -/
def contains (r : Registry) (name : String) : Bool := (r.get? name).isSome

/-- The commands with `c` in place of the one of the same name, or added at the end. -/
def putCommand (cs : List Command) (c : Command) : List Command :=
  if cs.any (fun d => d.name == c.name) then cs.map fun d => if d.name == c.name then c else d
  else cs ++ [c]

/-- Add a command under a new name. -/
def register (r : Registry) (c : Command) : Except RegistryError Registry := do
  checkName c.name
  if r.taken c.name then throw (.alreadyExists c.name)
  pure { r with commands := r.commands ++ [c] }

/-- Bind a command to its name, replacing a command of that name and dropping an alias of
it; the replaced command comes back. -/
def insert (r : Registry) (c : Command) : Except RegistryError (Option Command × Registry) := do
  checkName c.name
  pure (r.find? c.name,
    { r with aliases := r.aliases.filter (fun a => a.1 != c.name),
             commands := putCommand r.commands c })

/-- Change the command a name stands for with `f`. -/
def modify (r : Registry) (name : String) (f : Command → Except RegistryError Command) :
    Except RegistryError Registry := do
  match r.get? name with
  | none => throw (.notFound name)
  | some c =>
    let c' ← f c
    pure { r with commands := putCommand r.commands c' }

/-- Replace the text of a template or external command. -/
def updateBody (r : Registry) (name body : String) : Except RegistryError Registry :=
  r.modify name fun c =>
    match c.body.withText body with
    | some b => .ok { c with body := b }
    | none => .error (.nativeImmutable c.name)

/-- Set the level a command requires. -/
def setLevel (r : Registry) (name : String) (l : Level) : Except RegistryError Registry :=
  r.modify name fun c => .ok { c with level := l }

/-- Set or clear a command's time limit. -/
def setTimeLimit (r : Registry) (name : String) (s : Option UInt64) :
    Except RegistryError Registry :=
  r.modify name fun c => .ok { c with timeLimit := s }

/-- Make a command available on a platform. -/
def enablePlatform (r : Registry) (name : String) (p : Platform) :
    Except RegistryError Registry :=
  r.modify name fun c => .ok { c with platforms := c.platforms.insert p }

/-- Make a command unavailable on a platform. -/
def disablePlatform (r : Registry) (name : String) (p : Platform) :
    Except RegistryError Registry :=
  r.modify name fun c => .ok { c with platforms := c.platforms.erase p }

/-- Allow or forbid a command inside references. -/
def setSubcommand (r : Registry) (name : String) (b : Bool) : Except RegistryError Registry :=
  r.modify name fun c => .ok { c with subcommand := b }

/-- Remove the command a name stands for, with every alias of it. The removed command comes
back; the observers report it. -/
def remove (r : Registry) (name : String) : Except RegistryError (Command × Registry) := do
  let key := r.resolve name
  match r.find? key with
  | none => throw (.notFound name)
  | some c =>
    pure (c, { r with commands := r.commands.filter (fun d => d.name != key),
                      aliases := r.aliases.filter (fun a => a.2 != key) })

/-- What the observers report when `name` is removed. -/
def removalReports (r : Registry) (name : String) : List String :=
  r.hooks.map fun tag => tag ++ ":" ++ name

/-- Add an alias for the command a name stands for. -/
def addAlias (r : Registry) (name target : String) : Except RegistryError Registry := do
  checkName name
  if r.taken name then throw (.alreadyExists name)
  let key := r.resolve target
  match r.find? key with
  | none => throw (.notFound key)
  | some _ => pure { r with aliases := r.aliases ++ [(name, key)] }

/-- Count one more invocation of the command a name stands for; its new count comes back. -/
def recordInvocation (r : Registry) (name : String) : Option UInt64 × Registry :=
  match r.get? name with
  | none => (none, r)
  | some c =>
    let c' := { c with timesInvoked := c.timesInvoked + 1 }
    (some c'.timesInvoked, { r with commands := putCommand r.commands c' })

/-- The command names in increasing order; aliases are not listed. -/
def names (r : Registry) : List String := sortTexts (r.commands.map (·.name))

/-- The aliases that stand for exactly `name`, in increasing order. -/
def aliasesOf (r : Registry) (name : String) : List String :=
  sortTexts ((r.aliases.filter fun a => a.2 == name).map (·.1))

/-- The number of commands. -/
def size (r : Registry) : Nat := r.commands.length

/-- Add a removal observer. -/
def onRemove (r : Registry) (tag : String) : Registry := { r with hooks := r.hooks ++ [tag] }

theorem get?_register {r r' : Registry} {c : Command} (h : r.register c = .ok r') :
    r'.get? c.name = some c := by
  unfold register checkName at h
  by_cases hv : validName c.name <;> by_cases ht : r.taken c.name <;>
    simp [hv, ht, bind, Except.bind, pure, Except.pure, throw, throwThe, MonadExceptOf.throw] at h
  subst h
  simp only [taken, Bool.or_eq_true, List.any_eq_true, beq_iff_eq, not_or, not_exists,
    not_and] at ht
  have hl : r.aliases.lookup c.name = none := by
    rw [List.lookup_eq_none_iff]
    intro p hp
    have := ht.2 p hp
    simp only [bne_iff_ne, ne_eq]
    exact fun e => this e.symm
  simp only [get?, resolve, find?]
  simp [hl, List.find?_append]
  rw [List.find?_eq_none.mpr]
  · rfl
  intro x hx
  simpa using ht.1 x hx

end Registry

end Chatbot
