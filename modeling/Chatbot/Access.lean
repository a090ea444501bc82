/-!
# Caller levels and platforms

A command requires a *level* of its caller: user, moderator or administrator, in that order.
A caller satisfies a requirement when its level is at least the required one.

A command is available on a set of *platforms* (Discord, Telegram and the console), kept as a
bit mask of one byte: Discord is bit 0, Telegram bit 1, the console bit 2. The other five bits
may be set by a stored record; they are kept but name no platform. Only Discord has servers.

Names are read without regard to ASCII case: `user`; `mod` or `moderator`; `admin` or
`owner`; `discord`, `telegram`, `console` or `repl`. No accepted name contains a letter that a
non-ASCII character folds to, so folding ASCII letters alone decides the same names.

## What is proved

* `Level.parse_name`: the name of each level reads back as that level.
-/

namespace Chatbot

/-- How much a caller may do. -/
inductive Level where
  /-- Anybody. -/
  | user
  /-- A moderator. -/
  | moderator
  /-- An administrator. -/
  | admin
  deriving DecidableEq, Repr, Inhabited

namespace Level

/-- The rank of a level: user 0, moderator 1, administrator 2. -/
def rank : Level → Nat
  | .user => 0
  | .moderator => 1
  | .admin => 2

/-- The lower-case name of a level. -/
def name : Level → String
  | .user => "user"
  | .moderator => "mod"
  | .admin => "admin"

/-- The name used in structure dumps. -/
def label : Level → String
  | .user => "User"
  | .moderator => "Mod"
  | .admin => "Admin"

/-- A caller at `self` may run what requires `required`. -/
def satisfies (self required : Level) : Bool := required.rank ≤ self.rank

/-- Read a level name, ignoring ASCII case. -/
def parse (s : String) : Option Level :=
  match s.toLower with
  | "user" => some .user
  | "mod" => some .moderator
  | "moderator" => some .moderator
  | "admin" => some .admin
  | "owner" => some .admin
  | _ => none

/-- Each level's name reads back as that level. -/
theorem parse_name (l : Level) : parse l.name = some l := by
  cases l <;> decide +kernel

end Level

/-- Where a message comes from. -/
inductive Platform where
  /-- Discord, the only platform with servers. -/
  | discord
  /-- Telegram. -/
  | telegram
  /-- The local console. -/
  | console
  deriving DecidableEq, Repr, Inhabited

namespace Platform

/-- The three platforms in their fixed order. -/
def all : List Platform := [.discord, .telegram, .console]

/-- The lower-case name of a platform. -/
def name : Platform → String
  | .discord => "discord"
  | .telegram => "telegram"
  | .console => "console"

/-- The name used in structure dumps. -/
def label : Platform → String
  | .discord => "Discord"
  | .telegram => "Telegram"
  | .console => "Console"

/-- The bit of a platform in a set. -/
def bit : Platform → UInt8
  | .discord => 1
  | .telegram => 2
  | .console => 4

/-- Whether messages on the platform come from a named server. -/
def hasServers : Platform → Bool
  | .discord => true
  | _ => false

/-- Read a platform name, ignoring ASCII case. -/
def parse (s : String) : Option Platform :=
  match s.toLower with
  | "discord" => some .discord
  | "telegram" => some .telegram
  | "console" => some .console
  | "repl" => some .console
  | _ => none

end Platform

/-- A set of platforms, as a one-byte mask. -/
structure PlatformSet where
  /-- The mask: bit 0 Discord, bit 1 Telegram, bit 2 the console. -/
  bits : UInt8
  deriving DecidableEq, Repr

namespace PlatformSet

/-- No platform. -/
def empty : PlatformSet := ⟨0⟩

/-- Every platform. -/
def full : PlatformSet := ⟨7⟩

instance : Inhabited PlatformSet := ⟨full⟩

/-- Whether the set holds a platform. -/
def contains (s : PlatformSet) (p : Platform) : Bool := s.bits &&& p.bit != 0

/-- The set with a platform added. -/
def insert (s : PlatformSet) (p : Platform) : PlatformSet := ⟨s.bits ||| p.bit⟩

/-- The set with a platform removed. -/
def erase (s : PlatformSet) (p : Platform) : PlatformSet := ⟨s.bits &&& ~~~p.bit⟩

/-- Whether no bit is set. -/
def isEmpty (s : PlatformSet) : Bool := s.bits == 0

/-- The platforms of the set, in the fixed order. -/
def toList (s : PlatformSet) : List Platform := Platform.all.filter s.contains

/-- The set of the listed platforms. -/
def ofList (ps : List Platform) : PlatformSet := ps.foldl insert empty

end PlatformSet

end Chatbot
