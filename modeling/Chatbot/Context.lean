import Chatbot.Access

/-!
# Message context

A command line arrives through a *transport*: the platform it comes from, who wrote it (a
display name and an id), the channel (a name and an id), the server if the platform has one,
and whether the transport can deliver replies at all. A *context* adds the caller's level,
whether replies are suppressed (*silent*), and how many references deep the current command
runs.

A nested command runs in the *silenced* context: silent, and one level deeper.
-/

namespace Chatbot

/-- Where a message came from and where replies go. -/
structure Transport where
  /-- The platform of the conversation. -/
  platform : Platform
  /-- The author's display name. -/
  author : String
  /-- The author's id. -/
  authorId : String
  /-- The channel's name. -/
  channel : String
  /-- The channel's id. -/
  channelId : String
  /-- The server's name, on a platform that has servers. -/
  server : Option String := none
  /-- Whether replies can be delivered; when not, every delivery fails. -/
  delivers : Bool := true
  deriving DecidableEq, Repr

/-- The circumstances of one command run. -/
structure Context where
  /-- Where the message came from. -/
  transport : Transport
  /-- The caller's level. -/
  level : Level
  /-- Whether replies are suppressed. -/
  silent : Bool := false
  /-- How many references deep the run is. -/
  depth : Nat := 0
  deriving DecidableEq, Repr

namespace Context

/-- The context of a nested run: silent and one level deeper. -/
def silenced (c : Context) : Context := { c with silent := true, depth := c.depth + 1 }

/-- The platform of the conversation. -/
def platform (c : Context) : Platform := c.transport.platform

/-- A context silenced `n` times. -/
def silencedTimes (c : Context) : Nat → Context
  | 0 => c
  | n + 1 => (c.silencedTimes n).silenced

/-- Silencing keeps the transport and the level. -/
@[simp] theorem silenced_transport (c : Context) : c.silenced.transport = c.transport := rfl

/-- Silencing keeps the level. -/
@[simp] theorem silenced_level (c : Context) : c.silenced.level = c.level := rfl

/-- Silencing goes one level deeper. -/
@[simp] theorem silenced_depth (c : Context) : c.silenced.depth = c.depth + 1 := rfl

end Context

end Chatbot
