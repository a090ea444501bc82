import Chatbot.Engine.Bot

/-!
# Word-model commands

The built-in commands on the word model: generate a sentence, find, delete and collect words,
check the totals, and show its size. Lists of words show the first fifty and how many more
there are.
-/

namespace Chatbot.Builtin.WordCommands

open Chatbot.Builtin Chatbot.Words

/-- How many words a list shows. -/
def shownWords : Nat := 50

/-- The first fifty words, and how many more there are. -/
def listWords (ws : List String) : String :=
  let shown := ", ".intercalate (ws.take shownWords)
  if ws.length > shownWords then s!"{shown} (and {ws.length - shownWords} more)" else shown

/-- Replace the word model. -/
def setChain (c : Chain) : Attempt Unit := modify fun b => { b with chain := c }

/-- `markov [word]`: generate a sentence, optionally beginning with a word. -/
def generate (args : List String) (ctx : Context) : Attempt (Option String) := do
  let b ← get
  let (text, src) := b.chain.generate b.source args[1]?
  set { b with source := src }
  confirm ctx text

/-- `markovfind <regex>`: list the learned words a pattern matches. -/
def find (args : List String) (ctx : Context) : Attempt (Option String) := do
  let pattern ← requiredRest args 1 "markovfind <regex>"
  let ws ← liftWords ((← get).chain.findWords pattern)
  if ws.isEmpty then confirm ctx s!"No words match {pattern}"
  else confirm ctx s!"{ws.length} words: {listWords ws}"

/-- `markovdel <regex>`: forget the words a pattern matches, then collect unreachable ones. -/
def delete (args : List String) (ctx : Context) : Attempt (Option String) := do
  let pattern ← requiredRest args 1 "markovdel <regex>"
  let (gone, c) ← liftWords ((← get).chain.deleteWords pattern)
  let (collected, c) := c.collect
  setChain c
  confirm ctx s!"Deleted {gone.length} words, collected {collected.length} unreachable words"

/-- `markovgc`: remove the words that can no longer be generated. -/
def collect (ctx : Context) : Attempt (Option String) := do
  let (collected, c) := (← get).chain.collect
  setChain c
  if collected.isEmpty then confirm ctx "Nothing to collect"
  else confirm ctx s!"Collected {collected.length} words: {listWords collected}"

/-- `markovcheck`: verify and repair the totals. -/
def check (ctx : Context) : Attempt (Option String) := do
  let (ok, c) := (← get).chain.check
  setChain c
  confirm ctx (if ok then "Markov model is consistent"
    else "Markov model was inconsistent and has been repaired")

/-- The sizes as a JSON object. -/
def statsJson (s : Stats) : String :=
  s!"\x7b\"words\":{s.words},\"edges\":{s.edges},\"messages\":{s.messages}\x7d"

/-- `markovstats [json]`: show the size of the word model. -/
def stats (args : List String) (ctx : Context) : Attempt (Option String) := do
  let s := (← get).chain.graph.stats
  if restFrom args 1 == "json" then confirm ctx (statsJson s)
  else confirm ctx s!"{s.words} words, {s.edges} edges, learned from {s.messages} messages"

end Chatbot.Builtin.WordCommands
