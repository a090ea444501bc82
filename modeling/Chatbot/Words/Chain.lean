import Chatbot.Words.Generate
import Chatbot.Pattern.Compile

/-!
# The word model

The word model is a graph with its generation bounds. Finding and deleting words take a
pattern; a pattern that does not compile is refused before anything changes.
-/

namespace Chatbot.Words

open Chatbot.Pattern

/-- Why a word-model operation failed. -/
inductive WordsError where
  /-- The pattern does not compile. -/
  | invalidPattern (pattern : String) (cause : CompileError)
  deriving DecidableEq, Repr

/-- The message of a word-model error. -/
def WordsError.message : WordsError → String
  | .invalidPattern p e => s!"Invalid pattern `{p}`: {e.text}"

/-- A word graph with its generation bounds. -/
structure Chain where
  /-- The graph. -/
  graph : Graph := {}
  /-- The generation bounds. -/
  options : Options := {}
  deriving DecidableEq, Repr

namespace Chain

/-- Compile a pattern, or refuse it. -/
def compilePattern (source : String) : Except WordsError Regex :=
  match compile source with
  | .ok p => .ok p
  | .error e => .error (.invalidPattern source e)

/-- The learned words that a pattern matches somewhere, in the order first learned. -/
def findWords (c : Chain) (source : String) : Except WordsError (List String) := do
  let p ← compilePattern source
  pure (c.graph.wordList.filter p.isMatch)

/-- Delete the words a pattern matches; they come back in order. -/
def deleteWords (c : Chain) (source : String) : Except WordsError (List String × Chain) := do
  let p ← compilePattern source
  let (gone, g) := c.graph.deleteWords p.isMatch
  pure (gone, { c with graph := g })

/-- Learn a sentence. -/
def learn (c : Chain) (text : String) : Nat × Chain :=
  let (n, g) := c.graph.learn text
  (n, { c with graph := g })

/-- Collect unreachable words. -/
def collect (c : Chain) : List String × Chain :=
  let (gone, g) := c.graph.collect
  (gone, { c with graph := g })

/-- Check and repair totals. -/
def check (c : Chain) : Bool × Chain :=
  let (ok, g) := c.graph.check
  (ok, { c with graph := g })

/-- Generate a sentence. -/
def generate {σ : Type} [RandomSource σ] (c : Chain) (src : σ) (seed : Option String) :
    String × σ :=
  c.graph.generate src seed c.options

end Chain

end Chatbot.Words
