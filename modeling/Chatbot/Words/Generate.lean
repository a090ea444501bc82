import Chatbot.Words.Graph
import Chatbot.Words.Random

/-!
# Generating sentences

A sentence is generated by walking the graph from the start, drawing from a random source. At
each node a successor is drawn with probability proportional to its count: a draw below the
node's total picks the first successor whose running sum of counts exceeds it. A node whose
total is zero stops the walk without drawing.

With a requested first word, up to `seedAttempts` draws are made from the start; the first
that yields that word, if it has a node, begins the sentence. The walk then goes on while the
sentence is shorter than `maxWords`, and stops at the end of a sentence, at a word without a
node, or at a node that gives nothing. The words are joined by single spaces; an empty result
is written `<empty message>`.
-/

namespace Chatbot.Words

open Chatbot.Text

/-- Bounds of generation. -/
structure Options where
  /-- Draws spent looking for a requested first word. -/
  seedAttempts : Nat := 100
  /-- The most words of a sentence. -/
  maxWords : Nat := 200
  deriving DecidableEq, Repr

/-- The text of a sentence without words. -/
def emptyMessage : String := "<empty message>"

variable {σ : Type} [RandomSource σ]

namespace Node

/-- Draw a successor: nothing from a node whose total is zero, without using the source. -/
def draw (n : Node) (src : σ) : Option Successor × σ :=
  if n.total = 0 then (none, src)
  else
    let (d, src') := RandomSource.below src n.total
    (n.pick d, src')

end Node

namespace Graph

/-- Look for `seed` among up to `tries` draws from the start. -/
def seekSeed (g : Graph) (seed : String) : Nat → σ → Bool × σ
  | 0, src => (false, src)
  | tries + 1, src =>
    match g.start.draw src with
    | (some (.word w), src') => if w = seed then (true, src') else g.seekSeed seed tries src'
    | (_, src') => g.seekSeed seed tries src'

/-- Walk on from `node`, adding at most `room` words to `acc` (kept reversed). -/
def walk (g : Graph) : Nat → Node → List String → σ → List String × σ
  | 0, _, acc, src => (acc, src)
  | room + 1, node, acc, src =>
    match node.draw src with
    | (some (.word w), src') =>
      match g.node? w with
      | some n => g.walk room n (w :: acc) src'
      | none => (acc, src')
    | (_, src') => (acc, src')

/-- Generate a sentence. -/
def generate (g : Graph) (src : σ) (seed : Option String) (opts : Options) : String × σ :=
  let (first, node, src) : List String × Node × σ :=
    match seed with
    | none => ([], g.start, src)
    | some s =>
      let (hit, src') := g.seekSeed s opts.seedAttempts src
      match hit, g.node? s with
      | true, some n => ([s], n, src')
      | _, _ => ([], g.start, src')
  let (rev, src) := g.walk (opts.maxWords - first.length) node first.reverse src
  let text := trimBlank (" ".intercalate rev.reverse)
  (if text.isEmpty then emptyMessage else text, src)

end Graph

end Chatbot.Words
