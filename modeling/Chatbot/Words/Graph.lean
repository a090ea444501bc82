import Chatbot.Text.Blank

/-!
# The word graph

The bot learns which word follows which. The graph has a *start* node and one node per learned
word. A node lists its *successors* (a word, or the end of a sentence) with how often each was
seen, in the order they were first seen, and caches the sum of these counts as its *total*.
Words are kept in the order they were first learned; both orders decide generation.

Learning a sentence counts, for each pair of neighbouring words, the second as a successor of
the first; the first word is a successor of the start, and the end follows the last word.

Counts and totals are 64-bit words and wrap around when they pass the largest one. Forgetting
edges lowers a total by the forgotten counts, stopping at zero.

Deleting words removes their nodes and every edge into them. Collecting removes the words that
no path of edges from the start reaches. Checking recomputes every total from the counts and
says whether all were right.

## What is proved

* `Node.observe_count`: observing a successor raises its count by one and no other.
-/

namespace Chatbot.Words

open Chatbot.Text

/-- What may follow a word. -/
inductive Successor where
  /-- A learned word. -/
  | word (w : String)
  /-- The end of the sentence. -/
  | stop
  deriving DecidableEq, Repr

/-- A node: its successors with their counts, and the cached total of the counts. -/
structure Node where
  /-- Successors with how often each was seen, in the order first seen. -/
  edges : List (Successor × UInt64) := []
  /-- The cached sum of the counts. -/
  total : UInt64 := 0
  deriving DecidableEq, Repr

namespace Node

/-- How often `s` followed this node. -/
def count (n : Node) (s : Successor) : UInt64 := (n.edges.lookup s).getD 0

/-- The number of distinct successors. -/
def edgeCount (n : Node) : Nat := n.edges.length

/-- Add one to the count of `s` (appending it if new) in an edge list. -/
def bump : List (Successor × UInt64) → Successor → List (Successor × UInt64)
  | [], s => [(s, 1)]
  | (t, c) :: es, s => if t = s then (t, c + 1) :: es else (t, c) :: bump es s

/-- Count one more observation of `s` after this node. -/
def observe (n : Node) (s : Successor) : Node := { edges := bump n.edges s, total := n.total + 1 }

/-- The sum of the counts, wrapping around. -/
def sumCounts (es : List (Successor × UInt64)) : UInt64 := es.foldr (fun e acc => e.2 + acc) 0

/-- Drop the edges into the words that `doomed` marks, lowering the total by their counts and
stopping at zero. -/
def forget (n : Node) (doomed : String → Bool) : Node :=
  let isDoomed : Successor × UInt64 → Bool := fun e => match e.1 with
    | .word w => doomed w
    | .stop => false
  let dropped := sumCounts (n.edges.filter isDoomed)
  { edges := n.edges.filter (fun e => !isDoomed e),
    total := if dropped ≤ n.total then n.total - dropped else 0 }

/-- The successor chosen by a draw: the first whose running sum of counts exceeds it. -/
def pickFrom : List (Successor × UInt64) → UInt64 → UInt64 → Option Successor
  | [], _, _ => none
  | (s, c) :: es, running, draw =>
    if running + c > draw then some s else pickFrom es (running + c) draw

/-- The successor chosen by a draw below the total. -/
def pick (n : Node) (draw : UInt64) : Option Successor := pickFrom n.edges 0 draw

/-- Recompute the total; says whether it was right. -/
def recount (n : Node) : Bool × Node :=
  let s := sumCounts n.edges
  if s = n.total then (true, n) else (false, { n with total := s })

/-- The words among the successors, in order. -/
def successorWords (n : Node) : List String :=
  n.edges.filterMap fun e => match e.1 with
    | .word w => some w
    | .stop => none

/-- Observing a successor raises its count by one and no other. -/
theorem bump_lookup : ∀ (es : List (Successor × UInt64)) (s t : Successor),
    ((bump es s).lookup t).getD 0 = (es.lookup t).getD 0 + (if t = s then 1 else 0)
  | [], s, t => by
    by_cases h : t = s
    · subst h; simp [bump, List.lookup_nil]
    · have : (t == s) = false := by simp [h]
      simp [bump, List.lookup_cons, List.lookup_nil, this, h]
  | (u, c) :: es, s, t => by
    unfold bump
    by_cases hus : u = s
    · subst hus
      by_cases htu : t = u
      · subst htu; simp
      · have : (t == u) = false := by simp [htu]
        simp [List.lookup_cons, this, htu]
    · simp only [hus, if_false]
      by_cases htu : t = u
      · subst htu
        have : t ≠ s := hus
        simp [this]
      · have : (t == u) = false := by simp [htu]
        simp only [List.lookup_cons, this]
        exact bump_lookup es s t

/-- Observing a successor raises its count by one and no other. -/
@[simp, grind =] theorem observe_count (n : Node) (s t : Successor) :
    (n.observe s).count t = n.count t + (if t = s then 1 else 0) :=
  bump_lookup n.edges s t

end Node

/-- Sizes of the word model. -/
structure Stats where
  /-- The number of learned words. -/
  words : Nat
  /-- The number of distinct edges, from the start and from every word. -/
  edges : Nat
  /-- The start's total: how many sentences were learned. -/
  messages : UInt64
  deriving DecidableEq, Repr

/-- The word graph. -/
structure Graph where
  /-- Where every sentence begins. -/
  start : Node := {}
  /-- The learned words and their nodes, in the order first learned. -/
  words : List (String × Node) := []
  deriving DecidableEq, Repr

namespace Graph

/-- The node of a word. -/
def node? (g : Graph) (w : String) : Option Node := g.words.lookup w

/-- Whether a word has a node. -/
def contains (g : Graph) (w : String) : Bool := g.words.any fun e => e.1 == w

/-- The learned words in order. -/
def wordList (g : Graph) : List String := g.words.map (·.1)

/-- The number of learned words. -/
def size (g : Graph) : Nat := g.words.length

/-- Change the node of a word, adding an empty node first if the word is new. -/
def updateWord (ws : List (String × Node)) (w : String) (f : Node → Node) :
    List (String × Node) :=
  if ws.any (fun e => e.1 == w) then ws.map fun e => if e.1 == w then (e.1, f e.2) else e
  else ws ++ [(w, f ({} : Node))]

/-- Count `next` as following `from?` (the start when `none`). A word that is new gets a node. -/
def observe (g : Graph) (from? : Option String) (next : Successor) : Graph :=
  let g := match next with
    | .word w => if g.contains w then g else { g with words := g.words ++ [(w, ({} : Node))] }
    | .stop => g
  match from? with
  | none => { g with start := g.start.observe next }
  | some w => { g with words := updateWord g.words w (·.observe next) }

/-- Count the successions of a list of words, the previous word being `prev`. -/
def learnWords (g : Graph) (prev : Option String) : List String → Graph
  | [] => g.observe prev .stop
  | w :: ws => (g.observe prev (.word w)).learnWords (some w) ws

/-- Learn a sentence; the number of its words comes back. Blank text teaches nothing. -/
def learn (g : Graph) (text : String) : Nat × Graph :=
  match Text.words text with
  | [] => (0, g)
  | ws => (ws.length, g.learnWords none ws)

/-- Delete the words that `doomed` marks, with every edge into them; they come back in
order. -/
def deleteWords (g : Graph) (doomed : String → Bool) : List String × Graph :=
  let removed := (g.words.filter fun e => doomed e.1).map (·.1)
  if removed.isEmpty then ([], g)
  else
    let gone : String → Bool := fun w => removed.contains w
    (removed, { start := g.start.forget gone,
                words := (g.words.filter fun e => !gone e.1).map fun e => (e.1, e.2.forget gone) })

/-- The words with a node among `ws`. -/
def keysAmong (g : Graph) (ws : List String) : List String :=
  g.wordList.filter fun w => ws.contains w

/-- One round of spreading: the words with a node that follow a word of `seen`, added to it. -/
def spread (g : Graph) (seen : List String) : List String :=
  g.keysAmong (seen ++ seen.flatMap fun w => ((g.node? w).map Node.successorWords).getD [])

/-- Spread from `seen` until nothing changes, for at most `fuel` rounds. -/
def closeFrom (g : Graph) : Nat → List String → List String
  | 0, seen => seen
  | fuel + 1, seen =>
    let next := g.spread seen
    if next.length = seen.length then seen else g.closeFrom fuel next

/-- The words with a node that a path of one or more edges from the start reaches. -/
def reachable (g : Graph) : List String :=
  g.closeFrom (g.size + 1) (g.keysAmong g.start.successorWords)

/-- Remove the words no path from the start reaches; they come back in order. -/
def collect (g : Graph) : List String × Graph :=
  let keep := g.reachable
  let gone := g.wordList.filter fun w => !keep.contains w
  (gone, { g with words := g.words.filter fun e => keep.contains e.1 })

/-- Recompute every total; says whether all were right. -/
def check (g : Graph) : Bool × Graph :=
  let (ok0, start) := g.start.recount
  let results := g.words.map fun e => (e.1, e.2.recount)
  (ok0 && results.all (·.2.1), { start, words := results.map fun e => (e.1, e.2.2) })

/-- The sizes of the graph. -/
def stats (g : Graph) : Stats :=
  { words := g.size,
    edges := g.start.edgeCount + (g.words.map fun e => e.2.edgeCount).foldr (· + ·) 0,
    messages := g.start.total }

end Graph

end Chatbot.Words
