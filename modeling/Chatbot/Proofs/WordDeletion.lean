import Chatbot.Proofs.WordGraphRuns

/-!
# Deleting words

`markovdel` deletes the learned words that a pattern matches. The pattern is compiled first,
and one that does not compile is refused before the word model is touched: the deletion gives
back only the error, and the caller keeps the model it had. Otherwise the words the pattern
matches somewhere come back in the order they were learned, exactly as finding them lists them,
and the graph loses them:

* their nodes go, and every other word keeps its node and its place;
* every node left, the start included, loses its edges into them and keeps every other edge,
  with its count, in its place;
* a node's total goes down by exactly the counts of the edges it lost.

The last point rests on the graph being consistent. A total is then the sum of the counts, so
the counts dropped are at most the total, and taking them off neither wraps around nor stops
at zero; on a node whose total is wrong the subtraction would stop at zero and hide it.

## What is proved

* `Node.forget_pruned`: forgetting the edges into some words prunes a sound node.
* `Graph.deleteWords_pruned`: deleting words prunes a graph whose nodes are sound.
* `deleteWords_prunes_matching`: all of this for a pattern given by its source.
-/

namespace Chatbot.Words

open Chatbot.Pattern

/-- Whether a successor is one of the words of `ws`. -/
def Successor.isIn (ws : List String) : Successor → Bool
  | .word w => decide (w ∈ ws)
  | .stop => false

@[simp] theorem Successor.isIn_nil (s : Successor) : s.isIn [] = false := by
  cases s <;> simp [Successor.isIn]

namespace Node

/-- `n'` is `n` without its edges into the words of `gone`: every other edge stays, with its
count and in its place, and the total is lower by exactly the counts of the edges dropped. -/
structure Pruned (gone : List String) (n n' : Node) : Prop where
  /-- The edges left are the edges into other successors, in their order. -/
  edges_eq : n'.edges = n.edges.filter fun e => !e.1.isIn gone
  /-- The total lost exactly the counts of the edges dropped. -/
  total_add : n'.total.toNat + countSum (n.edges.filter fun e => e.1.isIn gone) = n.total.toNat

/-- Pruning no word leaves a node as it is. -/
theorem pruned_nil (n : Node) : n.Pruned [] n where
  edges_eq := by simp
  total_add := by simp

/-- Forgetting the words of a list drops the edges into them. The edges marked are those into the
words of the list, in either spelling. -/
theorem forget_eq (n : Node) (gone : List String) :
    n.forget (fun w => gone.contains w) =
      { edges := n.edges.filter (fun e => !e.1.isIn gone),
        total := if sumCounts (n.edges.filter fun e => e.1.isIn gone) ≤ n.total
          then n.total - sumCounts (n.edges.filter fun e => e.1.isIn gone) else 0 } := by
  unfold forget
  dsimp only
  congr <;> funext e <;> rcases e with ⟨_ | _, _⟩ <;> simp [Successor.isIn]

/-- **Forgetting prunes a sound node**: the total, the sum of the counts, loses exactly the
counts forgotten. -/
theorem forget_pruned {n : Node} (hn : n.Sound) (gone : List String) :
    n.Pruned gone (n.forget fun w => gone.contains w) := by
  rw [forget_eq]
  refine ⟨rfl, ?_⟩
  have hleft := dropEdges_total hn fun e => e.1.isIn gone
  have hsplit := countSum_filter_add n.edges fun e => e.1.isIn gone
  have htotal := hn.total_eq
  dsimp only at hleft ⊢
  omega

end Node

namespace Graph

/-- `g'` is `g` without the words of `gone`: their nodes are gone, every other word keeps its
place, and every node left, the start included, is pruned of the edges into them. -/
structure Pruned (gone : List String) (g g' : Graph) : Prop where
  /-- The start loses its edges into the words. -/
  start : g.start.Pruned gone g'.start
  /-- The other words keep their places, each with its node pruned. -/
  words : List.Forall₂ (fun e e' => e'.1 = e.1 ∧ e.2.Pruned gone e'.2)
    (g.words.filter fun e => e.1 ∉ gone) g'.words

/-- Entries that keep their keys keep the list of keys. -/
theorem keys_of_forall₂ {R : Node → Node → Prop} :
    ∀ {ws ws' : List (String × Node)},
      List.Forall₂ (fun e e' => e'.1 = e.1 ∧ R e.2 e'.2) ws ws' →
      ws'.map Prod.fst = ws.map Prod.fst
  | _, _, .nil => rfl
  | _, _, .cons h hs => by rw [List.map_cons, List.map_cons, h.1, keys_of_forall₂ hs]

/-- A pruned graph has the other words, in their order. -/
theorem Pruned.wordList_eq {gone : List String} {g g' : Graph} (h : g.Pruned gone g') :
    g'.wordList = g.wordList.filter fun w => w ∉ gone := by
  rw [wordList, keys_of_forall₂ h.words, wordList, List.filter_map]
  rfl

/-- The words deleted are the words marked, in order. -/
theorem deleteWords_fst (g : Graph) (doomed : String → Bool) :
    (g.deleteWords doomed).1 = g.wordList.filter doomed := by
  have hremoved : (g.words.filter fun e => doomed e.1).map Prod.fst = g.wordList.filter doomed := by
    rw [wordList, List.filter_map]
    rfl
  unfold deleteWords
  dsimp only
  split
  · rename_i hempty
    rw [← hremoved, List.isEmpty_iff.mp hempty]
  · exact hremoved

/-- **Deleting prunes the words deleted** from a graph whose nodes are sound. -/
theorem deleteWords_pruned {g : Graph} (hstart : g.start.Sound)
    (hwords : ∀ e ∈ g.words, e.2.Sound) (doomed : String → Bool) :
    g.Pruned (g.deleteWords doomed).1 (g.deleteWords doomed).2 := by
  have hremoved : (g.words.filter fun e => doomed e.1).map Prod.fst = g.wordList.filter doomed := by
    rw [wordList, List.filter_map]
    rfl
  rw [deleteWords_fst]
  unfold deleteWords
  dsimp only
  split
  · rename_i hempty
    rw [← hremoved, List.isEmpty_iff.mp hempty]
    refine ⟨Node.pruned_nil _, ?_⟩
    rw [List.filter_eq_self.mpr fun e _ => by simp]
    exact List.forall₂_same.mpr fun e _ => ⟨rfl, Node.pruned_nil _⟩
  · rw [hremoved]
    refine ⟨Node.forget_pruned hstart _, ?_⟩
    have hkeep : (g.words.filter fun e => !(g.wordList.filter doomed).contains e.1) =
        g.words.filter fun e => e.1 ∉ g.wordList.filter doomed := by
      refine List.filter_congr fun e _ => ?_
      simp
    rw [hkeep, List.forall₂_map_right_iff, List.forall₂_same]
    intro e he
    exact ⟨rfl, Node.forget_pruned (hwords e (List.mem_filter.mp he).1) _⟩

end Graph

namespace Chain

theorem compilePattern_of_error {source : String} {e : CompileError}
    (h : compile source = .error e) :
    compilePattern source = .error (.invalidPattern source e) := by
  simp [compilePattern, h]

theorem compilePattern_of_ok {source : String} {p : Regex} (h : compile source = .ok p) :
    compilePattern source = .ok p := by
  simp [compilePattern, h]

/-- Finding words with a pattern that compiles lists the words it matches, in order. -/
theorem findWords_of_ok (c : Chain) {source : String} {p : Regex} (h : compile source = .ok p) :
    c.findWords source = .ok (c.graph.wordList.filter p.isMatch) := by
  simp only [findWords, compilePattern_of_ok h]
  rfl

/-- Deleting words with a pattern that compiles deletes the words it matches from the graph. -/
theorem deleteWords_of_ok (c : Chain) {source : String} {p : Regex} (h : compile source = .ok p) :
    c.deleteWords source =
      .ok ((c.graph.deleteWords p.isMatch).1,
        { c with graph := (c.graph.deleteWords p.isMatch).2 }) := by
  simp only [deleteWords, compilePattern_of_ok h]
  rfl

/-- Deleting words with a pattern that does not compile is refused with its error. -/
theorem deleteWords_of_error (c : Chain) {source : String} {e : CompileError}
    (h : compile source = .error e) : c.deleteWords source = .error (.invalidPattern source e) := by
  simp only [deleteWords, compilePattern_of_error h]
  rfl

end Chain

/-- **Deleting the words a pattern matches.** From a consistent graph: a pattern that does not
compile is refused with its error, and nothing is deleted. A pattern that compiles gives back
the words it matches, in the order they were learned, as finding them does; the graph left
has the other words, in their order, and is the old one pruned of the words given back: their
nodes are gone, and every node left, the start included, has lost its edges into them and
kept every other edge with its count and in its place, its total lower by exactly the counts
it lost. -/
theorem deleteWords_prunes_matching (c : Chain) (source : String) (hg : c.graph.Consistent) :
    (∀ e, compile source = .error e →
      c.deleteWords source = .error (.invalidPattern source e)) ∧
    ∀ p, compile source = .ok p →
      c.findWords source = .ok (c.graph.wordList.filter p.isMatch) ∧
      ∃ g', c.deleteWords source =
          .ok (c.graph.wordList.filter p.isMatch, { c with graph := g' }) ∧
        g'.wordList = c.graph.wordList.filter (fun w => !p.isMatch w) ∧
        c.graph.Pruned (c.graph.wordList.filter p.isMatch) g' := by
  refine ⟨fun e he => Chain.deleteWords_of_error c he, fun p hp =>
    ⟨c.findWords_of_ok hp, ?_⟩⟩
  have hpruned := Graph.deleteWords_pruned hg.start_sound hg.words_sound p.isMatch
  rw [Graph.deleteWords_fst] at hpruned
  refine ⟨_, by rw [Chain.deleteWords_of_ok c hp, Graph.deleteWords_fst], ?_, hpruned⟩
  rw [hpruned.wordList_eq]
  refine List.filter_congr fun w hw => ?_
  simp [hw]

/-- Deleting by a pattern from the graph learned from `a b` and `a c`. -/
theorem deleting_from_two_sentences :
    (({} : Chain).applyEdits [.learn "a b", .learn "a c"]).graph.Consistent ∧
    (∀ e, compile "^b$" = .error e →
      (({} : Chain).applyEdits [.learn "a b", .learn "a c"]).deleteWords "^b$" =
        .error (.invalidPattern "^b$" e)) ∧
    ∀ p, compile "^b$" = .ok p →
      (({} : Chain).applyEdits [.learn "a b", .learn "a c"]).findWords "^b$" =
        .ok ((({} : Chain).applyEdits [.learn "a b", .learn "a c"]).graph.wordList.filter
          p.isMatch) ∧
      ∃ g', (({} : Chain).applyEdits [.learn "a b", .learn "a c"]).deleteWords "^b$" =
          .ok ((({} : Chain).applyEdits [.learn "a b", .learn "a c"]).graph.wordList.filter
            p.isMatch,
            { ({} : Chain).applyEdits [.learn "a b", .learn "a c"] with graph := g' }) ∧
        g'.wordList = (({} : Chain).applyEdits [.learn "a b", .learn "a c"]).graph.wordList.filter
          (fun w => !p.isMatch w) ∧
        (({} : Chain).applyEdits [.learn "a b", .learn "a c"]).graph.Pruned
          ((({} : Chain).applyEdits [.learn "a b", .learn "a c"]).graph.wordList.filter p.isMatch)
          g' :=
  have hc := (Graph.tracked_empty.applyEdits (c := {}) [.learn "a b", .learn "a c"]
    (by decide +kernel)).consistent
  ⟨hc, deleteWords_prunes_matching _ "^b$" hc⟩

end Chatbot.Words
