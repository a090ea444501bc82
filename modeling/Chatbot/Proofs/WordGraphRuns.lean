import Chatbot.Proofs.WordGraphConsistency

/-!
# Runs of edits on the word model

Collecting keeps the words that a path of edges from the start reaches. The search spreads
from the start's successors one round at a time and stops when a round adds nothing; it is
given one round more than there are words, and every round that does not stop adds a word, so
it always stops on a set that is closed under succession. That is what keeps collecting from
leaving an edge dangling.

A run of edits (learning a text, deleting the words a pattern matches, collecting, checking)
from an empty word model keeps the graph consistent as long as it makes fewer than `2 ^ 64`
observations, and the check then finds every total right and changes nothing.

## What is proved

* `Graph.reachable_closed`: the search for reachable words ends on a set that includes the
  start's successors and that a further round of spreading does not change; so
  `Graph.reachable_step`, a word with a node that follows a reachable word is reachable.
* `Graph.Tracked.collect`: collecting keeps the graph tracked.
* `Graph.Tracked.afterEdits`: so does every run of edits, within the bound.
* `afterEdits_consistent_checked`: every graph a run of edits reaches from an empty model,
  with fewer than `2 ^ 64` observations, is consistent and passes the check unchanged.
-/

namespace Chatbot.Words

open scoped List

namespace Graph

/-! ### Reachability -/

theorem mem_keysAmong {g : Graph} {ws : List String} {v : String} :
    v ∈ g.keysAmong ws ↔ v ∈ g.wordList ∧ v ∈ ws := by
  simp [keysAmong]

theorem keysAmong_sublist (g : Graph) (ws : List String) : g.keysAmong ws <+ g.wordList :=
  List.filter_sublist

/-- A round of spreading keeps the words already seen. -/
theorem sublist_spread {g : Graph} {seen : List String} (h : seen <+ g.wordList) :
    seen <+ g.spread seen := by
  let p := fun w => (seen ++ seen.flatMap fun w =>
      ((g.node? w).map Node.successorWords).getD []).contains w
  have hall : seen.filter p = seen := List.filter_eq_self.mpr fun w hw => by simp [p, hw]
  have hsub := h.filter p
  rw [hall] at hsub
  exact hsub

/-- **The search for reachable words stops on a closed set.** Given more rounds than the words it
has yet to find, spreading from `seen` ends on words that include `seen` and that a further round
does not change. By induction on the rounds left: a round that does not stop adds a word. -/
theorem closeFrom_closed (g : Graph) (fuel : Nat) :
    ∀ seen : List String, seen <+ g.wordList → g.wordList.length < fuel + seen.length →
      seen <+ g.closeFrom fuel seen ∧ g.spread (g.closeFrom fuel seen) = g.closeFrom fuel seen := by
  induction fuel with
  | zero =>
    intro seen hseen hlen
    have := hseen.length_le
    omega
  | succ fuel ih =>
    intro seen hseen hlen
    have hnext : seen <+ g.spread seen := sublist_spread hseen
    unfold closeFrom
    dsimp only
    split
    · rename_i heq
      exact ⟨List.Sublist.refl _, (hnext.eq_of_length heq.symm).symm⟩
    · rename_i hne
      have hlonger : seen.length < (g.spread seen).length := by
        have := hnext.length_le
        omega
      obtain ⟨hsub, hfix⟩ := ih (g.spread seen) (keysAmong_sublist _ _) (by omega)
      exact ⟨hnext.trans hsub, hfix⟩

/-- The reachable words include the start's successors with a node, and a round of spreading
changes nothing. -/
theorem reachable_closed (g : Graph) :
    g.keysAmong g.start.successorWords <+ g.reachable ∧ g.spread g.reachable = g.reachable :=
  closeFrom_closed g (g.size + 1) _ (keysAmong_sublist _ _) (by simp [size, wordList]; omega)

/-- In a list with distinct keys, a key looks up the value listed with it. -/
theorem lookup_of_mem {ws : List (String × Node)} (hnodup : (ws.map (·.1)).Nodup)
    {e : String × Node} (he : e ∈ ws) : ws.lookup e.1 = some e.2 := by
  induction ws with
  | nil => cases he
  | cons e' es ih =>
    obtain ⟨k, n⟩ := e'
    obtain ⟨hnotin, hnodup'⟩ := List.nodup_cons.mp hnodup
    rcases List.mem_cons.mp he with rfl | he
    · simp
    · have hne : (e.1 == k) = false :=
        beq_eq_false_iff_ne.mpr fun h => hnotin (List.mem_map.mpr ⟨e, he, h⟩)
      rw [List.lookup_cons, hne]
      exact ih hnodup' he

/-- With distinct keys, a word's node is the one listed with it. -/
theorem node?_of_mem {g : Graph} (hnodup : g.wordList.Nodup) {e : String × Node}
    (he : e ∈ g.words) : g.node? e.1 = some e.2 :=
  lookup_of_mem hnodup he

/-- A word with a node that follows a reachable word is reachable: one more round of spreading
would add it, and a round adds nothing. -/
theorem reachable_step {g : Graph} {w v : String} {n : Node} (hw : w ∈ g.reachable)
    (hn : g.node? w = some n) (hv : Successor.word v ∈ n.edges.map Prod.fst)
    (hvkey : v ∈ g.wordList) : v ∈ g.reachable := by
  rw [← (reachable_closed g).2]
  refine mem_keysAmong.mpr ⟨hvkey, List.mem_append_right _ (List.mem_flatMap.mpr ⟨w, hw, ?_⟩)⟩
  simp [hn, Node.mem_successorWords.mpr hv]

/-- A word with a node that follows the start is reachable. -/
theorem reachable_of_start {g : Graph} {v : String}
    (hv : Successor.word v ∈ g.start.edges.map Prod.fst) (hvkey : v ∈ g.wordList) :
    v ∈ g.reachable :=
  (reachable_closed g).1.subset (mem_keysAmong.mpr ⟨hvkey, Node.mem_successorWords.mpr hv⟩)

/-! ### Collecting -/

/-- Collecting keeps the entries of the reachable words. -/
theorem mem_words_collect {g : Graph} {e : String × Node} :
    e ∈ g.collect.2.words ↔ e ∈ g.words ∧ e.1 ∈ g.reachable := by
  simp [collect]

theorem mem_wordList_collect {g : Graph} {v : String} :
    v ∈ g.collect.2.wordList ↔ v ∈ g.wordList ∧ v ∈ g.reachable := by
  simp [collect, wordList]

/-- **Collecting** keeps the graph tracked: what follows a kept word is reachable too, so it
is kept. -/
theorem Tracked.collect {N : Nat} {g : Graph} (hg : Tracked N g) : Tracked N g.collect.2 := by
  have hc := hg.consistent
  have hsub : g.collect.2.wordList <+ g.wordList := List.filter_sublist.map _
  refine ⟨⟨hc.start_sound, fun e he => hc.words_sound e (mem_words_collect.mp he).1, ?_, ?_,
    hc.start_no_stop, fun v hv => hc.keys_words v (mem_wordList_collect.mp hv).1⟩,
    hg.keys_nodup.sublist hsub, hg.start_le, fun e he => hg.words_le e (mem_words_collect.mp he).1⟩
  · intro v hv
    have hvkey := hc.start_known v hv
    exact mem_wordList_collect.mpr ⟨hvkey, reachable_of_start hv hvkey⟩
  · intro e he v hv
    obtain ⟨he, hreach⟩ := mem_words_collect.mp he
    have hvkey := hc.words_known e he v hv
    exact mem_wordList_collect.mpr
      ⟨hvkey, reachable_step hreach (node?_of_mem hg.keys_nodup he) hv hvkey⟩

/-- Checking a tracked graph changes nothing, so it stays tracked. -/
theorem Tracked.check {N : Nat} {g : Graph} (hg : Tracked N g) : Tracked N g.check.2 := by
  rw [check_of_consistent hg.consistent]
  exact hg

end Graph

/-! ### Runs of edits -/

/-- One change the bot's commands make to the word model. -/
inductive Edit where
  /-- Learn the words of a text. -/
  | learn (text : String)
  /-- Delete the words a pattern matches; a pattern that does not compile changes nothing. -/
  | delete (pattern : String)
  /-- Collect the words the start no longer reaches. -/
  | collect
  /-- Check and repair the totals. -/
  | check
  deriving DecidableEq, Repr

namespace Edit

/-- Make one edit. -/
def apply (c : Chain) : Edit → Chain
  | .learn text => (c.learn text).2
  | .delete pattern =>
    match c.deleteWords pattern with
    | .ok (_, c') => c'
    | .error _ => c
  | .collect => c.collect.2
  | .check => c.check.2

/-- The successors an edit observes: learning a text observes each word's follower. -/
def observations : Edit → Nat
  | .learn text => observationsIn text
  | _ => 0

end Edit

/-- Make edits one after another. -/
def Chain.applyEdits (c : Chain) (edits : List Edit) : Chain := edits.foldl Edit.apply c

namespace Graph

/-- **One edit** keeps the graph tracked, its observations added to the bound. A pattern that
does not compile is refused before anything changes. -/
theorem Tracked.apply {N : Nat} {c : Chain} (hg : Tracked N c.graph) (e : Edit)
    (hN : N + e.observations < 2 ^ 64) : Tracked (N + e.observations) (e.apply c).graph := by
  cases e with
  | learn text => exact hg.learn text hN
  | delete pattern =>
    dsimp only [Edit.apply, Edit.observations, Chain.deleteWords, Nat.add_zero]
    cases Chain.compilePattern pattern with
    | error _ => exact hg
    | ok p => exact hg.deleteWords _
  | collect => exact hg.collect
  | check => exact hg.check

/-- **A run of edits** keeps the graph tracked, every observation added to the bound. -/
theorem Tracked.applyEdits {N : Nat} {c : Chain} (hg : Tracked N c.graph) (edits : List Edit)
    (hN : N + (edits.map Edit.observations).sum < 2 ^ 64) :
    Tracked (N + (edits.map Edit.observations).sum) (c.applyEdits edits).graph := by
  induction edits generalizing N c with
  | nil => exact hg
  | cons e es ih =>
    simp only [List.map_cons, List.sum_cons] at hN ⊢
    have hstep := hg.apply e (by omega)
    rw [← Nat.add_assoc]
    exact ih hstep (by omega)

end Graph

/-- **The word model stays consistent.** Every graph that a run of edits reaches from an empty
model, observing fewer than `2 ^ 64` successors in all, is consistent: every total is the sum
of its counts, no count is zero, no edge leads to a word without a node, the start is never
followed by the end of a text, and every key is a word. The check then finds nothing to repair
and leaves the graph as it is. -/
theorem applyEdits_consistent_checked (edits : List Edit)
    (hN : (edits.map Edit.observations).sum < 2 ^ 64) :
    (({} : Chain).applyEdits edits).graph.Consistent ∧
      (({} : Chain).applyEdits edits).graph.check = (true, (({} : Chain).applyEdits edits).graph) := by
  have hrun := Graph.tracked_empty.applyEdits (c := {}) edits (by omega)
  exact ⟨hrun.consistent, Graph.check_of_consistent hrun.consistent⟩

/-- Learning a text, deleting one of its words, collecting and checking. -/
theorem learn_delete_collect_consistent :
    ([Edit.learn "a b c", .delete "^b$", .collect, .check].map Edit.observations).sum < 2 ^ 64 ∧
      (({} : Chain).applyEdits [.learn "a b c", .delete "^b$", .collect, .check]).graph.Consistent ∧
      (({} : Chain).applyEdits [.learn "a b c", .delete "^b$", .collect, .check]).graph.check =
        (true, (({} : Chain).applyEdits [.learn "a b c", .delete "^b$", .collect, .check]).graph) :=
  have hN : ([Edit.learn "a b c", .delete "^b$", .collect, .check].map Edit.observations).sum <
      2 ^ 64 := by decide +kernel
  ⟨hN, applyEdits_consistent_checked _ hN⟩

end Chatbot.Words
