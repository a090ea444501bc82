import Chatbot.Proofs.WordGraphRuns

/-!
# Collecting exactly the unreachable words

A word is *reached* when a path of one or more edges leads to it from the start and every word
before it on the path has a node (`Graph.Reaches`). Collecting gives back exactly the words with
a node that are not reached, in the order they were learned, and removes their nodes; it changes
nothing else: the start stays, and every reached word keeps its node and its place. None of this
asks the graph to be consistent.

So no node that is left, the start included, has an edge into a collected word, and collecting a
second time finds nothing. Learning only adds edges and nodes, and each word of a learned
sentence is reached through the words before it, so a graph that has only learned sentences has
nothing to collect.

## What is proved

* `Graph.mem_reachable_iff`: the search finds exactly the reached words that have a node.
* `Graph.collect_eq_filter`: collecting keeps exactly the reached words.
* `Graph.collect_of_allReached`: a graph whose words are all reached has nothing to collect.
* `Graph.Reaches.mono`: a graph that keeps every edge of another reaches what it reaches.
* `Graph.AllReached.learn`: learning a sentence keeps every word reached.
* `collect_removes_unreachable`: all of this together.
-/

namespace Chatbot.Words

namespace Graph

/-! ### Reached words -/

/-- A path of one or more edges leads from the start to the word, each word before it on the
path having a node. -/
inductive Reaches (g : Graph) : String → Prop
  /-- The start has an edge to the word. -/
  | start {w : String} : Successor.word w ∈ g.start.edges.map Prod.fst → Reaches g w
  /-- A reached word has a node with an edge to the word. -/
  | step {v w : String} {n : Node} : Reaches g v → g.node? v = some n →
      Successor.word w ∈ n.edges.map Prod.fst → Reaches g w

theorem mem_wordList_of_node? {g : Graph} {v : String} {n : Node} (h : g.node? v = some n) :
    v ∈ g.wordList := by
  have hsome : (g.words.lookup v).isSome = true := by
    simp only [node?] at h
    simp [h]
  obtain ⟨p, hp, hv⟩ := List.lookup_isSome_iff.mp hsome
  rw [beq_iff_eq.mp hv]
  exact List.mem_map_of_mem hp

theorem exists_node?_of_mem {g : Graph} {v : String} (h : v ∈ g.wordList) :
    ∃ n, g.node? v = some n := by
  obtain ⟨p, hp, rfl⟩ := List.mem_map.mp h
  exact Option.isSome_iff_exists.mp (List.lookup_isSome_iff.mpr ⟨p, hp, beq_self_eq_true _⟩)

/-- A round of spreading adds the words with a node that follow a word already seen. -/
theorem mem_spread {g : Graph} {seen : List String} {w : String} :
    w ∈ g.spread seen ↔ w ∈ g.wordList ∧
      (w ∈ seen ∨ ∃ v ∈ seen, ∃ n, g.node? v = some n ∧ w ∈ n.successorWords) := by
  have hnode : ∀ v, w ∈ ((g.node? v).map Node.successorWords).getD [] ↔
      ∃ n, g.node? v = some n ∧ w ∈ n.successorWords := by
    intro v
    cases g.node? v <;> simp
  simp only [spread, mem_keysAmong, List.mem_append, List.mem_flatMap, hnode]

/-- The search only finds reached words with a node. By induction on the rounds left: a round
adds only words that follow a word found before. -/
theorem closeFrom_reached (g : Graph) (fuel : Nat) :
    ∀ seen : List String, (∀ v ∈ seen, v ∈ g.wordList ∧ g.Reaches v) →
      ∀ w ∈ g.closeFrom fuel seen, w ∈ g.wordList ∧ g.Reaches w := by
  induction fuel with
  | zero => exact fun seen hseen => hseen
  | succ fuel ih =>
    intro seen hseen
    have hnext : ∀ w ∈ g.spread seen, w ∈ g.wordList ∧ g.Reaches w := by
      intro w hw
      obtain ⟨hkey, hw | ⟨v, hv, n, hn, hvw⟩⟩ := mem_spread.mp hw
      · exact hseen w hw
      · exact ⟨hkey, .step (hseen v hv).2 hn (Node.mem_successorWords.mp hvw)⟩
    unfold closeFrom
    dsimp only
    split
    · exact hseen
    · exact ih _ hnext

/-- A reached word with a node is found: the search ends on a set closed under edges. -/
theorem mem_reachable_of_reaches {g : Graph} {w : String} (h : g.Reaches w)
    (hkey : w ∈ g.wordList) : w ∈ g.reachable := by
  induction h with
  | start hv => exact reachable_of_start hv hkey
  | step _ hn hvw ih => exact reachable_step (ih (mem_wordList_of_node? hn)) hn hvw hkey

/-- **The search finds exactly the reached words that have a node.** -/
theorem mem_reachable_iff {g : Graph} {w : String} :
    w ∈ g.reachable ↔ w ∈ g.wordList ∧ g.Reaches w := by
  refine ⟨fun hw => closeFrom_reached g _ _ (fun v hv => ?_) w hw,
    fun h => mem_reachable_of_reaches h.2 h.1⟩
  obtain ⟨hkey, hv⟩ := mem_keysAmong.mp hv
  exact ⟨hkey, .start (Node.mem_successorWords.mp hv)⟩

/-! ### Collecting -/

open Classical in
/-- **Collecting keeps exactly the reached words.** It gives back the words that are not reached,
in the order they were learned, and keeps the start and every reached word with its node, in
order. -/
theorem collect_eq_filter (g : Graph) :
    g.collect = (g.wordList.filter fun w => ¬ g.Reaches w,
      { g with words := g.words.filter fun e => g.Reaches e.1 }) := by
  have hkeep : ∀ w ∈ g.wordList, g.reachable.contains w = decide (g.Reaches w) := by
    intro w hw
    simp [mem_reachable_iff, hw]
  simp only [collect]
  congr 1
  · exact List.filter_congr fun w hw => by rw [hkeep w hw, decide_not]
  · congr 1
    exact List.filter_congr fun e he => hkeep e.1 (List.mem_map_of_mem he)

/-- The words collected are those with a node that are not reached. -/
theorem mem_collect_fst {g : Graph} {v : String} :
    v ∈ g.collect.1 ↔ v ∈ g.wordList ∧ ¬ g.Reaches v := by
  rw [collect_eq_filter]
  simp

/-- In a list of nodes kept by their words, a word keeps its node or has none. -/
theorem lookup_filter_key (ws : List (String × Node)) (p : String → Bool) (w : String) :
    (ws.filter fun e => p e.1).lookup w = if p w then ws.lookup w else none := by
  induction ws with
  | nil => simp
  | cons e ws ih =>
    obtain ⟨k, n⟩ := e
    by_cases hwk : w = k
    · subst hwk
      cases hp : p w <;> simp [hp, ih]
    · have hne : (w == k) = false := beq_false_of_ne hwk
      cases hp : p k <;> simp [hp, List.lookup_cons, hne, ih]

/-- After collecting, a found word keeps its node, and any other has none. -/
theorem node?_collect (g : Graph) (w : String) :
    g.collect.2.node? w = if g.reachable.contains w then g.node? w else none :=
  lookup_filter_key g.words _ w

/-- Collecting keeps every path from the start: the words on it are reached, so they keep their
nodes. -/
theorem Reaches.collect {g : Graph} {w : String} (h : g.Reaches w) : g.collect.2.Reaches w := by
  induction h with
  | start hv => exact .start hv
  | step hv hn hvw ih =>
    have hkept : g.reachable.contains _ = true :=
      List.contains_iff_mem.mpr (mem_reachable_iff.mpr ⟨mem_wordList_of_node? hn, hv⟩)
    exact .step ih (by rw [node?_collect, if_pos hkept, hn]) hvw

/-- Every word with a node is reached. -/
def AllReached (g : Graph) : Prop := ∀ w ∈ g.wordList, g.Reaches w

open Classical in
/-- A graph whose words are all reached has nothing to collect. -/
theorem collect_of_allReached {g : Graph} (h : g.AllReached) : g.collect = ([], g) := by
  rw [collect_eq_filter]
  have hnone : (g.wordList.filter fun w => ¬ g.Reaches w) = [] :=
    List.filter_eq_nil_iff.mpr fun w hw => by simp [h w hw]
  have hall : (g.words.filter fun e => g.Reaches e.1) = g.words :=
    List.filter_eq_self.mpr fun e he => by simp [h e.1 (List.mem_map_of_mem he)]
  rw [hnone, hall]

/-- Collecting leaves only reached words, so collecting again finds nothing. -/
@[simp] theorem collect_collect (g : Graph) : g.collect.2.collect = ([], g.collect.2) :=
  collect_of_allReached fun _ hw => (mem_reachable_iff.mp (mem_wordList_collect.mp hw).2).2.collect

/-- No node left by collecting, the start included, has an edge into a collected word. A word
that keeps its node is reached, so what follows it is reached too. -/
theorem not_mem_collect_of_edge (g : Graph) :
    (∀ v, Successor.word v ∈ g.collect.2.start.edges.map Prod.fst → v ∉ g.collect.1) ∧
      ∀ w n, g.collect.2.node? w = some n →
        ∀ v, Successor.word v ∈ n.edges.map Prod.fst → v ∉ g.collect.1 := by
  refine ⟨fun v hv hgone => (mem_collect_fst.mp hgone).2 (.start hv), ?_⟩
  intro w n hn v hv hgone
  rw [node?_collect] at hn
  split at hn
  · rename_i hkept
    have hw := (mem_reachable_iff.mp (List.contains_iff_mem.mp hkept)).2
    exact (mem_collect_fst.mp hgone).2 (.step hw hn hv)
  · cases hn

/-! ### Learning only adds paths -/

/-- `g'` keeps every edge of `g`: those of the start, and those of every word's node. -/
structure Extends (g g' : Graph) : Prop where
  /-- The start keeps its successors. -/
  start : ∀ s ∈ g.start.edges.map Prod.fst, s ∈ g'.start.edges.map Prod.fst
  /-- A word with a node keeps one, with the node's successors. -/
  words : ∀ v n, g.node? v = some n →
    ∃ n', g'.node? v = some n' ∧ ∀ s ∈ n.edges.map Prod.fst, s ∈ n'.edges.map Prod.fst

theorem Extends.trans {g₁ g₂ g₃ : Graph} (h₁ : g₁.Extends g₂) (h₂ : g₂.Extends g₃) :
    g₁.Extends g₃ := by
  refine ⟨fun s hs => h₂.start s (h₁.start s hs), fun v n hn => ?_⟩
  obtain ⟨n₂, hn₂, hs₂⟩ := h₁.words v n hn
  obtain ⟨n₃, hn₃, hs₃⟩ := h₂.words v n₂ hn₂
  exact ⟨n₃, hn₃, fun s hs => hs₃ s (hs₂ s hs)⟩

/-- A graph that keeps every edge of another reaches what it reaches. -/
theorem Reaches.mono {g g' : Graph} (hext : g.Extends g') {w : String} (h : g.Reaches w) :
    g'.Reaches w := by
  induction h with
  | start hv => exact .start (hext.start _ hv)
  | step _ hn hvw ih =>
    obtain ⟨n', hn', hsub⟩ := hext.words _ _ hn
    exact .step ih hn' (hsub _ hvw)

/-- Changing the node of a word changes only its node. -/
theorem lookup_map_update {ws : List (String × Node)} {w v : String} {f : Node → Node}
    {n : Node} (h : ws.lookup v = some n) :
    (ws.map fun e => if e.1 == w then (e.1, f e.2) else e).lookup v =
      some (if v = w then f n else n) := by
  induction ws with
  | nil => cases h
  | cons e ws ih =>
    obtain ⟨k, m⟩ := e
    rw [List.map_cons]
    by_cases hvk : v = k
    · subst hvk
      simp only [List.lookup_cons, beq_self_eq_true, Option.some.injEq] at h
      subst h
      by_cases hvw : v = w <;> simp [hvw]
    · have hne : (v == k) = false := beq_false_of_ne hvk
      simp only [List.lookup_cons, hne] at h
      rw [← ih h]
      split <;> simp only [List.lookup_cons, hne]

/-- After the node of `w` is changed by `f`, a word that had a node has `f` of it, if it is `w`,
and its old node otherwise. A new word is appended, and it is not `v`, which has a node. -/
theorem lookup_updateWord {ws : List (String × Node)} {w v : String} {f : Node → Node}
    {n : Node} (h : ws.lookup v = some n) :
    (updateWord ws w f).lookup v = some (if v = w then f n else n) := by
  by_cases hw : w ∈ ws.map Prod.fst
  · rw [updateWord_of_mem hw]
    exact lookup_map_update h
  · have hvw : v ≠ w := by
      rintro rfl
      exact hw (mem_wordList_of_node? (g := { words := ws }) h)
    unfold updateWord
    rw [if_neg (by simpa using hw), List.lookup_append, h, if_neg hvw]
    rfl

/-- The graph with a node for the observed successor: an empty one for a new word. -/
def withNodeFor (g : Graph) : Successor → Graph
  | .word w => if g.contains w then g else { g with words := g.words ++ [(w, {})] }
  | .stop => g

/-- Observing at the start: the observed word gets its node, then the start counts it. -/
theorem observe_none (g : Graph) (next : Successor) :
    g.observe none next =
      { g.withNodeFor next with start := (g.withNodeFor next).start.observe next } := by
  cases next <;> rfl

/-- Observing after a word: the observed word gets its node, then the word's node counts it. -/
theorem observe_some (g : Graph) (u : String) (next : Successor) :
    g.observe (some u) next =
      { g.withNodeFor next with
        words := updateWord (g.withNodeFor next).words u (·.observe next) } := by
  cases next <;> rfl

@[simp] theorem withNodeFor_start (g : Graph) (next : Successor) :
    (g.withNodeFor next).start = g.start := by
  cases next with
  | word w => by_cases hc : g.contains w <;> simp [withNodeFor, hc]
  | stop => rfl

/-- Giving a new word a node keeps every other node. -/
theorem node?_withNodeFor {g : Graph} {v : String} {n : Node} (next : Successor)
    (h : g.node? v = some n) : (g.withNodeFor next).node? v = some n := by
  cases next with
  | word w =>
    by_cases hc : g.contains w
    · simpa [withNodeFor, hc] using h
    · simp only [withNodeFor, hc, Bool.false_eq_true, if_false, node?, List.lookup_append]
      rw [show g.words.lookup v = some n from h]
      rfl
  | stop => exact h

theorem mem_wordList_withNodeFor {g : Graph} {next : Successor} {v : String} :
    v ∈ (g.withNodeFor next).wordList ↔ v ∈ g.wordList ∨ next = .word v := by
  cases next with
  | stop => simp [withNodeFor]
  | word w =>
    unfold withNodeFor
    by_cases hc : g.contains w
    · simp only [hc, if_true, Successor.word.injEq]
      exact ⟨.inl, fun h => h.elim id fun hw => hw ▸ contains_iff.mp hc⟩
    · simp only [hc, Bool.false_eq_true, if_false, Successor.word.injEq]
      simp [wordList, eq_comm]

/-- After an observation at the word `u`, a word that had a node has it still, with the successor
counted if it is `u`. -/
theorem node?_observe_some {g : Graph} {u v : String} {n : Node} (next : Successor)
    (hn : g.node? v = some n) :
    (g.observe (some u) next).node? v = some (if v = u then n.observe next else n) := by
  rw [observe_some]
  exact lookup_updateWord (w := u) (f := fun x => x.observe next) (node?_withNodeFor next hn)

/-- Observing a successor keeps every edge. The successor is counted at the start or at the node
of the word it follows. -/
theorem extends_observe (g : Graph) (from? : Option String) (next : Successor) :
    g.Extends (g.observe from? next) := by
  cases from? with
  | none =>
    rw [observe_none]
    refine ⟨fun s hs => Node.mem_successors_bump.mpr (.inr ?_), fun _ n h =>
      ⟨n, node?_withNodeFor next h, fun _ hs => hs⟩⟩
    rwa [withNodeFor_start]
  | some u =>
    refine ⟨fun _ h => by rw [observe_some, withNodeFor_start]; exact h, fun v n hn =>
      ⟨if v = u then n.observe next else n, node?_observe_some next hn, fun s hs => ?_⟩⟩
    split
    · exact Node.mem_successors_bump.mpr (.inr hs)
    · exact hs

/-- The keys after an observation that starts at the start or at a word with a node: the old
ones, and the observed word. Counting the successor at a word with a node keeps the keys. -/
theorem mem_wordList_observe {g : Graph} {from? : Option String} {next : Successor} {v : String}
    (hfrom : ∀ u, from? = some u → u ∈ g.wordList) :
    v ∈ (g.observe from? next).wordList ↔ v ∈ g.wordList ∨ next = .word v := by
  rw [← mem_wordList_withNodeFor]
  cases from? with
  | none => rw [observe_none]; rfl
  | some u =>
    have hu : u ∈ (g.withNodeFor next).wordList := mem_wordList_withNodeFor.mpr (.inl (hfrom u rfl))
    rw [observe_some]
    show v ∈ (updateWord _ u (·.observe next)).map Prod.fst ↔ _
    rw [keys_updateWord hu]
    rfl

/-- An observed word is reached when the observation starts at the start or at a reached word
with a node. The word observed from keeps its node, with an edge to `w` counted. -/
theorem reaches_observe_word {g : Graph} {from? : Option String} {w : String}
    (hfrom : ∀ u, from? = some u → u ∈ g.wordList ∧ g.Reaches u) :
    (g.observe from? (.word w)).Reaches w := by
  cases from? with
  | none =>
    rw [observe_none]
    exact .start (Node.mem_successors_bump.mpr (.inl rfl))
  | some u =>
    obtain ⟨hu, hreach⟩ := hfrom u rfl
    obtain ⟨n, hn⟩ := exists_node?_of_mem hu
    have hu' : (g.observe (some u) (.word w)).Reaches u := hreach.mono (extends_observe _ _ _)
    have hn' := node?_observe_some (u := u) (.word w) hn
    rw [if_pos rfl] at hn'
    exact .step hu' hn' (Node.mem_successors_bump.mpr (.inl rfl))

/-- One observation keeps every word reached, when it starts at the start or at a reached word
with a node. -/
theorem AllReached.observe {g : Graph} {from? : Option String} {next : Successor}
    (hg : g.AllReached) (hfrom : ∀ u, from? = some u → u ∈ g.wordList ∧ g.Reaches u) :
    (g.observe from? next).AllReached := by
  intro v hv
  rcases (mem_wordList_observe fun u hu => (hfrom u hu).1).mp hv with hv | rfl
  · exact (hg v hv).mono (extends_observe g from? next)
  · exact reaches_observe_word hfrom

/-- Learning words after `prev` keeps every word reached. By induction on the words: each word
observed is reached, and the next observation starts from it. -/
theorem AllReached.learnWords (ws : List String) :
    ∀ {g : Graph} {prev : Option String}, g.AllReached →
      (∀ u, prev = some u → u ∈ g.wordList ∧ g.Reaches u) → (g.learnWords prev ws).AllReached := by
  induction ws with
  | nil => exact fun hg hprev => hg.observe hprev
  | cons w ws ih =>
    intro g prev hg hprev
    have hw : w ∈ (g.observe prev (.word w)).wordList :=
      (mem_wordList_observe fun u hu => (hprev u hu).1).mpr (.inr rfl)
    exact ih (hg.observe hprev) fun u hu => by
      cases hu
      exact ⟨hw, reaches_observe_word hprev⟩

/-- **Learning a sentence keeps every word reached.** -/
theorem AllReached.learn {g : Graph} (hg : g.AllReached) (text : String) :
    (g.learn text).2.AllReached := by
  unfold Graph.learn
  split
  · exact hg
  · exact hg.learnWords _ fun _ h => by cases h

end Graph

/-- Every graph learned from an empty one, sentence after sentence, has all its words reached. By
induction on the sentences, each learned from the graph the ones before it left. -/
theorem allReached_learned (texts : List String) :
    (({} : Chain).applyEdits (texts.map Edit.learn)).graph.AllReached := by
  suffices ∀ c : Chain, c.graph.AllReached →
      (c.applyEdits (texts.map Edit.learn)).graph.AllReached from
    this {} fun _ hw => by cases hw
  induction texts with
  | nil => exact fun c hc => hc
  | cons t ts ih => exact fun c hc => ih _ (hc.learn t)

open Classical in
/-- **Collecting removes exactly the unreachable words.** For every graph, consistent or not,
collecting gives back, in the order they were learned, exactly the words with a node that no
path of edges from the start reaches through words with nodes, removes exactly their nodes, and
leaves the start and every other word with its node, in order. So no node that is left, the
start included, has an edge into a collected word; collecting again gives back nothing and
changes nothing; and a graph learned sentence by sentence from an empty one has nothing to
collect. -/
theorem collect_removes_unreachable :
    (∀ g : Graph,
      g.collect = (g.wordList.filter fun w => ¬ g.Reaches w,
        { g with words := g.words.filter fun e => g.Reaches e.1 }) ∧
      (∀ v, Successor.word v ∈ g.collect.2.start.edges.map Prod.fst → v ∉ g.collect.1) ∧
      (∀ w n, g.collect.2.node? w = some n →
        ∀ v, Successor.word v ∈ n.edges.map Prod.fst → v ∉ g.collect.1) ∧
      g.collect.2.collect = ([], g.collect.2)) ∧
    ∀ texts : List String,
      (({} : Chain).applyEdits (texts.map Edit.learn)).graph.collect =
        ([], (({} : Chain).applyEdits (texts.map Edit.learn)).graph) :=
  ⟨fun g => ⟨Graph.collect_eq_filter g, (Graph.not_mem_collect_of_edge g).1,
      (Graph.not_mem_collect_of_edge g).2, Graph.collect_collect g⟩,
    fun texts => Graph.collect_of_allReached (allReached_learned texts)⟩

end Chatbot.Words
