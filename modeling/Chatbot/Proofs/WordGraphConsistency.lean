import Chatbot.Proofs.WordCounts

/-!
# A consistent word graph

A word graph is *consistent* when

* (a) every node, the start and each word's, caches the sum of its counts as its total,
* (b) every count is at least one,
* (c) every word that follows a node has a node of its own: no edge dangles,
* (d) the start is followed by words only, never by the end of a sentence,
* (e) every word with a node is non-empty and holds no blank.

A run of learning, deleting, collecting and checking keeps the graph consistent as long as the
64-bit totals do not wrap. `Graph.Tracked N g` adds what a run needs for that: the keys are
distinct, and no total exceeds `N`, the number of observations made so far. This module proves
that learning and deleting keep a graph tracked and that a consistent graph passes the check
unchanged; collecting, and whole runs, are in `Chatbot.Proofs.WordGraphRuns`.

## What is proved

* `Graph.Tracked.observe`, `Graph.Tracked.learn`: learning a sentence of `k` words makes
  `k + 1` observations and keeps the graph tracked.
* `Graph.Tracked.deleteWords`: deleting words, with the edges into them, keeps it tracked.
* `Graph.check_of_consistent`: a consistent graph passes the check and is left as it is.
-/

namespace Chatbot.Words

open Chatbot.Text
open scoped List

/-- A text fit to be a key of the word graph: non-empty, with no blank. -/
def IsWord (w : String) : Prop := w ≠ "" ∧ ∀ c ∈ w.toList, isBlank c = false

/-- The words of a text are fit to be keys. -/
theorem isWord_of_mem_words {text w : String} (h : w ∈ words text) : IsWord w := by
  obtain ⟨cs, hcs, rfl⟩ := List.mem_map.mp h
  refine ⟨fun he => words_ne_nil hcs ?_, fun c hc => not_isBlank_of_mem_words hcs ?_⟩
  · simpa using congrArg String.toList he
  · simpa using hc

/-- How many observations learning a text makes: one per word and one for the end, none for a
blank text. -/
def observationsIn (text : String) : Nat :=
  match words text with
  | [] => 0
  | ws => ws.length + 1

namespace Node

/-- Every word that follows the node is among `ks`. -/
def SuccessorsIn (n : Node) (ks : List String) : Prop :=
  ∀ v, Successor.word v ∈ n.edges.map Prod.fst → v ∈ ks

theorem SuccessorsIn.mono {n : Node} {ks ks' : List String} (h : n.SuccessorsIn ks)
    (hks : ∀ v ∈ ks, v ∈ ks') : n.SuccessorsIn ks' :=
  fun v hv => hks v (h v hv)

/-- Observing a successor that is a word among `ks`, or the end, keeps the successors among
`ks`. -/
theorem SuccessorsIn.observe {n : Node} {ks : List String} {next : Successor}
    (h : n.SuccessorsIn ks) (hknown : ∀ v, next = .word v → v ∈ ks) :
    (n.observe next).SuccessorsIn ks := by
  intro v hv
  rcases mem_successors_bump.mp hv with hv | hv
  · exact hknown v hv.symm
  · exact h v hv

/-- Observing at a node whose total is at most `N` leaves it at most `N + 1`. -/
theorem observe_total_le {n : Node} {N : Nat} (s : Successor) (hn : n.total.toNat ≤ N)
    (hN : N + 1 < 2 ^ 64) : (n.observe s).total.toNat ≤ N + 1 := by
  rw [observe_total s (by omega)]
  omega

theorem mem_successorWords {n : Node} {v : String} :
    v ∈ n.successorWords ↔ Successor.word v ∈ n.edges.map Prod.fst := by
  unfold successorWords
  constructor
  · intro hv
    obtain ⟨e, he, hev⟩ := List.mem_filterMap.mp hv
    obtain ⟨t, c⟩ := e
    cases t with
    | word u => cases hev; exact List.mem_map_of_mem he
    | stop => cases hev
  · intro hv
    obtain ⟨e, he, hev⟩ := List.mem_map.mp hv
    exact List.mem_filterMap.mpr ⟨e, he, by rw [hev]⟩

end Node

namespace Graph

theorem contains_iff {g : Graph} {w : String} : g.contains w = true ↔ w ∈ g.wordList := by
  simp [contains, wordList]

/-- The graph properties (a) to (e). -/
structure Consistent (g : Graph) : Prop where
  /-- (a) and (b) at the start. -/
  start_sound : g.start.Sound
  /-- (a) and (b) at every word. -/
  words_sound : ∀ e ∈ g.words, e.2.Sound
  /-- (c) at the start. -/
  start_known : g.start.SuccessorsIn g.wordList
  /-- (c) at every word. -/
  words_known : ∀ e ∈ g.words, e.2.SuccessorsIn g.wordList
  /-- (d) -/
  start_no_stop : Successor.stop ∉ g.start.edges.map Prod.fst
  /-- (e) -/
  keys_words : ∀ w ∈ g.wordList, IsWord w

/-- A consistent graph with distinct keys whose totals are at most `N`. -/
structure Tracked (N : Nat) (g : Graph) : Prop where
  consistent : g.Consistent
  keys_nodup : g.wordList.Nodup
  start_le : g.start.total.toNat ≤ N
  words_le : ∀ e ∈ g.words, e.2.total.toNat ≤ N

theorem tracked_empty : Tracked 0 ({} : Graph) where
  consistent :=
    { start_sound := Node.sound_empty
      words_sound := fun _ he => by cases he
      start_known := fun _ hv => by cases hv
      words_known := fun _ he => by cases he
      start_no_stop := fun h => by cases h
      keys_words := fun _ hw => by cases hw }
  keys_nodup := List.nodup_nil
  start_le := Nat.le_refl 0
  words_le := fun _ he => by cases he

/-! ### Learning -/

/-- A new word gets an empty node. -/
theorem Tracked.addWord {N : Nat} {g : Graph} {w : String} (hg : Tracked N g) (hw : IsWord w)
    (hnew : w ∉ g.wordList) : Tracked N { g with words := g.words ++ [(w, {})] } := by
  have hkeys : ({ g with words := g.words ++ [(w, {})] } : Graph).wordList = g.wordList ++ [w] := by
    simp [wordList]
  have hc := hg.consistent
  have hold : ∀ v ∈ g.wordList, v ∈ g.wordList ++ [w] := fun v hv => List.mem_append_left _ hv
  refine ⟨⟨hc.start_sound, ?_, ?_, ?_, hc.start_no_stop, ?_⟩, ?_, hg.start_le, ?_⟩
  · intro e he
    rcases List.mem_append.mp he with he | he
    · exact hc.words_sound e he
    · rw [List.mem_singleton.mp he]
      exact Node.sound_empty
  · rw [hkeys]
    exact hc.start_known.mono hold
  · rw [hkeys]
    intro e he
    rcases List.mem_append.mp he with he | he
    · exact (hc.words_known e he).mono hold
    · rw [List.mem_singleton.mp he]
      intro v hv
      cases hv
  · rw [hkeys]
    intro v hv
    rcases List.mem_append.mp hv with hv | hv
    · exact hc.keys_words v hv
    · rw [List.mem_singleton.mp hv]
      exact hw
  · rw [hkeys]
    exact List.nodup_append.mpr ⟨hg.keys_nodup, by simp,
      fun a ha b hb hab => hnew (by rw [List.mem_singleton.mp hb] at hab; exact hab ▸ ha)⟩
  · intro e he
    rcases List.mem_append.mp he with he | he
    · exact hg.words_le e he
    · rw [List.mem_singleton.mp he]
      exact Nat.zero_le N

/-- The start counts one more successor, a word with a node. -/
theorem Tracked.observeStart {N : Nat} {g : Graph} {next : Successor} (hg : Tracked N g)
    (hnext : next ≠ .stop) (hknown : ∀ v, next = .word v → v ∈ g.wordList)
    (hN : N + 1 < 2 ^ 64) : Tracked (N + 1) { g with start := g.start.observe next } := by
  have hc := hg.consistent
  have hbound : g.start.total.toNat + 1 < 2 ^ 64 := by
    have := hg.start_le
    omega
  refine ⟨⟨Node.observe_sound hc.start_sound next hbound, hc.words_sound, ?_, hc.words_known, ?_,
    hc.keys_words⟩, hg.keys_nodup, ?_, fun e he => Nat.le_succ_of_le (hg.words_le e he)⟩
  · exact hc.start_known.observe hknown
  · intro hstop
    rcases Node.mem_successors_bump.mp hstop with h | h
    · exact hnext h.symm
    · exact hc.start_no_stop h
  · exact Node.observe_total_le next hg.start_le hN

theorem updateWord_of_mem {ws : List (String × Node)} {w : String} {f : Node → Node}
    (h : w ∈ ws.map Prod.fst) :
    updateWord ws w f = ws.map fun e => if e.1 == w then (e.1, f e.2) else e := by
  have hany : ws.any (fun e => e.1 == w) = true := by simpa using h
  simp [updateWord, hany]

/-- Changing the node of a word that has one keeps the keys. -/
theorem keys_updateWord {ws : List (String × Node)} {w : String} {f : Node → Node}
    (h : w ∈ ws.map Prod.fst) : (updateWord ws w f).map Prod.fst = ws.map Prod.fst := by
  rw [updateWord_of_mem h, List.map_map]
  refine List.map_congr_left fun e _ => ?_
  simp only [Function.comp_apply]
  split <;> rfl

/-- After changing the node of a word, each node is an old one or the new one of that word. -/
theorem mem_updateWord {ws : List (String × Node)} {w : String} {f : Node → Node}
    {e : String × Node} (h : w ∈ ws.map Prod.fst) (he : e ∈ updateWord ws w f) :
    ∃ e₀ ∈ ws, e = e₀ ∨ e = (e₀.1, f e₀.2) := by
  rw [updateWord_of_mem h] at he
  obtain ⟨e₀, he₀, rfl⟩ := List.mem_map.mp he
  refine ⟨e₀, he₀, ?_⟩
  split
  · exact .inr rfl
  · exact .inl rfl

/-- A word with a node counts one more successor, a word with a node or the end. -/
theorem Tracked.observeWord {N : Nat} {g : Graph} {w : String} {next : Successor}
    (hg : Tracked N g) (hw : w ∈ g.wordList) (hknown : ∀ v, next = .word v → v ∈ g.wordList)
    (hN : N + 1 < 2 ^ 64) :
    Tracked (N + 1) { g with words := updateWord g.words w (·.observe next) } := by
  have hkeys : ({ g with words := updateWord g.words w (·.observe next) } : Graph).wordList =
      g.wordList := keys_updateWord (f := (·.observe next)) hw
  have hc := hg.consistent
  have hbound : ∀ e ∈ g.words, e.2.total.toNat + 1 < 2 ^ 64 := fun e he => by
    have := hg.words_le e he
    omega
  refine ⟨⟨hc.start_sound, ?_, ?_, ?_, hc.start_no_stop, ?_⟩, ?_,
    Nat.le_succ_of_le hg.start_le, ?_⟩
  · intro e he
    obtain ⟨e₀, he₀, rfl | rfl⟩ := mem_updateWord (f := (·.observe next)) hw he
    · exact hc.words_sound _ he₀
    · exact Node.observe_sound (hc.words_sound e₀ he₀) next (hbound e₀ he₀)
  · rw [hkeys]
    exact hc.start_known
  · rw [hkeys]
    intro e he
    obtain ⟨e₀, he₀, rfl | rfl⟩ := mem_updateWord (f := (·.observe next)) hw he
    · exact hc.words_known _ he₀
    · exact (hc.words_known e₀ he₀).observe hknown
  · rw [hkeys]
    exact hc.keys_words
  · rw [hkeys]
    exact hg.keys_nodup
  · intro e he
    obtain ⟨e₀, he₀, rfl | rfl⟩ := mem_updateWord (f := (·.observe next)) hw he
    · exact Nat.le_succ_of_le (hg.words_le _ he₀)
    · exact Node.observe_total_le next (hg.words_le e₀ he₀) hN

/-- **One observation** keeps the graph tracked, one total higher, when it starts at the start or
at a word with a node, the start is not followed by the end, and a word observed is fit to be a
key; that word has a node afterwards. An observed word gets a node first if it has none. -/
theorem Tracked.observe {N : Nat} {g : Graph} {from? : Option String} {next : Successor}
    (hg : Tracked N g) (hfrom : ∀ w, from? = some w → w ∈ g.wordList)
    (hstart : from? = none → next ≠ .stop) (hnext : ∀ v, next = .word v → IsWord v)
    (hN : N + 1 < 2 ^ 64) :
    Tracked (N + 1) (g.observe from? next) ∧ ∀ v, next = .word v → v ∈ (g.observe from? next).wordList := by
  unfold Graph.observe
  cases next with
  | stop =>
    cases from? with
    | none => exact absurd rfl (hstart rfl)
    | some w =>
      exact ⟨hg.observeWord (hfrom w rfl) (fun _ hv => by cases hv) hN, fun _ hv => by cases hv⟩
  | word v =>
    obtain ⟨g₁, hg₁, hsub, hv₁, hg₁eq⟩ : ∃ g₁ : Graph, Tracked N g₁ ∧
        (∀ u ∈ g.wordList, u ∈ g₁.wordList) ∧ v ∈ g₁.wordList ∧
        (if g.contains v then g else { g with words := g.words ++ [(v, {})] }) = g₁ := by
      by_cases hc : g.contains v
      · exact ⟨g, hg, fun u hu => hu, contains_iff.mp hc, if_pos hc⟩
      · refine ⟨_, hg.addWord (hnext v rfl) (fun h => hc (contains_iff.mpr h)), ?_, ?_, if_neg hc⟩
        · intro u hu
          simp [wordList] at hu ⊢
          exact .inl hu
        · simp [wordList]
    dsimp only
    rw [hg₁eq]
    cases from? with
    | none =>
      refine ⟨hg₁.observeStart (fun h => by cases h) (fun u hu => by cases hu; exact hv₁) hN, ?_⟩
      intro u hu
      cases hu
      exact hv₁
    | some w =>
      refine ⟨hg₁.observeWord (hsub w (hfrom w rfl)) (fun u hu => by cases hu; exact hv₁) hN, ?_⟩
      intro u hu
      cases hu
      show v ∈ (updateWord g₁.words w (·.observe (.word v))).map Prod.fst
      rw [keys_updateWord (hsub w (hfrom w rfl))]
      exact hv₁

/-- Learning the words `ws` after `prev` makes one observation per word and one for the end. By
induction on the words: each observed word is the one the next observation starts from. -/
theorem Tracked.learnWords (ws : List String) :
    ∀ {N : Nat} {g : Graph} {prev : Option String}, Tracked N g →
      (∀ w, prev = some w → w ∈ g.wordList) → (prev = none → ws ≠ []) →
      (∀ w ∈ ws, IsWord w) → N + ws.length + 1 < 2 ^ 64 →
      Tracked (N + ws.length + 1) (g.learnWords prev ws) := by
  induction ws with
  | nil =>
    intro N g prev hg hprev hne _ hN
    exact (hg.observe hprev (fun h => absurd rfl (hne h)) (fun _ hv => by cases hv) hN).1
  | cons w ws ih =>
    intro N g prev hg hprev _ hws hN
    simp only [List.length_cons] at hN
    unfold Graph.learnWords
    obtain ⟨hg', hw⟩ := @Tracked.observe N g prev (.word w) hg hprev (fun _ h => by cases h)
      (fun v hv => by cases hv; exact hws w List.mem_cons_self) (by omega)
    have hrest := @ih (N + 1) _ (some w) hg' (fun u hu => by cases hu; exact hw w rfl)
      (fun h => by cases h) (fun u hu => hws u (List.mem_cons_of_mem w hu)) (by omega)
    rw [show N + (w :: ws).length + 1 = N + 1 + ws.length + 1 by simp; omega]
    exact hrest

/-- **Learning a text** keeps the graph tracked, its totals higher by at most the
observations the text makes. -/
theorem Tracked.learn {N : Nat} {g : Graph} (hg : Tracked N g) (text : String)
    (hN : N + observationsIn text < 2 ^ 64) :
    Tracked (N + observationsIn text) (g.learn text).2 := by
  have hwords : ∀ w ∈ Text.words text, IsWord w := fun w hw => isWord_of_mem_words hw
  unfold observationsIn at hN ⊢
  unfold Graph.learn
  cases hws : Text.words text with
  | nil => exact hg
  | cons w ws =>
    simp only [hws] at hN hwords
    exact hg.learnWords (w :: ws) (fun _ h => by cases h) (fun _ => List.cons_ne_nil w ws)
      hwords hN

/-! ### Deleting -/

/-- Forgetting the words that `gone` marks, nodes and edges into them, keeps the graph tracked:
the totals lose exactly the forgotten counts. A word that still follows a node was not forgotten,
so it keeps its node. -/
theorem Tracked.forgetWords {N : Nat} {g : Graph} (hg : Tracked N g) (gone : String → Bool) :
    Tracked N { start := g.start.forget gone,
                words := (g.words.filter fun e => !gone e.1).map fun e => (e.1, e.2.forget gone) } := by
  have hc := hg.consistent
  have hkeys : ∀ v, v ∈ ((g.words.filter fun e => !gone e.1).map fun e =>
      (e.1, e.2.forget gone)).map (·.1) ↔ v ∈ g.wordList ∧ gone v = false := by
    intro v
    simp [wordList]
  have hsub : ((g.words.filter fun e => !gone e.1).map fun e =>
      (e.1, e.2.forget gone)).map (·.1) <+ g.wordList := by
    have hfilter : (g.words.filter fun e => !gone e.1).map (·.1) <+ g.words.map (·.1) :=
      List.filter_sublist.map _
    simpa [wordList, List.map_map, Function.comp_def] using hfilter
  have hknown : ∀ n : Node, n.SuccessorsIn g.wordList →
      (n.forget gone).SuccessorsIn (((g.words.filter fun e => !gone e.1).map fun e =>
        (e.1, e.2.forget gone)).map (·.1)) := by
    intro n hn v hv
    obtain ⟨hv, hkeep⟩ := Node.mem_successors_forget hv
    exact (hkeys v).mpr ⟨hn v hv, hkeep v rfl⟩
  refine ⟨⟨Node.forget_sound hc.start_sound gone, ?_, hknown _ hc.start_known, ?_, ?_, ?_⟩,
    hg.keys_nodup.sublist hsub,
    Nat.le_trans (Node.forget_total_le hc.start_sound gone) hg.start_le, ?_⟩
  · intro e he
    obtain ⟨e₀, he₀, rfl⟩ := List.mem_map.mp he
    exact Node.forget_sound (hc.words_sound e₀ (List.mem_filter.mp he₀).1) gone
  · intro e he
    obtain ⟨e₀, he₀, rfl⟩ := List.mem_map.mp he
    exact hknown _ (hc.words_known e₀ (List.mem_filter.mp he₀).1)
  · intro hstop
    exact hc.start_no_stop (Node.mem_successors_forget hstop).1
  · intro v hv
    exact hc.keys_words v ((hkeys v).mp hv).1
  · intro e he
    obtain ⟨e₀, he₀, rfl⟩ := List.mem_map.mp he
    have he₀' := (List.mem_filter.mp he₀).1
    exact Nat.le_trans (Node.forget_total_le (hc.words_sound e₀ he₀') gone) (hg.words_le e₀ he₀')

/-- **Deleting words** keeps the graph tracked. -/
theorem Tracked.deleteWords {N : Nat} {g : Graph} (hg : Tracked N g) (doomed : String → Bool) :
    Tracked N (g.deleteWords doomed).2 := by
  unfold Graph.deleteWords
  dsimp only
  split
  · exact hg
  · exact hg.forgetWords _

/-! ### Checking -/

/-- **A consistent graph passes the check** and is left as it is. -/
theorem check_of_consistent {g : Graph} (hg : g.Consistent) : g.check = (true, g) := by
  have hwords : (g.words.map fun e => (e.1, e.2.recount)) = g.words.map fun e => (e.1, (true, e.2)) :=
    List.map_congr_left fun e he => by rw [Node.recount_of_sound (hg.words_sound e he)]
  simp [check, Node.recount_of_sound hg.start_sound, hwords, Function.comp_def]

end Graph

end Chatbot.Words
