import Chatbot.Proofs.WordCollection

/-!
# What learning a sentence counts

A sentence of words `t₁ … tₙ` teaches the *successions* `(t₀, t₁), (t₁, t₂), …, (tₙ, tₙ₊₁)`,
where `t₀` stands for the start and `tₙ₊₁` for the end of the sentence. Learning it, in any
graph:

* raises the count of each succession `(u, s)` by the number of times it occurs, and nothing
  else: a count is a 64-bit word, so it wraps around past the largest one;
* raises each node's total by the number of successions that leave it;
* appends the words that have no node yet to the words, each once, in the order they first
  occur, and appends the successors a node has not seen yet to its edges, in the order they
  are first seen after it;
* leaves the node of every other word as it was.

A blank text teaches nothing. So in a graph learned sentence by sentence from an empty one,
a word's total is the sum of the counts of the edges into it (every occurrence of a word is
followed by something), and the counts of the edges into the end add up to the start's total,
the number of sentences that were not blank.

The views of a graph used here are `Graph.countAt`, `Graph.totalAt` and `Graph.successorsAt`
for a *place*, the start (`none`) or a word (`some w`); a word without a node has no
successors, counts and total zero.

## What is proved

* `Graph.countAt_observe`, `Graph.totalAt_observe`, `Graph.successorsAt_observe`,
  `Graph.wordList_observe`: what one observation changes.
* `Graph.countAt_learnWords` … `Graph.node?_learnWords`: what learning words after a place
  changes, by induction on the words.
* `Graph.inflow_learnWords`, `Graph.Balanced.learn`: learning adds to the counts into a
  successor as it adds to the totals, so it keeps a graph balanced.
* `learn_counts_successions`: all of this for a text, and the balance of a learned graph.
-/

namespace Chatbot.Words

/-- The successions a sentence teaches after `prev`: `prev` followed by its first word, each
word by the next, and the last word by the end. After the start (`none`) these are the pairs
`(t₀, t₁), …, (tₙ, tₙ₊₁)` of the sentence. -/
def successionsAfter (prev : Option String) (ws : List String) :
    List (Option String × Successor) :=
  (prev :: ws.map some).zip (ws.map .word ++ [.stop])

@[simp] theorem successionsAfter_nil (prev : Option String) :
    successionsAfter prev [] = [(prev, .stop)] := rfl

@[simp] theorem successionsAfter_cons (prev : Option String) (w : String) (ws : List String) :
    successionsAfter prev (w :: ws) = (prev, .word w) :: successionsAfter (some w) ws := rfl

/-- The successors that follow the place `u` among some successions, in order. -/
def followersOf (u : Option String) (ps : List (Option String × Successor)) : List Successor :=
  ps.filterMap fun p => if p.1 = u then some p.2 else none

/-- `known` followed by the members of `xs` it lacks, each once, in the order they first occur
in `xs`: how the keys of an insertion-ordered map grow. -/
def appendNew {α : Type} [DecidableEq α] (known xs : List α) : List α :=
  known ++ (xs.removeAll known).eraseDups

section AppendNew

variable {α : Type} [DecidableEq α]

@[simp] theorem appendNew_nil (known : List α) : appendNew known [] = known := by
  simp [appendNew, List.removeAll]

theorem mem_removeAll {x : α} {xs ys : List α} :
    x ∈ xs.removeAll ys ↔ x ∈ xs ∧ x ∉ ys := by
  simp [List.removeAll]

/-- Growing by `xs` and then by `ys` is growing by both. -/
theorem appendNew_append (known xs ys : List α) :
    appendNew (appendNew known xs) ys = appendNew known (xs ++ ys) := by
  have hfilter : (ys.removeAll (known ++ (xs.removeAll known).eraseDups)) =
      (ys.removeAll known).removeAll (xs.removeAll known) := by
    simp only [List.removeAll]
    rw [List.filter_filter]
    refine List.filter_congr fun y _ => ?_
    simp [List.mem_eraseDups, Bool.and_comm]
  simp only [appendNew, List.append_assoc, hfilter]
  congr 1
  rw [← List.eraseDups_append]
  congr 1
  simp [List.removeAll, List.filter_append]

/-- Growing by one member: it is appended unless it is known. -/
theorem appendNew_singleton (known : List α) (x : α) :
    appendNew known [x] = if x ∈ known then known else known ++ [x] := by
  by_cases hx : x ∈ known <;> simp [appendNew, List.removeAll, hx, List.eraseDups_cons]

theorem nodup_eraseDups : ∀ (l : List α), l.eraseDups.Nodup
  | [] => List.nodup_nil
  | a :: l => by
    rw [List.eraseDups_cons]
    refine List.nodup_cons.mpr ⟨?_, nodup_eraseDups _⟩
    simp [List.mem_eraseDups]
termination_by l => l.length
decreasing_by exact Nat.lt_succ_of_le (List.length_filter_le _ _)

theorem nodup_appendNew {known : List α} (h : known.Nodup) (xs : List α) :
    (appendNew known xs).Nodup := by
  refine List.nodup_append.mpr ⟨h, nodup_eraseDups _, ?_⟩
  intro a ha b hb hab
  subst hab
  exact (mem_removeAll.mp (List.mem_eraseDups.mp hb)).2 ha

theorem mem_appendNew {known xs : List α} {x : α} :
    x ∈ appendNew known xs ↔ x ∈ known ∨ x ∈ xs := by
  simp only [appendNew, List.mem_append, List.mem_eraseDups, mem_removeAll]
  tauto

end AppendNew

/-- The words a successor adds as a key: itself, if it is a word. -/
def Successor.words : Successor → List String
  | .word w => [w]
  | .stop => []

namespace Node

/-- The successors of a node, in the order they were first seen. -/
def successors (n : Node) : List Successor := n.edges.map Prod.fst

/-- Bumping a successor appends it to the successors if it is new. -/
theorem keys_bump (es : List (Successor × UInt64)) (s : Successor) :
    (bump es s).map Prod.fst = appendNew (es.map Prod.fst) [s] := by
  rw [appendNew_singleton]
  induction es with
  | nil => rfl
  | cons e es ih =>
    obtain ⟨t, c⟩ := e
    unfold bump
    by_cases hts : t = s
    · subst hts
      simp
    · have hne : s ≠ t := Ne.symm hts
      simp only [hts, if_false, List.map_cons, ih, List.mem_cons, hne, false_or]
      split <;> rfl

@[simp] theorem successors_observe (n : Node) (s : Successor) :
    (n.observe s).successors = appendNew n.successors [s] :=
  keys_bump n.edges s

@[simp, grind =]
theorem total_observe (n : Node) (s : Successor) : (n.observe s).total = n.total + 1 := rfl

@[simp, grind =] theorem count_empty (s : Successor) : ({} : Node).count s = 0 := rfl

@[simp] theorem successors_empty : ({} : Node).successors = [] := rfl

end Node

namespace Graph

/-! ### Views of a place -/

/-- The node of a place: the start for `none`, a word's node for `some w`. -/
def nodeAt (g : Graph) : Option String → Option Node
  | none => some g.start
  | some w => g.node? w

/-- How often `s` followed the place `u`; nothing followed a word without a node. -/
def countAt (g : Graph) (u : Option String) (s : Successor) : UInt64 :=
  ((g.nodeAt u).map fun n => n.count s).getD 0

/-- The total of the place `u`; a word without a node has total zero. -/
def totalAt (g : Graph) (u : Option String) : UInt64 :=
  ((g.nodeAt u).map Node.total).getD 0

/-- The successors of the place `u`, in the order first seen; none for a word without a node. -/
def successorsAt (g : Graph) (u : Option String) : List Successor :=
  ((g.nodeAt u).map Node.successors).getD []

theorem node?_eq_none {g : Graph} {w : String} (h : w ∉ g.wordList) : g.node? w = none := by
  cases hn : g.node? w with
  | none => rfl
  | some n => exact absurd (mem_wordList_of_node? hn) h

/-- A place that is the start or a word with a node has a node. -/
theorem nodeAt_isSome {g : Graph} {u : Option String}
    (hu : ∀ w, u = some w → w ∈ g.wordList) :
    (g.nodeAt u).isSome := by
  cases u with
  | none => rfl
  | some w =>
    obtain ⟨n, hn⟩ := exists_node?_of_mem (hu w rfl)
    simp [nodeAt, hn]

/-! ### Giving the observed word a node -/

/-- Giving the observed word a node keeps every node, and adds an empty one only for a new
word that is observed. -/
theorem nodeAt_withNodeFor (g : Graph) (next : Successor) (u : Option String) :
    (g.withNodeFor next).nodeAt u = g.nodeAt u ∨
      (g.nodeAt u = none ∧ (∃ w, u = some w ∧ next = .word w) ∧
        (g.withNodeFor next).nodeAt u = some {}) := by
  cases next with
  | stop => exact .inl rfl
  | word w =>
    by_cases hc : g.contains w
    · left
      simp [withNodeFor, hc]
    · cases u with
      | none =>
        left
        simp [withNodeFor, hc, nodeAt]
      | some v =>
        have happend : (g.withNodeFor (.word w)).nodeAt (some v) =
            (g.words ++ [(w, ({} : Node))]).lookup v := by
          simp [withNodeFor, hc, nodeAt, node?]
        rw [happend, List.lookup_append]
        cases hv : g.words.lookup v with
        | some n =>
          left
          simp [nodeAt, node?, hv]
        | none =>
          by_cases hvw : v = w
          · subst hvw
            right
            exact ⟨hv, ⟨v, rfl, rfl⟩, by simp⟩
          · left
            have hne : (v == w) = false := beq_false_of_ne hvw
            simp [List.lookup_cons, hne, nodeAt, node?, hv]

theorem countAt_withNodeFor (g : Graph) (next : Successor) (u : Option String) (s : Successor) :
    (g.withNodeFor next).countAt u s = g.countAt u s := by
  rcases g.nodeAt_withNodeFor next u with h | ⟨h₀, -, h₁⟩
  · simp [countAt, h]
  · simp [countAt, h₀, h₁]

theorem totalAt_withNodeFor (g : Graph) (next : Successor) (u : Option String) :
    (g.withNodeFor next).totalAt u = g.totalAt u := by
  rcases g.nodeAt_withNodeFor next u with h | ⟨h₀, -, h₁⟩
  · simp [totalAt, h]
  · simp only [totalAt, h₀, h₁]
    rfl

theorem successorsAt_withNodeFor (g : Graph) (next : Successor) (u : Option String) :
    (g.withNodeFor next).successorsAt u = g.successorsAt u := by
  rcases g.nodeAt_withNodeFor next u with h | ⟨h₀, -, h₁⟩
  · simp [successorsAt, h]
  · simp [successorsAt, h₀, h₁]

theorem wordList_withNodeFor (g : Graph) (next : Successor) :
    (g.withNodeFor next).wordList = appendNew g.wordList next.words := by
  cases next with
  | stop => simp [withNodeFor, Successor.words]
  | word w =>
    rw [Successor.words, appendNew_singleton]
    by_cases hc : g.contains w
    · simp [withNodeFor, hc, contains_iff.mp hc]
    · have hw : w ∉ g.wordList := fun h => hc (contains_iff.mpr h)
      rw [if_neg hw]
      simp [withNodeFor, hc, wordList]

/-! ### One observation -/

/-- Changing the node of a word that has one changes that node and keeps every other. The keys
stay, so a word without a node still has none. -/
theorem lookup_updateWord_of_mem {ws : List (String × Node)} {w : String} {f : Node → Node}
    (hw : w ∈ ws.map Prod.fst) (v : String) :
    (updateWord ws w f).lookup v = (ws.lookup v).map fun n => if v = w then f n else n := by
  cases hv : ws.lookup v with
  | some n => exact lookup_updateWord hv
  | none =>
    rw [Option.map_none]
    cases hv' : (updateWord ws w f).lookup v with
    | none => rfl
    | some m =>
      have hmem := mem_wordList_of_node? (g := { words := updateWord ws w f }) hv'
      simp only [wordList, keys_updateWord hw] at hmem
      obtain ⟨n, hn⟩ := exists_node?_of_mem (g := { words := ws }) hmem
      simp [node?, hv] at hn

/-- The place observed from keeps its node when the observed word gets one. -/
theorem placed_withNodeFor {g : Graph} {from? : Option String} (next : Successor)
    (hfrom : ∀ w, from? = some w → w ∈ g.wordList) :
    ∀ w, from? = some w → w ∈ (g.withNodeFor next).wordList :=
  fun w hw => mem_wordList_withNodeFor.mpr (.inl (hfrom w hw))

/-- **One observation** changes the node of the place it starts from, after the observed word
got its node; every other place keeps its node. -/
theorem nodeAt_observe {g : Graph} {from? : Option String} (next : Successor)
    (hfrom : ∀ w, from? = some w → w ∈ g.wordList) (u : Option String) :
    (g.observe from? next).nodeAt u =
      ((g.withNodeFor next).nodeAt u).map fun n => if u = from? then n.observe next else n := by
  cases from? with
  | none =>
    rw [observe_none]
    cases u with
    | none => rfl
    | some v => simp [nodeAt, node?]
  | some w =>
    rw [observe_some]
    have hw : w ∈ (g.withNodeFor next).words.map Prod.fst := placed_withNodeFor next hfrom w rfl
    cases u with
    | none => simp [nodeAt, withNodeFor_start]
    | some v =>
      simp only [nodeAt, node?]
      rw [lookup_updateWord_of_mem hw]
      simp

variable {g : Graph} {from? : Option String}

/-- A place that has no node once the observed word has one is not the place observed from. -/
theorem ne_of_nodeAt_eq_none (next : Successor) (hfrom : ∀ w, from? = some w → w ∈ g.wordList)
    {u : Option String} (hn : (g.withNodeFor next).nodeAt u = none) : from? ≠ u := by
  rintro rfl
  have hsome := nodeAt_isSome (placed_withNodeFor next hfrom)
  rw [hn] at hsome
  cases hsome

/-- The count of each succession goes up by one if it is the one observed. A place without a node
is not the place observed from, which has one. -/
theorem countAt_observe (next : Successor) (hfrom : ∀ w, from? = some w → w ∈ g.wordList)
    (u : Option String) (s : Successor) :
    (g.observe from? next).countAt u s =
      g.countAt u s + if (from?, next) = (u, s) then 1 else 0 := by
  rw [← countAt_withNodeFor g next u s]
  unfold countAt
  rw [nodeAt_observe next hfrom u]
  cases hn : (g.withNodeFor next).nodeAt u with
  | none =>
    simp [ne_of_nodeAt_eq_none next hfrom hn]
  | some n =>
    by_cases hu : u = from?
    · subst hu
      simp [eq_comm]
    · simp [hu, Ne.symm hu]

/-- The total of the place observed from goes up by one. -/
theorem totalAt_observe (next : Successor) (hfrom : ∀ w, from? = some w → w ∈ g.wordList)
    (u : Option String) :
    (g.observe from? next).totalAt u = g.totalAt u + if from? = u then 1 else 0 := by
  rw [← totalAt_withNodeFor g next u]
  unfold totalAt
  rw [nodeAt_observe next hfrom u]
  cases hn : (g.withNodeFor next).nodeAt u with
  | none => simp [ne_of_nodeAt_eq_none next hfrom hn]
  | some n =>
    by_cases hu : from? = u
    · subst hu
      simp
    · simp [hu, Ne.symm hu]

/-- The observed successor is appended to the successors of the place observed from, if new. -/
theorem successorsAt_observe (next : Successor) (hfrom : ∀ w, from? = some w → w ∈ g.wordList)
    (u : Option String) :
    (g.observe from? next).successorsAt u =
      appendNew (g.successorsAt u) (if from? = u then [next] else []) := by
  rw [← successorsAt_withNodeFor g next u]
  unfold successorsAt
  rw [nodeAt_observe next hfrom u]
  cases hn : (g.withNodeFor next).nodeAt u with
  | none => simp [ne_of_nodeAt_eq_none next hfrom hn]
  | some n =>
    by_cases hu : from? = u
    · subst hu
      simp [Node.successors_observe]
    · simp [hu, Ne.symm hu]

/-- The observed word is appended to the words, if new. -/
theorem wordList_observe (next : Successor) (hfrom : ∀ w, from? = some w → w ∈ g.wordList) :
    (g.observe from? next).wordList = appendNew g.wordList next.words := by
  rw [← wordList_withNodeFor]
  cases from? with
  | none => rw [observe_none]; rfl
  | some w =>
    rw [observe_some]
    show (updateWord (g.withNodeFor next).words w (·.observe next)).map Prod.fst =
      (g.withNodeFor next).words.map Prod.fst
    exact keys_updateWord (placed_withNodeFor next hfrom w rfl)

/-- A word that is neither observed nor observed from keeps its node. -/
theorem node?_observe (next : Successor) (hfrom : ∀ w, from? = some w → w ∈ g.wordList)
    {v : String} (hfromv : from? ≠ some v) (hnext : next ≠ .word v) :
    (g.observe from? next).node? v = g.node? v := by
  have h := nodeAt_observe next hfrom (some v)
  simp only [nodeAt, Ne.symm hfromv, if_false, Option.map_id'] at h
  rw [h]
  rcases g.nodeAt_withNodeFor next (some v) with h' | ⟨-, ⟨w, hw, rfl⟩, -⟩
  · exact h'
  · cases hw
    exact absurd rfl hnext

/-! ### Learning words after a place -/

/-- The start is a place of every graph. -/
theorem placed_none (g : Graph) : ∀ w, (none : Option String) = some w → w ∈ g.wordList :=
  fun _ h => by cases h

/-- After the word `w` is observed, learning goes on from `w`, which has a node. -/
theorem placed_observe_word (prev : Option String) (w : String)
    (hprev : ∀ v, prev = some v → v ∈ g.wordList) :
    ∀ v, some w = some v → v ∈ (g.observe prev (.word w)).wordList := by
  rintro v ⟨⟩
  rw [wordList_observe _ hprev]
  exact mem_appendNew.mpr (.inr (List.mem_singleton_self w))

/-- A 64-bit count of a list with one more member. -/
theorem ofNat_countP_cons {α : Type} (p : α → Bool) (x : α) (l : List α) :
    UInt64.ofNat ((x :: l).countP p) = (if p x then 1 else 0) + UInt64.ofNat (l.countP p) := by
  rw [List.countP_cons, UInt64.ofNat_add, UInt64.add_comm]
  split <;> rfl

/-- **Counts**: learning words after `prev` raises the count of each succession by the number of
times it occurs. By induction on the words: each observation starts where the one before it
ended. -/
theorem countAt_learnWords (ws : List String) :
    ∀ {g : Graph} {prev : Option String}, (∀ w, prev = some w → w ∈ g.wordList) →
      ∀ u s, (g.learnWords prev ws).countAt u s =
        g.countAt u s + UInt64.ofNat ((successionsAfter prev ws).countP fun p => p = (u, s)) := by
  induction ws with
  | nil =>
    intro g prev hprev u s
    rw [learnWords, countAt_observe _ hprev, successionsAfter_nil, ofNat_countP_cons]
    simp
  | cons w ws ih =>
    intro g prev hprev u s
    rw [learnWords, ih (placed_observe_word prev w hprev),
      countAt_observe _ hprev, successionsAfter_cons, ofNat_countP_cons, UInt64.add_assoc]
    simp

/-- **Totals**: learning words after `prev` raises each total by the number of successions
leaving the place. -/
theorem totalAt_learnWords (ws : List String) :
    ∀ {g : Graph} {prev : Option String}, (∀ w, prev = some w → w ∈ g.wordList) →
      ∀ u, (g.learnWords prev ws).totalAt u =
        g.totalAt u + UInt64.ofNat ((successionsAfter prev ws).countP fun p => p.1 = u) := by
  induction ws with
  | nil =>
    intro g prev hprev u
    rw [learnWords, totalAt_observe _ hprev, successionsAfter_nil, ofNat_countP_cons]
    simp
  | cons w ws ih =>
    intro g prev hprev u
    rw [learnWords, ih (placed_observe_word prev w hprev),
      totalAt_observe _ hprev, successionsAfter_cons, ofNat_countP_cons, UInt64.add_assoc]
    simp

theorem followersOf_cons (u : Option String) (p : Option String × Successor)
    (ps : List (Option String × Successor)) :
    followersOf u (p :: ps) = (if p.1 = u then [p.2] else []) ++ followersOf u ps := by
  unfold followersOf
  by_cases h : p.1 = u <;> simp [h]

/-- **Successors**: learning words after `prev` appends to a place's successors the new ones
that follow it, in the order they first do. -/
theorem successorsAt_learnWords (ws : List String) :
    ∀ {g : Graph} {prev : Option String}, (∀ w, prev = some w → w ∈ g.wordList) →
      ∀ u, (g.learnWords prev ws).successorsAt u =
        appendNew (g.successorsAt u) (followersOf u (successionsAfter prev ws)) := by
  induction ws with
  | nil =>
    intro g prev hprev u
    rw [learnWords, successorsAt_observe _ hprev, successionsAfter_nil, followersOf_cons]
    simp [followersOf]
  | cons w ws ih =>
    intro g prev hprev u
    rw [learnWords, ih (placed_observe_word prev w hprev),
      successorsAt_observe _ hprev, successionsAfter_cons, followersOf_cons, appendNew_append]

/-- **Words**: learning words appends the new ones, in the order they first occur. -/
theorem wordList_learnWords (ws : List String) :
    ∀ {g : Graph} {prev : Option String}, (∀ w, prev = some w → w ∈ g.wordList) →
      (g.learnWords prev ws).wordList = appendNew g.wordList ws := by
  induction ws with
  | nil =>
    intro g prev hprev
    rw [learnWords, wordList_observe _ hprev]
    rfl
  | cons w ws ih =>
    intro g prev hprev
    rw [learnWords, ih (placed_observe_word prev w hprev),
      wordList_observe _ hprev, Successor.words, appendNew_append]
    rfl

/-- **Frame**: a word that is not learned, and not the place learning starts from, keeps its
node. -/
theorem node?_learnWords (ws : List String) :
    ∀ {g : Graph} {prev : Option String}, (∀ w, prev = some w → w ∈ g.wordList) →
      ∀ v, v ∉ ws → prev ≠ some v → (g.learnWords prev ws).node? v = g.node? v := by
  induction ws with
  | nil =>
    intro g prev hprev v _ hv
    rw [learnWords, node?_observe _ hprev hv (by simp)]
  | cons w ws ih =>
    intro g prev hprev v hvs hv
    have hvw : v ≠ w := fun h => hvs (h ▸ List.mem_cons_self)
    rw [learnWords, ih (placed_observe_word prev w hprev) v
      (fun h => hvs (List.mem_cons_of_mem w h)) (by simpa using Ne.symm hvw),
      node?_observe _ hprev hv (by simpa using Ne.symm hvw)]

/-! ### Sources and targets of the successions -/

/-- Each word of a sentence is the source of one succession, and so is the place before it. -/
theorem countP_source_some (prev : Option String) (w : String) :
    ∀ ws : List String, (successionsAfter prev ws).countP (fun p => p.1 = some w) =
      (if prev = some w then 1 else 0) + ws.count w
  | [] => by simp
  | v :: ws => by
    rw [successionsAfter_cons, List.countP_cons, countP_source_some (some v) w ws, List.count_cons]
    by_cases hv : v = w <;> simp [hv] <;> omega

/-- Each word of a sentence is the target of one succession. -/
theorem countP_target_word (prev : Option String) (w : String) :
    ∀ ws : List String, (successionsAfter prev ws).countP (fun p => p.2 = .word w) = ws.count w
  | [] => by simp
  | v :: ws => by
    rw [successionsAfter_cons, List.countP_cons, countP_target_word (some v) w ws, List.count_cons]
    simp

/-- Only the place before a sentence is the start, as a source. -/
theorem countP_source_none (prev : Option String) :
    ∀ ws : List String, (successionsAfter prev ws).countP (fun p => p.1 = none) =
      if prev = none then 1 else 0
  | [] => by simp
  | v :: ws => by
    rw [successionsAfter_cons, List.countP_cons, countP_source_none (some v) ws]
    simp

/-- One succession ends a sentence. -/
theorem countP_target_stop (prev : Option String) :
    ∀ ws : List String, (successionsAfter prev ws).countP (fun p => p.2 = .stop) = 1
  | [] => by simp
  | v :: ws => by
    rw [successionsAfter_cons, List.countP_cons, countP_target_stop (some v) ws]
    simp

theorem mem_sources {prev : Option String} {ws : List String} {p : Option String × Successor}
    (hp : p ∈ successionsAfter prev ws) : p.1 = prev ∨ ∃ w ∈ ws, p.1 = some w := by
  induction ws generalizing prev with
  | nil =>
    simp only [successionsAfter_nil, List.mem_singleton] at hp
    exact .inl (by rw [hp])
  | cons v ws ih =>
    rw [successionsAfter_cons, List.mem_cons] at hp
    rcases hp with rfl | hp
    · exact .inl rfl
    · rcases ih hp with h | ⟨w, hw, h⟩
      · exact .inr ⟨v, List.mem_cons_self, h⟩
      · exact .inr ⟨w, List.mem_cons_of_mem v hw, h⟩

/-! ### The sum of the counts into a successor -/

/-- One place among distinct places that hold it. -/
theorem sum_ite_eq_one :
    ∀ {l : List (Option String)}, l.Nodup → ∀ {a : Option String}, a ∈ l →
    (l.map fun u => if a = u then 1 else 0).sum = 1
  | [], _, _, ha => absurd ha List.not_mem_nil
  | x :: l, hl, a, ha => by
    obtain ⟨hx, hl⟩ := List.nodup_cons.mp hl
    rw [List.map_cons, List.sum_cons]
    by_cases hax : a = x
    · subst hax
      have hzero : (l.map fun u => if a = u then 1 else 0).sum = 0 :=
        List.sum_eq_zero fun n hn => by
          obtain ⟨u, hu, rfl⟩ := List.mem_map.mp hn
          exact if_neg fun (h : a = u) => hx (h ▸ hu)
      rw [if_pos rfl, hzero]
    · rw [if_neg hax, sum_ite_eq_one hl ((List.mem_cons.mp ha).resolve_left hax), Nat.zero_add]

/-- Summing, over distinct places that hold every source, how often each place is followed by `s`
counts the successions into `s`. Each succession is counted at its source only, which the places
hold once. -/
theorem sum_countP_sources {l : List (Option String)} (hl : l.Nodup) (s : Successor) :
    ∀ {ps : List (Option String × Successor)}, (∀ p ∈ ps, p.1 ∈ l) →
      (l.map fun u => ps.countP fun p => p = (u, s)).sum = ps.countP fun p => p.2 = s
  | [], _ => by simp
  | p :: ps, hps => by
    have hrest := sum_countP_sources hl s fun q hq => hps q (List.mem_cons_of_mem p hq)
    have hone : (l.map fun u => if p = (u, s) then 1 else 0).sum = if p.2 = s then 1 else 0 := by
      obtain ⟨a, t⟩ := p
      by_cases ht : t = s
      · subst ht
        simpa using sum_ite_eq_one hl (hps _ List.mem_cons_self)
      · simp [Prod.ext_iff, ht]
    simp only [List.countP_cons, decide_eq_true_eq, List.sum_map_add, hrest, hone]

theorem ofNat_sum {α : Type} (f : α → Nat) :
    ∀ l : List α, UInt64.ofNat (l.map f).sum = (l.map fun x => UInt64.ofNat (f x)).sum
  | [] => rfl
  | x :: l => by simp [UInt64.ofNat_add, ofNat_sum f l]

/-- The places of a graph: the start, then each word in order. -/
def places (g : Graph) : List (Option String) := none :: g.wordList.map some

/-- How often `s` followed a place of the graph: the sum of the counts of the edges into `s`,
from the start and from every word. -/
def inflow (g : Graph) (s : Successor) : UInt64 := (g.places.map fun u => g.countAt u s).sum

theorem nodup_places {g : Graph} (h : g.wordList.Nodup) : g.places.Nodup :=
  List.nodup_cons.mpr ⟨by simp, h.map fun _ _ => Option.some.inj⟩

/-- **Learning a sentence adds to the counts into `s`** the successions into `s`, when the words
are distinct. The new words had no node, so nothing was counted at them, and every source is a
place of the new graph, the places being distinct. -/
theorem inflow_learnWords {g : Graph} (hg : g.wordList.Nodup) (ws : List String)
    (s : Successor) :
    (g.learnWords none ws).inflow s =
      g.inflow s + UInt64.ofNat ((successionsAfter none ws).countP fun p => p.2 = s) := by
  have hnone := placed_none g
  have hwords := wordList_learnWords ws hnone
  have hold : ((g.learnWords none ws).places.map fun u => g.countAt u s).sum = g.inflow s := by
    rw [places, hwords, appendNew, List.map_append, List.map_cons, List.map_append,
      List.sum_cons, List.sum_append, inflow, places, List.map_cons, List.sum_cons]
    have hzero : ((((ws.removeAll g.wordList).eraseDups).map some).map
        fun u => g.countAt u s).sum = 0 := by
      refine List.sum_eq_zero fun x hx => ?_
      obtain ⟨u, hu, rfl⟩ := List.mem_map.mp hx
      obtain ⟨v, hv, rfl⟩ := List.mem_map.mp hu
      have hnew := (mem_removeAll.mp (List.mem_eraseDups.mp hv)).2
      simp [countAt, nodeAt, node?_eq_none hnew]
    rw [hzero, UInt64.add_zero]
  have hcover : ∀ p ∈ successionsAfter none ws, p.1 ∈ (g.learnWords none ws).places := by
    intro p hp
    rcases mem_sources hp with h | ⟨w, hw, h⟩
    · rw [h]
      exact List.mem_cons_self
    · rw [h, places, hwords]
      exact List.mem_cons_of_mem _ (List.mem_map_of_mem (mem_appendNew.mpr (.inr hw)))
  have hnodup : (g.learnWords none ws).places.Nodup :=
    nodup_places (hwords ▸ nodup_appendNew hg ws)
  unfold inflow
  simp only [countAt_learnWords ws hnone, List.sum_map_add, hold]
  rw [← ofNat_sum, sum_countP_sources hnodup s hcover]
  rfl

/-! ### The balance of a learned graph -/

/-- The balance of a learned graph: its words are distinct, each word's total is the sum of the
counts of the edges into it, and the counts of the edges into the end sum to the start's total. -/
structure Balanced (g : Graph) : Prop where
  /-- The words are distinct. -/
  nodup : g.wordList.Nodup
  /-- A word is left as often as it is entered. -/
  word_total : ∀ w, g.totalAt (some w) = g.inflow (.word w)
  /-- Every sentence that starts also ends. -/
  stop_inflow : g.inflow .stop = g.start.total

theorem balanced_empty : ({} : Graph).Balanced where
  nodup := List.nodup_nil
  word_total _ := rfl
  stop_inflow := rfl

/-- **Learning keeps the balance**: each word of the sentence adds one to its total and one to
the counts into it, and the sentence adds one to the start's total and one to the counts into
the end. -/
theorem Balanced.learnWords {g : Graph} (hg : g.Balanced) (ws : List String) :
    (g.learnWords none ws).Balanced := by
  have hnone := placed_none g
  refine ⟨wordList_learnWords ws hnone ▸ nodup_appendNew hg.nodup ws, fun w => ?_, ?_⟩
  · rw [totalAt_learnWords ws hnone, inflow_learnWords hg.nodup, hg.word_total w,
      countP_source_some, countP_target_word]
    simp
  · have hstart := totalAt_learnWords ws hnone none
    simp only [totalAt, nodeAt, Option.map_some, Option.getD_some] at hstart
    rw [inflow_learnWords hg.nodup, hstart, hg.stop_inflow, countP_source_none, countP_target_stop]
    rfl

theorem learn_of_nil {g : Graph} {text : String} (h : Text.words text = []) :
    g.learn text = (0, g) := by
  simp [Graph.learn, h]

theorem learn_of_ne_nil {g : Graph} {text : String} (h : Text.words text ≠ []) :
    g.learn text = ((Text.words text).length, g.learnWords none (Text.words text)) := by
  unfold Graph.learn
  split
  · contradiction
  · rfl

theorem Balanced.learn {g : Graph} (hg : g.Balanced) (text : String) :
    (g.learn text).2.Balanced := by
  by_cases h : Text.words text = []
  · rw [learn_of_nil h]
    exact hg
  · rw [learn_of_ne_nil h]
    exact hg.learnWords _

/-- Learning a text that is not blank adds one to the start's total. -/
theorem start_total_learn (g : Graph) (text : String) :
    (g.learn text).2.start.total = g.start.total + if Text.words text = [] then 0 else 1 := by
  have hnone := placed_none g
  by_cases h : Text.words text = []
  · rw [learn_of_nil h, if_pos h, UInt64.add_zero]
  · have hstart := totalAt_learnWords (Text.words text) hnone none
    simp only [totalAt, nodeAt, Option.map_some, Option.getD_some] at hstart
    rw [learn_of_ne_nil h, hstart, countP_source_none, if_neg h]
    rfl

end Graph

/-- A graph learned sentence by sentence from an empty one is balanced, and its start's total is
the number of sentences that were not blank. By induction on the sentences, each learned by the
graph the ones before it left. -/
theorem learned_balanced (texts : List String) :
    (({} : Chain).applyEdits (texts.map Edit.learn)).graph.Balanced ∧
      (({} : Chain).applyEdits (texts.map Edit.learn)).graph.start.total =
        UInt64.ofNat (texts.countP fun t => Text.words t ≠ []) := by
  suffices ∀ (c : Chain) (k : Nat), c.graph.Balanced → c.graph.start.total = UInt64.ofNat k →
      (c.applyEdits (texts.map Edit.learn)).graph.Balanced ∧
        (c.applyEdits (texts.map Edit.learn)).graph.start.total =
          UInt64.ofNat (k + texts.countP fun t => Text.words t ≠ []) by
    simpa using this {} 0 Graph.balanced_empty rfl
  induction texts with
  | nil => exact fun c k hc hk => ⟨hc, by simpa [Chain.applyEdits] using hk⟩
  | cons t ts ih =>
    intro c k hc hk
    have hstep := ih (Edit.apply c (.learn t)) (k + if Text.words t = [] then 0 else 1)
      (hc.learn t) (by
        show (c.graph.learn t).2.start.total = _
        rw [Graph.start_total_learn, hk, UInt64.ofNat_add]
        split <;> rfl)
    have hcount : k + ((ts.countP fun t => Text.words t ≠ []) +
        if decide (Text.words t ≠ []) = true then 1 else 0) =
        k + (if Text.words t = [] then 0 else 1) + ts.countP fun t => Text.words t ≠ [] := by
      by_cases ht : Text.words t = []
      · simp [ht]
      · simp [ht]
        omega
    rw [List.countP_cons, hcount]
    exact hstep

/-- **What learning a sentence counts.** In any graph, a text with no words teaches nothing.
A text whose words are `t₁ … tₙ` gives back `n` and: raises the count of each succession
`(u, s)` by the number of times it is among `(t₀, t₁), …, (tₙ, tₙ₊₁)`, where `t₀` is the start
and `tₙ₊₁` the end (the counts are 64-bit words); raises each place's total by the number of
those successions that leave it; appends the new words to the words, and the new successors of
each place to its successors, each once and in the order they first occur; and keeps the node
of every word it does not contain. So in a graph learned sentence by sentence from an empty
one, each word's total is the sum of the counts of the edges into it, and the counts of the
edges into the end add up to the start's total, the number of texts that were not blank. -/
theorem learn_counts_successions (g : Graph) (text : String) :
    (Text.words text = [] → g.learn text = (0, g)) ∧
    (Text.words text ≠ [] →
      (g.learn text).1 = (Text.words text).length ∧
      (∀ u s, (g.learn text).2.countAt u s = g.countAt u s +
        UInt64.ofNat ((successionsAfter none (Text.words text)).countP fun p => p = (u, s))) ∧
      (∀ u, (g.learn text).2.totalAt u = g.totalAt u +
        UInt64.ofNat ((successionsAfter none (Text.words text)).countP fun p => p.1 = u)) ∧
      (g.learn text).2.wordList = appendNew g.wordList (Text.words text) ∧
      (∀ u, (g.learn text).2.successorsAt u =
        appendNew (g.successorsAt u) (followersOf u (successionsAfter none (Text.words text)))) ∧
      (∀ w, w ∉ Text.words text → (g.learn text).2.node? w = g.node? w)) ∧
    ∀ texts : List String,
      (∀ w, (({} : Chain).applyEdits (texts.map Edit.learn)).graph.totalAt (some w) =
        (({} : Chain).applyEdits (texts.map Edit.learn)).graph.inflow (.word w)) ∧
      (({} : Chain).applyEdits (texts.map Edit.learn)).graph.inflow .stop =
        (({} : Chain).applyEdits (texts.map Edit.learn)).graph.start.total ∧
      (({} : Chain).applyEdits (texts.map Edit.learn)).graph.start.total =
        UInt64.ofNat (texts.countP fun t => Text.words t ≠ []) := by
  have hnone := Graph.placed_none g
  refine ⟨Graph.learn_of_nil, fun hne => ?_, fun texts => ?_⟩
  · rw [Graph.learn_of_ne_nil hne]
    exact ⟨rfl, Graph.countAt_learnWords _ hnone, Graph.totalAt_learnWords _ hnone,
      Graph.wordList_learnWords _ hnone, Graph.successorsAt_learnWords _ hnone,
      fun w hw => Graph.node?_learnWords _ hnone w hw (by simp)⟩
  · obtain ⟨hbal, htotal⟩ := learned_balanced texts
    exact ⟨hbal.word_total, hbal.stop_inflow, htotal⟩

end Chatbot.Words
