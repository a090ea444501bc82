import Mathlib
import Chatbot.Words.Chain

/-!
# Counts and totals of the word graph's nodes

A node caches the sum of its counts as its total. Counts and totals are 64-bit words; this
module measures them in `Nat` (`Node.countSum`) and shows when the 64-bit arithmetic of the
node operations is exact: while the sums stay below `2 ^ 64`, observing a successor adds one to
one count and one to the total, forgetting edges takes their counts off the total, and the
recount finds the total right.

## What is proved

* `Node.Sound`: a node whose total is the sum of its counts and whose counts are all positive.
* `Node.observe_sound`, `Node.forget_sound`: observing and forgetting keep a node sound, below
  the bound.
* `Node.sumCounts_toNat`: the 64-bit sum of the counts is their sum, below the bound.
* `Node.recount_of_sound`: a sound node passes the recount unchanged.
-/

namespace Chatbot.Words

namespace Node

/-- The sum of the counts of an edge list, without wrapping. -/
def countSum (es : List (Successor × UInt64)) : Nat := (es.map fun e => e.2.toNat).sum

@[simp, grind =] theorem countSum_nil : countSum [] = 0 := rfl

@[simp, grind =] theorem countSum_cons (e : Successor × UInt64) (es : List (Successor × UInt64)) :
    countSum (e :: es) = e.2.toNat + countSum es := by
  simp [countSum]

/-- The edges with and without a property share out the counts. -/
theorem countSum_filter_add (es : List (Successor × UInt64)) (p : Successor × UInt64 → Bool) :
    countSum (es.filter p) + countSum (es.filter fun e => !p e) = countSum es := by
  induction es with
  | nil => rfl
  | cons e es ih =>
    cases hp : p e <;> simp [hp] <;> omega

theorem countSum_filter_le (es : List (Successor × UInt64)) (p : Successor × UInt64 → Bool) :
    countSum (es.filter p) ≤ countSum es := by
  have := countSum_filter_add es p
  omega

/-- Below `2 ^ 64` the 64-bit sum of the counts does not wrap. -/
theorem sumCounts_toNat {es : List (Successor × UInt64)} (h : countSum es < 2 ^ 64) :
    (sumCounts es).toNat = countSum es := by
  induction es with
  | nil => rfl
  | cons e es ih =>
    simp only [countSum_cons] at h ⊢
    have hrest := ih (by omega)
    show (e.2 + sumCounts es).toNat = _
    rw [UInt64.toNat_add, hrest, Nat.mod_eq_of_lt h]

/-- A node is sound when its total is the sum of its counts and no count is zero. -/
structure Sound (n : Node) : Prop where
  /-- The cached total is the sum of the counts. -/
  total_eq : n.total.toNat = countSum n.edges
  /-- Every successor was seen at least once. -/
  count_pos : ∀ e ∈ n.edges, 0 < e.2.toNat

/-- A node with no successors. -/
theorem sound_empty : ({} : Node).Sound :=
  ⟨rfl, fun _ he => by cases he⟩

/-! ### Observing a successor -/

/-- Adding one below the bound does not wrap. -/
theorem toNat_add_one {c : UInt64} (h : c.toNat + 1 < 2 ^ 64) : (c + 1).toNat = c.toNat + 1 := by
  rw [UInt64.toNat_add]
  exact Nat.mod_eq_of_lt h

theorem countSum_bump (es : List (Successor × UInt64)) (s : Successor)
    (h : countSum es + 1 < 2 ^ 64) : countSum (bump es s) = countSum es + 1 := by
  induction es with
  | nil => rfl
  | cons e es ih =>
    obtain ⟨t, c⟩ := e
    simp only [countSum_cons] at h ⊢
    unfold bump
    split
    · simp only [countSum_cons, toNat_add_one (c := c) (by omega)]
      omega
    · simp only [countSum_cons, ih (by omega)]
      omega

theorem count_pos_bump {es : List (Successor × UInt64)} (s : Successor)
    (hpos : ∀ e ∈ es, 0 < e.2.toNat) (h : countSum es + 1 < 2 ^ 64) :
    ∀ e ∈ bump es s, 0 < e.2.toNat := by
  induction es with
  | nil =>
    intro e he
    simp only [bump, List.mem_singleton] at he
    subst he
    exact Nat.zero_lt_one
  | cons e' es ih =>
    obtain ⟨t, c⟩ := e'
    simp only [countSum_cons] at h
    intro e he
    unfold bump at he
    split at he
    · rcases List.mem_cons.mp he with rfl | he
      · show 0 < (c + 1).toNat
        rw [toNat_add_one (by omega)]
        omega
      · exact hpos e (List.mem_cons_of_mem _ he)
    · rcases List.mem_cons.mp he with rfl | he
      · exact hpos _ List.mem_cons_self
      · exact ih (fun e he => hpos e (List.mem_cons_of_mem _ he)) (by omega) e he

/-- The successors after a bump: the old ones and the one observed. -/
@[simp, grind =] theorem mem_successors_bump {es : List (Successor × UInt64)} {s t : Successor} :
    t ∈ (bump es s).map Prod.fst ↔ t = s ∨ t ∈ es.map Prod.fst := by
  induction es with
  | nil => simp [bump]
  | cons e es ih =>
    obtain ⟨u, c⟩ := e
    unfold bump
    split
    · rename_i hu
      subst hu
      simp
    · simp only [List.map_cons, List.mem_cons, ih]
      exact or_left_comm

theorem observe_total {n : Node} (s : Successor) (h : n.total.toNat + 1 < 2 ^ 64) :
    (n.observe s).total.toNat = n.total.toNat + 1 :=
  toNat_add_one h

/-- Observing keeps a node sound while its total stays below `2 ^ 64`. -/
theorem observe_sound {n : Node} (hn : n.Sound) (s : Successor) (h : n.total.toNat + 1 < 2 ^ 64) :
    (n.observe s).Sound := by
  have hsum : countSum n.edges + 1 < 2 ^ 64 := hn.total_eq ▸ h
  refine ⟨?_, count_pos_bump s hn.count_pos hsum⟩
  rw [observe_total s h, hn.total_eq]
  exact (countSum_bump n.edges s hsum).symm

/-! ### Forgetting edges -/

/-- Dropping the edges that `p` marks takes their counts off the total, without wrapping. -/
theorem dropEdges_total {n : Node} (hn : n.Sound) (p : Successor × UInt64 → Bool) :
    (if sumCounts (n.edges.filter p) ≤ n.total then n.total - sumCounts (n.edges.filter p)
      else 0).toNat = countSum (n.edges.filter fun e => !p e) := by
  have hsplit := countSum_filter_add n.edges p
  have hdrop : (sumCounts (n.edges.filter p)).toNat = countSum (n.edges.filter p) :=
    sumCounts_toNat (by have := n.total.toNat_lt; rw [hn.total_eq] at this; omega)
  have hle : sumCounts (n.edges.filter p) ≤ n.total := by
    rw [UInt64.le_iff_toNat_le, hdrop, hn.total_eq]
    omega
  rw [if_pos hle, UInt64.toNat_sub_of_le _ _ hle, hdrop, hn.total_eq]
  omega

theorem sound_dropEdges {n : Node} (hn : n.Sound) (p : Successor × UInt64 → Bool) :
    ({ edges := n.edges.filter (fun e => !p e),
       total := if sumCounts (n.edges.filter p) ≤ n.total then n.total - sumCounts (n.edges.filter p)
         else 0 } : Node).Sound :=
  ⟨dropEdges_total hn p, fun e he => hn.count_pos e (List.mem_filter.mp he).1⟩

/-- Forgetting the edges into doomed words keeps a node sound. -/
theorem forget_sound {n : Node} (hn : n.Sound) (doomed : String → Bool) :
    (n.forget doomed).Sound := by
  unfold forget
  exact sound_dropEdges hn _

/-- Forgetting never raises the total. -/
theorem forget_total_le {n : Node} (hn : n.Sound) (doomed : String → Bool) :
    (n.forget doomed).total.toNat ≤ n.total.toNat := by
  rw [(forget_sound hn doomed).total_eq, hn.total_eq]
  exact countSum_filter_le _ _

/-- The successors left after forgetting: old ones, and none is a doomed word. -/
theorem mem_successors_forget {n : Node} {doomed : String → Bool} {t : Successor}
    (h : t ∈ (n.forget doomed).edges.map Prod.fst) :
    t ∈ n.edges.map Prod.fst ∧ ∀ w, t = .word w → doomed w = false := by
  obtain ⟨e, he, rfl⟩ := List.mem_map.mp h
  unfold forget at he
  obtain ⟨he, hkeep⟩ := List.mem_filter.mp he
  refine ⟨List.mem_map_of_mem he, fun w hw => ?_⟩
  simp only [hw, Bool.not_eq_eq_eq_not, Bool.not_true] at hkeep
  exact hkeep

/-! ### The recount -/

/-- A sound node passes the recount and is left as it is. -/
theorem recount_of_sound {n : Node} (hn : n.Sound) : n.recount = (true, n) := by
  have hsum : sumCounts n.edges = n.total := by
    apply UInt64.toNat_inj.mp
    rw [sumCounts_toNat (hn.total_eq ▸ n.total.toNat_lt), hn.total_eq]
  simp [recount, hsum]

end Node

end Chatbot.Words
