import Chatbot.Proofs.WordCounts

/-!
# Checking the totals of a word graph

The check recounts every node, the start and each word's: it adds up the node's counts and
compares the sum with the cached total, replacing a total that differs. It passes when no total
had to be replaced. Edges, counts and the order of the words are left as they are.

The counts are added in 64 bits, so the sum wraps around past `2 ^ 64 - 1`. A graph built by
learning never gets there, but a snapshot can give a node any counts. While every node's counts
add up to less than `2 ^ 64` the check does what it is meant to: it passes exactly when each
total is the sum of its node's counts, and leaves each total at that sum. A node whose counts
add up to more cannot hold their sum in its total: the check then compares the total with the
wrapped sum, and may pass a total that is not the sum.

## What is proved

* `Graph.check_passes_iff`, `Graph.check_result`: what the check says and leaves, in 64-bit
  sums, for every graph.
* `Graph.check_check`: a second check passes and changes nothing.
* `Graph.checks_exactly_iff`: the check counts exactly on a graph exactly when no node's counts
  add up to `2 ^ 64` or more.
* `Graph.check_passes_wrapped_total`: a snapshot whose start counts add up to `2 ^ 64` and whose
  start total is `0` passes the check.
-/

namespace Chatbot.Words

namespace Node

/-- The recount says whether the total is the 64-bit sum of the counts. -/
theorem recount_fst (n : Node) : n.recount.1 = decide (n.total = sumCounts n.edges) := by
  unfold recount
  by_cases h : sumCounts n.edges = n.total
  · simp [h]
  · simp [h, Ne.symm h]

/-- After the recount the total is the 64-bit sum of the counts; the edges are untouched. -/
theorem recount_snd (n : Node) : n.recount.2 = { n with total := sumCounts n.edges } := by
  unfold recount
  by_cases h : sumCounts n.edges = n.total
  · simp [h]
  · simp [h]

end Node

namespace Graph

open Node

/-- Every node caches the 64-bit sum of its counts. -/
def Totalled (g : Graph) : Prop :=
  g.start.total = sumCounts g.start.edges ∧ ∀ e ∈ g.words, e.2.total = sumCounts e.2.edges

/-- The graph with every total set to the 64-bit sum of its node's counts. -/
def retotalled (g : Graph) : Graph :=
  { start := { g.start with total := sumCounts g.start.edges },
    words := g.words.map fun e => (e.1, { e.2 with total := sumCounts e.2.edges }) }

/-- The check passes exactly when every node caches the 64-bit sum of its counts. -/
theorem check_passes_iff (g : Graph) : (g.check).1 = true ↔ g.Totalled := by
  simp [check, Totalled, Node.recount_fst, List.all_eq_true]

/-- The check leaves every total at the 64-bit sum of its node's counts. -/
theorem check_result (g : Graph) : (g.check).2 = g.retotalled := by
  simp [check, retotalled, Node.recount_snd, Function.comp_def]

theorem retotalled_totalled (g : Graph) : g.retotalled.Totalled := by
  refine ⟨rfl, fun e he => ?_⟩
  obtain ⟨e₀, -, rfl⟩ := List.mem_map.mp he
  rfl

/-- Setting the totals of a graph that already caches the 64-bit sums changes nothing. -/
theorem retotalled_of_totalled {g : Graph} (h : g.Totalled) : g.retotalled = g := by
  have hstart : { g.start with total := sumCounts g.start.edges } = g.start := by
    rw [← h.1]
  have hwords : (g.words.map fun e => (e.1, { e.2 with total := sumCounts e.2.edges })) =
      g.words := by
    conv => rhs; rw [← List.map_id g.words]
    exact List.map_congr_left fun e he => by rw [← h.2 e he]; rfl
  simp only [retotalled, hstart, hwords]

/-- A graph whose totals are the 64-bit sums passes the check and is left as it is. -/
theorem check_of_totalled {g : Graph} (h : g.Totalled) : g.check = (true, g) :=
  Prod.ext ((check_passes_iff g).mpr h) ((check_result g).trans (retotalled_of_totalled h))

/-- **A second check passes** and changes nothing. -/
theorem check_check (g : Graph) : (g.check).2.check = (true, (g.check).2) := by
  rw [check_result]
  exact check_of_totalled (retotalled_totalled g)

/-- What the check is meant to do on `g`, the counts added up without wrapping: pass exactly
when every total is the sum of its node's counts, leave every total at that sum and the edges
and the words as they were, so that a second check passes. -/
structure ChecksExactly (g : Graph) : Prop where
  /-- It passes exactly when every total is the sum of its node's counts. -/
  passes_iff : (g.check).1 = true ↔
    g.start.total.toNat = countSum g.start.edges ∧ ∀ e ∈ g.words, e.2.total.toNat = countSum e.2.edges
  /-- Afterwards the start's total is the sum of its counts. -/
  start_total : (g.check).2.start.total.toNat = countSum (g.check).2.start.edges
  /-- Afterwards each word's total is the sum of its counts. -/
  words_totals : ∀ e ∈ (g.check).2.words, e.2.total.toNat = countSum e.2.edges
  /-- The start's edges are as they were. -/
  start_edges : (g.check).2.start.edges = g.start.edges
  /-- The words, in order, and their edges are as they were. -/
  words_edges : (g.check).2.words.map (fun e => (e.1, e.2.edges)) = g.words.map (fun e => (e.1, e.2.edges))
  /-- A second check passes. -/
  again : ((g.check).2.check).1 = true

/-- Below `2 ^ 64`, a total is the 64-bit sum of the counts exactly when it is their sum. -/
theorem total_eq_sumCounts_iff {n : Node} (h : countSum n.edges < 2 ^ 64) :
    n.total = sumCounts n.edges ↔ n.total.toNat = countSum n.edges := by
  rw [← Node.sumCounts_toNat h, UInt64.toNat_inj]

/-- **The check counts exactly** on a graph exactly when every node's counts add up to less
than `2 ^ 64`. Past that bound no total can hold the sum, and the check compares totals with
the wrapped sum. -/
theorem checks_exactly_iff (g : Graph) :
    g.ChecksExactly ↔ countSum g.start.edges < 2 ^ 64 ∧ ∀ e ∈ g.words, countSum e.2.edges < 2 ^ 64 := by
  constructor
  · intro h
    have hs : (g.check).2.start.total.toNat = countSum g.start.edges := by
      rw [h.start_total, h.start_edges]
    refine ⟨hs ▸ UInt64.toNat_lt _, fun e he => ?_⟩
    have hmem : (e.1, { e.2 with total := sumCounts e.2.edges }) ∈ (g.check).2.words := by
      rw [check_result]
      exact List.mem_map_of_mem he
    have hw : (sumCounts e.2.edges).toNat = countSum e.2.edges := h.words_totals _ hmem
    exact hw ▸ UInt64.toNat_lt _
  · rintro ⟨hstart, hwords⟩
    have hwords' : ∀ e ∈ g.retotalled.words, e.2.total.toNat = countSum e.2.edges := by
      intro e he
      obtain ⟨e₀, he₀, rfl⟩ := List.mem_map.mp he
      exact Node.sumCounts_toNat (hwords e₀ he₀)
    refine ⟨?_, ?_, ?_, ?_, ?_, ?_⟩
    · rw [check_passes_iff, Totalled, total_eq_sumCounts_iff hstart]
      refine and_congr_right fun _ => forall₂_congr fun e he => ?_
      exact total_eq_sumCounts_iff (hwords e he)
    · rw [check_result]
      exact Node.sumCounts_toNat hstart
    · rw [check_result]
      exact hwords'
    · rw [check_result]
      rfl
    · simp [check_result, retotalled, Function.comp_def]
    · rw [check_check]

/-- A snapshot whose start counts add up to `2 ^ 64`, with a start total of `0`: the 64-bit
sum wraps to `0`, and the check passes a total that is not the sum of the counts. -/
theorem check_passes_wrapped_total :
    (({ start := { edges := [(.word "a", 18446744073709551615), (.word "b", 1)], total := 0 },
        words := [("a", { edges := [(.stop, 1)], total := 1 }),
                  ("b", { edges := [(.stop, 1)], total := 1 })] } : Graph).check).1 = true ∧
      ({ edges := [(.word "a", 18446744073709551615), (.word "b", 1)], total := 0 } : Node).total.toNat ≠
        countSum ({ edges := [(.word "a", 18446744073709551615), (.word "b", 1)], total := 0 } : Node).edges := by
  decide

end Graph

end Chatbot.Words
