import Chatbot.Proofs.WordCounts

/-!
# Picking a successor by running sums

A node draws a successor in proportion to its counts: a draw `d` below the node's total `T`
picks the first successor whose running sum of counts exceeds `d`. Laid out in order, the
successors' counts cut the draws `0, …, T - 1` into *shares*: the `i`-th successor's share is
the draws from the sum of the counts before it up to, not including, the sum with its own
count. When the cached total is the sum of the counts, this sum is below `2 ^ 64`, so the
64-bit running sums never wrap, and every draw below the total falls in exactly one share.

## What is proved

* `Node.pickFrom_of_share`: a draw in a successor's share picks that successor.
* `Node.exists_share`, `Node.share_unique`: the shares cut the draws below the total.
* `Node.countP_pickFrom`: a successor is picked by as many draws as its counts add up to.
* `Node.pick_by_running_sums`: the whole rule, for a node whose total is the sum of its counts.
-/

namespace Chatbot.Words

namespace Node

/-! ### Running sums -/

@[simp, grind =] theorem countSum_append (es fs : List (Successor × UInt64)) :
    countSum (es ++ fs) = countSum es + countSum fs := by
  simp [countSum]

/-- The running sums only grow along the edges. -/
theorem countSum_take_mono (es : List (Successor × UInt64)) {i j : Nat} (h : i ≤ j) :
    countSum (es.take i) ≤ countSum (es.take j) := by
  have hsplit := countSum_append ((es.take j).take i) ((es.take j).drop i)
  rw [List.take_append_drop, List.take_take, Nat.min_eq_left h] at hsplit
  omega

/-- No running sum exceeds the sum of all the counts. -/
theorem countSum_take_le (es : List (Successor × UInt64)) (i : Nat) :
    countSum (es.take i) ≤ countSum es := by
  have hsplit := countSum_append (es.take i) (es.drop i)
  rw [List.take_append_drop] at hsplit
  omega

/-- Below `2 ^ 64`, a 64-bit sum with one count more is exact. -/
theorem toNat_add_count {running c : UInt64} (h : running.toNat + c.toNat < 2 ^ 64) :
    (running + c).toNat = running.toNat + c.toNat := by
  rw [UInt64.toNat_add]
  exact Nat.mod_eq_of_lt h

/-! ### Shares -/

/-- **A draw in the share of the `i`-th edge picks its successor**: the draw lies between the
running sums before and after that edge, which the search reaches without wrapping. A draw past
an edge's share sends the search on with the running sum after it. -/
theorem pickFrom_of_share : ∀ (es : List (Successor × UInt64)) (running d : UInt64) (i : Nat)
    (hi : i < es.length), running.toNat + countSum es < 2 ^ 64 →
      running.toNat + countSum (es.take i) ≤ d.toNat →
      d.toNat < running.toNat + countSum (es.take (i + 1)) →
      pickFrom es running d = some es[i].1
  | (s, c) :: es, running, d, 0, _, hsum, _, hhi => by
    simp only [countSum_cons] at hsum
    simp only [List.take_succ_cons, List.take_zero, countSum_cons, countSum_nil] at hhi
    have hfits : d < running + c := by
      rw [UInt64.lt_iff_toNat_lt, toNat_add_count (by omega)]
      omega
    simp [pickFrom, hfits]
  | (s, c) :: es, running, d, i + 1, hi, hsum, hlo, hhi => by
    simp only [countSum_cons] at hsum
    simp only [List.take_succ_cons, countSum_cons] at hlo hhi
    have hc : (running + c).toNat = running.toNat + c.toNat := toNat_add_count (by omega)
    have hpast : ¬ d < running + c := by
      rw [UInt64.lt_iff_toNat_lt, hc]
      omega
    have hrest := pickFrom_of_share es (running + c) d i (by simpa using hi) (by omega)
      (by omega) (by omega)
    simpa [pickFrom, hpast] using hrest

/-- Every draw below the sum of the counts lies in the share of some edge. -/
theorem exists_share : ∀ (es : List (Successor × UInt64)) (d : Nat), d < countSum es →
    ∃ i, ∃ _ : i < es.length, countSum (es.take i) ≤ d ∧ d < countSum (es.take (i + 1))
  | [], d, h => by simp at h
  | (s, c) :: es, d, h => by
    simp only [countSum_cons] at h
    by_cases hd : d < c.toNat
    · exact ⟨0, by simp, by simp, by simpa using hd⟩
    · obtain ⟨i, hi, hlo, hhi⟩ := exists_share es (d - c.toNat) (by omega)
      refine ⟨i + 1, by simpa using hi, ?_, ?_⟩
      · simp only [List.take_succ_cons, countSum_cons]
        omega
      · simp only [List.take_succ_cons, countSum_cons]
        omega

/-- No draw lies in two shares. -/
theorem share_unique {es : List (Successor × UInt64)} {d i j : Nat}
    (hi : countSum (es.take i) ≤ d ∧ d < countSum (es.take (i + 1)))
    (hj : countSum (es.take j) ≤ d ∧ d < countSum (es.take (j + 1))) : i = j := by
  rcases Nat.lt_trichotomy i j with hij | hij | hij
  · have := countSum_take_mono es (show i + 1 ≤ j by omega)
    omega
  · exact hij
  · have := countSum_take_mono es (show j + 1 ≤ i by omega)
    omega

/-! ### Counting the draws of a successor -/

/-- **A successor is picked by as many draws as its counts add up to**: over the draws from the
running sum on, each edge takes its own count of them. The draws from the running sum on are
those of the first edge's share, then those of the edges after it. -/
theorem countP_pickFrom (s : Successor) : ∀ (es : List (Successor × UInt64)) (running : UInt64),
    running.toNat + countSum es < 2 ^ 64 →
      (List.range' running.toNat (countSum es)).countP
          (fun d => pickFrom es running (UInt64.ofNat d) = some s) =
        countSum (es.filter fun e => e.1 = s)
  | [], _, _ => by simp
  | (t, c) :: es, running, hsum => by
    simp only [countSum_cons] at hsum
    have hc : (running + c).toNat = running.toNat + c.toNat := toNat_add_count (by omega)
    have hval : ∀ d, d < running.toNat + c.toNat + countSum es → (UInt64.ofNat d).toNat = d :=
      fun d hd => UInt64.toNat_ofNat_of_lt' (by simp only [UInt64.size]; omega)
    rw [countSum_cons, ← List.range'_append_1, List.countP_append]
    have hhead : (List.range' running.toNat c.toNat).countP
        (fun d => pickFrom ((t, c) :: es) running (UInt64.ofNat d) = some s) =
          if t = s then c.toNat else 0 := by
      have hpick : ∀ d ∈ List.range' running.toNat c.toNat,
          pickFrom ((t, c) :: es) running (UInt64.ofNat d) = some t := by
        intro d hd
        rw [List.mem_range'_1] at hd
        exact pickFrom_of_share ((t, c) :: es) running _ 0 (by simp) (by simpa using hsum)
          (by simp [hval d (by omega)]; omega) (by simp [hval d (by omega)]; omega)
      rw [List.countP_congr (q := fun _ => t = s) (fun d hd => by simp [hpick d hd])]
      by_cases hts : t = s <;> simp [hts]
    have htail : (List.range' (running.toNat + c.toNat) (countSum es)).countP
        (fun d => pickFrom ((t, c) :: es) running (UInt64.ofNat d) = some s) =
          (List.range' (running + c).toNat (countSum es)).countP
            (fun d => pickFrom es (running + c) (UInt64.ofNat d) = some s) := by
      rw [hc]
      refine List.countP_congr fun d hd => ?_
      rw [List.mem_range'_1] at hd
      have hpast : ¬ UInt64.ofNat d < running + c := by
        rw [UInt64.lt_iff_toNat_lt, hc, hval d (by omega)]
        omega
      simp [pickFrom, hpast]
    rw [hhead, htail, countP_pickFrom s es (running + c) (by omega), List.filter_cons]
    by_cases hts : t = s <;> simp [hts]

/-- With distinct successors, the counts of the edges into `s` add up to the count of `s`. With
distinct successors, `s` has at most one edge. -/
theorem countSum_filter_key : ∀ (es : List (Successor × UInt64)) (s : Successor),
    (es.map Prod.fst).Nodup → countSum (es.filter fun e => e.1 = s) = ((es.lookup s).getD 0).toNat
  | [], _, _ => rfl
  | (t, c) :: es, s, hnd => by
    rw [List.map_cons, List.nodup_cons] at hnd
    by_cases hts : t = s
    · subst hts
      have hnone : (es.filter fun e => e.1 = t) = [] :=
        List.filter_eq_nil_iff.mpr fun e he het =>
          hnd.1 (List.mem_map.mpr ⟨e, he, by simpa using het⟩)
      simp [hnone]
    · have hne : (s == t) = false := by simpa using Ne.symm hts
      simp only [List.filter_cons, hts, decide_false, Bool.false_eq_true, if_false,
        List.lookup_cons, hne]
      exact countSum_filter_key es s hnd.2

/-! ### The rule -/

/-- **How a node picks.** When the cached total `T` of a node is the sum of its counts: a total
of zero makes no draw and leaves the source as it was; every draw below `T` lies in the share
of exactly one edge, between the running sums before and after it, and picks that edge's
successor; with distinct successors, each is picked by as many of the `T` draws as its count;
and every running sum, in 64 bits, is exact and at most `T`. -/
theorem pick_by_running_sums {n : Node} (hn : n.total.toNat = countSum n.edges) :
    (n.total = 0 → ∀ {σ : Type} [RandomSource σ] (src : σ), n.draw src = (none, src)) ∧
    (∀ d : UInt64, d.toNat < n.total.toNat →
      ∃ i, ∃ _ : i < n.edges.length,
        countSum (n.edges.take i) ≤ d.toNat ∧ d.toNat < countSum (n.edges.take (i + 1)) ∧
        n.pick d = some n.edges[i].1 ∧
        ∀ j, countSum (n.edges.take j) ≤ d.toNat → d.toNat < countSum (n.edges.take (j + 1)) →
          j = i) ∧
    (∀ s, (n.edges.map Prod.fst).Nodup →
      (List.range n.total.toNat).countP (fun d => n.pick (UInt64.ofNat d) = some s) =
        (n.count s).toNat) ∧
    (∀ i, (sumCounts (n.edges.take i)).toNat = countSum (n.edges.take i) ∧
      countSum (n.edges.take i) ≤ n.total.toNat) := by
  have hfits : countSum n.edges < 2 ^ 64 := hn ▸ n.total.toNat_lt
  refine ⟨fun h0 _ _ src => by simp [draw, h0], fun d hd => ?_, fun s hnd => ?_, fun i => ?_⟩
  · obtain ⟨i, hi, hlo, hhi⟩ := exists_share n.edges d.toNat (hn ▸ hd)
    refine ⟨i, hi, hlo, hhi, ?_, fun j hjlo hjhi => share_unique ⟨hjlo, hjhi⟩ ⟨hlo, hhi⟩⟩
    exact pickFrom_of_share n.edges 0 d i hi (by simpa using hfits) (by simpa using hlo)
      (by simpa using hhi)
  · have hcount := countP_pickFrom s n.edges 0 (by simpa using hfits)
    simp only [UInt64.toNat_zero] at hcount
    rw [List.range_eq_range', hn]
    exact hcount.trans (countSum_filter_key n.edges s hnd)
  · have hle := countSum_take_le n.edges i
    exact ⟨sumCounts_toNat (by omega), hn ▸ hle⟩

/-- The node of two successors seen once and twice: the second is picked by two of the three
draws. -/
theorem pick_by_running_sums_two_edges :
    ({ edges := [(.word "x", 1), (.word "y", 2)], total := 3 } : Node).total.toNat =
        countSum ({ edges := [(.word "x", 1), (.word "y", 2)], total := 3 } : Node).edges ∧
      (List.range 3).countP (fun d =>
          ({ edges := [(.word "x", 1), (.word "y", 2)], total := 3 } : Node).pick (UInt64.ofNat d) =
            some (.word "y")) = 2 :=
  have hn : ({ edges := [(.word "x", 1), (.word "y", 2)], total := 3 } : Node).total.toNat =
      countSum ({ edges := [(.word "x", 1), (.word "y", 2)], total := 3 } : Node).edges := by decide
  ⟨hn, (pick_by_running_sums hn).2.2.1 (.word "y") (by decide)⟩

end Node

end Chatbot.Words
