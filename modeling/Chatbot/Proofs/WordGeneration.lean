import Chatbot.Proofs.WordCollection

/-!
# What generation says

A sentence is generated by a walk from the start. On a consistent graph each step of the walk
is predictable in kind, whatever random source it draws from, as long as every draw is below its
bound:

* a draw from a node with edges gives one of its successors, and a draw from a node without
  edges gives nothing and leaves the source as it was (`Node.draw_cases`);
* the search for a requested first word succeeds exactly when one of the draws it makes from
  the start gives that word (`Graph.seekSeed_fst`);
* a walk follows edges from node to node and stops early only at a node with an edge to the end
  of a sentence or with no edges at all (`Graph.walk_spec`).

So generation gives the empty message when the start has no edges, or when no word may be said
(`maxWords = 0`) and the requested word was not drawn. Otherwise it gives the words of a path
from the start, joined by single spaces: at most `maxWords` of them, the requested word first
when it was drawn, and, when fewer than `maxWords`, ending at a word with an edge to the end or
with no edges. The one exception is a requested word drawn when `maxWords = 0`: it is said
alone, one word past the bound, because the bound is checked only after the requested word is
placed.

## What is proved

* `Node.pickFrom_isSome`, `SplitMix.drawsBelow`: a draw below a sound node's total picks a
  successor, and the bot's generator draws below its bound.
* `Node.draw_cases`, `Graph.seekSeed_fst`, `Graph.walk_spec`: the three parts of generation.
* `Graph.trimBlank_intercalate`: words joined by spaces need no trimming.
* `generate_documented_iff`: generation behaves as documented exactly unless the bound is zero
  and the requested word was drawn.
-/

namespace Chatbot.Words

open Chatbot.Text

/-! ### Draws -/

namespace SplitMix

/-- The high half of a 64-bit value times `n` is below `n`, so every draw is below its bound. -/
theorem belowWith_lt {n : UInt64} (hn : 0 < n.toNat) :
    ∀ (tries : Nat) (s : SplitMix), (belowWith n tries s).1.toNat < n.toNat
  | 0, _ => hn
  | tries + 1, s => by
    rcases hs : s.next with ⟨v, s'⟩
    simp only [belowWith, hs]
    split
    · have hlt : v.toNat * n.toNat / Nat.pow 2 64 < n.toNat := by
        apply (Nat.div_lt_iff_lt_mul (by decide)).2
        have h := Nat.mul_lt_mul_of_pos_right v.toNat_lt hn
        simpa only [Nat.mul_comm] using h
      dsimp only
      rw [UInt64.toNat_ofNat_of_lt' (Nat.lt_trans hlt n.toNat_lt)]
      exact hlt
    · exact belowWith_lt hn tries s'

/-- The bot's generator draws below its bound. -/
theorem drawsBelow : DrawsBelow SplitMix :=
  fun s _ hn => belowWith_lt hn 256 s

end SplitMix

variable {σ : Type} [RandomSource σ]

namespace Node

/-- The successor a draw picks is one of the node's. -/
theorem pickFrom_mem : ∀ {es : List (Successor × UInt64)} {running d : UInt64} {s : Successor},
    pickFrom es running d = some s → s ∈ es.map Prod.fst
  | [], _, _, _, h => by cases h
  | (t, c) :: es, running, d, s, h => by
    unfold pickFrom at h
    split at h
    · cases h
      exact List.mem_cons_self ..
    · exact List.mem_cons_of_mem _ (pickFrom_mem h)

/-- A draw between the running sum and the running sum plus the counts left picks a successor,
as long as no sum wraps. -/
theorem pickFrom_isSome : ∀ {es : List (Successor × UInt64)} {running d : UInt64},
    running.toNat ≤ d.toNat → d.toNat < running.toNat + countSum es →
      running.toNat + countSum es < 2 ^ 64 → (pickFrom es running d).isSome = true
  | [], _, _, hle, hlt, _ => by simp at hlt; omega
  | (t, c) :: es, running, d, hle, hlt, hsum => by
    simp only [countSum_cons] at hlt hsum
    have hrc : (running + c).toNat = running.toNat + c.toNat := by
      rw [UInt64.toNat_add]
      exact Nat.mod_eq_of_lt (by omega)
    unfold pickFrom
    split
    · rfl
    · rename_i hnot
      have hge : (running + c).toNat ≤ d.toNat := by
        rw [gt_iff_lt, UInt64.lt_iff_toNat_lt] at hnot
        omega
      exact pickFrom_isSome hge (by omega) (by omega)

/-- A draw from a node with counts picks by a draw below its total. The draw is named by an
equation: unfolding the source's 256 tries is more than a proof can afford. -/
theorem draw_of_total_ne_zero {n : Node} (h : n.total ≠ 0) {src src' : σ} {d : UInt64}
    (hb : RandomSource.below src n.total = (d, src')) : n.draw src = (n.pick d, src') := by
  unfold draw
  rw [if_neg h, hb]

theorem draw_fst_mem {n : Node} {src : σ} {s : Successor} (h : (n.draw src).1 = some s) :
    s ∈ n.edges.map Prod.fst := by
  by_cases h0 : n.total = 0
  · simp [draw, h0] at h
  · rcases hb : RandomSource.below src n.total with ⟨d, src'⟩
    rw [draw_of_total_ne_zero h0 hb] at h
    exact pickFrom_mem h

/-- Positive counts add up to zero exactly when there are none. -/
theorem countSum_eq_zero_iff {es : List (Successor × UInt64)} (hpos : ∀ e ∈ es, 0 < e.2.toNat) :
    countSum es = 0 ↔ es = [] := by
  cases es with
  | nil => simp
  | cons e es =>
    have := hpos e List.mem_cons_self
    simp only [countSum_cons, reduceCtorEq, iff_false]
    omega

/-- The total of a sound node is zero exactly when it has no edges. -/
theorem total_eq_zero_iff {n : Node} (hn : n.Sound) : n.total = 0 ↔ n.edges = [] := by
  rw [← countSum_eq_zero_iff hn.count_pos, ← hn.total_eq, ← UInt64.toNat_inj]
  simp

/-- **A draw from a sound node** gives nothing, and leaves the source as it was, exactly when the
node has no edges; otherwise it gives one of the node's successors. A node with edges has a
positive total, the sum of its counts, and the draw is below it. -/
theorem draw_cases (hbelow : DrawsBelow σ) {n : Node} (hn : n.Sound) (src : σ) :
    (n.edges = [] ∧ n.draw src = (none, src)) ∨
      (n.edges ≠ [] ∧ ∃ s ∈ n.edges.map Prod.fst, (n.draw src).1 = some s) := by
  by_cases he : n.edges = []
  · exact .inl ⟨he, by simp [draw, (total_eq_zero_iff hn).mpr he]⟩
  · refine .inr ⟨he, ?_⟩
    have htotal : n.total ≠ 0 := fun h => he ((total_eq_zero_iff hn).mp h)
    have hpos : 0 < n.total.toNat := by
      have : n.total.toNat ≠ 0 := fun h => htotal (UInt64.toNat_inj.mp h)
      omega
    rcases hb : RandomSource.below src n.total with ⟨d, src'⟩
    have hd := hbelow src n.total hpos
    rw [hb] at hd
    have hsome : (n.pick d).isSome = true :=
      pickFrom_isSome (Nat.zero_le _) (by simpa [← hn.total_eq] using hd)
        (by simpa [← hn.total_eq] using n.total.toNat_lt)
    obtain ⟨s, hs⟩ := Option.isSome_iff_exists.mp hsome
    exact ⟨s, pickFrom_mem hs, by rw [draw_of_total_ne_zero htotal hb]; exact hs⟩

/-- The first `k` draws from a node, each from the source the draw before it left. -/
def draws (n : Node) : Nat → σ → List (Option Successor)
  | 0, _ => []
  | k + 1, src => (n.draw src).1 :: n.draws k (n.draw src).2

theorem mem_draws {n : Node} {s : Successor} :
    ∀ {k : Nat} {src : σ}, some s ∈ n.draws k src → s ∈ n.edges.map Prod.fst
  | 0, _, h => by cases h
  | k + 1, src, h => by
    rcases List.mem_cons.mp h with h | h
    · exact draw_fst_mem h.symm
    · exact mem_draws h

/-- A sound node with one successor always draws it. -/
theorem draw_only (hbelow : DrawsBelow σ) {n : Node} (hn : n.Sound) {s : Successor}
    (he : n.edges.map Prod.fst = [s]) (src : σ) : (n.draw src).1 = some s := by
  rcases draw_cases hbelow hn src with ⟨hempty, -⟩ | ⟨-, s', hs', hd⟩
  · simp [hempty] at he
  · rw [he, List.mem_singleton] at hs'
    rw [hd, hs']

/-- A walk may end at the node: it has an edge to the end of a sentence, or no edges. -/
def Ends (n : Node) : Prop := Successor.stop ∈ n.edges.map Prod.fst ∨ n.edges = []

end Node

namespace Graph

/-! ### The search for a requested first word -/

/-- **The search for a requested word** succeeds exactly when one of the draws it may make from
the start gives that word. A draw of the word ends the search; any other draw leaves it to the
draws after. -/
theorem seekSeed_fst (g : Graph) (s : String) :
    ∀ (k : Nat) (src : σ), (g.seekSeed s k src).1 = true ↔
      some (.word s) ∈ g.start.draws k src
  | 0, _ => by simp [seekSeed, Node.draws]
  | k + 1, src => by
    have ih := seekSeed_fst g s k (g.start.draw src).2
    rcases hd : g.start.draw src with ⟨r, src'⟩
    rw [hd] at ih
    simp only [seekSeed, Node.draws, hd, List.mem_cons]
    rcases r with _ | _ | _
    · simpa using ih
    · rename_i w
      by_cases hw : w = s
      · simp [hw]
      · simp [hw, ih, Ne.symm hw]
    · simpa using ih

/-! ### Walks -/

/-- From the node `n`, the words `ws` follow one another along edges, each word having a node;
the last of these nodes is `m`. -/
inductive Path (g : Graph) : Node → List String → Node → Prop
  /-- No words: the walk stays at its node. -/
  | nil (n : Node) : Path g n [] n
  /-- A word that follows the node, then a path from the word's node. -/
  | cons {n m₁ m : Node} {w : String} {ws : List String} :
      Successor.word w ∈ n.edges.map Prod.fst → g.node? w = some m₁ → Path g m₁ ws m →
        Path g n (w :: ws) m

/-- A node a walk may pass: it is sound, and every word that follows it has a node. -/
def Fit (g : Graph) (n : Node) : Prop := n.Sound ∧ n.SuccessorsIn g.wordList

variable {g : Graph}

theorem mem_words_of_node? {w : String} {n : Node} (h : g.node? w = some n) :
    (w, n) ∈ g.words := by
  obtain ⟨l₁, l₂, hl, -⟩ := List.lookup_eq_some_iff.mp h
  rw [hl]
  exact List.mem_append_right _ List.mem_cons_self

theorem fit_node? (hg : g.Consistent) {w : String} {n : Node} (h : g.node? w = some n) :
    g.Fit n :=
  ⟨hg.words_sound _ (mem_words_of_node? h), hg.words_known _ (mem_words_of_node? h)⟩

/-- The words of a path are fit to be keys. -/
theorem Path.isWord (hg : g.Consistent) {n m : Node} {ws : List String} (h : g.Path n ws m) :
    ∀ w ∈ ws, IsWord w := by
  induction h with
  | nil => exact fun _ hw => by cases hw
  | cons _ hw₁ _ ih =>
    intro v hv
    rcases List.mem_cons.mp hv with rfl | hv
    · exact hg.keys_words _ (mem_wordList_of_node? hw₁)
    · exact ih v hv

/-- **A walk follows edges.** From a fit node, a walk with room for `room` words adds the words
of a path, at most `room` of them, and stops short of `room` only at a node where a walk may end.
A node without edges, or a draw of the end of a sentence, ends the walk; a word drawn has a node,
and the walk goes on from there. -/
theorem walk_spec (hbelow : DrawsBelow σ) (hg : g.Consistent) :
    ∀ (room : Nat) {n : Node} (acc : List String) (src : σ), g.Fit n →
      ∃ path m, (g.walk room n acc src).1 = path.reverse ++ acc ∧ path.length ≤ room ∧
        g.Path n path m ∧ (path.length < room → m.Ends)
  | 0, n, acc, src, _ => ⟨[], n, by simp [walk], Nat.le_refl 0, .nil n, fun h => absurd h (by simp)⟩
  | room + 1, n, acc, src, hn => by
    rcases Node.draw_cases hbelow hn.1 src with ⟨hempty, hd⟩ | ⟨-, s, hs, hd⟩
    · refine ⟨[], n, by simp [walk, hd], Nat.zero_le _, .nil n, fun _ => .inr hempty⟩
    · rcases hsrc : n.draw src with ⟨r, src'⟩
      rw [hsrc] at hd
      cases hd
      cases s with
      | stop =>
        exact ⟨[], n, by simp [walk, hsrc], Nat.zero_le _, .nil n, fun _ => .inl hs⟩
      | word w =>
        obtain ⟨m₁, hm₁⟩ := exists_node?_of_mem (hn.2 w hs)
        obtain ⟨path, m, hrest, hlen, hpath, hends⟩ :=
          walk_spec hbelow hg room (w :: acc) src' (fit_node? hg hm₁)
        refine ⟨w :: path, m, ?_, by simp; omega, .cons hs hm₁ hpath,
          fun h => hends (by simp at h; omega)⟩
        simp [walk, hsrc, hm₁, hrest]

/-! ### The text -/

theorem toList_intercalate_cons (w : String) :
    ∀ rest : List String,
      (" ".intercalate (w :: rest)).toList = w.toList ++ rest.flatMap fun u => ' ' :: u.toList
  | [] => by simp
  | u :: rest => by
    rw [String.intercalate_cons_cons, String.toList_append, String.toList_append,
      toList_intercalate_cons u rest]
    simp

/-- The text of words joined by spaces ends with the last word. -/
theorem toList_intercalate_concat (init : List String) (last : String) :
    ∃ pre : List Char, (" ".intercalate (init ++ [last])).toList = pre ++ last.toList := by
  by_cases hinit : init = []
  · exact ⟨[], by simp [hinit]⟩
  · refine ⟨(" ".intercalate init).toList ++ [' '], ?_⟩
    rw [String.intercalate_append_of_ne_nil hinit (by simp)]
    simp

/-- A word begins with a character that is not blank. -/
theorem isWord_toList_eq_cons {w : String} (hw : IsWord w) :
    ∃ c cs, w.toList = c :: cs ∧ isBlank c = false := by
  obtain ⟨c, cs, hcs⟩ := List.exists_cons_of_ne_nil fun h => hw.1 (String.toList_eq_nil_iff.mp h)
  exact ⟨c, cs, hcs, hw.2 c (by simp [hcs])⟩

/-- A word ends with a character that is not blank. -/
theorem isWord_reverse_eq_cons {w : String} (hw : IsWord w) :
    ∃ d ds, w.toList.reverse = d :: ds ∧ isBlank d = false := by
  obtain ⟨d, ds, hds⟩ := List.exists_cons_of_ne_nil
    fun h => hw.1 (String.toList_eq_nil_iff.mp (List.reverse_eq_nil_iff.mp h))
  exact ⟨d, ds, hds, hw.2 d (List.mem_reverse.mp (by simp [hds]))⟩

/-- A text that begins and ends with a character that is not blank is its own trimming. -/
theorem trimBlank_of_ends {s : String} {c d : Char} {cs ds : List Char}
    (hs : s.toList = c :: cs) (hc : isBlank c = false) (hr : s.toList.reverse = d :: ds)
    (hd : isBlank d = false) : trimBlank s = s := by
  unfold trimBlank dropBlank
  rw [hs, List.dropWhile_cons_of_neg (by simp [hc]), ← hs, hr,
    List.dropWhile_cons_of_neg (by simp [hd]), ← hr, List.reverse_reverse, String.ofList_toList]

/-- **Words joined by single spaces need no trimming**, and make a text that is not empty. The
text begins with the first word's first character and ends with the last word's last character. -/
theorem trimBlank_intercalate {ws : List String} (hne : ws ≠ []) (hw : ∀ w ∈ ws, IsWord w) :
    trimBlank (" ".intercalate ws) = " ".intercalate ws ∧ " ".intercalate ws ≠ "" := by
  obtain ⟨w, rest, rfl⟩ := List.exists_cons_of_ne_nil hne
  obtain ⟨c, cs, hcs, hc⟩ := isWord_toList_eq_cons (hw w List.mem_cons_self)
  have hs : (" ".intercalate (w :: rest)).toList =
      c :: (cs ++ rest.flatMap fun u => ' ' :: u.toList) := by
    rw [toList_intercalate_cons, hcs, List.cons_append]
  obtain ⟨init, last, hsplit⟩ : ∃ init last, w :: rest = init ++ [last] := by
    rcases List.eq_nil_or_concat (w :: rest) with h | ⟨init, last, h⟩
    · cases h
    · exact ⟨init, last, by simpa using h⟩
  obtain ⟨d, ds, hds, hd⟩ := isWord_reverse_eq_cons (hw last (by rw [hsplit]; simp))
  obtain ⟨pre, hpre⟩ := toList_intercalate_concat init last
  have hrev : (" ".intercalate (w :: rest)).toList.reverse = d :: (ds ++ pre.reverse) := by
    rw [hsplit, hpre, List.reverse_append, hds, List.cons_append]
  refine ⟨trimBlank_of_ends hs hc hrev hd, fun h => ?_⟩
  rw [h] at hs
  cases hs

/-- The text generation makes of the words it walked: them joined by single spaces and trimmed,
or the empty message when nothing is left. -/
def textOf (ws : List String) : String :=
  if (trimBlank (" ".intercalate ws)).isEmpty then emptyMessage else trimBlank (" ".intercalate ws)

/-- The text of words: the empty message for none, else the words joined by single spaces. -/
theorem textOf_eq {ws : List String} (hw : ∀ w ∈ ws, IsWord w) :
    textOf ws = if ws = [] then emptyMessage else " ".intercalate ws := by
  by_cases hne : ws = []
  · subst hne
    rfl
  · obtain ⟨htrim, hnonempty⟩ := trimBlank_intercalate hne hw
    rw [textOf, htrim, if_neg hne, if_neg (by simpa using hnonempty)]

/-! ### Generation -/

/-- The requested first word is among the draws its search makes from the start. -/
def SeedDrawn (g : Graph) (src : σ) (seed : Option String) (opts : Options) : Prop :=
  ∃ s, seed = some s ∧ some (.word s) ∈ g.start.draws opts.seedAttempts src

/-- Generation has nothing to say: the start has no edges, or no word may be said and the
requested word was not drawn. -/
def Mute (g : Graph) (src : σ) (seed : Option String) (opts : Options) : Prop :=
  g.start.edges = [] ∨ (opts.maxWords = 0 ∧ ¬ g.SeedDrawn src seed opts)

/-- The documented outcome of generation: the empty message exactly when it has nothing to
say; otherwise at most `maxWords` words along a path from the start, joined by single spaces,
the requested word first when it was drawn, and, when fewer than `maxWords`, ending where a
walk may end. -/
def Documented (g : Graph) (src : σ) (seed : Option String) (opts : Options)
    (out : String) : Prop :=
  (g.Mute src seed opts ∧ out = emptyMessage) ∨
    (¬ g.Mute src seed opts ∧ ∃ ws m, ws ≠ [] ∧ (∀ w ∈ ws, IsWord w) ∧
      out = " ".intercalate ws ∧ ws.length ≤ opts.maxWords ∧ g.Path g.start ws m ∧
      (g.SeedDrawn src seed opts → ws.head? = seed) ∧ (ws.length < opts.maxWords → m.Ends))

/-- A drawn requested word follows the start and has a node. -/
theorem seedDrawn_node (hg : g.Consistent) {src : σ} {s : String} {opts : Options}
    (hd : g.SeedDrawn src (some s) opts) :
    Successor.word s ∈ g.start.edges.map Prod.fst ∧ ∃ n, g.node? s = some n := by
  obtain ⟨s', hs, hmem⟩ := hd
  cases hs
  have hedge := Node.mem_draws hmem
  exact ⟨hedge, exists_node?_of_mem (hg.start_known s hedge)⟩

/-- When the start has one successor, a requested word that is that successor is drawn at the
first try. -/
theorem seedDrawn_of_start_only (hbelow : DrawsBelow σ) (hg : g.Consistent) {s : String}
    (he : g.start.edges.map Prod.fst = [.word s]) (src : σ) (opts : Options)
    (hk : opts.seedAttempts ≠ 0) : g.SeedDrawn src (some s) opts := by
  obtain ⟨k, hk'⟩ := Nat.exists_eq_succ_of_ne_zero hk
  refine ⟨s, rfl, ?_⟩
  rw [hk', Node.draws, Node.draw_only hbelow hg.start_sound he]
  exact List.mem_cons_self

/-- **Generation is a walk**: from the start with room for `maxWords` words when the requested
word was not drawn, and from its node with the word said and room for one word less when it
was. -/
theorem generate_fst_cases (hg : g.Consistent) (src : σ) (seed : Option String)
    (opts : Options) :
    (¬ g.SeedDrawn src seed opts ∧
        ∃ src' : σ, (g.generate src seed opts).1 =
          textOf (g.walk opts.maxWords g.start [] src').1.reverse) ∨
      ∃ (s : String) (n : Node) (src' : σ), seed = some s ∧ g.SeedDrawn src seed opts ∧
        g.node? s = some n ∧ (g.generate src seed opts).1 =
          textOf (g.walk (opts.maxWords - 1) n [s] src').1.reverse := by
  cases seed with
  | none =>
    refine .inl ⟨fun hd => ?_, src, ?_⟩
    · obtain ⟨_, h, _⟩ := hd
      cases h
    · simp only [generate, textOf]
      simp
  | some s =>
    rcases hseek : g.seekSeed s opts.seedAttempts src with ⟨hit, src'⟩
    have hfound := seekSeed_fst g s opts.seedAttempts src
    rw [hseek] at hfound
    cases hit with
    | false =>
      refine .inl ⟨?_, src', ?_⟩
      · rintro ⟨_, hs, hmem⟩
        cases hs
        simp only [reduceCtorEq, false_iff] at hfound
        exact hfound hmem
      · simp only [generate, textOf, hseek]
        simp
    | true =>
      have hd : g.SeedDrawn src (some s) opts := ⟨s, rfl, hfound.mp rfl⟩
      obtain ⟨n, hn⟩ := (seedDrawn_node hg hd).2
      refine .inr ⟨s, n, src', rfl, hd, hn, ?_⟩
      simp only [generate, textOf, hseek, hn]
      simp

theorem Path.head_edge {n m : Node} {w : String} {ws : List String} (h : g.Path n (w :: ws) m) :
    Successor.word w ∈ n.edges.map Prod.fst := by
  cases h with
  | cons hw _ _ => exact hw

/-- A walk from the start, when the requested word was not drawn, behaves as documented. When
nothing was said, no word may be said or the walk ended at the start; when a word was said, the
start has an edge and a word may be said. -/
theorem documented_walk_start (hbelow : DrawsBelow σ) (hg : g.Consistent) {src : σ}
    {seed : Option String} {opts : Options} (hnot : ¬ g.SeedDrawn src seed opts) (src' : σ) :
    g.Documented src seed opts (textOf (g.walk opts.maxWords g.start [] src').1.reverse) := by
  obtain ⟨path, m, hwalk, hlen, hpath, hends⟩ :=
    walk_spec hbelow hg opts.maxWords [] src' ⟨hg.start_sound, hg.start_known⟩
  rw [hwalk, List.append_nil, List.reverse_reverse, textOf_eq (hpath.isWord hg)]
  by_cases hnil : path = []
  · subst hnil
    refine .inl ⟨?_, if_pos rfl⟩
    rcases Nat.eq_zero_or_pos opts.maxWords with h0 | hpos
    · exact .inr ⟨h0, hnot⟩
    · cases hpath
      rcases hends hpos with hstop | hempty
      · exact absurd hstop hg.start_no_stop
      · exact .inl hempty
  · refine .inr ⟨?_, path, m, hnil, hpath.isWord hg, if_neg hnil, hlen, hpath,
      fun h => absurd h hnot, hends⟩
    obtain ⟨w, rest, rfl⟩ := List.exists_cons_of_ne_nil hnil
    rintro (hempty | ⟨h0, -⟩)
    · exact absurd hpath.head_edge (by simp [hempty])
    · simp at hlen
      omega

/-- With a word allowed, a walk from the drawn requested word's node behaves as documented. The
requested word was said, so the start has an edge to it. -/
theorem documented_walk_seed (hbelow : DrawsBelow σ) (hg : g.Consistent) {src : σ} {s : String}
    {n : Node} {opts : Options} (hd : g.SeedDrawn src (some s) opts) (hn : g.node? s = some n)
    (hpos : opts.maxWords ≠ 0) (src' : σ) :
    g.Documented src (some s) opts (textOf (g.walk (opts.maxWords - 1) n [s] src').1.reverse) := by
  obtain ⟨path, m, hwalk, hlen, hpath, hends⟩ :=
    walk_spec hbelow hg (opts.maxWords - 1) [s] src' (fit_node? hg hn)
  have hfull : g.Path g.start (s :: path) m := .cons (seedDrawn_node hg hd).1 hn hpath
  rw [hwalk, List.reverse_append, List.reverse_reverse, List.reverse_singleton,
    List.singleton_append, textOf_eq (hfull.isWord hg), if_neg (List.cons_ne_nil _ _)]
  refine .inr ⟨?_, s :: path, m, List.cons_ne_nil _ _, hfull.isWord hg, rfl, ?_, hfull,
    fun _ => rfl, fun h => hends ?_⟩
  · rintro (hempty | ⟨h0, -⟩)
    · exact absurd (seedDrawn_node hg hd).1 (by simp [hempty])
    · exact hpos h0
  · simp only [List.length_cons]
    omega
  · simp only [List.length_cons] at h
    omega

/-- **Generation behaves as documented** when a word may be said or the requested word was not
drawn. -/
theorem generate_documented (hbelow : DrawsBelow σ) (hg : g.Consistent) (src : σ) (seed : Option String)
    (opts : Options) (h : opts.maxWords ≠ 0 ∨ ¬ g.SeedDrawn src seed opts) :
    g.Documented src seed opts (g.generate src seed opts).1 := by
  rcases generate_fst_cases hg src seed opts with
    ⟨hnot, src', hout⟩ | ⟨s, n, src', rfl, hd, hn, hout⟩
  · rw [hout]
    exact documented_walk_start hbelow hg hnot src'
  · rw [hout]
    exact documented_walk_seed hbelow hg hd hn (h.resolve_right fun hnot => hnot hd) src'

/-- **The requested word is said past a zero bound**: when no word may be said but the requested
word was drawn, generation says that word alone. The walk has no room left, and gives back the
requested word. -/
theorem generate_seed_past_bound (hg : g.Consistent) {src : σ} {s : String} {opts : Options}
    (h0 : opts.maxWords = 0) (hd : g.SeedDrawn src (some s) opts) :
    (g.generate src (some s) opts).1 = s := by
  rcases generate_fst_cases hg src (some s) opts with ⟨hnot, -⟩ | ⟨s', n, src', hs, -, -, hout⟩
  · exact absurd hd hnot
  · cases hs
    have hword : IsWord s :=
      hg.keys_words s (mem_wordList_of_node? (seedDrawn_node hg hd).2.choose_spec)
    have hone : ∀ w ∈ [s], IsWord w := by simpa using hword
    rw [hout, h0]
    simp [walk, textOf_eq hone]

/-- No output is documented when no word may be said but the requested word was drawn: the
requested word has to be said, and no word may be. -/
theorem not_documented_of_seed_past_bound (hg : g.Consistent) {src : σ} {seed : Option String}
    {opts : Options} (h0 : opts.maxWords = 0) (hd : g.SeedDrawn src seed opts) (out : String) :
    ¬ g.Documented src seed opts out := by
  obtain ⟨s, rfl, -⟩ := id hd
  rintro (⟨hempty | ⟨-, hnot⟩, -⟩ | ⟨-, ws, m, hne, -, -, hlen, -⟩)
  · exact absurd (seedDrawn_node hg hd).1 (by simp [hempty])
  · exact hnot hd
  · rw [h0] at hlen
    exact hne (List.length_eq_zero_iff.mp (Nat.le_zero.mp hlen))

end Graph

/-- **What generation says.** On a consistent graph, generation behaves as documented exactly
when a word may be said or the requested word was not drawn; when no word may be said but the
requested word was drawn, it says that word alone, one word past the bound. -/
theorem generate_documented_iff {σ : Type} [RandomSource σ] (hbelow : DrawsBelow σ) {g : Graph}
    (hg : g.Consistent) (src : σ) (seed : Option String) (opts : Options) :
    (g.Documented src seed opts (g.generate src seed opts).1 ↔
        opts.maxWords ≠ 0 ∨ ¬ g.SeedDrawn src seed opts) ∧
      ∀ s, seed = some s → opts.maxWords = 0 → g.SeedDrawn src seed opts →
        (g.generate src seed opts).1 = s := by
  refine ⟨⟨fun hdoc => ?_, Graph.generate_documented hbelow hg src seed opts⟩, ?_⟩
  · by_cases h0 : opts.maxWords = 0
    · exact .inr fun hd => Graph.not_documented_of_seed_past_bound hg h0 hd _ hdoc
    · exact .inl h0
  · rintro s rfl h0 hd
    exact Graph.generate_seed_past_bound hg h0 hd

/-- Two learned texts, and a sentence requested to begin with the first word of the second. -/
theorem learned_sentence_documented :
    (({} : Chain).applyEdits [.learn "red apple", .learn "green pear"]).graph.Consistent ∧
      (({} : Chain).applyEdits [.learn "red apple", .learn "green pear"]).graph.Documented
        (⟨7⟩ : SplitMix) (some "green") {}
        ((({} : Chain).applyEdits [.learn "red apple", .learn "green pear"]).graph.generate
          (⟨7⟩ : SplitMix) (some "green") {}).1 :=
  have hg := (Graph.tracked_empty.applyEdits (c := {}) [.learn "red apple", .learn "green pear"]
    (by decide)).consistent
  ⟨hg, (generate_documented_iff SplitMix.drawsBelow hg ⟨7⟩ (some "green") {}).1.mpr
    (.inl (by decide))⟩

/-- One learned word, requested with no word allowed: the word is said all the same. -/
theorem seed_said_past_zero_bound :
    ((({} : Chain).applyEdits [.learn "a"]).graph.generate (⟨0⟩ : SplitMix) (some "a")
        { maxWords := 0 }).1 = "a" ∧
      ¬ (({} : Chain).applyEdits [.learn "a"]).graph.Documented (⟨0⟩ : SplitMix) (some "a")
        { maxWords := 0 }
        ((({} : Chain).applyEdits [.learn "a"]).graph.generate (⟨0⟩ : SplitMix) (some "a")
          { maxWords := 0 }).1 := by
  have hg := (Graph.tracked_empty.applyEdits (c := {}) [.learn "a"] (by decide)).consistent
  have he :
      (({} : Chain).applyEdits [.learn "a"]).graph.start.edges.map Prod.fst = [.word "a"] := by
    decide
  have hd :=
    Graph.seedDrawn_of_start_only SplitMix.drawsBelow hg he ⟨0⟩ { maxWords := 0 } (by decide)
  exact ⟨Graph.generate_seed_past_bound hg rfl hd,
    Graph.not_documented_of_seed_past_bound hg rfl hd _⟩

end Chatbot.Words
