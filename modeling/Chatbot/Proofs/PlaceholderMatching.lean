import Chatbot.Proofs.CommandWordKept

/-!
# Placeholders as leftmost matches

Expanding the placeholders of a template is a search for the pattern

    @(authorid|author|channelid|channel|server|command|args|arg\d*-?\d*)@

from left to right: each match, the leftmost one first and none overlapping another, is
replaced by the value of the placeholder it spells when there is one that safe mode lets
through, and kept as written otherwise; the search resumes after the match, so a value put in
is never searched again. Here `\d` is a decimal digit of any script.

The texts the pattern matches are the spellings of the *well-formed* placeholders: those whose
indexes are digits, with every digit in the first index when there is no dash. `Expands` says,
one step at a time, what the search makes of a text; `expands_iff` shows that the scan of the
model makes exactly that, and nothing else. The reader it rests on finds, after an `@`, the one
well-formed placeholder written there if there is one (`read?_spelling_append`), and reads
nothing else (`read?_sound`), so at each place at most one placeholder starts.

An index is read in ASCII digits and must fit in 64 bits (`SpellsIndex`). A placeholder with a
digit of another script is still matched, and so consumed as a whole, but has no value and is
kept as written.

## What is proved

* `expands_iff`: the scan makes the expansion `Expands` describes, and only that.
* `expand_eq_expandChars`: the shortcut for templates without `@` gives what the scan gives.
* `readIndex_eq_some_iff`: the index of a run of digits is the number its ASCII digits spell,
  when it fits in 64 bits.
* `expand_replaces_placeholders`: all of this together with the value of each placeholder.
-/

namespace Chatbot.Template

open Chatbot.Text
open scoped List

/-! ### The placeholders the pattern matches -/

namespace Placeholder

/-- A placeholder the pattern can match: its indexes are decimal digits of any script, and
without a dash every digit belongs to the first index. -/
def WellFormed : Placeholder → Prop
  | .arg first ranged last =>
    (∀ c ∈ first, isDigit c = true) ∧ (∀ c ∈ last, isDigit c = true) ∧
      (ranged = false → last = [])
  | _ => True

instance : DecidablePred WellFormed := fun p => by
  cases p <;> unfold WellFormed <;> infer_instance

/-- Every placeholder opens with an `@`. -/
theorem spelling_eq_cons_tail (p : Placeholder) : p.spelling = '@' :: p.spelling.tail := by
  cases p <;> rfl

theorem named_wellFormed : ∀ e ∈ named, e.2.WellFormed := by
  decide

end Placeholder

/-! ### Reading a placeholder -/

/-- A digit is none of the characters that are not digits. -/
theorem ne_of_isDigit {c d : Char} (hc : isDigit c = true) (hd : isDigit d = false) : c ≠ d := by
  rintro rfl
  rw [hc] at hd
  cases hd

/-- A run of digits ends where the first other character stands. -/
theorem span_digits {ds : List Char} (hds : ∀ c ∈ ds, isDigit c = true) {c : Char}
    (hc : isDigit c = false) (x : List Char) :
    (ds ++ c :: x).takeWhile isDigit = ds ∧ (ds ++ c :: x).dropWhile isDigit = c :: x := by
  induction ds with
  | nil => simp [hc]
  | cons d ds ih =>
    obtain ⟨htake, hdrop⟩ := ih fun e he => hds e (List.mem_cons_of_mem _ he)
    simp [hds d List.mem_cons_self, htake, hdrop]

/-- After the digits at the front, no digit is left at the front. -/
theorem takeWhile_dropWhile_self (p : Char → Bool) :
    ∀ cs : List Char, (cs.dropWhile p).takeWhile p = []
  | [] => rfl
  | c :: cs => by
    by_cases hc : p c
    · simp only [List.dropWhile_cons, hc, if_true]
      exact takeWhile_dropWhile_self p cs
    · simp [hc]

/-- The indexes of a placeholder after `@arg` are read back as they were written. With a dash the
first index stops at the dash and the second at the closing `@`. -/
theorem readArg_spelling_append {first last : List Char} {ranged : Bool}
    (hp : (Placeholder.arg first ranged last).WellFormed) (r : List Char) :
    readArg (first ++ (if ranged then ['-'] else []) ++ last ++ '@' :: r) =
      some (.arg first ranged last, r) := by
  obtain ⟨hfirst, hlast, hplain⟩ := hp
  have hat := span_digits hlast (c := '@') (by decide) r
  cases ranged with
  | true =>
    have hdash := span_digits hfirst (c := '-') (by decide) (last ++ '@' :: r)
    simp only [if_true, List.append_assoc, List.cons_append] at hdash ⊢
    simp [readArg, hdash, dropDash, hat]
  | false =>
    obtain rfl := hplain rfl
    have hfirst' := span_digits hfirst (c := '@') (by decide) r
    simp only [List.nil_append] at hat
    simp only [Bool.false_eq_true, if_false, List.append_nil] at hfirst' ⊢
    simp [readArg, hfirst', dropDash, hat]

/-- No named placeholder starts `arg` followed by something other than `s`. -/
theorem readNamed_arg {c : Char} (hc : c ≠ 's') (x : List Char) :
    readNamed Placeholder.named ("arg".toList ++ c :: x) = none := by
  simp [readNamed, Placeholder.named, stripStart?, Ne.symm hc]

/-- After `@arg` comes a digit, a dash or the closing `@`, never the `s` of `@args@`. -/
theorem arg_text_eq_cons {first last : List Char} {ranged : Bool}
    (hp : (Placeholder.arg first ranged last).WellFormed) (r : List Char) :
    ∃ c x, first ++ (if ranged then ['-'] else []) ++ last ++ '@' :: r = c :: x ∧
      c ≠ 's' := by
  obtain ⟨hfirst, -, hplain⟩ := hp
  rcases first with _ | ⟨d, ds⟩
  · cases ranged
    · exact ⟨'@', r, by simp [hplain rfl], by decide⟩
    · exact ⟨'-', last ++ '@' :: r, by simp, by decide⟩
  · exact ⟨d, _, rfl, ne_of_isDigit (hfirst d List.mem_cons_self) (by decide)⟩

/-- **The reader finds the placeholder written after an `@`**: a well-formed placeholder is read
whole, whatever follows it. An index placeholder reads no name, then its indexes after `arg`. -/
theorem read?_spelling_append {p : Placeholder} (hp : p.WellFormed) (r : List Char) :
    read? (p.spelling.tail ++ r) = some (p, r) := by
  cases p with
  | arg first ranged last =>
    obtain ⟨c, x, hcx, hc⟩ := arg_text_eq_cons hp r
    have htail : (Placeholder.arg first ranged last).spelling.tail ++ r =
        "arg".toList ++ (first ++ (if ranged then ['-'] else []) ++ last ++ '@' :: r) := by
      rw [spelling_arg, show "@arg".toList = '@' :: "arg".toList by simp]
      simp only [List.cons_append, List.tail_cons, List.append_assoc, List.nil_append]
    rw [htail, read?, hcx, readNamed_arg hc x, stripStart?_append, ← hcx]
    exact readArg_spelling_append hp r
  | _ => rfl

/-- A named placeholder that was read is one of the list. -/
theorem readNamed_mem :
    ∀ (names : List (List Char × Placeholder)) {cs r : List Char} {p : Placeholder},
      readNamed names cs = some (p, r) → ∃ e ∈ names, e.2 = p
  | [], _, _, _, h => by simp [readNamed] at h
  | (name, q) :: more, cs, r, p, h => by
    simp only [readNamed] at h
    split at h
    · simp only [Option.some.injEq, Prod.mk.injEq] at h
      exact ⟨(name, q), List.mem_cons_self, h.1⟩
    · obtain ⟨e, he, hep⟩ := readNamed_mem more h
      exact ⟨e, List.mem_cons_of_mem _ he, hep⟩

theorem dropDash_of_fst_false {cs : List Char} (h : (dropDash cs).1 = false) :
    (dropDash cs).2 = cs := by
  unfold dropDash at h ⊢
  split
  · simp at h
  · rfl

/-- The indexes read after `@arg` are digits, all in the first one when there is no dash. Without
a dash the second run of digits starts where the first stopped, so it is empty. -/
theorem readArg_wellFormed {cs r : List Char} {p : Placeholder} (h : readArg cs = some (p, r)) :
    p.WellFormed := by
  unfold readArg at h
  split at h
  · cases h
    refine ⟨fun c hc => List.all_eq_true.mp List.all_takeWhile c hc,
      fun c hc => List.all_eq_true.mp List.all_takeWhile c hc, fun hplain => ?_⟩
    rw [dropDash_of_fst_false hplain]
    exact takeWhile_dropWhile_self isDigit cs
  · cases h

/-- A placeholder that was read is well formed. -/
theorem read?_wellFormed {rest r : List Char} {p : Placeholder} (h : read? rest = some (p, r)) :
    p.WellFormed := by
  unfold read? at h
  split at h
  · cases h
    obtain ⟨e, he, rfl⟩ := readNamed_mem _ (by assumption)
    exact Placeholder.named_wellFormed e he
  · split at h
    · exact readArg_wellFormed h
    · cases h

/-- **What the reader reads is a placeholder written there**, and a well-formed one. -/
theorem read?_sound {rest r : List Char} {p : Placeholder} (h : read? rest = some (p, r)) :
    p.WellFormed ∧ p.spelling ++ r = '@' :: rest :=
  ⟨read?_wellFormed h, read?_spelling h⟩

/-- A placeholder written at the front of a text is the one read there. -/
theorem read?_eq_of_spelling {p : Placeholder} (hp : p.WellFormed) {r rest : List Char}
    (h : p.spelling ++ r = '@' :: rest) : read? rest = some (p, r) := by
  rw [p.spelling_eq_cons_tail, List.cons_append, List.cons.injEq] at h
  rw [← h.2]
  exact read?_spelling_append hp r

/-! ### Expansion as a search for matches -/

/-- What expanding the placeholders makes of a text, read from the left. Where a well-formed
placeholder is written it is replaced by its value, if it has one that the mode lets through,
and kept as written otherwise; reading resumes after it either way. Anywhere else a character
is copied. -/
inductive Expands (tokens : List String) (t : Transport) (safe : Bool) :
    List Char → List Char → Prop
  /-- Nothing is left of nothing. -/
  | nil : Expands tokens t safe [] []
  /-- A placeholder with a value the mode accepts is replaced by it. -/
  | subst {p : Placeholder} {v : String} {rest out : List Char} : p.WellFormed →
      p.value tokens t = some v → (safe = false ∨ isSafe v = true) →
      Expands tokens t safe rest out →
      Expands tokens t safe (p.spelling ++ rest) (v.toList ++ out)
  /-- A placeholder without such a value stays as it was written. -/
  | keep {p : Placeholder} {rest out : List Char} : p.WellFormed →
      (∀ v, p.value tokens t = some v → safe = true ∧ isSafe v = false) →
      Expands tokens t safe rest out →
      Expands tokens t safe (p.spelling ++ rest) (p.spelling ++ out)
  /-- A character where no placeholder starts is copied. -/
  | copy {c : Char} {rest out : List Char} :
      (∀ p : Placeholder, p.WellFormed → ¬ p.spelling <+: c :: rest) →
      Expands tokens t safe rest out → Expands tokens t safe (c :: rest) (c :: out)

section Scan

variable {tokens : List String} {t : Transport} {safe : Bool}

theorem replacement_of_value {p : Placeholder} {v : String} (hv : p.value tokens t = some v)
    (hs : safe = false ∨ isSafe v = true) : p.replacement tokens t safe = v.toList := by
  unfold Placeholder.replacement
  rw [hv]
  rcases hs with rfl | hs <;> simp [*]

theorem replacement_of_refused {p : Placeholder}
    (h : ∀ v, p.value tokens t = some v → safe = true ∧ isSafe v = false) :
    p.replacement tokens t safe = p.spelling := by
  unfold Placeholder.replacement
  split
  · rename_i v hv
    obtain ⟨rfl, hs⟩ := h v hv
    simp [hs]
  · rfl

/-- A well-formed placeholder goes to its replacement, whichever rule applies. -/
theorem Expands.placeholder {p : Placeholder} {rest out : List Char} (hp : p.WellFormed)
    (h : Expands tokens t safe rest out) :
    Expands tokens t safe (p.spelling ++ rest) (p.replacement tokens t safe ++ out) := by
  by_cases hsub : ∃ v, p.value tokens t = some v ∧ (safe = false ∨ isSafe v = true)
  · obtain ⟨v, hv, hs⟩ := hsub
    rw [replacement_of_value hv hs]
    exact .subst hp hv hs h
  · have hkeep : ∀ v, p.value tokens t = some v → safe = true ∧ isSafe v = false := by
      intro v hv
      have hno := fun hs => hsub ⟨v, hv, hs⟩
      cases safe <;> simp_all
    rw [replacement_of_refused hkeep]
    exact .keep hp hkeep h

/-- **A placeholder is replaced as a whole**: the scan puts its replacement in and resumes after
it, whatever the replacement holds. -/
theorem expandChars_spelling {p : Placeholder} (hp : p.WellFormed) (rest : List Char) :
    expandChars tokens t safe (p.spelling ++ rest) =
      p.replacement tokens t safe ++ expandChars tokens t safe rest := by
  rw [p.spelling_eq_cons_tail, List.cons_append, expand_at, read?_spelling_append hp]

/-- The scan makes an expansion of every text. An `@` after which nothing is read starts no
placeholder written there. -/
theorem expands_expandChars (cs : List Char) :
    Expands tokens t safe cs (expandChars tokens t safe cs) := by
  fun_induction expandChars tokens t safe cs with
  | case1 => exact .nil
  | case2 rest p r hread _ ih =>
    obtain ⟨hp, hspelling⟩ := read?_sound hread
    rw [← hspelling]
    exact ih.placeholder hp
  | case3 rest hread ih =>
    refine .copy (fun p hp hprefix => ?_) ih
    obtain ⟨r, hpre⟩ := hprefix
    rw [read?_eq_of_spelling hp hpre] at hread
    cases hread
  | case4 c rest hc ih =>
    refine .copy (fun p hp hprefix => hc ?_) ih
    obtain ⟨r, hpre⟩ := hprefix
    rw [p.spelling_eq_cons_tail, List.cons_append, List.cons.injEq] at hpre
    exact hpre.1.symm

/-- An expansion of a text is the one the scan makes. A copied `@` starts no placeholder, so the
reader reads none after it. -/
theorem Expands.eq_expandChars {cs out : List Char} (h : Expands tokens t safe cs out) :
    out = expandChars tokens t safe cs := by
  induction h with
  | nil => exact (expand_nil tokens t safe).symm
  | subst hp hv hs _ ih => rw [expandChars_spelling hp, replacement_of_value hv hs, ih]
  | keep hp hkeep _ ih => rw [expandChars_spelling hp, replacement_of_refused hkeep, ih]
  | @copy c rest out hnone _ ih =>
    by_cases hc : c = '@'
    · subst hc
      rw [expand_at]
      rcases hread : read? rest with _ | ⟨q, r⟩
      · rw [ih]
      · obtain ⟨hq, hspelling⟩ := read?_sound hread
        exact absurd ⟨r, hspelling⟩ (hnone q hq)
    · rw [expand_plain tokens t safe hc, ih]

/-- **The scan is the search for placeholders**: it makes the expansion of a text that
`Expands` describes, and there is no other. -/
theorem expands_iff (cs out : List Char) :
    Expands tokens t safe cs out ↔ out = expandChars tokens t safe cs :=
  ⟨Expands.eq_expandChars, fun h => h ▸ expands_expandChars cs⟩

end Scan

/-- The shortcut for templates without `@` gives what the scan gives. -/
theorem expand_eq_expandChars (template : String) (tokens : List String) (ctx : Context)
    (safe : Bool) :
    expand template tokens ctx safe =
      String.ofList (expandChars tokens ctx.transport safe template.toList) := by
  unfold expand
  split
  · rfl
  · rename_i hat
    have hplain : ∀ c ∈ template.toList, c ≠ '@' := by
      rintro c hc rfl
      exact hat (List.elem_eq_true_of_mem hc)
    have hscan := expandChars_append_plain tokens ctx.transport safe hplain []
    rw [List.append_nil, expand_nil, List.append_nil] at hscan
    rw [hscan, String.ofList_toList]

/-! ### Indexes -/

/-- `ds` writes `n` in ASCII decimal digits, and `n` fits in 64 bits. -/
def SpellsIndex (ds : List Char) (n : Nat) : Prop :=
  ds ≠ [] ∧ (∀ c ∈ ds, c.isDigit = true) ∧
    Nat.ofDigits 10 (ds.reverse.map fun c => c.toNat - '0'.toNat) = n ∧ n < 2 ^ 64

theorem digitValue?_eq (c : Char) :
    digitValue? c = if c.isDigit then some (c.toNat - '0'.toNat) else none := by
  simp [digitValue?, Char.isDigit, Char.le_def]

/-- One more digit on the right multiplies what stands before it by ten. -/
theorem ofDigits_reverse_cons (acc : Nat) (c : Char) (cs : List Char) :
    acc * 10 ^ (c :: cs).length +
        Nat.ofDigits 10 ((c :: cs).reverse.map fun c => c.toNat - '0'.toNat) =
      (acc * 10 + (c.toNat - '0'.toNat)) * 10 ^ cs.length +
        Nat.ofDigits 10 (cs.reverse.map fun c => c.toNat - '0'.toNat) := by
  simp only [List.length_cons, List.reverse_cons, List.map_append, List.map_cons, List.map_nil,
    Nat.ofDigits_append, Nat.ofDigits_singleton, List.length_map, List.length_reverse, pow_succ]
  ring

/-- **Reading digits** onto `acc` succeeds exactly when they are ASCII digits and the number they
make stays within the limit; it is then that number. Once past the limit, further digits only
make the number larger. -/
theorem readDigits_eq_ok_iff {limit : Nat} {excess : NumberError} :
    ∀ (ds : List Char) {acc n : Nat}, acc ≤ limit →
      (readDigits limit excess acc ds = .ok n ↔ (∀ c ∈ ds, c.isDigit = true) ∧
        acc * 10 ^ ds.length + Nat.ofDigits 10 (ds.reverse.map fun c => c.toNat - '0'.toNat) = n ∧
        n ≤ limit)
  | [], acc, n, hacc => by
    simp only [readDigits, Except.ok.injEq, List.not_mem_nil, List.length_nil, List.reverse_nil,
      List.map_nil, Nat.ofDigits_nil]
    constructor
    · rintro rfl
      simpa using hacc
    · rintro ⟨-, h, -⟩
      simpa using h
  | c :: cs, acc, n, hacc => by
    simp only [readDigits, digitValue?_eq, ofDigits_reverse_cons, List.mem_cons, forall_eq_or_imp]
    by_cases hc : c.isDigit
    · simp only [hc, if_true, true_and]
      by_cases hv : acc * 10 + (c.toNat - '0'.toNat) > limit
      · have hgrow : acc * 10 + (c.toNat - '0'.toNat) ≤
            (acc * 10 + (c.toNat - '0'.toNat)) * 10 ^ cs.length :=
          Nat.le_mul_of_pos_right _ (Nat.pow_pos (by norm_num))
        simp only [hv, if_true, reduceCtorEq, false_iff, not_and]
        omega
      · rw [if_neg hv]
        exact readDigits_eq_ok_iff cs (by omega)
    · simp [hc]

/-- **The index of a run of digits** is the number its ASCII digits write, when that fits in 64
bits. A digit of any script is not a sign, so the whole run is read as digits. -/
theorem readIndex_eq_some_iff {ds : List Char} (hds : ∀ c ∈ ds, isDigit c = true) (n : Nat) :
    readIndex ds = some n ↔ SpellsIndex ds n := by
  cases ds with
  | nil => simp [readIndex, readWord, readNat, SpellsIndex]
  | cons c cs =>
    have hc : c ≠ '+' := ne_of_isDigit (hds c List.mem_cons_self) (by decide)
    have hword : readWord (String.ofList (c :: cs)) = readDigits wordMax .tooLarge 0 (c :: cs) := by
      unfold readWord readNat
      rw [String.toList_ofList]
      split <;> simp_all
    have hmax : wordMax = 2 ^ 64 - 1 := rfl
    unfold readIndex
    rw [hword]
    rcases hdigits : readDigits wordMax .tooLarge 0 (c :: cs) with e | m
    · simp only [reduceCtorEq, false_iff]
      rintro ⟨-, hascii, hval, hlt⟩
      have hok : readDigits wordMax .tooLarge 0 (c :: cs) = .ok n :=
        (readDigits_eq_ok_iff (c :: cs) (Nat.zero_le wordMax)).mpr
          ⟨hascii, by simpa using hval, by omega⟩
      rw [hdigits] at hok
      cases hok
    · obtain ⟨hascii, hval, hle⟩ :=
        (readDigits_eq_ok_iff (c :: cs) (Nat.zero_le wordMax)).mp hdigits
      simp only [Option.some.injEq, SpellsIndex, ne_eq, reduceCtorEq, not_false_eq_true, true_and]
      simp only [zero_mul, zero_add] at hval
      constructor
      · rintro rfl
        exact ⟨hascii, hval, by omega⟩
      · rintro ⟨-, hval', -⟩
        rw [← hval, hval']

/-- An ASCII digit is a digit. -/
theorem isDigit_of_ascii {c : Char} (h : c.isDigit = true) : isDigit c = true := by
  have hbounds : '0' ≤ c ∧ c ≤ '9' := by simpa [Char.isDigit, Char.le_def] using h
  exact isDigit_ascii hbounds.1 hbounds.2

theorem SpellsIndex.readIndex {ds : List Char} {n : Nat} (h : SpellsIndex ds n) :
    readIndex ds = some n :=
  (readIndex_eq_some_iff (fun c hc => isDigit_of_ascii (h.2.1 c hc)) n).mpr h

/-- Digits that write no index in ASCII that fits in 64 bits give no index. -/
theorem readIndex_eq_none {ds : List Char} (hds : ∀ c ∈ ds, isDigit c = true)
    (h : ∀ n, ¬ SpellsIndex ds n) : readIndex ds = none := by
  rcases hread : readIndex ds with _ | n
  · rfl
  · exact absurd ((readIndex_eq_some_iff hds n).mp hread) (h n)

/-! ### Values -/

/-- Words `a` to `b` of a command line, both included, joined by single spaces, when
`1 ≤ a ≤ b ≤` the last index. -/
def wordRange (tokens : List String) (a b : Nat) : Option String :=
  if 1 ≤ a ∧ a ≤ b ∧ b ≤ tokens.length - 1 then
    some (" ".intercalate ((tokens.take (b + 1)).drop a))
  else none

@[simp] theorem wordRange_nil (a b : Nat) : wordRange [] a b = none := by
  unfold wordRange
  split <;> simp_all
  omega

section Values

variable (tokens : List String) (t : Transport)

/-- `@argN@` is word `N`, when there is one. -/
theorem value_arg_single {first : List Char} {n : Nat} (h : SpellsIndex first n) :
    (Placeholder.arg first false []).value tokens t = tokens[n]? := by
  simp [Placeholder.value, argValue, h.readIndex]

/-- A ranged placeholder is the words between its bounds, both included, where a missing first
bound is 1 and a missing last bound is the last index; one of them must be written. -/
theorem value_arg_ranged {first last : List Char} {a b : Nat}
    (hwritten : first ≠ [] ∨ last ≠ [])
    (ha : first = [] ∧ a = 1 ∨ SpellsIndex first a)
    (hb : last = [] ∧ b = tokens.length - 1 ∨ SpellsIndex last b) :
    (Placeholder.arg first true last).value tokens t = wordRange tokens a b := by
  by_cases htok : tokens = []
  · subst htok
    simp [Placeholder.value, argValue, wordRange_nil]
  rcases ha with ⟨rfl, rfl⟩ | ha <;> rcases hb with ⟨rfl, rfl⟩ | hb
  · simp at hwritten
  · simp [Placeholder.value, argValue, htok, List.isEmpty_eq_false_iff.mpr hb.1, hb.readIndex,
      wordRange, List.drop_take, joinWords]
  · simp [Placeholder.value, argValue, htok, List.isEmpty_eq_false_iff.mpr ha.1, ha.readIndex,
      wordRange, List.drop_take, joinWords]
  · simp [Placeholder.value, argValue, htok, List.isEmpty_eq_false_iff.mpr ha.1,
      List.isEmpty_eq_false_iff.mpr hb.1, ha.readIndex, hb.readIndex, wordRange, List.drop_take,
      joinWords]

/-- An index placeholder has no value when it writes neither bound, or when a bound it writes is
not a number in ASCII digits that fits in 64 bits. -/
theorem value_arg_eq_none {first last : List Char} {ranged : Bool}
    (hp : (Placeholder.arg first ranged last).WellFormed)
    (h : first = [] ∧ last = [] ∨ first ≠ [] ∧ (∀ n, ¬ SpellsIndex first n) ∨
      last ≠ [] ∧ (∀ n, ¬ SpellsIndex last n)) :
    (Placeholder.arg first ranged last).value tokens t = none := by
  obtain ⟨hfirst, hlast, hplain⟩ := hp
  rcases h with ⟨rfl, rfl⟩ | ⟨hne, hno⟩ | ⟨hne, hno⟩
  · cases ranged <;> simp [Placeholder.value, argValue, readIndex, readWord, readNat]
  · cases ranged <;> cases hlast' : last.isEmpty <;>
      simp [Placeholder.value, argValue, readIndex_eq_none hfirst hno,
        List.isEmpty_eq_false_iff.mpr hne, hlast']
  · cases ranged
    · exact absurd (hplain rfl) hne
    · cases hfirst' : first.isEmpty <;>
        simp [Placeholder.value, argValue, readIndex_eq_none hlast hno,
          List.isEmpty_eq_false_iff.mpr hne, hfirst']

/-- A digit of another script makes a placeholder that is kept as written. -/
theorem replacement_of_foreign_digit {first last : List Char} {ranged : Bool} (safe : Bool)
    (hp : (Placeholder.arg first ranged last).WellFormed)
    (h : ∃ c ∈ first ++ last, c.isDigit = false) :
    (Placeholder.arg first ranged last).replacement tokens t safe =
      (Placeholder.arg first ranged last).spelling := by
  obtain ⟨c, hc, hforeign⟩ := h
  have hno : ∀ ds, c ∈ ds → ∀ n, ¬ SpellsIndex ds n := fun ds hds n hn => by
    rw [hn.2.1 c hds] at hforeign
    cases hforeign
  have hnone : (Placeholder.arg first ranged last).value tokens t = none := by
    refine value_arg_eq_none tokens t hp ?_
    rcases List.mem_append.mp hc with hc | hc
    · exact .inr (.inl ⟨List.ne_nil_of_mem hc, hno first hc⟩)
    · exact .inr (.inr ⟨List.ne_nil_of_mem hc, hno last hc⟩)
  exact replacement_of_refused fun v hv => by simp [hnone] at hv

end Values

/-- **Placeholder expansion.** For every template, command line, context and mode, expanding
gives what the scan gives, shortcut or not, and that is the expansion `Expands` describes: each
well-formed placeholder, the leftmost first and none overlapping another, is replaced by its
value when it has one that the mode lets through and kept as written otherwise, and what was put
in is not searched again. The values: `@argN@` is word `N` when there is one; `@argN-M@` is
words `N` to `M` joined by single spaces when `1 ≤ N ≤ M ≤` the last index; `@argN-@` ends at
the last index and `@arg-M@` starts at 1; an index placeholder that writes no bound, or a bound
that is not a number in ASCII digits fitting in 64 bits, has no value, and one with a digit of
another script is kept as written; `@args@` is the words after the first (empty when there are
none), `@command@` all of them; the names and ids are the transport's, and `@server@` is the
server's name only on a platform with servers. -/
theorem expand_replaces_placeholders (tokens : List String) (ctx : Context) (safe : Bool) :
    (∀ template : String,
      expand template tokens ctx safe =
        String.ofList (expandChars tokens ctx.transport safe template.toList) ∧
      ∀ out, Expands tokens ctx.transport safe template.toList out ↔
        out = (expand template tokens ctx safe).toList) ∧
    (∀ first n, SpellsIndex first n →
      (Placeholder.arg first false []).value tokens ctx.transport = tokens[n]?) ∧
    (∀ first last a b, SpellsIndex first a → SpellsIndex last b →
      (Placeholder.arg first true last).value tokens ctx.transport = wordRange tokens a b) ∧
    (∀ first a, SpellsIndex first a →
      (Placeholder.arg first true []).value tokens ctx.transport =
        wordRange tokens a (tokens.length - 1)) ∧
    (∀ last b, SpellsIndex last b →
      (Placeholder.arg [] true last).value tokens ctx.transport = wordRange tokens 1 b) ∧
    (∀ first ranged last, (Placeholder.arg first ranged last).WellFormed →
      (first = [] ∧ last = [] ∨ first ≠ [] ∧ (∀ n, ¬ SpellsIndex first n) ∨
        last ≠ [] ∧ (∀ n, ¬ SpellsIndex last n)) →
      (Placeholder.arg first ranged last).value tokens ctx.transport = none) ∧
    (∀ first ranged last, (Placeholder.arg first ranged last).WellFormed →
      (∃ c ∈ first ++ last, c.isDigit = false) →
      (Placeholder.arg first ranged last).replacement tokens ctx.transport safe =
        (Placeholder.arg first ranged last).spelling) ∧
    Placeholder.args.value tokens ctx.transport = some (" ".intercalate (tokens.drop 1)) ∧
    (tokens.length ≤ 1 → Placeholder.args.value tokens ctx.transport = some "") ∧
    Placeholder.command.value tokens ctx.transport = some (" ".intercalate tokens) ∧
    Placeholder.author.value tokens ctx.transport = some ctx.transport.author ∧
    Placeholder.authorId.value tokens ctx.transport = some ctx.transport.authorId ∧
    Placeholder.channel.value tokens ctx.transport = some ctx.transport.channel ∧
    Placeholder.channelId.value tokens ctx.transport = some ctx.transport.channelId ∧
    Placeholder.server.value tokens ctx.transport =
      if ctx.transport.platform.hasServers then ctx.transport.server else none := by
  have hexpand : ∀ template : String, ∀ out,
      Expands tokens ctx.transport safe template.toList out ↔
        out = (expand template tokens ctx safe).toList := fun template out => by
    rw [expand_eq_expandChars, String.toList_ofList]
    exact expands_iff _ _
  refine ⟨fun template => ⟨expand_eq_expandChars template tokens ctx safe, hexpand template⟩,
    fun _ _ h => value_arg_single tokens _ h,
    fun _ _ _ _ ha hb => value_arg_ranged tokens _ (.inl ha.1) (.inr ha) (.inr hb),
    fun _ _ ha => value_arg_ranged tokens _ (.inl ha.1) (.inr ha) (.inl ⟨rfl, rfl⟩),
    fun _ _ hb => value_arg_ranged tokens _ (.inr hb.1) (.inl ⟨rfl, rfl⟩) (.inr hb),
    fun _ _ _ hp h => value_arg_eq_none tokens _ hp h,
    fun _ _ _ hp h => replacement_of_foreign_digit tokens _ safe hp h,
    rfl, fun hshort => ?_, rfl, rfl, rfl, rfl, rfl, rfl⟩
  simp [Placeholder.value, joinWords, List.drop_eq_nil_of_le hshort]

end Chatbot.Template
