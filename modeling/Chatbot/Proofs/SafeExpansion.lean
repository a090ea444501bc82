import Chatbot.Engine.Run
import Chatbot.Proofs.RunLogic

/-!
# Safe expansion of external command lines

An external command's stored line is expanded in *safe* mode before it is handed to the process
runner: a placeholder is replaced only by a safe value (one or more words of ASCII letters and
digits, with blanks between them), and a reference's value is dropped unless it is empty or
safe. So whatever the caller supplies, through the words of the command line, the transport's
names or the output of nested commands, adds nothing to the line but ASCII letters, ASCII
digits and blanks: every other character of the line handed to the runner was written in the
stored line, in the same order.

Blanks are every `White_Space` character, the line feed among them. A safe value may therefore
hold a line feed between two words, and a line feed supplied by the caller reaches the runner:
`line_feed_reaches_runner` shows one coming from the author's name.

## What is proved

* `unsafeChars_expandChars_safe`: safe placeholder expansion adds no character other than ASCII
  letters, digits and blanks.
* `scanRefs_unsafeChars`: neither does the scan of references, when every value it splices in
  is made of such characters.
* `evaluate_safe_returns`: in safe mode a reference's value is empty or safe, whatever runs it.
* `expandText_safe_unsafeChars`: the line expanded in safe mode, for every nesting and every
  state, keeps of its characters other than ASCII letters, digits and blanks only those of the
  stored line, in order.
* `line_feed_reaches_runner`: the same fails once the line feed is not counted as a blank.
-/

namespace Chatbot.Template

open Chatbot.Text
open scoped List

/-- The characters of a text other than ASCII letters, ASCII digits and blanks: those that no
safe value supplies. -/
def unsafeChars (cs : List Char) : List Char := cs.filter fun c => !(c.isAlphanum || isBlank c)

@[simp] theorem unsafeChars_nil : unsafeChars [] = [] := rfl

@[simp] theorem unsafeChars_append (cs ds : List Char) :
    unsafeChars (cs ++ ds) = unsafeChars cs ++ unsafeChars ds :=
  List.filter_append _ _

theorem unsafeChars_cons (c : Char) (cs : List Char) :
    unsafeChars (c :: cs) = unsafeChars [c] ++ unsafeChars cs := by
  rw [← unsafeChars_append]
  rfl

theorem unsafeChars_sublist (cs : List Char) : unsafeChars cs <+ cs := List.filter_sublist

/-- A character that is not blank, already in the word being read or still to read, lies in one
of the words. -/
private theorem mem_wordsFrom :
    ∀ (acc cs : List Char) {c : Char}, c ∈ acc ∨ c ∈ cs → isBlank c = false →
      ∃ w ∈ wordsFrom acc cs, c ∈ w
  | acc, [], c, h, _ => by
    have hc : c ∈ acc := by simpa using h
    have hne : acc.isEmpty = false := by
      cases acc with
      | nil => simp at hc
      | cons _ _ => rfl
    exact ⟨acc.reverse, by simp [wordsFrom, hne], List.mem_reverse.mpr hc⟩
  | acc, d :: cs, c, h, hb => by
    unfold wordsFrom
    split
    · rename_i hd
      have hcd : c ≠ d := fun e => by rw [e, hd] at hb; cases hb
      split
      · rename_i hacc
        have hc : c ∈ cs := by
          rcases h with h | h
          · simp [List.isEmpty_iff.mp hacc] at h
          · exact (List.mem_cons.mp h).resolve_left hcd
        exact mem_wordsFrom [] cs (.inr hc) hb
      · rcases h with h | h
        · exact ⟨acc.reverse, List.mem_cons_self, List.mem_reverse.mpr h⟩
        · obtain ⟨w, hw, hcw⟩ :=
            mem_wordsFrom [] cs (.inr ((List.mem_cons.mp h).resolve_left hcd)) hb
          exact ⟨w, List.mem_cons_of_mem _ hw, hcw⟩
    · refine mem_wordsFrom (d :: acc) cs ?_ hb
      rcases h with h | h
      · exact .inl (List.mem_cons_of_mem d h)
      · rcases List.mem_cons.mp h with h | h
        · exact .inl (h ▸ List.mem_cons_self)
        · exact .inr h

/-- A character that is not blank lies in a word. -/
theorem mem_wordList_of_not_blank {cs : List Char} {c : Char} (h : c ∈ cs)
    (hb : isBlank c = false) : ∃ w ∈ wordList cs, c ∈ w :=
  mem_wordsFrom [] cs (.inr h) hb

/-- A safe value is made of ASCII letters, ASCII digits and blanks. -/
theorem unsafeChars_of_isSafe {v : String} (h : isSafe v = true) : unsafeChars v.toList = [] := by
  obtain ⟨-, hwords⟩ := (isSafe_iff v).mp h
  rw [unsafeChars, List.filter_eq_nil_iff]
  intro c hc
  cases hb : isBlank c with
  | true => simp
  | false =>
    obtain ⟨w, hw, hcw⟩ := mem_wordList_of_not_blank hc hb
    simp [hwords w hw c hcw]

/-! ### Placeholders -/

/-- Every named placeholder is spelled as its name between two `@`. -/
theorem named_spelling :
    ∀ e ∈ Placeholder.named, e.2.spelling = '@' :: e.1 ++ ['@'] := by
  decide +kernel

theorem spelling_arg (first : List Char) (ranged : Bool) (last : List Char) :
    (Placeholder.arg first ranged last).spelling =
      "@arg".toList ++ first ++ (if ranged then ['-'] else []) ++ last ++ ['@'] := rfl

theorem dropDash_eq (cs : List Char) :
    (if (dropDash cs).1 then ['-'] else []) ++ (dropDash cs).2 = cs := by
  unfold dropDash
  split <;> simp

theorem readNamed_spelling :
    ∀ (names : List (List Char × Placeholder)), (∀ e ∈ names, e.2.spelling = '@' :: e.1 ++ ['@']) →
      ∀ {cs r : List Char} {p : Placeholder}, readNamed names cs = some (p, r) →
        p.spelling ++ r = '@' :: cs
  | [], _, _, _, _, h => by simp [readNamed] at h
  | (name, q) :: more, hnames, cs, r, p, h => by
    simp only [readNamed] at h
    split at h
    · rename_i r0 hstrip
      cases h
      rw [hnames (name, q) List.mem_cons_self, eq_append_of_stripStart? hstrip]
      simp
    · exact readNamed_spelling more (fun e he => hnames e (List.mem_cons_of_mem _ he)) h

/-- Reading the indexes consumes their spelling: the digits, the dash and the digits again make
up the text before the closing `@`. -/
theorem readArg_spelling {cs r : List Char} {p : Placeholder} (h : readArg cs = some (p, r)) :
    p.spelling ++ r = "@arg".toList ++ cs := by
  unfold readArg at h
  generalize hd : (dropDash (cs.dropWhile isDigit)).2.dropWhile isDigit = d at h
  rcases d with _ | ⟨c, r0⟩
  · cases h
  · by_cases hc : c = '@'
    · rw [hc] at h hd
      simp only [Option.some.injEq, Prod.mk.injEq] at h
      obtain ⟨rfl, rfl⟩ := h
      have hlast := List.takeWhile_append_dropWhile (p := isDigit)
        (l := (dropDash (cs.dropWhile isDigit)).2)
      have hdash := dropDash_eq (cs.dropWhile isDigit)
      have hfirst := List.takeWhile_append_dropWhile (p := isDigit) (l := cs)
      rw [hd] at hlast
      conv => rhs; rw [← hfirst, ← hdash, ← hlast]
      simp only [spelling_arg, List.append_assoc, List.cons_append, List.nil_append]
    · simp [hc] at h

/-- A placeholder that was read is spelled as the text it was read from. -/
theorem read?_spelling {rest r : List Char} {p : Placeholder} (h : read? rest = some (p, r)) :
    p.spelling ++ r = '@' :: rest := by
  unfold read? at h
  split at h
  · cases h
    exact readNamed_spelling _ named_spelling (by assumption)
  · split at h
    · rename_i r0 hstrip
      rw [readArg_spelling h, eq_append_of_stripStart? hstrip]
      simp
    · cases h

/-- A replacement in safe mode is a safe value or the placeholder as it was written. -/
theorem unsafeChars_replacement (tokens : List String) (t : Transport) (p : Placeholder) :
    unsafeChars (p.replacement tokens t true) <+ unsafeChars p.spelling := by
  unfold Placeholder.replacement
  split
  · rename_i v _
    split
    · rename_i hv
      rw [unsafeChars_of_isSafe (by simpa using hv)]
      exact List.nil_sublist _
    · exact List.Sublist.refl _
  · exact List.Sublist.refl _

/-- **Safe placeholder expansion** adds no character other than ASCII letters, ASCII digits and
blanks: the others are those of the template, in order. A placeholder's text is its spelling,
which its replacement does not extend. -/
theorem unsafeChars_expandChars_safe (tokens : List String) (t : Transport) (cs : List Char) :
    unsafeChars (expandChars tokens t true cs) <+ unsafeChars cs := by
  fun_induction expandChars tokens t true cs with
  | case1 => simp
  | case2 rest p r hread _ ih =>
    rw [unsafeChars_append, ← read?_spelling hread, unsafeChars_append]
    exact (unsafeChars_replacement tokens t p).append ih
  | case3 rest _ ih =>
    rw [unsafeChars_cons, unsafeChars_cons '@' rest]
    exact (List.Sublist.refl _).append ih
  | case4 c rest _ ih =>
    rw [unsafeChars_cons, unsafeChars_cons c rest]
    exact (List.Sublist.refl _).append ih

theorem unsafeChars_expand_safe (template : String) (tokens : List String) (ctx : Context) :
    unsafeChars (expand template tokens ctx true).toList <+ unsafeChars template.toList := by
  unfold expand
  split
  · simpa using unsafeChars_expandChars_safe tokens ctx.transport template.toList
  · exact List.Sublist.refl _

/-! ### References -/

theorem unsafeChars_append_sublist {out pre : List Char} (h : unsafeChars out <+ unsafeChars pre)
    (ds : List Char) : unsafeChars (out ++ ds) <+ unsafeChars (pre ++ ds) := by
  rw [unsafeChars_append, unsafeChars_append]
  exact h.append (List.Sublist.refl _)

/-- Copying a character adds it to the output. -/
theorem pushPlain_snd (stack : List Frame) (out : List Char) (c : Char) :
    (pushPlain stack out c).2 = out ++ [c] := by
  unfold pushPlain
  split
  · split <;> rfl
  · rfl

/-- **The scan of references** adds no character other than ASCII letters, ASCII digits and
blanks when no value it splices in holds one: the output keeps, of the others, only those of
the text read, in order. Cutting a reference's line off the output only removes characters. -/
theorem scanRefs_unsafeChars {eval : String → Run String}
    (heval : ∀ line, (eval line).Returns fun v => unsafeChars v.toList = [])
    (stack : List Frame) (out cs : List Char) :
    ∀ pre, unsafeChars out <+ unsafeChars pre →
      (scanRefs eval stack out cs).Returns fun res => unsafeChars res <+ unsafeChars (pre ++ cs) := by
  fun_induction scanRefs eval stack out cs with
  | case1 out =>
    intro pre h
    exact Run.Returns.pure (by simpa using h)
  | case2 stack out c rest f fs _ _ ih =>
    intro pre h
    refine Run.Returns.bind (heval _) fun v hv => ?_
    refine (ih v (pre ++ [c]) ?_).imp fun res hres => by simpa using hres
    rw [unsafeChars_append, hv, List.append_nil]
    refine ((List.take_sublist _ _).filter _).trans (h.trans ?_)
    rw [unsafeChars_append]
    exact List.sublist_append_left _ _
  | case3 stack out c rest f fs _ _ ih =>
    intro pre h
    refine (ih (pre ++ [c]) ?_).imp fun res hres => by simpa using hres
    exact unsafeChars_append_sublist h [c]
  | case4 stack out c rest _ cl _ ih =>
    intro pre h
    refine (ih (pre ++ c :: rest.take 1) (unsafeChars_append_sublist h _)).imp fun res hres => ?_
    rwa [List.append_assoc, List.cons_append, List.take_append_drop] at hres
  | case5 stack out c rest _ _ ih =>
    intro pre h
    refine (ih (pre ++ [c]) ?_).imp fun res hres => by simpa using hres
    rw [pushPlain_snd]
    exact unsafeChars_append_sublist h [c]

/-- Expanding references adds no character other than ASCII letters, ASCII digits and blanks
when no value it splices in holds one. -/
theorem expandRefs_unsafeChars {eval : String → Run String}
    (heval : ∀ line, (eval line).Returns fun v => unsafeChars v.toList = []) (text : String) :
    (expandRefs eval text).Returns fun res => unsafeChars res.toList <+ unsafeChars text.toList := by
  unfold expandRefs
  split
  · refine Run.Returns.map (scanRefs_unsafeChars heval [] [] text.toList [] (by simp)) ?_
    intro res hres
    simpa using hres
  · exact Run.Returns.pure (List.Sublist.refl _)

end Chatbot.Template

namespace Chatbot.Engine

open Chatbot.Template
open scoped List

/-- A value the safe check lets through is empty or safe. -/
theorem unsafeChars_of_passed {v : String} (hv : v ≠ "" → isSafe v = true) :
    unsafeChars v.toList = [] := by
  by_cases hv0 : v = ""
  · simp [hv0]
  · exact unsafeChars_of_isSafe (hv hv0)

/-- In safe mode a reference's value, whatever runs it, is empty or safe. -/
theorem evaluate_safe_returns (nested : Nested) (deadline : Option Nat) (ctx : Context)
    (line : String) :
    (evaluate nested deadline true ctx line).Returns fun v => unsafeChars v.toList = [] := by
  have hempty : unsafeChars "".toList = [] := by simp
  unfold evaluate
  split
  · exact Run.Returns.pure hempty
  · refine Run.Returns.bind_of fun b => ?_
    split
    · exact Run.Returns.bind_of fun _ => Run.Returns.pure hempty
    · split
      · exact Run.Returns.bind_of fun _ => Run.Returns.pure hempty
      · split
        · exact Run.Returns.bind_of fun _ => Run.Returns.pure hempty
        · refine Run.Returns.bind_of fun o => ?_
          dsimp only
          split
          · exact Run.Returns.pure hempty
          · rename_i hv
            exact Run.Returns.pure (unsafeChars_of_passed (by simpa using hv))

/-- **Safe expansion** of an external command's line, for every way of running nested lines,
every deadline, context, command line and state: the characters of the expanded line other
than ASCII letters, ASCII digits and blanks are those of the stored line, in order. Nothing
the caller supplies adds any. -/
theorem expandText_safe_unsafeChars (nested : Nested) (deadline : Option Nat) (ctx : Context)
    (tokens : List String) (body : String) :
    (expandText nested deadline true ctx tokens body).Returns
      fun line => unsafeChars line.toList <+ unsafeChars body.toList := by
  unfold expandText
  refine (expandRefs_unsafeChars (evaluate_safe_returns nested deadline ctx) _).imp ?_
  intro line hline
  exact hline.trans (unsafeChars_expand_safe body tokens ctx)

/-- The characters kept when only the blanks other than the line feed are deleted with the
ASCII letters and digits. -/
def unsafeCharsKeepingLineFeed (cs : List Char) : List Char :=
  cs.filter fun c => !(c.isAlphanum || (Text.isBlank c && c != '\n'))

/-- An author's name with a line feed between two words is safe, so the line feed reaches the
line handed to the runner, although the stored line has none. -/
theorem line_feed_reaches_runner :
    (∀ b, (expandText idle none true
        { transport := { platform := .console, author := "a\nb", authorId := "a\nb#id",
                         channel := "general", channelId := "general#id" },
          level := .user } ["ext"] "echo @author@").run.run b = (.ok "echo a\nb", b)) ∧
      ¬ unsafeCharsKeepingLineFeed "echo a\nb".toList <+
        unsafeCharsKeepingLineFeed "echo @author@".toList := by
  refine ⟨fun b => ?_, by decide +kernel⟩
  have hexpand : expand "echo @author@" ["ext"]
      { transport := { platform := .console, author := "a\nb", authorId := "a\nb#id",
                       channel := "general", channelId := "general#id" },
        level := .user } true = "echo a\nb" := by decide +kernel
  unfold expandText expandRefs
  rw [hexpand, if_neg (by decide +kernel)]
  rfl

end Chatbot.Engine
