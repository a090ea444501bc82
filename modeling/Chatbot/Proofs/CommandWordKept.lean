import Chatbot.Proofs.BuiltinsKept
import Chatbot.Proofs.SafeExpansion

/-!
# The command's name reaches it unchanged

A command line is looked up by its first word. Unless the command postpones expansion, its
line is then expanded, placeholders first and references second, and cut into words again
before the command runs. The first of these words is the name the line was looked up by,
whatever placeholders and references follow it, so the command never runs without words and a
built-in operation can always read its own name as word 0.

This holds because a name is valid: it holds no blank and none of `$ ( ) [ ] { }`, the backtick
and `@`. The line begins with blanks, the name and, unless the name ends the line, a blank; none
of these characters starts a placeholder or a reference or opens a group. Expanding placeholders
copies them. The reader of references copies them too, and every construct it opens later starts
after them, so the text it cuts back to an open construct, or replaces by a reference's value,
lies after them. The registry of every bot reachable from a new or bare one, through registry
operations and handled messages, is well formed, and a well-formed registry holds valid names
only.

## What is proved

* `Text.wordList_eq_cons`, `Text.wordList_word_blank`: the first word of a text, and the words
  of a text that begins with blanks, a word and a blank.
* `Template.expandChars_append_plain`, `Template.scanRefs_keeps_leading`: each reader keeps a
  prefix without delimiters.
* `Engine.expandText_keeps_leading`, `Engine.expandText_first_word`: so does expansion, and a
  first word that is a valid name stays first.
* `Bot.Reachable.wellFormed`: the registry of a reachable bot is well formed.
* `Engine.execute_dispatches_name`: the words a command is dispatched with begin with its name.
-/

namespace Chatbot

/-! ### Words -/

namespace Text

/-- Blanks in front of a text add no word. -/
theorem wordsFrom_blanks {bl : List Char} (hbl : ∀ c ∈ bl, isBlank c = true) (x : List Char) :
    wordsFrom [] (bl ++ x) = wordsFrom [] x := by
  induction bl with
  | nil => rfl
  | cons c bl ih =>
    rw [List.cons_append, wordsFrom, if_pos (hbl c List.mem_cons_self), List.isEmpty_nil,
      if_pos rfl]
    exact ih fun d hd => hbl d (List.mem_cons_of_mem _ hd)

/-- A run of non-blanks ended by a blank completes the word read so far. -/
theorem wordsFrom_run {b : Char} (hb : isBlank b = true) (y : List Char) :
    ∀ {t acc : List Char}, (∀ c ∈ t, isBlank c = false) → acc.reverse ++ t ≠ [] →
      wordsFrom acc (t ++ b :: y) = (acc.reverse ++ t) :: wordsFrom [] y
  | [], acc, _, hne => by
    have hacc : acc.isEmpty = false := by simpa using hne
    simp [wordsFrom, hb, hacc]
  | c :: t, acc, ht, _ => by
    rw [List.cons_append, wordsFrom, if_neg (by simp [ht c List.mem_cons_self]),
      wordsFrom_run hb y (fun d hd => ht d (List.mem_cons_of_mem _ hd)) (by simp)]
    simp

/-- **The words of a text** that begins with blanks, then a word, then a blank: that word, then
the words of the rest. -/
theorem wordList_word_blank {bl w : List Char} {b : Char} (hbl : ∀ c ∈ bl, isBlank c = true)
    (hw : w ≠ []) (hwb : ∀ c ∈ w, isBlank c = false) (hb : isBlank b = true) (y : List Char) :
    wordList (bl ++ w ++ b :: y) = w :: wordList y := by
  rw [wordList, List.append_assoc, wordsFrom_blanks hbl, wordsFrom_run hb y hwb (by simpa using hw)]
  rfl

/-- Reading a word whose first characters are `acc` (reversed): it ends at a blank or at the end
of the text. -/
theorem wordsFrom_eq_cons_of_ne_nil {w : List Char} {ws : List (List Char)} :
    ∀ {cs acc : List Char}, acc ≠ [] → wordsFrom acc cs = w :: ws →
      ∃ t u, cs = t ++ u ∧ w = acc.reverse ++ t ∧
        (u = [] ∨ ∃ b u', u = b :: u' ∧ isBlank b = true)
  | [], acc, hacc, h => by
    have : acc.isEmpty = false := by simpa using hacc
    simp only [wordsFrom, this, Bool.false_eq_true, if_false, List.cons.injEq] at h
    exact ⟨[], [], rfl, by simp [h.1], .inl rfl⟩
  | c :: cs, acc, hacc, h => by
    by_cases hc : isBlank c = true
    · have : acc.isEmpty = false := by simpa using hacc
      simp only [wordsFrom, hc, if_true, this, Bool.false_eq_true, if_false, List.cons.injEq] at h
      exact ⟨[], c :: cs, rfl, by simp [h.1], .inr ⟨c, cs, rfl, hc⟩⟩
    · rw [wordsFrom, if_neg hc] at h
      obtain ⟨t, u, rfl, hw, hu⟩ := wordsFrom_eq_cons_of_ne_nil (List.cons_ne_nil c acc) h
      exact ⟨c :: t, u, rfl, by simp [hw], hu⟩

/-- **The first word of a text** follows blanks, and is followed by a blank or the end. -/
theorem wordList_eq_cons {w : List Char} {ws : List (List Char)} :
    ∀ {cs : List Char}, wordList cs = w :: ws →
      ∃ bl u, cs = bl ++ w ++ u ∧ (∀ c ∈ bl, isBlank c = true) ∧
        (u = [] ∨ ∃ b u', u = b :: u' ∧ isBlank b = true)
  | [], h => by simp [wordList, wordsFrom] at h
  | c :: cs, h => by
    unfold wordList at h
    by_cases hc : isBlank c = true
    · rw [wordsFrom, if_pos hc, List.isEmpty_nil, if_pos rfl] at h
      obtain ⟨bl, u, rfl, hbl, hu⟩ := wordList_eq_cons h
      refine ⟨c :: bl, u, rfl, fun d hd => ?_, hu⟩
      rcases List.mem_cons.mp hd with rfl | hd
      · exact hc
      · exact hbl d hd
    · rw [wordsFrom, if_neg hc] at h
      obtain ⟨t, u, rfl, hw, hu⟩ := wordsFrom_eq_cons_of_ne_nil (List.cons_ne_nil c []) h
      exact ⟨[], u, by simp [hw], by simp, hu⟩

end Text

/-! ### Valid names -/

namespace Registry

open Chatbot.Text

/-- No blank is a delimiter. -/
theorem isDelimiter_of_isBlank {c : Char} (h : isBlank c = true) : isDelimiter c = false := by
  have hnot : ("$()[]{}`@".toList.all fun d => !isBlank d) = true := by decide
  unfold isDelimiter
  cases hd : "$()[]{}`@".toList.contains c
  · rfl
  · have hc := List.all_eq_true.mp hnot c (List.mem_of_elem_eq_true hd)
    rw [h] at hc
    cases hc

/-- A valid name is not empty, and holds neither a blank nor a delimiter. -/
theorem validName_chars {n : String} (h : validName n = true) :
    n.toList ≠ [] ∧ ∀ c ∈ n.toList, isBlank c = false ∧ isDelimiter c = false := by
  simp only [validName, Bool.and_eq_true, Bool.not_eq_true', String.isEmpty_eq_false_iff,
    List.any_eq_false, Bool.or_eq_true, not_or] at h
  exact ⟨by simpa using h.1, fun c hc => by simpa using h.2 c hc⟩

/-- A name that stands for a command in a well-formed registry is valid. -/
theorem WellFormed.validName_of_get? {r : Registry} (h : r.WellFormed) {n : String} {c : Command}
    (hc : r.get? n = some c) : validName n = true := by
  have htaken : r.taken n = true := by
    rw [← get?_isSome h, hc]
    rfl
  rcases (taken_iff).mp htaken with hn | hn
  · exact h.valid_names n hn
  · exact h.valid_aliases n hn

end Registry

/-! ### Expansion keeps a prefix without delimiters -/

namespace Template

open Chatbot.Text

/-- Expanding placeholders copies a prefix without `@`. -/
theorem expandChars_append_plain (tokens : List String) (t : Transport) (safe : Bool)
    {p : List Char} (hp : ∀ c ∈ p, c ≠ '@') (s : List Char) :
    expandChars tokens t safe (p ++ s) = p ++ expandChars tokens t safe s := by
  induction p with
  | nil => rfl
  | cons c p ih =>
    rw [List.cons_append, expand_plain tokens t safe (hp c List.mem_cons_self),
      ih fun d hd => hp d (List.mem_cons_of_mem _ hd), List.cons_append]

/-- Expanding the placeholders of a text keeps a prefix without `@`. -/
theorem expand_keeps_leading {p : List Char} (hp : ∀ c ∈ p, c ≠ '@') {text : String}
    (htext : p <+: text.toList) (tokens : List String) (ctx : Context) (safe : Bool) :
    p <+: (expand text tokens ctx safe).toList := by
  obtain ⟨s, hs⟩ := htext
  unfold expand
  split
  · rw [String.toList_ofList, ← hs, expandChars_append_plain tokens _ safe hp]
    exact List.prefix_append _ _
  · exact ⟨s, hs⟩

/-- A character that is no delimiter opens no group: every bracket that opens one is a delimiter. -/
theorem groupCloser?_of_not_delimiter {c : Char} (h : Registry.isDelimiter c = false) :
    groupCloser? c = none := by
  unfold groupCloser? closerOf?
  split
  · rfl
  · split <;> first | rfl | exact absurd h (by decide)

theorem popIf_eq_some {stack fs : List Frame} {c : Char} {f : Frame}
    (h : popIf stack c = some (f, fs)) : stack = f :: fs := by
  cases stack with
  | nil => cases h
  | cons g gs =>
    by_cases hc : g.close = c
    · simp only [popIf, hc, if_true, Option.some.injEq, Prod.mk.injEq] at h
      rw [h.1, h.2]
    · simp [popIf, hc] at h

variable {eval : String → Run String}

/-- The reader of references copies a prefix without delimiters when nothing is open. -/
theorem scanRefs_append_plain {p : List Char} (hp : ∀ c ∈ p, Registry.isDelimiter c = false)
    (out s : List Char) : scanRefs eval [] out (p ++ s) = scanRefs eval [] (out ++ p) s := by
  induction p generalizing out with
  | nil => simp
  | cons c p ih =>
    have hc := hp c List.mem_cons_self
    have hdollar : c ≠ '$' := by
      rintro rfl
      cases hc
    rw [List.cons_append, scanRefs_char eval (by simp) (refOpening?_of_ne hdollar _)
      (groupCloser?_of_not_delimiter hc), ih (fun d hd => hp d (List.mem_cons_of_mem _ hd))]
    simp

/-- **The reader of references keeps a prefix of its output** that every open construct starts
after: a construct opened later starts after it too, and closing one cuts the output back only
to where it started. -/
theorem scanRefs_keeps_leading (p : List Char) (stack : List Frame) (out cs : List Char) :
    p <+: out → (∀ f ∈ stack, p.length ≤ f.start) →
      (scanRefs eval stack out cs).Returns fun res => p <+: res := by
  fun_induction scanRefs eval stack out cs with
  | case1 out =>
    intro hp _
    exact Run.Returns.pure hp
  | case2 stack out c rest f fs hpop _ ih =>
    intro hp hstack
    rw [popIf_eq_some hpop] at hstack
    refine Run.Returns.bind_of fun v => ih v ?_ fun g hg => hstack g (List.mem_cons_of_mem _ hg)
    exact (List.prefix_take_iff.mpr ⟨hp, hstack f List.mem_cons_self⟩).trans
      (List.prefix_append _ _)
  | case3 stack out c rest f fs hpop _ ih =>
    intro hp hstack
    rw [popIf_eq_some hpop] at hstack
    exact ih (hp.trans (List.prefix_append _ _)) fun g hg => hstack g (List.mem_cons_of_mem _ hg)
  | case4 stack out c rest _ cl _ ih =>
    intro hp hstack
    refine ih (hp.trans (List.prefix_append _ _)) fun g hg => ?_
    rcases List.mem_cons.mp hg with rfl | hg
    · exact hp.length_le
    · exact hstack g hg
  | case5 stack out c rest _ _ ih =>
    intro hp hstack
    refine ih ?_ fun g hg => ?_
    · rw [pushPlain_snd]
      exact hp.trans (List.prefix_append _ _)
    · unfold pushPlain at hg
      split at hg
      · split at hg
        · exact hstack g hg
        · rcases List.mem_cons.mp hg with rfl | hg
          · exact hp.length_le
          · exact hstack g hg
      · exact hstack g hg

/-- Expanding the references of a text keeps a prefix without delimiters. -/
theorem expandRefs_keeps_leading {p : List Char} (hp : ∀ c ∈ p, Registry.isDelimiter c = false)
    {text : String} (htext : p <+: text.toList) :
    (expandRefs eval text).Returns fun res => p <+: res.toList := by
  obtain ⟨s, hs⟩ := htext
  unfold expandRefs
  split
  · rw [← hs, scanRefs_append_plain hp, List.nil_append]
    exact Run.Returns.map (scanRefs_keeps_leading p [] p s (List.prefix_refl p) (by simp))
      fun res hres => by rwa [String.toList_ofList]
  · exact Run.Returns.pure ⟨s, hs⟩

/-- A text without delimiters has no placeholder and no reference. -/
theorem expandRefs_of_plain {text : String}
    (ht : ∀ c ∈ text.toList, Registry.isDelimiter c = false) :
    expandRefs eval text = pure text := by
  have hdollar : '$' ∉ text.toList := fun h => absurd (ht '$' h) (by decide)
  simp [expandRefs, hdollar]

theorem expand_of_plain {text : String} (ht : ∀ c ∈ text.toList, Registry.isDelimiter c = false)
    (tokens : List String) (ctx : Context) (safe : Bool) : expand text tokens ctx safe = text := by
  have hat : '@' ∉ text.toList := fun h => absurd (ht '@' h) (by decide)
  simp [expand, hat]

end Template

/-! ### Expansion and dispatch -/

namespace Engine

open Chatbot.Text Chatbot.Template

/-- **Expansion keeps a prefix without delimiters**, placeholders and references alike. -/
theorem expandText_keeps_leading (nested : Nested) (deadline : Option Nat) (safe : Bool)
    (ctx : Context) (tokens : List String) {p : List Char}
    (hp : ∀ c ∈ p, Registry.isDelimiter c = false) {text : String} (htext : p <+: text.toList) :
    (expandText nested deadline safe ctx tokens text).Returns fun res => p <+: res.toList := by
  have hat : ∀ c ∈ p, c ≠ '@' := by
    intro c hc hat
    rw [hat] at hc
    exact absurd (hp '@' hc) (by decide)
  exact expandRefs_keeps_leading hp (expand_keeps_leading hat htext tokens ctx safe)

theorem expandText_of_plain (nested : Nested) (deadline : Option Nat) (safe : Bool)
    (ctx : Context) (tokens : List String) {text : String}
    (ht : ∀ c ∈ text.toList, Registry.isDelimiter c = false) :
    expandText nested deadline safe ctx tokens text = pure text := by
  rw [expandText, expand_of_plain ht, expandRefs_of_plain ht]

/-- A run lifted into an attempt and mapped. -/
theorem liftRun_map {α β : Type} (f : α → β) (x : Run α) :
    (monadLift (f <$> x) : Attempt β) = (do let a ← (monadLift x : Attempt α); pure (f a)) := by
  apply ExceptT.ext
  simp [monadLift, MonadLift.monadLift]
  rfl

/-- A line splits into blanks, its first word, and the rest, which is empty or begins with a
blank. -/
theorem words_eq_cons {line name : String} {more : List String}
    (hline : words line = name :: more) :
    ∃ bl u, line.toList = bl ++ name.toList ++ u ∧ (∀ c ∈ bl, isBlank c = true) ∧
      (u = [] ∨ ∃ b u', u = b :: u' ∧ isBlank b = true) := by
  simp only [words, List.map_eq_cons_iff] at hline
  obtain ⟨w, ws, hw, rfl, -⟩ := hline
  rw [String.toList_ofList]
  exact wordList_eq_cons hw

/-- **Expansion keeps the first word** of a line when it is a valid name, whatever follows it.
When the name ends the line nothing is expanded; otherwise the expansion keeps the blanks before
the name, the name and the blank after it. -/
theorem expandText_first_word (nested : Nested) (deadline : Option Nat) (safe : Bool)
    (ctx : Context) (tokens : List String) {line name : String} {more : List String}
    (hline : words line = name :: more) (hname : Registry.validName name = true) :
    (expandText nested deadline safe ctx tokens line).Returns fun res =>
      (words res).head? = some name := by
  obtain ⟨hne, hchars⟩ := Registry.validName_chars hname
  obtain ⟨bl, u, hsplit, hbl, hu⟩ := words_eq_cons hline
  rcases hu with rfl | ⟨b, u', rfl, hb⟩
  · have hplain : ∀ c ∈ line.toList, Registry.isDelimiter c = false := by
      intro c hc
      rw [hsplit, List.append_nil] at hc
      rcases List.mem_append.mp hc with hc | hc
      · exact Registry.isDelimiter_of_isBlank (hbl c hc)
      · exact (hchars c hc).2
    rw [expandText_of_plain nested deadline safe ctx _ hplain]
    exact Run.Returns.pure (by simp [hline])
  · have hp : ∀ c ∈ bl ++ name.toList ++ [b], Registry.isDelimiter c = false := by
      intro c hc
      simp only [List.mem_append, List.mem_singleton] at hc
      rcases hc with (hc | hc) | rfl
      · exact Registry.isDelimiter_of_isBlank (hbl c hc)
      · exact (hchars c hc).2
      · exact Registry.isDelimiter_of_isBlank hb
    have hpre : bl ++ name.toList ++ [b] <+: line.toList := ⟨u', by rw [hsplit]; simp⟩
    refine (expandText_keeps_leading nested deadline safe ctx _ hp hpre).imp ?_
    rintro res ⟨y, hy⟩
    rw [words, ← hy, List.append_assoc, List.singleton_append,
      wordList_word_blank hbl hne (fun c hc => (hchars c hc).1) hb]
    simp

/-- **The words a command runs with begin with the name it was found by.** A line whose first
word is a valid name is executed by computing the words, which may be cut short, and then
dispatching on them; whatever the state, every list of words computed begins with that name. A
postponed command runs with the line's own words, any other with the words of its expansion. -/
theorem execute_dispatches_name (nested : Nested) (deadline : Option Nat) (c : Command)
    (ctx : Context) {line name : String} {more : List String} (hline : words line = name :: more)
    (hname : Registry.validName name = true) :
    ∃ T : Run (List String), T.Returns (fun tokens => tokens.head? = some name) ∧
      execute nested deadline c line (words line) ctx =
        (monadLift T : Attempt (List String)) >>=
          fun tokens => dispatch nested deadline c tokens ctx := by
  refine ⟨if c.postponed then pure (words line)
    else words <$> expandText nested deadline false ctx (words line) line, ?_, ?_⟩
  · split
    · exact Run.Returns.pure (by simp [hline])
    · exact Run.Returns.map (expandText_first_word nested deadline false ctx _ hline hname)
        fun _ h => h
  · unfold execute
    cases c.postponed
    · simp only [Bool.false_eq_true, if_false]
      rw [liftRun_map]
      simp only [bind_assoc, pure_bind]
    · simp only [if_true]
      rfl

end Engine

/-! ### Reachable bots -/

namespace Registry

/-- Setting a field of a command other than its name keeps the registry well formed. -/
theorem WellFormed.modify_field {r r' : Registry} (h : r.WellFormed) {n : String}
    {f : Command → Command} (hm : r.modify n (fun c => .ok (f c)) = .ok r')
    (hf : ∀ c : Command, (f c).name = c.name) : r'.WellFormed :=
  h.modify (fun c c' hc => by cases hc; exact hf c) hm

/-- Replacing a command's text keeps the registry well formed. -/
theorem WellFormed.updateBody {r r' : Registry} (h : r.WellFormed) {n body : String}
    (hm : r.updateBody n body = .ok r') : r'.WellFormed := by
  refine h.modify (fun c c' hc => ?_) hm
  split at hc
  · cases hc
    rfl
  · cases hc

/-- Every change a run makes to the registry keeps it well formed. -/
theorem WellFormed.engineEdit {r r' : Registry} (h : r.WellFormed) (he : r.EngineEdit r') :
    r'.WellFormed := by
  cases he with
  | register c hr => exact h.register hr
  | updateBody name body hm => exact h.updateBody hm
  | addAlias name target ha => exact h.addAlias ha
  | setLevel name l hm => exact h.modify_field hm fun _ => rfl
  | setTimeLimit name limit hm => exact h.modify_field hm fun _ => rfl
  | enablePlatform name p hm => exact h.modify_field hm fun _ => rfl
  | disablePlatform name p hm => exact h.modify_field hm fun _ => rfl
  | setSubcommand name b hm => exact h.modify_field hm fun _ => rfl
  | remove _ _ hr => exact h.remove hr
  | recordInvocation name => exact h.recordInvocation name

end Registry

/-- The bots reachable from a new or a bare one through registry operations and handled
messages. -/
inductive Bot.Reachable : Bot → Prop
  /-- A bot without commands. -/
  | bare (s : Settings) (runner : Runner) : Bot.Reachable (Bot.bare s runner)
  /-- A bot with the built-in commands. -/
  | withBuiltins (s : Settings) (runner : Runner) : Bot.Reachable (Bot.withBuiltins s runner)
  /-- An operation on the registry. -/
  | operate {b : Bot} (op : Registry.Op) :
      Bot.Reachable b → Bot.Reachable { b with registry := (b.registry.perform op).registry }
  /-- A handled message. -/
  | handle {b : Bot} (ctx : Context) (text : String) :
      Bot.Reachable b → Bot.Reachable ((Engine.handleMessage ctx text).run.run b).2

/-- The registry of a reachable bot is well formed. -/
theorem Bot.Reachable.wellFormed {b : Bot} (hb : b.Reachable) : b.registry.WellFormed := by
  induction hb with
  | bare s runner => exact Registry.wellFormed_empty
  | withBuiltins s runner =>
    dsimp only [Bot.withBuiltins, Bot.bare]
    exact Registry.keepsBuiltins_install.wellFormed
  | operate op _ ih => exact ih.perform op
  | handle ctx text _ ih =>
    exact handleMessage_keeps_registry (J := Registry.WellFormed)
      (fun h he => h.engineEdit he) ctx text ih

/-- **The command's name reaches it.** In every bot reachable from a new or bare one through
registry operations and handled messages, a line whose first word stands for a command is
executed by computing its words, which may be cut short, and dispatching the command on them;
every list of words computed, from whatever state, begins with that first word, expanded or not,
whatever placeholders and references follow it. -/
theorem Engine.dispatch_receives_command_word {b : Bot} (hb : b.Reachable) {line name : String}
    {more : List String} (hline : Text.words line = name :: more) {c : Command}
    (hc : b.registry.get? name = some c) (nested : Engine.Nested) (deadline : Option Nat)
    (ctx : Context) :
    ∃ T : Run (List String), T.Returns (fun tokens => tokens.head? = some name) ∧
      Engine.execute nested deadline c line (Text.words line) ctx =
        (monadLift T : Attempt (List String)) >>=
          fun tokens => Engine.dispatch nested deadline c tokens ctx :=
  Engine.execute_dispatches_name nested deadline c ctx hline
    (hb.wellFormed.validName_of_get? hc)

/-- A line for `echo` with a placeholder and a reference after the name. -/
theorem echo_line_dispatched_with_name :
    Bot.Reachable (Bot.withBuiltins {} .recorder) ∧
      Text.words "echo @author@ $(echo hi)" = ["echo", "@author@", "$(echo", "hi)"] ∧
      (Bot.withBuiltins {} .recorder).registry.get? "echo" =
        some { module := some "info", name := "echo", body := .template "@args@",
               subcommand := true, description := "Repeat the arguments" } ∧
      ∃ T : Run (List String), T.Returns (fun tokens => tokens.head? = some "echo") ∧
        Engine.execute Engine.idle none
            { module := some "info", name := "echo", body := .template "@args@",
              subcommand := true, description := "Repeat the arguments" }
            "echo @author@ $(echo hi)" (Text.words "echo @author@ $(echo hi)")
            { transport := { platform := .console, author := "tester", authorId := "tester#id",
                             channel := "general", channelId := "general#id" },
              level := .user } =
          (monadLift T : Attempt (List String)) >>= fun tokens =>
            Engine.dispatch Engine.idle none
              { module := some "info", name := "echo", body := .template "@args@",
                subcommand := true, description := "Repeat the arguments" } tokens
              { transport := { platform := .console, author := "tester", authorId := "tester#id",
                               channel := "general", channelId := "general#id" },
                level := .user } :=
  have hline : Text.words "echo @author@ $(echo hi)" = ["echo", "@author@", "$(echo", "hi)"] := by
    decide
  have hc : (Bot.withBuiltins {} .recorder).registry.get? "echo" =
      some { module := some "info", name := "echo", body := .template "@args@",
             subcommand := true, description := "Repeat the arguments" } := by
    decide
  ⟨.withBuiltins {} .recorder, hline, hc,
    Engine.dispatch_receives_command_word (.withBuiltins {} .recorder) hline hc Engine.idle none _⟩

end Chatbot
