/-!
# Blank characters and words

A character is *blank* when it has the Unicode `White_Space` property: the ASCII controls
tab to carriage return, the space, next line, the no-break space, the Ogham space mark, the
en quad to the hair space, the line and paragraph separators, the narrow no-break space, the
medium mathematical space and the ideographic space. Zero-width characters such as U+200B and
U+180E are not blank.

A command line is read as its *words*: the maximal runs of non-blank characters, in order.
Trimming removes blank characters from one or both ends.

`stripStart? p cs` is what follows `p` in `cs` when `cs` starts with `p`. Readers that take a
known word off the front of their input use it, and its one law, `eq_append_of_stripStart?`,
tells them that what is left is a suffix of what they had.

## What is proved

* `words_ne_nil`, `not_isBlank_of_mem_words`: every word is non-empty and holds no blank.
* `words_nil_iff`: a text has no words exactly when every character is blank.
-/

namespace Chatbot.Text

/-- The Unicode `White_Space` property, as a table of its 25 code points. -/
def isBlank (c : Char) : Bool :=
  let n := c.toNat
  (0x09 ≤ n && n ≤ 0x0D) || n == 0x20 || n == 0x85 || n == 0xA0 || n == 0x1680 ||
  (0x2000 ≤ n && n ≤ 0x200A) || n == 0x2028 || n == 0x2029 || n == 0x202F ||
  n == 0x205F || n == 0x3000

/-- Cut `cs` at blanks, `acc` holding the reversed word read so far. -/
def wordsFrom (acc : List Char) : List Char → List (List Char)
  | [] => if acc.isEmpty then [] else [acc.reverse]
  | c :: cs =>
    if isBlank c then
      if acc.isEmpty then wordsFrom [] cs else acc.reverse :: wordsFrom [] cs
    else wordsFrom (c :: acc) cs

/-- The maximal runs of non-blank characters of `cs`, in order. -/
def wordList (cs : List Char) : List (List Char) := wordsFrom [] cs

/-- The words of a text: its maximal runs of non-blank characters, in order. -/
def words (s : String) : List String := (wordList s.toList).map String.ofList

/-- Drop blank characters from the front. -/
def dropBlank (cs : List Char) : List Char := cs.dropWhile isBlank

/-- A text without its leading and trailing blanks. -/
def trimBlank (s : String) : String :=
  String.ofList (dropBlank (dropBlank s.toList).reverse).reverse

/-- A text without its trailing blanks. -/
def trimBlankEnd (s : String) : String :=
  String.ofList (dropBlank s.toList.reverse).reverse

/-- A text without its leading blanks. -/
def trimBlankStart (s : String) : String :=
  String.ofList (dropBlank s.toList)

/-- Whether a text holds a blank character. -/
def hasBlank (s : String) : Bool := s.toList.any isBlank

private theorem wordsFrom_ne_nil :
    ∀ (acc cs : List Char) (w : List Char), w ∈ wordsFrom acc cs → w ≠ []
  | acc, [], w, h => by
    by_cases ha : acc.isEmpty <;> simp_all [wordsFrom]
  | acc, c :: cs, w, h => by
    unfold wordsFrom at h
    split at h
    · split at h
      · exact wordsFrom_ne_nil [] cs w h
      · rcases List.mem_cons.1 h with h | h
        · subst h; simp_all
        · exact wordsFrom_ne_nil [] cs w h
    · exact wordsFrom_ne_nil (c :: acc) cs w h

private theorem wordsFrom_no_blank :
    ∀ (acc cs : List Char), (∀ c ∈ acc, isBlank c = false) →
      ∀ w ∈ wordsFrom acc cs, ∀ c ∈ w, isBlank c = false
  | acc, [], hacc, w, h, c, hc => by
    by_cases ha : acc.isEmpty <;> simp_all [wordsFrom]
  | acc, d :: cs, hacc, w, h, c, hc => by
    unfold wordsFrom at h
    split at h
    · split at h
      · exact wordsFrom_no_blank [] cs (by simp) w h c hc
      · rcases List.mem_cons.1 h with h | h
        · subst h; exact hacc c (List.mem_reverse.1 hc)
        · exact wordsFrom_no_blank [] cs (by simp) w h c hc
    · refine wordsFrom_no_blank (d :: acc) cs ?_ w h c hc
      intro x hx
      rcases List.mem_cons.1 hx with hx | hx
      · subst hx; simp_all
      · exact hacc x hx

/-- Every word is non-empty. -/
theorem words_ne_nil {cs w : List Char} (h : w ∈ wordList cs) : w ≠ [] :=
  wordsFrom_ne_nil [] cs w h

/-- No word holds a blank. -/
theorem not_isBlank_of_mem_words {cs w : List Char} (h : w ∈ wordList cs) {c : Char}
    (hc : c ∈ w) : isBlank c = false :=
  wordsFrom_no_blank [] cs (by simp) w h c hc

private theorem wordsFrom_nil_iff :
    ∀ (acc cs : List Char), wordsFrom acc cs = [] ↔ acc = [] ∧ ∀ c ∈ cs, isBlank c = true
  | acc, [] => by
    by_cases ha : acc.isEmpty <;> simp_all [wordsFrom]
  | acc, c :: cs => by
    unfold wordsFrom
    split
    · split
      · rw [wordsFrom_nil_iff [] cs]; simp_all
      · simp_all
    · rw [wordsFrom_nil_iff]; simp_all

/-- A text has no words exactly when all its characters are blank. -/
theorem words_nil_iff {cs : List Char} : wordList cs = [] ↔ ∀ c ∈ cs, isBlank c = true := by
  rw [wordList, wordsFrom_nil_iff]; simp

/-! ### Leading parts -/

/-- The rest of `cs` after `p`, if `cs` starts with `p`. -/
def stripStart? : List Char → List Char → Option (List Char)
  | [], cs => some cs
  | _ :: _, [] => none
  | p :: ps, c :: cs => if p = c then stripStart? ps cs else none

/-- A text that starts with `p` is `p` followed by the rest. -/
theorem eq_append_of_stripStart? :
    ∀ {p cs r : List Char}, stripStart? p cs = some r → cs = p ++ r
  | [], cs, r, h => by simp [stripStart?] at h; simp [h]
  | _ :: _, [], r, h => by simp [stripStart?] at h
  | p :: ps, c :: cs, r, h => by
    simp only [stripStart?] at h
    split at h
    · rename_i hp; subst hp; rw [eq_append_of_stripStart? h]; rfl
    · cases h

/-- Every text starts with itself. -/
@[simp] theorem stripStart?_append : ∀ (p r : List Char), stripStart? p (p ++ r) = some r
  | [], r => rfl
  | c :: ps, r => by simp [stripStart?, stripStart?_append ps r]

/-- What follows a leading part is a suffix. -/
theorem suffix_of_stripStart? {p cs r : List Char} (h : stripStart? p cs = some r) :
    r <:+ cs := by
  rw [eq_append_of_stripStart? h]; exact List.suffix_append p r

end Chatbot.Text
