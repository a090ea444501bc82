import Chatbot.Context
import Chatbot.Text.Blank
import Chatbot.Text.Classes
import Chatbot.Text.Decimal

/-!
# Placeholders

A template may hold *placeholders*, names between two `@` signs, that stand for facts of the
message being handled:

* `@author@`, `@authorid@`, `@channel@`, `@channelid@`: the transport's names and ids;
* `@server@`: the server's name, on a platform with servers;
* `@command@`: all words of the command line, joined by single spaces;
* `@args@`: the words after the first;
* `@argN@`: word `N` (word 0 is the command's name);
* `@argN-M@`: words `N` to `M`, both included, with `1 ≤ N ≤ M ≤` the last index; a missing
  `N` means 1 and a missing `M` means the last index.

Digits of a placeholder are decimal digits of any script, but an index is read in ASCII
digits only: `@arg１@` is a placeholder whose index cannot be read.

The text is scanned from left to right. At each `@` the names are tried in the order above
(`authorid` before `author`, `args` before `arg`); a placeholder that has no value, or whose
value is refused in *safe* mode, is kept as it was written. Scanning resumes after the
placeholder, so a substituted value is never scanned again.

In safe mode a value is used only if it is *safe*: it has at least one word, and every word is
made of ASCII letters and digits.

## What is proved

* `expand_nil`, `expand_plain`, `expand_at`: the equations of the scan.
* `isSafe_iff`: what a safe value is, word by word.
-/

namespace Chatbot.Template

open Chatbot.Text

/-- A placeholder. -/
inductive Placeholder where
  /-- `@author@`. -/
  | author
  /-- `@authorid@`. -/
  | authorId
  /-- `@channel@`. -/
  | channel
  /-- `@channelid@`. -/
  | channelId
  /-- `@server@`. -/
  | server
  /-- `@command@`. -/
  | command
  /-- `@args@`. -/
  | args
  /-- `@arg` digits, optionally a dash and digits, `@`. -/
  | arg (first : List Char) (ranged : Bool) (last : List Char)
  deriving DecidableEq, Repr

namespace Placeholder

/-- The named placeholders with their names, in the order they are tried. -/
def named : List (List Char × Placeholder) :=
  [("authorid".toList, .authorId), ("author".toList, .author),
   ("channelid".toList, .channelId), ("channel".toList, .channel),
   ("server".toList, .server), ("command".toList, .command), ("args".toList, .args)]

/-- How a placeholder is written, `@` signs included. -/
def spelling : Placeholder → List Char
  | .author => "@author@".toList
  | .authorId => "@authorid@".toList
  | .channel => "@channel@".toList
  | .channelId => "@channelid@".toList
  | .server => "@server@".toList
  | .command => "@command@".toList
  | .args => "@args@".toList
  | .arg first ranged last =>
    "@arg".toList ++ first ++ (if ranged then ['-'] else []) ++ last ++ ['@']

end Placeholder

/-- Take off a leading dash, saying whether there was one. -/
def dropDash : List Char → Bool × List Char
  | '-' :: r => (true, r)
  | r => (false, r)

theorem dropDash_suffix (cs : List Char) : (dropDash cs).2 <:+ cs := by
  unfold dropDash
  split
  · exact List.suffix_cons _ _
  · exact List.suffix_refl _

/-- Read `@arg` digits, optional dash, digits and `@`, after the `arg`. -/
def readArg (cs : List Char) : Option (Placeholder × List Char) :=
  match (dropDash (cs.dropWhile isDigit)).2.dropWhile isDigit with
  | '@' :: r =>
    some (.arg (cs.takeWhile isDigit) (dropDash (cs.dropWhile isDigit)).1
      ((dropDash (cs.dropWhile isDigit)).2.takeWhile isDigit), r)
  | _ => none

/-- Read a named placeholder: its name and the closing `@`. -/
def readNamed : List (List Char × Placeholder) → List Char → Option (Placeholder × List Char)
  | [], _ => none
  | (name, p) :: more, cs =>
    match stripStart? name cs with
    | some ('@' :: r) => some (p, r)
    | _ => readNamed more cs

/-- Read a placeholder after its opening `@`; the rest after the closing `@` comes back. -/
def read? (cs : List Char) : Option (Placeholder × List Char) :=
  match readNamed Placeholder.named cs with
  | some r => some r
  | none =>
    match stripStart? "arg".toList cs with
    | some r => readArg r
    | none => none

/-- Whether a word is made of ASCII letters and digits only. -/
def isSafeWord (w : List Char) : Bool :=
  !w.isEmpty && w.all fun c => c.isAlphanum

/-- A value is safe when it has a word and all its words are ASCII letters and digits. -/
def isSafe (s : String) : Bool :=
  let ws := wordList s.toList
  !ws.isEmpty && ws.all isSafeWord

/-- The words of a command line joined by single spaces. -/
def joinWords (ws : List String) : String := " ".intercalate ws

/-- Read an index in ASCII digits. -/
def readIndex (ds : List Char) : Option Nat :=
  match readWord (String.ofList ds) with
  | .ok n => some n
  | .error _ => none

/-- The value of `@argN@`, `@argN-M@`, `@argN-@` or `@arg-M@`. -/
def argValue (tokens : List String) (first : List Char) (ranged : Bool) (last : List Char) :
    Option String :=
  if !ranged then
    (readIndex first).bind fun i => tokens[i]?
  else if tokens.isEmpty then none
  else
    let top := tokens.length - 1
    let bounds : Option (Nat × Nat) :=
      match first.isEmpty, last.isEmpty with
      | true, true => none
      | false, true => (readIndex first).map fun a => (a, top)
      | true, false => (readIndex last).map fun b => (1, b)
      | false, false => (readIndex first).bind fun a => (readIndex last).map fun b => (a, b)
    bounds.bind fun (a, b) =>
      if 1 ≤ a ∧ a ≤ b ∧ b ≤ top then some (joinWords ((tokens.drop a).take (b + 1 - a)))
      else none

/-- The value of a placeholder for a command line's words and a transport, if it has one. -/
def Placeholder.value (tokens : List String) (t : Transport) : Placeholder → Option String
  | .author => some t.author
  | .authorId => some t.authorId
  | .channel => some t.channel
  | .channelId => some t.channelId
  | .server => if t.platform.hasServers then t.server else none
  | .command => some (joinWords tokens)
  | .args => some (joinWords (tokens.drop 1))
  | .arg first ranged last => argValue tokens first ranged last

/-- What a placeholder is replaced by: its value if it has one and, in safe mode, it is safe;
otherwise its own spelling. -/
def Placeholder.replacement (tokens : List String) (t : Transport) (safe : Bool)
    (p : Placeholder) : List Char :=
  match p.value tokens t with
  | some v => if !safe || isSafe v then v.toList else p.spelling
  | none => p.spelling

theorem readNamed_suffix :
    ∀ (names : List (List Char × Placeholder)) (cs : List Char) (p : Placeholder)
      (r : List Char), readNamed names cs = some (p, r) → ('@' :: r) <:+ cs
  | [], _, _, _, h => by simp [readNamed] at h
  | (name, q) :: more, cs, p, r, h => by
    simp only [readNamed] at h
    split at h
    · rename_i r0 hd
      cases h
      exact suffix_of_stripStart? hd
    · exact readNamed_suffix more cs p r h

theorem readArg_suffix (cs : List Char) (p : Placeholder) (r : List Char)
    (h : readArg cs = some (p, r)) : ('@' :: r) <:+ cs := by
  unfold readArg at h
  split at h
  · rename_i r0 hr
    cases h
    rw [← hr]
    exact (List.dropWhile_suffix _).trans
      ((dropDash_suffix _).trans (List.dropWhile_suffix _))
  · cases h

/-- What follows a placeholder is shorter than what held it. -/
theorem read?_shorter {cs : List Char} {p : Placeholder} {r : List Char}
    (h : read? cs = some (p, r)) : r.length < cs.length := by
  have hs : ('@' :: r) <:+ cs := by
    unfold read? at h
    split at h
    · cases h; exact readNamed_suffix _ _ _ _ (by assumption)
    · split at h
      · rename_i r0 hd
        exact (readArg_suffix _ _ _ h).trans (suffix_of_stripStart? hd)
      · cases h
  have := hs.length_le
  simp at this
  omega

/-- Replace the placeholders of a text, scanning left to right. -/
def expandChars (tokens : List String) (t : Transport) (safe : Bool) :
    List Char → List Char
  | [] => []
  | '@' :: rest =>
    match h : read? rest with
    | some (p, r) =>
      have : r.length < rest.length + 1 := Nat.lt_succ_of_lt (read?_shorter h)
      p.replacement tokens t safe ++ expandChars tokens t safe r
    | none => '@' :: expandChars tokens t safe rest
  | c :: rest => c :: expandChars tokens t safe rest
termination_by cs => cs.length

/-- Replace the placeholders of a template for a command line's words and a context. -/
def expand (template : String) (tokens : List String) (ctx : Context) (safe : Bool) : String :=
  if template.toList.contains '@' then
    String.ofList (expandChars tokens ctx.transport safe template.toList)
  else template

/-- Nothing is left of nothing. -/
@[simp] theorem expand_nil (tokens : List String) (t : Transport) (safe : Bool) :
    expandChars tokens t safe [] = [] := by
  simp [expandChars]

/-- A character other than `@` is copied. -/
theorem expand_plain (tokens : List String) (t : Transport) (safe : Bool) {c : Char}
    (hc : c ≠ '@') (rest : List Char) :
    expandChars tokens t safe (c :: rest) = c :: expandChars tokens t safe rest := by
  rw [expandChars.eq_def]
  split
  · simp_all
  · simp_all
  · rename_i heq; cases heq; rfl

/-- At an `@`, a placeholder is replaced and scanning resumes after it; otherwise the `@` is
copied. -/
theorem expand_at (tokens : List String) (t : Transport) (safe : Bool) (rest : List Char) :
    expandChars tokens t safe ('@' :: rest) =
      match read? rest with
      | some (p, r) => p.replacement tokens t safe ++ expandChars tokens t safe r
      | none => '@' :: expandChars tokens t safe rest := by
  rw [expandChars.eq_def]
  split
  · rename_i heq; cases heq
  · rename_i heq; cases heq
    split <;> simp_all
  · rename_i hne heq; cases heq; exact absurd rfl hne

/-- A value is safe exactly when it has a word and every word is ASCII letters and digits. -/
theorem isSafe_iff (s : String) :
    isSafe s = true ↔ wordList s.toList ≠ [] ∧
      ∀ w ∈ wordList s.toList, ∀ c ∈ w, c.isAlphanum = true := by
  unfold isSafe isSafeWord
  simp only [Bool.and_eq_true, Bool.not_eq_true', List.isEmpty_eq_false_iff, List.all_eq_true]
  constructor
  · rintro ⟨hne, h⟩
    exact ⟨hne, fun w hw c hc => (h w hw).2 c hc⟩
  · rintro ⟨hne, hall⟩
    exact ⟨hne, fun w hw => ⟨words_ne_nil hw, hall w hw⟩⟩

end Chatbot.Template
