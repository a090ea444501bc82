import Chatbot.Settings
import Chatbot.Proofs.PlaceholderMatching

/-!
# Reading the settings from variables

Six settings are numbers read from variables: five unsigned 64-bit numbers (the nesting
depth, the process timeout and output cap, and the word model's seed attempts and sentence
length) and the default time limit, a signed 64-bit number of seconds that must be `-1`, for no
limit, or more. A set variable is trimmed of blanks and must then be the decimal spelling of a
number of its range: ASCII digits, at least one, after a plus sign (or for the time limit a
minus sign) or nothing. The variables are read in the order above with the time limit second,
and the first one that fails is the error: a value that is no number is reported with the
variable's name and the value as it was given, untrimmed; a time limit below `-1` is reported
with the number read.

When all are read, each setting is its variable's number, or its default when the variable is
unset. The prefix is the variable's value as it is, unless that is empty, and learning is on
unless the variable holds anything but `true` or `1`.

## What is proved

* `Settings.readWord_eq_ok_iff`, `Settings.readSignedWord_eq_ok_iff`: which texts the two
  number readings accept, and as what.
* `Settings.ofEnv_eq`: the settings read, or the first fault in reading order.
* `Settings.settings_read_in_order`: when reading succeeds, which error it gives, and what it
  gives on success.
* `Settings.time_limit_error_unquoted`: a time limit below `-1` is reported without the value
  as given.
-/

namespace Chatbot.Settings

open Chatbot.Text Chatbot.Template

/-! ### Decimal spellings -/

/-- `t` writes the 64-bit unsigned number `n`: ASCII digits, at least one, after a plus sign or
nothing. -/
def WritesWord (t : String) (n : Nat) : Prop :=
  ∃ ds, (t.toList = ds ∨ t.toList = '+' :: ds) ∧ SpellsIndex ds n

/-- `t` writes the 64-bit signed number `v`: ASCII digits, at least one, after a sign or
nothing. -/
def WritesSignedWord (t : String) (v : Int) : Prop :=
  (∃ ds n, (t.toList = ds ∨ t.toList = '+' :: ds) ∧ SpellsIndex ds n ∧ n < 2 ^ 63 ∧ v = n) ∨
    ∃ ds n, t.toList = '-' :: ds ∧ SpellsIndex ds n ∧ n ≤ 2 ^ 63 ∧ v = -n

/-- Digits read from nothing, below a 64-bit limit, are the spelling of their number. -/
theorem readDigits_zero_eq_ok_iff {limit : Nat} {excess : NumberError} {ds : List Char}
    (hds : ds ≠ []) (hlimit : limit < 2 ^ 64) (n : Nat) :
    readDigits limit excess 0 ds = .ok n ↔ SpellsIndex ds n ∧ n ≤ limit := by
  rw [readDigits_eq_ok_iff ds (Nat.zero_le limit)]
  simp only [SpellsIndex, Nat.zero_mul, Nat.zero_add]
  constructor
  · rintro ⟨hdig, hval, hle⟩
    exact ⟨⟨hds, hdig, hval, by omega⟩, hle⟩
  · rintro ⟨⟨-, hdig, hval, -⟩, hle⟩
    exact ⟨hdig, hval, hle⟩

@[simp] theorem not_spellsIndex_nil (n : Nat) : ¬ SpellsIndex [] n := fun h => h.1 rfl

/-- A sign is not a digit, so no spelling starts with one. -/
theorem not_spellsIndex_sign {c : Char} (hc : c.isDigit = false) (ds : List Char) (n : Nat) :
    ¬ SpellsIndex (c :: ds) n := fun h => by
  have := h.2.1 c List.mem_cons_self
  rw [hc] at this
  cases this

/-- **The unsigned reading** accepts exactly the spellings of 64-bit numbers. -/
theorem readWord_eq_ok_iff (t : String) (n : Nat) : readWord t = .ok n ↔ WritesWord t n := by
  have hmax : wordMax = 2 ^ 64 - 1 := rfl
  have hlt : wordMax < 2 ^ 64 := by omega
  unfold WritesWord
  rcases ht : t.toList with _ | ⟨c, cs⟩
  · have hread : readWord t = .error .empty := by unfold readWord readNat; rw [ht]
    simp [hread]
  · by_cases hc : c = '+'
    · subst hc
      cases cs with
      | nil =>
        have hread : readWord t = .error .invalidDigit := by
          unfold readWord readNat; rw [ht]; split <;> simp_all
        simp [hread, not_spellsIndex_sign (c := '+') rfl]
      | cons d ds =>
        have hread : readWord t = readDigits wordMax .tooLarge 0 (d :: ds) := by
          unfold readWord readNat; rw [ht]; split <;> simp_all
        rw [hread, readDigits_zero_eq_ok_iff (List.cons_ne_nil d ds) hlt]
        constructor
        · rintro ⟨hs, -⟩
          exact ⟨d :: ds, .inr rfl, hs⟩
        · rintro ⟨es, h | h, hs⟩
          · subst h
            exact absurd hs (not_spellsIndex_sign rfl _ _)
          · cases h
            exact ⟨hs, by have := hs.2.2.2; omega⟩
    · have hread : readWord t = readDigits wordMax .tooLarge 0 (c :: cs) := by
        unfold readWord readNat; rw [ht]; split <;> simp_all
      rw [hread, readDigits_zero_eq_ok_iff (List.cons_ne_nil c cs) hlt]
      constructor
      · rintro ⟨hs, -⟩
        exact ⟨c :: cs, .inl rfl, hs⟩
      · rintro ⟨es, h | h, hs⟩
        · subst h
          exact ⟨hs, by have := hs.2.2.2; omega⟩
        · exact absurd (List.cons.inj h).1 hc

theorem map_eq_ok_iff {ε α β : Type} {f : α → β} {x : Except ε α} {b : β} :
    x.map f = .ok b ↔ ∃ a, x = .ok a ∧ f a = b := by
  cases x <;> simp [Except.map]

/-- The signed reading maps a digit reading through the cast to `Int`. -/
theorem map_natCast {f : Int → Int} (x : Except NumberError Nat) :
    Except.map f (Nat.cast <$> x) = Except.map (fun n : Nat => f n) x := by
  cases x <;> rfl

/-- **The signed reading** accepts exactly the spellings of 64-bit signed numbers. After a minus
sign the digits may write a number up to `2 ^ 63`, one more than after a plus sign or none. -/
theorem readSignedWord_eq_ok_iff (t : String) (v : Int) :
    readSignedWord t = .ok v ↔ WritesSignedWord t v := by
  have hpow : Nat.pow 2 63 = 2 ^ 63 := rfl
  have hbelow : Nat.pow 2 63 < 2 ^ 64 := by omega
  have habove : Nat.pow 2 63 - 1 < 2 ^ 64 := by omega
  unfold WritesSignedWord
  rcases ht : t.toList with _ | ⟨c, cs⟩
  · have hread : readSignedWord t = .error .empty := by
      unfold readSignedWord readInt; rw [ht]
    simp [hread]
  · by_cases hplus : c = '+'
    · subst hplus
      cases cs with
      | nil =>
        have hread : readSignedWord t = .error .invalidDigit := by
          unfold readSignedWord readInt; rw [ht]; split <;> simp_all
        simp [hread, not_spellsIndex_sign (c := '+') rfl]
      | cons d ds =>
        have hread : readSignedWord t =
            Except.map (fun n : Nat => (n : Int)) (readDigits (Nat.pow 2 63 - 1) .tooLarge 0 (d :: ds)) := by
          unfold readSignedWord readInt; rw [ht]; split <;> simp_all [map_natCast]
        rw [hread, map_eq_ok_iff]
        simp only [readDigits_zero_eq_ok_iff (List.cons_ne_nil d ds) habove]
        constructor
        · rintro ⟨n, ⟨hs, hle⟩, rfl⟩
          exact .inl ⟨d :: ds, n, .inr rfl, hs, by omega, rfl⟩
        · rintro (⟨es, n, h | h, hs, hlt, rfl⟩ | ⟨es, n, h, -⟩)
          · subst h
            exact absurd hs (not_spellsIndex_sign rfl _ _)
          · cases h
            exact ⟨n, ⟨hs, by omega⟩, rfl⟩
          · exact absurd (List.cons.inj h).1 (by decide)
    · by_cases hminus : c = '-'
      · subst hminus
        cases cs with
        | nil =>
          have hread : readSignedWord t = .error .invalidDigit := by
            unfold readSignedWord readInt; rw [ht]; split <;> simp_all
          simp [hread, not_spellsIndex_sign (c := '-') rfl]
        | cons d ds =>
          have hread : readSignedWord t =
              Except.map (fun n : Nat => -(n : Int)) (readDigits (Nat.pow 2 63) .tooSmall 0 (d :: ds)) := by
            unfold readSignedWord readInt; rw [ht]; split <;> simp_all [map_natCast]
          rw [hread, map_eq_ok_iff]
          simp only [readDigits_zero_eq_ok_iff (List.cons_ne_nil d ds) hbelow]
          constructor
          · rintro ⟨n, ⟨hs, hle⟩, rfl⟩
            exact .inr ⟨d :: ds, n, rfl, hs, by omega, rfl⟩
          · rintro (⟨es, n, h | h, hs, -, -⟩ | ⟨es, n, h, hs, hle, rfl⟩)
            · subst h
              exact absurd hs (not_spellsIndex_sign rfl _ _)
            · exact absurd (List.cons.inj h).1 (by decide)
            · cases h
              exact ⟨n, ⟨hs, by omega⟩, rfl⟩
      · have hread : readSignedWord t =
            Except.map (fun n : Nat => (n : Int)) (readDigits (Nat.pow 2 63 - 1) .tooLarge 0 (c :: cs)) := by
          unfold readSignedWord readInt; rw [ht]; split <;> simp_all [map_natCast]
        rw [hread, map_eq_ok_iff]
        simp only [readDigits_zero_eq_ok_iff (List.cons_ne_nil c cs) habove]
        constructor
        · rintro ⟨n, ⟨hs, hle⟩, rfl⟩
          exact .inl ⟨c :: cs, n, .inl rfl, hs, by omega, rfl⟩
        · rintro (⟨es, n, h | h, hs, hlt, rfl⟩ | ⟨es, n, h, -⟩)
          · subst h
            exact ⟨n, ⟨hs, by omega⟩, rfl⟩
          · exact absurd (List.cons.inj h).1 hplus
          · exact absurd (List.cons.inj h).1 hminus

/-! ### Faults and values -/

/-- What is wrong with the unsigned variable `key`, if anything: it is set, and trimmed it
writes no 64-bit number. The fault quotes the value as it was given. -/
def wordFault (env : String → Option String) (key : String) : Option SettingsError :=
  (env key).bind fun raw =>
    match readWord (trimBlank raw) with
    | .ok _ => none
    | .error c => some (.invalidValue key raw c)

/-- What is wrong with the time limit, if anything: it is set, and trimmed it writes no 64-bit
signed number, or one below `-1`. -/
def limitFault (env : String → Option String) : Option SettingsError :=
  (env "CMDBOT_DEFAULT_TIME_LIMIT").bind fun raw =>
    match readSignedWord (trimBlank raw) with
    | .ok v => if v < -1 then some (.timeLimit v) else none
    | .error c => some (.invalidValue "CMDBOT_DEFAULT_TIME_LIMIT" raw c)

/-- The unsigned variables. -/
def wordKeys : List String :=
  ["CMDBOT_MAX_DEPTH", "CMDBOT_PROCESS_TIMEOUT", "CMDBOT_PROCESS_MAX_OUTPUT",
    "CMDBOT_MARKOV_SEED_ATTEMPTS", "CMDBOT_MARKOV_MAX_WORDS"]

/-- The faults of the numeric variables, in the order they are read. -/
def faults (env : String → Option String) : List (Option SettingsError) :=
  [wordFault env "CMDBOT_MAX_DEPTH", limitFault env, wordFault env "CMDBOT_PROCESS_TIMEOUT",
    wordFault env "CMDBOT_PROCESS_MAX_OUTPUT", wordFault env "CMDBOT_MARKOV_SEED_ATTEMPTS",
    wordFault env "CMDBOT_MARKOV_MAX_WORDS"]

/-- The first fault in reading order. -/
def firstFault (env : String → Option String) : Option SettingsError := (faults env).findSome? id

/-- The number an unsigned variable gives, when it is set and reads. -/
def wordValue (env : String → Option String) (key : String) : Option Nat :=
  (env key).bind fun raw => (readWord (trimBlank raw)).toOption

/-- The time limit the variable gives, when it is set and reads. -/
def limitValue (env : String → Option String) : Option (Option Nat) :=
  (env "CMDBOT_DEFAULT_TIME_LIMIT").bind fun raw =>
    (readSignedWord (trimBlank raw)).toOption.bind fun v => (TimeLimit.parse v).toOption

/-- The settings the variables give when every number reads. -/
def valuesOf (env : String → Option String) : Settings where
  commandPrefix := ((env "CMDBOT_PREFIX").filter fun p => !p.isEmpty).getD "!"
  maxDepth := (wordValue env "CMDBOT_MAX_DEPTH").getD 16
  defaultTimeLimit := (limitValue env).getD none
  processTimeout := (wordValue env "CMDBOT_PROCESS_TIMEOUT").getD 30
  maxOutput := (wordValue env "CMDBOT_PROCESS_MAX_OUTPUT").getD 65536
  seedAttempts := (wordValue env "CMDBOT_MARKOV_SEED_ATTEMPTS").getD 100
  maxWords := (wordValue env "CMDBOT_MARKOV_MAX_WORDS").getD 200
  learn := (env "CMDBOT_LEARN").all fun v => v == "true" || v == "1"

/-- A time limit is refused below `-1`; `-1` is no limit, and a number from `0` on that many
seconds. -/
theorem parse_eq_ite (v : Int) :
    TimeLimit.parse v = if v < -1 then .error v else .ok (if v = -1 then none else some v.toNat) := by
  unfold TimeLimit.parse
  by_cases h1 : v = -1
  · simp [h1]
  · by_cases h0 : 0 ≤ v
    · simp [h1, h0, show ¬ v < -1 by omega]
    · simp [h1, h0, show v < -1 by omega]

-- reading in `Except` on known outcomes, for `simp`
@[simp] theorem ok_bind {ε α β : Type} (a : α) (f : α → Except ε β) : (Except.ok a >>= f) = f a :=
  rfl

@[simp] theorem pure_eq_ok {ε α : Type} (a : α) : (pure a : Except ε α) = .ok a := rfl

@[simp] theorem throw_eq_error {ε α : Type} (e : ε) : (throw e : Except ε α) = .error e := rfl

/-- Reading an unsigned variable gives its fault, or its number. -/
theorem readVar_word (env : String → Option String) (key : String) :
    readVar env key readWord =
      match wordFault env key with
      | some e => .error e
      | none => .ok (wordValue env key) := by
  unfold readVar wordFault wordValue
  cases env key with
  | none => rfl
  | some raw =>
    simp only [Option.bind_some]
    cases readWord (trimBlank raw) <;> rfl

/-- Reading the time limit gives its fault, or the limit. -/
theorem readTimeLimit_eq (env : String → Option String) :
    readTimeLimit env =
      match limitFault env with
      | some e => .error e
      | none => .ok (limitValue env) := by
  unfold readTimeLimit readVar limitFault limitValue
  cases env "CMDBOT_DEFAULT_TIME_LIMIT" with
  | none => rfl
  | some raw =>
    simp only [Option.bind_some]
    cases readSignedWord (trimBlank raw) with
    | error c => rfl
    | ok v =>
      simp only [parse_eq_ite]
      by_cases hv : v < -1 <;> simp [hv, Except.toOption]

/-- **Reading the settings** gives the first fault of the numeric variables, in reading order,
or, when there is none, the settings their values give. The variables are read one after another,
and the first fault stops the reading. -/
theorem ofEnv_eq (env : String → Option String) :
    ofEnv env =
      match firstFault env with
      | some e => .error e
      | none => .ok (valuesOf env) := by
  simp only [ofEnv, readVar_word, readTimeLimit_eq, firstFault, faults, List.findSome?_cons,
    List.findSome?_nil, id]
  cases wordFault env "CMDBOT_MAX_DEPTH" with
  | some e => rfl
  | none =>
  cases limitFault env with
  | some e => rfl
  | none =>
  cases wordFault env "CMDBOT_PROCESS_TIMEOUT" with
  | some e => rfl
  | none =>
  cases wordFault env "CMDBOT_PROCESS_MAX_OUTPUT" with
  | some e => rfl
  | none =>
  cases wordFault env "CMDBOT_MARKOV_SEED_ATTEMPTS" with
  | some e => rfl
  | none =>
  cases wordFault env "CMDBOT_MARKOV_MAX_WORDS" with
  | some e => rfl
  | none =>
    show Except.ok _ = Except.ok (valuesOf env)
    congr 1
    unfold valuesOf
    congr 1
    · cases env "CMDBOT_PREFIX" with
      | none => rfl
      | some p => by_cases hp : p.isEmpty <;> simp [Option.filter, hp]
    · cases env "CMDBOT_LEARN" <;> rfl

/-! ### What the variables say -/

/-- `n` is the setting the unsigned variable `key` gives: the number its trimmed value writes,
or `d` when it is unset. -/
def NumberSaid (env : String → Option String) (key : String) (d n : Nat) : Prop :=
  match env key with
  | none => n = d
  | some raw => WritesWord (trimBlank raw) n

/-- `l` is the time limit the variable gives: none when it is unset or writes `-1`, else the
number it writes, which is not negative. -/
def LimitSaid (env : String → Option String) (l : Option Nat) : Prop :=
  match env "CMDBOT_DEFAULT_TIME_LIMIT" with
  | none => l = none
  | some raw => (WritesSignedWord (trimBlank raw) (-1) ∧ l = none) ∨
      ∃ n : Nat, WritesSignedWord (trimBlank raw) n ∧ l = some n

/-- The settings `s` are what the variables say. -/
structure Describes (env : String → Option String) (s : Settings) : Prop where
  /-- The prefix is the variable's value as it is, unless unset or empty. -/
  commandPrefix : s.commandPrefix = ((env "CMDBOT_PREFIX").filter fun p => !p.isEmpty).getD "!"
  maxDepth : NumberSaid env "CMDBOT_MAX_DEPTH" 16 s.maxDepth
  defaultTimeLimit : LimitSaid env s.defaultTimeLimit
  processTimeout : NumberSaid env "CMDBOT_PROCESS_TIMEOUT" 30 s.processTimeout
  maxOutput : NumberSaid env "CMDBOT_PROCESS_MAX_OUTPUT" 65536 s.maxOutput
  seedAttempts : NumberSaid env "CMDBOT_MARKOV_SEED_ATTEMPTS" 100 s.seedAttempts
  maxWords : NumberSaid env "CMDBOT_MARKOV_MAX_WORDS" 200 s.maxWords
  /-- Learning is on unless the variable holds anything but `true` or `1`. -/
  learn : s.learn = true ↔
    env "CMDBOT_LEARN" = none ∨ env "CMDBOT_LEARN" = some "true" ∨ env "CMDBOT_LEARN" = some "1"

/-- An unsigned variable has no fault exactly when, if set, it writes a number once trimmed. -/
theorem wordFault_eq_none_iff {env : String → Option String} {key : String} :
    wordFault env key = none ↔ ∀ raw, env key = some raw → ∃ n, WritesWord (trimBlank raw) n := by
  unfold wordFault
  cases env key with
  | none => simp
  | some raw =>
    simp only [Option.bind_some, ← readWord_eq_ok_iff]
    rcases h : readWord (trimBlank raw) with c | m <;> simp [h]

/-- The time limit has no fault exactly when, if set, it writes a number from `-1` on once
trimmed. -/
theorem limitFault_eq_none_iff {env : String → Option String} :
    limitFault env = none ↔ ∀ raw, env "CMDBOT_DEFAULT_TIME_LIMIT" = some raw →
      ∃ v, WritesSignedWord (trimBlank raw) v ∧ -1 ≤ v := by
  unfold limitFault
  cases env "CMDBOT_DEFAULT_TIME_LIMIT" with
  | none => simp
  | some raw =>
    simp only [Option.bind_some, ← readSignedWord_eq_ok_iff]
    rcases h : readSignedWord (trimBlank raw) with c | v
    · simp [h]
    · by_cases hv : v < -1
      · simp [h, hv]
      · simp [h, hv]
        omega

/-- The numeric variables have no fault exactly when neither the unsigned ones nor the time
limit has one. -/
theorem firstFault_eq_none_iff {env : String → Option String} :
    firstFault env = none ↔ (∀ k ∈ wordKeys, wordFault env k = none) ∧ limitFault env = none := by
  simp only [firstFault, faults, wordKeys, List.findSome?_eq_none_iff, List.mem_cons,
    List.not_mem_nil, or_false, id, forall_eq_or_imp, forall_eq]
  tauto

theorem numberSaid_iff {env : String → Option String} {key : String} {d n : Nat} :
    NumberSaid env key d n ↔ wordFault env key = none ∧ n = (wordValue env key).getD d := by
  unfold NumberSaid wordFault wordValue
  cases env key with
  | none => simp
  | some raw =>
    simp only [Option.bind_some, ← readWord_eq_ok_iff]
    cases readWord (trimBlank raw) <;> simp [Except.toOption, eq_comm]

/-- The time limit said by the variables: a number below `-1` is a fault, `-1` means no limit,
and a number from `0` on is that limit. -/
theorem limitSaid_iff {env : String → Option String} {l : Option Nat} :
    LimitSaid env l ↔ limitFault env = none ∧ l = (limitValue env).getD none := by
  unfold LimitSaid limitFault limitValue
  cases env "CMDBOT_DEFAULT_TIME_LIMIT" with
  | none => simp
  | some raw =>
    simp only [Option.bind_some, ← readSignedWord_eq_ok_iff]
    cases readSignedWord (trimBlank raw) with
    | error c => simp
    | ok v =>
      simp only [parse_eq_ite]
      by_cases hv : v < -1
      · have h1 : v ≠ -1 := by omega
        simp [hv, h1]
        omega
      · by_cases h1 : v = -1
        · simp [h1, Except.toOption]
        · simp [hv, h1, Except.toOption]
          constructor
          · rintro ⟨n, rfl, rfl⟩
            rfl
          · rintro rfl
            exact ⟨v.toNat, by omega, rfl⟩

theorem learn_all_iff (o : Option String) :
    (o.all fun v => v == "true" || v == "1") = true ↔ o = none ∨ o = some "true" ∨ o = some "1" := by
  cases o <;> simp

/-- The settings are what the variables say exactly when no numeric variable has a fault and
the settings are the values the variables give. -/
theorem describes_iff {env : String → Option String} {s : Settings} :
    Describes env s ↔ firstFault env = none ∧ s = valuesOf env := by
  constructor
  · intro h
    obtain ⟨hf1, hv1⟩ := numberSaid_iff.mp h.maxDepth
    obtain ⟨hf2, hv2⟩ := limitSaid_iff.mp h.defaultTimeLimit
    obtain ⟨hf3, hv3⟩ := numberSaid_iff.mp h.processTimeout
    obtain ⟨hf4, hv4⟩ := numberSaid_iff.mp h.maxOutput
    obtain ⟨hf5, hv5⟩ := numberSaid_iff.mp h.seedAttempts
    obtain ⟨hf6, hv6⟩ := numberSaid_iff.mp h.maxWords
    refine ⟨firstFault_eq_none_iff.mpr ⟨?_, hf2⟩, ?_⟩
    · simp only [wordKeys, List.mem_cons, List.not_mem_nil, or_false]
      rintro k (rfl | rfl | rfl | rfl | rfl) <;> assumption
    · have hlearn : s.learn = (valuesOf env).learn :=
        Bool.eq_iff_iff.mpr (h.learn.trans (learn_all_iff _).symm)
      cases s
      simp only [valuesOf, Settings.mk.injEq] at *
      exact ⟨h.commandPrefix, hv1, hv2, hv3, hv4, hv5, hv6, hlearn⟩
  · rintro ⟨hf, rfl⟩
    obtain ⟨hwords, hlimit⟩ := firstFault_eq_none_iff.mp hf
    have hword : ∀ k ∈ wordKeys, ∀ d, NumberSaid env k d ((wordValue env k).getD d) :=
      fun k hk d => numberSaid_iff.mpr ⟨hwords k hk, rfl⟩
    exact ⟨rfl, hword _ (by simp [wordKeys]) _, limitSaid_iff.mpr ⟨hlimit, rfl⟩,
      hword _ (by simp [wordKeys]) _, hword _ (by simp [wordKeys]) _,
      hword _ (by simp [wordKeys]) _, hword _ (by simp [wordKeys]) _, learn_all_iff _⟩

/-- **Reading the settings from variables.** It succeeds exactly when every unsigned variable
that is set writes a 64-bit number once trimmed, and the time limit, if set, a 64-bit signed
number from `-1` on; it fails with the first fault in reading order; and what it gives on
success is what the variables say. -/
theorem settings_read_in_order (env : String → Option String) :
    ((∃ s, ofEnv env = .ok s) ↔
      (∀ k ∈ wordKeys, ∀ raw, env k = some raw → ∃ n, WritesWord (trimBlank raw) n) ∧
      ∀ raw, env "CMDBOT_DEFAULT_TIME_LIMIT" = some raw →
        ∃ v, WritesSignedWord (trimBlank raw) v ∧ -1 ≤ v) ∧
    (∀ e, ofEnv env = .error e ↔ firstFault env = some e) ∧
    ∀ s, ofEnv env = .ok s ↔ Describes env s := by
  have hok : ∀ s, ofEnv env = .ok s ↔ firstFault env = none ∧ s = valuesOf env := by
    intro s
    rw [ofEnv_eq]
    cases firstFault env <;> simp [eq_comm]
  refine ⟨?_, fun e => ?_, fun s => (hok s).trans describes_iff.symm⟩
  · simp only [hok, exists_and_left, exists_eq, and_true, firstFault_eq_none_iff,
      wordFault_eq_none_iff, limitFault_eq_none_iff]
  · rw [ofEnv_eq]
    cases firstFault env <;> simp

/-- A time limit of ` -2` is refused as a number below `-1`, with a message that holds no
quotation mark: the value as given is not quoted. -/
theorem time_limit_error_unquoted :
    ofEnv (fun k => if k = "CMDBOT_DEFAULT_TIME_LIMIT" then some " -2" else none) =
        .error (.timeLimit (-2)) ∧
      '"' ∉ (SettingsError.timeLimit (-2)).message.toList := by
  have hfault : firstFault (fun k => if k = "CMDBOT_DEFAULT_TIME_LIMIT" then some " -2" else none) =
      some (.timeLimit (-2)) := by
    decide
  rw [ofEnv_eq, hfault]
  exact ⟨rfl, by decide⟩

end Chatbot.Settings
