/-!
# Reading decimal integers

Settings and command arguments hold integers written in decimal. A reading takes an optional
sign and at least one ASCII digit, and refuses a value outside the target range. The causes of
a refusal, in the order the digits are read:

* the text is empty;
* a character is not a digit (a sign alone counts as such a character, and a minus sign
  before an unsigned value is one);
* the value has grown above the largest of the range, or below the smallest.

Digits are read left to right and the first fault met is the one reported, so `99...9x` with
enough nines is too large, while `1x99...9` has an invalid digit.
-/

namespace Chatbot.Text

/-- Why a text is not a decimal integer of the wanted range. -/
inductive NumberError where
  /-- The text is empty. -/
  | empty
  /-- A character is not a decimal digit. -/
  | invalidDigit
  /-- The value exceeds the largest of the range. -/
  | tooLarge
  /-- The value is below the smallest of the range. -/
  | tooSmall
  deriving DecidableEq, Repr

/-- The message for each cause. -/
def NumberError.message : NumberError → String
  | .empty => "cannot parse integer from empty string"
  | .invalidDigit => "invalid digit found in string"
  | .tooLarge => "number too large to fit in target type"
  | .tooSmall => "number too small to fit in target type"

/-- The value of an ASCII digit. -/
def digitValue? (c : Char) : Option Nat :=
  if '0' ≤ c ∧ c ≤ '9' then some (c.toNat - '0'.toNat) else none

/-- Read digits onto `acc`, refusing with `excess` once the value passes `limit`. -/
def readDigits (limit : Nat) (excess : NumberError) (acc : Nat) :
    List Char → Except NumberError Nat
  | [] => .ok acc
  | c :: cs =>
    match digitValue? c with
    | none => .error .invalidDigit
    | some d =>
      let v := acc * 10 + d
      if v > limit then .error excess else readDigits limit excess v cs

/-- Read an unsigned decimal no larger than `limit`; a leading `+` is allowed. -/
def readNat (limit : Nat) (s : String) : Except NumberError Nat :=
  match s.toList with
  | [] => .error .empty
  | ['+'] => .error .invalidDigit
  | '+' :: cs => readDigits limit .tooLarge 0 cs
  | cs => readDigits limit .tooLarge 0 cs

/-- Read a signed decimal in `[-below, above]`; a leading `+` or `-` is allowed. -/
def readInt (below above : Nat) (s : String) : Except NumberError Int :=
  match s.toList with
  | [] => .error .empty
  | ['+'] => .error .invalidDigit
  | ['-'] => .error .invalidDigit
  | '-' :: cs => (readDigits below .tooSmall 0 cs).map fun n => -(n : Int)
  | '+' :: cs => (readDigits above .tooLarge 0 cs).map fun n => (n : Int)
  | cs => (readDigits above .tooLarge 0 cs).map fun n => (n : Int)

/-- The largest value of a 64-bit unsigned word. -/
def wordMax : Nat := Nat.pow 2 64 - 1

/-- Read a 64-bit unsigned value. -/
def readWord (s : String) : Except NumberError Nat := readNat wordMax s

/-- Read a 64-bit signed value. -/
def readSignedWord (s : String) : Except NumberError Int := readInt (Nat.pow 2 63) (Nat.pow 2 63 - 1) s

/-- A reading never exceeds its limit. -/
theorem readDigits_le {limit : Nat} {excess : NumberError} :
    ∀ {acc : Nat} {cs : List Char} {n : Nat}, acc ≤ limit →
      readDigits limit excess acc cs = .ok n → n ≤ limit
  | acc, [], n, hacc, h => by
    simp only [readDigits, Except.ok.injEq] at h; omega
  | acc, c :: cs, n, hacc, h => by
    simp only [readDigits] at h
    split at h
    · cases h
    · split at h
      · cases h
      · exact readDigits_le (by omega) h

end Chatbot.Text
