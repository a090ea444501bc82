import Chatbot.Pattern.Parse
import Chatbot.Pattern.Budget

/-!
# Patterns

A pattern selects learned words: a word is selected when the pattern matches somewhere in it.
Compiling reads the pattern once; a refused pattern comes back with its report. A pattern
that reads well is still refused when its automaton would be too big (`Form.fitsSizeLimit`).

## What is proved

* `isMatch_iff`: a pattern matches a text exactly when some place of the text starts a match.
-/

namespace Chatbot.Pattern

/-- A compiled pattern. -/
structure Regex where
  /-- The pattern's text. -/
  source : String
  /-- What it matches. -/
  expr : Expr
  deriving DecidableEq, Repr

/-- Why a pattern is refused. -/
inductive CompileError where
  /-- It does not read as a pattern. -/
  | malformed (e : PatternError)
  /-- Its automaton would be too big. -/
  | tooLarge
  deriving DecidableEq, Repr

/-- The report of a refused pattern. -/
def CompileError.text : CompileError → String
  | .malformed e => e.text
  | .tooLarge => s!"Compiled regex exceeds size limit of {sizeLimit} bytes."

/-- Compile a pattern. -/
def compile (s : String) : Except CompileError Regex :=
  match parsePattern s with
  | .error e => .error (.malformed e)
  | .ok (e, f) => if f.fitsSizeLimit then .ok ⟨s, e⟩ else .error .tooLarge

/-- Whether a pattern matches somewhere in a text. -/
def Regex.isMatch (p : Regex) (s : String) : Bool :=
  p.expr.matchesIn s.toList.toArray

/-- A pattern matches a text exactly when some place of the text starts a match. -/
theorem isMatch_iff (p : Regex) (s : String) :
    p.isMatch s = true ↔
      ∃ i, i < s.toList.toArray.size + 1 ∧ p.expr.ends s.toList.toArray i ≠ [] := by
  simp [Regex.isMatch, Expr.matchesIn, List.any_eq_true]

end Chatbot.Pattern
