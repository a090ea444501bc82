/-!
# References

A *reference* is a command line written inside `$(` and `)`, `$[` and `]`, `${` and `}`, or
a dollar sign and a pair of backticks. Expanding a text replaces every reference by the output
of running its line; references nest, and inner ones are run first, from left to right.

The text is read in one pass with a stack of open brackets. A `$` directly followed by one of
the four openers opens a reference; an opening round, square or curly bracket not so preceded
opens a *plain group*. Only the innermost open construct's own closer closes it; any other
closer, and a backtick that closes nothing, is an ordinary character. A closed plain group
stays as it was written, with its contents expanded. A closed reference is replaced by the
value of its expanded contents, and that value is never read again. A construct still open at
the end of the text stays as written.

The reader is generic in the effect of running a line, so that the same reader serves the
command engine and any other evaluator.
-/

namespace Chatbot.Template

/-- The closer of an opening bracket or backtick. -/
def closerOf? : Char → Option Char
  | '(' => some ')'
  | '[' => some ']'
  | '{' => some '}'
  | '`' => some '`'
  | _ => none

/-- An open construct: its closer, where its text starts in the output, and whether it is a
reference. -/
structure Frame where
  /-- The character that closes it. -/
  close : Char
  /-- How many characters of output precede it. -/
  start : Nat
  /-- A reference, rather than a plain group. -/
  reference : Bool
  deriving DecidableEq, Repr

section Scan

variable {m : Type → Type} [Monad m]

/-- The top construct and the rest of the stack, if the top one is closed by `c`. -/
def popIf : List Frame → Char → Option (Frame × List Frame)
  | f :: fs, c => if f.close = c then some (f, fs) else none
  | [], _ => none

/-- The closer of the reference that `c` opens when followed by `rest`: `c` is `$` and the next
character an opener. -/
def refCloser? : Char → List Char → Option Char
  | '$', o :: _ => closerOf? o
  | _, _ => none

/-- Copy a character that neither closes a construct nor opens a reference; an opening
bracket opens a plain group. -/
def pushPlain (stack : List Frame) (out : List Char) (c : Char) : List Frame × List Char :=
  match closerOf? c with
  | some cl =>
    if c = '`' then (stack, out ++ [c]) else (⟨cl, out.length, false⟩ :: stack, out ++ [c])
  | none => (stack, out ++ [c])

/-- Read `cs` with the open constructs `stack` and the output so far `out`, running each
closed reference's line with `eval`. -/
def scanRefs (eval : String → m String) : List Frame → List Char → List Char → m (List Char)
  | _, out, [] => pure out
  | stack, out, c :: rest =>
    match popIf stack c with
    | some (f, fs) =>
      if f.reference then do
        let v ← eval (String.ofList (out.drop (f.start + 2)))
        scanRefs eval fs (out.take f.start ++ v.toList) rest
      else scanRefs eval fs (out ++ [c]) rest
    | none =>
      match refCloser? c rest with
      | some cl =>
        scanRefs eval (⟨cl, out.length, true⟩ :: stack) (out ++ c :: rest.take 1) (rest.drop 1)
      | none => scanRefs eval (pushPlain stack out c).1 (pushPlain stack out c).2 rest
termination_by _ _ cs => cs.length
decreasing_by all_goals simp; try omega

/-- Replace the references of a text by the values `eval` gives their lines. A text without
`$` is returned as it is. -/
def expandRefs (eval : String → m String) (text : String) : m String :=
  if text.toList.contains '$' then do
    pure (String.ofList (← scanRefs eval [] [] text.toList))
  else pure text

end Scan

end Chatbot.Template
