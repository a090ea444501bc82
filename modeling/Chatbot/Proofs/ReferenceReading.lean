import Chatbot.Template.Reference

/-!
# Reading references recursively

`scanRefs` expands the references of a text in one pass with a stack of open constructs: when
the innermost reference closes, its line is cut off the end of the output and replaced by its
value. This module reads a text the other way, by recursive descent, into *pieces*: ordinary
characters, plain groups and references, each group and reference holding the pieces of its
contents. The pieces are then evaluated from the inside out.

The reading follows the rules of the scan. Inside a construct only its own closer closes it. A
`$` directly followed by a round, square or curly bracket or a backtick opens a reference; one
of the three brackets otherwise opens a plain group; every other character, a stray closer or a
lone backtick included, is ordinary. A closed group is written back as its opener, its
evaluated contents and its closer; a closed reference is replaced by the value of its
evaluated contents. A construct that the text ends inside is written back as its opening and
its evaluated contents.

## What is proved

* `scanRefs_readPieces`: from any stack whose innermost construct the reading awaits, the scan
  evaluates the pieces read and then goes on at the closer where the reading stopped.
* `expandRefs_eq_evalPieces`: for every evaluator in every lawful monad, expanding a text is
  evaluating its reading. The two give the same text and run the same evaluations in the same
  order: innermost first, from left to right, each closed reference once.
-/

namespace Chatbot.Template

/-- A piece of a text read for references. -/
inductive Piece where
  /-- A character that neither opens nor closes a construct. -/
  | char (c : Char)
  /-- A plain group opened by `o`, with the pieces of its contents; `closed` when its closer
  `cl` came before the end of the text. -/
  | group (o cl : Char) (body : List Piece) (closed : Bool)
  /-- A reference opened by `$` and `o`, with the pieces of its contents; `closed` when its
  closer `cl` came before the end of the text. -/
  | ref (o cl : Char) (body : List Piece) (closed : Bool)
  deriving Repr

/-- The opener and closer of a reference that starts with `c` followed by `rest`, and the text
after the opener. -/
def refOpening? : Char → List Char → Option (Char × Char × List Char)
  | '$', o :: rest => (closerOf? o).map fun cl => (o, cl, rest)
  | _, _ => none

/-- The closer of the plain group that `c` opens: `c` is a round, square or curly bracket. -/
def groupCloser? (c : Char) : Option Char := if c = '`' then none else closerOf? c

theorem refOpening?_eq_some {c o cl : Char} {rest body : List Char}
    (h : refOpening? c rest = some (o, cl, body)) :
    c = '$' ∧ rest = o :: body ∧ closerOf? o = some cl := by
  unfold refOpening? at h
  split at h
  · rename_i o' rest'
    cases hc : closerOf? o' with
    | none => simp [hc] at h
    | some cl' =>
      simp only [hc, Option.map_some, Option.some.injEq, Prod.mk.injEq] at h
      obtain ⟨rfl, rfl, rfl⟩ := h
      exact ⟨rfl, rfl, hc⟩
  · cases h

/-- The scan's test for a reference is `refOpening?` forgetting all but the closer. -/
theorem refCloser?_eq (c : Char) (rest : List Char) :
    refCloser? c rest = (refOpening? c rest).map fun r => r.2.1 := by
  unfold refCloser? refOpening?
  split
  · simp [Option.map_map, Function.comp_def]
  · simp

/-- The scan copies a character that opens no reference, opening a plain group on a bracket. -/
theorem pushPlain_eq (stack : List Frame) (out : List Char) (c : Char) :
    pushPlain stack out c = match groupCloser? c with
      | some cl => (⟨cl, out.length, false⟩ :: stack, out ++ [c])
      | none => (stack, out ++ [c]) := by
  unfold pushPlain groupCloser?
  cases hc : closerOf? c with
  | none => simp
  | some cl => by_cases h : c = '`' <;> simp [h]

/-- What reading a text up to the closer `cl?` gives: the pieces read and the text from the
closer on, which is empty when the text ended first. The top level, `cl? = none`, always reads
to the end. -/
structure Read (cl? : Option Char) (cs : List Char) where
  /-- The pieces read. -/
  pieces : List Piece
  /-- The text from the closer on. -/
  rest : List Char
  /-- The reading consumed a prefix of the text. -/
  rest_suffix : rest <:+ cs
  /-- It stopped at the end of the text or at the closer. -/
  rest_head : rest = [] ∨ rest.head? = cl?

theorem Read.drop_rest_length_le {cl? : Option Char} {cs : List Char} (r : Read cl? cs)
    (n : Nat) : (r.rest.drop n).length ≤ cs.length :=
  ((List.drop_suffix n _).trans r.rest_suffix).length_le

/-- Read `cs` up to the closer `cl?` into pieces, by recursive descent. The reading ends
because the text after a construct, its closer dropped, is no longer than the text after its
opener. -/
def readPieces (cl? : Option Char) : (cs : List Char) → Read cl? cs
  | [] => ⟨[], [], List.suffix_refl _, .inl rfl⟩
  | c :: rest =>
    if h : cl? = some c then ⟨[], c :: rest, List.suffix_refl _, .inr (by simp [h])⟩
    else match ho : refOpening? c rest with
      | some (o, cl, body) =>
        let inner := readPieces (some cl) body
        let after := readPieces cl? (inner.rest.drop 1)
        ⟨Piece.ref o cl inner.pieces (!inner.rest.isEmpty) :: after.pieces, after.rest,
          after.rest_suffix.trans ((List.drop_suffix 1 _).trans (inner.rest_suffix.trans
            (by rw [(refOpening?_eq_some ho).2.1]
                exact (List.suffix_cons _ _).trans (List.suffix_cons _ _)))),
          after.rest_head⟩
      | none =>
        match groupCloser? c with
        | some cl =>
          let inner := readPieces (some cl) rest
          let after := readPieces cl? (inner.rest.drop 1)
          ⟨Piece.group c cl inner.pieces (!inner.rest.isEmpty) :: after.pieces, after.rest,
            after.rest_suffix.trans ((List.drop_suffix 1 _).trans
              (inner.rest_suffix.trans (List.suffix_cons _ _))),
            after.rest_head⟩
        | none =>
          let after := readPieces cl? rest
          ⟨Piece.char c :: after.pieces, after.rest, after.rest_suffix.trans (List.suffix_cons _ _),
            after.rest_head⟩
termination_by cs => cs.length
decreasing_by
  all_goals
    try refine Nat.lt_of_le_of_lt (Read.drop_rest_length_le _ 1) ?_
    try rw [(refOpening?_eq_some ho).2.1]
    simp only [List.length_cons]
    omega

/-- Reading an empty text gives nothing. -/
@[simp] theorem readPieces_nil (cl? : Option Char) :
    readPieces cl? [] = ⟨[], [], List.suffix_refl _, .inl rfl⟩ := by
  rw [readPieces]

/-- At the top level the reading takes the whole text. -/
theorem readPieces_none_rest (cs : List Char) : (readPieces none cs).rest = [] := by
  rcases (readPieces none cs).rest_head with h | h
  · exact h
  · exact List.head?_eq_none_iff.mp h

section Evaluate

variable {m : Type → Type} [Monad m] (eval : String → m String)

mutual
/-- The text a piece stands for, each closed reference replaced by what `eval` gives its
evaluated contents. -/
def evalPiece : Piece → m (List Char)
  | .char c => pure [c]
  | .group o cl body closed => do
    let t ← evalPieces body
    pure (o :: t ++ if closed then [cl] else [])
  | .ref o _ body closed => do
    let t ← evalPieces body
    if closed then return (← eval (String.ofList t)).toList else pure ('$' :: o :: t)

/-- The text of pieces, evaluated from left to right. -/
def evalPieces : List Piece → m (List Char)
  | [] => pure []
  | p :: ps => do
    let a ← evalPiece p
    let b ← evalPieces ps
    pure (a ++ b)
end

end Evaluate

/-! ### The scan, step by step -/

section Scan

variable {m : Type → Type} [Monad m] (eval : String → m String)

theorem refOpening?_of_ne {c : Char} (h : c ≠ '$') (rest : List Char) :
    refOpening? c rest = none := by
  unfold refOpening?
  split
  · exact absurd rfl h
  · rfl

theorem popIf_eq_none {stack : List Frame} {c : Char}
    (h : stack.head?.map Frame.close ≠ some c) : popIf stack c = none := by
  cases stack with
  | nil => rfl
  | cons f fs =>
    have : f.close ≠ c := fun e => h (by simp [e])
    simp [popIf, this]

@[simp] theorem scanRefs_nil (stack : List Frame) (out : List Char) :
    scanRefs eval stack out [] = pure out := by
  rw [scanRefs]

/-- The innermost construct is a reference and closes: its line, the output after its opening,
is replaced by its value. -/
theorem scanRefs_close_ref {f : Frame} {fs : List Frame} {out rest : List Char} {c : Char}
    (hc : f.close = c) (hr : f.reference = true) :
    scanRefs eval (f :: fs) out (c :: rest) =
      eval (String.ofList (out.drop (f.start + 2))) >>= fun v =>
        scanRefs eval fs (out.take f.start ++ v.toList) rest := by
  rw [scanRefs]
  simp [popIf, hc, hr]

/-- The innermost construct is a plain group and closes: its closer is copied. -/
theorem scanRefs_close_group {f : Frame} {fs : List Frame} {out rest : List Char} {c : Char}
    (hc : f.close = c) (hr : f.reference = false) :
    scanRefs eval (f :: fs) out (c :: rest) = scanRefs eval fs (out ++ [c]) rest := by
  rw [scanRefs]
  simp [popIf, hc, hr]

/-- A reference opens: `$` and its opener are copied, and the stack remembers where. -/
theorem scanRefs_open_ref {stack : List Frame} {out rest body : List Char} {c o cl : Char}
    (hs : stack.head?.map Frame.close ≠ some c) (ho : refOpening? c rest = some (o, cl, body)) :
    scanRefs eval stack out (c :: rest) =
      scanRefs eval (⟨cl, out.length, true⟩ :: stack) (out ++ ['$', o]) body := by
  obtain ⟨rfl, rfl, -⟩ := refOpening?_eq_some ho
  rw [scanRefs, popIf_eq_none hs, refCloser?_eq, ho]
  rfl

/-- A plain group opens: its opener is copied, and the stack remembers where. -/
theorem scanRefs_open_group {stack : List Frame} {out rest : List Char} {c cl : Char}
    (hs : stack.head?.map Frame.close ≠ some c) (ho : refOpening? c rest = none)
    (hg : groupCloser? c = some cl) :
    scanRefs eval stack out (c :: rest) =
      scanRefs eval (⟨cl, out.length, false⟩ :: stack) (out ++ [c]) rest := by
  rw [scanRefs, popIf_eq_none hs, refCloser?_eq, ho]
  simp only [Option.map_none, pushPlain_eq, hg]

/-- Any other character is copied. -/
theorem scanRefs_char {stack : List Frame} {out rest : List Char} {c : Char}
    (hs : stack.head?.map Frame.close ≠ some c) (ho : refOpening? c rest = none)
    (hg : groupCloser? c = none) :
    scanRefs eval stack out (c :: rest) = scanRefs eval stack (out ++ [c]) rest := by
  rw [scanRefs, popIf_eq_none hs, refCloser?_eq, ho]
  simp only [Option.map_none, pushPlain_eq, hg]

/-- After a reference's contents comes its closer, and the reference is replaced by its value,
or the end of the text, and the reference stays as it was written. -/
theorem scanRefs_after_ref {stack : List Frame} {out t rest : List Char} {o cl : Char}
    (hr : rest = [] ∨ rest.head? = some cl) :
    scanRefs eval (⟨cl, out.length, true⟩ :: stack) (out ++ '$' :: o :: t) rest =
      if rest.isEmpty then pure (out ++ '$' :: o :: t)
      else eval (String.ofList t) >>= fun v =>
        scanRefs eval stack (out ++ v.toList) (rest.drop 1) := by
  cases rest with
  | nil => simp
  | cons c rest =>
    have hc : c = cl := by simpa using hr
    subst hc
    rw [scanRefs_close_ref eval rfl rfl]
    simp

/-- After a plain group's contents comes its closer, which is copied, or the end of the text. -/
theorem scanRefs_after_group {stack : List Frame} {out t rest : List Char} {o cl : Char}
    (hr : rest = [] ∨ rest.head? = some cl) :
    scanRefs eval (⟨cl, out.length, false⟩ :: stack) (out ++ o :: t) rest =
      if rest.isEmpty then pure (out ++ o :: t)
      else scanRefs eval stack (out ++ o :: t ++ [cl]) (rest.drop 1) := by
  cases rest with
  | nil => simp
  | cons c rest =>
    have hc : c = cl := by simpa using hr
    subst hc
    rw [scanRefs_close_group eval rfl rfl]
    simp

/-- **The scan follows the reading.** From a stack whose innermost construct closes with `cl?`,
scanning `cs` evaluates the pieces that reading `cs` up to `cl?` gives, appending their text to
the output, and then goes on at the closer where the reading stopped. By induction along the
reading: the contents of a reference are read first, and what follows them decides whether it
closes, its value then replacing it, or is still open at the end of the text. -/
theorem scanRefs_readPieces [LawfulMonad m] (cl? : Option Char) (cs : List Char) :
    ∀ (stack : List Frame) (out : List Char), stack.head?.map Frame.close = cl? →
      scanRefs eval stack out cs =
        evalPieces eval (readPieces cl? cs).pieces >>= fun t =>
          scanRefs eval stack (out ++ t) (readPieces cl? cs).rest := by
  fun_induction readPieces cl? cs with
  | case1 cl? =>
    intro stack out _
    simp [evalPieces]
  | case2 =>
    intro stack out _
    simp [evalPieces]
  | case3 cl? c rest h o cl body ho inner after ihInner ihAfter =>
    intro stack out hs
    simp only [inner, after] at ihAfter ⊢
    rw [scanRefs_open_ref eval (by rw [hs]; exact h) ho, ihInner _ _ rfl]
    have hr := (readPieces (some cl) body).rest_head
    simp only [List.append_assoc, List.cons_append, List.nil_append, scanRefs_after_ref eval hr]
    cases hnil : (readPieces (some cl) body).rest.isEmpty
    · simp only [Bool.false_eq_true, if_false, ihAfter _ _ hs]
      simp [evalPieces, evalPiece]
    · rw [List.isEmpty_iff] at hnil
      rw [hnil, List.drop_nil]
      simp [evalPieces, evalPiece]
  | case4 cl? c rest h ho cl hg inner after ihInner ihAfter =>
    intro stack out hs
    simp only [inner, after] at ihAfter ⊢
    rw [scanRefs_open_group eval (by rw [hs]; exact h) ho hg, ihInner _ _ rfl]
    have hr := (readPieces (some cl) rest).rest_head
    simp only [List.append_assoc, List.singleton_append, scanRefs_after_group eval hr]
    cases hnil : (readPieces (some cl) rest).rest.isEmpty
    · simp only [Bool.false_eq_true, if_false, ihAfter _ _ hs]
      simp [evalPieces, evalPiece]
    · rw [List.isEmpty_iff] at hnil
      rw [hnil, List.drop_nil]
      simp [evalPieces, evalPiece]
  | case5 cl? c rest h ho hg after ihAfter =>
    intro stack out hs
    rw [scanRefs_char eval (by rw [hs]; exact h) ho hg, ihAfter _ _ hs]
    simp [evalPieces, evalPiece, after]

/-- With only plain groups open, a text without `$` is copied as it is and nothing is
evaluated. -/
theorem scanRefs_of_plain [LawfulMonad m] :
    ∀ (cs : List Char) (stack : List Frame) (out : List Char),
      (∀ f ∈ stack, f.reference = false) → '$' ∉ cs → scanRefs eval stack out cs = pure (out ++ cs)
  | [], stack, out, _, _ => by simp
  | c :: rest, stack, out, hplain, hc => by
    have ho : refOpening? c rest = none := refOpening?_of_ne (fun e => hc (e ▸ List.mem_cons_self)) rest
    have hrest : '$' ∉ rest := fun h => hc (List.mem_cons_of_mem c h)
    by_cases hs : stack.head?.map Frame.close = some c
    · obtain ⟨f, fs, rfl, hf⟩ : ∃ f fs, stack = f :: fs ∧ f.close = c := by
        cases stack with
        | nil => simp at hs
        | cons f fs => exact ⟨f, fs, rfl, by simpa using hs⟩
      rw [scanRefs_close_group eval hf (hplain f List.mem_cons_self),
        scanRefs_of_plain rest fs (out ++ [c]) (fun g hg => hplain g (List.mem_cons_of_mem f hg)) hrest]
      simp
    · cases hg : groupCloser? c with
      | some cl =>
        rw [scanRefs_open_group eval hs ho hg, scanRefs_of_plain rest _ (out ++ [c]) ?_ hrest]
        · simp
        · intro g hg'
          rcases List.mem_cons.mp hg' with rfl | hg'
          · rfl
          · exact hplain g hg'
      | none =>
        rw [scanRefs_char eval hs ho hg, scanRefs_of_plain rest stack (out ++ [c]) hplain hrest]
        simp

/-- Scanning a whole text, from an empty stack and output, is evaluating its pieces. -/
theorem scanRefs_start_eq_evalPieces [LawfulMonad m] (cs : List Char) :
    scanRefs eval [] [] cs = evalPieces eval (readPieces none cs).pieces := by
  have hscan := scanRefs_readPieces eval none cs [] [] rfl
  rw [readPieces_none_rest] at hscan
  simpa only [List.nil_append, scanRefs_nil, bind_pure] using hscan

/-- **Expanding references is evaluating the recursive reading.** For every evaluator in every
lawful monad, expanding a text gives the text of its pieces, evaluated from the inside out and
from left to right: the same text, and the same evaluations in the same order. A text without
`$` comes back as it is, with nothing evaluated. -/
theorem expandRefs_eq_evalPieces [LawfulMonad m] (text : String) :
    expandRefs eval text =
      String.ofList <$> evalPieces eval (readPieces none text.toList).pieces := by
  have hscan := scanRefs_start_eq_evalPieces eval text.toList
  unfold expandRefs
  split
  · rw [hscan]
    simp
  · rename_i h
    have hplain := scanRefs_of_plain eval text.toList [] [] (by simp) (by simpa using h)
    rw [← hscan, hplain]
    simp

end Scan

/-- An evaluator that records each line it is given and returns it. -/
def recordLine (line : String) : StateM (List String) String := do
  modify (· ++ [line])
  pure line

theorem expandRefs_recorded_reading :
    LawfulMonad (StateM (List String)) ∧
      expandRefs recordLine "$(a)-$(b $[c])" =
        String.ofList <$> evalPieces recordLine (readPieces none "$(a)-$(b $[c])".toList).pieces :=
  ⟨inferInstance, expandRefs_eq_evalPieces recordLine _⟩

end Chatbot.Template
