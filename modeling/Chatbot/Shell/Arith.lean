/-!
# Shell arithmetic

The text of `$((…))`, after its expansions, is an expression over 64-bit signed integers in
the syntax of C: numbers (decimal, `0x` hexadecimal, `0` octal), variable names, unary
`+ - ! ~`, the binary operators from `*` down to `||` with C's precedences, the conditional
`?:`, and the assignments `=`, `+=`, `-=`, … to a variable. A variable that is unset or empty
counts as 0; any other value must be a number.

Reading and evaluating go together. The operand that `&&`, `||` or `?:` does not need is
read but not evaluated: it neither assigns nor divides by zero. Results wrap around as
64-bit integers do; division and remainder truncate toward zero; a shift counts its distance
modulo 64. A number too large for 64 bits is held at the largest one, but a variable whose
value is out of range is an error.

Errors are the shell's: `arithmetic expression: expecting primary: "…"`,
`… expecting EOF: "…"`, `… division by zero: "…"` with the expression's text, and
`Illegal number: …` for a variable that holds no number.
-/

namespace Chatbot.Shell

/-- A token of an arithmetic expression. -/
inductive ArithToken where
  /-- A number. -/
  | num (n : Int)
  /-- A variable name. -/
  | var (name : String)
  /-- An operator or bracket. -/
  | op (s : String)
  deriving DecidableEq, Repr

/-- Wrap an integer to 64-bit two's complement. -/
def wrap64 (x : Int) : Int :=
  let m : Int := Nat.pow 2 64
  let h : Int := Nat.pow 2 63
  (x + h) % m - h

/-- The 64 bits of an integer. -/
def bitsOf (x : Int) : UInt64 := UInt64.ofNat (x % (Nat.pow 2 64 : Int)).toNat

/-- The integer of 64 bits, read as two's complement. -/
def ofBits (u : UInt64) : Int := wrap64 u.toNat

/-- The value of a digit in base 16, if it is one. -/
def digitValue16 (c : Char) : Option Nat :=
  if c.isDigit then some (c.toNat - '0'.toNat)
  else if 'a' ≤ c ∧ c ≤ 'f' then some (c.toNat - 'a'.toNat + 10)
  else if 'A' ≤ c ∧ c ≤ 'F' then some (c.toNat - 'A'.toNat + 10)
  else none

/-- The largest 64-bit signed integer. -/
def intMax : Int := Nat.pow 2 63 - 1

/-- Read the digits of a base at the start of a text: their value and how many. -/
def leadingDigits (base : Nat) : List Char → Nat × Nat
  | [] => (0, 0)
  | c :: cs =>
    match digitValue16 c with
    | some d =>
      if d < base then
        let (v, n) := leadingDigits base cs
        (d * Nat.pow base n + v, n + 1)
      else (0, 0)
    | none => (0, 0)

/-- Read an integer at the start of a text as C's `strtoimax` with base detection does: blanks,
a sign, then `0x` and hexadecimal digits, `0b` and binary digits, `0` and octal digits, or
decimal digits. The value
is held at the 64-bit limits, with a flag when it had to be; the count says how many
characters were read (0 when there is no number). -/
def readCPrefix (s : List Char) : Int × Nat × Bool :=
  let lead := (s.takeWhile fun c => c = ' ' ∨ ('\t' ≤ c ∧ c ≤ '\r')).length
  let t := s.drop lead
  let (neg, signLen, t) := match t with
    | '-' :: r => (true, 1, r)
    | '+' :: r => (false, 1, r)
    | r => (false, 0, r)
  let (v, n) : Nat × Nat := match t with
    | '0' :: x :: r =>
      if x = 'x' ∨ x = 'X' then
        let (v, k) := leadingDigits 16 r
        if k = 0 then (0, 1) else (v, k + 2)
      else if x = 'b' ∨ x = 'B' then
        let (v, k) := leadingDigits 2 r
        if k = 0 then (0, 1) else (v, k + 2)
      else
        let (v, k) := leadingDigits 8 (x :: r)
        (v, k + 1)
    | r => leadingDigits 10 r
  if n = 0 then (0, 0, false)
  else
    let x : Int := if neg then -(v : Int) else v
    let held := max (-intMax - 1) (min intMax x)
    (held, lead + signLen + n, held != x)

/-- The number a whole text writes, as the shell reads a variable's value: `strtoimax`, then
only blanks. An empty text is zero; `none` when the text is no number or out of range. -/
def readCNumber (s : List Char) : Option Int :=
  let (v, n, overflow) := readCPrefix s
  let rest := s.drop n
  if overflow || !rest.all (fun c => c = ' ' ∨ ('\t' ≤ c ∧ c ≤ '\r')) then none
  else if n = 0 && !s.all (fun c => c = ' ' ∨ ('\t' ≤ c ∧ c ≤ '\r')) then none
  else some v

/-- Split an expression into tokens. A number is read as `strtoimax` reads it, held at the
64-bit limits, and what follows it starts the next token. With `power`, `**` is one token,
the power operator. -/
def arithTokens (power : Bool) : Nat → List Char → List ArithToken
  | 0, _ => []
  | _, [] => []
  | fuel + 1, c :: cs =>
    if c = ' ' ∨ c = '\t' ∨ c = '\n' then arithTokens power fuel cs
    else if c.isDigit then
      let (v, n, _) := readCPrefix (c :: cs)
      .num v :: arithTokens power fuel ((c :: cs).drop (max n 1))
    else if c.isAlpha || c = '_' then
      let word := (c :: cs).takeWhile fun d => d.isAlphanum || d = '_'
      .var (String.ofList word) :: arithTokens power fuel ((c :: cs).drop word.length)
    else
      let ops := (if power then ["**=", "**"] else []) ++ ["<<=", ">>=", "<<", ">>", "<=", ">=",
        "==", "!=", "&&", "||", "+=", "-=", "*=", "/=", "%=", "&=", "^=", "|="]
      match ops.find? fun o => o.toList.isPrefixOf (c :: cs) with
      | some o => .op o :: arithTokens power fuel ((c :: cs).drop o.length)
      | none => .op (String.singleton c) :: arithTokens power fuel cs

/-- The state of evaluation: tokens left, variables assigned so far (latest first), and the
first error. -/
structure ArithState where
  /-- The tokens not yet read. -/
  tokens : List ArithToken
  /-- Assignments made, latest first. -/
  assigned : List (String × Int) := []

/-- Evaluation, which may fail with a message. -/
abbrev ArithM := StateT ArithState (Except String)

/-- The binary operators by level, loosest first, from `||` to `*`. -/
def binaryLevels : List (List String) :=
  [["||"], ["&&"], ["|"], ["^"], ["&"], ["==", "!="], ["<", ">", "<=", ">="], ["<<", ">>"],
   ["+", "-"], ["*", "/", "%"]]

/-- `b` to the power `e`, wrapped to 64 bits: by squaring, a bit of the exponent at a time. -/
def powWrap (b : Int) (e : Nat) : Int :=
  go 64 (bitsOf b) e 1
where
  /-- Multiply `acc` by `b` to the power `e`. -/
  go : Nat → UInt64 → Nat → UInt64 → Int
    | 0, _, _, acc => ofBits acc
    | fuel + 1, b, e, acc =>
      if e = 0 then ofBits acc
      else go fuel (b * b) (e / 2) (if e % 2 = 1 then acc * b else acc)

/-- The result of a binary operator; `none` for a division by zero or a negative power. -/
def applyBinary (op : String) (a b : Int) : Option Int :=
  let flag (p : Bool) : Int := if p then 1 else 0
  match op with
  | "||" => some (flag (a != 0 || b != 0))
  | "&&" => some (flag (a != 0 && b != 0))
  | "|" => some (ofBits (bitsOf a ||| bitsOf b))
  | "^" => some (ofBits (bitsOf a ^^^ bitsOf b))
  | "&" => some (ofBits (bitsOf a &&& bitsOf b))
  | "==" => some (flag (a == b))
  | "!=" => some (flag (a != b))
  | "<" => some (flag (a < b))
  | ">" => some (flag (a > b))
  | "<=" => some (flag (a ≤ b))
  | ">=" => some (flag (a ≥ b))
  | "<<" => some (wrap64 (a * (Nat.pow 2 (b % 64).toNat : Int)))
  | ">>" => some (a >>> (b % 64).toNat)
  | "+" => some (wrap64 (a + b))
  | "-" => some (wrap64 (a - b))
  | "*" => some (wrap64 (a * b))
  | "/" => if b = 0 then none else some (wrap64 (a.tdiv b))
  | "%" => if b = 0 then none else some (wrap64 (a.tmod b))
  | "**" => if b < 0 then none else some (powWrap a b.toNat)
  | _ => some 0

section Eval

variable (lookup : String → Option String) (text : String)

/-- Fail with the shell's message for this expression. -/
def arithFail {α : Type} (what : String) : ArithM α :=
  throw s!"arithmetic expression: {what}: \"{text}\""

/-- The next token. -/
def arithPeek : ArithM (Option ArithToken) := return (← get).tokens.head?

/-- Drop the next token. -/
def arithSkip : ArithM Unit := modify fun st => { st with tokens := st.tokens.drop 1 }

/-- The current value of a variable. -/
def varValue (name : String) : ArithM Int := do
  match (← get).assigned.find? fun e => e.1 = name with
  | some (_, v) => return v
  | none =>
    match lookup name with
    | none => return 0
    | some "" => return 0
    | some s =>
      match readCNumber s.toList with
      | some v => return v
      | none => throw s!"Illegal number: {s}"

mutual

/-- Read and evaluate an assignment or conditional; `live` is false in an operand that is
not needed. -/
def evalAssign : Nat → Bool → ArithM Int
  | 0, _ => arithFail text "expecting primary"
  | fuel + 1, live => do
    let st ← get
    match st.tokens with
    | .var name :: .op o :: _ =>
      if ["=", "+=", "-=", "*=", "/=", "%=", "<<=", ">>=", "&=", "^=", "|=", "**="].contains o then
        arithSkip
        arithSkip
        let rhs ← evalAssign fuel live
        if !live then return 0
        let v ← if o = "=" then pure rhs else do
          let old ← varValue lookup name
          match applyBinary (o.dropEnd 1).toString old rhs with
          | some v => pure v
          | none => arithFail text (if o = "**=" then "exponent less than 0" else "division by zero")
        modify fun st => { st with assigned := (name, v) :: st.assigned }
        return v
      else evalCond fuel live
    | _ => evalCond fuel live

/-- Read and evaluate a conditional `c ? a : b`. -/
def evalCond : Nat → Bool → ArithM Int
  | 0, _ => arithFail text "expecting primary"
  | fuel + 1, live => do
    let c ← evalBinary fuel 0 live
    if (← arithPeek) = some (.op "?") then
      arithSkip
      let a ← evalAssign fuel (live && c != 0)
      if (← arithPeek) != some (.op ":") then arithFail text "expecting ':'"
      arithSkip
      let b ← evalCond fuel (live && c == 0)
      return if c != 0 then a else b
    return c

/-- Read and evaluate operators from level `level` down. -/
def evalBinary : Nat → Nat → Bool → ArithM Int
  | 0, _, _ => arithFail text "expecting primary"
  | fuel + 1, level, live => do
    match binaryLevels[level]? with
    | none => evalPower fuel live
    | some ops =>
      let first ← evalBinary fuel (level + 1) live
      evalBinaryMore fuel level ops live first

/-- Continue a level after its left operand `acc`. -/
def evalBinaryMore : Nat → Nat → List String → Bool → Int → ArithM Int
  | 0, _, _, _, acc => pure acc
  | fuel + 1, level, ops, live, acc => do
    match ← arithPeek with
    | some (.op o) =>
      if ops.contains o then
        arithSkip
        let needed := if o = "&&" then acc != 0 else if o = "||" then acc == 0 else true
        let b ← evalBinary fuel (level + 1) (live && needed)
        if !live then return ← evalBinaryMore fuel level ops live 0
        let v ← if !needed then pure (if o = "&&" then 0 else 1) else
          match applyBinary o acc b with
          | some v => pure v
          | none => arithFail text "division by zero"
        evalBinaryMore fuel level ops live v
      else pure acc
    | _ => pure acc

/-- Read and evaluate a power `a ** b`, which groups to the right and binds less tightly
than a unary operator. -/
def evalPower : Nat → Bool → ArithM Int
  | 0, _ => arithFail text "expecting primary"
  | fuel + 1, live => do
    let a ← evalUnary fuel live
    if (← arithPeek) = some (.op "**") then
      arithSkip
      let b ← evalPower fuel live
      if !live then return 0
      match applyBinary "**" a b with
      | some v => return v
      | none => arithFail text "exponent less than 0"
    return a

/-- Read and evaluate a unary operator or a primary. -/
def evalUnary : Nat → Bool → ArithM Int
  | 0, _ => arithFail text "expecting primary"
  | fuel + 1, live => do
    match ← arithPeek with
    | some (.op "-") =>
      arithSkip
      return wrap64 (-(← evalUnary fuel live))
    | some (.op "+") =>
      arithSkip
      evalUnary fuel live
    | some (.op "!") =>
      arithSkip
      return if (← evalUnary fuel live) == 0 then 1 else 0
    | some (.op "~") =>
      arithSkip
      return wrap64 (-(← evalUnary fuel live) - 1)
    | some (.op "(") =>
      arithSkip
      let v ← evalAssign fuel live
      if (← arithPeek) != some (.op ")") then arithFail text "expecting ')'"
      arithSkip
      return v
    | some (.num n) =>
      arithSkip
      return n
    | some (.var name) =>
      arithSkip
      if live then varValue lookup name else return 0
    | _ => arithFail text "expecting primary"

end

end Eval

/-- Evaluate an expression text, with variables read from `lookup`: its value and the
assignments it made (latest first), or the error message. With `power`, `**` raises to a
power. -/
def evalArithWith (power : Bool) (lookup : String → Option String) (text : String) :
    Except String (Int × List (String × Int)) :=
  let tokens := arithTokens power (text.length + 1) text.toList
  let fuel := 20 * (tokens.length + 1)
  let run : ArithM Int := do
    let v ← evalAssign lookup text fuel true
    if (← get).tokens.isEmpty then return v
    arithFail text "expecting EOF"
  match run.run { tokens } with
  | .ok (v, st) => .ok (v, st.assigned)
  | .error e => .error e

/-- Evaluate an expression text as `evalArithWith` does, without the power operator. -/
def evalArith (lookup : String → Option String) (text : String) :
    Except String (Int × List (String × Int)) :=
  evalArithWith false lookup text

end Chatbot.Shell
