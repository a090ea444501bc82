import Chatbot.Shell.Tools
import Chatbot.Shell.Posix

/-!
# `expr`

`expr` evaluates the expression its arguments spell, one token an argument, and prints the
value. From the loosest to the tightest binding:

* `A | B` — `A` unless it is null (empty or zero), else `B`, else `0`;
* `A & B` — `A` unless either is null, else `0`;
* `A < B`, `<=`, `=` (or `==`), `!=`, `>=`, `>` — `1` or `0`, comparing as integers when both
  are integers and as bytes otherwise;
* `A + B`, `A - B`, then `A * B`, `A / B`, `A % B` — integers of any size, division truncating;
* `A : RE` — the basic regular expression `RE` matched at the start of `A`: the text of the
  first group, or the length of the match when there is no group;
* `match A RE`, `substr S POS LEN`, `index S CHARS`, `length S`, and `+ TOKEN` for a token
  read as a string;
* `( A )` and single tokens.

`|` and `&` do not evaluate a side whose value cannot matter, so an error there is not
raised. The exit status is `1` when the value is null, `0` otherwise, and `2` for an invalid
expression, with a message such as `expr: syntax error: unexpected argument 'x'` or
`expr: non-integer argument`.
-/

namespace Chatbot.Shell

/-- A value of `expr`: a number or a string. -/
inductive ExprValue where
  /-- An integer. -/
  | num (n : Int)
  /-- A string. -/
  | text (s : Bytes)
  deriving DecidableEq, Repr

/-- The bytes `expr` prints for a value. -/
def ExprValue.bytes : ExprValue → Bytes
  | .num n => bytesOf (toString n)
  | .text s => s

/-- Whether bytes are an integer as `expr` reads one: an optional `-`, then decimal digits. -/
def looksLikeInteger (s : Bytes) : Bool :=
  let body := match s with
    | 0x2D :: r => r
    | r => r
  !body.isEmpty && body.all fun b => 0x30 ≤ b && b ≤ 0x39

/-- The integer of bytes that look like one. -/
def integerOfBytes (s : Bytes) : Int :=
  match s with
  | 0x2D :: r => -((r.foldl (fun v b => 10 * v + (b - 0x30).toNat) 0 : Nat) : Int)
  | r => ((r.foldl (fun v b => 10 * v + (b - 0x30).toNat) 0 : Nat) : Int)

/-- A value as an integer, when it is one. -/
def ExprValue.toInt? : ExprValue → Option Int
  | .num n => some n
  | .text s => if looksLikeInteger s then some (integerOfBytes s) else none

/-- Whether a value is null: the number zero, the empty string, or a string of zeros with an
optional `-`. -/
def ExprValue.isNull : ExprValue → Bool
  | .num n => n == 0
  | .text s =>
    s.isEmpty ||
      (let body := match s with
        | 0x2D :: r => r
        | r => r
       !body.isEmpty && body.all (· = 0x30))

/-- Compare bytes, byte by byte. -/
def compareBytes : Bytes → Bytes → Ordering
  | [], [] => .eq
  | [], _ :: _ => .lt
  | _ :: _, [] => .gt
  | a :: as, b :: bs => if a < b then .lt else if b < a then .gt else compareBytes as bs

/-- Compare two values: as integers when both are, as bytes otherwise. -/
def compareValues (l r : ExprValue) : Ordering :=
  let a := l.bytes
  let b := r.bytes
  if looksLikeInteger a && looksLikeInteger b then compare (integerOfBytes a) (integerOfBytes b)
  else compareBytes a b

/-- `A : RE`: the first group's text, or the length of the match, at the start of `A`. -/
def colonMatch (l r : ExprValue) : Except Bytes ExprValue :=
  match parseRx r.bytes false false with
  | .error e => .error (rawOf e)
  | .ok rx =>
    let subject := l.bytes
    let grouped := rx.groupCount > 0
    match longestFrom (rx.run subject.toArray false 0 noCaps) with
    | some (stop, caps) =>
      if grouped then
        match caps[0]? with
        | some (some (a, b)) => .ok (.text ((subject.drop a).take (b - a)))
        | _ => .ok (.text [])
      else .ok (.num stop)
    | none => .ok (if grouped then .text [] else .num 0)

/-- The largest size, standing for a position or length out of range. -/
def sizeLimit : Nat := Nat.pow 2 64 - 1

/-- A position or length as `substr` takes it: a negative one is out of range. -/
def sizeOf (n : Int) : Nat :=
  if n < 0 then sizeLimit else if n.toNat < sizeLimit then n.toNat else sizeLimit - 1

/-- `substr S POS LEN`: up to `LEN` bytes of `S` from the `POS`-th, counting from one. -/
def substrOf (s : Bytes) (pos len : Option Int) : Bytes :=
  match pos, len with
  | some p, some n =>
    let p := sizeOf p
    let n := sizeOf n
    if s.length < p || p = 0 || n = 0 || n = sizeLimit then []
    else (s.drop (p - 1)).take (min n (s.length - p + 1))
  | _, _ => []

/-- `index S CHARS`: the place, counting from one, of the first byte of `S` in `CHARS`, or
zero. -/
def indexOf (s chars : Bytes) : Nat :=
  match s.findIdx? (chars.contains ·) with
  | some i => i + 1
  | none => 0

/-- The arguments of `expr` as they are read: the last one taken and those left. -/
structure ExprArgs where
  /-- The argument taken last. -/
  prev : Bytes := []
  /-- The arguments not yet taken. -/
  rest : List Bytes
  deriving Repr

/-- Reading an expression: failing with the message of an invalid one. -/
abbrev ExprRead := StateT ExprArgs (Except Bytes)

/-- An argument quoted for a message, between curly single quotes. -/
def quoteArg (a : Bytes) : Bytes := [0xE2, 0x80, 0x98] ++ a ++ [0xE2, 0x80, 0x99]

/-- Take the next argument if it is the word. -/
def takeWord (word : String) : ExprRead Bool := do
  let st ← get
  match st.rest with
  | a :: rest =>
    if a = bytesOf word then
      set ({ prev := a, rest } : ExprArgs)
      return true
    else return false
  | [] => return false

/-- Take the next argument, which must be there. -/
def takeArg : ExprRead Bytes := do
  let st ← get
  match st.rest with
  | a :: rest =>
    set ({ prev := a, rest } : ExprArgs)
    return a
  | [] => throw (bytesOf "syntax error: missing argument after " ++ quoteArg st.prev)

/-- Take the first of the words that comes next, if one does. -/
def takeOneOf : List String → ExprRead (Option String)
  | [] => return none
  | w :: ws => do
    if ← takeWord w then return some w else takeOneOf ws

/-- Fail unless the result is there. -/
def liftResult (r : Except Bytes ExprValue) : ExprRead ExprValue :=
  match r with
  | .ok v => pure v
  | .error e => throw e

/-- Evaluate the expression at a level of binding (`0` loosest, `7` the tokens), evaluating
only when `eval` is set. The fuel bounds the depth, which the arguments bound. -/
def evalLevel : Nat → Nat → Bool → ExprRead ExprValue
  | 0, _, _ => throw (bytesOf "expression too deep")
  | fuel + 1, level, eval => do
    let rounds := (← get).rest.length
    match level with
    | 0 =>
      let mut l ← evalLevel fuel 1 eval
      for _ in List.range rounds do
        if ← takeWord "|" then
          let r ← evalLevel fuel 1 (eval && l.isNull)
          if l.isNull then l := if r.isNull then .num 0 else r
        else break
      return l
    | 1 =>
      let mut l ← evalLevel fuel 2 eval
      for _ in List.range rounds do
        if ← takeWord "&" then
          let r ← evalLevel fuel 2 (eval && !l.isNull)
          if l.isNull || r.isNull then l := .num 0
        else break
      return l
    | 2 =>
      let mut l ← evalLevel fuel 3 eval
      for _ in List.range rounds do
        match ← takeOneOf ["<", "<=", "=", "==", "!=", ">=", ">"] with
        | none => break
        | some op =>
          let r ← evalLevel fuel 3 eval
          let c := compareValues l r
          let holds := eval && match op with
            | "<" => c == .lt
            | "<=" => c != .gt
            | "=" | "==" => c == .eq
            | "!=" => c != .eq
            | ">=" => c != .lt
            | _ => c == .gt
          l := .num (if holds then 1 else 0)
      return l
    | 3 =>
      let mut l ← evalLevel fuel 4 eval
      for _ in List.range rounds do
        match ← takeOneOf ["+", "-"] with
        | none => break
        | some op =>
          let r ← evalLevel fuel 4 eval
          if eval then
            match l.toInt?, r.toInt? with
            | some a, some b => l := .num (if op = "+" then a + b else a - b)
            | _, _ => throw (bytesOf "non-integer argument")
      return l
    | 4 =>
      let mut l ← evalLevel fuel 5 eval
      for _ in List.range rounds do
        match ← takeOneOf ["*", "/", "%"] with
        | none => break
        | some op =>
          let r ← evalLevel fuel 5 eval
          if eval then
            match l.toInt?, r.toInt? with
            | some a, some b =>
              if op != "*" && b = 0 then throw (bytesOf "division by zero")
              l := .num (if op = "*" then a * b else if op = "/" then a.tdiv b else a.tmod b)
            | _, _ => throw (bytesOf "non-integer argument")
      return l
    | 5 =>
      let mut l ← evalLevel fuel 6 eval
      for _ in List.range rounds do
        if ← takeWord ":" then
          let r ← evalLevel fuel 6 eval
          if eval then l ← liftResult (colonMatch l r)
        else break
      return l
    | 6 =>
      if ← takeWord "+" then return .text (← takeArg)
      else if ← takeWord "length" then
        let s ← evalLevel fuel 6 eval
        return .num s.bytes.length
      else if ← takeWord "match" then
        let l ← evalLevel fuel 6 eval
        let r ← evalLevel fuel 6 eval
        if eval then liftResult (colonMatch l r) else return l
      else if ← takeWord "index" then
        let l ← evalLevel fuel 6 eval
        let r ← evalLevel fuel 6 eval
        return .num (indexOf l.bytes r.bytes)
      else if ← takeWord "substr" then
        let s ← evalLevel fuel 6 eval
        let p ← evalLevel fuel 6 eval
        let n ← evalLevel fuel 6 eval
        return .text (substrOf s.bytes p.toInt? n.toInt?)
      else evalLevel fuel 7 eval
    | _ =>
      let st ← get
      if st.rest.isEmpty then
        throw (bytesOf "syntax error: missing argument after " ++ quoteArg st.prev)
      if ← takeWord "(" then
        let v ← evalLevel fuel 0 eval
        if ← takeWord ")" then return v
        let st ← get
        match st.rest with
        | [] => throw (bytesOf "syntax error: expecting ')' after " ++ quoteArg st.prev)
        | a :: _ => throw (bytesOf "syntax error: expecting ')' instead of " ++ quoteArg a)
      if ← takeWord ")" then throw (bytesOf "syntax error: unexpected ')'")
      return .text (← takeArg)

/-- `expr`: print the value of the expression; status `1` when it is null, `2` when it is
invalid. -/
def exprTool (args : List Bytes) : ToolRun :=
  let args := if args.head? = some (bytesOf "--") then args.tail else args
  if args.isEmpty then
    ToolRun.failureWith "expr: missing operand\nTry 'expr --help' for more information." 2
  else
    let fail (e : Bytes) : ToolRun := { err := bytesOf "expr: " ++ e ++ [0x0A], status := 2 }
    match (evalLevel (8 * args.length + 16) 0 true).run { rest := args } with
    | .error e => fail e
    | .ok (v, st) =>
      match st.rest with
      | a :: _ => fail (bytesOf "syntax error: unexpected argument " ++ quoteArg a)
      | [] => { out := v.bytes ++ [0x0A], status := if v.isNull then 1 else 0 }

end Chatbot.Shell
