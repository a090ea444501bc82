import Chatbot.Json.Value

/-!
# JSON text

Reading JSON text into values, keeping what a typed reader needs: object members in the order
they are written, and numbers as they were written. A number without a fraction or an
exponent is an integer when it fits in 64 bits (from `-2^63` to `2^64 - 1`); every other
number is a floating-point number, kept exactly as its sign, digits and power of ten, so that
`-0.0` stays negative and `1e2` stays a floating-point number.

Strings take the escapes `\"`, `\\`, `\/`, `\b`, `\f`, `\n`, `\r`, `\t` and `\uXXXX`, a pair
of surrogates making one character.
-/

namespace Chatbot.Json

/-- Reading JSON text: the characters left, failing with a message. -/
abbrev TextRead := StateT (List Char) (Except String)

/-- Skip white space. -/
def skipWhite : TextRead Unit :=
  modify fun cs => cs.dropWhile fun c => c = ' ' || c = '\t' || c = '\n' || c = '\r'

/-- The value of four hexadecimal digits, and the rest. -/
def readHex4 (cs : List Char) : Option (Nat × List Char) :=
  let ds := cs.take 4
  if ds.length = 4 && ds.all Char.isHexDigit then
    some (ds.foldl (fun v c =>
      16 * v + (if c.isDigit then c.toNat - 48 else (c.toLower.toNat - 87))) 0, cs.drop 4)
  else none

/-- The characters of a string up to its closing quote, reversed onto `acc`, and the rest. -/
def readStringChars : Nat → List Char → List Char → Except String (String × List Char)
  | 0, _, _ => .error "unterminated string"
  | _, _, [] => .error "unterminated string"
  | fuel + 1, acc, c :: rest =>
    if c = '"' then .ok (String.ofList acc.reverse, rest)
    else if c = '\\' then
      match rest with
      | 'u' :: more =>
        match readHex4 more with
        | none => .error "invalid escape"
        | some (hi, after) =>
          if 0xD800 ≤ hi && hi < 0xDC00 then
            match after with
            | '\\' :: 'u' :: more2 =>
              match readHex4 more2 with
              | some (lo, after2) =>
                if 0xDC00 ≤ lo && lo < 0xE000 then
                  let code := 0x10000 + (hi - 0xD800) * 0x400 + (lo - 0xDC00)
                  readStringChars fuel (Char.ofNat code :: acc) after2
                else readStringChars fuel ('�' :: acc) after
              | none => .error "invalid escape"
            | _ => readStringChars fuel ('�' :: acc) after
          else if 0xDC00 ≤ hi && hi < 0xE000 then readStringChars fuel ('�' :: acc) after
          else readStringChars fuel (Char.ofNat hi :: acc) after
      | e :: more =>
        let plain : Option Char := match e with
          | '"' => some '"'
          | '\\' => some '\\'
          | '/' => some '/'
          | 'b' => some '\x08'
          | 'f' => some '\x0c'
          | 'n' => some '\n'
          | 'r' => some '\r'
          | 't' => some '\t'
          | _ => none
        match plain with
        | some p => readStringChars fuel (p :: acc) more
        | none => .error "invalid escape"
      | [] => .error "unterminated string"
    else if c.toNat < 0x20 then .error "control character in string"
    else readStringChars fuel (c :: acc) rest

/-- Read a string after its opening quote. -/
def readStringText : TextRead String := do
  let cs ← get
  match readStringChars (cs.length + 1) [] cs with
  | .ok (s, rest) =>
    set rest
    return s
  | .error e => throw e

/-- The value of decimal digits. -/
def digitsValue (ds : List Char) : Nat := ds.foldl (fun v c => 10 * v + (c.toNat - 48)) 0

/-- Read a number. -/
def readNumberText : TextRead Number := do
  let cs ← get
  let (negative, cs) := match cs with
    | '-' :: r => (true, r)
    | r => (false, r)
  let whole := cs.takeWhile Char.isDigit
  if whole.isEmpty then throw "invalid number"
  if whole.length > 1 && whole.head? = some '0' then throw "invalid number"
  let cs := cs.drop whole.length
  let (frac, cs) ← match cs with
    | '.' :: r =>
      let f := r.takeWhile Char.isDigit
      if f.isEmpty then throw "invalid number" else pure (some f, r.drop f.length)
    | r => pure (none, r)
  let (expo, cs) ← match cs with
    | c :: r =>
      if c = 'e' || c = 'E' then
        let (eneg, r) := match r with
          | '-' :: r' => (true, r')
          | '+' :: r' => (false, r')
          | r' => (false, r')
        let ds := r.takeWhile Char.isDigit
        if ds.isEmpty then throw "invalid number"
        let v : Int := digitsValue ds
        pure (some (if eneg then -v else v), r.drop ds.length)
      else pure (none, c :: r)
    | [] => pure (none, [])
  set cs
  match frac, expo with
  | none, none =>
    let v : Int := digitsValue whole
    let i := if negative then -v else v
    if isWordInt i then return .int i else return .float negative v.toNat 0
  | _, _ =>
    let f := frac.getD []
    return .float negative (digitsValue (whole ++ f)) (expo.getD 0 - f.length)

/-- Read a value; the fuel bounds the nesting. -/
def readJsonValue : Nat → TextRead Value
  | 0 => throw "nesting too deep"
  | fuel + 1 => do
    skipWhite
    match ← get with
    | 'n' :: 'u' :: 'l' :: 'l' :: rest =>
      set rest
      return .null
    | 't' :: 'r' :: 'u' :: 'e' :: rest =>
      set rest
      return .bool true
    | 'f' :: 'a' :: 'l' :: 's' :: 'e' :: rest =>
      set rest
      return .bool false
    | '"' :: rest =>
      set rest
      return .str (← readStringText)
    | '[' :: rest =>
      set rest
      skipWhite
      if (← get).head? = some ']' then
        modify List.tail
        return .arr []
      let mut items : List Value := []
      for _ in List.range ((← get).length + 1) do
        let v ← readJsonValue fuel
        items := items ++ [v]
        skipWhite
        match ← get with
        | ',' :: more => set more
        | ']' :: more =>
          set more
          return .arr items
        | _ => throw "expected a comma or the end of the array"
      throw "unterminated array"
    | '\x7b' :: rest =>
      set rest
      skipWhite
      if (← get).head? = some '\x7d' then
        modify List.tail
        return .obj []
      let mut members : List (String × Value) := []
      for _ in List.range ((← get).length + 1) do
        skipWhite
        match ← get with
        | '"' :: more => set more
        | _ => throw "expected a key"
        let k ← readStringText
        skipWhite
        match ← get with
        | ':' :: more => set more
        | _ => throw "expected a colon"
        let v ← readJsonValue fuel
        members := members ++ [(k, v)]
        skipWhite
        match ← get with
        | ',' :: more => set more
        | '\x7d' :: more =>
          set more
          return .obj members
        | _ => throw "expected a comma or the end of the object"
      throw "unterminated object"
    | c :: _ =>
      if c = '-' || c.isDigit then return .num (← readNumberText)
      else throw "expected a value"
    | [] => throw "expected a value"

/-- Read JSON text that holds one value and nothing after it but white space. -/
def readJsonText (text : String) : Except String Value :=
  let cs := text.toList
  match (do
      let v ← readJsonValue (cs.length + 2)
      skipWhite
      if !(← get).isEmpty then throw "trailing characters"
      return v).run cs with
  | .ok (v, _) => .ok v
  | .error e => .error e

/-- The member of an object value with a key, or nothing for other values. -/
def Value.member (j : Value) (k : String) : Option Value :=
  match j with
  | .obj kvs => lookupMember kvs k
  | _ => none

end Chatbot.Json
