import Chatbot.Shell.Tools

/-!
# Base64 and base32

`base64` writes its input in the alphabet `A`–`Z`, `a`–`z`, `0`–`9`, `+`, `/`: every three
bytes become four characters, and a last group of one or two bytes is padded with `=`.
`base32` writes it in the alphabet `A`–`Z`, `2`–`7`: every five bytes become eight characters,
a last shorter group padded with `=` likewise. The text is broken into lines of 76 characters
(`-w`, where `0` means one line), each ended by a line feed.

`-d` reads such text back a group at a time, skipping line feeds (`-i`: skipping every byte
outside the alphabet). A group padded with `=` may be followed by another. Text that is not of
the alphabet ends the reading with `invalid input` and status 1, after the bytes read before
it, those of the bad group included as far as it went.
-/

namespace Chatbot.Shell

/-- An encoding of bytes as text: its name, its alphabet, and how many bytes a group of
characters holds. -/
structure RadixCodec where
  /-- The name of the tool. -/
  name : String
  /-- The characters, by value. -/
  alphabet : List UInt8
  /-- The bits a character holds. -/
  bits : Nat
  /-- The bytes of a whole group. -/
  groupBytes : Nat
  deriving DecidableEq, Repr

/-- The base64 encoding. -/
def base64Codec : RadixCodec :=
  { name := "base64", bits := 6, groupBytes := 3,
    alphabet := bytesOf "ABCDEFGHIJKLMNOPQRSTUVWXYZabcdefghijklmnopqrstuvwxyz0123456789+/" }

/-- The base32 encoding. -/
def base32Codec : RadixCodec :=
  { name := "base32", bits := 5, groupBytes := 5,
    alphabet := bytesOf "ABCDEFGHIJKLMNOPQRSTUVWXYZ234567" }

/-- The characters of a whole group. -/
def RadixCodec.groupChars (c : RadixCodec) : Nat := c.groupBytes * 8 / c.bits

/-- The value of a character of the alphabet. -/
def RadixCodec.value (c : RadixCodec) (ch : UInt8) : Option Nat := c.alphabet.idxOf? ch

/-- Encode one group of at most `groupBytes` bytes: the characters that hold its bits, then
`=` up to the group's length. -/
def RadixCodec.encodeGroup (c : RadixCodec) (group : Bytes) : Bytes :=
  let v := group.foldl (fun acc b => acc * 256 + b.toNat) 0 * Nat.pow 256 (c.groupBytes - group.length)
  let used := (group.length * 8 + c.bits - 1) / c.bits
  let chars := (List.range used).map fun i =>
    c.alphabet.getD (v / Nat.pow 2 (c.groupBytes * 8 - (i + 1) * c.bits) % Nat.pow 2 c.bits) 0x41
  chars ++ List.replicate (c.groupChars - used) 0x3D

/-- Encode bytes, a group at a time. -/
def RadixCodec.encode (c : RadixCodec) : Nat → Bytes → Bytes
  | 0, _ => []
  | _, [] => []
  | fuel + 1, bs => c.encodeGroup (bs.take c.groupBytes) ++ c.encode fuel (bs.drop c.groupBytes)

/-- Encode bytes as base64. -/
def encodeBase64 (bs : Bytes) : Bytes := base64Codec.encode (bs.length + 1) bs

/-- Pieces of a width, the last perhaps shorter. -/
def chunksOf (width : Nat) : Nat → Bytes → List Bytes
  | 0, _ => []
  | _, [] => []
  | fuel + 1, text => text.take width :: chunksOf width fuel (text.drop width)

/-- Break text into lines of a width (`0`: one line), each ended by a line feed. -/
def wrapLines (width : Nat) (text : Bytes) : Bytes :=
  if text.isEmpty then []
  else if width = 0 then text ++ [0x0A]
  else (chunksOf width (text.length + 1) text).flatMap (· ++ [0x0A])

/-- The whole bytes that the values of characters make, `bits` each. -/
def bytesOfValues (bits : Nat) (vs : List Nat) : Bytes :=
  let total := vs.length * bits
  let v := vs.foldl (fun acc x => acc * Nat.pow 2 bits + x) 0
  let count := total / 8
  (List.range count).map fun i => UInt8.ofNat (v / Nat.pow 2 (total - (i + 1) * 8) % 256)

/-- The positions of a group at which `=` may begin its padding: where the characters before
hold whole bytes. -/
def RadixCodec.padStarts (c : RadixCodec) : List Nat :=
  (List.range c.groupChars).filter fun k => k ≥ 2 && (k * c.bits) % 8 < c.bits

/-- Decode one group of characters: the bytes it gave, and whether it was whole. A group
gives its bytes as far as it is of the alphabet; it is whole when it has all its characters,
or is padded with `=` from a place where the characters before hold whole bytes. -/
def RadixCodec.decodeGroup (c : RadixCodec) (group : Bytes) : Bytes × Bool :=
  let good := (group.takeWhile fun ch => (c.value ch).isSome).filterMap c.value
  let k := good.length
  let out := bytesOfValues c.bits good
  if k = c.groupChars then (out, true)
  else if group.length = c.groupChars && c.padStarts.contains k &&
      (group.drop k).all (· = 0x3D) then (out, true)
  else (out, false)

/-- Decode text without line feeds, a group at a time: the bytes read, and whether all of it
was whole groups. Base32 gives nothing of a last group that is short. -/
def RadixCodec.decode (c : RadixCodec) : Nat → Bytes → Bytes × Bool
  | 0, _ => ([], true)
  | _, [] => ([], true)
  | fuel + 1, text =>
    let group := text.take c.groupChars
    if c.bits = 5 && group.length < c.groupChars then ([], false)
    else
      match c.decodeGroup group with
      | (out, true) =>
        let (more, ok) := c.decode fuel (text.drop c.groupChars)
        (out ++ more, ok)
      | (out, false) => (out, false)

/-- Decode base64 text without line feeds. -/
def decodeBase64 (text : Bytes) : Bytes × Bool := base64Codec.decode (text.length + 1) text

/-- `base64` or `base32`: encode the input, or decode it with `-d`. -/
def radixTool (c : RadixCodec) (files : List (String × Bytes)) (stdin : Bytes)
    (args : List Bytes) : ToolRun :=
  let letters : List (UInt8 × Bool) := [(0x64, false), (0x69, false), (0x77, true)]
  let longs : List (String × Bool) := [("decode", false), ("ignore-garbage", false), ("wrap", true)]
  match readToolOptions letters longs (args.length + 1) args [] [] with
  | .error e => usageFailure c.name e
  | .ok (opts, names) =>
    let decode := opts.any fun o => o == .short 0x64 none || o == .long "decode" none
    let garbage := opts.any fun o => o == .short 0x69 none || o == .long "ignore-garbage" none
    let widthArg := (opts.filterMap fun o => match o with
      | .short 0x77 v | .long "wrap" v => v
      | _ => none).getLast?
    match names with
    | _ :: extra :: _ => usageFailure c.name s!"extra operand {localeQuote (textOf extra)}"
    | _ =>
      let width? : Option Nat := match widthArg with
        | some v => natOfBytes v
        | none => some 76
      match width? with
      | none => ToolRun.failure s!"{c.name}: invalid wrap size: {localeQuote (textOf (widthArg.getD []))}"
      | some width =>
        let name := names.headD (bytesOf "-")
        match readInput files stdin (textOf name) with
        | none => ToolRun.failure s!"{c.name}: {textOf name}: No such file or directory"
        | some data =>
          let readStdin := fromStdin names
          if decode then
            let text := if garbage then data.filter fun ch => (c.value ch).isSome || ch = 0x3D
              else data.filter (· != 0x0A)
            let (out, ok) := c.decode (text.length + 1) text
            if ok then { out, readStdin }
            else { out, err := rawOf s!"{c.name}: invalid input\n", status := 1, readStdin,
                   buffered := true }
          else { out := wrapLines width (c.encode (data.length + 1) data), readStdin }

end Chatbot.Shell
