/-!
# Captured output

A process's output streams are read in chunks; at most a given number of bytes is kept and the
rest is read and dropped, so that the writer is never blocked. Whether anything was dropped is
reported beside the kept bytes.

The kept bytes are read as UTF-8 with every ill-formed part replaced by U+FFFD: a byte that
cannot start a character, or the longest start of a character that is cut short, counts as one
ill-formed part.

## What is proved

* `readCapped_eq`: however the stream is split into chunks, the first `min limit N` bytes are
  kept, and the flag says whether the stream had more than `limit` bytes.
-/

namespace Chatbot.Shell

/-- Read chunks into `kept`, keeping at most `limit` bytes in all. -/
def readCappedFrom (limit : Nat) : List (List UInt8) → List UInt8 → Bool → List UInt8 × Bool
  | [], kept, cut => (kept, cut)
  | chunk :: more, kept, cut =>
    let room := limit - kept.length
    readCappedFrom limit more (kept ++ chunk.take room) (cut || chunk.length > room)

/-- Read a stream given as chunks, keeping at most `limit` bytes. -/
def readCapped (limit : Nat) (chunks : List (List UInt8)) : List UInt8 × Bool :=
  readCappedFrom limit chunks [] false

private theorem readCappedFrom_eq (limit : Nat) :
    ∀ (chunks : List (List UInt8)) (kept : List UInt8) (cut : Bool), kept.length ≤ limit →
      readCappedFrom limit chunks kept cut =
        ((kept ++ chunks.flatten).take limit,
          cut || decide (kept.length + chunks.flatten.length > limit))
  | [], kept, cut, h => by
    simp only [readCappedFrom, List.flatten_nil, List.append_nil, List.length_nil,
      Nat.add_zero, Prod.mk.injEq]
    refine ⟨(List.take_of_length_le h).symm, ?_⟩
    have : ¬ kept.length > limit := by omega
    simp [this]
  | chunk :: more, kept, cut, h => by
    simp only [readCappedFrom]
    have hk : (kept ++ List.take (limit - kept.length) chunk).length ≤ limit := by
      simp [List.length_take]; omega
    rw [readCappedFrom_eq limit more _ _ hk]
    simp only [List.flatten_cons, List.length_append, List.length_take, Prod.mk.injEq]
    by_cases hc : chunk.length ≤ limit - kept.length
    · have hmin : min (limit - kept.length) chunk.length = chunk.length := Nat.min_eq_right hc
      rw [List.take_of_length_le hc, hmin, List.append_assoc]
      refine ⟨rfl, ?_⟩
      have : ¬ chunk.length > limit - kept.length := by omega
      simp [this, Nat.add_assoc]
    · have hmin : min (limit - kept.length) chunk.length = limit - kept.length := by omega
      rw [hmin]
      constructor
      · rw [List.take_append, List.take_append, List.take_append, List.take_append,
          List.take_of_length_le h, List.take_take]
        simp only [List.length_append, List.length_take]
        have e1 : limit - (kept.length + min (limit - kept.length) chunk.length) = 0 := by omega
        have e2 : limit - kept.length - chunk.length = 0 := by omega
        have e3 : min (limit - kept.length) (limit - kept.length) = limit - kept.length :=
          Nat.min_self _
        rw [e1, e2, e3]
        simp
      · have : chunk.length > limit - kept.length := by omega
        have : kept.length + (chunk.length + more.flatten.length) > limit := by omega
        simp only [List.length_flatten] at *
        simp [*]

/-- However the stream is split into chunks, the first `min limit N` bytes are kept, and the
flag says whether it had more than `limit`. -/
theorem readCapped_eq (limit : Nat) (chunks : List (List UInt8)) :
    readCapped limit chunks = (chunks.flatten.take limit, decide (chunks.flatten.length > limit)) := by
  unfold readCapped
  rw [readCappedFrom_eq limit chunks [] false (Nat.zero_le _)]
  simp

/-- Whether a byte continues a character. -/
def isTail (b : UInt8) : Bool := 0x80 ≤ b && b ≤ 0xBF

/-- The character at the front of non-empty bytes, or `none` for an ill-formed part, and how
many bytes it takes (at least one). -/
def decodeOne : List UInt8 → Option Char × Nat
  | [] => (none, 1)
  | b :: rest =>
    if b < 0x80 then (some (Char.ofNat b.toNat), 1)
    else if 0xC2 ≤ b && b ≤ 0xDF then
      match rest with
      | c :: _ => if isTail c then
          (some (Char.ofNat ((b.toNat - 0xC0) * 64 + (c.toNat - 0x80))), 2) else (none, 1)
      | [] => (none, 1)
    else if 0xE0 ≤ b && b ≤ 0xEF then
      let lo : UInt8 := if b = 0xE0 then 0xA0 else 0x80
      let hi : UInt8 := if b = 0xED then 0x9F else 0xBF
      match rest with
      | c :: r =>
        if lo ≤ c && c ≤ hi then
          match r with
          | d :: _ => if isTail d then
              (some (Char.ofNat ((b.toNat - 0xE0) * 4096 + (c.toNat - 0x80) * 64 +
                (d.toNat - 0x80))), 3)
              else (none, 2)
          | [] => (none, 2)
        else (none, 1)
      | [] => (none, 1)
    else if 0xF0 ≤ b && b ≤ 0xF4 then
      let lo : UInt8 := if b = 0xF0 then 0x90 else 0x80
      let hi : UInt8 := if b = 0xF4 then 0x8F else 0xBF
      match rest with
      | c :: r =>
        if lo ≤ c && c ≤ hi then
          match r with
          | d :: r' =>
            if isTail d then
              match r' with
              | e :: _ => if isTail e then
                  (some (Char.ofNat ((b.toNat - 0xF0) * 262144 + (c.toNat - 0x80) * 4096 +
                    (d.toNat - 0x80) * 64 + (e.toNat - 0x80))), 4)
                  else (none, 3)
              | [] => (none, 3)
            else (none, 2)
          | [] => (none, 2)
        else (none, 1)
      | [] => (none, 1)
    else (none, 1)

/-- Decode at most `fuel` characters of UTF-8, writing U+FFFD for each ill-formed part. -/
def decodeLossyWith : Nat → List UInt8 → List Char
  | 0, _ => []
  | _, [] => []
  | fuel + 1, b :: rest =>
    let (c?, n) := decodeOne (b :: rest)
    c?.getD '\ufffd' :: decodeLossyWith fuel ((b :: rest).drop (max n 1))

/-- Decode bytes as UTF-8, writing U+FFFD for each ill-formed part. Every character takes at
least one byte, so as many characters as bytes are enough. -/
def decodeLossy (bs : List UInt8) : List Char := decodeLossyWith bs.length bs

/-- The text of captured bytes. -/
def lossyText (bs : List UInt8) : String := String.ofList (decodeLossy bs)

end Chatbot.Shell
