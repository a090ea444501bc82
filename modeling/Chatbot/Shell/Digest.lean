import Chatbot.Shell.Tools

/-!
# Message digests and checksums

`md5sum`, `sha1sum`, `sha224sum`, `sha256sum`, `sha384sum` and `sha512sum` write, for each
input, its digest in lower-case hexadecimal, two spaces (a space and `*` under `-b`) and the
input's name, or with `--tag` the line `NAME (FILE) = DIGEST`. Under `-c` they read such lines
back and tell for each file whether its digest still matches. `cksum` writes the CRC of the
POSIX `cksum` (the polynomial `0x04C11DB7` over the bytes and then over the length) with the
byte count, and `sum` the 16-bit checksums of BSD (the default) or System V (`-s`) with the
size in blocks.

The digests are those of their standards: MD5, SHA-1, and SHA-2 with 32-bit words (SHA-224,
SHA-256) or 64-bit words (SHA-384, SHA-512). Each pads the message to whole blocks with a
byte `0x80`, zeros and the length in bits, and runs its compression function over the blocks.
-/

namespace Chatbot.Shell

/-! ## Words and padding -/

/-- Rotate a 32-bit word left. -/
def rotl32 (x : UInt32) (n : UInt32) : UInt32 := (x <<< n) ||| (x >>> (32 - n))

/-- Rotate a 32-bit word right. -/
def rotr32 (x : UInt32) (n : UInt32) : UInt32 := (x >>> n) ||| (x <<< (32 - n))

/-- Rotate a 64-bit word right. -/
def rotr64 (x : UInt64) (n : UInt64) : UInt64 := (x >>> n) ||| (x <<< (64 - n))

/-- A message padded to whole blocks of `block` bytes: a byte `0x80`, zeros, and the length in
bits in the last `lenBytes` bytes, least significant first when `littleEndian`. -/
def padMessage (msg : Array UInt8) (block lenBytes : Nat) (littleEndian : Bool) : Array UInt8 :=
  let bits := msg.size * 8
  let zeros := (block - (msg.size + 1 + lenBytes) % block) % block
  let bigEndian := (List.range lenBytes).reverse.map fun k => UInt8.ofNat (bits / Nat.pow 256 k % 256)
  let len := if littleEndian then bigEndian.reverse else bigEndian
  (msg.push 0x80 ++ Array.replicate zeros 0) ++ len.toArray

/-- The 32-bit word of four bytes from place `i`, most significant first. -/
def wordBE (a : Array UInt8) (i : Nat) : UInt32 :=
  ((a.getD i 0).toUInt32 <<< 24) ||| ((a.getD (i + 1) 0).toUInt32 <<< 16) |||
    ((a.getD (i + 2) 0).toUInt32 <<< 8) ||| (a.getD (i + 3) 0).toUInt32

/-- The 32-bit word of four bytes from place `i`, least significant first. -/
def wordLE (a : Array UInt8) (i : Nat) : UInt32 :=
  ((a.getD (i + 3) 0).toUInt32 <<< 24) ||| ((a.getD (i + 2) 0).toUInt32 <<< 16) |||
    ((a.getD (i + 1) 0).toUInt32 <<< 8) ||| (a.getD i 0).toUInt32

/-- The 64-bit word of eight bytes from place `i`, most significant first. -/
def word64BE (a : Array UInt8) (i : Nat) : UInt64 :=
  ((wordBE a i).toUInt64 <<< 32) ||| (wordBE a (i + 4)).toUInt64

/-- The bytes of 32-bit words, most significant first. -/
def bytesOfWordsBE (ws : List UInt32) : Bytes :=
  ws.flatMap fun (w : UInt32) => [(w >>> 24).toUInt8, (w >>> 16).toUInt8, (w >>> 8).toUInt8, w.toUInt8]

/-- The bytes of 32-bit words, least significant first. -/
def bytesOfWordsLE (ws : List UInt32) : Bytes :=
  ws.flatMap fun (w : UInt32) => [w.toUInt8, (w >>> 8).toUInt8, (w >>> 16).toUInt8, (w >>> 24).toUInt8]

/-- The bytes of 64-bit words, most significant first. -/
def bytesOfWords64BE (ws : List UInt64) : Bytes :=
  ws.flatMap fun (w : UInt64) => bytesOfWordsBE [(w >>> 32).toUInt32, w.toUInt32]

/-! ## MD5 -/

/-- The constants of MD5's rounds: the integer parts of `2^32 · |sin k|`. -/
def md5Constants : Array UInt32 := #[
    0xd76aa478, 0xe8c7b756, 0x242070db, 0xc1bdceee, 0xf57c0faf, 0x4787c62a,
    0xa8304613, 0xfd469501, 0x698098d8, 0x8b44f7af, 0xffff5bb1, 0x895cd7be,
    0x6b901122, 0xfd987193, 0xa679438e, 0x49b40821, 0xf61e2562, 0xc040b340,
    0x265e5a51, 0xe9b6c7aa, 0xd62f105d, 0x02441453, 0xd8a1e681, 0xe7d3fbc8,
    0x21e1cde6, 0xc33707d6, 0xf4d50d87, 0x455a14ed, 0xa9e3e905, 0xfcefa3f8,
    0x676f02d9, 0x8d2a4c8a, 0xfffa3942, 0x8771f681, 0x6d9d6122, 0xfde5380c,
    0xa4beea44, 0x4bdecfa9, 0xf6bb4b60, 0xbebfbc70, 0x289b7ec6, 0xeaa127fa,
    0xd4ef3085, 0x04881d05, 0xd9d4d039, 0xe6db99e5, 0x1fa27cf8, 0xc4ac5665,
    0xf4292244, 0x432aff97, 0xab9423a7, 0xfc93a039, 0x655b59c3, 0x8f0ccc92,
    0xffeff47d, 0x85845dd1, 0x6fa87e4f, 0xfe2ce6e0, 0xa3014314, 0x4e0811a1,
    0xf7537e82, 0xbd3af235, 0x2ad7d2bb, 0xeb86d391]

/-- The rotation of MD5's step `t`. -/
def md5Shift (t : Nat) : UInt32 :=
  let row : List UInt32 :=
    if t < 16 then [7, 12, 17, 22] else if t < 32 then [5, 9, 14, 20]
    else if t < 48 then [4, 11, 16, 23] else [6, 10, 15, 21]
  row.getD (t % 4) 0

/-- MD5's compression of the block at place `off`. -/
def md5Block (st : Array UInt32) (m : Array UInt8) (off : Nat) : Array UInt32 :=
  let w : Array UInt32 := (Array.range 16).map fun k => wordLE m (off + 4 * k)
  let (a, b, c, d) := (List.range 64).foldl (fun (a, b, c, d) t =>
    let (f, g) : UInt32 × Nat :=
      if t < 16 then ((b &&& c) ||| (~~~b &&& d), t)
      else if t < 32 then ((d &&& b) ||| (~~~d &&& c), (5 * t + 1) % 16)
      else if t < 48 then (b ^^^ c ^^^ d, (3 * t + 5) % 16)
      else (c ^^^ (b ||| ~~~d), (7 * t) % 16)
    let f := f + a + md5Constants.getD t 0 + w.getD g 0
    (d, b + rotl32 f (md5Shift t), b, c)) (st.getD 0 0, st.getD 1 0, st.getD 2 0, st.getD 3 0)
  #[st.getD 0 0 + a, st.getD 1 0 + b, st.getD 2 0 + c, st.getD 3 0 + d]

/-- The MD5 digest of a message. -/
def md5Digest (msg : Bytes) : Bytes :=
  let m := padMessage msg.toArray 64 8 true
  let init : Array UInt32 := #[0x67452301, 0xefcdab89, 0x98badcfe, 0x10325476]
  bytesOfWordsLE ((List.range (m.size / 64)).foldl (fun st k => md5Block st m (64 * k)) init).toList

/-! ## SHA-1 -/

/-- SHA-1's compression of the block at place `off`. -/
def sha1Block (h : Array UInt32) (m : Array UInt8) (off : Nat) : Array UInt32 :=
  let w0 : Array UInt32 := (Array.range 16).map fun k => wordBE m (off + 4 * k)
  let w := (List.range 64).foldl (fun (w : Array UInt32) k =>
    let t := k + 16
    w.push (rotl32 (w.getD (t - 3) 0 ^^^ w.getD (t - 8) 0 ^^^ w.getD (t - 14) 0 ^^^ w.getD (t - 16) 0) 1)) w0
  let (a, b, c, d, e) := (List.range 80).foldl (fun (a, b, c, d, e) t =>
    let (f, k) : UInt32 × UInt32 :=
      if t < 20 then ((b &&& c) ||| (~~~b &&& d), 0x5A827999)
      else if t < 40 then (b ^^^ c ^^^ d, 0x6ED9EBA1)
      else if t < 60 then ((b &&& c) ||| (b &&& d) ||| (c &&& d), 0x8F1BBCDC)
      else (b ^^^ c ^^^ d, 0xCA62C1D6)
    (rotl32 a 5 + f + e + k + w.getD t 0, a, rotl32 b 30, c, d))
    (h.getD 0 0, h.getD 1 0, h.getD 2 0, h.getD 3 0, h.getD 4 0)
  #[h.getD 0 0 + a, h.getD 1 0 + b, h.getD 2 0 + c, h.getD 3 0 + d, h.getD 4 0 + e]

/-- The SHA-1 digest of a message. -/
def sha1Digest (msg : Bytes) : Bytes :=
  let m := padMessage msg.toArray 64 8 false
  let init : Array UInt32 := #[0x67452301, 0xEFCDAB89, 0x98BADCFE, 0x10325476, 0xC3D2E1F0]
  bytesOfWordsBE ((List.range (m.size / 64)).foldl (fun h k => sha1Block h m (64 * k)) init).toList

/-! ## SHA-2 with 32-bit words -/

/-- The constants of SHA-256's rounds: the first 32 bits of the fractional parts of the cube
roots of the first 64 primes. -/
def sha256Constants : Array UInt32 := #[
    0x428a2f98, 0x71374491, 0xb5c0fbcf, 0xe9b5dba5, 0x3956c25b, 0x59f111f1,
    0x923f82a4, 0xab1c5ed5, 0xd807aa98, 0x12835b01, 0x243185be, 0x550c7dc3,
    0x72be5d74, 0x80deb1fe, 0x9bdc06a7, 0xc19bf174, 0xe49b69c1, 0xefbe4786,
    0x0fc19dc6, 0x240ca1cc, 0x2de92c6f, 0x4a7484aa, 0x5cb0a9dc, 0x76f988da,
    0x983e5152, 0xa831c66d, 0xb00327c8, 0xbf597fc7, 0xc6e00bf3, 0xd5a79147,
    0x06ca6351, 0x14292967, 0x27b70a85, 0x2e1b2138, 0x4d2c6dfc, 0x53380d13,
    0x650a7354, 0x766a0abb, 0x81c2c92e, 0x92722c85, 0xa2bfe8a1, 0xa81a664b,
    0xc24b8b70, 0xc76c51a3, 0xd192e819, 0xd6990624, 0xf40e3585, 0x106aa070,
    0x19a4c116, 0x1e376c08, 0x2748774c, 0x34b0bcb5, 0x391c0cb3, 0x4ed8aa4a,
    0x5b9cca4f, 0x682e6ff3, 0x748f82ee, 0x78a5636f, 0x84c87814, 0x8cc70208,
    0x90befffa, 0xa4506ceb, 0xbef9a3f7, 0xc67178f2]

/-- SHA-256's compression of the block at place `off`. -/
def sha256Block (h : Array UInt32) (m : Array UInt8) (off : Nat) : Array UInt32 :=
  let w0 : Array UInt32 := (Array.range 16).map fun k => wordBE m (off + 4 * k)
  let w := (List.range 48).foldl (fun (w : Array UInt32) k =>
    let t := k + 16
    let x := w.getD (t - 15) 0
    let y := w.getD (t - 2) 0
    let s0 := rotr32 x 7 ^^^ rotr32 x 18 ^^^ (x >>> 3)
    let s1 := rotr32 y 17 ^^^ rotr32 y 19 ^^^ (y >>> 10)
    w.push (w.getD (t - 16) 0 + s0 + w.getD (t - 7) 0 + s1)) w0
  let start := (h.getD 0 0, h.getD 1 0, h.getD 2 0, h.getD 3 0, h.getD 4 0, h.getD 5 0,
    h.getD 6 0, h.getD 7 0)
  let (a, b, c, d, e, f, g, hh) := (List.range 64).foldl (fun (a, b, c, d, e, f, g, hh) t =>
    let s1 := rotr32 e 6 ^^^ rotr32 e 11 ^^^ rotr32 e 25
    let ch := (e &&& f) ^^^ (~~~e &&& g)
    let t1 := hh + s1 + ch + sha256Constants.getD t 0 + w.getD t 0
    let s0 := rotr32 a 2 ^^^ rotr32 a 13 ^^^ rotr32 a 22
    let maj := (a &&& b) ^^^ (a &&& c) ^^^ (b &&& c)
    (t1 + s0 + maj, a, b, c, d + t1, e, f, g)) start
  (h.zip #[a, b, c, d, e, f, g, hh]).map fun (x, y) => x + y

/-- The SHA-256 starting words. -/
def sha256Start : Array UInt32 := #[
    0x6a09e667, 0xbb67ae85, 0x3c6ef372, 0xa54ff53a,
    0x510e527f, 0x9b05688c, 0x1f83d9ab, 0x5be0cd19]

/-- The SHA-224 starting words. -/
def sha224Start : Array UInt32 := #[
    0xc1059ed8, 0x367cd507, 0x3070dd17, 0xf70e5939,
    0xffc00b31, 0x68581511, 0x64f98fa7, 0xbefa4fa4]

/-- A digest of the SHA-2 family with 32-bit words: the first `words` words of the state
after all blocks, from the starting words given. -/
def sha256Family (start : Array UInt32) (words : Nat) (msg : Bytes) : Bytes :=
  let m := padMessage msg.toArray 64 8 false
  bytesOfWordsBE (((List.range (m.size / 64)).foldl (fun h k => sha256Block h m (64 * k)) start).toList.take words)

/-! ## SHA-2 with 64-bit words -/

/-- The constants of SHA-512's rounds: the first 64 bits of the fractional parts of the cube
roots of the first 80 primes. -/
def sha512Constants : Array UInt64 := #[
    0x428a2f98d728ae22, 0x7137449123ef65cd, 0xb5c0fbcfec4d3b2f,
    0xe9b5dba58189dbbc, 0x3956c25bf348b538, 0x59f111f1b605d019,
    0x923f82a4af194f9b, 0xab1c5ed5da6d8118, 0xd807aa98a3030242,
    0x12835b0145706fbe, 0x243185be4ee4b28c, 0x550c7dc3d5ffb4e2,
    0x72be5d74f27b896f, 0x80deb1fe3b1696b1, 0x9bdc06a725c71235,
    0xc19bf174cf692694, 0xe49b69c19ef14ad2, 0xefbe4786384f25e3,
    0x0fc19dc68b8cd5b5, 0x240ca1cc77ac9c65, 0x2de92c6f592b0275,
    0x4a7484aa6ea6e483, 0x5cb0a9dcbd41fbd4, 0x76f988da831153b5,
    0x983e5152ee66dfab, 0xa831c66d2db43210, 0xb00327c898fb213f,
    0xbf597fc7beef0ee4, 0xc6e00bf33da88fc2, 0xd5a79147930aa725,
    0x06ca6351e003826f, 0x142929670a0e6e70, 0x27b70a8546d22ffc,
    0x2e1b21385c26c926, 0x4d2c6dfc5ac42aed, 0x53380d139d95b3df,
    0x650a73548baf63de, 0x766a0abb3c77b2a8, 0x81c2c92e47edaee6,
    0x92722c851482353b, 0xa2bfe8a14cf10364, 0xa81a664bbc423001,
    0xc24b8b70d0f89791, 0xc76c51a30654be30, 0xd192e819d6ef5218,
    0xd69906245565a910, 0xf40e35855771202a, 0x106aa07032bbd1b8,
    0x19a4c116b8d2d0c8, 0x1e376c085141ab53, 0x2748774cdf8eeb99,
    0x34b0bcb5e19b48a8, 0x391c0cb3c5c95a63, 0x4ed8aa4ae3418acb,
    0x5b9cca4f7763e373, 0x682e6ff3d6b2b8a3, 0x748f82ee5defb2fc,
    0x78a5636f43172f60, 0x84c87814a1f0ab72, 0x8cc702081a6439ec,
    0x90befffa23631e28, 0xa4506cebde82bde9, 0xbef9a3f7b2c67915,
    0xc67178f2e372532b, 0xca273eceea26619c, 0xd186b8c721c0c207,
    0xeada7dd6cde0eb1e, 0xf57d4f7fee6ed178, 0x06f067aa72176fba,
    0x0a637dc5a2c898a6, 0x113f9804bef90dae, 0x1b710b35131c471b,
    0x28db77f523047d84, 0x32caab7b40c72493, 0x3c9ebe0a15c9bebc,
    0x431d67c49c100d4c, 0x4cc5d4becb3e42b6, 0x597f299cfc657e2a,
    0x5fcb6fab3ad6faec, 0x6c44198c4a475817]

/-- SHA-512's compression of the block at place `off`. -/
def sha512Block (h : Array UInt64) (m : Array UInt8) (off : Nat) : Array UInt64 :=
  let w0 : Array UInt64 := (Array.range 16).map fun k => word64BE m (off + 8 * k)
  let w := (List.range 64).foldl (fun (w : Array UInt64) k =>
    let t := k + 16
    let x := w.getD (t - 15) 0
    let y := w.getD (t - 2) 0
    let s0 := rotr64 x 1 ^^^ rotr64 x 8 ^^^ (x >>> 7)
    let s1 := rotr64 y 19 ^^^ rotr64 y 61 ^^^ (y >>> 6)
    w.push (w.getD (t - 16) 0 + s0 + w.getD (t - 7) 0 + s1)) w0
  let start := (h.getD 0 0, h.getD 1 0, h.getD 2 0, h.getD 3 0, h.getD 4 0, h.getD 5 0,
    h.getD 6 0, h.getD 7 0)
  let (a, b, c, d, e, f, g, hh) := (List.range 80).foldl (fun (a, b, c, d, e, f, g, hh) t =>
    let s1 := rotr64 e 14 ^^^ rotr64 e 18 ^^^ rotr64 e 41
    let ch := (e &&& f) ^^^ (~~~e &&& g)
    let t1 := hh + s1 + ch + sha512Constants.getD t 0 + w.getD t 0
    let s0 := rotr64 a 28 ^^^ rotr64 a 34 ^^^ rotr64 a 39
    let maj := (a &&& b) ^^^ (a &&& c) ^^^ (b &&& c)
    (t1 + s0 + maj, a, b, c, d + t1, e, f, g)) start
  (h.zip #[a, b, c, d, e, f, g, hh]).map fun (x, y) => x + y

/-- The SHA-512 starting words. -/
def sha512Start : Array UInt64 := #[
    0x6a09e667f3bcc908, 0xbb67ae8584caa73b,
    0x3c6ef372fe94f82b, 0xa54ff53a5f1d36f1,
    0x510e527fade682d1, 0x9b05688c2b3e6c1f,
    0x1f83d9abfb41bd6b, 0x5be0cd19137e2179]

/-- The SHA-384 starting words. -/
def sha384Start : Array UInt64 := #[
    0xcbbb9d5dc1059ed8, 0x629a292a367cd507,
    0x9159015a3070dd17, 0x152fecd8f70e5939,
    0x67332667ffc00b31, 0x8eb44a8768581511,
    0xdb0c2e0d64f98fa7, 0x47b5481dbefa4fa4]

/-- A digest of the SHA-2 family with 64-bit words: the first `words` words of the state
after all blocks, from the starting words given. -/
def sha512Family (start : Array UInt64) (words : Nat) (msg : Bytes) : Bytes :=
  let m := padMessage msg.toArray 128 16 false
  bytesOfWords64BE (((List.range (m.size / 128)).foldl (fun h k => sha512Block h m (128 * k)) start).toList.take words)

/-! ## Checksums -/

/-- One byte into the CRC of `cksum`, most significant bit first. -/
def crcStep (crc : UInt32) (b : UInt8) : UInt32 :=
  (List.range 8).foldl (fun c _ =>
    if c &&& 0x80000000 != 0 then (c <<< 1) ^^^ 0x04C11DB7 else c <<< 1) (crc ^^^ (b.toUInt32 <<< 24))

/-- The bytes of a length, least significant first, as many as it needs. -/
def lengthBytes : Nat → Nat → Bytes
  | 0, _ => []
  | fuel + 1, n => if n = 0 then [] else UInt8.ofNat (n % 256) :: lengthBytes fuel (n / 256)

/-- The CRC that `cksum` writes: over the bytes, then over their count, complemented. -/
def posixCrc (data : Bytes) : UInt32 :=
  let crc := data.foldl crcStep 0
  ~~~((lengthBytes 9 data.length).foldl crcStep crc)

/-- The 16-bit checksum of BSD `sum`: rotate right by one bit, then add the byte. -/
def bsdChecksum (data : Bytes) : Nat :=
  data.foldl (fun s b => ((s >>> 1) + ((s &&& 1) <<< 15) + b.toNat) % 65536) 0

/-- The 16-bit checksum of System V `sum`: the sum of the bytes, folded twice. -/
def sysvChecksum (data : Bytes) : Nat :=
  let s := data.foldl (fun s b => (s + b.toNat) % 4294967296) 0
  let r := s % 65536 + s / 65536
  r % 65536 + r / 65536

/-! ## The tools -/

/-- The lower-case hexadecimal digit of a value below 16. -/
def hexDigit (d : Nat) : UInt8 := if d < 10 then UInt8.ofNat (0x30 + d) else UInt8.ofNat (0x57 + d)

/-- The lower-case hexadecimal digits of bytes, two for each. -/
def hexDigits (bs : Bytes) : Bytes :=
  bs.flatMap fun b => [hexDigit (b.toNat / 16), hexDigit (b.toNat % 16)]

/-- The digest a tool writes, with the name `--tag` gives it. -/
def digestNamed : String → Option (String × (Bytes → Bytes))
  | "md5sum" => some ("MD5", md5Digest)
  | "sha1sum" => some ("SHA1", sha1Digest)
  | "sha224sum" => some ("SHA224", sha256Family sha224Start 7)
  | "sha256sum" => some ("SHA256", sha256Family sha256Start 8)
  | "sha384sum" => some ("SHA384", sha512Family sha384Start 6)
  | "sha512sum" => some ("SHA512", sha512Family sha512Start 8)
  | _ => none

/-- A file name in a digest line: a backslash or a line feed in it makes the line start with
a backslash and is written as an escape. -/
def escapedName (name : Bytes) : Bytes × Bool :=
  if name.contains 0x5C || name.contains 0x0A then
    (name.flatMap fun b => if b = 0x5C then [0x5C, 0x5C] else if b = 0x0A then [0x5C, 0x6E] else [b], true)
  else (name, false)

/-- A line of a checksum file read back: the digest in hexadecimal and the file's name. -/
def readDigestLine (tag : String) (size : Nat) (line : Bytes) : Option (Bytes × Bytes) :=
  let line := if line.getLast? = some 0x0D then line.dropLast else line
  let (escaped, body) := match line with
    | 0x5C :: rest => (true, rest)
    | _ => (false, line)
  let unescape (n : Bytes) : Bytes :=
    if !escaped then n
    else
      let rec go : Nat → Bytes → Bytes
        | 0, _ => []
        | _, [] => []
        | fuel + 1, 0x5C :: 0x6E :: r => 0x0A :: go fuel r
        | fuel + 1, 0x5C :: 0x5C :: r => 0x5C :: go fuel r
        | fuel + 1, b :: r => b :: go fuel r
      go (n.length + 1) n
  let isHex (b : UInt8) : Bool := (0x30 ≤ b && b ≤ 0x39) || (0x61 ≤ b && b ≤ 0x66) || (0x41 ≤ b && b ≤ 0x46)
  let tagged := bytesOf (tag ++ " (")
  if tagged.isPrefixOf body then
    let rest := body.drop tagged.length
    let marker := bytesOf ") = "
    let k := (List.range rest.length).find? fun i => marker.isPrefixOf (rest.drop i) &&
      (rest.drop (i + marker.length)).length = 2 * size
    k.bind fun i =>
      let hex := rest.drop (i + marker.length)
      if hex.all isHex then some (hex.map fun b => if 0x41 ≤ b && b ≤ 0x46 then b + 32 else b, unescape (rest.take i))
      else none
  else
    let hex := body.take (2 * size)
    let rest := body.drop (2 * size)
    if hex.length = 2 * size && hex.all isHex then
      match rest with
      | 0x20 :: m :: name =>
        if (m = 0x20 || m = 0x2A) && !name.isEmpty then
          some (hex.map fun b => if 0x41 ≤ b && b ≤ 0x46 then b + 32 else b, unescape name)
        else none
      | _ => none
    else none

/-- A count with a noun, singular for one. -/
def countOf (n : Nat) (one many : String) : String :=
  if n = 1 then s!"{n} {one}" else s!"{n} {many}"

/-- What a digest tool was asked. -/
structure DigestJob where
  /-- `-c`: check the lines of checksum files. -/
  check : Bool := false
  /-- `--tag`: write lines `NAME (FILE) = DIGEST`. -/
  tag : Bool := false
  /-- `-b`: mark the files as read in binary mode. -/
  binary : Bool := false
  /-- `-z`: end lines with a null byte, names unescaped. -/
  zero : Bool := false
  /-- `--quiet`: under `-c`, write nothing for a file that matches. -/
  quiet : Bool := false
  /-- `--status`: under `-c`, write nothing at all. -/
  status : Bool := false

/-- `md5sum` and the `sha*sum` tools, for the tool `tool` with the digest `name` and
`digest`. -/
def digestTool (tool name : String) (digest : Bytes → Bytes) (files : List (String × Bytes))
    (stdin : Bytes) (args : List Bytes) : ToolRun :=
  let letters : List (UInt8 × Bool) :=
    [(0x62, false), (0x63, false), (0x74, false), (0x77, false), (0x7A, false)]
  let longs : List (String × Bool) :=
    [("binary", false), ("check", false), ("text", false), ("warn", false), ("zero", false),
     ("tag", false), ("quiet", false), ("status", false), ("strict", false),
     ("ignore-missing", false)]
  match readToolOptions letters longs (args.length + 1) args [] [] with
  | .error e => usageFailure tool e
  | .ok (opts, names) =>
    let job := opts.foldl (fun (j : DigestJob) o =>
      match o with
      | .short 0x63 _ | .long "check" _ => { j with check := true }
      | .long "tag" _ => { j with tag := true }
      | .short 0x62 _ | .long "binary" _ => { j with binary := true }
      | .short 0x7A _ | .long "zero" _ => { j with zero := true }
      | .long "quiet" _ => { j with quiet := true }
      | .long "status" _ => { j with status := true }
      | _ => j) {}
    let names := if names.isEmpty then [bytesOf "-"] else names
    let size := (digest []).length
    let shown (n : Bytes) : String := if n = bytesOf "-" then "standard input" else textOf n
    if !job.check then
      names.foldl (fun (r : ToolRun) n =>
        match readInput files stdin (textOf n) with
        | some data =>
          let hex := hexDigits (digest data)
          let (nm, esc) := if job.zero then (n, false) else escapedName n
          let ending : UInt8 := if job.zero then 0 else 0x0A
          let line := if job.tag then bytesOf (name ++ " (") ++ nm ++ bytesOf ") = " ++ hex
            else hex ++ [0x20, if job.binary then 0x2A else 0x20] ++ nm
          { r with out := r.out ++ (if esc then [0x5C] else []) ++ line ++ [ending] }
        | none =>
          { r with err := r.err ++ rawOf s!"{tool}: {textOf n}: No such file or directory\n", status := 1 })
        { readStdin := fromStdin names }
    else
      names.foldl (fun (r : ToolRun) listing =>
        match readInput files stdin (textOf listing) with
        | none =>
          { r with err := r.err ++ rawOf s!"{tool}: {textOf listing}: No such file or directory\n", status := 1 }
        | some text =>
          let entries := (splitLines text).map (readDigestLine name size)
          let valid := entries.filterMap id
          if valid.isEmpty then
            { r with err := r.err ++ rawOf s!"{tool}: {shown listing}: no properly formatted checksum lines found\n",
                     status := 1 }
          else
            let (r, unread, mismatched) := valid.foldl (fun (r, unread, mismatched) (hex, file) =>
              match readInput files stdin (textOf file) with
              | none =>
                let err := rawOf s!"{tool}: {textOf file}: No such file or directory\n"
                let out := if job.status then [] else file ++ bytesOf ": FAILED open or read\n"
                ({ r with err := r.err ++ err, out := r.out ++ out }, unread + 1, mismatched)
              | some data =>
                let ok := hexDigits (digest data) = hex
                let out := if job.status || (ok && job.quiet) then []
                  else file ++ bytesOf (if ok then ": OK\n" else ": FAILED\n")
                ({ r with out := r.out ++ out }, unread, if ok then mismatched else mismatched + 1))
              (r, 0, 0)
            let improper := entries.length - valid.length
            let warn (n : Nat) (text : String) : Bytes :=
              if n = 0 || job.status then [] else rawOf s!"{tool}: WARNING: {text}\n"
            let err := warn improper (countOf improper "line is" "lines are" ++ " improperly formatted") ++
              warn unread (countOf unread "listed file" "listed files" ++ " could not be read") ++
              warn mismatched (countOf mismatched "computed checksum" "computed checksums" ++ " did NOT match")
            { r with err := r.err ++ err, status := if unread + mismatched > 0 then 1 else r.status })
        { readStdin := fromStdin names }

/-- `cksum`: the CRC and the byte count of each input, and its name when one is given. -/
def cksumTool (files : List (String × Bytes)) (stdin : Bytes) (args : List Bytes) : ToolRun :=
  let given := !args.isEmpty
  let names := if args.isEmpty then [bytesOf "-"] else args
  names.foldl (fun (r : ToolRun) n =>
    match readInput files stdin (textOf n) with
    | some data =>
      let line := s!"{(posixCrc data).toNat} {data.length}" ++ (if given then " " ++ textOf n else "")
      { r with out := r.out ++ rawOf (line ++ "\n") }
    | none => { r with err := r.err ++ rawOf s!"cksum: {textOf n}: No such file or directory\n", status := 1 })
    { readStdin := fromStdin args }

/-- `sum`: the BSD checksum and the size in 1024-byte blocks (the name after it when more
than one input is named), or with `-s` the System V checksum and the size in 512-byte blocks
(the name after it whenever one is named). -/
def sumTool (files : List (String × Bytes)) (stdin : Bytes) (args : List Bytes) : ToolRun :=
  let sysv := args.contains (bytesOf "-s") || args.contains (bytesOf "--sysv")
  let names := args.filter fun a => a.head? != some 0x2D || a.length = 1
  let count := names.length
  let names := if names.isEmpty then [bytesOf "-"] else names
  names.foldl (fun (r : ToolRun) n =>
    match readInput files stdin (textOf n) with
    | some data =>
      let line :=
        if sysv then
          s!"{sysvChecksum data} {(data.length + 511) / 512}" ++ (if count > 0 then " " ++ textOf n else "")
        else
          let c := toString (bsdChecksum data)
          let b := toString ((data.length + 1023) / 1024)
          String.ofList (List.replicate (5 - c.length) '0') ++ c ++ " " ++
            String.ofList (List.replicate (5 - b.length) ' ') ++ b ++
            (if count > 1 then " " ++ textOf n else "")
      { r with out := r.out ++ rawOf (line ++ "\n") }
    | none => { r with err := r.err ++ rawOf s!"sum: {textOf n}: No such file or directory\n", status := 1 })
    { readStdin := fromStdin (names.filter fun n => n != bytesOf "-" || count = 0) }

end Chatbot.Shell
