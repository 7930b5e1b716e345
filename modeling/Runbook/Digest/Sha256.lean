/-!
# SHA-256

* `Sha256.pad` : the message followed by a one bit, zeros and its length, in whole blocks;
* `Sha256.schedule`, `Sha256.compress` : the words of a block, and the registers after it;
* `Sha256.digest`, `Sha256.hex` : the 32 bytes of a message's digest, and their hexadecimal text.
-/

namespace Runbook.Sha256

/-- The word that the digits of a prime's cube root after the point give, for the first 64 primes. -/
def roundConstants : List UInt32 :=
  [0x428a2f98, 0x71374491, 0xb5c0fbcf, 0xe9b5dba5, 0x3956c25b, 0x59f111f1, 0x923f82a4, 0xab1c5ed5,
   0xd807aa98, 0x12835b01, 0x243185be, 0x550c7dc3, 0x72be5d74, 0x80deb1fe, 0x9bdc06a7, 0xc19bf174,
   0xe49b69c1, 0xefbe4786, 0x0fc19dc6, 0x240ca1cc, 0x2de92c6f, 0x4a7484aa, 0x5cb0a9dc, 0x76f988da,
   0x983e5152, 0xa831c66d, 0xb00327c8, 0xbf597fc7, 0xc6e00bf3, 0xd5a79147, 0x06ca6351, 0x14292967,
   0x27b70a85, 0x2e1b2138, 0x4d2c6dfc, 0x53380d13, 0x650a7354, 0x766a0abb, 0x81c2c92e, 0x92722c85,
   0xa2bfe8a1, 0xa81a664b, 0xc24b8b70, 0xc76c51a3, 0xd192e819, 0xd6990624, 0xf40e3585, 0x106aa070,
   0x19a4c116, 0x1e376c08, 0x2748774c, 0x34b0bcb5, 0x391c0cb3, 0x4ed8aa4a, 0x5b9cca4f, 0x682e6ff3,
   0x748f82ee, 0x78a5636f, 0x84c87814, 0x8cc70208, 0x90befffa, 0xa4506ceb, 0xbef9a3f7, 0xc67178f2]

/-- The eight words that a digest is computed in. -/
structure Registers where
  a : UInt32
  b : UInt32
  c : UInt32
  d : UInt32
  e : UInt32
  f : UInt32
  g : UInt32
  h : UInt32
deriving DecidableEq, Repr

namespace Registers

/-- The registers before the first block. -/
def start : Registers :=
  ⟨0x6a09e667, 0xbb67ae85, 0x3c6ef372, 0xa54ff53a, 0x510e527f, 0x9b05688c, 0x1f83d9ab, 0x5be0cd19⟩

/-- The registers word by word. -/
def words (r : Registers) : List UInt32 := [r.a, r.b, r.c, r.d, r.e, r.f, r.g, r.h]

/-- Two sets of registers added word by word. -/
def add (r s : Registers) : Registers :=
  ⟨r.a + s.a, r.b + s.b, r.c + s.c, r.d + s.d, r.e + s.e, r.f + s.f, r.g + s.g, r.h + s.h⟩

end Registers

/-- A word turned to the right. -/
def turn (x : UInt32) (n : UInt32) : UInt32 := (x >>> n) ||| (x <<< (32 - n))

/-- The registers after one round with a scheduled word and the round's constant. -/
def round (r : Registers) (word constant : UInt32) : Registers :=
  let s1 := turn r.e 6 ^^^ turn r.e 11 ^^^ turn r.e 25
  let choice := (r.e &&& r.f) ^^^ (~~~r.e &&& r.g)
  let t1 := r.h + s1 + choice + constant + word
  let s0 := turn r.a 2 ^^^ turn r.a 13 ^^^ turn r.a 22
  let majority := (r.a &&& r.b) ^^^ (r.a &&& r.c) ^^^ (r.b &&& r.c)
  ⟨t1 + (s0 + majority), r.a, r.b, r.c, r.d + t1, r.e, r.f, r.g⟩

/-- The next word of a schedule, whose words so far stand last first. -/
def nextWord (earlier : List UInt32) : UInt32 :=
  let w := fun i => earlier.getD i 0
  let s0 := turn (w 14) 7 ^^^ turn (w 14) 18 ^^^ (w 14 >>> 3)
  let s1 := turn (w 1) 17 ^^^ turn (w 1) 19 ^^^ (w 1 >>> 10)
  w 15 + s0 + w 6 + s1

/-- A schedule with more words, the last first. -/
def extend : (more : Nat) → List UInt32 → List UInt32
  | 0, earlier => earlier
  | n + 1, earlier => extend n (nextWord earlier :: earlier)

/-- The 64 words of a block of 16. -/
def schedule (block : List UInt32) : List UInt32 := (extend 48 block.reverse).reverse

/-- The registers after a block. -/
def compress (r : Registers) (block : List UInt32) : Registers :=
  r.add (((schedule block).zip roundConstants).foldl (fun r (w, k) => round r w k) r)

/-! ## Messages -/

/-- The big-endian bytes of a number, `n` of them. -/
def bytesOf (n value : Nat) : List UInt8 :=
  (List.range n).map fun i => UInt8.ofNat (value / Nat.pow 256 (n - 1 - i))

/-- A message followed by a one bit, zeros and its length in bits, in whole blocks of 64 bytes. -/
def pad (message : List UInt8) : List UInt8 :=
  let size := message.length
  message ++ 0x80 :: List.replicate ((119 - size % 64) % 64) 0 ++ bytesOf 8 (size * 8)

/-- Bytes as big-endian words; a rest of fewer than four bytes is dropped. -/
def wordsOf : List UInt8 → List UInt32
  | a :: b :: c :: d :: rest =>
    (a.toUInt32 <<< 24 ||| b.toUInt32 <<< 16 ||| c.toUInt32 <<< 8 ||| d.toUInt32) :: wordsOf rest
  | _ => []

/-- The registers after as many whole blocks as `n` says. -/
def compressAll : (n : Nat) → Registers → List UInt32 → Registers
  | 0, r, _ => r
  | n + 1, r, words => compressAll n (compress r (words.take 16)) (words.drop 16)

/-- The digest of a message, 32 bytes. -/
def digest (message : List UInt8) : List UInt8 :=
  let words := wordsOf (pad message)
  (compressAll (words.length / 16) .start words).words.flatMap fun w => bytesOf 4 w.toNat

/-- The hexadecimal text of a message's digest. -/
def hex (message : List UInt8) : String :=
  String.ofList ((digest message).flatMap fun b =>
    [Nat.digitChar (b.toNat / 16), Nat.digitChar (b.toNat % 16)])

end Runbook.Sha256
