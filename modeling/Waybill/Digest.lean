/-!
# SHA-256

The digest of a message of bytes is thirty-two bytes. The message is padded with a one bit, zeros
and its length in bits to a multiple of 64 bytes; each block of 64 bytes is expanded to a schedule
of 64 words, and every word of it stirs a state of eight words once.

## Main definitions

* `Waybill.Digest.padded`, `Waybill.Digest.blocks` — the blocks of a message.
* `Waybill.Digest.schedule` — the words of a block.
* `Waybill.Digest.sha256` — the digest of a message.
-/

namespace Waybill.Digest

/-- The constants of the rounds: the first bits of the fractions of the cube roots of the first 64
primes. -/
def roundConstants : List UInt32 := [
  0x428a2f98, 0x71374491, 0xb5c0fbcf, 0xe9b5dba5, 0x3956c25b, 0x59f111f1, 0x923f82a4, 0xab1c5ed5,
  0xd807aa98, 0x12835b01, 0x243185be, 0x550c7dc3, 0x72be5d74, 0x80deb1fe, 0x9bdc06a7, 0xc19bf174,
  0xe49b69c1, 0xefbe4786, 0x0fc19dc6, 0x240ca1cc, 0x2de92c6f, 0x4a7484aa, 0x5cb0a9dc, 0x76f988da,
  0x983e5152, 0xa831c66d, 0xb00327c8, 0xbf597fc7, 0xc6e00bf3, 0xd5a79147, 0x06ca6351, 0x14292967,
  0x27b70a85, 0x2e1b2138, 0x4d2c6dfc, 0x53380d13, 0x650a7354, 0x766a0abb, 0x81c2c92e, 0x92722c85,
  0xa2bfe8a1, 0xa81a664b, 0xc24b8b70, 0xc76c51a3, 0xd192e819, 0xd6990624, 0xf40e3585, 0x106aa070,
  0x19a4c116, 0x1e376c08, 0x2748774c, 0x34b0bcb5, 0x391c0cb3, 0x4ed8aa4a, 0x5b9cca4f, 0x682e6ff3,
  0x748f82ee, 0x78a5636f, 0x84c87814, 0x8cc70208, 0x90befffa, 0xa4506ceb, 0xbef9a3f7, 0xc67178f2]

/-- The eight words of the state. -/
structure State where
  a : UInt32
  b : UInt32
  c : UInt32
  d : UInt32
  e : UInt32
  f : UInt32
  g : UInt32
  h : UInt32
deriving DecidableEq, Repr

/-- The first state: the first bits of the fractions of the square roots of the first 8 primes. -/
def State.first : State :=
  ⟨0x6a09e667, 0xbb67ae85, 0x3c6ef372, 0xa54ff53a, 0x510e527f, 0x9b05688c, 0x1f83d9ab, 0x5be0cd19⟩

/-- A word turned to the right by fewer than 32 bits. -/
def turn (n : UInt32) (x : UInt32) : UInt32 := (x >>> n) ||| (x <<< (32 - n))

/-- The state after one round with a word of the schedule and the constant of the round. -/
def State.round (s : State) (word constant : UInt32) : State :=
  let choice := (s.e &&& s.f) ^^^ ((~~~ s.e) &&& s.g)
  let majority := (s.a &&& s.b) ^^^ (s.a &&& s.c) ^^^ (s.b &&& s.c)
  let x := s.h + (turn 6 s.e ^^^ turn 11 s.e ^^^ turn 25 s.e) + choice + constant + word
  let y := (turn 2 s.a ^^^ turn 13 s.a ^^^ turn 22 s.a) + majority
  ⟨x + y, s.a, s.b, s.c, s.d + x, s.e, s.f, s.g⟩

/-- Two states added word by word. -/
def State.add (s t : State) : State :=
  ⟨s.a + t.a, s.b + t.b, s.c + t.c, s.d + t.d, s.e + t.e, s.f + t.f, s.g + t.g, s.h + t.h⟩

/-- The word of four bytes. -/
def word (a b c d : UInt8) : UInt32 :=
  UInt32.ofNat (((a.toNat * 256 + b.toNat) * 256 + c.toNat) * 256 + d.toNat)

/-- The words of bytes, four bytes each. -/
def words : List UInt8 → List UInt32
  | a :: b :: c :: d :: rest => word a b c d :: words rest
  | _ => []

/-- One more word of a schedule that is kept in reverse. -/
def nextWord (reversed : List UInt32) : UInt32 :=
  let at' (i : Nat) : UInt32 := reversed.getD (i - 1) 0
  let x := at' 15
  let y := at' 2
  at' 16 + (turn 7 x ^^^ turn 18 x ^^^ (x >>> 3)) + at' 7 + (turn 17 y ^^^ turn 19 y ^^^ (y >>> 10))

/-- A schedule kept in reverse, with `n` more words. -/
def extend : Nat → List UInt32 → List UInt32
  | 0, reversed => reversed
  | n + 1, reversed => extend n (nextWord reversed :: reversed)

/-- The 64 words of a block. -/
def schedule (block : List UInt8) : List UInt32 := (extend 48 (words block).reverse).reverse

/-- The state after a block. -/
def State.absorb (s : State) (block : List UInt8) : State :=
  s.add (((schedule block).zip roundConstants).foldl (fun t (w, k) => t.round w k) s)

/-- A number as bytes, the highest first. -/
def bytesOf : Nat → Nat → List UInt8
  | 0, _ => []
  | count + 1, n => bytesOf count (n / 256) ++ [UInt8.ofNat n]

/-- A message with its padding. -/
def padded (message : List UInt8) : List UInt8 :=
  message ++ 0x80 :: List.replicate ((119 - message.length % 64) % 64) 0 ++
    bytesOf 8 (8 * message.length)

/-- Bytes in blocks of 64. -/
def blocks (bs : List UInt8) : List (List UInt8) :=
  match bs with
  | [] => []
  | b :: rest => (b :: rest.take 63) :: blocks (rest.drop 63)
termination_by bs.length
decreasing_by
  simp only [List.length_drop, List.length_cons]
  omega

/-- The bytes of a state. -/
def State.bytes (s : State) : List UInt8 :=
  [s.a, s.b, s.c, s.d, s.e, s.f, s.g, s.h].flatMap fun w => bytesOf 4 w.toNat

/-- The digest of a message. -/
def sha256 (message : List UInt8) : List UInt8 :=
  ((blocks (padded message)).foldl State.absorb State.first).bytes

end Waybill.Digest
