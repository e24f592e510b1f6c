import Storefront.Bytes

namespace Storefront.Sha256

/-- The eight words carried from block to block. -/
structure State where
  a : UInt32
  b : UInt32
  c : UInt32
  d : UInt32
  e : UInt32
  f : UInt32
  g : UInt32
  h : UInt32

def State.start : State :=
  ⟨0x6a09e667, 0xbb67ae85, 0x3c6ef372, 0xa54ff53a, 0x510e527f, 0x9b05688c, 0x1f83d9ab, 0x5be0cd19⟩

def State.add (s t : State) : State :=
  ⟨s.a + t.a, s.b + t.b, s.c + t.c, s.d + t.d, s.e + t.e, s.f + t.f, s.g + t.g, s.h + t.h⟩

/-- One constant a round: the first bits of the fractional parts of the cube roots of the primes. -/
def constants : List UInt32 :=
  [0x428a2f98, 0x71374491, 0xb5c0fbcf, 0xe9b5dba5, 0x3956c25b, 0x59f111f1, 0x923f82a4, 0xab1c5ed5,
   0xd807aa98, 0x12835b01, 0x243185be, 0x550c7dc3, 0x72be5d74, 0x80deb1fe, 0x9bdc06a7, 0xc19bf174,
   0xe49b69c1, 0xefbe4786, 0x0fc19dc6, 0x240ca1cc, 0x2de92c6f, 0x4a7484aa, 0x5cb0a9dc, 0x76f988da,
   0x983e5152, 0xa831c66d, 0xb00327c8, 0xbf597fc7, 0xc6e00bf3, 0xd5a79147, 0x06ca6351, 0x14292967,
   0x27b70a85, 0x2e1b2138, 0x4d2c6dfc, 0x53380d13, 0x650a7354, 0x766a0abb, 0x81c2c92e, 0x92722c85,
   0xa2bfe8a1, 0xa81a664b, 0xc24b8b70, 0xc76c51a3, 0xd192e819, 0xd6990624, 0xf40e3585, 0x106aa070,
   0x19a4c116, 0x1e376c08, 0x2748774c, 0x34b0bcb5, 0x391c0cb3, 0x4ed8aa4a, 0x5b9cca4f, 0x682e6ff3,
   0x748f82ee, 0x78a5636f, 0x84c87814, 0x8cc70208, 0x90befffa, 0xa4506ceb, 0xbef9a3f7, 0xc67178f2]

def rotr (x n : UInt32) : UInt32 := (x >>> n) ||| (x <<< (32 - n))

/-- One round with its constant and its word of the schedule. -/
def round (s : State) (k w : UInt32) : State :=
  let t1 := s.h + (rotr s.e 6 ^^^ rotr s.e 11 ^^^ rotr s.e 25)
    + ((s.e &&& s.f) ^^^ (~~~s.e &&& s.g)) + k + w
  let t2 := (rotr s.a 2 ^^^ rotr s.a 13 ^^^ rotr s.a 22)
    + ((s.a &&& s.b) ^^^ (s.a &&& s.c) ^^^ (s.b &&& s.c))
  ⟨t1 + t2, s.a, s.b, s.c, s.d + t1, s.e, s.f, s.g⟩

/-- The word that follows the words so far, of which there are at least sixteen. -/
def nextWord (w : Array UInt32) : UInt32 :=
  let back (i : Nat) : UInt32 := w.getD (w.size - i) 0
  let x := back 15
  let y := back 2
  back 16 + (rotr x 7 ^^^ rotr x 18 ^^^ (x >>> 3)) + back 7 + (rotr y 17 ^^^ rotr y 19 ^^^ (y >>> 10))

/-- The sixteen words of a block and the forty-eight made from them. -/
def schedule (block : Bytes) : Array UInt32 :=
  let words := (Bytes.groups 4 block).map fun g => (Bytes.ofLittleEndian g.reverse).toUInt32
  (List.range 48).foldl (fun w _ => w.push (nextWord w)) words.toArray

def compress (s : State) (block : Bytes) : State :=
  s.add ((constants.zip (schedule block).toList).foldl (fun t p => round t p.1 p.2) s)

/-- A one bit, zero bits up to the last eight bytes of a block, and the length in bits. -/
def pad (message : Bytes) : Bytes :=
  let n := message.length
  message ++ 0x80 :: List.replicate ((119 - n % 64) % 64) 0 ++ Bytes.bigEndian 8 (8 * n)

def State.bytes (s : State) : Bytes :=
  [s.a, s.b, s.c, s.d, s.e, s.f, s.g, s.h].flatMap fun w => Bytes.bigEndian 4 w.toNat

/-- SHA-256 of FIPS 180-4: the message is padded to whole blocks of 64 bytes and each block is folded into eight
words. -/
def digest (message : Bytes) : Bytes :=
  ((Bytes.groups 64 (pad message)).foldl compress .start).bytes

theorem digest_length (message : Bytes) : (digest message).length = 32 := by
  simp [digest, State.bytes, Bytes.bigEndian_length]

end Storefront.Sha256

namespace Storefront.Hmac

/-- A key longer than a block is hashed first; a shorter one is filled up with zero bytes. -/
def blockKey (key : Bytes) : Bytes :=
  let k := if 64 < key.length then Sha256.digest key else key
  k ++ List.replicate (64 - k.length) 0

/-- The keyed hash of RFC 2104 over SHA-256. -/
def sign (key message : Bytes) : Bytes :=
  let k := blockKey key
  Sha256.digest (k.map (· ^^^ 0x5c) ++ Sha256.digest (k.map (· ^^^ 0x36) ++ message))

theorem sign_length (key message : Bytes) : (sign key message).length = 32 :=
  Sha256.digest_length _

end Storefront.Hmac
