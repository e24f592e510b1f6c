import Storefront.Crypto.Blake2b

namespace Storefront.Argon2
open Blake2b (Words Quad rotr)

/-- The mixing step of BLAKE2b with a product of the low halves in place of the message word. -/
@[inline] def fold (x y : UInt64) : UInt64 :=
  x + y + 2 * (x &&& 0xffffffff) * (y &&& 0xffffffff)

@[inline] def mix (q : Quad) : Quad :=
  let a := fold q.a q.b
  let d := rotr (q.d ^^^ a) 32
  let c := fold q.c d
  let b := rotr (q.b ^^^ c) 24
  let a := fold a b
  let d := rotr (d ^^^ a) 16
  let c := fold c d
  ⟨a, rotr (b ^^^ c) 63, c, d⟩

/-- The permutation P of sixteen words: four columns, then four diagonals. -/
def permute (v : Words) : Words :=
  let p := mix ⟨v.w0, v.w4, v.w8, v.w12⟩
  let q := mix ⟨v.w1, v.w5, v.w9, v.w13⟩
  let r := mix ⟨v.w2, v.w6, v.w10, v.w14⟩
  let s := mix ⟨v.w3, v.w7, v.w11, v.w15⟩
  let p' := mix ⟨p.a, q.b, r.c, s.d⟩
  let q' := mix ⟨q.a, r.b, s.c, p.d⟩
  let r' := mix ⟨r.a, s.b, p.c, q.d⟩
  let s' := mix ⟨s.a, p.b, q.c, r.d⟩
  ⟨p'.a, q'.a, r'.a, s'.a, s'.b, p'.b, q'.b, r'.b, r'.c, s'.c, p'.c, q'.c, q'.d, r'.d, s'.d, p'.d⟩

def xorWords (a b : Words) : Words :=
  ⟨a.w0 ^^^ b.w0, a.w1 ^^^ b.w1, a.w2 ^^^ b.w2, a.w3 ^^^ b.w3,
     a.w4 ^^^ b.w4, a.w5 ^^^ b.w5, a.w6 ^^^ b.w6, a.w7 ^^^ b.w7,
     a.w8 ^^^ b.w8, a.w9 ^^^ b.w9, a.w10 ^^^ b.w10, a.w11 ^^^ b.w11,
     a.w12 ^^^ b.w12, a.w13 ^^^ b.w13, a.w14 ^^^ b.w14, a.w15 ^^^ b.w15⟩

def wordsOf (w : Nat → UInt64) : Words :=
  ⟨w 0, w 1, w 2, w 3,
     w 4, w 5, w 6, w 7,
     w 8, w 9, w 10, w 11,
     w 12, w 13, w 14, w 15⟩

def listOf (a : Words) : List UInt64 :=
  [a.w0, a.w1, a.w2, a.w3,
     a.w4, a.w5, a.w6, a.w7,
     a.w8, a.w9, a.w10, a.w11,
     a.w12, a.w13, a.w14, a.w15]

/-- A block of 1024 bytes, seen as eight rows of sixteen words. -/
structure Block where
  r0 : Words
  r1 : Words
  r2 : Words
  r3 : Words
  r4 : Words
  r5 : Words
  r6 : Words
  r7 : Words

namespace Block

/-- Applies `f` to every row. -/
@[inline] def map (f : Words → Words) (b : Block) : Block :=
  ⟨f b.r0, f b.r1, f b.r2, f b.r3, f b.r4, f b.r5, f b.r6, f b.r7⟩

def xor (a b : Block) : Block :=
  ⟨xorWords a.r0 b.r0, xorWords a.r1 b.r1, xorWords a.r2 b.r2, xorWords a.r3 b.r3,
   xorWords a.r4 b.r4, xorWords a.r5 b.r5, xorWords a.r6 b.r6, xorWords a.r7 b.r7⟩

/-- Exchanges rows and columns, where a column is a pair of words of each row. -/
def transpose (b : Block) : Block :=
  ⟨⟨b.r0.w0, b.r0.w1, b.r1.w0, b.r1.w1, b.r2.w0, b.r2.w1, b.r3.w0, b.r3.w1,
     b.r4.w0, b.r4.w1, b.r5.w0, b.r5.w1, b.r6.w0, b.r6.w1, b.r7.w0, b.r7.w1⟩,
    ⟨b.r0.w2, b.r0.w3, b.r1.w2, b.r1.w3, b.r2.w2, b.r2.w3, b.r3.w2, b.r3.w3,
     b.r4.w2, b.r4.w3, b.r5.w2, b.r5.w3, b.r6.w2, b.r6.w3, b.r7.w2, b.r7.w3⟩,
    ⟨b.r0.w4, b.r0.w5, b.r1.w4, b.r1.w5, b.r2.w4, b.r2.w5, b.r3.w4, b.r3.w5,
     b.r4.w4, b.r4.w5, b.r5.w4, b.r5.w5, b.r6.w4, b.r6.w5, b.r7.w4, b.r7.w5⟩,
    ⟨b.r0.w6, b.r0.w7, b.r1.w6, b.r1.w7, b.r2.w6, b.r2.w7, b.r3.w6, b.r3.w7,
     b.r4.w6, b.r4.w7, b.r5.w6, b.r5.w7, b.r6.w6, b.r6.w7, b.r7.w6, b.r7.w7⟩,
    ⟨b.r0.w8, b.r0.w9, b.r1.w8, b.r1.w9, b.r2.w8, b.r2.w9, b.r3.w8, b.r3.w9,
     b.r4.w8, b.r4.w9, b.r5.w8, b.r5.w9, b.r6.w8, b.r6.w9, b.r7.w8, b.r7.w9⟩,
    ⟨b.r0.w10, b.r0.w11, b.r1.w10, b.r1.w11, b.r2.w10, b.r2.w11, b.r3.w10, b.r3.w11,
     b.r4.w10, b.r4.w11, b.r5.w10, b.r5.w11, b.r6.w10, b.r6.w11, b.r7.w10, b.r7.w11⟩,
    ⟨b.r0.w12, b.r0.w13, b.r1.w12, b.r1.w13, b.r2.w12, b.r2.w13, b.r3.w12, b.r3.w13,
     b.r4.w12, b.r4.w13, b.r5.w12, b.r5.w13, b.r6.w12, b.r6.w13, b.r7.w12, b.r7.w13⟩,
    ⟨b.r0.w14, b.r0.w15, b.r1.w14, b.r1.w15, b.r2.w14, b.r2.w15, b.r3.w14, b.r3.w15,
     b.r4.w14, b.r4.w15, b.r5.w14, b.r5.w15, b.r6.w14, b.r6.w15, b.r7.w14, b.r7.w15⟩⟩

/-- The compression function G.  It permutes the rows, then the columns, of the sum of two blocks. -/
def fill (a b : Block) : Block :=
  let sum := xor a b
  xor (transpose (map permute (transpose (map permute sum)))) sum

/-- The block whose word number `i` is `w i`. -/
def ofFn (w : Nat → UInt64) : Block :=
  let row (r : Nat) : Words := wordsOf fun i => w (16 * r + i)
  ⟨row 0, row 1, row 2, row 3, row 4, row 5, row 6, row 7⟩

def zero : Block := ofFn fun _ => 0

def toList (b : Block) : List UInt64 :=
  [b.r0, b.r1, b.r2, b.r3, b.r4, b.r5, b.r6, b.r7].flatMap listOf

def ofBytes (b : Bytes) : Block :=
  let words := ((Bytes.groups 8 b).map fun g => (Bytes.ofLittleEndian g).toUInt64).toArray
  ofFn fun i => words.getD i 0

def bytes (b : Block) : Bytes :=
  b.toList.flatMap fun w => Bytes.littleEndian 8 w.toNat

end Block
end Storefront.Argon2
