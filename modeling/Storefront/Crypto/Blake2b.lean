import Storefront.Bytes

namespace Storefront.Blake2b

/-- Sixteen words, worked on as four rows of four. -/
structure Words where
  w0 : UInt64
  w1 : UInt64
  w2 : UInt64
  w3 : UInt64
  w4 : UInt64
  w5 : UInt64
  w6 : UInt64
  w7 : UInt64
  w8 : UInt64
  w9 : UInt64
  w10 : UInt64
  w11 : UInt64
  w12 : UInt64
  w13 : UInt64
  w14 : UInt64
  w15 : UInt64

/-- Four words of a column or a diagonal. -/
structure Quad where
  a : UInt64
  b : UInt64
  c : UInt64
  d : UInt64

def rotr (x n : UInt64) : UInt64 := (x >>> n) ||| (x <<< (64 - n))

/-- Mixes two words of the message into four words of the state. -/
def mix (q : Quad) (x y : UInt64) : Quad :=
  let a := q.a + q.b + x
  let d := rotr (q.d ^^^ a) 32
  let c := q.c + d
  let b := rotr (q.b ^^^ c) 24
  let a := a + b + y
  let d := rotr (d ^^^ a) 16
  let c := c + d
  ⟨a, rotr (b ^^^ c) 63, c, d⟩

/-- The order in which each round takes the words of the message. -/
def orders : List (List Nat) :=
  [[0, 1, 2, 3, 4, 5, 6, 7, 8, 9, 10, 11, 12, 13, 14, 15],
   [14, 10, 4, 8, 9, 15, 13, 6, 1, 12, 0, 2, 11, 7, 5, 3],
   [11, 8, 12, 0, 5, 2, 15, 13, 10, 14, 3, 6, 7, 1, 9, 4],
   [7, 9, 3, 1, 13, 12, 11, 14, 2, 6, 5, 10, 4, 0, 15, 8],
   [9, 0, 5, 7, 2, 4, 10, 15, 14, 1, 11, 12, 6, 8, 3, 13],
   [2, 12, 6, 10, 0, 11, 8, 3, 4, 13, 7, 5, 15, 14, 1, 9],
   [12, 5, 1, 15, 14, 13, 4, 10, 0, 7, 6, 3, 9, 2, 8, 11],
   [13, 11, 7, 14, 12, 1, 3, 9, 5, 0, 15, 4, 8, 6, 2, 10],
   [6, 15, 14, 9, 11, 3, 0, 8, 12, 2, 13, 7, 1, 4, 10, 5],
   [10, 2, 8, 4, 7, 6, 1, 5, 15, 11, 9, 14, 3, 12, 13, 0],
   [0, 1, 2, 3, 4, 5, 6, 7, 8, 9, 10, 11, 12, 13, 14, 15],
   [14, 10, 4, 8, 9, 15, 13, 6, 1, 12, 0, 2, 11, 7, 5, 3]]

/-- A round: the four columns, then the four diagonals. -/
def round (v : Words) (m : Array UInt64) (order : List Nat) : Words :=
  let word (i : Nat) : UInt64 := m.getD (order.getD i 0) 0
  let p := mix ⟨v.w0, v.w4, v.w8, v.w12⟩ (word 0) (word 1)
  let q := mix ⟨v.w1, v.w5, v.w9, v.w13⟩ (word 2) (word 3)
  let r := mix ⟨v.w2, v.w6, v.w10, v.w14⟩ (word 4) (word 5)
  let s := mix ⟨v.w3, v.w7, v.w11, v.w15⟩ (word 6) (word 7)
  let p' := mix ⟨p.a, q.b, r.c, s.d⟩ (word 8) (word 9)
  let q' := mix ⟨q.a, r.b, s.c, p.d⟩ (word 10) (word 11)
  let r' := mix ⟨r.a, s.b, p.c, q.d⟩ (word 12) (word 13)
  let s' := mix ⟨s.a, p.b, q.c, r.d⟩ (word 14) (word 15)
  ⟨p'.a, q'.a, r'.a, s'.a, s'.b, p'.b, q'.b, r'.b, r'.c, s'.c, p'.c, q'.c, q'.d, r'.d, s'.d, p'.d⟩

/-- The eight words carried from block to block. -/
structure State where
  h0 : UInt64
  h1 : UInt64
  h2 : UInt64
  h3 : UInt64
  h4 : UInt64
  h5 : UInt64
  h6 : UInt64
  h7 : UInt64

def State.initial : State :=
  ⟨0x6a09e667f3bcc908, 0xbb67ae8584caa73b, 0x3c6ef372fe94f82b, 0xa54ff53a5f1d36f1,
   0x510e527fade682d1, 0x9b05688c2b3e6c1f, 0x1f83d9abfb41bd6b, 0x5be0cd19137e2179⟩

/-- Folds a block in; `count` is the number of message bytes up to its end. -/
def compress (h : State) (block : Bytes) (count : Nat) (last : Bool) : State :=
  let m := ((Bytes.groups 8 block).map fun g => (Bytes.ofLittleEndian g).toUInt64).toArray
  let z := State.initial
  let start : Words :=
    ⟨h.h0, h.h1, h.h2, h.h3, h.h4, h.h5, h.h6, h.h7, z.h0, z.h1, z.h2, z.h3,
     z.h4 ^^^ count.toUInt64, z.h5 ^^^ (count >>> 64).toUInt64,
     if last then ~~~z.h6 else z.h6, z.h7⟩
  let v := orders.foldl (fun v order => round v m order) start
  ⟨h.h0 ^^^ v.w0 ^^^ v.w8, h.h1 ^^^ v.w1 ^^^ v.w9, h.h2 ^^^ v.w2 ^^^ v.w10,
   h.h3 ^^^ v.w3 ^^^ v.w11, h.h4 ^^^ v.w4 ^^^ v.w12, h.h5 ^^^ v.w5 ^^^ v.w13,
   h.h6 ^^^ v.w6 ^^^ v.w14, h.h7 ^^^ v.w7 ^^^ v.w15⟩

def State.bytes (s : State) : Bytes :=
  [s.h0, s.h1, s.h2, s.h3, s.h4, s.h5, s.h6, s.h7].flatMap fun w => Bytes.littleEndian 8 w.toNat

/-- BLAKE2b of RFC 7693 without a key: the first `size` bytes of the last state.  The last block is filled up with
zero bytes; an empty message has one block of them. -/
def digest (size : Nat) (message : Bytes) : Bytes :=
  let z := State.initial
  let h := { z with h0 := z.h0 ^^^ 0x01010000 ^^^ size.toUInt64 }
  let blocks := match Bytes.groups 128 message with
    | [] => [[]]
    | bs => bs
  let step (acc : State × Nat × Nat) (block : Bytes) : State × Nat × Nat :=
    let (h, count, left) := acc
    let count := count + block.length
    let full := block ++ List.replicate (128 - block.length) 0
    (compress h full count (left == 1), count, left - 1)
  ((blocks.foldl step (h, 0, blocks.length)).1.bytes).take size

end Storefront.Blake2b
