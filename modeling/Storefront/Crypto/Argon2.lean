import Storefront.Crypto.Argon2.Block

namespace Storefront.Argon2

/-- How the second block of each step is chosen: by the data, by the position alone, or by the
position in the first half of the first pass and by the data afterwards. -/
inductive Kind
  | d
  | i
  | id
  deriving DecidableEq, Repr

def Kind.number : Kind → Nat
  | .d => 0
  | .i => 1
  | .id => 2

/-- The costs of Argon2 (RFC 9106) in its three kinds and two versions. -/
structure Parameters where
  kind : Kind
  /-- 16, or 19 with the revised order of passes. -/
  version : Nat
  /-- In kibibytes. -/
  memory : Nat
  passes : Nat
  lanes : Nat
  size : Nat
  associated : Bytes

/-- What RFC 9106 asks of the costs. -/
def Parameters.valid (p : Parameters) : Bool :=
  decide (1 ≤ p.passes ∧ 1 ≤ p.lanes ∧ p.lanes ≤ 0xffffff ∧ 8 * p.lanes ≤ p.memory ∧ 4 ≤ p.size)

/-- Blocks of one lane in one slice. -/
def Parameters.segment (p : Parameters) : Nat := p.memory / (4 * p.lanes)

/-- Blocks of one lane. -/
def Parameters.columns (p : Parameters) : Nat := 4 * p.segment

/-- The variable-length hash H': up to 64 bytes one digest, beyond that the first halves of a chain of
digests and all of its last one. -/
def longDigest (size : Nat) (message : Bytes) : Bytes :=
  let message := Bytes.littleEndian 4 size ++ message
  if size ≤ 64 then Blake2b.digest size message
  else
    let halves := (size + 31) / 32 - 2
    let step (acc : Bytes × Bytes) (_ : Nat) : Bytes × Bytes :=
      let next := Blake2b.digest 64 acc.2
      (acc.1 ++ next.take 32, next)
    let first := Blake2b.digest 64 message
    let chain := (List.range (halves - 1)).foldl step (first.take 32, first)
    chain.1 ++ Blake2b.digest (size - 32 * halves) chain.2

def withLength (b : Bytes) : Bytes := Bytes.littleEndian 4 b.length ++ b

/-- The hash of all inputs from which the first blocks are made. -/
def seed (p : Parameters) (password salt : Bytes) : Bytes :=
  Blake2b.digest 64 <|
    ([p.lanes, p.size, p.memory, p.passes, p.version, p.kind.number].flatMap (Bytes.littleEndian 4))
      ++ withLength password ++ withLength salt ++ withLength [] ++ withLength p.associated

/-- Where in the computation a block is written. -/
structure Place where
  pass : Nat
  slice : Nat
  lane : Nat
  index : Nat

def byPosition (p : Parameters) (pass slice : Nat) : Bool :=
  match p.kind with
  | .d => false
  | .i => true
  | .id => pass == 0 && slice < 2

/-- The pseudo-random words of a segment that is addressed by position. -/
def addresses (p : Parameters) (pass slice lane : Nat) : Array UInt64 :=
  let entry (counter : Nat) (i : Nat) : UInt64 :=
    ([pass, lane, slice, 4 * p.lanes * p.segment, p.passes, p.kind.number, counter].getD i 0).toUInt64
  let block (n : Nat) : List UInt64 :=
    (Block.fill .zero (Block.fill .zero (Block.ofFn (entry (n + 1))))).toList
  ((List.range (p.segment / 128 + 1)).flatMap block).toArray

/-- How many blocks the second operand is chosen from. -/
def areaSize (p : Parameters) (place : Place) (sameLane : Bool) : Nat :=
  let before := if place.pass == 0 then place.slice * p.segment else p.columns - p.segment
  if sameLane then before + place.index - 1
  else if place.index == 0 then before - 1 else before

/-- The cell of the second operand: the word picks the lane with its high half and, favouring recent
blocks, the column with its low half. -/
def reference (p : Parameters) (place : Place) (word : UInt64) : Nat :=
  let low := (word &&& 0xffffffff).toNat
  let high := (word >>> 32).toNat
  let lane := if place.pass == 0 && place.slice == 0 then place.lane else high % p.lanes
  let area := areaSize p place (lane == place.lane)
  let x := (low * low) >>> 32
  let y := (area * x) >>> 32
  let start := if place.pass == 0 || place.slice == 3 then 0 else (place.slice + 1) * p.segment
  lane * p.columns + (start + (area - 1 - y)) % p.columns

/-- Writes one block.  From the second pass on version 19 adds to the old block. -/
def writeBlock (p : Parameters) (words : Array UInt64) (place : Place) (memory : Array Block) :
    Array Block :=
  let column := place.slice * p.segment + place.index
  let row := place.lane * p.columns
  let before := memory.getD (row + (column + p.columns - 1) % p.columns) .zero
  let word := if byPosition p place.pass place.slice then words.getD place.index 0 else before.r0.w0
  let made := Block.fill before (memory.getD (reference p place word) .zero)
  if place.pass == 0 || p.version == 16 then memory.setIfInBounds (row + column) made
  else
    let old := memory.getD (row + column) .zero
    memory.setIfInBounds (row + column) (Block.xor made old)

/-- Fills one segment; the first two blocks of a lane are there from the start. -/
def fillSegment (p : Parameters) (memory : Array Block) (pass slice lane : Nat) : Array Block :=
  let words := if byPosition p pass slice then addresses p pass slice lane else #[]
  let skip := if pass == 0 && slice == 0 then 2 else 0
  (List.range (p.segment - skip)).foldl
    (fun memory i => writeBlock p words ⟨pass, slice, lane, skip + i⟩ memory) memory

/-- The order in which segments are filled. -/
def schedule (p : Parameters) : List (Nat × Nat × Nat) :=
  (List.range p.passes).flatMap fun pass => (List.range 4).flatMap fun slice =>
    (List.range p.lanes).map fun lane => (pass, slice, lane)

/-- The memory before the first pass: the first two blocks of each lane. -/
def start (p : Parameters) (seed : Bytes) : Array Block :=
  let first (lane column : Nat) : Block :=
    Block.ofBytes <| longDigest 1024 <|
      seed ++ Bytes.littleEndian 4 column ++ Bytes.littleEndian 4 lane
  (List.range p.lanes).foldl
    (fun memory lane =>
      (memory.setIfInBounds (lane * p.columns) (first lane 0)).setIfInBounds
        (lane * p.columns + 1) (first lane 1))
    (Array.replicate (p.lanes * p.columns) Block.zero)

/-- The tag of a password under a salt.  The memory is a matrix of blocks with a row for each lane, filled in passes;
a pass goes through four slices, and a block of a slice is made from the one before it and one block chosen among
those that are already final. -/
def hash (p : Parameters) (password salt : Bytes) : Bytes :=
  let memory := (schedule p).foldl
    (fun memory (pass, slice, lane) => fillSegment p memory pass slice lane)
    (start p (seed p password salt))
  let last := (List.range p.lanes).foldl
    (fun sum lane => Block.xor sum (memory.getD ((lane + 1) * p.columns - 1) .zero)) Block.zero
  longDigest p.size last.bytes

end Storefront.Argon2
