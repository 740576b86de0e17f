/-
AtaVolume.Volume.Bitmap — which blocks are in use.

Bit `b % 8` of byte `b / 8` tells about block `b`: set means used. Beside the
bits the bitmap keeps how many blocks are used and free, and changes these
numbers with every bit that changes. Blocks from `total` on do not exist and
count as used.
-/
import AtaVolume.Volume.Superblock

namespace AtaVolume

/-- Bits, the number of blocks they tell about, and how many of these are free
and used. -/
structure BlockBitmap where
  bits : Bytes
  total : UInt32
  freeCount : UInt32
  usedCount : UInt32
  deriving DecidableEq, Repr

namespace BlockBitmap

/-! ## §1 Counting bits -/

/-- The number of bits set in a byte. -/
def popCount (b : UInt8) : Nat :=
  let bit (k : UInt8) : UInt8 := (b >>> k) &&& 1
  (bit 0 + bit 1 + bit 2 + bit 3 + bit 4 + bit 5 + bit 6 + bit 7).toNat

/-- The byte with only its first `n` bits kept. -/
def lowBits (n : Nat) (b : UInt8) : UInt8 := b &&& UInt8.ofNat ((1 <<< n) - 1)

/-- How many of the first `total` bits are set. -/
def countUsed (bits : Bytes) (total : UInt32) : Nat :=
  let full := total.toNat / 8
  bits.foldl (fun n b => n + popCount b) 0 0 full
    + popCount (lowBits (total.toNat % 8) (bits.getD full 0))

/-- Bytes that hold `total` bits. -/
def byteLength (total : UInt32) : Nat := (total.toNat + 7) / 8

/-! ## §2 Making bitmaps -/

/-- All blocks are free. -/
def blank (total : UInt32) : BlockBitmap :=
  { bits := zeroes (byteLength total), total, freeCount := total, usedCount := 0 }

/-- The bitmap with its numbers counted anew. -/
def recount (m : BlockBitmap) : BlockBitmap :=
  let used := UInt32.ofNat (countUsed m.bits m.total)
  { m with usedCount := used, freeCount := m.total - used }

/-- The bitmap with these bits; missing bytes are zero. -/
def ofBytes (bytes : Bytes) (total : UInt32) : BlockBitmap :=
  recount { bits := fitTo (byteLength total) bytes, total, freeCount := 0, usedCount := 0 }

/-- The number of sectors that the bits take. -/
def sectorLength (m : BlockBitmap) : Nat := (m.bits.size + 511) / sectorSize

/-- The bits, padded with zeros to whole sectors. -/
def toBytes (m : BlockBitmap) : Bytes := fitTo (m.sectorLength * sectorSize) m.bits

/-! ## §3 Blocks -/

/-- The mask of a block's bit in its byte. -/
def mask (block : Nat) : UInt8 := 1 <<< UInt8.ofNat (block % 8)

/-- The bit of a block. -/
def bit (bits : Bytes) (block : Nat) : Bool := bits.getD (block / 8) 0 &&& mask block != 0

/-- The block is used, or does not exist. -/
def isUsed (m : BlockBitmap) (block : UInt32) : Bool :=
  if m.total ≤ block then true else bit m.bits block.toNat

/-- Marks a block as used; tells whether that is a change. -/
def setUsed (m : BlockBitmap) (block : UInt32) : Bool × BlockBitmap :=
  if m.isUsed block then (false, m)
  else
    (true, { m with bits := m.bits.modify (block.toNat / 8) (· ||| mask block.toNat)
                    freeCount := m.freeCount - 1
                    usedCount := m.usedCount + 1 })

/-- Marks a block as free; tells whether that is a change. -/
def setFree (m : BlockBitmap) (block : UInt32) : Bool × BlockBitmap :=
  if m.total ≤ block then (false, m)
  else if m.isUsed block then
    (true, { m with bits := m.bits.modify (block.toNat / 8) (· &&& ~~~ mask block.toNat)
                    freeCount := m.freeCount + 1
                    usedCount := m.usedCount - 1 })
  else (false, m)

/-! ## §4 First fit -/

/-- The first free block among `block ..< total`. A byte without free blocks is
passed over as a whole. -/
def searchFree (bits : Bytes) (total block : Nat) : Option Nat :=
  if block < total then
    if block % 8 = 0 ∧ bits.getD (block / 8) 0 = 0xFF then searchFree bits total (block + 8)
    else if bit bits block then searchFree bits total (block + 1)
    else some block
  else none
termination_by total - block

/-- The first free block from `start` on. -/
def firstFree (m : BlockBitmap) (start : UInt32) : Option UInt32 :=
  (searchFree m.bits m.total.toNat start.toNat).map UInt32.ofNat

end BlockBitmap

end AtaVolume
