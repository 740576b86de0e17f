/-
AtaVolume.Sector — bytes and sectors, the units every layer moves.

A sector is 512 bytes, and its size is part of its type. Looking a byte up
never fails: past the end a sector reads zero, which is also what padding
a shorter record to a sector means (`Sector.ofBytes`).
-/

namespace AtaVolume

/-- Any run of bytes: a transfer buffer, a bitmap, a record. -/
abbrev Bytes := Array UInt8

/-- Bytes in a sector, the least amount a drive transfers. -/
abbrev sectorSize : Nat := 512

/-- One sector. -/
abbrev Sector := Vector UInt8 512

/-- The most sectors that one command transfers. -/
abbrev maxTransfer : Nat := 256

/-- The greatest sector number that 28-bit addressing can name. -/
abbrev lba28Max : Nat := 0x0FFFFFFF

/-! ## §1 Runs of bytes -/

/-- Every byte is zero. -/
def isZeroed (bytes : Bytes) : Bool := bytes.all (· == 0)

/-- `n` zero bytes. -/
def zeroes (n : Nat) : Bytes := Array.replicate n 0

/-- The bytes cut or padded with zeros to length `n`. -/
def fitTo (n : Nat) (bytes : Bytes) : Bytes :=
  bytes.extract 0 n ++ Array.replicate (n - bytes.size) 0

/-- `buffer` with its first bytes replaced by `front`, its length kept. -/
def overwriteFront (front buffer : Bytes) : Bytes :=
  front.extract 0 buffer.size ++ buffer.extract front.size buffer.size

theorem size_overwriteFront (front buffer : Bytes) :
    (overwriteFront front buffer).size = buffer.size := by
  simp only [overwriteFront, Array.size_append, Array.size_extract]
  omega

/-- The whole sectors that lie in a run of bytes. -/
def wholeSectors (bytes : Bytes) : Nat := bytes.size / sectorSize

/-- The bytes of sector `k` of a run of bytes. -/
def sectorBytes (bytes : Bytes) (k : Nat) : Bytes :=
  bytes.extract (k * sectorSize) ((k + 1) * sectorSize)

/-! ## §2 Sectors -/

namespace Sector

/-- The sector of zeros. -/
def zero : Sector := Vector.replicate 512 0

/-- The byte at offset `i`; zero past the end. -/
@[inline] def byte (s : Sector) (i : Nat) : UInt8 := s.toArray.getD i 0

/-- The bytes cut or padded with zeros to one sector. -/
def ofBytes (bytes : Bytes) : Sector := Vector.ofFn fun i => bytes.getD i.val 0

/-- The bytes of the sector. -/
def toBytes (s : Sector) : Bytes := s.toArray

/-- The little-endian word at byte offset `i`. -/
@[inline] def word (s : Sector) (i : Nat) : UInt16 :=
  (s.byte i).toUInt16 ||| ((s.byte (i + 1)).toUInt16 <<< 8)

/-- The sector with the word at byte offset `i` replaced, low byte first. -/
@[inline] def setWord (s : Sector) (i : Nat) (w : UInt16) : Sector :=
  (s.setIfInBounds i w.toUInt8).setIfInBounds (i + 1) (w >>> 8).toUInt8

/-- The sector with the bytes from offset `i` on replaced by `bytes`; what
would lie past the end is dropped. -/
def splice (s : Sector) (i : Nat) (bytes : Bytes) : Sector :=
  Vector.ofFn fun k =>
    if i ≤ k.val ∧ k.val < i + bytes.size then bytes.getD (k.val - i) 0 else s[k]

/-- The sector with its first byte complemented. -/
def corrupted (s : Sector) : Sector := s.setIfInBounds 0 (s.byte 0 ^^^ 0xFF)

end Sector

end AtaVolume
