/-
AtaVolume.Media.Memory — a medium with a place for every sector.

Suits small drives: all sectors are there from the start, as zeros. There are
at most as many as sector numbers can count, which the type carries.
-/
import AtaVolume.Media.Error

namespace AtaVolume

/-- All sectors of the medium in order. -/
structure MemoryMedium where
  sectors : Array Sector
  size_lt : sectors.size < UInt32.size

namespace MemoryMedium

/-- `count` sectors of zeros. -/
def blank (count : UInt32) : MemoryMedium where
  sectors := Array.replicate count.toNat Sector.zero
  size_lt := by rw [Array.size_replicate]; exact count.toNat_lt

/-- The number of sectors. -/
def sectorCount (m : MemoryMedium) : UInt32 := UInt32.ofNat m.sectors.size

/-- The content of sector `lba`. -/
def readSector (m : MemoryMedium) (lba : UInt32) : Except MediumError Sector :=
  match m.sectors[lba.toNat]? with
  | some s => .ok s
  | none => .error (.beyondEnd lba m.sectorCount)

/-- The medium with sector `lba` replaced. -/
def put (lba : UInt32) (data : Sector) : MemoryMedium → MemoryMedium
  | ⟨sectors, size_lt⟩ =>
    ⟨sectors.setIfInBounds lba.toNat data, by rwa [Array.size_setIfInBounds]⟩

/-- Replaces sector `lba`. -/
def writeSector (lba : UInt32) (data : Sector) : EStateM MediumError MemoryMedium Unit := fun m =>
  if lba.toNat < m.sectors.size then .ok () (put lba data m)
  else .error (.beyondEnd lba m.sectorCount) m

end MemoryMedium

end AtaVolume
