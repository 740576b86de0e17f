/-
AtaVolume.Media.Sparse — a medium that keeps only the sectors written to it.

Stands for drives far larger than what is ever stored on them: a sector that
was never written reads as zeros.
-/
import AtaVolume.Media.Error
import Std.Data.HashMap

namespace AtaVolume

/-- The capacity, and the sectors written so far. -/
structure SparseMedium where
  capacity : UInt32
  written : Std.HashMap UInt32 Sector

namespace SparseMedium

/-- `count` sectors, none of them written. -/
def blank (count : UInt32) : SparseMedium := ⟨count, ∅⟩

/-- The number of sectors. -/
def sectorCount (m : SparseMedium) : UInt32 := m.capacity

/-- How many different sectors have been written. -/
def writtenCount (m : SparseMedium) : Nat := m.written.size

/-- The content of sector `lba`. -/
def readSector (m : SparseMedium) (lba : UInt32) : Except MediumError Sector :=
  if lba < m.capacity then .ok (m.written.getD lba Sector.zero)
  else .error (.beyondEnd lba m.capacity)

/-- Replaces sector `lba`. -/
def writeSector (lba : UInt32) (data : Sector) : EStateM MediumError SparseMedium Unit := fun m =>
  if lba < m.capacity then .ok () { m with written := m.written.insert lba data }
  else .error (.beyondEnd lba m.capacity) m

end SparseMedium

end AtaVolume
