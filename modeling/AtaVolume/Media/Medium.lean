/-
AtaVolume.Media.Medium — what a drive keeps its sectors on.

The three kinds of media answer the same calls in the same way; they differ
in what they cost.
-/
import AtaVolume.Media.Memory
import AtaVolume.Media.Sparse
import AtaVolume.Media.Image

namespace AtaVolume

/-- A medium of one of the three kinds. -/
inductive Medium
  | memory (m : MemoryMedium)
  | sparse (m : SparseMedium)
  | file (m : FileImage)

namespace Medium

/-- The number of sectors. -/
def sectorCount : Medium → UInt32
  | .memory m => m.sectorCount
  | .sparse m => m.sectorCount
  | .file m => m.sectorCount

/-- The content of sector `lba`. -/
def readSector (medium : Medium) (lba : UInt32) : Except MediumError Sector :=
  match medium with
  | .memory m => m.readSector lba
  | .sparse m => m.readSector lba
  | .file m => m.readSector lba

/-- A call on a medium of one kind, as a call on a medium. -/
@[inline] def lift {μ : Type} (kind : μ → Medium) (call : EStateM MediumError μ Unit) (m : μ) :
    EStateM.Result MediumError Medium Unit :=
  match call m with
  | .ok _ m => .ok () (kind m)
  | .error e m => .error e (kind m)

/-- Replaces sector `lba`; a medium that refuses stays as it is. -/
def writeSector (lba : UInt32) (data : Sector) : EStateM MediumError Medium Unit := fun medium =>
  match medium with
  | .memory m => lift .memory (MemoryMedium.writeSector lba data) m
  | .sparse m => lift .sparse (SparseMedium.writeSector lba data) m
  | .file m => lift .file (FileImage.writeSector lba data) m

/-- Brings what was written to stable storage. What is written to any of the
media is there at once, so this always succeeds and changes nothing. -/
def flush : EStateM MediumError Medium Unit := fun medium => .ok () medium

/-- The number of sectors that a sparse medium holds; the others count none. -/
def writtenCount : Medium → Nat
  | .sparse m => m.writtenCount
  | _ => 0

/-- What the file of the medium holds, if it is on one. -/
def file? : Medium → Option FileContent
  | .file m => some m.content
  | _ => none

/-- The medium, showing this content if it is on a file. -/
def showing (content : FileContent) : Medium → Medium
  | .file m => .file { m with content }
  | medium => medium

end Medium

end AtaVolume
