/-
AtaVolume.Media.Image — disk images: files whose bytes are a drive's sectors.

A file is a length and its bytes, held in pieces of one sector so that a hole
costs nothing. `FileImage` is a file opened as a medium: opening lengthens a
file that is too short and never shortens one, and the file may hold more
than the medium shows.

An image holds the content of its file as its drive sees it. Two images may be
on one file: which they are, and that a write to one shows on the other, is
known to the machine, which has the files.
-/
import AtaVolume.Media.Error
import Std.Data.HashMap

namespace AtaVolume

/-! ## §1 Files -/

/-- The content of a file. Piece `k` holds the bytes from `k * 512` on; a
piece that is absent is zeros, and so are the bytes of a piece that lie past
the length. -/
structure FileContent where
  length : Nat
  pieces : Std.HashMap Nat Sector

namespace FileContent

/-- The file without any bytes. -/
def empty : FileContent := ⟨0, ∅⟩

/-- The file of so many bytes with these pieces; pieces of zeros are left out. -/
def ofPieces (length : Nat) (piece : Nat → Bytes) : FileContent where
  length
  pieces := (List.range ((length + 511) / sectorSize)).foldl
    (fun pieces k =>
      let bytes := piece k
      if isZeroed bytes then pieces else pieces.insert k (Sector.ofBytes bytes)) ∅

/-- The file with these bytes. -/
def ofBytes (bytes : Bytes) : FileContent := ofPieces bytes.size (sectorBytes bytes)

/-- The file with these bytes, packed. -/
def ofPacked (bytes : ByteArray) : FileContent :=
  ofPieces bytes.size fun k => (bytes.extract (k * sectorSize) ((k + 1) * sectorSize)).data

/-- Piece `k`, padded with zeros. -/
def piece (f : FileContent) (k : Nat) : Sector := f.pieces.getD k Sector.zero

/-- The byte at an offset; zero past the end. -/
def byteAt (f : FileContent) (i : Nat) : UInt8 := (f.piece (i / sectorSize)).byte (i % sectorSize)

/-- All bytes of the file, packed. -/
def toPacked (f : FileContent) : ByteArray :=
  ((List.range ((f.length + 511) / sectorSize)).foldl
    (fun bytes k => bytes ++ ⟨(f.piece k).toArray⟩) ByteArray.empty).extract 0 f.length

/-- The file with zeros behind its end up to length `n`; a file that is at
least as long stays as it is. -/
def lengthen (f : FileContent) (n : Nat) : FileContent := { f with length := max f.length n }

/-- The file with piece `k` replaced. -/
def writePiece (f : FileContent) (k : Nat) (data : Sector) : FileContent where
  length := max f.length ((k + 1) * sectorSize)
  pieces := f.pieces.insert k data

end FileContent

/-! ## §2 Images -/

/-- A file opened as a medium of `capacity` sectors, with what it holds now. -/
structure FileImage where
  content : FileContent
  capacity : UInt32

namespace FileImage

/-- Opens a file as a medium of `count` sectors. -/
def openContent (content : FileContent) (count : UInt32) : FileImage :=
  ⟨content.lengthen (count.toNat * sectorSize), count⟩

/-- The number of sectors. -/
def sectorCount (m : FileImage) : UInt32 := m.capacity

/-- The content of sector `lba`. -/
def readSector (m : FileImage) (lba : UInt32) : Except MediumError Sector :=
  if lba < m.capacity then .ok (m.content.piece lba.toNat)
  else .error (.beyondEnd lba m.capacity)

/-- Replaces sector `lba`. -/
def writeSector (lba : UInt32) (data : Sector) : EStateM MediumError FileImage Unit := fun m =>
  if lba < m.capacity then .ok () { m with content := m.content.writePiece lba.toNat data }
  else .error (.beyondEnd lba m.capacity) m

end FileImage

end AtaVolume
