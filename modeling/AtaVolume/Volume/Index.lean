/-
AtaVolume.Volume.Index — the records that stand for files.

A volume has 128 index slots of one sector each. A slot holds a file or is
free, which its type tag tells; the record takes the first ten bytes of the
sector.
-/
import AtaVolume.Bytes.LittleEndian
import AtaVolume.Volume.Error

namespace AtaVolume

open LittleEndian

/-- What an index slot holds. -/
inductive IndexKind
  | free
  | regular
  deriving DecidableEq, Repr

namespace IndexKind

/-- The kind's tag. -/
def tag : IndexKind → UInt8
  | .free => 0
  | .regular => 1

/-- The kind with a tag. -/
def ofTag? (t : UInt8) : Option IndexKind :=
  if t = 0 then some .free else if t = 1 then some .regular else none

end IndexKind

/-! ## §1 Records -/

/-- One index record. -/
structure Index where
  timeStamp : UInt8 := 0
  /-- The tag of the record's kind. -/
  kind : UInt8 := 0
  /-- Bytes in the file. -/
  size : UInt32 := 0
  /-- The first sector of the file's first block. -/
  firstBlock : UInt32 := 0
  deriving DecidableEq, Repr

namespace Index

/-- A free slot. -/
def vacant : Index := {}

/-- An empty file. -/
def regular : Index := { kind := IndexKind.regular.tag }

/-- The record's kind, if it has one. -/
def indexKind (r : Index) : Except VolumeError IndexKind :=
  match IndexKind.ofTag? r.kind with
  | some kind => .ok kind
  | none => .error (.corrupted (.indexKind r.kind))

/-- The slot is free. -/
def isFree (r : Index) : Bool := r.kind == IndexKind.free.tag

/-- Bytes in a record. -/
abbrev recordLength : Nat := 10

/-- The record's bytes. -/
def record (r : Index) : List UInt8 := [r.timeStamp, r.kind] ++ le32 r.size ++ le32 r.firstBlock

/-- The sector that stores the record. -/
def encode (r : Index) : Sector := Sector.ofBytes r.record.toArray

/-- The record in the first ten bytes. -/
def ofBytes (bytes : Bytes) : Index where
  timeStamp := bytes.getD 0 0
  kind := bytes.getD 1 0
  size := word32 bytes 2
  firstBlock := word32 bytes 6

/-- The record in the first ten bytes, if there are so many. -/
def decode (bytes : Bytes) : Except VolumeError Index :=
  if bytes.size < recordLength then .error .shortRecord else .ok (ofBytes bytes)

end Index

/-! ## §2 The table -/

/-- The records of consecutive index slots. -/
abbrev IndexTable := List Index

namespace IndexTable

/-- The records in the whole sectors of a run of bytes. -/
def ofBytes (bytes : Bytes) : IndexTable :=
  (List.range (wholeSectors bytes)).map fun k => Index.ofBytes (sectorBytes bytes k)

/-- The sector of a slot of a table. -/
def slotLba (tableLba inode : UInt32) : Except VolumeError UInt32 :=
  if tableLba.toNat + inode.toNat < UInt32.size then .ok (tableLba + inode)
  else .error (.corrupted (.slotBeyond inode tableLba))

/-- The first free slot. -/
def findFree (t : IndexTable) : Option UInt32 := (t.findIdx? Index.isFree).map UInt32.ofNat

/-- The number of free slots. -/
def freeCount (t : IndexTable) : UInt32 := UInt32.ofNat (t.countP Index.isFree)

/-- The slots that hold files, in order, with their records. -/
def used (t : IndexTable) : List (UInt32 × Index) :=
  (t.zipIdx.filter fun (r, _) => !r.isFree).map fun (r, k) => (UInt32.ofNat k, r)

end IndexTable

end AtaVolume
