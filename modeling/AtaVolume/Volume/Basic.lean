/-
AtaVolume.Volume.Basic — calls on the volume of a drive.

Nothing is kept in memory between calls: each reads what it needs from the
drive. A change is framed by two writes of the superblock, first as dirty and
at the end as clean, and the bitmap is written before the index record that
relies on it, so that a call that fails half-way can leave a block unused but
never gives it away twice.
-/
import AtaVolume.BlockDevice
import AtaVolume.Volume.Bitmap
import AtaVolume.Volume.Index

namespace AtaVolume

/-- Calls on a block device that may fail as a volume does. -/
abbrev VolumeAction (δ : Type) := EStateM VolumeError δ

namespace Volume

variable {δ : Type} [BlockDevice δ]

/-! ## §1 Sectors -/

/-- Reports to the device's journal. -/
def note (report : Report) : VolumeAction δ Unit := modify (BlockDevice.note report)

/-- The number of sectors that a drive reports. -/
def totalSectors (drive : UInt8) : VolumeAction δ UInt32 := fun d =>
  match BlockDevice.totalSectors d drive with
  | .ok n => .ok n d
  | .error e => .error (.io e) d

/-- The buffer that a read filled, or the error that ended it. -/
def received (outcome : ReadOutcome δ) : EStateM.Result VolumeError δ Bytes :=
  match outcome with
  | ⟨.ok _, buffer, d⟩ => .ok buffer d
  | ⟨.error e, _, d⟩ => .error (.io e) d

/-- The bytes of one sector. -/
def readSector (drive : UInt8) (lba : UInt32) : VolumeAction δ Bytes := fun d =>
  received (BlockDevice.readSectors drive 1 lba (zeroes sectorSize) d)

/-- The bytes of `n` sectors. -/
def readSectors (drive : UInt8) (lba : UInt32) (n : Nat) : VolumeAction δ Bytes := fun d =>
  received (BlockDevice.readRange drive lba (zeroes (n * sectorSize)) d)

/-- Writes bytes, a whole number of sectors. -/
def write (drive : UInt8) (lba : UInt32) (data : Bytes) : VolumeAction δ Unit := fun d =>
  match BlockDevice.writeSectors drive lba data d with
  | .ok _ d => .ok () d
  | .error e d => .error (.io e) d

/-- What a computation gives, or its error. -/
def ofExcept {α : Type} : Except VolumeError α → VolumeAction δ α
  | .ok a => pure a
  | .error e => throw e

/-! ## §2 Records -/

/-- Reads the superblock, whatever it holds. -/
def readSuper (drive : UInt8) : VolumeAction δ Superblock :=
  return Superblock.decode (← readSector drive superblockLba)

/-- Writes the superblock. -/
def writeSuper (drive : UInt8) (sb : Superblock) : VolumeAction δ Unit :=
  write drive superblockLba sb.encode.toBytes

/-- Reads the bitmap and counts its bits. -/
def readBitmap (drive : UInt8) (sb : Superblock) : VolumeAction δ BlockBitmap :=
  return BlockBitmap.ofBytes (← readSectors drive sb.bitmapStartLba sb.bitmapSectors.toNat)
    sb.totalBlocks

/-- Writes the bitmap; one for another number of blocks is refused. -/
def writeBitmap (drive : UInt8) (sb : Superblock) (bitmap : BlockBitmap) : VolumeAction δ Unit :=
  if bitmap.total ≠ sb.totalBlocks then
    throw (.corrupted (.bitmapTotal bitmap.total sb.totalBlocks))
  else write drive sb.bitmapStartLba bitmap.toBytes

/-- Reads all index records. -/
def readTable (drive : UInt8) (sb : Superblock) : VolumeAction δ IndexTable :=
  return IndexTable.ofBytes (← readSectors drive sb.inodeTableLba indexSlots.toNat)

/-- Reads the record of a slot, which must exist. -/
def readSlot (drive : UInt8) (sb : Superblock) (inode : UInt32) : VolumeAction δ Index := do
  if sb.totalInodes ≤ inode then throw (.invalidInode inode)
  let lba ← ofExcept (IndexTable.slotLba sb.inodeTableLba inode)
  return Index.ofBytes (← readSector drive lba)

/-- Writes the record of a slot. -/
def writeSlot (drive : UInt8) (sb : Superblock) (inode : UInt32) (record : Index) :
    VolumeAction δ Unit := do
  let lba ← ofExcept (IndexTable.slotLba sb.inodeTableLba inode)
  write drive lba record.encode.toBytes

/-! ## §3 New volumes -/

/-- The superblock that a new volume on a drive would have. -/
def plan (drive : UInt8) : VolumeAction δ Superblock := do
  let sectors ← totalSectors drive
  if sectors < minimumSectors then throw (.driveTooSmall sectors minimumSectors)
  return Superblock.forSize sectors

/-- The bitmap that a new volume on a drive would have. -/
def planBitmap (drive : UInt8) : VolumeAction δ BlockBitmap :=
  return BlockBitmap.blank (← plan drive).totalBlocks

/-- Reads the superblock back and compares it with what was written. -/
def verifySuper (drive : UInt8) (sb : Superblock) : VolumeAction δ Unit := do
  let onDisk ← readSuper drive
  match sb.verify onDisk with
  | .error e =>
    note (.warn s!"Drive {drive}: {e.message}")
    throw e
  | .ok _ => note (.debug s!"superblock on drive {drive} verified")

/-- Makes a new volume: superblock, bitmap, index table. The first failure
ends it, and what was written until then stays. -/
def format (drive : UInt8) (verify : Bool) : VolumeAction δ Superblock := do
  let sb ← plan drive
  note (.info (s!"Formatting drive {drive}: {sb.totalBlocks} blocks of {sb.blockBytes} bytes, "
    ++ s!"data at LBA {sb.dataStartLba}"))
  writeSuper drive sb
  if verify then verifySuper drive sb
  writeBitmap drive sb (BlockBitmap.blank sb.totalBlocks)
  write drive sb.inodeTableLba (zeroes (indexSlots.toNat * sectorSize))
  note (.info s!"Drive {drive} formatted")
  return sb

/-! ## §4 Volumes in use -/

/-- Reads a superblock that can be used. -/
def mount (drive : UInt8) : VolumeAction δ Superblock := do
  let sb ← readSuper drive
  if !sb.isValid then throw (.invalidFilesystem sb.magic)
  match sb.checkLayout with
  | .error c => throw (.corrupted c)
  | .ok _ =>
    if sb.state ≠ stateClean then
      note (.warn s!"Drive {drive} was not cleanly updated (state {sb.state})")
    return sb

/-- The record of a new file; the drive must exist. -/
def newIndex (drive : UInt8) : VolumeAction δ Index := do
  let _ ← totalSectors drive
  return Index.regular

/-- One less, but not below zero. -/
def decrease (n : UInt32) : UInt32 := if n = 0 then 0 else n - 1

/-- One more, but not above `limit`. -/
def increase (n limit : UInt32) : UInt32 := if n.toNat + 1 < limit.toNat then n + 1 else limit

/-- Makes a file in the first free slot with the first free data block. -/
def allocate (drive : UInt8) : VolumeAction δ (UInt32 × Index) := do
  let sb ← mount drive
  let bitmap ← readBitmap drive sb
  let table ← readTable drive sb
  let some inode := table.findFree | throw .inodeFull
  let some block := bitmap.firstFree sb.dataStartBlock | throw .diskFull
  let record := { ← newIndex drive with firstBlock := sb.blockLba block }
  let sb := { sb with state := stateDirty }
  writeSuper drive sb
  writeBitmap drive sb (bitmap.setUsed block).2
  writeSlot drive sb inode record
  writeSuper drive
    { sb with freeInodes := decrease sb.freeInodes
              freeBlocks := decrease sb.freeBlocks
              state := stateClean }
  note (.debug s!"allocated inode {inode} at LBA {record.firstBlock} on drive {drive}")
  return (inode, record)

/-- Frees the slot of a file, then its block. -/
def release (drive : UInt8) (inode : UInt32) : VolumeAction δ Index := do
  let sb ← mount drive
  let record ← readSlot drive sb inode
  if record.isFree then throw (.invalidInode inode)
  let sb := { sb with state := stateDirty }
  writeSuper drive sb
  writeSlot drive sb inode Index.vacant
  let bitmap ← readBitmap drive sb
  let (freed, bitmap) := bitmap.setFree (sb.lbaBlock record.firstBlock)
  writeBitmap drive sb bitmap
  writeSuper drive
    { sb with freeInodes := increase sb.freeInodes sb.totalInodes
              freeBlocks := if freed then increase sb.freeBlocks sb.totalBlocks else sb.freeBlocks
              state := stateClean }
  return record

/-- The record of a slot. -/
def readIndex (drive : UInt8) (inode : UInt32) : VolumeAction δ Index := do
  let sb ← mount drive
  readSlot drive sb inode

/-- All files with their slots. -/
def listFiles (drive : UInt8) : VolumeAction δ (List (UInt32 × Index)) := do
  let sb ← mount drive
  return (← readTable drive sb).used

end Volume

end AtaVolume
