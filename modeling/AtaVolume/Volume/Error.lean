/-
AtaVolume.Volume.Error — how a call on a volume can fail.
-/
import AtaVolume.Ata.Error

namespace AtaVolume

/-- What is wrong with the content of a volume. -/
inductive Corruption
  /-- No block of this many bytes is used. -/
  | blockSize (bytes : UInt32)
  /-- The number of index slots, or of free ones. -/
  | indexCounts (free total : UInt32)
  /-- More free blocks than blocks. -/
  | blockCounts (free total : UInt32)
  /-- The bitmap does not start where it should. -/
  | bitmapStart (lba : UInt32)
  /-- The bitmap is too short for the volume, or reaches into the index table. -/
  | bitmapExtent (blocks tableLba : UInt32)
  /-- The data area does not follow the index table. -/
  | tableExtent (tableLba dataLba : UInt32)
  /-- The data area starts behind the last block. -/
  | dataStart (dataLba blocks : UInt32)
  /-- A bitmap for another number of blocks. -/
  | bitmapTotal (covered declared : UInt32)
  /-- An index record of a type that does not exist. -/
  | indexKind (tag : UInt8)
  /-- An index slot whose sector number does not fit in 32 bits. -/
  | slotBeyond (inode tableLba : UInt32)
  deriving DecidableEq, Repr

/-- The text that tells what is wrong. -/
def Corruption.message : Corruption → String
  | .blockSize bytes => s!"block size {bytes} bytes"
  | .indexCounts free total => s!"{free} free of {total} inodes"
  | .blockCounts free total => s!"{free} free of {total} blocks"
  | .bitmapStart lba => s!"bitmap starts at LBA {lba}"
  | .bitmapExtent blocks tableLba =>
    s!"bitmap ({blocks} blocks) overlaps the inode table at LBA {tableLba}"
  | .tableExtent tableLba dataLba => s!"inode table at LBA {tableLba}, data at LBA {dataLba}"
  | .dataStart dataLba blocks => s!"data area at LBA {dataLba} is beyond {blocks} blocks"
  | .bitmapTotal covered declared =>
    s!"bitmap covers {covered} blocks, superblock declares {declared}"
  | .indexKind tag => s!"unknown index type tag {tag}"
  | .slotBeyond inode tableLba =>
    s!"inode {inode} is past the end of the disk (table at LBA {tableLba})"

/-- The superblock fields that are compared after a superblock was written. -/
inductive VerifiedField
  | magic
  | blockSize
  | totalBlocks
  | freeBlocks
  | totalInodes
  | freeInodes
  deriving DecidableEq, Repr

/-- The field's name. -/
def VerifiedField.name : VerifiedField → String
  | .magic => "magic"
  | .blockSize => "block_size"
  | .totalBlocks => "total_blocks"
  | .freeBlocks => "free_blocks"
  | .totalInodes => "total_inodes"
  | .freeInodes => "free_inodes"

/-- Why a call on a volume failed. -/
inductive VolumeError
  /-- The drive reports an error. -/
  | io (cause : AtaError)
  /-- The drive is too small to hold a volume. -/
  | driveTooSmall (sectors minimum : UInt32)
  /-- The drive holds no volume. -/
  | invalidFilesystem (found : UInt16)
  /-- A superblock reads back other than it was written. -/
  | verificationFailed (field : VerifiedField) (expected found : Nat)
  /-- No data block is free. -/
  | diskFull
  /-- No index slot is free. -/
  | inodeFull
  /-- The index slot does not exist, or holds no file. -/
  | invalidInode (inode : UInt32)
  /-- A record ends before its last field. -/
  | shortRecord
  /-- The content of the volume contradicts itself. -/
  | corrupted (corruption : Corruption)
  deriving DecidableEq, Repr

/-- The error's text. -/
def VolumeError.message : VolumeError → String
  | .io cause => s!"Disk I/O error: {cause.message}"
  | .driveTooSmall sectors minimum =>
    s!"Drive too small: {sectors} sectors (need at least {minimum})"
  | .invalidFilesystem found =>
    s!"Not an Elixir filesystem (magic {Text.hexMarked 4 found.toNat})"
  | .verificationFailed field expected found =>
    s!"Superblock verification failed: {field.name} is {found} on disk, expected {expected}"
  | .diskFull => "Disk space is full"
  | .inodeFull => "No free inode available"
  | .invalidInode inode => s!"Invalid inode: {inode}"
  | .shortRecord => "Record encoding error: io error: unexpected end of file"
  | .corrupted corruption => s!"File system corrupted: {corruption.message}"

end AtaVolume
