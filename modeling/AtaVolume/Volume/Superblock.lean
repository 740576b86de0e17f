/-
AtaVolume.Volume.Superblock — the record that says where everything on a
volume is.

A volume lies on its drive as superblock, block bitmap, index table and data
area, in this order from sector 1 on. The larger the drive, the larger the
blocks. `Superblock.forSize` computes the layout of a new volume,
`checkLayout` decides whether a superblock that was read can be used, and
`encode` and `decode` go between the record and its sector.
-/
import AtaVolume.Bytes.LittleEndian
import AtaVolume.Volume.Error

namespace AtaVolume

open LittleEndian

/-! ## §1 Constants of the layout -/

/-- The mark that starts every superblock. -/
abbrev volumeMagic : UInt16 := 0xE1F5
/-- The sector of the superblock. -/
abbrev superblockLba : UInt32 := 1
/-- The first sector of the bitmap. -/
abbrev bitmapStart : UInt32 := 2
/-- Index slots on a volume; each takes one sector. -/
abbrev indexSlots : UInt32 := 128
/-- The smallest drive that can hold a volume, in sectors. -/
abbrev minimumSectors : UInt32 := 1024
/-- The largest block, in sectors. -/
abbrev maxSectorsPerBlock : UInt32 := 128
/-- All changes have reached the drive. -/
abbrev stateClean : UInt8 := 1
/-- A change is under way. -/
abbrev stateDirty : UInt8 := 2

/-- A quotient rounded up. -/
def ceilDiv (a b : UInt32) : UInt32 := a / b + if a % b = 0 then 0 else 1

/-- Sectors in a block of a drive of this size: the block doubles each time
the drive grows by a factor of two to four. -/
def sectorsPerBlockFor (sectors : UInt32) : UInt32 :=
  if sectors < 32768 then 1
  else if sectors < 131072 then 2
  else if sectors < 524288 then 4
  else if sectors < 2097152 then 8
  else if sectors < 8388608 then 16
  else if sectors < 33554432 then 32
  else if sectors < 134217728 then 64
  else maxSectorsPerBlock

/-- Sectors of a bitmap with one bit for each block. -/
def bitmapSectorsFor (blocks : UInt32) : UInt32 := ceilDiv (ceilDiv blocks 8) 512

/-! ## §2 The record -/

/-- The superblock, field by field in the order in which it is stored. -/
structure Superblock where
  magic : UInt16
  freeBlocks : UInt32
  /-- Bytes in a block; 65536 is stored as 0. -/
  blockSize : UInt16
  totalBlocks : UInt32
  freeInodes : UInt32
  totalInodes : UInt32
  bitmapStartLba : UInt32
  /-- The extent of the bitmap in blocks. -/
  bitmapBlocks : UInt32
  inodeTableLba : UInt32
  dataStartLba : UInt32
  state : UInt8
  errors : UInt8
  deriving DecidableEq, Repr

namespace Superblock

/-- The superblock of a new volume on a drive of this size. -/
def forSize (sectors : UInt32) : Superblock :=
  let spb := sectorsPerBlockFor sectors
  let totalBlocks := sectors / spb
  let bitmapBlocks := ceilDiv (bitmapSectorsFor totalBlocks) spb
  let inodeTableLba := bitmapStart + bitmapBlocks * spb
  { magic := volumeMagic
    freeBlocks := totalBlocks
    blockSize := (spb * 512).toUInt16
    totalBlocks
    freeInodes := indexSlots
    totalInodes := indexSlots
    bitmapStartLba := bitmapStart
    bitmapBlocks
    inodeTableLba
    dataStartLba := inodeTableLba + indexSlots
    state := stateClean
    errors := 0 }

/-! ## §3 Quantities -/

/-- The record starts as a superblock does. -/
def isValid (sb : Superblock) : Bool := sb.magic == volumeMagic

/-- Bytes in a block. -/
def blockBytes (sb : Superblock) : UInt32 :=
  if sb.blockSize = 0 then 65536 else sb.blockSize.toUInt32

/-- Sectors in a block, at least one. -/
def sectorsPerBlock (sb : Superblock) : UInt32 := max (sb.blockBytes / 512) 1

/-- The first block that lies in the data area as a whole. -/
def dataStartBlock (sb : Superblock) : UInt32 := ceilDiv sb.dataStartLba sb.sectorsPerBlock

/-- The first sector of a block. -/
def blockLba (sb : Superblock) (block : UInt32) : UInt32 := block * sb.sectorsPerBlock

/-- The block that a sector lies in. -/
def lbaBlock (sb : Superblock) (lba : UInt32) : UInt32 := lba / sb.sectorsPerBlock

/-- Sectors of the bitmap that hold bits. -/
def bitmapSectors (sb : Superblock) : UInt32 := bitmapSectorsFor sb.totalBlocks

/-! ## §4 Codec -/

/-- The record's bytes, 38 of them. -/
def record (sb : Superblock) : List UInt8 :=
  le16 sb.magic ++ le32 sb.freeBlocks ++ le16 sb.blockSize ++ le32 sb.totalBlocks
    ++ le32 sb.freeInodes ++ le32 sb.totalInodes ++ le32 sb.bitmapStartLba
    ++ le32 sb.bitmapBlocks ++ le32 sb.inodeTableLba ++ le32 sb.dataStartLba
    ++ [sb.state, sb.errors]

/-- The sector that stores the record. -/
def encode (sb : Superblock) : Sector := Sector.ofBytes sb.record.toArray

/-- The record in a sector, whatever the sector holds. -/
def decode (bytes : Bytes) : Superblock where
  magic := word16 bytes 0
  freeBlocks := word32 bytes 2
  blockSize := word16 bytes 6
  totalBlocks := word32 bytes 8
  freeInodes := word32 bytes 12
  totalInodes := word32 bytes 16
  bitmapStartLba := word32 bytes 20
  bitmapBlocks := word32 bytes 24
  inodeTableLba := word32 bytes 28
  dataStartLba := word32 bytes 32
  state := bytes.getD 36 0
  errors := bytes.getD 37 0

/-! ## §5 Checks -/

/-- A number with one bit set. -/
def isPowerOfTwo (n : UInt32) : Bool := n != 0 && n &&& (n - 1) == 0

/-- Refuses a superblock whose counts exceed their totals or whose areas are
not in order: superblock, bitmap, index table, data, and all of it below 2³²
sectors. -/
def checkLayout (sb : Superblock) : Except Corruption Unit := do
  let bytes := sb.blockBytes
  let spb := bytes / 512
  if bytes % 512 ≠ 0 ∨ ¬ isPowerOfTwo spb ∨ maxSectorsPerBlock < spb then
    throw (.blockSize bytes)
  if sb.totalInodes ≠ indexSlots ∨ sb.totalInodes < sb.freeInodes then
    throw (.indexCounts sb.freeInodes sb.totalInodes)
  if sb.totalBlocks < sb.freeBlocks then
    throw (.blockCounts sb.freeBlocks sb.totalBlocks)
  if sb.bitmapStartLba ≠ bitmapStart then
    throw (.bitmapStart sb.bitmapStartLba)
  let extent := sb.bitmapBlocks.toNat * spb.toNat
  if extent < sb.bitmapSectors.toNat ∨
      sb.inodeTableLba.toNat < sb.bitmapStartLba.toNat + extent then
    throw (.bitmapExtent sb.bitmapBlocks sb.inodeTableLba)
  if sb.inodeTableLba.toNat + indexSlots.toNat ≠ sb.dataStartLba.toNat then
    throw (.tableExtent sb.inodeTableLba sb.dataStartLba)
  let sectors := sb.totalBlocks.toNat * spb.toNat
  if UInt32.size ≤ sectors ∨ sectors ≤ sb.dataStartLba.toNat then
    throw (.dataStart sb.dataStartLba sb.totalBlocks)

/-- The value of a compared field. -/
def verifiedValue (sb : Superblock) : VerifiedField → Nat
  | .magic => sb.magic.toNat
  | .blockSize => sb.blockSize.toNat
  | .totalBlocks => sb.totalBlocks.toNat
  | .freeBlocks => sb.freeBlocks.toNat
  | .totalInodes => sb.totalInodes.toNat
  | .freeInodes => sb.freeInodes.toNat

/-- The fields that are compared, in order. -/
def verifiedFields : List VerifiedField :=
  [.magic, .blockSize, .totalBlocks, .freeBlocks, .totalInodes, .freeInodes]

/-- Compares a superblock that was read back with the one that was written,
and names the first field that differs. -/
def verify (sb onDisk : Superblock) : Except VolumeError Unit :=
  match verifiedFields.find? fun f => sb.verifiedValue f != onDisk.verifiedValue f with
  | some f => .error (.verificationFailed f (sb.verifiedValue f) (onDisk.verifiedValue f))
  | none => .ok ()

end Superblock

end AtaVolume
