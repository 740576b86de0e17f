/-
AtaVolume.Volume.Check — whether a volume agrees with itself.

The numbers in the superblock are compared with the bitmap and the index
table, and each file with the bitmap. Nothing is repaired.
-/
import AtaVolume.Volume.Basic

namespace AtaVolume

/-- A contradiction on a volume. -/
inductive Problem
  /-- The last change did not end. -/
  | unfinished (state : UInt8)
  | freeBlocks (recorded counted : UInt32)
  | freeInodes (recorded counted : UInt32)
  /-- A record of a type that does not exist. -/
  | kind (inode : UInt32) (tag : UInt8)
  /-- A file outside the data area. -/
  | outside (inode lba : UInt32)
  /-- A file in a block that counts as free. -/
  | markedFree (inode block : UInt32)
  deriving DecidableEq, Repr

/-- The problem's text. -/
def Problem.message : Problem → String
  | .unfinished state => s!"superblock state is {state}"
  | .freeBlocks recorded counted =>
    s!"free_blocks is {recorded} but the bitmap has {counted} free"
  | .freeInodes recorded counted =>
    s!"free_inodes is {recorded} but the inode table has {counted} free slots"
  | .kind inode tag =>
    let why := (VolumeError.corrupted (.indexKind tag)).message
    s!"inode {inode}: {why}"
  | .outside inode lba => s!"inode {inode} points outside the data area (LBA {lba})"
  | .markedFree inode block => s!"inode {inode} uses block {block} marked free"

/-- What a check found. -/
structure CheckReport where
  freeBlocksRecorded : UInt32
  freeBlocksCounted : UInt32
  freeInodesRecorded : UInt32
  freeInodesCounted : UInt32
  problems : List Problem
  deriving DecidableEq, Repr

/-- Nothing is wrong. -/
def CheckReport.isClean (r : CheckReport) : Bool := r.problems.isEmpty

namespace Volume

/-- What is wrong with a file, at most one thing. -/
def fileProblem (sb : Superblock) (bitmap : BlockBitmap) (inode : UInt32) (record : Index) :
    Option Problem :=
  match IndexKind.ofTag? record.kind with
  | none => some (.kind inode record.kind)
  | some _ =>
    let block := sb.lbaBlock record.firstBlock
    if block < sb.dataStartBlock ∨ sb.totalBlocks ≤ block then
      some (.outside inode record.firstBlock)
    else if bitmap.isUsed block then none
    else some (.markedFree inode block)

/-- The problem, if there is one. -/
def problemIf (p : Bool) (problem : Problem) : List Problem := if p then [problem] else []

/-- Everything that is wrong with a volume. -/
def problems (sb : Superblock) (bitmap : BlockBitmap) (table : IndexTable) : List Problem :=
  problemIf (sb.state != stateClean) (.unfinished sb.state)
    ++ problemIf (sb.freeBlocks != bitmap.freeCount) (.freeBlocks sb.freeBlocks bitmap.freeCount)
    ++ problemIf (sb.freeInodes != table.freeCount) (.freeInodes sb.freeInodes table.freeCount)
    ++ table.used.filterMap fun (inode, record) => fileProblem sb bitmap inode record

variable {δ : Type} [BlockDevice δ]

/-- Checks the volume of a drive. -/
def check (drive : UInt8) : VolumeAction δ CheckReport := do
  let sb ← mount drive
  let bitmap ← readBitmap drive sb
  let table ← readTable drive sb
  return { freeBlocksRecorded := sb.freeBlocks
           freeBlocksCounted := bitmap.freeCount
           freeInodesRecorded := sb.freeInodes
           freeInodesCounted := table.freeCount
           problems := problems sb bitmap table }

end Volume

end AtaVolume
