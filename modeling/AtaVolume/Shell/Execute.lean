/-
AtaVolume.Shell.Execute — what the shell answers.

A command is carried out on the disks and answers with a text. A command that
fails answers with its error, and with what it had to say before.
-/
import AtaVolume.Ata.Transfer
import AtaVolume.Bytes.HexDump
import AtaVolume.Shell.Command
import AtaVolume.Volume.Check
import AtaVolume.Volume.Occupancy

namespace AtaVolume

/-- Why a command failed. -/
inductive ShellError
  | volume (cause : VolumeError)
  | device (cause : AtaError)
  /-- A question is to be asked, and there is no terminal to ask it on. -/
  | noTerminal
  deriving DecidableEq, Repr

/-- The error's text. -/
def ShellError.message : ShellError → String
  | .volume cause => cause.message
  | .device cause => cause.message
  | .noTerminal => "IO error: not a terminal"

/-- The answer to a command. -/
structure Reply where
  text : String
  error : Option ShellError := none
  deriving DecidableEq, Repr

namespace Shell

/-- Lines, each with its end. -/
def lines (ls : List String) : String := String.join (ls.map (· ++ "\n"))

/-! ## §1 Texts -/

/-- The list of commands. -/
def helpText : String := lines
  ["📘 Elixir Commands",
   "",
   "  drives                    List IDE drives",
   "  format <d> [--no-verify]  Create an Elixir volume on drive d (-y skips the prompt)",
   "  mount <d>                 Show the superblock of drive d",
   "  bitmap <d>                Show block bitmap usage",
   "  create <d>                Allocate a new file",
   "  rm <d> <inode>            Release a file",
   "  stat <d> <inode>          Show an index record",
   "  ls <d>                    List allocated files",
   "  check <d>                 Compare counters with bitmap and inode table",
   "  scan <d>                  Scan every sector for occupancy",
   "  dump <d> <lba>            Hex dump one sector",
   "  help                      Show this help message",
   "  exit                      Quit the shell",
   ""]

/-- What is in a slot. -/
def deviceText : Device → String
  | .absent => "-"
  | .unsupported _ _ kind => s!"{kind.name} (unsupported)"
  | .disk _ _ identity =>
    let wide := if identity.supportsLba48 then " LBA48" else ""
    s!"{identity.model} {identity.size} sectors ({identity.sizeMiB} MiB){wide}"

/-- A slot in the list of drives. -/
def slotLine (c : Controller) (slot : Slot) : String :=
  let place := (channelOf slot).name ++ " " ++ (positionOf slot).name
  let column := String.ofList (Text.padRight ' ' 17 place.toList)
  s!"  {slot.val}  {column} {deviceText (c.devices.get slot)}"

/-- The list of drives. -/
def drivesText (c : Controller) : String := lines
  (s!"🖴  IDE drives (poll budget {c.pollBudget})"
    :: [(0 : Slot), 1, 2, 3].map (slotLine c))

/-- A volume's state. -/
def stateName (state : UInt8) : String :=
  if state = stateClean then "clean"
  else if state = stateDirty then "dirty"
  else s!"unknown ({state})"

/-- What was formatted. -/
def formattedText (sb : Superblock) (verify : Bool) : String := lines
  ((s!"✅ Formatted: {sb.totalBlocks} blocks × {sb.blockBytes} bytes, "
      ++ s!"data starts at LBA {sb.dataStartLba}")
    :: if verify then [] else ["(superblock verification skipped)"])

/-- A superblock. -/
def superblockText (sb : Superblock) : String := lines
  ["📊 Superblock",
   "Magic: " ++ Text.hexMarked 4 sb.magic.toNat,
   s!"Block size: {sb.blockBytes} bytes ({sb.sectorsPerBlock} sectors)",
   s!"Free blocks: {sb.freeBlocks} / {sb.totalBlocks}",
   s!"Free inodes: {sb.freeInodes} / {sb.totalInodes}",
   s!"Layout: bitmap @{sb.bitmapStartLba} ({sb.bitmapBlocks} blocks), "
     ++ s!"inodes @{sb.inodeTableLba}, data @{sb.dataStartLba}",
   "State: " ++ stateName sb.state]

/-- A bitmap, and the block that the next file will get. -/
def bitmapText (sb : Superblock) (m : BlockBitmap) : String := lines
  [s!"🧮 {m.total} blocks: {m.usedCount} used, {m.freeCount} free "
     ++ s!"({m.sectorLength * sectorSize} bytes on disk)",
   match m.firstFree sb.dataStartBlock with
   | some block => s!"Next data block: {block} (LBA {sb.blockLba block})"
   | none => "No free data blocks"]

/-- A record's kind. -/
def kindName (record : Index) : String :=
  match IndexKind.ofTag? record.kind with
  | some .free => "free"
  | some .regular => "regular"
  | none => s!"unknown ({record.kind})"

/-- An index record. -/
def indexText (inode : UInt32) (record : Index) : String := lines
  ["📊 Index Info",
   s!"Inode: {inode}",
   "Type: " ++ kindName record,
   s!"Size: {record.size} bytes",
   s!"First LBA: {record.firstBlock}",
   s!"Timestamp: {record.timeStamp}",
   ""]

/-- A file in a list. -/
def fileLine (inode : UInt32) (record : Index) : String :=
  let slot := Text.decimalRight 3 inode.toNat
  let size := Text.decimalRight 10 record.size.toNat
  s!"📄  {slot}  {size} bytes  @{record.firstBlock}"

/-- A list of files. -/
def filesText (files : List (UInt32 × Index)) : String :=
  if files.isEmpty then lines ["(no files)"]
  else lines (files.map fun (inode, record) => fileLine inode record)

/-- The counts of a check. -/
def countsLine (r : CheckReport) : String :=
  s!"free blocks: {r.freeBlocksRecorded} recorded / {r.freeBlocksCounted} counted, "
    ++ s!"free inodes: {r.freeInodesRecorded} recorded / {r.freeInodesCounted} counted"

/-- What a check found. -/
def checkText (r : CheckReport) : String := lines
  (countsLine r :: (if r.isClean then ["✅ Volume is consistent"] else [])
    ++ r.problems.map fun p => "⚠️  " ++ p.message)

/-- What a scan found. -/
def occupancyText (o : Occupancy) : String := lines
  [s!"🔍 {o.usedSectors} used / {o.freeSectors} free sectors",
   match o.nextFreeLba with
   | some lba => s!"Next free LBA after last used: {lba}"
   | none => "Last sector is in use; no free tail"]

/-! ## §2 Commands -/

variable {σ : Type} [PortSpace σ]

/-- The answer of a call on a volume, behind what was said before. -/
def answer {α : Type} (before : String) (call : VolumeAction (Disks σ) α) (render : α → String)
    (d : Disks σ) : Reply × Disks σ :=
  match call d with
  | .ok a d => ({ text := before ++ render a }, d)
  | .error e d => ({ text := before, error := some (.volume e) }, d)

/-- The superblock and the bitmap of a volume. -/
def mountWithBitmap (drive : UInt8) : VolumeAction (Disks σ) (Superblock × BlockBitmap) := do
  let sb ← Volume.mount drive
  return (sb, ← Volume.readBitmap drive sb)

/-- Scans a drive that is there. -/
def scanReply (drive : UInt8) (d : Disks σ) : Reply × Disks σ :=
  match BlockDevice.totalSectors d drive with
  | .error e => ({ text := "", error := some (.device e) }, d)
  | .ok _ =>
    match Volume.scan drive d with
    | ⟨.ok o, _, d⟩ => ({ text := occupancyText o }, d)
    | ⟨.error e, _, d⟩ => ({ text := "", error := some (.volume e) }, d)

/-- Carries a command out. -/
def execute (c : Command) (d : Disks σ) : Reply × Disks σ :=
  match c with
  | .help => ({ text := helpText }, d)
  | .drives => ({ text := drivesText d.controller }, d)
  | .format drive verify assumeYes =>
    if assumeYes then
      answer (lines [s!"💾 Formatting drive {drive}..."]) (Volume.format drive verify)
        (formattedText · verify) d
    else ({ text := "", error := some .noTerminal }, d)
  | .mount drive => answer "" (Volume.mount drive) superblockText d
  | .bitmap drive => answer "" (mountWithBitmap drive) (fun (sb, m) => bitmapText sb m) d
  | .create drive =>
    answer "" (Volume.allocate drive)
      (fun (inode, record) => lines [s!"📝 Created inode {inode} at LBA {record.firstBlock}"]) d
  | .remove drive inode =>
    answer "" (Volume.release drive inode)
      (fun record => lines [s!"❌ Released inode {inode} (LBA {record.firstBlock})"]) d
  | .stat drive inode => answer "" (Volume.readIndex drive inode) (indexText inode) d
  | .list drive => answer "" (Volume.listFiles drive) filesText d
  | .check drive => answer "" (Volume.check drive) checkText d
  | .scan drive => scanReply drive d
  | .dump drive lba =>
    answer "" (Volume.readSector drive lba)
      (fun bytes => hexDump bytes (lba.toNat * sectorSize)) d
  | .exit => ({ text := lines ["👋 Exiting Elixir shell..."] }, d)

end Shell

end AtaVolume
