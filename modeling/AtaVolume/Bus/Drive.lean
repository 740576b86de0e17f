/-
AtaVolume.Bus.Drive — the devices that an emulated bus carries.

A drive has a medium, and faults that can be switched on and off while it
runs. It counts its flushes and writes down every write command it accepts.
-/
import AtaVolume.Ata.Device
import AtaVolume.Media.Medium
import AtaVolume.Text.Quoted

namespace AtaVolume

/-- What a drive is. -/
inductive DriveKind
  | ata
  | packet (kind : PacketKind)
  deriving DecidableEq, Repr

/-- The kind's name in reports. -/
def DriveKind.label : DriveKind → String
  | .ata => "Ata"
  | .packet .atapi => "Atapi"
  | .packet .sata => "Sata"

/-- What is wrong with a drive. -/
structure Faults where
  /-- The status is busy for ever. -/
  stuckBusy : Bool := false
  /-- Every command but IDENTIFY ends in a device fault. -/
  deviceFault : Bool := false
  /-- Sectors that can be neither read nor written. -/
  badSectors : List UInt32 := []
  /-- The first byte of every sector written is stored complemented. -/
  corruptWrites : Bool := false
  deriving DecidableEq, Repr

/-- A device on the bus. -/
structure Drive where
  kind : DriveKind
  model : String
  medium : Medium
  faults : Faults := {}
  /-- How many times the device was told to store what it received. -/
  flushes : Nat := 0
  /-- First sector and number of sectors of each write command accepted. -/
  writeCommands : Array (UInt32 × Nat) := #[]

namespace Drive

/-! ## §1 Kinds of drives -/

/-- A disk on a medium. -/
def disk (model : String) (medium : Medium) : Drive := { kind := .ata, model, medium }

/-- A packet device, which has no sectors to show. -/
def packet (kind : PacketKind) (model : String) : Drive :=
  { kind := .packet kind, model, medium := .memory (.blank 0) }

/-! ## §2 Identification -/

/-- The sectors that 28-bit addressing can reach, which the drive reports. -/
def reportedSectors (d : Drive) : UInt32 := min d.medium.sectorCount 0x0FFFFFFF

/-- The model's text as it is stored: cut or padded with spaces to forty
bytes, each pair swapped. -/
def modelField (model : String) : List UInt8 :=
  let text := model.toUTF8.data.toList.take Identity.modelLength
  Identity.swapPairs (text ++ List.replicate (Identity.modelLength - text.length) 0x20)

/-- What the drive sends when it is asked to identify itself. -/
def identification (d : Drive) : Sector :=
  let sectors := d.reportedSectors
  let id := Sector.zero.setWord 0 0x0040
  let id := id.setWord 98 0x0300
  let id := id.setWord 120 sectors.toUInt16
  let id := id.setWord 122 (sectors >>> 16).toUInt16
  let id := id.setWord 164 0x0020
  let id := id.setWord 166 0x4000
  id.splice Identity.modelOffset (modelField d.model).toArray

/-! ## §3 Sectors -/

/-- The sector is marked as bad. -/
def isBad (d : Drive) (lba : UInt32) : Bool := d.faults.badSectors.contains lba

/-- All of `count` sectors from `lba` on are there. -/
def holds (d : Drive) (lba : UInt32) (count : Nat) : Bool :=
  lba.toNat + count ≤ d.medium.sectorCount.toNat

/-- What is stored when a sector is written. -/
def stored (d : Drive) (data : Sector) : Sector :=
  if d.faults.corruptWrites then data.corrupted else data

/-! ## §4 Description -/

/-- A truth value in a description. -/
def flag (b : Bool) : String := if b then "true" else "false"

/-- The faults in a description. -/
def describeFaults (f : Faults) : String :=
  let bad := String.intercalate ", " (f.badSectors.map toString)
  "Faults \x7b stuck_busy: " ++ flag f.stuckBusy ++ ", device_fault: " ++ flag f.deviceFault
    ++ ", bad_sectors: [" ++ bad ++ "], corrupt_writes: " ++ flag f.corruptWrites ++ " \x7d"

/-- The drive in one line. -/
def describe (d : Drive) : String :=
  "EmulatedDrive \x7b kind: " ++ d.kind.label ++ ", model: " ++ Text.quoted d.model
    ++ ", sectors: " ++ toString d.medium.sectorCount ++ ", faults: " ++ describeFaults d.faults
    ++ " \x7d"

end Drive

end AtaVolume
