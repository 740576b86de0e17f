/-
AtaVolume.Ata.Device — what the driver knows of the device in each slot.

A device shows its kind in two registers after it was asked to identify
itself (`Signature.classify`), and a disk then sends one sector about itself
(`Identity.ofBytes`). Disks are usable; packet devices are only remembered.
-/
import AtaVolume.Ata.Register
import AtaVolume.Bytes.LittleEndian
import AtaVolume.Text.Utf8

namespace AtaVolume

/-! ## §1 Signatures -/

/-- Devices that take commands in packets, which the driver does not send. -/
inductive PacketKind
  | atapi
  | sata
  deriving DecidableEq, Repr

/-- What the signature of a device says. -/
inductive Signature
  | ata
  | packet (kind : PacketKind)
  | unknown
  deriving DecidableEq, Repr

/-- The name of a kind of packet device. -/
def PacketKind.name : PacketKind → String
  | .atapi => "ATAPI"
  | .sata => "SATA"

namespace Signature

/-- The signature in the registers `lbaMid` and `lbaHigh`. -/
def classify (mid high : UInt8) : Signature :=
  if mid = 0x00 ∧ high = 0x00 then .ata
  else if (mid = 0x14 ∧ high = 0xEB) ∨ (mid = 0x69 ∧ high = 0x96) then .packet .atapi
  else if mid = 0x3C ∧ high = 0xC3 then .packet .sata
  else .unknown

/-- The name of what was found. -/
def name : Signature → String
  | .ata => "ATA"
  | .packet kind => kind.name
  | .unknown => "none"

end Signature

/-! ## §2 Identification data -/

/-- What a disk tells about itself. -/
structure Identity where
  /-- General configuration, word 0. -/
  signature : UInt16
  /-- Word 49. -/
  capabilities : UInt16
  /-- Words 82 and 83. -/
  commandSets : UInt32
  /-- Sectors under 28-bit addressing, words 60 and 61. -/
  size : UInt32
  model : String
  deriving DecidableEq, Repr

namespace Identity

/-- Byte offset and length of the model's text. -/
abbrev modelOffset : Nat := 54
abbrev modelLength : Nat := 40

/-- Bytes with each pair swapped, as texts are stored in words high byte
first; a last byte without partner stays. -/
def swapPairs : List UInt8 → List UInt8
  | a :: b :: rest => b :: a :: swapPairs rest
  | rest => rest

/-- A text without the spaces and NULs at its end. -/
def trimModel (cs : List Char) : List Char :=
  (cs.reverse.dropWhile fun c => c == ' ' || c == '\x00').reverse

/-- The model in the identification data. -/
def readModel (id : Bytes) : String :=
  String.ofList (trimModel (Text.decodeLossy (swapPairs
    (id.extract modelOffset (modelOffset + modelLength)).toList)))

/-- The identity that the identification data describe. -/
def ofBytes (id : Bytes) : Identity where
  signature := LittleEndian.word16 id 0
  capabilities := LittleEndian.word16 id 98
  commandSets := LittleEndian.word32 id 164
  size := LittleEndian.word32 id 120
  model := readModel id

/-- The disk takes sector numbers. -/
def supportsLba (i : Identity) : Bool := i.capabilities &&& 0x0200 != 0

/-- The disk takes sector numbers of 48 bits. -/
def supportsLba48 (i : Identity) : Bool := i.commandSets &&& 0x04000000 != 0

/-- The capacity in mebibytes, rounded down. -/
def sizeMiB (i : Identity) : UInt32 := i.size / 2048

end Identity

/-! ## §3 Slots -/

/-- The device in a slot, as far as the driver is concerned. -/
inductive Device
  /-- Nothing that answers. -/
  | absent
  /-- A packet device. -/
  | unsupported (channel : ChannelId) (position : Position) (kind : PacketKind)
  /-- A disk. -/
  | disk (channel : ChannelId) (position : Position) (identity : Identity)
  deriving DecidableEq, Repr

namespace Device

/-- The slot holds a disk that can be used. -/
def isUsable : Device → Bool
  | .disk .. => true
  | _ => false

/-- The name of the device's kind. -/
def kindName : Device → String
  | .absent => "none"
  | .unsupported _ _ kind => kind.name
  | .disk .. => "ATA"

end Device

end AtaVolume
