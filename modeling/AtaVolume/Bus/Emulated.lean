/-
AtaVolume.Bus.Emulated — an emulated machine with two channels.

The bus answers every port access as a controller with real devices would,
counts the accesses, and reports each command to its journal. Ports outside
the two channels read as all ones.
-/
import AtaVolume.Ata.PortSpace
import AtaVolume.Bus.Channel

namespace AtaVolume

/-- Busy answers after each command and each sector, unless configured. -/
abbrev defaultLatency : Nat := 2

/-- Two channels, and what happened on them. -/
structure Bus where
  primary : BusChannel := {}
  secondary : BusChannel := {}
  latency : Nat := defaultLatency
  /-- Port accesses so far. -/
  accessCount : Nat := 0
  /-- Reads of an alternate status register so far. -/
  alternateReads : Nat := 0
  journal : Journal := .closed

namespace Bus

/-! ## §1 Drives -/

/-- A channel. -/
def channel (b : Bus) : ChannelId → BusChannel
  | .primary => b.primary
  | .secondary => b.secondary

/-- The bus with another channel. -/
def setChannel (b : Bus) (id : ChannelId) (c : BusChannel) : Bus :=
  match id with
  | .primary => { b with primary := c }
  | .secondary => { b with secondary := c }

/-- The drive in a slot. -/
def drive? (b : Bus) (slot : Slot) : Option Drive :=
  (b.channel (channelOf slot)).drive? (positionOf slot)

/-- The bus with another drive, or none, in a slot. -/
def setDrive (b : Bus) (slot : Slot) (drive : Option Drive) : Bus :=
  b.setChannel (channelOf slot)
    ((b.channel (channelOf slot)).setDrive (positionOf slot) drive)

/-- The bus with the drive in a slot changed, if there is one. -/
def modifyDrive (b : Bus) (slot : Slot) (f : Drive → Drive) : Bus :=
  match b.drive? slot with
  | some d => b.setDrive slot (some (f d))
  | none => b

/-- The slot of a number, if there is one. -/
def slot? (n : Nat) : Option Slot := if h : n < 4 then some ⟨n, h⟩ else none

/-- Puts a drive into slot `n`; a number without a slot is reported. -/
def attach (b : Bus) (n : Nat) (drive : Drive) : Bus :=
  match slot? n with
  | some slot => b.setDrive slot (some drive)
  | none => { b with journal := b.journal.note (.warn s!"cannot attach drive to slot {n}") }

/-! ## §2 Port accesses -/

/-- The report of a command to the selected drive of a channel. -/
def noteCommand (journal : Journal) (c : BusChannel) (value : UInt8) : Journal :=
  match c.current with
  | some d =>
    journal.note (.trace s!"emulated command {Text.hexMarked 2 value.toNat} on {d.kind.label}")
  | none => journal

/-- Reads a byte. -/
def readByte (port : UInt16) (b : Bus) : UInt8 × Bus :=
  match b with
  | ⟨primary, secondary, latency, accessCount, alternateReads, journal⟩ =>
    match locate port with
    | none => (0xFF, ⟨primary, secondary, latency, accessCount + 1, alternateReads, journal⟩)
    | some (.primary, register) =>
      let (value, primary) := primary.readRegister register
      let alternateReads := if register = .control then alternateReads + 1 else alternateReads
      (value, ⟨primary, secondary, latency, accessCount + 1, alternateReads, journal⟩)
    | some (.secondary, register) =>
      let (value, secondary) := secondary.readRegister register
      let alternateReads := if register = .control then alternateReads + 1 else alternateReads
      (value, ⟨primary, secondary, latency, accessCount + 1, alternateReads, journal⟩)

/-- Writes a byte. -/
def writeByte (port : UInt16) (value : UInt8) (b : Bus) : Bus :=
  match b with
  | ⟨primary, secondary, latency, accessCount, alternateReads, journal⟩ =>
    match locate port with
    | none => ⟨primary, secondary, latency, accessCount + 1, alternateReads, journal⟩
    | some (.primary, register) =>
      let journal := if register = .command then noteCommand journal primary value else journal
      ⟨primary.writeRegister register value latency, secondary, latency, accessCount + 1,
        alternateReads, journal⟩
    | some (.secondary, register) =>
      let journal := if register = .command then noteCommand journal secondary value else journal
      ⟨primary, secondary.writeRegister register value latency, latency, accessCount + 1,
        alternateReads, journal⟩

/-- Reads a word; all ones unless the port is a data port. -/
def readWord (port : UInt16) (b : Bus) : UInt16 × Bus :=
  match b with
  | ⟨primary, secondary, latency, accessCount, alternateReads, journal⟩ =>
    match locate port with
    | some (.primary, .data) =>
      let (value, primary) := primary.readWord latency
      (value, ⟨primary, secondary, latency, accessCount + 1, alternateReads, journal⟩)
    | some (.secondary, .data) =>
      let (value, secondary) := secondary.readWord latency
      (value, ⟨primary, secondary, latency, accessCount + 1, alternateReads, journal⟩)
    | _ => (0xFFFF, ⟨primary, secondary, latency, accessCount + 1, alternateReads, journal⟩)

/-- Writes a word; ignored unless the port is a data port. -/
def writeWord (port : UInt16) (value : UInt16) (b : Bus) : Bus :=
  match b with
  | ⟨primary, secondary, latency, accessCount, alternateReads, journal⟩ =>
    match locate port with
    | some (.primary, .data) =>
      ⟨primary.writeWord value latency, secondary, latency, accessCount + 1, alternateReads,
        journal⟩
    | some (.secondary, .data) =>
      ⟨primary, secondary.writeWord value latency, latency, accessCount + 1, alternateReads,
        journal⟩
    | _ => ⟨primary, secondary, latency, accessCount + 1, alternateReads, journal⟩

/-- The emulated devices need no time to settle, so a wait changes nothing. -/
instance : PortSpace Bus where
  readByte := readByte
  writeByte := writeByte
  readWord := readWord
  writeWord := writeWord
  wait _ b := b
  note report b := { b with journal := b.journal.note report }

end Bus

end AtaVolume
