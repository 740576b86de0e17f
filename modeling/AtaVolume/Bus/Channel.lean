/-
AtaVolume.Bus.Channel — a channel with up to two drives.

The drives share the task file; the device select register tells which of
them commands and data go to. A channel without drives reads as all ones, an
empty position beside a drive as zeros.
-/
import AtaVolume.Bus.TaskFile

namespace AtaVolume

/-- The drives of a channel, which one is selected, and their registers. -/
structure BusChannel where
  master : Option Drive := none
  slave : Option Drive := none
  selected : Position := .master
  registers : TaskFile := {}

namespace BusChannel

/-! ## §1 Drives -/

/-- The drive at a position. -/
def drive? (c : BusChannel) : Position → Option Drive
  | .master => c.master
  | .slave => c.slave

/-- The channel with another drive, or none, at a position. -/
def setDrive (c : BusChannel) (position : Position) (drive : Option Drive) : BusChannel :=
  match position with
  | .master => { c with master := drive }
  | .slave => { c with slave := drive }

/-- The selected drive. -/
@[inline] def current (c : BusChannel) : Option Drive := c.drive? c.selected

/-! ## §2 Status -/

/-- The status as it reads now. -/
def status (c : BusChannel) : Status :=
  if c.master.isNone && c.slave.isNone then ⟨0xFF⟩
  else
    match c.current with
    | none => ⟨0x00⟩
    | some d =>
      if d.faults.stuckBusy || 0 < c.registers.busyReads then .isBusy else c.registers.status

/-- A read of the status brings a selected drive one step closer to done. -/
def passStatus (c : BusChannel) : BusChannel :=
  if c.current.isSome then
    { c with registers := { c.registers with busyReads := c.registers.busyReads - 1 } }
  else c

/-! ## §3 Registers -/

/-- Reads a register other than the data port. -/
def readRegister (c : BusChannel) (register : Register) : UInt8 × BusChannel :=
  match register with
  | .control => (c.status.bits, c)
  | .command => (c.status.bits, c.passStatus)
  | .error => (c.registers.error, c)
  | .sectorCount => (c.registers.sectorCount, c)
  | .lbaLow => (c.registers.lbaLow, c)
  | .lbaMid => (c.registers.lbaMid, c)
  | .lbaHigh => (c.registers.lbaHigh, c)
  | .deviceSelect => (c.registers.deviceSelect, c)
  | .data => (0xFF, c)

/-- Selects a device. -/
def select (c : BusChannel) (value : UInt8) : BusChannel :=
  { c with selected := if value &&& 0x10 = 0 then .master else .slave
           registers := c.registers.select value }

/-- Gives the selected drive a command. -/
def command (c : BusChannel) (value : UInt8) (latency : Nat) : BusChannel :=
  match c with
  | ⟨some d, slave, .master, registers⟩ =>
    let (registers, d) := registers.command d value latency
    ⟨some d, slave, .master, registers⟩
  | ⟨master, some d, .slave, registers⟩ =>
    let (registers, d) := registers.command d value latency
    ⟨master, some d, .slave, registers⟩
  | c => c

/-- Writes a register other than the data port. -/
def writeRegister (c : BusChannel) (register : Register) (value : UInt8) (latency : Nat) :
    BusChannel :=
  match register with
  | .deviceSelect => c.select value
  | .sectorCount => { c with registers := { c.registers with sectorCount := value } }
  | .lbaLow => { c with registers := { c.registers with lbaLow := value } }
  | .lbaMid => { c with registers := { c.registers with lbaMid := value } }
  | .lbaHigh => { c with registers := { c.registers with lbaHigh := value } }
  | .control => { c with registers := { c.registers with control := value } }
  | .command => c.command value latency
  | .error => c
  | .data => c

/-! ## §4 Data port -/

/-- Reads a word from the data port. -/
def readWord (c : BusChannel) (latency : Nat) : UInt16 × BusChannel :=
  match c with
  | ⟨some d, slave, .master, registers⟩ =>
    let (w, registers) := registers.readWord d latency
    (w, ⟨some d, slave, .master, registers⟩)
  | ⟨master, some d, .slave, registers⟩ =>
    let (w, registers) := registers.readWord d latency
    (w, ⟨master, some d, .slave, registers⟩)
  | c => (0xFFFF, c)

/-- Writes a word to the data port. -/
def writeWord (c : BusChannel) (value : UInt16) (latency : Nat) : BusChannel :=
  match c with
  | ⟨some d, slave, .master, registers⟩ =>
    let (registers, d) := registers.writeWord d value latency
    ⟨some d, slave, .master, registers⟩
  | ⟨master, some d, .slave, registers⟩ =>
    let (registers, d) := registers.writeWord d value latency
    ⟨master, some d, .slave, registers⟩
  | c => c

end BusChannel

end AtaVolume
