/-
AtaVolume.Ata.Controller — the driver's registers: selecting, waiting and
moving sectors.

The driver never uses interrupts. It learns that a device is done by reading
the status register again and again, at most as often as the poll budget
allows, and moves every sector word by word through the data port.
-/
import AtaVolume.Ata.Device
import AtaVolume.Ata.Error
import AtaVolume.Ata.PortSpace

namespace AtaVolume

/-- The poll budget that is used unless another is configured. -/
abbrev defaultPollBudget : UInt32 := 100000

/-- Calls on a machine that may fail. -/
abbrev PortAction (σ : Type) := EStateM AtaError σ

namespace Wire

variable {σ : Type} [PortSpace σ]

/-! ## §1 Registers -/

/-- Reads a register. -/
@[inline] def readRegister (channel : ChannelId) (register : Register) (s : σ) : UInt8 × σ :=
  PortSpace.readByte (register.port channel) s

/-- Writes a register. -/
@[inline] def writeRegister (channel : ChannelId) (register : Register) (value : UInt8)
    (s : σ) : σ :=
  PortSpace.writeByte (register.port channel) value s

/-- Selects a device and waits until it has settled. -/
def select (channel : ChannelId) (value : UInt8) (s : σ) : σ :=
  PortSpace.wait 1 (writeRegister channel .deviceSelect value s)

/-- Reads the alternate status `n` times, which takes the device about a
hundred nanoseconds each. -/
def settle (channel : ChannelId) : Nat → σ → σ
  | 0, s => s
  | n + 1, s => settle channel n (readRegister channel .control s).2

/-! ## §2 Polling -/

/-- Reads the status until it is not busy, at most `reads` times. -/
def waitNotBusy (channel : ChannelId) : (reads : Nat) → PortAction σ Status
  | 0 => throw .timeout
  | reads + 1 => do
    let bits ← modifyGet (readRegister channel .command)
    if (Status.mk bits).busy then waitNotBusy channel reads else return ⟨bits⟩

/-- The error that the error register tells. -/
def throwDeviceError (channel : ChannelId) : PortAction σ Unit := do
  let bits ← modifyGet (readRegister channel .error)
  throw (.deviceError bits)

/-- Waits until the device is not busy, after four reads of the alternate
status. With `transfer`, the status must also announce a data transfer: an
error is reported before a fault, and a fault before the missing request.

A budget of `n` is used up by `n + 1` busy answers. -/
def pollStatus (budget : UInt32) (channel : ChannelId) (transfer : Bool) : PortAction σ Unit := do
  modify (settle channel 4)
  let status ← waitNotBusy channel (budget.toNat + 1)
  if transfer then
    if status.failed then throwDeviceError channel
    else if status.deviceFault then throw .deviceFault
    else if !status.dataRequest then throw .noDataRequest

/-! ## §3 Data -/

/-- Reads `n` words from a port behind the bytes in `acc`, low byte first. -/
def readWords (port : UInt16) : (n : Nat) → (acc : Bytes) → σ → Bytes × σ
  | 0, acc, s => (acc, s)
  | n + 1, acc, s =>
    match PortSpace.readWord port s with
    | (w, s) => readWords port n ((acc.push w.toUInt8).push (w >>> 8).toUInt8) s

/-- Writes `n` words to a port, from offset `i` of `data` on. -/
def writeWords (port : UInt16) (data : Bytes) : (n : Nat) → (i : Nat) → σ → σ
  | 0, _, s => s
  | n + 1, i, s =>
    writeWords port data n (i + 2) (PortSpace.writeWord port (LittleEndian.word16 data i) s)

/-- Words in a sector. -/
abbrev sectorWords : Nat := 256

/-- Reads one sector behind the bytes in `acc`. -/
def readSectorData (channel : ChannelId) (acc : Bytes) (s : σ) : Bytes × σ :=
  readWords (Register.data.port channel) sectorWords acc s

/-- Writes the sector that starts at offset `i` of `data`. -/
def writeSectorData (channel : ChannelId) (data : Bytes) (i : Nat) (s : σ) : σ :=
  writeWords (Register.data.port channel) data sectorWords i s

/-! ## §4 Commands -/

/-- Bits 27 to 24 of a sector number. -/
def lbaHead (lba : UInt32) : UInt8 := ((lba >>> 24) &&& 0x0F).toUInt8

/-- Selects a device and gives it a command on `count` sectors from `lba` on.
The count register has eight bits, in which 256 is written as 0. -/
def issue (channel : ChannelId) (position : Position) (lba : UInt32) (count : Nat)
    (command : UInt8) (s : σ) : σ :=
  let s := select channel (selectLba ||| (position.number <<< 4) ||| lbaHead lba) s
  let s := writeRegister channel .sectorCount (UInt8.ofNat count) s
  let s := writeRegister channel .lbaLow lba.toUInt8 s
  let s := writeRegister channel .lbaMid (lba >>> 8).toUInt8 s
  let s := writeRegister channel .lbaHigh (lba >>> 16).toUInt8 s
  writeRegister channel .command command s

end Wire

end AtaVolume
