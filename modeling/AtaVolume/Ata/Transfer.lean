/-
AtaVolume.Ata.Transfer — reading and writing sectors of a disk.

A read is one command, polled before each sector. A write is cut into
commands of at most 256 sectors; each is flushed before the next one starts,
and what was written stays written when a later command fails.
-/
import AtaVolume.Ata.Probe
import AtaVolume.BlockDevice

namespace AtaVolume

/-- Whether 28 bits address each of `count` sectors from `lba` on. -/
def inLba28 (lba : UInt32) (count : Nat) : Bool := lba.toNat + count ≤ lba28Max + 1

namespace Wire

variable {σ : Type} [PortSpace σ]

/-! ## §1 Reading -/

/-- Receives `n` sectors behind the bytes in `acc`, as far as it goes well. -/
def receive (budget : UInt32) (channel : ChannelId) :
    (n : Nat) → (acc : Bytes) → σ → Except AtaError Unit × Bytes × σ
  | 0, acc, s => (.ok (), acc, s)
  | n + 1, acc, s =>
    match pollStatus budget channel true s with
    | .error e s => (.error e, acc, s)
    | .ok _ s =>
      match readSectorData channel acc s with
      | (acc, s) => receive budget channel n acc s

/-! ## §2 Writing -/

/-- Sends `n` sectors, from offset `i` of `data` on. -/
def send (budget : UInt32) (channel : ChannelId) (data : Bytes) :
    (n : Nat) → (i : Nat) → PortAction σ Unit
  | 0, _ => return ()
  | n + 1, i => do
    pollStatus budget channel true
    modify (writeSectorData channel data i)
    send budget channel data n (i + sectorSize)

/-- Makes the device store what it has received. -/
def flushCache (budget : UInt32) (channel : ChannelId) : PortAction σ Unit := do
  modify (writeRegister channel .command cmdFlushCache)
  pollStatus budget channel false
  let bits ← modifyGet (readRegister channel .command)
  if (Status.mk bits).failed then throwDeviceError channel
  else if (Status.mk bits).deviceFault then throw .deviceFault

/-- One write command: `n` sectors from offset `i` of `data` on go to the
sectors from `lba` on, and are flushed. -/
def writeCommand (budget : UInt32) (channel : ChannelId) (position : Position) (drive : UInt8)
    (data : Bytes) (lba : UInt32) (n i : Nat) : PortAction σ Unit := do
  if !inLba28 lba n then throw (.lba28Limit lba)
  modify (PortSpace.note (.trace s!"write drive {drive} lba {lba} count {n}"))
  modify (issue channel position lba n cmdWriteSectors)
  send budget channel data n i
  flushCache budget channel

/-- Writes `n` sectors, from offset `i` of `data` on, in commands of at most
256 sectors. -/
def writeCommands (budget : UInt32) (channel : ChannelId) (position : Position) (drive : UInt8)
    (data : Bytes) (lba : UInt32) (n i : Nat) : PortAction σ Unit :=
  if n = 0 then return ()
  else do
    let count := min n maxTransfer
    writeCommand budget channel position drive data lba count i
    writeCommands budget channel position drive data (lba + UInt32.ofNat count) (n - count)
      (i + count * sectorSize)
termination_by n
decreasing_by show n - min n 256 < n; omega

end Wire

namespace Controller

variable {σ : Type} [PortSpace σ]

/-- Where a read of `count` sectors from `lba` on into `room` bytes goes. It is
refused, in this order, for its drive, an empty or too large count, a short
buffer, and an address beyond 28 bits. -/
def routeRead (c : Controller) (drive : UInt8) (count : Nat) (lba : UInt32) (room : Nat) :
    Except AtaError (ChannelId × Position) := do
  let (channel, position, _) ← c.find drive
  if count = 0 then throw .emptyTransfer
  if count > maxTransfer then throw (.tooManySectors count)
  if room < count * sectorSize then throw (.bufferTooSmall (count * sectorSize) room)
  if !inLba28 lba count then throw (.lba28Limit lba)
  return (channel, position)

/-- Where a write of `length` bytes goes. It is refused, in this order, for its
drive, and for a length that is zero or no whole number of sectors. -/
def routeWrite (c : Controller) (drive : UInt8) (length : Nat) :
    Except AtaError (ChannelId × Position) := do
  let (channel, position, _) ← c.find drive
  if length = 0 then throw .emptyTransfer
  if length % sectorSize ≠ 0 then throw (.misalignedLength length)
  return (channel, position)

/-- Reads `count` sectors from `lba` on into the front of `buffer`, as far as
it goes well. -/
def readSectors (c : Controller) (drive : UInt8) (count : UInt16) (lba : UInt32)
    (buffer : Bytes) (s : σ) : ReadOutcome σ :=
  match c.routeRead drive count.toNat lba buffer.size with
  | .error e => ⟨.error e, buffer, s⟩
  | .ok (channel, position) =>
    let n := count.toNat
    let s := PortSpace.note (.trace s!"read drive {drive} lba {lba} count {n}") s
    let s := Wire.issue channel position lba n cmdReadSectors s
    match Wire.receive c.pollBudget channel n (Array.emptyWithCapacity (n * sectorSize)) s with
    | (result, received, s) => ⟨result, overwriteFront received buffer, s⟩

/-- Writes `data`, a whole number of sectors, to the sectors from `lba` on. -/
def writeSectors (c : Controller) (drive : UInt8) (lba : UInt32) (data : Bytes) :
    PortAction σ Unit :=
  match c.routeWrite drive data.size with
  | .error e => throw e
  | .ok (channel, position) => do
    let n := data.size / sectorSize
    Wire.writeCommands c.pollBudget channel position drive data lba n 0
    modify (PortSpace.note (.debug s!"wrote {n} sectors to drive {drive} at lba {lba}"))

theorem size_readSectors (c : Controller) (drive : UInt8) (count : UInt16) (lba : UInt32)
    (buffer : Bytes) (s : σ) :
    (c.readSectors drive count lba buffer s).buffer.size = buffer.size := by
  unfold readSectors
  split
  · rfl
  · exact size_overwriteFront _ _

end Controller

/-! ## §3 The disks of a machine -/

/-- A driver and the machine it works on. -/
structure Disks (σ : Type) where
  controller : Controller
  machine : σ

namespace Disks

variable {σ : Type} [PortSpace σ]

/-- Starts a driver on a machine. -/
def start (pollBudget : UInt32) (machine : σ) : Disks σ :=
  let (controller, machine) := Controller.enumerate pollBudget machine
  { controller, machine }

instance : BlockDevice (Disks σ) where
  totalSectors d drive := d.controller.totalSectors drive
  readSectors drive count lba buffer d :=
    match d with
    | ⟨controller, machine⟩ =>
      match controller.readSectors drive count lba buffer machine with
      | ⟨result, buffer, machine⟩ => ⟨result, buffer, ⟨controller, machine⟩⟩
  writeSectors drive lba data d :=
    match d with
    | ⟨controller, machine⟩ =>
      match controller.writeSectors drive lba data machine with
      | .ok _ machine => .ok () ⟨controller, machine⟩
      | .error e machine => .error e ⟨controller, machine⟩
  note report d :=
    match d with
    | ⟨controller, machine⟩ => ⟨controller, PortSpace.note report machine⟩
  size_readSectors drive count lba buffer d :=
    Controller.size_readSectors d.controller drive count lba buffer d.machine

end Disks

end AtaVolume
