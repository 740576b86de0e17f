/-
AtaVolume.Bus.TaskFile — the registers of an emulated channel and the
transfer under way.

Both devices of a channel share one task file. A command runs at once; what
the driver sees of it is a number of busy answers (the latency), then the
status that tells how it went. During a transfer one sector at a time stands
in the buffer, and the cursor tells how much of it has gone over the data
port.
-/
import AtaVolume.Bus.Drive

namespace AtaVolume

/-- What the data port is for. -/
inductive DataPhase
  | idle
  | identify
  /-- The buffer holds sector `lba`, and `remaining` sectors are to be read
  with it. -/
  | read (lba : UInt32) (remaining : Nat)
  /-- The buffer collects sector `lba`, and `remaining` sectors are to be
  written with it. -/
  | write (lba : UInt32) (remaining : Nat)
  deriving DecidableEq, Repr

/-- The registers of a channel. -/
structure TaskFile where
  deviceSelect : UInt8 := 0
  sectorCount : UInt8 := 0
  lbaLow : UInt8 := 0
  lbaMid : UInt8 := 0
  lbaHigh : UInt8 := 0
  error : UInt8 := 0
  control : UInt8 := 0
  status : Status := .idle
  /-- How many more times the status reads as busy. -/
  busyReads : Nat := 0
  buffer : Sector := Sector.zero
  cursor : Nat := 0
  phase : DataPhase := .idle
  /-- The error of a failed write, which a flush that follows reports. -/
  pendingError : Option UInt8 := none

namespace TaskFile

/-! ## §1 How commands end -/

/-- The command failed with this error. -/
def fail (t : TaskFile) (error : UInt8) : TaskFile :=
  { t with status := .failure, error, phase := .idle }

/-- The command is done. -/
def finish (t : TaskFile) : TaskFile := { t with status := .idle, phase := .idle }

/-- A device is selected: whatever was under way is over. -/
def select (t : TaskFile) (value : UInt8) : TaskFile :=
  finish { t with deviceSelect := value, busyReads := 0, cursor := 0 }

/-! ## §2 Reading sectors -/

/-- The first sector of a command, in 28 bits. -/
def targetLba (t : TaskFile) : UInt32 :=
  t.lbaLow.toUInt32 ||| (t.lbaMid.toUInt32 <<< 8) ||| (t.lbaHigh.toUInt32 <<< 16)
    ||| ((t.deviceSelect &&& 0x0F).toUInt32 <<< 24)

/-- The number of sectors of a command; the register holds 0 for 256. -/
def targetCount (t : TaskFile) : Nat := if t.sectorCount = 0 then 256 else t.sectorCount.toNat

/-- Brings the sector that is to be read next into the buffer. -/
def load (t : TaskFile) (d : Drive) (lba : UInt32) : TaskFile :=
  if d.isBad lba then t.fail errUncorrectable
  else
    match d.medium.readSector lba with
    | .ok s => { t with buffer := s, cursor := 0, status := .transferDue }
    | .error _ => t.fail errUncorrectable

/-- The buffer is read to its end: the next sector follows, or the transfer
is over. -/
def advanceRead (t : TaskFile) (d : Drive) (latency : Nat) : TaskFile :=
  match t.phase with
  | .read lba remaining =>
    if 1 < remaining then
      load { t with phase := .read (lba + 1) (remaining - 1), busyReads := latency } d (lba + 1)
    else t.finish
  | _ => t.finish

/-- The data port can be used. -/
@[inline] def dataReady (t : TaskFile) : Bool := t.status.dataRequest && t.cursor < sectorSize

/-- Reads a word from the data port; all ones where none is due. -/
def readWord (t : TaskFile) (d : Drive) (latency : Nat) : UInt16 × TaskFile :=
  if t.dataReady then
    let w := t.buffer.word t.cursor
    let t := { t with cursor := t.cursor + 2 }
    if t.cursor = sectorSize then (w, t.advanceRead d latency) else (w, t)
  else (0xFFFF, t)

/-! ## §3 Writing sectors -/

/-- Puts a word at the cursor. -/
@[inline] def putWord (t : TaskFile) (w : UInt16) : TaskFile :=
  { t with buffer := t.buffer.setWord t.cursor w, cursor := t.cursor + 2 }

/-- A sector could not be written. -/
def failWrite (t : TaskFile) : TaskFile :=
  fail { t with pendingError := some errUncorrectable } errUncorrectable

/-- The buffer is full: it is stored, and the next sector follows or the
transfer is over. -/
def storeSector (t : TaskFile) (d : Drive) (lba : UInt32) (remaining latency : Nat) :
    TaskFile × Drive :=
  if d.isBad lba then (t.failWrite, d)
  else
    match Medium.writeSector lba (d.stored t.buffer) d.medium with
    | .error _ medium => (t.failWrite, { d with medium })
    | .ok _ medium =>
      let d := { d with medium }
      if 1 < remaining then
        ({ t with phase := .write (lba + 1) (remaining - 1), busyReads := latency, cursor := 0,
                  status := .transferDue }, d)
      else (t.finish, d)

/-- Writes a word to the data port; ignored where none is due. -/
def writeWord (t : TaskFile) (d : Drive) (w : UInt16) (latency : Nat) : TaskFile × Drive :=
  match t.phase with
  | .write lba remaining =>
    if t.dataReady then
      let t := t.putWord w
      if t.cursor < sectorSize then (t, d) else t.storeSector d lba remaining latency
    else (t, d)
  | _ => (t, d)

/-! ## §4 Commands -/

/-- A disk sends its identification data; a packet device shows its signature
and refuses. -/
def identify (t : TaskFile) (d : Drive) : TaskFile :=
  match d.kind with
  | .ata =>
    { t with buffer := d.identification, lbaMid := 0, lbaHigh := 0, status := .transferDue,
             phase := .identify }
  | .packet .atapi => fail { t with lbaMid := 0x14, lbaHigh := 0xEB } errAborted
  | .packet .sata => fail { t with lbaMid := 0x3C, lbaHigh := 0xC3 } errAborted

/-- Starts to read the sectors that the registers name. -/
def startRead (t : TaskFile) (d : Drive) : TaskFile :=
  if d.holds t.targetLba t.targetCount then
    load { t with phase := .read t.targetLba t.targetCount } d t.targetLba
  else t.fail errNotFound

/-- Starts to write the sectors that the registers name. -/
def startWrite (t : TaskFile) (d : Drive) : TaskFile × Drive :=
  if d.holds t.targetLba t.targetCount then
    ({ t with phase := .write t.targetLba t.targetCount, status := .transferDue },
     { d with writeCommands := d.writeCommands.push (t.targetLba, t.targetCount) })
  else (t.fail errNotFound, d)

/-- Stores what was received. A write that failed before is reported now. -/
def flush (t : TaskFile) (d : Drive) (pending : Option UInt8) : TaskFile × Drive :=
  let d := { d with flushes := d.flushes + 1 }
  match pending with
  | some error => (t.fail error, d)
  | none =>
    match Medium.flush d.medium with
    | .ok _ medium => (t.finish, { d with medium })
    | .error _ medium => (t.fail errUncorrectable, { d with medium })

/-- Runs a command on the selected drive. -/
def command (t : TaskFile) (d : Drive) (value : UInt8) (latency : Nat) : TaskFile × Drive :=
  let pending := t.pendingError
  let t := { t with busyReads := latency, error := 0, cursor := 0, pendingError := none }
  if value = cmdIdentify then (t.identify d, d)
  else if d.kind ≠ .ata then (t.fail errAborted, d)
  else if d.faults.deviceFault then ({ t with status := .fault, phase := .idle }, d)
  else if value = cmdReadSectors then (t.startRead d, d)
  else if value = cmdWriteSectors then t.startWrite d
  else if value = cmdFlushCache then t.flush d pending
  else (t.fail errAborted, d)

end TaskFile

end AtaVolume
