/-
AtaVolume.Ata.Probe — finding out what is in the slots.

Each slot is asked to identify itself. A slot whose status reads as all zeros
or all ones, that stays busy, or that fails on the way counts as empty.
-/
import AtaVolume.Ata.Controller

namespace AtaVolume

/-- The driver: what it found in the slots, and how often it polls. -/
structure Controller where
  devices : Vector Device slotCount
  pollBudget : UInt32

namespace Wire

variable {σ : Type} [PortSpace σ]

/-- A slot as reports name it: channel and position in digits. -/
def placeName (channel : ChannelId) (position : Position) : String :=
  s!"{channel.number}:{position.number}"

/-- Asks the selected device to identify itself and waits a millisecond. -/
def requestIdentity (channel : ChannelId) (s : σ) : σ :=
  let s := writeRegister channel .sectorCount 0 s
  let s := writeRegister channel .lbaLow 0 s
  let s := writeRegister channel .lbaMid 0 s
  let s := writeRegister channel .lbaHigh 0 s
  PortSpace.wait 1 (writeRegister channel .command cmdIdentify s)

/-- Receives the identification data of a disk. -/
def receiveIdentity (budget : UInt32) (channel : ChannelId) (position : Position) (s : σ) :
    Device × σ :=
  match pollStatus budget channel true s with
  | .error e s =>
    (.absent, PortSpace.note
      (.debug s!"IDE {placeName channel position} IDENTIFY failed: {e.message}") s)
  | .ok _ s =>
    let (data, s) := readSectorData channel (Array.emptyWithCapacity sectorSize) s
    (.disk channel position (Identity.ofBytes data), s)

/-- Reads the signature of a device that is not busy any more. -/
def readSignature (budget : UInt32) (channel : ChannelId) (position : Position) (s : σ) :
    Device × σ :=
  let (mid, s) := readRegister channel .lbaMid s
  let (high, s) := readRegister channel .lbaHigh s
  let low := Text.hexMarked 2 mid.toNat
  let top := Text.hexMarked 2 high.toNat
  let s := PortSpace.note (.trace s!"IDE {placeName channel position} signature {low} {top}") s
  match Signature.classify mid high with
  | .ata => receiveIdentity budget channel position s
  | .packet kind => (.unsupported channel position kind, s)
  | .unknown => (.absent, s)

/-- Finds out what is in a slot. -/
def probe (budget : UInt32) (channel : ChannelId) (position : Position) (s : σ) : Device × σ :=
  let s := select channel (selectChs ||| (position.number <<< 4)) s
  let (status, s) := readRegister channel .command s
  if status = 0x00 ∨ status = 0xFF then (.absent, s)
  else
    let s := requestIdentity channel s
    let (status, s) := readRegister channel .command s
    if status = 0x00 then (.absent, s)
    else
      match waitNotBusy channel (budget.toNat + 1) s with
      | .error e s =>
        (.absent, PortSpace.note
          (.warn s!"IDE {placeName channel position} stuck busy after IDENTIFY: {e.message}") s)
      | .ok _ s => readSignature budget channel position s

/-- What is reported about a slot. -/
def found (slot : Slot) : Device → Report
  | .absent => .info s!"No device at IDE {placeName (channelOf slot) (positionOf slot)}"
  | .unsupported _ _ kind =>
    .warn s!"{kind.name} device at IDE {placeName (channelOf slot) (positionOf slot)} (skipping)"
  | .disk _ _ identity =>
    .info s!"Found IDE drive {slot.val}: {identity.model}, Size: {identity.size} sectors"

/-- Finds out what is in a slot and reports it. -/
def probeSlot (budget : UInt32) (slot : Slot) (s : σ) : Device × σ :=
  let (device, s) := probe budget (channelOf slot) (positionOf slot) s
  (device, PortSpace.note (found slot device) s)

end Wire

namespace Controller

variable {σ : Type} [PortSpace σ]

/-- Turns the interrupts of both channels off, then asks the slots in order. -/
def enumerate (pollBudget : UInt32) (s : σ) : Controller × σ :=
  let s := PortSpace.note (.info "Initializing IDE driver") s
  let s := Wire.writeRegister .primary .control controlNoInterrupts s
  let s := Wire.writeRegister .secondary .control controlNoInterrupts s
  let (d₀, s) := Wire.probeSlot pollBudget 0 s
  let (d₁, s) := Wire.probeSlot pollBudget 1 s
  let (d₂, s) := Wire.probeSlot pollBudget 2 s
  let (d₃, s) := Wire.probeSlot pollBudget 3 s
  (⟨#v[d₀, d₁, d₂, d₃], pollBudget⟩, s)

/-- The device in a slot, for any drive number. -/
def device? (c : Controller) (drive : UInt8) : Option Device := c.devices[drive.toNat]?

/-- Where the usable disk with a drive number is, and what it is. -/
def find (c : Controller) (drive : UInt8) :
    Except AtaError (ChannelId × Position × Identity) :=
  match c.device? drive with
  | none => .error (.invalidDrive drive)
  | some (.disk channel position identity) => .ok (channel, position, identity)
  | some _ => .error (.notPresent drive)

/-- The number of sectors of a disk. -/
def totalSectors (c : Controller) (drive : UInt8) : Except AtaError UInt32 :=
  (c.find drive).map fun (_, _, identity) => identity.size

end Controller

end AtaVolume
