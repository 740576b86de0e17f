/-
AtaVolume.Ata.Register — where the two legacy channels lie, and what their
registers hold.

A channel has eight command registers from its base port on and one control
port. `Register.port` and `locate` go between a register and its port
number; each undoes the other.
-/

namespace AtaVolume

/-! ## §1 Places -/

/-- One of the two channels. -/
inductive ChannelId
  | primary
  | secondary
  deriving DecidableEq, Repr

/-- One of the two devices on a channel. -/
inductive Position
  | master
  | slave
  deriving DecidableEq, Repr

/-- Drives are numbered over both channels. -/
abbrev slotCount : Nat := 4

/-- A drive number that exists. -/
abbrev Slot := Fin slotCount

/-- Slots are written as numerals. -/
instance : @NeZero Nat Zero.ofOfNat0 slotCount := ⟨by decide⟩

namespace ChannelId

/-- The channel's number. -/
def number : ChannelId → UInt8
  | .primary => 0
  | .secondary => 1

/-- The first command port. -/
def base : ChannelId → UInt16
  | .primary => 0x1F0
  | .secondary => 0x170

/-- The control port. -/
def control : ChannelId → UInt16
  | .primary => 0x3F6
  | .secondary => 0x376

/-- The channel's name. -/
def name : ChannelId → String
  | .primary => "primary"
  | .secondary => "secondary"

end ChannelId

namespace Position

/-- The device's number on its channel. -/
def number : Position → UInt8
  | .master => 0
  | .slave => 1

/-- The device's name on its channel. -/
def name : Position → String
  | .master => "master"
  | .slave => "slave"

end Position

/-- The channel of a slot: the first two slots are on the primary one. -/
def channelOf (slot : Slot) : ChannelId := if slot.val / 2 = 0 then .primary else .secondary

/-- The position of a slot: even slots are masters. -/
def positionOf (slot : Slot) : Position := if slot.val % 2 = 0 then .master else .slave

/-- What holds of each of the four slots holds of all. -/
theorem forall_slot {P : Slot → Prop} (h₀ : P 0) (h₁ : P 1) (h₂ : P 2) (h₃ : P 3) :
    ∀ slot, P slot
  | 0 => h₀
  | 1 => h₁
  | 2 => h₂
  | 3 => h₃

theorem number_place (slot : Slot) :
    (channelOf slot).number.toNat = slot.val / 2 ∧ (positionOf slot).number.toNat = slot.val % 2 := by
  revert slot
  decide

/-! ## §2 Registers -/

/-- The registers of a channel. -/
inductive Register
  | data
  | error
  | sectorCount
  | lbaLow
  | lbaMid
  | lbaHigh
  | deviceSelect
  /-- Read as the status, written as a command. -/
  | command
  /-- Read as the status without side effects, written as device control. -/
  | control
  deriving DecidableEq, Repr

/-- The port of a register on a channel. -/
def Register.port (channel : ChannelId) : Register → UInt16
  | .data => channel.base
  | .error => channel.base + 1
  | .sectorCount => channel.base + 2
  | .lbaLow => channel.base + 3
  | .lbaMid => channel.base + 4
  | .lbaHigh => channel.base + 5
  | .deviceSelect => channel.base + 6
  | .command => channel.base + 7
  | .control => channel.control

/-- The channel and register behind a port number. -/
def locate (port : UInt16) : Option (ChannelId × Register) :=
  match port with
  | 0x1F0 => some (.primary, .data)
  | 0x1F1 => some (.primary, .error)
  | 0x1F2 => some (.primary, .sectorCount)
  | 0x1F3 => some (.primary, .lbaLow)
  | 0x1F4 => some (.primary, .lbaMid)
  | 0x1F5 => some (.primary, .lbaHigh)
  | 0x1F6 => some (.primary, .deviceSelect)
  | 0x1F7 => some (.primary, .command)
  | 0x3F6 => some (.primary, .control)
  | 0x170 => some (.secondary, .data)
  | 0x171 => some (.secondary, .error)
  | 0x172 => some (.secondary, .sectorCount)
  | 0x173 => some (.secondary, .lbaLow)
  | 0x174 => some (.secondary, .lbaMid)
  | 0x175 => some (.secondary, .lbaHigh)
  | 0x176 => some (.secondary, .deviceSelect)
  | 0x177 => some (.secondary, .command)
  | 0x376 => some (.secondary, .control)
  | _ => none

theorem locate_port (channel : ChannelId) (register : Register) :
    locate (register.port channel) = some (channel, register) := by
  cases channel <;> cases register <;> rfl

/-! ## §3 Status, commands and errors -/

/-- The status register. -/
structure Status where
  bits : UInt8
  deriving DecidableEq, Repr

namespace Status

/-- Busy: nothing else in the status means anything. -/
def busy (s : Status) : Bool := s.bits &&& 0x80 != 0
/-- Device fault. -/
def deviceFault (s : Status) : Bool := s.bits &&& 0x20 != 0
/-- The device asks for a data transfer. -/
def dataRequest (s : Status) : Bool := s.bits &&& 0x08 != 0
/-- The last command failed, and the error register tells how. -/
def failed (s : Status) : Bool := s.bits &&& 0x01 != 0

/-- Busy and nothing else. -/
def isBusy : Status := ⟨0x80⟩
/-- Ready, with nothing to do. -/
def idle : Status := ⟨0x50⟩
/-- Ready, and a data transfer is due. -/
def transferDue : Status := ⟨0x48⟩
/-- Ready, and the last command failed. -/
def failure : Status := ⟨0x41⟩
/-- Ready, with a device fault. -/
def fault : Status := ⟨0x60⟩

end Status

/-- Commands, as written to the command register. -/
abbrev cmdReadSectors : UInt8 := 0x20
abbrev cmdWriteSectors : UInt8 := 0x30
abbrev cmdFlushCache : UInt8 := 0xE7
abbrev cmdIdentify : UInt8 := 0xEC

/-- Device selection by cylinder, head and sector, used to identify. -/
abbrev selectChs : UInt8 := 0xA0
/-- Device selection by sector number, whose bits 27 to 24 it carries. -/
abbrev selectLba : UInt8 := 0xE0

/-- Turns the interrupts of a channel's devices off. -/
abbrev controlNoInterrupts : UInt8 := 0x02

/-- Bits of the error register: a sector cannot be read or written, a sector
does not exist, a command is not supported. -/
abbrev errUncorrectable : UInt8 := 0x40
abbrev errNotFound : UInt8 := 0x10
abbrev errAborted : UInt8 := 0x04

end AtaVolume
