/-
AtaVolume.Proofs.Bus.Traffic — what one access does to an emulated bus.

Any port can be read and written with any value, in any order, and the faults of a
drive can change in between. Whatever the port, the access takes one channel through
one step of `BusChannel.Step`, which is where the cases are told apart; everything
else is said once for all steps. A step keeps a channel coherent, so that no look-up
in a buffer and no next sector number fails, it accounts for what it does to a drive,
and it reaches no other one.
-/
import AtaVolume.Proofs.Bus.Enumeration
import AtaVolume.Proofs.Bus.Writing
import AtaVolume.Proofs.Exact.DataPort

namespace AtaVolume

/-- What is not changed is accounted for, a position without a drive too. -/
theorem Drive.Accounted.same (d? : Option Drive) : Option.Rel Drive.Accounted d? d? := by
  cases d? with
  | none => exact .none
  | some d => exact .some (.refl d)

namespace BusChannel

/-! ## §1 Steps of a channel -/

/-- What a single access, or a change of faults, can do to a channel and to the drive
at the position that it reaches. -/
inductive Step (latency : Nat) (c : BusChannel) : Position → BusChannel → Prop
  | stayed (p : Position) : Step latency c p c
  /-- A register is written that no transfer depends on, or a busy answer is given. -/
  | noted (p : Position) {t : TaskFile} (h : c.registers.Steady t) :
      Step latency c p { c with registers := t }
  | selected (p : Position) (value : UInt8) : Step latency c p (c.select value)
  | commanded {d : Drive} (h : c.current = some d) (value : UInt8) :
      Step latency c c.selected (c.engaged c.selected (c.registers.command d value latency).1
        (c.registers.command d value latency).2)
  | wordRead {d : Drive} (h : c.current = some d) :
      Step latency c c.selected (c.engaged c.selected (c.registers.readWord d latency).2 d)
  | wordWritten {d : Drive} (h : c.current = some d) (w : UInt16) :
      Step latency c c.selected (c.engaged c.selected (c.registers.writeWord d w latency).1
        (c.registers.writeWord d w latency).2)
  | refaulted {p : Position} {d : Drive} (h : c.drive? p = some d) (faults : Faults) :
      Step latency c p (c.setDrive p (some { d with faults }))

variable {c c' : BusChannel} {latency : Nat} {p : Position}

/-- The channel is engaged with its selected drive. -/
theorem engaged_current {d : Drive} (h : c.current = some d) :
    c.engaged c.selected c.registers d = c := by
  obtain ⟨master, slave, selected, registers⟩ := c
  cases selected <;> cases h <;> rfl

@[simp] theorem current_engaged (c : BusChannel) (p : Position) (t : TaskFile) (d : Drive) :
    (c.engaged p t d).current = some d := by
  cases p <;> rfl

theorem drive?_setDrive (c : BusChannel) (p q : Position) (drive : Option Drive) :
    (c.setDrive p drive).drive? q = if q = p then drive else c.drive? q := by
  cases p <;> cases q <;> rfl

/-- Without a selected drive nothing takes a command or has data. -/
theorem unmoved_of_none (h : c.current = none) (latency : Nat) :
    (∀ value, c.command value latency = c) ∧ c.readWord latency = (0xFFFF, c)
      ∧ ∀ w, c.writeWord w latency = c := by
  obtain ⟨master, slave, selected, registers⟩ := c
  cases selected with
  | master =>
    obtain rfl : master = none := h
    cases slave <;> exact ⟨fun _ => rfl, rfl, fun _ => rfl⟩
  | slave =>
    obtain rfl : slave = none := h
    cases master <;> exact ⟨fun _ => rfl, rfl, fun _ => rfl⟩

theorem command_step (c : BusChannel) (value : UInt8) (latency : Nat) :
    c.Step latency c.selected (c.command value latency) := by
  cases h : c.current with
  | none =>
    rw [(unmoved_of_none h latency).1]
    exact .stayed _
  | some d =>
    have hcommand := writeRegister_command_engaged c c.selected c.registers d value latency
    rw [engaged_current h] at hcommand
    have hstep : c.Step latency _ _ := .commanded h value
    rwa [← hcommand] at hstep

theorem readWord_step (c : BusChannel) (latency : Nat) :
    c.Step latency c.selected (c.readWord latency).2 := by
  cases h : c.current with
  | none =>
    rw [(unmoved_of_none h latency).2.1]
    exact .stayed _
  | some d =>
    have hread := readWord_engaged c c.selected c.registers d latency
    rw [engaged_current h] at hread
    rw [hread]
    exact .wordRead h

theorem writeWord_step (c : BusChannel) (w : UInt16) (latency : Nat) :
    c.Step latency c.selected (c.writeWord w latency) := by
  cases h : c.current with
  | none =>
    rw [(unmoved_of_none h latency).2.2]
    exact .stayed _
  | some d =>
    have hwrite := writeWord_engaged c c.selected c.registers d w latency
    rw [engaged_current h] at hwrite
    rw [hwrite]
    exact .wordWritten h w

theorem readRegister_step (c : BusChannel) (r : Register) (latency : Nat) :
    c.Step latency c.selected (c.readRegister r).2 := by
  cases r with
  | command =>
    unfold readRegister passStatus
    simp only
    split
    · exact .noted _ ⟨rfl, rfl, rfl⟩
    · exact .stayed _
  | _ => exact .stayed _

theorem writeRegister_step (c : BusChannel) (r : Register) (value : UInt8) (latency : Nat) :
    c.Step latency c.selected (c.writeRegister r value latency) := by
  cases r with
  | command => exact command_step c value latency
  | deviceSelect => exact .selected _ value
  | data => exact .stayed _
  | error => exact .stayed _
  | _ => exact .noted _ ⟨rfl, rfl, rfl⟩

/-! ## §2 What steps preserve -/

/-- The registers agree with each other and with the selected drive. -/
def Coherent (c : BusChannel) : Prop := c.registers.Coherent c.current

/-- A channel stays coherent when a drive is changed in what registers do not depend on. -/
theorem Coherent.setDrive {d d' : Drive} (hc : c.Coherent) (hd : c.drive? p = some d)
    (hcount : d'.medium.sectorCount = d.medium.sectorCount)
    (hrecord : d'.writeCommands = d.writeCommands) : (c.setDrive p (some d')).Coherent := by
  unfold Coherent at hc ⊢
  have hregisters : (c.setDrive p (some d')).registers = c.registers := by
    cases p <;> rfl
  have hcurrent : (c.setDrive p (some d')).current
      = if c.selected = p then some d' else c.current := by
    cases p <;> exact drive?_setDrive ..
  rw [hregisters, hcurrent]
  split
  case isTrue hp =>
    rw [current, hp, hd] at hc
    exact hc.drive hcount hrecord
  case isFalse => exact hc

/-- **A step keeps a channel coherent.** -/
theorem Step.coherent (h : c.Step latency p c') (hc : c.Coherent) : c'.Coherent := by
  cases h with
  | stayed => exact hc
  | noted _ hsteady => exact TaskFile.Coherent.steady hc hsteady
  | selected _ value => exact TaskFile.coherent_select c.registers value
  | commanded hd value =>
    rw [Coherent, current_engaged, registers_engaged]
    exact (TaskFile.command_coherent c.registers _ value latency).1
  | wordRead hd =>
    rw [Coherent, hd] at hc
    rw [Coherent, current_engaged, registers_engaged]
    exact hc.readWord
  | wordWritten hd w =>
    rw [Coherent, hd] at hc
    rw [Coherent, current_engaged, registers_engaged]
    exact (hc.writeWord w).1
  | refaulted hd faults => exact hc.setDrive hd rfl rfl

/-- **A step reaches one drive.** -/
theorem Step.others (h : c.Step latency p c') {q : Position} (hq : q ≠ p) :
    c'.drive? q = c.drive? q := by
  cases h with
  | stayed => rfl
  | noted => cases q <;> rfl
  | selected => cases q <;> rfl
  | commanded => exact drive?_engaged_of_ne _ _ _ _ hq
  | wordRead => exact drive?_engaged_of_ne _ _ _ _ hq
  | wordWritten => exact drive?_engaged_of_ne _ _ _ _ hq
  | refaulted => exact (drive?_setDrive ..).trans (if_neg hq)

/-- **A step accounts for what it does to the drive.** -/
theorem Step.accounted (h : c.Step latency p c') (hc : c.Coherent) :
    Option.Rel Drive.Accounted (c.drive? p) (c'.drive? p) := by
  cases h with
  | stayed => exact Drive.Accounted.same _
  | noted => cases p <;> exact Drive.Accounted.same _
  | selected => cases p <;> exact Drive.Accounted.same _
  | @commanded d hd value =>
    rw [← current, hd, drive?_engaged]
    exact .some (TaskFile.command_coherent c.registers d value latency).2
  | @wordRead d hd =>
    rw [← current, hd, drive?_engaged]
    exact .some (.refl d)
  | @wordWritten d hd w =>
    rw [Coherent, hd] at hc
    rw [← current, hd, drive?_engaged]
    exact .some (hc.writeWord w).2
  | @refaulted _ d hd faults =>
    rw [hd, drive?_setDrive, if_pos rfl]
    exact .some (.refault d faults)

end BusChannel

/-! ## §3 Events -/

/-- A port that belongs to a register is the register's. -/
theorem port_of_locate {port : UInt16} {id : ChannelId} {r : Register}
    (h : locate port = some (id, r)) : r.port id = port := by
  unfold locate at h
  split at h <;> cases h <;> rfl

/-- The slot of a position on a channel. -/
def slotAt : ChannelId → Position → Slot
  | .primary, .master => 0
  | .primary, .slave => 1
  | .secondary, .master => 2
  | .secondary, .slave => 3

@[simp] theorem channelOf_slotAt (id : ChannelId) (p : Position) : channelOf (slotAt id p) = id := by
  cases id <;> cases p <;> rfl

@[simp] theorem positionOf_slotAt (id : ChannelId) (p : Position) :
    positionOf (slotAt id p) = p := by
  cases id <;> cases p <;> rfl

/-- Two slots of one channel differ in their positions. -/
theorem positionOf_ne {slot other : Slot} (hchannel : channelOf other = channelOf slot)
    (hne : other ≠ slot) : positionOf other ≠ positionOf slot := by
  revert slot other
  decide

/-- What can happen to a bus from outside: an access to any port, or a change of what
is wrong with a drive. -/
inductive BusEvent
  | readByte (port : UInt16)
  | writeByte (port : UInt16) (value : UInt8)
  | readWord (port : UInt16)
  | writeWord (port : UInt16) (value : UInt16)
  | fault (slot : Slot) (change : Faults → Faults)

namespace BusEvent

/-- The bus after an event. -/
def occur : BusEvent → Bus → Bus
  | .readByte port, b => (Bus.readByte port b).2
  | .writeByte port value, b => Bus.writeByte port value b
  | .readWord port, b => (Bus.readWord port b).2
  | .writeWord port value, b => Bus.writeWord port value b
  | .fault slot change, b => b.modifyDrive slot fun d => { d with faults := change d.faults }

/-- The slot that an event is about: an access to a port of a channel is one to the drive
that is selected there. -/
def slot? (b : Bus) : BusEvent → Option Slot
  | .readByte port | .writeByte port _ | .readWord port | .writeWord port _ =>
    (locate port).map fun place => slotAt place.1 (b.channel place.1).selected
  | .fault slot _ => some slot

end BusEvent

namespace Bus

/-- The channel of a slot takes a step that reaches this slot, and the other channel none. -/
def Steps (b : Bus) (slot : Slot) (b' : Bus) : Prop :=
  ∃ c, (b.channel (channelOf slot)).Step b.latency (positionOf slot) c
    ∧ b.Turned (channelOf slot) c b'

variable {b b' : Bus} {slot : Slot}

theorem turned_setDrive (b : Bus) (slot : Slot) (drive : Option Drive) :
    b.Turned (channelOf slot) ((b.channel (channelOf slot)).setDrive (positionOf slot) drive)
      (b.setDrive slot drive) := by
  unfold setDrive
  cases channelOf slot with
  | primary => exact .primary rfl rfl rfl
  | secondary => exact .secondary rfl rfl rfl

/-- Words come from data ports, and from nowhere else. -/
theorem turned_readWord_of_ne (b : Bus) (id : ChannelId) {r : Register} (hr : r ≠ .data) :
    b.Turned id (b.channel id) (readWord (r.port id) b).2 := by
  simp only [readWord, locate_port]
  cases id with
  | primary => cases r <;> first | exact absurd rfl hr | exact .primary rfl rfl rfl
  | secondary => cases r <;> first | exact absurd rfl hr | exact .secondary rfl rfl rfl

theorem turned_writeWord_of_ne (b : Bus) (id : ChannelId) (value : UInt16) {r : Register}
    (hr : r ≠ .data) : b.Turned id (b.channel id) (writeWord (r.port id) value b) := by
  simp only [writeWord, locate_port]
  cases id with
  | primary => cases r <;> first | exact absurd rfl hr | exact .primary rfl rfl rfl
  | secondary => cases r <;> first | exact absurd rfl hr | exact .secondary rfl rfl rfl

/-- What the selected drive does is a step. -/
theorem Turned.steps {id : ChannelId} {c : BusChannel} (h : b.Turned id c b')
    (hstep : (b.channel id).Step b.latency (b.channel id).selected c) :
    b.Steps (slotAt id (b.channel id).selected) b' := by
  refine ⟨c, ?_, ?_⟩
  · rw [channelOf_slotAt, positionOf_slotAt]
    exact hstep
  · rw [channelOf_slotAt]
    exact h

/-- The drives in the other slots are not reached. -/
theorem Steps.others (h : b.Steps slot b') {other : Slot} (hother : other ≠ slot) :
    b'.drive? other = b.drive? other := by
  obtain ⟨c, hstep, hturned⟩ := h
  unfold drive?
  by_cases hchannel : channelOf other = channelOf slot
  · rw [hchannel, hturned.channel]
    exact hstep.others (positionOf_ne hchannel hother)
  · rw [hturned.rest _ hchannel]

end Bus

namespace BusEvent

variable {event : BusEvent} {b : Bus} {slot : Slot}

/-- A drive whose faults change stays where it is. -/
theorem fault_steps (b : Bus) (slot : Slot) (change : Faults → Faults) :
    b.Steps slot (b.modifyDrive slot fun d => { d with faults := change d.faults }) := by
  cases hd : b.drive? slot with
  | none =>
    rw [Bus.modifyDrive, hd]
    exact ⟨_, .stayed _, .refl b _⟩
  | some d =>
    rw [Bus.modifyDrive, hd]
    exact ⟨_, .refaulted hd (change d.faults), b.turned_setDrive slot _⟩

/-- **Every event that is about a slot takes a step there.** -/
theorem occur_steps (h : event.slot? b = some slot) : b.Steps slot (event.occur b) := by
  cases event with
  | fault =>
    cases h
    exact fault_steps ..
  | readByte port =>
    obtain ⟨⟨id, r⟩, hplace, rfl⟩ := Option.map_eq_some_iff.1 h
    obtain rfl := port_of_locate hplace
    exact (b.turned_readRegister id r).steps (BusChannel.readRegister_step _ r _)
  | writeByte port value =>
    obtain ⟨⟨id, r⟩, hplace, rfl⟩ := Option.map_eq_some_iff.1 h
    obtain rfl := port_of_locate hplace
    exact (b.turned_writeRegister id r value).steps (BusChannel.writeRegister_step _ r value _)
  | readWord port =>
    obtain ⟨⟨id, r⟩, hplace, rfl⟩ := Option.map_eq_some_iff.1 h
    obtain rfl := port_of_locate hplace
    cases r with
    | data => exact (b.turned_readWord id).steps (BusChannel.readWord_step ..)
    | _ => exact (b.turned_readWord_of_ne id (by decide)).steps (.stayed _)
  | writeWord port value =>
    obtain ⟨⟨id, r⟩, hplace, rfl⟩ := Option.map_eq_some_iff.1 h
    obtain rfl := port_of_locate hplace
    cases r with
    | data => exact (b.turned_writeWord id value).steps (BusChannel.writeWord_step ..)
    | _ => exact (b.turned_writeWord_of_ne id value (by decide)).steps (.stayed _)

/-- All other events are about no drive. -/
theorem channel_occur_of_none (h : event.slot? b = none) (id : ChannelId) :
    (event.occur b).channel id = b.channel id := by
  cases event with
  | fault => cases h
  | readByte port | writeByte port value | readWord port | writeWord port value =>
    have hplace : locate port = none := Option.map_eq_none_iff.1 h
    simp only [occur, Bus.readByte, Bus.writeByte, Bus.readWord, Bus.writeWord, hplace]
    cases id <;> rfl

/-- Drives in other slots are left alone. -/
theorem drive?_occur (h : event.slot? b ≠ some slot) :
    (event.occur b).drive? slot = b.drive? slot := by
  cases hslot : event.slot? b with
  | none =>
    unfold Bus.drive?
    rw [channel_occur_of_none hslot]
  | some other =>
    have hne : slot ≠ other := by
      rintro rfl
      exact h hslot
    exact (occur_steps hslot).others hne

end BusEvent

/-! ## §4 Invariants -/

namespace Bus

/-- A bus as it is made: nothing has been asked of its channels. -/
def Fresh (b : Bus) : Prop := ∀ id, (b.channel id).registers = {}

/-- Both channels are coherent. -/
def Coherent (b : Bus) : Prop := ∀ id, (b.channel id).Coherent

/-- The data ports have a value for every step that the next access takes. -/
def Answers (b : Bus) : Prop :=
  ∀ id d, (b.channel id).current = some d →
    (b.channel id).registers.readWord? d b.latency
        = some ((b.channel id).registers.readWord d b.latency)
      ∧ ∀ w, (b.channel id).registers.writeWord? d w b.latency
        = some ((b.channel id).registers.writeWord d w b.latency)

variable {b b' : Bus} {slot : Slot}

theorem Fresh.coherent (h : b.Fresh) : b.Coherent := by
  intro id
  unfold BusChannel.Coherent
  rw [h id]
  exact TaskFile.coherent_of_idle rfl (Nat.zero_le 512) rfl Status.dataRequest_idle

namespace Coherent

/-- No word lies outside the buffer, and no next sector number wraps. -/
theorem answers (h : b.Coherent) : b.Answers := by
  intro id d hd
  have hregisters : (b.channel id).registers.Coherent (some d) := hd ▸ h id
  exact ⟨TaskFile.readWord?_eq hregisters b.latency,
    fun w => TaskFile.writeWord?_eq hregisters w b.latency⟩

theorem steps (h : b.Coherent) (hsteps : b.Steps slot b') : b'.Coherent := by
  obtain ⟨c, hstep, hturned⟩ := hsteps
  intro id
  by_cases hid : id = channelOf slot
  · rw [hid, hturned.channel]
    exact hstep.coherent (h _)
  · rw [hturned.rest id hid]
    exact h id

/-- **An event keeps both channels coherent.** -/
theorem occur (h : b.Coherent) (event : BusEvent) : (event.occur b).Coherent := by
  cases hslot : event.slot? b with
  | none =>
    intro id
    rw [BusEvent.channel_occur_of_none hslot]
    exact h id
  | some slot => exact h.steps (BusEvent.occur_steps hslot)

/-- The drive that a step reaches accounts for it. -/
theorem accounted (h : b.Coherent) (hsteps : b.Steps slot b') :
    Option.Rel Drive.Accounted (b.drive? slot) (b'.drive? slot) := by
  obtain ⟨c, hstep, hturned⟩ := hsteps
  unfold drive?
  rw [hturned.channel]
  exact hstep.accounted (h _)

/-- Drives can be changed in what registers do not depend on. -/
theorem modifyDrive (h : b.Coherent) (slot : Slot) {f : Drive → Drive}
    (hcount : ∀ d, (f d).medium.sectorCount = d.medium.sectorCount)
    (hrecord : ∀ d, (f d).writeCommands = d.writeCommands) : (b.modifyDrive slot f).Coherent := by
  unfold Bus.modifyDrive
  split
  case h_1 d hd =>
    have hturned := b.turned_setDrive slot (some (f d))
    intro id
    by_cases hid : id = channelOf slot
    · rw [hid, hturned.channel]
      exact (h _).setDrive hd (hcount d) (hrecord d)
    · rw [hturned.rest id hid]
      exact h id
  case h_2 => exact h

end Coherent

end Bus

end AtaVolume
