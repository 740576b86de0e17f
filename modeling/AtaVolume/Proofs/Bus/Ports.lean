/-
AtaVolume.Proofs.Bus.Ports — what a port access does to the emulated bus.

An access to a register of a channel acts on that channel alone. `Turned`
says so: a bus is as another one was, but for its counters, its journal and
one channel. `BusChannel.engaged` is a channel on which a given drive is
selected, with given registers; a run of the driver moves from one such
channel to another, so that from here on it is enough to follow the registers
and the one drive.
-/
import AtaVolume.Ata.Controller
import AtaVolume.Bus.Emulated

namespace AtaVolume

/-! ## §1 One channel at a time -/

/-- `b'` is `b` with `c` as its channel `id`, but for counters and journal. -/
structure Bus.Turned (b : Bus) (id : ChannelId) (c : BusChannel) (b' : Bus) : Prop where
  channel : b'.channel id = c
  rest : ∀ other, other ≠ id → b'.channel other = b.channel other
  latency : b'.latency = b.latency

namespace Bus.Turned

theorem refl (b : Bus) (id : ChannelId) : b.Turned id (b.channel id) b :=
  ⟨rfl, fun _ _ => rfl, rfl⟩

theorem trans {b b' b'' : Bus} {id : ChannelId} {c c' : BusChannel} (h : b.Turned id c b')
    (h' : b'.Turned id c' b'') : b.Turned id c' b'' where
  channel := h'.channel
  rest other ne := (h'.rest other ne).trans (h.rest other ne)
  latency := h'.latency.trans h.latency

theorem primary {b b' : Bus} {c : BusChannel} (hc : b'.primary = c)
    (h : b'.secondary = b.secondary) (hlatency : b'.latency = b.latency) :
    b.Turned .primary c b' := by
  refine ⟨hc, fun other ne => ?_, hlatency⟩
  cases other with
  | primary => exact absurd rfl ne
  | secondary => exact h

theorem secondary {b b' : Bus} {c : BusChannel} (hc : b'.secondary = c)
    (h : b'.primary = b.primary) (hlatency : b'.latency = b.latency) :
    b.Turned .secondary c b' := by
  refine ⟨hc, fun other ne => ?_, hlatency⟩
  cases other with
  | primary => exact h
  | secondary => exact absurd rfl ne

end Bus.Turned

namespace Bus

/-! ## §2 Accesses -/

theorem turned_note (b : Bus) (id : ChannelId) (report : Report) :
    b.Turned id (b.channel id) (PortSpace.note report b) := by
  cases id with
  | primary => exact .primary rfl rfl rfl
  | secondary => exact .secondary rfl rfl rfl

theorem readRegister_fst (id : ChannelId) (r : Register) (b : Bus) :
    (Wire.readRegister id r b).1 = ((b.channel id).readRegister r).1 := by
  simp only [Wire.readRegister, PortSpace.readByte, readByte, locate_port]
  cases id <;> rfl

theorem turned_readRegister (id : ChannelId) (r : Register) (b : Bus) :
    b.Turned id ((b.channel id).readRegister r).2 (Wire.readRegister id r b).2 := by
  simp only [Wire.readRegister, PortSpace.readByte, readByte, locate_port]
  cases id with
  | primary => exact .primary rfl rfl rfl
  | secondary => exact .secondary rfl rfl rfl

theorem turned_writeRegister (id : ChannelId) (r : Register) (value : UInt8) (b : Bus) :
    b.Turned id ((b.channel id).writeRegister r value b.latency)
      (Wire.writeRegister id r value b) := by
  simp only [Wire.writeRegister, PortSpace.writeByte, writeByte, locate_port]
  cases id with
  | primary => exact .primary rfl rfl rfl
  | secondary => exact .secondary rfl rfl rfl

theorem readWord_fst (id : ChannelId) (b : Bus) :
    (PortSpace.readWord (Register.data.port id) b).1 = ((b.channel id).readWord b.latency).1 := by
  simp only [PortSpace.readWord, readWord, locate_port]
  cases id <;> rfl

theorem turned_readWord (id : ChannelId) (b : Bus) :
    b.Turned id ((b.channel id).readWord b.latency).2
      (PortSpace.readWord (Register.data.port id) b).2 := by
  simp only [PortSpace.readWord, readWord, locate_port]
  cases id with
  | primary => exact .primary rfl rfl rfl
  | secondary => exact .secondary rfl rfl rfl

theorem turned_writeWord (id : ChannelId) (value : UInt16) (b : Bus) :
    b.Turned id ((b.channel id).writeWord value b.latency)
      (PortSpace.writeWord (Register.data.port id) value b) := by
  simp only [PortSpace.writeWord, writeWord, locate_port]
  cases id with
  | primary => exact .primary rfl rfl rfl
  | secondary => exact .secondary rfl rfl rfl

end Bus

namespace BusChannel

/-! ## §3 A channel with a drive in use -/

/-- The channel with drive `d` selected at a position, and registers `t`. -/
def engaged (c : BusChannel) (p : Position) (t : TaskFile) (d : Drive) : BusChannel :=
  match p with
  | .master => { c with master := some d, selected := .master, registers := t }
  | .slave => { c with slave := some d, selected := .slave, registers := t }

variable (c : BusChannel) (p : Position) (t t' : TaskFile) (d d' : Drive)

@[simp] theorem engaged_engaged : (c.engaged p t d).engaged p t' d' = c.engaged p t' d' := by
  cases p <;> rfl

@[simp] theorem registers_engaged : (c.engaged p t d).registers = t := by
  cases p <;> rfl

@[simp] theorem drive?_engaged : (c.engaged p t d).drive? p = some d := by
  cases p <;> rfl

theorem drive?_engaged_of_ne {q : Position} (h : q ≠ p) :
    (c.engaged p t d).drive? q = c.drive? q := by
  cases p <;> cases q <;> first | rfl | exact absurd rfl h

/-- The status tells the registers' status, unless something is busy. -/
theorem status_engaged :
    (c.engaged p t d).status
      = if d.faults.stuckBusy || 0 < t.busyReads then .isBusy else t.status := by
  cases p with
  | master => rfl
  | slave => rcases c with ⟨_ | _, _, _, _⟩ <;> rfl

theorem readRegister_command_engaged :
    (c.engaged p t d).readRegister .command
      = ((c.engaged p t d).status.bits,
         c.engaged p { t with busyReads := t.busyReads - 1 } d) := by
  cases p <;> rfl

theorem readRegister_error_engaged :
    (c.engaged p t d).readRegister .error = (t.error, c.engaged p t d) := by
  cases p <;> rfl

theorem writeRegister_command_engaged (value : UInt8) (latency : Nat) :
    (c.engaged p t d).writeRegister .command value latency
      = c.engaged p (t.command d value latency).1 (t.command d value latency).2 := by
  cases p with
  | master => rfl
  | slave => rcases c with ⟨_ | _, _, _, _⟩ <;> rfl

theorem readWord_engaged (latency : Nat) :
    (c.engaged p t d).readWord latency
      = ((t.readWord d latency).1, c.engaged p (t.readWord d latency).2 d) := by
  cases p with
  | master => rfl
  | slave => rcases c with ⟨_ | _, _, _, _⟩ <;> rfl

theorem writeWord_engaged (value : UInt16) (latency : Nat) :
    (c.engaged p t d).writeWord value latency
      = c.engaged p (t.writeWord d value latency).1 (t.writeWord d value latency).2 := by
  cases p with
  | master => rfl
  | slave => rcases c with ⟨_ | _, _, _, _⟩ <;> rfl

end BusChannel

end AtaVolume
