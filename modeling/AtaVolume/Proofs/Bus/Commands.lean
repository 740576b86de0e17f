/-
AtaVolume.Proofs.Bus.Commands — a command reaches the drive as it was meant.

The driver splits a sector number over four registers and a count over one;
the drive puts them together again (`targetLba_addressed`,
`targetCount_addressed`). So an issued command leaves the channel with the
drive selected and the command run on it, whatever the registers held before
(`issue_turned`); what the drive makes of the command is said by the lemmas on
`commanded`.
-/
import AtaVolume.Proofs.Bus.DataPort

namespace AtaVolume

/-- A disk that answers its commands. -/
structure Drive.Responsive (d : Drive) : Prop where
  kind : d.kind = .ata
  free : d.faults.stuckBusy = false
  sound : d.faults.deviceFault = false

/-! ## §1 Addresses -/

namespace TaskFile

/-- The registers once a device is selected and its sectors are named. -/
def addressed (t : TaskFile) (p : Position) (lba : UInt32) (n : Nat) : TaskFile :=
  { t.select (selectLba ||| (p.number <<< 4) ||| Wire.lbaHead lba) with
    sectorCount := UInt8.ofNat n
    lbaLow := lba.toUInt8
    lbaMid := (lba >>> 8).toUInt8
    lbaHigh := (lba >>> 16).toUInt8 }

theorem lbaHead_eq {lba : UInt32} (h : lba.toNat < 2 ^ 28) :
    Wire.lbaHead lba = (lba >>> 24).toUInt8 := by
  have hshift : (lba >>> 24).toNat < 2 ^ 4 := by
    rw [UInt32.toNat_shiftRight, show (24 : UInt32).toNat % 32 = 24 from rfl,
      Nat.shiftRight_eq_div_pow]
    omega
  apply UInt8.toNat_inj.1
  rw [Wire.lbaHead, UInt32.toNat_toUInt8, UInt32.toNat_and, UInt32.toNat_toUInt8,
    show (0x0F : UInt32).toNat = 2 ^ 4 - 1 from rfl, Nat.and_two_pow_sub_one_eq_mod,
    Nat.mod_eq_of_lt hshift]

theorem lbaHead_lt (lba : UInt32) : (Wire.lbaHead lba).toNat < 16 := by
  rw [Wire.lbaHead, UInt32.toNat_toUInt8, UInt32.toNat_and,
    show (0x0F : UInt32).toNat = 2 ^ 4 - 1 from rfl, Nat.and_two_pow_sub_one_eq_mod]
  omega

/-- The select register keeps the position and the head of the sector number
apart. -/
theorem select_bits (p : Position) {head : UInt8} (h : head.toNat < 16) :
    (selectLba ||| (p.number <<< 4) ||| head) &&& 0x0F = head
      ∧ ((selectLba ||| (p.number <<< 4) ||| head) &&& 0x10 = 0 ↔ p = .master) := by
  have hall : ∀ k : Fin 16, ∀ p : Position,
      (selectLba ||| (p.number <<< 4) ||| UInt8.ofNat k.val) &&& 0x0F = UInt8.ofNat k.val
        ∧ ((selectLba ||| (p.number <<< 4) ||| UInt8.ofNat k.val) &&& 0x10 = 0 ↔ p = .master) := by
    intro k p
    cases p <;> revert k <;> decide
  have := hall ⟨head.toNat, h⟩ p
  rwa [UInt8.ofNat_toNat] at this

theorem targetLba_addressed (t : TaskFile) (p : Position) {lba : UInt32} (h : lba.toNat < 2 ^ 28)
    (n : Nat) : (t.addressed p lba n).targetLba = lba := by
  have hhead : (t.addressed p lba n).deviceSelect &&& (0x0F : UInt8)
      = (lba >>> 24).toUInt8 := by
    rw [← lbaHead_eq h]
    exact (select_bits p (lbaHead_lt lba)).1
  rw [targetLba, hhead]
  exact LittleEndian.join32_le32 lba

theorem targetCount_addressed (t : TaskFile) (p : Position) (lba : UInt32) {n : Nat} (hpos : 1 ≤ n)
    (hn : n ≤ 256) : (t.addressed p lba n).targetCount = n := by
  show (if UInt8.ofNat n = 0 then 256 else (UInt8.ofNat n).toNat) = n
  by_cases h : n = 256
  · subst h
    rfl
  · have hnat : (UInt8.ofNat n).toNat = n := UInt8.toNat_ofNat_of_lt' (show n < 256 by omega)
    rw [if_neg, hnat]
    intro hzero
    rw [hzero] at hnat
    exact absurd hnat (by show (0 : Nat) ≠ n; omega)

/-! ## §2 Commands of a disk -/

/-- The registers when a command starts. -/
def cleared (t : TaskFile) (latency : Nat) : TaskFile :=
  { t with busyReads := latency, error := 0, cursor := 0, pendingError := none }

/-- The registers when a flush is done, which tells the error that was kept. -/
def told (t : TaskFile) : Option UInt8 → TaskFile
  | some error => t.fail error
  | none => t.finish

variable {d : Drive} (t : TaskFile) (latency : Nat)

theorem command_fault (hkind : d.kind = .ata) (hfault : d.faults.deviceFault = true) {value : UInt8}
    (hvalue : value ≠ cmdIdentify) :
    t.command d value latency = ({ t.cleared latency with status := .fault, phase := .idle }, d) := by
  rw [command, if_neg hvalue, if_neg (by rw [hkind]; simp), if_pos hfault]
  rfl

theorem command_read (hkind : d.kind = .ata) (hsound : d.faults.deviceFault = false) :
    t.command d cmdReadSectors latency = ((t.cleared latency).startRead d, d) := by
  rw [command, if_neg (by decide), if_neg (by rw [hkind]; simp), if_neg (by rw [hsound]; decide)]
  rfl

theorem command_write (hkind : d.kind = .ata) (hsound : d.faults.deviceFault = false) :
    t.command d cmdWriteSectors latency = (t.cleared latency).startWrite d := by
  rw [command, if_neg (by decide), if_neg (by rw [hkind]; simp), if_neg (by rw [hsound]; decide)]
  rfl

theorem command_flush (hkind : d.kind = .ata) (hsound : d.faults.deviceFault = false) :
    t.command d cmdFlushCache latency
      = ((t.cleared latency).told t.pendingError, { d with flushes := d.flushes + 1 }) := by
  rw [command, if_neg (by decide), if_neg (by rw [hkind]; simp), if_neg (by rw [hsound]; decide)]
  cases h : t.pendingError with
  | some error => rfl
  | none => rfl

/-! ## §3 Commands on sectors -/

/-- The registers and the drive after a command on `n` sectors from `lba` on. -/
def commanded (t : TaskFile) (p : Position) (d : Drive) (lba : UInt32) (n : Nat) (command : UInt8)
    (latency : Nat) : TaskFile × Drive :=
  (t.addressed p lba n).command d command latency

variable {t latency} {p : Position} {lba : UInt32} {n : Nat}

theorem commanded_fault (hkind : d.kind = .ata) (hfault : d.faults.deviceFault = true)
    {value : UInt8} (hvalue : value ≠ cmdIdentify) :
    t.commanded p d lba n value latency
      = ({ (t.addressed p lba n).cleared latency with status := .fault, phase := .idle }, d) :=
  command_fault _ latency hkind hfault hvalue

section Named

variable (hkind : d.kind = .ata) (hsound : d.faults.deviceFault = false)
  (hlba : lba.toNat < 2 ^ 28) (hpos : 1 ≤ n) (hn : n ≤ 256)

include hlba hpos hn in
theorem target_cleared :
    ((t.addressed p lba n).cleared latency).targetLba = lba
      ∧ ((t.addressed p lba n).cleared latency).targetCount = n :=
  ⟨targetLba_addressed t p hlba n, targetCount_addressed t p lba hpos hn⟩

include hkind hsound hlba hpos hn

theorem commanded_read_beyond (h : d.holds lba n = false) :
    t.commanded p d lba n cmdReadSectors latency
      = (((t.addressed p lba n).cleared latency).fail errNotFound, d) := by
  obtain ⟨htarget, hcount⟩ := target_cleared (t := t) (p := p) hlba hpos hn
  rw [commanded, command_read _ _ hkind hsound, startRead, htarget, hcount,
    if_neg (by rw [h]; decide)]

theorem commanded_read_within (h : d.holds lba n = true) :
    t.commanded p d lba n cmdReadSectors latency
      = (load { (t.addressed p lba n).cleared latency with phase := .read lba n } d lba, d) := by
  obtain ⟨htarget, hcount⟩ := target_cleared (t := t) (p := p) hlba hpos hn
  rw [commanded, command_read _ _ hkind hsound, startRead, htarget, hcount, if_pos h]

theorem commanded_write_beyond (h : d.holds lba n = false) :
    t.commanded p d lba n cmdWriteSectors latency
      = (((t.addressed p lba n).cleared latency).fail errNotFound, d) := by
  obtain ⟨htarget, hcount⟩ := target_cleared (t := t) (p := p) hlba hpos hn
  rw [commanded, command_write _ _ hkind hsound, startWrite, htarget, hcount,
    if_neg (by rw [h]; decide)]

theorem commanded_write_within (h : d.holds lba n = true) :
    t.commanded p d lba n cmdWriteSectors latency
      = ({ (t.addressed p lba n).cleared latency with
            phase := .write lba n, status := .transferDue },
         { d with writeCommands := d.writeCommands.push (lba, n) }) := by
  obtain ⟨htarget, hcount⟩ := target_cleared (t := t) (p := p) hlba hpos hn
  rw [commanded, command_write _ _ hkind hsound, startWrite, htarget, hcount, if_pos h]

end Named

end TaskFile

/-! ## §4 Issuing -/

namespace BusChannel

/-- The select register chooses the drive. -/
theorem select_eq_engaged_of_bit {c : BusChannel} {p : Position} {d : Drive}
    (h : c.drive? p = some d) {value : UInt8} (hbit : value &&& 0x10 = 0 ↔ p = .master) :
    c.select value = c.engaged p (c.registers.select value) d := by
  rcases c with ⟨master, slave, selected, registers⟩
  cases p with
  | master =>
    cases h
    rw [select, if_pos (hbit.2 rfl)]
    rfl
  | slave =>
    cases h
    rw [select, if_neg (fun hz => Position.noConfusion (hbit.1 hz))]
    rfl

theorem select_eq_engaged {c : BusChannel} {p : Position} {d : Drive} (h : c.drive? p = some d)
    {head : UInt8} (hhead : head.toNat < 16) :
    c.select (selectLba ||| (p.number <<< 4) ||| head)
      = c.engaged p (c.registers.select (selectLba ||| (p.number <<< 4) ||| head)) d :=
  select_eq_engaged_of_bit h (TaskFile.select_bits p hhead).2

end BusChannel

theorem Bus.Turned.writeRegister {b b' : Bus} {id : ChannelId} {c : BusChannel}
    (h : b.Turned id c b') (r : Register) (value : UInt8) :
    b.Turned id (c.writeRegister r value b.latency) (Wire.writeRegister id r value b') := by
  have h' := Bus.turned_writeRegister id r value b'
  rw [h.channel, h.latency] at h'
  exact h.trans h'

namespace Wire

variable {id : ChannelId} {p : Position} {d : Drive} {b : Bus}

/-- **A command is run on the drive that it was issued to**, with the sectors
that it names, whatever was going on before. -/
theorem issue_turned (h : (b.channel id).drive? p = some d) (lba : UInt32) (n : Nat)
    (command : UInt8) :
    b.Turned id
      ((b.channel id).engaged p
        ((b.channel id).registers.commanded p d lba n command b.latency).1
        ((b.channel id).registers.commanded p d lba n command b.latency).2)
      (issue id p lba n command b) := by
  have hselect := (Bus.Turned.refl b id).writeRegister .deviceSelect
    (selectLba ||| (p.number <<< 4) ||| lbaHead lba)
  rw [BusChannel.writeRegister, BusChannel.select_eq_engaged h (TaskFile.lbaHead_lt lba)] at hselect
  have hnamed := (((hselect.writeRegister .sectorCount (UInt8.ofNat n)).writeRegister .lbaLow
    lba.toUInt8).writeRegister .lbaMid (lba >>> 8).toUInt8).writeRegister .lbaHigh
    (lba >>> 16).toUInt8
  have hcommand := hnamed.writeRegister .command command
  have hregisters : ((((((b.channel id).engaged p ((b.channel id).registers.select
      (selectLba ||| (p.number <<< 4) ||| lbaHead lba)) d).writeRegister .sectorCount
      (UInt8.ofNat n) b.latency).writeRegister .lbaLow lba.toUInt8 b.latency).writeRegister .lbaMid
      (lba >>> 8).toUInt8 b.latency).writeRegister .lbaHigh (lba >>> 16).toUInt8 b.latency)
      = (b.channel id).engaged p ((b.channel id).registers.addressed p lba n) d := by
    cases p <;> rfl
  rw [hregisters, BusChannel.writeRegister_command_engaged] at hcommand
  exact hcommand

/-- A command that was reported first is issued all the same. -/
theorem noted_issue_turned (h : (b.channel id).drive? p = some d) (report : Report) (lba : UInt32)
    (n : Nat) (command : UInt8) :
    b.Turned id
      ((b.channel id).engaged p
        ((b.channel id).registers.commanded p d lba n command b.latency).1
        ((b.channel id).registers.commanded p d lba n command b.latency).2)
      (issue id p lba n command (PortSpace.note report b)) := by
  have hnote := b.turned_note id report
  have hissue := issue_turned (b := PortSpace.note report b) (by rw [hnote.channel]; exact h) lba n
    command
  rw [hnote.channel, hnote.latency] at hissue
  exact hnote.trans hissue

end Wire

end AtaVolume
