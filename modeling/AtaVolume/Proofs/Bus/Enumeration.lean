/-
AtaVolume.Proofs.Bus.Enumeration — a disk that the driver finds is there.

To find out what is in its slots the driver sends IDENTIFY commands and reads; that
changes registers, but no drive (`SameDrives`). An empty position answers with
zeros or ones, so a slot in which a disk was found carries a drive
(`Controller.finds_enumerate`).
-/
import AtaVolume.Proofs.Bus.Leftovers

namespace AtaVolume

/-! ## §1 Accesses that change no drive -/

namespace BusChannel

variable (c : BusChannel) (p : Position)

theorem drive?_readRegister (r : Register) : (c.readRegister r).2.drive? p = c.drive? p := by
  cases r with
  | command =>
    unfold readRegister passStatus
    simp only
    split <;> cases p <;> rfl
  | _ => rfl

theorem drive?_readWord (latency : Nat) : (c.readWord latency).2.drive? p = c.drive? p := by
  obtain ⟨_ | _, _ | _, _ | _, _⟩ := c <;> cases p <;> rfl

/-- A drive that is asked to identify itself stays as it is. -/
theorem drive?_identify (latency : Nat) :
    (c.command cmdIdentify latency).drive? p = c.drive? p := by
  obtain ⟨_ | _, _ | _, _ | _, _⟩ := c <;> cases p <;> rfl

theorem drive?_writeRegister {r : Register} (h : r ≠ .command) (value : UInt8) (latency : Nat) :
    (c.writeRegister r value latency).drive? p = c.drive? p := by
  cases r with
  | command => exact absurd rfl h
  | _ => cases p <;> rfl

/-- An empty position shows no status but zeros and ones. -/
theorem status_select_of_none (h : c.drive? p = none) :
    (c.select (selectChs ||| (p.number <<< 4))).status = ⟨0x00⟩
      ∨ (c.select (selectChs ||| (p.number <<< 4))).status = ⟨0xFF⟩ := by
  obtain ⟨master, slave, selected, registers⟩ := c
  cases p with
  | master =>
    cases h
    cases slave with
    | none => exact .inr rfl
    | some d => exact .inl rfl
  | slave =>
    cases h
    cases master with
    | none => exact .inr rfl
    | some d => exact .inl rfl

end BusChannel

namespace Bus

/-- Both buses carry the same drives. -/
def SameDrives (b b' : Bus) : Prop := ∀ id p, (b'.channel id).drive? p = (b.channel id).drive? p

namespace SameDrives

variable {b b' b'' : Bus}

theorem refl (b : Bus) : b.SameDrives b := fun _ _ => rfl

theorem trans (h : b.SameDrives b') (h' : b'.SameDrives b'') : b.SameDrives b'' :=
  fun id p => (h' id p).trans (h id p)

theorem of_turned {id : ChannelId} {c : BusChannel} (h : b.Turned id c b')
    (hc : ∀ p, c.drive? p = (b.channel id).drive? p) : b.SameDrives b' := by
  intro id' p
  by_cases hid : id' = id
  · subst hid
    rw [h.channel, hc]
  · rw [h.rest id' hid]

end SameDrives

theorem sameDrives_note (b : Bus) (report : Report) :
    b.SameDrives (PortSpace.note report b) :=
  .of_turned (b.turned_note .primary report) fun _ => rfl

theorem sameDrives_readRegister (id : ChannelId) (r : Register) (b : Bus) :
    b.SameDrives (Wire.readRegister id r b).2 :=
  .of_turned (turned_readRegister id r b) fun p => BusChannel.drive?_readRegister _ p r

theorem sameDrives_writeRegister (id : ChannelId) {r : Register} (h : r ≠ .command)
    (value : UInt8) (b : Bus) : b.SameDrives (Wire.writeRegister id r value b) :=
  .of_turned (turned_writeRegister id r value b) fun p =>
    BusChannel.drive?_writeRegister _ p h value b.latency

theorem sameDrives_identify (id : ChannelId) (b : Bus) :
    b.SameDrives (Wire.writeRegister id .command cmdIdentify b) :=
  .of_turned (turned_writeRegister id .command cmdIdentify b) fun p =>
    BusChannel.drive?_identify _ p b.latency

/-! ## §2 Probing -/

variable {b : Bus} {id : ChannelId} {p : Position}

/-- A relation that only says that a bus carries the drives of `b`. -/
def Carrying (b s s' : Bus) : Prop := s = s' ∧ b.SameDrives s

theorem polls_carrying (b : Bus) (id : ChannelId) : Wire.PollsAlike id (Carrying b) := by
  rintro r - s _ ⟨rfl, hs⟩
  exact ⟨rfl, rfl, hs.trans (sameDrives_readRegister id r s)⟩

theorem words_carrying (b : Bus) (id : ChannelId) : Wire.WordsAlike id (Carrying b) := by
  rintro s _ ⟨rfl, hs⟩
  have hword : s.SameDrives (PortSpace.readWord (Register.data.port id) s).2 :=
    .of_turned (turned_readWord id s) fun p => BusChannel.drive?_readWord _ p s.latency
  exact ⟨rfl, rfl, hs.trans hword⟩

theorem sameDrives_requestIdentity (id : ChannelId) (b : Bus) :
    b.SameDrives (Wire.requestIdentity id b) := by
  unfold Wire.requestIdentity
  have hcount := sameDrives_writeRegister id (r := .sectorCount) (by decide) 0 b
  have hlow := hcount.trans (sameDrives_writeRegister id (r := .lbaLow) (by decide) 0 _)
  have hmid := hlow.trans (sameDrives_writeRegister id (r := .lbaMid) (by decide) 0 _)
  have hhigh := hmid.trans (sameDrives_writeRegister id (r := .lbaHigh) (by decide) 0 _)
  exact hhigh.trans (sameDrives_identify id _)

/-- What a slot was found to hold, and that no drive has changed. -/
structure Probed (b : Bus) (id : ChannelId) (p : Position) (device : Device) (b' : Bus) : Prop where
  drives : b.SameDrives b'
  place : ∀ id' p' identity, device = .disk id' p' identity → id' = id ∧ p' = p

theorem Probed.absent {b' : Bus} (h : b.SameDrives b') : b.Probed id p .absent b' :=
  ⟨h, fun _ _ _ hd => nomatch hd⟩

theorem probed_receiveIdentity (budget : UInt32) (id : ChannelId) (p : Position) (b : Bus) :
    b.Probed id p (Wire.receiveIdentity budget id p b).1
      (Wire.receiveIdentity budget id p b).2 := by
  unfold Wire.receiveIdentity
  obtain ⟨_, s, t, hs, -, -, hdrives⟩ | ⟨e, s, t, hs, -, -, hdrives⟩ :=
    (Wire.pollStatus_alike (polls_carrying b id) budget true b b ⟨rfl, .refl b⟩).cases_eq
  · rw [hs]
    have hread : b.SameDrives
        (Wire.readSectorData id (Array.emptyWithCapacity sectorSize) s).2 :=
      (Wire.readWords_alike (words_carrying b id) Wire.sectorWords _
        (show Carrying b s s from ⟨rfl, hdrives⟩)).2.2
    simp only
    generalize Wire.readSectorData id (Array.emptyWithCapacity sectorSize) s = r at hread
    refine ⟨hread, ?_⟩
    intro id' p' identity hd
    cases hd
    exact ⟨rfl, rfl⟩
  · rw [hs]
    exact .absent (hdrives.trans (sameDrives_note s _))

theorem Probed.after {b b' b'' : Bus} {device : Device} (h : b.SameDrives b')
    (h' : b'.Probed id p device b'') : b.Probed id p device b'' :=
  ⟨h.trans h'.drives, h'.place⟩

theorem probed_readSignature (budget : UInt32) (id : ChannelId) (p : Position) (b : Bus) :
    b.Probed id p (Wire.readSignature budget id p b).1 (Wire.readSignature budget id p b).2 := by
  unfold Wire.readSignature
  have hread := (sameDrives_readRegister id .lbaMid b).trans (sameDrives_readRegister id .lbaHigh _)
  simp only
  split
  · exact .after (hread.trans (sameDrives_note _ _)) (probed_receiveIdentity budget id p _)
  · exact ⟨hread.trans (sameDrives_note _ _), fun _ _ _ hd => nomatch hd⟩
  · exact .absent (hread.trans (sameDrives_note _ _))

theorem sameDrives_select (id : ChannelId) (value : UInt8) (b : Bus) :
    b.SameDrives (Wire.select id value b) :=
  sameDrives_writeRegister id (by decide) value b

/-- The status of an empty slot tells that nothing is there. -/
theorem readStatus_vacant (h : (b.channel id).drive? p = none) :
    (Wire.readRegister id .command
        (Wire.select id (selectChs ||| (p.number <<< 4)) b)).1 = 0x00
      ∨ (Wire.readRegister id .command
        (Wire.select id (selectChs ||| (p.number <<< 4)) b)).1 = 0xFF := by
  have hchannel : (Wire.select id (selectChs ||| (p.number <<< 4)) b).channel id
      = (b.channel id).select (selectChs ||| (p.number <<< 4)) :=
    (turned_writeRegister id .deviceSelect _ b).channel
  have hbits : (Wire.readRegister id .command
      (Wire.select id (selectChs ||| (p.number <<< 4)) b)).1
        = ((b.channel id).select (selectChs ||| (p.number <<< 4))).status.bits := by
    rw [readRegister_fst, hchannel]
    rfl
  rw [hbits]
  exact (BusChannel.status_select_of_none (b.channel id) p h).imp (congrArg Status.bits ·)
    (congrArg Status.bits ·)

/-- **An empty slot is found empty**, and a disk where it was looked for. -/
theorem probed_probe (budget : UInt32) (id : ChannelId) (p : Position) (b : Bus) :
    b.Probed id p (Wire.probe budget id p b).1 (Wire.probe budget id p b).2
      ∧ ((b.channel id).drive? p = none → (Wire.probe budget id p b).1 = .absent) := by
  have hselect := sameDrives_select id (selectChs ||| (p.number <<< 4)) b
  have hstatus := hselect.trans (sameDrives_readRegister id .command _)
  unfold Wire.probe
  simp only
  split
  case isTrue h => exact ⟨.absent hstatus, fun _ => rfl⟩
  case isFalse h =>
    refine ⟨?_, fun hnone => absurd (readStatus_vacant hnone) h⟩
    have hask := hstatus.trans (sameDrives_requestIdentity id _)
    have hagain := hask.trans (sameDrives_readRegister id .command _)
    split
    · exact .absent hagain
    · obtain ⟨_, s, t, hs, -, -, hdrives⟩ | ⟨e, s, t, hs, -, -, hdrives⟩ :=
        (Wire.waitNotBusy_alike (polls_carrying b id) (budget.toNat + 1) _ _
          ⟨rfl, hagain⟩).cases_eq
      · rw [hs]
        exact .after hdrives (probed_readSignature budget id p s)
      · rw [hs]
        exact .absent (hdrives.trans (sameDrives_note s _))

/-! ## §3 All slots -/

/-- The slot holds a drive if a disk was found in it, and the disk is known by its
place. -/
def FoundIn (b : Bus) (slot : Slot) (device : Device) : Prop :=
  ∀ id p identity, device = .disk id p identity →
    id = channelOf slot ∧ p = positionOf slot ∧ (b.drive? slot).isSome = true

theorem found_probeSlot (budget : UInt32) (slot : Slot) {b b' : Bus} (h : b.SameDrives b') :
    b.SameDrives (Wire.probeSlot budget slot b').2
      ∧ b.FoundIn slot (Wire.probeSlot budget slot b').1 := by
  obtain ⟨hprobed, habsent⟩ := probed_probe budget (channelOf slot) (positionOf slot) b'
  unfold Wire.probeSlot
  refine ⟨(h.trans hprobed.drives).trans (sameDrives_note _ _), ?_⟩
  intro id p identity hd
  obtain ⟨rfl, rfl⟩ := hprobed.place id p identity hd
  refine ⟨rfl, rfl, ?_⟩
  unfold drive?
  rw [← h]
  cases hdrive : (b'.channel (channelOf slot)).drive? (positionOf slot) with
  | some d => rfl
  | none =>
    rw [habsent hdrive] at hd
    cases hd

end Bus

/-- Where a driver finds disks there are drives. -/
def Controller.Finds (c : Controller) (b : Bus) : Prop :=
  ∀ drive id p identity, c.find drive = .ok (id, p, identity) →
    ∃ slot : Slot, slot.val = drive.toNat ∧ id = channelOf slot ∧ p = positionOf slot
      ∧ (b.drive? slot).isSome = true

theorem Controller.finds_of_foundIn {c : Controller} {b b' : Bus}
    (hdevices : ∀ slot : Slot, b.FoundIn slot c.devices[slot.val]) (h : b.SameDrives b') :
    c.Finds b' := by
  intro drive id p identity hfind
  have hdevice : c.device? drive = some (.disk id p identity) := by
    unfold find at hfind
    split at hfind
    case h_1 => cases hfind
    case h_2 hd =>
      cases hfind
      exact hd
    case h_3 => cases hfind
  obtain ⟨hlt, hd⟩ := Vector.getElem?_eq_some_iff.1 hdevice
  obtain ⟨hid, hp, hsome⟩ := hdevices ⟨drive.toNat, hlt⟩ id p identity hd
  refine ⟨⟨drive.toNat, hlt⟩, rfl, hid, hp, ?_⟩
  unfold Bus.drive? at hsome ⊢
  rw [h]
  exact hsome

/-- **A driver that has just started finds disks only where there are drives.** -/
theorem Controller.finds_enumerate (budget : UInt32) (b : Bus) :
    (enumerate budget b).1.Finds (enumerate budget b).2
      ∧ b.SameDrives (enumerate budget b).2 := by
  have hready : b.SameDrives (Wire.writeRegister .secondary .control controlNoInterrupts
      (Wire.writeRegister .primary .control controlNoInterrupts
        (PortSpace.note (.info "Initializing IDE driver") b))) :=
    ((b.sameDrives_note _).trans (Bus.sameDrives_writeRegister .primary (by decide) _ _)).trans
      (Bus.sameDrives_writeRegister .secondary (by decide) _ _)
  unfold enumerate
  simp only
  generalize Wire.writeRegister .secondary .control controlNoInterrupts
    (Wire.writeRegister .primary .control controlNoInterrupts
      (PortSpace.note (.info "Initializing IDE driver") b)) = s at hready
  obtain ⟨h₀, hfound₀⟩ := Bus.found_probeSlot budget 0 hready
  generalize Wire.probeSlot budget 0 s = r₀ at h₀ hfound₀
  obtain ⟨h₁, hfound₁⟩ := Bus.found_probeSlot budget 1 h₀
  generalize Wire.probeSlot budget 1 r₀.2 = r₁ at h₁ hfound₁
  obtain ⟨h₂, hfound₂⟩ := Bus.found_probeSlot budget 2 h₁
  generalize Wire.probeSlot budget 2 r₁.2 = r₂ at h₂ hfound₂
  obtain ⟨h₃, hfound₃⟩ := Bus.found_probeSlot budget 3 h₂
  generalize Wire.probeSlot budget 3 r₂.2 = r₃ at h₃ hfound₃
  exact ⟨finds_of_foundIn (b := b) (forall_slot hfound₀ hfound₁ hfound₂ hfound₃) h₃, h₃⟩

end AtaVolume
