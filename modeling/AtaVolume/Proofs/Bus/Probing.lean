/-
AtaVolume.Proofs.Bus.Probing — enumeration reports what is attached.

A probe selects a drive, asks it to identify itself, waits, and reads two registers
and perhaps a sector. Each of these steps leaves the channel with the drive engaged and
registers that are known, whatever they were before; so what a probe comes to is
computed step by step (`probe_drive`). A slot without a drive is told by its status
(`probe_none`). Neither changes a drive or the device control of a channel
(`Undisturbed`), so the slots are probed independently, and each is found as the bus
shows it (`enumerate_found`).
-/
import AtaVolume.Proofs.Bus.Enumeration
import AtaVolume.Proofs.Bus.Identification

namespace AtaVolume

/-! ## §1 What a probe leaves alone -/

/-- The drives of `b'` are those of `b`, and so is the device control. -/
structure Bus.Undisturbed (b b' : Bus) : Prop where
  drives : b.SameDrives b'
  control : ∀ id, (b'.channel id).registers.control = (b.channel id).registers.control
  latency : b'.latency = b.latency

namespace Bus.Undisturbed

variable {b b' b'' : Bus} {id : ChannelId} {p : Position}

theorem trans (h : b.Undisturbed b') (h' : b'.Undisturbed b'') : b.Undisturbed b'' where
  drives := h.drives.trans h'.drives
  control id := (h'.control id).trans (h.control id)
  latency := h'.latency.trans h.latency

theorem of_turned {c : BusChannel} (h : b.Turned id c b')
    (hdrives : ∀ p, c.drive? p = (b.channel id).drive? p)
    (hcontrol : c.registers.control = (b.channel id).registers.control) : b.Undisturbed b' where
  drives := .of_turned h hdrives
  control id' := by
    by_cases hid : id' = id
    · subst hid
      rw [h.channel, hcontrol]
    · rw [h.rest id' hid]
  latency := h.latency

/-- A drive that is engaged is not thereby changed. -/
theorem of_engaged {d : Drive} {t : TaskFile} (hd : (b.channel id).drive? p = some d)
    (h : b.Turned id ((b.channel id).engaged p t d) b')
    (hcontrol : t.control = (b.channel id).registers.control) : b.Undisturbed b' := by
  refine .of_turned h (fun q => ?_) (by rw [BusChannel.registers_engaged, hcontrol])
  by_cases hq : q = p
  · subst hq
    rw [BusChannel.drive?_engaged, hd]
  · rw [BusChannel.drive?_engaged_of_ne _ _ _ _ hq]

theorem note (h : b.Undisturbed b') (report : Report) :
    b.Undisturbed (PortSpace.note report b') :=
  h.trans (.of_turned (b'.turned_note .primary report) (fun _ => rfl) rfl)

end Bus.Undisturbed

theorem BusChannel.control_readRegister (c : BusChannel) (r : Register) :
    (c.readRegister r).2.registers.control = c.registers.control := by
  cases r with
  | command =>
    unfold readRegister passStatus
    simp only
    split <;> rfl
  | _ => rfl

/-! ## §2 A drive that is asked -/

/-- What a driver finds out about a drive. -/
def Drive.shown (d : Drive) (id : ChannelId) (p : Position) : Device :=
  if d.faults.stuckBusy then .absent
  else
    match d.kind with
    | .ata => .disk id p (Identity.ofBytes d.identification.toBytes)
    | .packet kind => .unsupported id p kind

theorem Drive.shown_ata {d : Drive} (hkind : d.kind = .ata) (hstuck : d.faults.stuckBusy = false)
    (id : ChannelId) (p : Position) :
    d.shown id p = .disk id p (Identity.ofBytes d.identification.toBytes) := by
  rw [shown, hstuck, hkind]
  rfl

theorem Drive.shown_packet {d : Drive} {kind : PacketKind} (hkind : d.kind = .packet kind)
    (hstuck : d.faults.stuckBusy = false) (id : ChannelId) (p : Position) :
    d.shown id p = .unsupported id p kind := by
  rw [shown, hstuck, hkind]
  rfl

namespace TaskFile

variable (t : TaskFile) (p : Position) {d : Drive} (latency : Nat)

theorem identify_ata (hkind : d.kind = .ata) :
    t.identify d
      = { t with buffer := d.identification, lbaMid := 0, lbaHigh := 0, status := .transferDue,
                 phase := .identify } := by
  rw [identify, hkind]

/-- A packet device shows what it is, and refuses. -/
theorem identify_packet {kind : PacketKind} (hkind : d.kind = .packet kind) :
    Signature.classify (t.identify d).lbaMid (t.identify d).lbaHigh = .packet kind
      ∧ (t.identify d).status = .failure := by
  rw [identify, hkind]
  cases kind <;> exact ⟨rfl, rfl⟩

/-- The answer to the question what a drive is does not touch the rest. -/
theorem rest_identify (d : Drive) :
    (t.identify d).busyReads = t.busyReads ∧ (t.identify d).cursor = t.cursor
      ∧ (t.identify d).control = t.control := by
  unfold identify
  split <;> exact ⟨rfl, rfl, rfl⟩

/-- A drive that was asked shows that it is there, and that it is not busy. -/
theorem status_identify (d : Drive) :
    (t.identify d).status.bits ≠ 0 ∧ (t.identify d).status.busy = false := by
  cases hkind : d.kind with
  | ata =>
    rw [identify_ata t hkind]
    show Status.transferDue.bits ≠ 0 ∧ Status.transferDue.busy = false
    decide
  | packet kind =>
    rw [(identify_packet t hkind).2]
    decide

/-- The registers as a probe selects a drive. -/
def probed (t : TaskFile) (p : Position) : TaskFile := t.select (selectChs ||| (p.number <<< 4))

/-- The registers once a drive was asked to identify itself. -/
def asked (t : TaskFile) (d : Drive) (latency : Nat) : TaskFile :=
  ({ t with sectorCount := 0, lbaLow := 0, lbaMid := 0, lbaHigh := 0 }.cleared latency).identify d

theorem busyReads_asked (d : Drive) : (t.asked d latency).busyReads = latency :=
  (rest_identify _ d).1

theorem control_asked (d : Drive) : (t.asked d latency).control = t.control :=
  (rest_identify _ d).2.2

end TaskFile

theorem Bus.Turned.noted {b b' : Bus} {id : ChannelId} {c : BusChannel} (h : b.Turned id c b')
    (report : Report) : b.Turned id c (PortSpace.note report b') := by
  have hnote := b'.turned_note id report
  rw [h.channel] at hnote
  exact h.trans hnote

namespace Wire

variable {id : ChannelId} {p : Position} {d : Drive} {b : Bus} {c : BusChannel} {t : TaskFile}

theorem select_bit (p : Position) :
    (selectChs ||| (p.number <<< 4)) &&& 0x10 = 0 ↔ p = .master := by
  cases p <;> decide

/-- A probe selects the drive of its slot. -/
theorem select_turned (h : (b.channel id).drive? p = some d) :
    b.Turned id ((b.channel id).engaged p ((b.channel id).registers.probed p) d)
      (select id (selectChs ||| (p.number <<< 4)) b) := by
  have hselect := (Bus.Turned.refl b id).writeRegister .deviceSelect
    (selectChs ||| (p.number <<< 4))
  rw [BusChannel.writeRegister, BusChannel.select_eq_engaged_of_bit h (select_bit p)] at hselect
  exact hselect

/-- The drive that is selected is asked to identify itself. -/
theorem requestIdentity_turned (h : b.channel id = c.engaged p t d) :
    b.Turned id (c.engaged p (t.asked d b.latency) d) (requestIdentity id b) := by
  have hnamed := ((((Bus.Turned.refl b id).writeRegister .sectorCount 0).writeRegister .lbaLow
    0).writeRegister .lbaMid 0).writeRegister .lbaHigh 0
  have hcommand := hnamed.writeRegister .command cmdIdentify
  have hregisters : (((((c.engaged p t d).writeRegister .sectorCount 0 b.latency).writeRegister
      .lbaLow 0 b.latency).writeRegister .lbaMid 0 b.latency).writeRegister .lbaHigh 0 b.latency)
      = c.engaged p { t with sectorCount := 0, lbaLow := 0, lbaMid := 0, lbaHigh := 0 } d := by
    cases p <;> rfl
  rw [h, hregisters, BusChannel.writeRegister_command_engaged] at hcommand
  exact hcommand

/-- The two registers of the signature are read as they are. -/
theorem readRegister_lba_engaged (h : b.channel id = c.engaged p t d) {r : Register}
    {value : UInt8} (hr : r = .lbaMid ∧ value = t.lbaMid ∨ r = .lbaHigh ∧ value = t.lbaHigh) :
    (readRegister id r b).1 = value
      ∧ b.Turned id (c.engaged p t d) (readRegister id r b).2 := by
  have hread : (c.engaged p t d).readRegister r = (value, c.engaged p t d) := by
    obtain ⟨rfl, rfl⟩ | ⟨rfl, rfl⟩ := hr <;> cases p <;> rfl
  have hturned := Bus.turned_readRegister id r b
  rw [h, hread] at hturned
  refine ⟨?_, hturned⟩
  rw [Bus.readRegister_fst, h, hread]

/-- A disk sends its identification data. -/
theorem receiveIdentity_engaged (budget : UInt32) (h : b.channel id = c.engaged p t d)
    (hstuck : d.faults.stuckBusy = false) (hbudget : t.busyReads ≤ budget.toNat)
    (hdue : t.status = .transferDue) (hcursor : t.cursor = 0) (hphase : t.phase = .identify) :
    ∃ b', receiveIdentity budget id p b = (.disk id p (Identity.ofBytes t.buffer.toBytes), b')
      ∧ b.Turned id (c.engaged p
          (TaskFile.finish { t with busyReads := 0, cursor := 512 }) d) b' := by
  obtain ⟨b₁, hpoll, hpolled⟩ := pollStatus_due budget h hstuck hbudget hdue
  obtain ⟨b₂, hread, hreceived⟩ := readSectorData_engaged hpolled.channel
    (by simp only [hdue]; rfl) hcursor (Array.emptyWithCapacity sectorSize)
  refine ⟨b₂, ?_, ?_⟩
  · unfold receiveIdentity
    rw [hpoll]
    simp only [hread]
    rw [Array.emptyWithCapacity_eq, Array.empty_append]
  · rw [TaskFile.advanceRead] at hreceived
    simp only [hphase] at hreceived
    exact hpolled.trans hreceived

/-- What a probe makes of the signature that the registers show. -/
theorem readSignature_engaged (budget : UInt32) (h : b.channel id = c.engaged p t d) :
    ∃ b', b.Turned id (c.engaged p t d) b'
      ∧ readSignature budget id p b
        = match Signature.classify t.lbaMid t.lbaHigh with
          | .ata => receiveIdentity budget id p b'
          | .packet kind => (.unsupported id p kind, b')
          | .unknown => (.absent, b') := by
  obtain ⟨hmid, hturned⟩ := readRegister_lba_engaged h (.inl ⟨rfl, rfl⟩)
  obtain ⟨hhigh, hturned'⟩ := readRegister_lba_engaged hturned.channel (.inr ⟨rfl, rfl⟩)
  have hnoted := (hturned.trans hturned').noted
  unfold readSignature
  simp only [hmid, hhigh]
  exact ⟨_, hnoted _, rfl⟩

/-- A drive that is not busy any more is known from what it shows. -/
theorem readSignature_asked (budget : UInt32) {latency : Nat}
    (h : b.channel id = c.engaged p { t.asked d latency with busyReads := 0 } d)
    (hstuck : d.faults.stuckBusy = false) :
    ∃ t' b', readSignature budget id p b = (d.shown id p, b')
      ∧ b.Turned id (c.engaged p t' d) b' ∧ t'.control = t.control := by
  obtain ⟨b₁, hturned, hread⟩ := readSignature_engaged budget h
  cases hkind : d.kind with
  | ata =>
    rw [TaskFile.asked, TaskFile.identify_ata _ hkind] at hturned hread
    obtain ⟨b₂, hreceive, hreceived⟩ := receiveIdentity_engaged budget hturned.channel
      hstuck (Nat.zero_le _) rfl rfl rfl
    refine ⟨_, b₂, ?_, hturned.trans hreceived, rfl⟩
    rw [hread, Drive.shown_ata hkind hstuck]
    exact hreceive
  | packet kind =>
    refine ⟨_, b₁, ?_, hturned, TaskFile.control_asked t latency d⟩
    have hsignature : Signature.classify (t.asked d latency).lbaMid (t.asked d latency).lbaHigh
        = .packet kind := (TaskFile.identify_packet _ hkind).1
    rw [hread, Drive.shown_packet hkind hstuck]
    simp only [hsignature]

/-- A drive that was asked shows that it is there. -/
theorem readStatus_asked {latency : Nat} (h : b.channel id = c.engaged p (t.asked d latency) d) :
    (readRegister id .command b).1 ≠ 0 := by
  rw [readStatus_fst h]
  split
  · decide
  · exact (TaskFile.status_identify _ d).1

end Wire

/-! ## §3 Probes -/

namespace Bus

open Wire

variable {id : ChannelId} {p : Position} {d : Drive} {b : Bus} {budget : UInt32}

/-- **A drive is found as what it is.** -/
theorem probe_drive (h : (b.channel id).drive? p = some d)
    (hlatency : b.latency ≤ budget.toNat + 1) :
    (probe budget id p b).1 = d.shown id p ∧ b.Undisturbed (probe budget id p b).2 := by
  have hselect := select_turned h
  have hbits : (readRegister id .command (select id (selectChs ||| (p.number <<< 4)) b)).1
      = (if d.faults.stuckBusy then Status.isBusy else Status.idle).bits := by
    rw [readStatus_fst hselect.channel]
    cases d.faults.stuckBusy <;> rfl
  have hstatus := hselect.trans (readStatus_turned hselect.channel)
  have hasked := hstatus.trans (requestIdentity_turned hstatus.channel)
  have hwaiting := hasked.trans (readStatus_turned hasked.channel)
  unfold probe
  simp only
  rw [hbits, if_neg (by cases d.faults.stuckBusy <;> decide),
    if_neg (readStatus_asked hasked.channel)]
  by_cases hstuck : d.faults.stuckBusy = true
  · obtain ⟨b₁, k, hwait, hturned⟩ :=
      waitNotBusy_engaged_timeout (budget.toNat + 1) hwaiting.channel (.inl hstuck)
    rw [hwait, Drive.shown, if_pos hstuck]
    exact ⟨rfl, .of_engaged h ((hwaiting.trans hturned).noted _) (TaskFile.control_asked _ _ d)⟩
  · have hfree : d.faults.stuckBusy = false := by simpa using hstuck
    obtain ⟨b₁, hwait, hturned⟩ := waitNotBusy_engaged (budget.toNat + 1) hwaiting.channel hfree
      (TaskFile.status_identify _ d).2
      (by simp only [TaskFile.busyReads_asked, hstatus.latency]; omega)
    obtain ⟨t', b₂, hread, hturned', hcontrol⟩ :=
      readSignature_asked budget hturned.channel hfree
    rw [hwait]
    show (readSignature budget id p b₁).1 = _ ∧ b.Undisturbed (readSignature budget id p b₁).2
    rw [hread]
    exact ⟨rfl, .of_engaged h ((hwaiting.trans hturned).trans hturned') hcontrol⟩

/-- A slot without a drive is found empty. -/
theorem probe_none (budget : UInt32) (h : (b.channel id).drive? p = none) :
    (probe budget id p b).1 = .absent ∧ b.Undisturbed (probe budget id p b).2 := by
  have hselect : b.Turned id ((b.channel id).select (selectChs ||| (p.number <<< 4)))
      (select id (selectChs ||| (p.number <<< 4)) b) :=
    (Bus.Turned.refl b id).writeRegister .deviceSelect (selectChs ||| (p.number <<< 4))
  have hread := turned_readRegister id .command (select id (selectChs ||| (p.number <<< 4)) b)
  unfold probe
  simp only
  rw [if_pos (readStatus_vacant h)]
  refine ⟨rfl, .trans (.of_turned hselect (fun q => ?_) rfl) (.of_turned hread (fun q => ?_) ?_)⟩
  · cases q <;> rfl
  · exact BusChannel.drive?_readRegister _ q .command
  · exact BusChannel.control_readRegister _ .command

/-- What a driver finds out about a slot. -/
def shown (b : Bus) (slot : Slot) : Device :=
  match b.drive? slot with
  | some d => d.shown (channelOf slot) (positionOf slot)
  | none => .absent

theorem shown_of_some {slot : Slot} (h : b.drive? slot = some d) :
    b.shown slot = d.shown (channelOf slot) (positionOf slot) := by
  rw [shown, h]

/-- A slot shows a disk if there is one that is not stuck. -/
theorem isUsable_shown (b : Bus) (slot : Slot) : (b.shown slot).isUsable = true
    ↔ ∃ d, b.drive? slot = some d ∧ d.kind = .ata ∧ d.faults.stuckBusy = false := by
  unfold shown
  cases hdrive : b.drive? slot with
  | none => simp [Device.isUsable]
  | some d =>
    by_cases hstuck : d.faults.stuckBusy = true
    · simp [Drive.shown, hstuck, Device.isUsable]
    · have hfree : d.faults.stuckBusy = false := by simpa using hstuck
      cases hkind : d.kind with
      | ata => simp [Drive.shown_ata hkind hfree, hkind, hfree, Device.isUsable]
      | packet kind => simp [Drive.shown_packet hkind hfree, hkind, Device.isUsable]

theorem SameDrives.shown {b' : Bus} (h : b.SameDrives b') (slot : Slot) :
    b'.shown slot = b.shown slot := by
  unfold Bus.shown Bus.drive?
  rw [h]

theorem probeSlot_shown (hlatency : b.latency ≤ budget.toNat + 1) (slot : Slot) :
    (probeSlot budget slot b).1 = b.shown slot
      ∧ b.Undisturbed (probeSlot budget slot b).2 := by
  unfold probeSlot Bus.shown Bus.drive?
  cases hdrive : (b.channel (channelOf slot)).drive? (positionOf slot) with
  | some d =>
    obtain ⟨hdevice, hrest⟩ := probe_drive hdrive hlatency
    exact ⟨hdevice, hrest.note _⟩
  | none =>
    obtain ⟨hdevice, hrest⟩ := probe_none budget hdrive
    exact ⟨hdevice, hrest.note _⟩

/-- The next slot is found as it was shown at first. -/
theorem Undisturbed.probeSlot {b' : Bus} (h : b.Undisturbed b')
    (hlatency : b.latency ≤ budget.toNat + 1) (slot : Slot) :
    (Wire.probeSlot budget slot b').1 = b.shown slot
      ∧ b.Undisturbed (Wire.probeSlot budget slot b').2 := by
  have hlatency' : b'.latency ≤ budget.toNat + 1 := by rw [h.latency]; exact hlatency
  obtain ⟨hdevice, hrest⟩ := probeSlot_shown hlatency' slot
  exact ⟨hdevice.trans (h.drives.shown slot), h.trans hrest⟩

/-! ## §4 All slots -/

/-- The interrupts of both channels are off. -/
def Silent (b : Bus) : Prop := ∀ id, (b.channel id).registers.control = controlNoInterrupts

/-- The bus once the interrupts of both channels were turned off. -/
def silenced (b : Bus) : Bus :=
  Wire.writeRegister .secondary .control controlNoInterrupts
    (Wire.writeRegister .primary .control controlNoInterrupts b)

theorem silent_silenced (b : Bus) : b.silenced.Silent := by
  have hprimary := turned_writeRegister .primary .control controlNoInterrupts b
  have hsecondary := turned_writeRegister .secondary .control controlNoInterrupts
    (Wire.writeRegister .primary .control controlNoInterrupts b)
  intro id
  unfold silenced
  cases id with
  | primary =>
    rw [hsecondary.rest .primary (by decide), hprimary.channel]
    rfl
  | secondary =>
    rw [hsecondary.channel]
    rfl

theorem sameDrives_silenced (b : Bus) : b.SameDrives b.silenced :=
  (sameDrives_writeRegister .primary (by decide) _ b).trans
    (sameDrives_writeRegister .secondary (by decide) _ _)

theorem latency_silenced (b : Bus) : b.silenced.latency = b.latency :=
  (turned_writeRegister .secondary .control controlNoInterrupts _).latency.trans
    (turned_writeRegister .primary .control controlNoInterrupts b).latency

end Bus

/-- **Enumeration reports what the slots show**, and changes no drive. The driver reads
the status once before it starts to poll, so the drives may be busy for one answer longer
than it polls. -/
theorem Controller.enumerate_found {budget : UInt32} {b : Bus} (h : b.latency ≤ budget.toNat + 1) :
    (∀ slot : Slot, (enumerate budget b).1.devices.get slot = b.shown slot)
      ∧ b.SameDrives (enumerate budget b).2 ∧ (enumerate budget b).2.Silent
      ∧ (enumerate budget b).2.latency = b.latency := by
  have hdrives := (b.sameDrives_note (.info "Initializing IDE driver")).trans
    (Bus.sameDrives_silenced _)
  have hsilent := Bus.silent_silenced (PortSpace.note (.info "Initializing IDE driver") b)
  have hsilenced : (PortSpace.note (.info "Initializing IDE driver") b).silenced.latency
      = b.latency := Bus.latency_silenced _
  have hlatency : (PortSpace.note (.info "Initializing IDE driver") b).silenced.latency
      ≤ budget.toNat + 1 := by rw [hsilenced]; exact h
  unfold enumerate
  simp only
  unfold Bus.silenced at hdrives hsilent hsilenced hlatency
  generalize Wire.writeRegister .secondary .control controlNoInterrupts
    (Wire.writeRegister .primary .control controlNoInterrupts
      (PortSpace.note (.info "Initializing IDE driver") b)) = s at hdrives hsilent hsilenced hlatency
  obtain ⟨hdevice₀, h₀⟩ := Bus.probeSlot_shown hlatency 0
  generalize Wire.probeSlot budget 0 s = r₀ at hdevice₀ h₀
  obtain ⟨hdevice₁, h₁⟩ := h₀.probeSlot hlatency 1
  generalize Wire.probeSlot budget 1 r₀.2 = r₁ at hdevice₁ h₁
  obtain ⟨hdevice₂, h₂⟩ := h₁.probeSlot hlatency 2
  generalize Wire.probeSlot budget 2 r₁.2 = r₂ at hdevice₂ h₂
  obtain ⟨hdevice₃, h₃⟩ := h₂.probeSlot hlatency 3
  generalize Wire.probeSlot budget 3 r₂.2 = r₃ at hdevice₃ h₃
  refine ⟨fun slot => ?_, hdrives.trans h₃.drives, fun id => (h₃.control id).trans (hsilent id),
    h₃.latency.trans hsilenced⟩
  rw [← hdrives.shown]
  revert slot
  exact forall_slot hdevice₀ hdevice₁ hdevice₂ hdevice₃

theorem Controller.enumerate_shown {budget : UInt32} {b : Bus} (h : b.latency ≤ budget.toNat) :
    (∀ slot : Slot, (enumerate budget b).1.devices.get slot = b.shown slot)
      ∧ b.SameDrives (enumerate budget b).2 ∧ (enumerate budget b).2.Silent
      ∧ (enumerate budget b).2.latency = b.latency :=
  enumerate_found (Nat.le_succ_of_le h)

/-- A disk that answers is known by its number. -/
theorem Controller.find_enumerate {budget : UInt32} {b : Bus} (h : b.latency ≤ budget.toNat + 1)
    {slot : Slot} {d : Drive} (hdrive : b.drive? slot = some d) (hkind : d.kind = .ata)
    (hstuck : d.faults.stuckBusy = false) {drive : UInt8} (hslot : drive.toNat = slot.val) :
    (enumerate budget b).1.find drive
      = .ok (channelOf slot, positionOf slot, Identity.ofBytes d.identification.toBytes) := by
  have hdevice : (enumerate budget b).1.device? drive
      = some (.disk (channelOf slot) (positionOf slot)
          (Identity.ofBytes d.identification.toBytes)) := by
    rw [device?, hslot, ← Drive.shown_ata hkind hstuck, ← Bus.shown_of_some hdrive,
      ← (enumerate_found h).1 slot]
    exact Vector.getElem?_eq_getElem slot.isLt
  rw [find, hdevice]

end AtaVolume
