/-
AtaVolume.Proofs.Bus.Polling — how the driver's polls end on the emulated bus.

A drive that is not stuck answers busy as often as its registers say and then
shows its status. So a poll whose budget covers these answers ends as the
status tells (`pollStatus_engaged`), and any other one ends in a timeout
(`pollStatus_engaged_timeout`). Nothing but the count of busy answers changes.
-/
import AtaVolume.Proofs.Ata.Steps
import AtaVolume.Proofs.Bus.Ports

namespace AtaVolume.Wire

variable {id : ChannelId} {c : BusChannel} {p : Position} {t : TaskFile} {d : Drive} {b : Bus}

/-! ## §1 Waiting -/

theorem settle_turned (id : ChannelId) (n : Nat) (b : Bus) :
    b.Turned id (b.channel id) (settle id n b) := by
  induction n generalizing b with
  | zero => exact .refl b id
  | succ n ih =>
    have h : b.Turned id (b.channel id) (readRegister id .control b).2 :=
      Bus.turned_readRegister id .control b
    have h' := ih (readRegister id .control b).2
    rw [h.channel] at h'
    exact h.trans h'

theorem readStatus_fst (h : b.channel id = c.engaged p t d) :
    (readRegister id .command b).1
      = (if d.faults.stuckBusy || 0 < t.busyReads then Status.isBusy else t.status).bits := by
  rw [Bus.readRegister_fst, h, BusChannel.readRegister_command_engaged,
    BusChannel.status_engaged]

/-- A drive with no busy answers left shows its status. -/
theorem readStatus_fst_settled (h : b.channel id = c.engaged p t d)
    (hstuck : d.faults.stuckBusy = false) (hzero : t.busyReads = 0) :
    (readRegister id .command b).1 = t.status.bits := by
  rw [readStatus_fst h, if_neg (by simp [hstuck, hzero])]

theorem readStatus_turned (h : b.channel id = c.engaged p t d) :
    b.Turned id (c.engaged p { t with busyReads := t.busyReads - 1 } d)
      (readRegister id .command b).2 := by
  have := Bus.turned_readRegister id .command b
  rwa [h, BusChannel.readRegister_command_engaged] at this

/-- The busy answers run out before the reads do. -/
theorem waitNotBusy_engaged (reads : Nat) (h : b.channel id = c.engaged p t d)
    (hstuck : d.faults.stuckBusy = false) (hstatus : t.status.busy = false)
    (hreads : t.busyReads < reads) :
    ∃ b', waitNotBusy id reads b = .ok t.status b'
      ∧ b.Turned id (c.engaged p { t with busyReads := 0 } d) b' := by
  induction reads generalizing b t with
  | zero => omega
  | succ reads ih =>
    have hturned := readStatus_turned h
    rw [waitNotBusy_succ]
    by_cases hzero : t.busyReads = 0
    · rw [readStatus_fst_settled h hstuck hzero, if_neg (by simpa using hstatus)]
      refine ⟨_, rfl, ?_⟩
      rwa [hzero] at hturned
    · have hbits : (if d.faults.stuckBusy || 0 < t.busyReads then Status.isBusy else t.status)
          = Status.isBusy := if_pos (by simp; omega)
      obtain ⟨b', hb', hturned'⟩ :=
        ih (t := { t with busyReads := t.busyReads - 1 }) hturned.channel hstatus (by simp only; omega)
      rw [readStatus_fst h, hbits, if_pos (by decide), hb']
      exact ⟨b', rfl, hturned.trans hturned'⟩

/-- The device stays busy for all of the reads. -/
theorem waitNotBusy_engaged_timeout (reads : Nat) (h : b.channel id = c.engaged p t d)
    (hbusy : d.faults.stuckBusy = true ∨ reads ≤ t.busyReads) :
    ∃ b' k, waitNotBusy id reads b = .error .timeout b'
      ∧ b.Turned id (c.engaged p { t with busyReads := k } d) b' := by
  induction reads generalizing b t with
  | zero =>
    refine ⟨b, t.busyReads, waitNotBusy_zero id b, ?_⟩
    have := Bus.Turned.refl b id
    rwa [h] at this
  | succ reads ih =>
    have hturned := readStatus_turned h
    have hfst := readStatus_fst h
    have hbits : (if d.faults.stuckBusy || 0 < t.busyReads then Status.isBusy else t.status)
        = Status.isBusy := if_pos (by rcases hbusy with hs | hs <;> simp [hs]; omega)
    obtain ⟨b', k, hb', hturned'⟩ := ih (t := { t with busyReads := t.busyReads - 1 })
      hturned.channel (by rcases hbusy with hs | hs; exact .inl hs; exact .inr (by simp only; omega))
    rw [waitNotBusy_succ, hfst, hbits, if_pos (by decide), hb']
    exact ⟨b', k, rfl, hturned.trans hturned'⟩

/-! ## §2 Polls -/

/-- A poll within its budget comes to the status. -/
theorem pollStatus_engaged (budget : UInt32) (transfer : Bool) (h : b.channel id = c.engaged p t d)
    (hstuck : d.faults.stuckBusy = false) (hstatus : t.status.busy = false)
    (hbudget : t.busyReads ≤ budget.toNat) :
    ∃ b', pollStatus budget id transfer b
        = (if transfer then judge id t.status b' else .ok () b')
      ∧ b.Turned id (c.engaged p { t with busyReads := 0 } d) b' := by
  have hsettle := settle_turned id 4 b
  rw [h] at hsettle
  obtain ⟨b', hb', hturned⟩ := waitNotBusy_engaged (budget.toNat + 1) hsettle.channel
    hstuck hstatus (by omega)
  rw [pollStatus_eq, hb']
  exact ⟨b', rfl, hsettle.trans hturned⟩

/-- A poll beyond its budget, or of a stuck drive, ends in a timeout. -/
theorem pollStatus_engaged_timeout (budget : UInt32) (transfer : Bool)
    (h : b.channel id = c.engaged p t d)
    (hbusy : d.faults.stuckBusy = true ∨ budget.toNat < t.busyReads) :
    ∃ b' k, pollStatus budget id transfer b = .error .timeout b'
      ∧ b.Turned id (c.engaged p { t with busyReads := k } d) b' := by
  have hsettle := settle_turned id 4 b
  rw [h] at hsettle
  obtain ⟨b', k, hb', hturned⟩ := waitNotBusy_engaged_timeout (budget.toNat + 1)
    hsettle.channel hbusy
  rw [pollStatus_eq, hb']
  exact ⟨b', k, rfl, hsettle.trans hturned⟩

/-- A poll that expects no transfer only waits. -/
theorem pollStatus_free (budget : UInt32) (h : b.channel id = c.engaged p t d)
    (hstuck : d.faults.stuckBusy = false) (hstatus : t.status.busy = false)
    (hbudget : t.busyReads ≤ budget.toNat) :
    ∃ b', pollStatus budget id false b = .ok () b'
      ∧ b.Turned id (c.engaged p { t with busyReads := 0 } d) b' :=
  pollStatus_engaged budget false h hstuck hstatus hbudget

/-- A drive that asks for data is served. -/
theorem pollStatus_due (budget : UInt32) (h : b.channel id = c.engaged p t d)
    (hstuck : d.faults.stuckBusy = false) (hbudget : t.busyReads ≤ budget.toNat)
    (hdue : t.status = .transferDue) :
    ∃ b', pollStatus budget id true b = .ok () b'
      ∧ b.Turned id (c.engaged p { t with busyReads := 0 } d) b' := by
  obtain ⟨b', hb', hturned⟩ := pollStatus_engaged budget true h hstuck (by rw [hdue]; rfl) hbudget
  rw [hdue] at hb'
  exact ⟨b', hb', hturned⟩

/-- A drive that failed is asked for its error. -/
theorem pollStatus_failure (budget : UInt32) (h : b.channel id = c.engaged p t d)
    (hstuck : d.faults.stuckBusy = false) (hbudget : t.busyReads ≤ budget.toNat)
    (hfailure : t.status = .failure) :
    ∃ b', pollStatus budget id true b = .error (.deviceError t.error) b'
      ∧ b.Turned id (c.engaged p { t with busyReads := 0 } d) b' := by
  obtain ⟨b', hb', hturned⟩ := pollStatus_engaged budget true h hstuck (by rw [hfailure]; rfl) hbudget
  have hread := Bus.turned_readRegister id .error b'
  rw [hturned.channel, BusChannel.readRegister_error_engaged] at hread
  refine ⟨(readRegister id .error b').2, ?_, hturned.trans hread⟩
  rw [hb', hfailure]
  show throwDeviceError id b' = _
  rw [throwDeviceError_eq, Bus.readRegister_fst, hturned.channel,
    BusChannel.readRegister_error_engaged]

/-- A drive with a fault says so. -/
theorem pollStatus_fault (budget : UInt32) (h : b.channel id = c.engaged p t d)
    (hstuck : d.faults.stuckBusy = false) (hbudget : t.busyReads ≤ budget.toNat)
    (hfault : t.status = .fault) :
    ∃ b', pollStatus budget id true b = .error .deviceFault b'
      ∧ b.Turned id (c.engaged p { t with busyReads := 0 } d) b' := by
  obtain ⟨b', hb', hturned⟩ := pollStatus_engaged budget true h hstuck (by rw [hfault]; rfl) hbudget
  rw [hfault] at hb'
  exact ⟨b', hb', hturned⟩

end AtaVolume.Wire
