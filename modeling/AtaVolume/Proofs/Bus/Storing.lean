/-
AtaVolume.Proofs.Bus.Storing — a write command, from its first sector to its
flush.

The drive takes sector after sector until it comes to a bad one: `goodRun` is
how many that are. The driver learns of the bad sector at its next poll; when
the bad sector was the last one there is no next poll, and the flush reports
it instead. `Grown` says what has become of a drive, so that steps can be put
one after the other. The induction is over the sectors left (`send_engaged`);
at each sector boundary the registers are `Collecting`.
-/
import AtaVolume.Proofs.Bus.Commands
import AtaVolume.Proofs.Media.Content

namespace AtaVolume

/-! ## §1 Drives -/

namespace Drive

/-- How many of the `n` sectors from `lba` on come before the first bad one. -/
def goodRun (d : Drive) (lba : Nat) : Nat → Nat
  | 0 => 0
  | n + 1 => if d.isBad (UInt32.ofNat lba) then 0 else d.goodRun (lba + 1) n + 1

theorem goodRun_of_bad {d : Drive} {lba : UInt32} (h : d.isBad lba = true) (n : Nat) :
    d.goodRun lba.toNat (n + 1) = 0 := by
  rw [goodRun, UInt32.ofNat_toNat, if_pos h]

theorem goodRun_of_good {d : Drive} {lba : UInt32} (h : d.isBad lba = false) (n : Nat) :
    d.goodRun lba.toNat (n + 1) = d.goodRun (lba.toNat + 1) n + 1 := by
  rw [goodRun, UInt32.ofNat_toNat, if_neg (by rw [h]; decide)]

theorem goodRun_le (d : Drive) (lba n : Nat) : d.goodRun lba n ≤ n := by
  induction n generalizing lba with
  | zero => exact Nat.le_refl 0
  | succ n ih =>
    rw [goodRun]
    split
    · exact Nat.zero_le _
    · exact Nat.succ_le_succ (ih _)

/-- The sector behind one that the drive has does not wrap around. -/
theorem toNat_next (d : Drive) {lba : UInt32} (h : lba.toNat + 1 ≤ d.medium.capacity) :
    (lba + 1).toNat = lba.toNat + 1 := by
  have hlt : d.medium.capacity < 2 ^ 32 := d.medium.sectorCount.toNat_lt
  rw [UInt32.toNat_add, show (1 : UInt32).toNat = 1 from rfl]
  exact Nat.mod_eq_of_lt (by omega)

/-- The sectors of the run are good. -/
theorem isBad_of_lt_goodRun {d : Drive} {lba n j : Nat} (h : j < d.goodRun lba n) :
    d.isBad (UInt32.ofNat (lba + j)) = false := by
  induction n generalizing lba j with
  | zero => exact absurd h (Nat.not_lt_zero j)
  | succ n ih =>
    rw [goodRun] at h
    split at h
    case isTrue => exact absurd h (Nat.not_lt_zero j)
    case isFalse hgood =>
      cases j with
      | zero => exact Bool.eq_false_iff.2 hgood
      | succ j =>
        have : d.isBad (UInt32.ofNat (lba + 1 + j)) = false := ih (by omega)
        rwa [Nat.add_assoc, Nat.add_comm 1 j] at this

/-- The sector that ends the run is bad. -/
theorem isBad_goodRun {d : Drive} {lba n : Nat} (h : d.goodRun lba n < n) :
    d.isBad (UInt32.ofNat (lba + d.goodRun lba n)) = true := by
  induction n generalizing lba with
  | zero => exact absurd h (Nat.not_lt_zero _)
  | succ n ih =>
    rw [goodRun] at h ⊢
    split at h
    case isTrue hbad => rwa [if_pos hbad, Nat.add_zero]
    case isFalse hgood =>
      have : d.isBad (UInt32.ofNat (lba + 1 + d.goodRun (lba + 1) n)) = true := ih (by omega)
      rwa [if_neg hgood, Nat.add_comm _ 1, ← Nat.add_assoc]

/-- `d'` is `d` with content `m`, further write commands and further flushes. -/
structure Grown (d : Drive) (m : Sectors) (commands : List (UInt32 × Nat)) (flushes : Nat)
    (d' : Drive) : Prop where
  kind : d'.kind = d.kind
  model : d'.model = d.model
  faults : d'.faults = d.faults
  sectorCount : d'.medium.sectorCount = d.medium.sectorCount
  file : d'.medium.file?.isSome = d.medium.file?.isSome
  content : d'.medium.content = m
  writeCommands : d'.writeCommands = d.writeCommands ++ commands.toArray
  flushes : d'.flushes = d.flushes + flushes

namespace Grown

variable {d d' d'' : Drive} {m m' : Sectors} {commands commands' : List (UInt32 × Nat)}
  {flushes flushes' : Nat}

theorem refl (d : Drive) : d.Grown d.medium.content [] 0 d where
  kind := rfl
  model := rfl
  faults := rfl
  sectorCount := rfl
  file := rfl
  content := rfl
  writeCommands := Array.append_empty.symm
  flushes := rfl

theorem trans (h : d.Grown m commands flushes d') (h' : d'.Grown m' commands' flushes' d'') :
    d.Grown m' (commands ++ commands') (flushes + flushes') d'' where
  kind := h'.kind.trans h.kind
  model := h'.model.trans h.model
  faults := h'.faults.trans h.faults
  sectorCount := h'.sectorCount.trans h.sectorCount
  file := h'.file.trans h.file
  content := h'.content
  writeCommands := by
    rw [h'.writeCommands, h.writeCommands, Array.append_assoc, ← List.append_toArray]
  flushes := by rw [h'.flushes, h.flushes, Nat.add_assoc]

theorem capacity (h : d.Grown m commands flushes d') : d'.medium.capacity = d.medium.capacity := by
  rw [Medium.capacity, h.sectorCount, Medium.capacity]

theorem isBad (h : d.Grown m commands flushes d') (lba : UInt32) : d'.isBad lba = d.isBad lba := by
  rw [Drive.isBad, h.faults, Drive.isBad]

theorem goodRun (h : d.Grown m commands flushes d') (lba n : Nat) :
    d'.goodRun lba n = d.goodRun lba n := by
  induction n generalizing lba with
  | zero => rfl
  | succ n ih => rw [Drive.goodRun, Drive.goodRun, h.isBad, ih]

theorem stored (h : d.Grown m commands flushes d') (s : Sector) : d'.stored s = d.stored s := by
  rw [Drive.stored, h.faults, Drive.stored]

theorem responsive (h : d.Grown m commands flushes d') (hd : d.Responsive) : d'.Responsive where
  kind := by rw [h.kind, hd.kind]
  free := by rw [h.faults, hd.free]
  sound := by rw [h.faults, hd.sound]

end Grown

/-- A stored sector replaces what was there. -/
theorem grown_put (d : Drive) (lba : UInt32) (h : lba.toNat < d.medium.capacity) (s : Sector) :
    d.Grown (Function.update d.medium.content lba.toNat s) [] 0
      { d with medium := d.medium.put lba s } where
  kind := rfl
  model := rfl
  faults := rfl
  sectorCount := Medium.sectorCount_put lba s d.medium
  file := by rw [Medium.file?_put, Option.isSome_map]
  content := Medium.content_put h s
  writeCommands := Array.append_empty.symm
  flushes := rfl

end Drive

/-! ## §2 One sector -/

namespace TaskFile

/-- Sector `lba` is awaited, the first of `remaining`. -/
structure Collecting (t : TaskFile) (lba : UInt32) (remaining latency : Nat) : Prop where
  phase : t.phase = .write lba remaining
  status : t.status = .transferDue
  cursor : t.cursor = 0
  busyReads : t.busyReads = latency
  pendingError : t.pendingError = none

theorem storeSector_bad {d : Drive} {lba : UInt32} (h : d.isBad lba = true) (t : TaskFile)
    (remaining latency : Nat) : t.storeSector d lba remaining latency = (t.failWrite, d) :=
  if_pos h

theorem storeSector_good {d : Drive} {lba : UInt32} (h : d.isBad lba = false)
    (hlt : lba.toNat < d.medium.capacity) (t : TaskFile) (remaining latency : Nat) :
    t.storeSector d lba remaining latency
      = (if 1 < remaining then
          { t with phase := .write (lba + 1) (remaining - 1), busyReads := latency, cursor := 0,
                   status := .transferDue }
         else t.finish,
         { d with medium := d.medium.put lba (d.stored t.buffer) }) := by
  rw [storeSector, if_neg (by rw [h]; decide), Medium.writeSector_eq, if_pos hlt]
  simp only
  split <;> rfl

end TaskFile

namespace Wire

variable {id : ChannelId} {c : BusChannel} {p : Position} {t : TaskFile} {d : Drive} {b : Bus}

/-- The awaited sector is polled for, sent and stored. -/
theorem sector_sent (budget : UInt32) {lba : UInt32} {remaining : Nat}
    (h : b.channel id = c.engaged p t d)
    (hstuck : d.faults.stuckBusy = false) (hbudget : b.latency ≤ budget.toNat)
    (ht : t.Collecting lba remaining b.latency) (data : Bytes) (j : Nat) :
    let full : TaskFile := { t with busyReads := 0, buffer := Sectors.ofRun data j, cursor := 512 }
    ∃ b', pollStatus budget id true b = .ok () b'
      ∧ b.Turned id (c.engaged p (full.storeSector d lba remaining b.latency).1
          (full.storeSector d lba remaining b.latency).2)
        (writeSectorData id data (j * 512) b') := by
  intro full
  obtain ⟨b', hpoll, hpolled⟩ := pollStatus_due budget h hstuck
    (by rw [ht.busyReads]; exact hbudget) ht.status
  have hsent := writeSectorData_engaged hpolled.channel ht.phase (by rw [ht.status]; rfl) ht.cursor
    data j
  rw [hpolled.latency] at hsent
  exact ⟨b', hpoll, hpolled.trans hsent⟩

/-! ## §3 All sectors of a command -/

/-- How sending `n + 1` sectors ends: those before the first bad one are stored. A
bad sector is reported by the next poll, and if it is the last one it is kept for
the flush. -/
def SendEnds (budget : UInt32) (id : ChannelId) (c : BusChannel) (p : Position) (d : Drive)
    (lba : UInt32) (n : Nat) (data : Bytes) (j : Nat) (b : Bus) : Prop :=
  let k := d.goodRun lba.toNat (n + 1)
  ∃ b' t' d', b.Turned id (c.engaged p t' d') b'
    ∧ d.Grown (d.medium.content.overlay lba.toNat k fun i => d.stored (Sectors.ofRun data (j + i)))
        [] 0 d'
    ∧ if k < n then
        send budget id data (n + 1) (j * 512) b = .error (.deviceError errUncorrectable) b'
      else
        send budget id data (n + 1) (j * 512) b = .ok () b'
          ∧ t'.pendingError = if k = n then some errUncorrectable else none

/-- The last sector ends the transfer, bad or not. -/
theorem send_last (budget : UInt32) (lba : UInt32) (h : b.channel id = c.engaged p t d)
    (hstuck : d.faults.stuckBusy = false) (hbudget : b.latency ≤ budget.toNat)
    (ht : t.Collecting lba 1 b.latency) (hcap : lba.toNat + 1 ≤ d.medium.capacity) (data : Bytes)
    (j : Nat) : SendEnds budget id c p d lba 0 data j b := by
  unfold SendEnds
  intro k
  obtain ⟨b₁, hpoll, hsent⟩ := sector_sent budget h hstuck hbudget ht data j
  have hsend : send budget id data 1 (j * 512) b = .ok () (writeSectorData id data (j * 512) b₁) := by
    rw [send_succ, hpoll]
    rfl
  cases hbad : d.isBad lba with
  | true =>
    have hk : k = 0 := Drive.goodRun_of_bad hbad 0
    rw [TaskFile.storeSector_bad hbad] at hsent
    refine ⟨_, _, d, hsent, ?_, ?_⟩
    · rw [hk, Sectors.overlay_zero]
      exact .refl d
    · rw [if_neg (Nat.not_lt_zero k), if_pos hk]
      exact ⟨hsend, rfl⟩
  | false =>
    have hk : k = 1 := Drive.goodRun_of_good hbad 0
    rw [TaskFile.storeSector_good hbad (by omega), if_neg (Nat.lt_irrefl 1)] at hsent
    refine ⟨_, _, _, hsent, ?_, ?_⟩
    · rw [hk, Sectors.overlay_succ, Sectors.overlay_zero]
      exact d.grown_put lba (by omega) _
    · rw [if_neg (Nat.not_lt_zero k), if_neg (by omega)]
      exact ⟨hsend, ht.pendingError⟩

/-- Behind a bad sector nothing more is sent. -/
theorem send_bad (budget : UInt32) {n : Nat} (lba : UInt32) (h : b.channel id = c.engaged p t d)
    (hstuck : d.faults.stuckBusy = false) (hbudget : b.latency ≤ budget.toNat)
    (ht : t.Collecting lba (n + 2) b.latency) (hbad : d.isBad lba = true) (data : Bytes) (j : Nat) :
    SendEnds budget id c p d lba (n + 1) data j b := by
  unfold SendEnds
  intro k
  obtain ⟨b₁, hpoll, hsent⟩ := sector_sent budget h hstuck hbudget ht data j
  have hk : k = 0 := Drive.goodRun_of_bad hbad (n + 1)
  rw [TaskFile.storeSector_bad hbad] at hsent
  obtain ⟨b₂, hfail, hfailed⟩ := pollStatus_failure budget hsent.channel hstuck (Nat.zero_le _) rfl
  refine ⟨b₂, _, d, hsent.trans hfailed, ?_, ?_⟩
  · rw [hk, Sectors.overlay_zero]
    exact .refl d
  · rw [if_pos (by omega), send_succ, hpoll]
    simp only
    rw [send_succ, hfail]
    rfl

/-- **The sectors up to the first bad one are stored.** -/
theorem send_engaged (budget : UInt32) {n : Nat} (lba : UInt32) (h : b.channel id = c.engaged p t d)
    (hstuck : d.faults.stuckBusy = false) (hbudget : b.latency ≤ budget.toNat)
    (ht : t.Collecting lba (n + 1) b.latency) (hcap : lba.toNat + (n + 1) ≤ d.medium.capacity)
    (data : Bytes) (j : Nat) : SendEnds budget id c p d lba n data j b := by
  induction n generalizing b t d lba j with
  | zero => exact send_last budget lba h hstuck hbudget ht hcap data j
  | succ n ih =>
    cases hbad : d.isBad lba with
    | true => exact send_bad budget lba h hstuck hbudget ht hbad data j
    | false =>
      unfold SendEnds
      intro k
      obtain ⟨b₁, hpoll, hsent⟩ := sector_sent budget h hstuck hbudget ht data j
      have hlba : (lba + 1).toNat = lba.toNat + 1 := d.toNat_next (by omega)
      have hk : k = d.goodRun (lba.toNat + 1) (n + 1) + 1 := Drive.goodRun_of_good hbad (n + 1)
      rw [TaskFile.storeSector_good hbad (by omega), if_pos (by omega)] at hsent
      have hput := d.grown_put lba (by omega) (d.stored (Sectors.ofRun data j))
      obtain ⟨b', t', d', hturned, hgrown, hend⟩ := ih (lba + 1) hsent.channel
        (by rw [hput.faults]; exact hstuck) (by rw [hsent.latency]; exact hbudget)
        ⟨rfl, rfl, rfl, by rw [hsent.latency], ht.pendingError⟩
        (by rw [hput.capacity, hlba]; omega) (j + 1)
      have hsend : send budget id data (n + 2) (j * 512) b
          = send budget id data (n + 1) ((j + 1) * 512) (writeSectorData id data (j * 512) b₁) := by
        rw [send_succ, hpoll, Nat.succ_mul]
      simp only [hlba, hput.goodRun, hput.stored, hput.content] at hgrown hend
      refine ⟨b', t', d', hsent.trans hturned, ?_, ?_⟩
      · have hfront := Sectors.overlay_front d.medium.content lba.toNat
          (d.goodRun (lba.toNat + 1) (n + 1)) fun i => d.stored (Sectors.ofRun data (j + i))
        rw [hk, ← hfront]
        simp only [Nat.add_assoc, Nat.add_comm 1] at hgrown ⊢
        exact hput.trans hgrown
      · rw [hsend, hk]
        simpa only [Nat.add_lt_add_iff_right, Nat.add_right_cancel_iff] using hend

/-! ## §4 Flushing -/

/-- A flush reports a bad sector that is still to be told, and counts. -/
theorem flushCache_engaged (budget : UInt32) (h : b.channel id = c.engaged p t d) (hd : d.Responsive)
    (hbudget : b.latency ≤ budget.toNat) :
    ∃ b' t', b.Turned id (c.engaged p t' { d with flushes := d.flushes + 1 }) b'
      ∧ flushCache budget id b = match t.pendingError with
          | some error => .error (.deviceError error) b'
          | none => .ok () b' := by
  have hcommand := (Bus.Turned.refl b id).writeRegister .command cmdFlushCache
  rw [h, BusChannel.writeRegister_command_engaged] at hcommand
  rw [TaskFile.command_flush t b.latency hd.kind hd.sound] at hcommand
  -- either way the status is there once the poll has passed the busy answers
  cases hpending : t.pendingError with
  | some error =>
    rw [hpending, TaskFile.told] at hcommand
    obtain ⟨b₁, hpoll, hpolled⟩ := pollStatus_free budget hcommand.channel hd.free
      (show Status.failure.busy = false by rfl) hbudget
    have hread := readStatus_turned hpolled.channel
    have herror := Bus.turned_readRegister id .error (readRegister id .command b₁).2
    rw [hread.channel, BusChannel.readRegister_error_engaged] at herror
    refine ⟨_, _, ((hcommand.trans hpolled).trans hread).trans herror, ?_⟩
    have hfailure : Status.mk (readRegister id .command b₁).1 = .failure := by
      rw [readStatus_fst_settled hpolled.channel hd.free rfl]
      rfl
    rw [flushCache_eq, hpoll]
    simp only [hfailure]
    rw [if_pos (show Status.failure.failed = true by rfl), throwDeviceError_eq,
      Bus.readRegister_fst, hread.channel, BusChannel.readRegister_error_engaged]
    rfl
  | none =>
    rw [hpending, TaskFile.told] at hcommand
    obtain ⟨b₁, hpoll, hpolled⟩ := pollStatus_free budget hcommand.channel hd.free
      (show Status.idle.busy = false by rfl) hbudget
    have hread := readStatus_turned hpolled.channel
    refine ⟨_, _, (hcommand.trans hpolled).trans hread, ?_⟩
    have hidle : Status.mk (readRegister id .command b₁).1 = .idle := by
      rw [readStatus_fst_settled hpolled.channel hd.free rfl]
      rfl
    rw [flushCache_eq, hpoll]
    simp only [hidle]
    rfl

end Wire

end AtaVolume
