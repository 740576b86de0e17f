/-
AtaVolume.Proofs.Machine.Traffic — disks under any traffic, with files behind them.

An access to a port reaches the drive that is selected there; what it leaves on the
drive's file shows on every other drive on that file. So a sector of a drive may change
that no write command of this drive names (`Machine.traffic_unaccounted`), but one of a
drive on the same file does (`Machine.traffic_accounted`). The channels stay coherent: what
registers depend on of a drive, its size and the record of its write commands, does not lie
in the file.
-/
import AtaVolume.Proofs.Bus.Traffic
import AtaVolume.Proofs.Machine.Sessions

namespace AtaVolume

namespace Machine

/-! ## §1 Accesses -/

/-- The machine after an event on its bus: what the reached drive holds then goes to its file. -/
def access (m : Machine) (event : BusEvent) : Machine :=
  (m.reach (event.slot? m.inStep.machine) fun s =>
    ((), { s with machine := event.occur s.machine })).2

/-- The machine after some events, the first one first. -/
def traffic (m : Machine) (events : List BusEvent) : Machine := events.foldl access m

theorem traffic_append (m : Machine) (events more : List BusEvent) :
    m.traffic (events ++ more) = (m.traffic events).traffic more := List.foldl_append

/-- Sector `j` is named by a write command of the drive in a slot, or of one on its file. -/
def Commanded (m : Machine) (slot : Slot) (j : Nat) : Prop :=
  ∃ other d, (other = slot ∨ m.Shares other slot) ∧ m.inStep.machine.drive? other = some d
    ∧ d.Commanded j

/-- What may become of the disks: all keep their sizes and the record of their write
commands, and only sectors that a write command to their file names have changed. -/
structure Accounted (m m' : Machine) : Prop where
  places : m'.places = m.places
  drives : ∀ slot d, m.inStep.machine.drive? slot = some d →
    ∃ d', m'.inStep.machine.drive? slot = some d'
      ∧ d'.medium.sectorCount = d.medium.sectorCount
      ∧ d.writeCommands.toList <+: d'.writeCommands.toList
      ∧ ∀ j, d'.medium.content j ≠ d.medium.content j → m'.Commanded slot j

variable {m m' m'' : Machine} {slot other : Slot} {j : Nat}

theorem Commanded.mono (h : m.Commanded slot j) (hm : m.Accounted m') : m'.Commanded slot j := by
  obtain ⟨other, d, hother, hdrive, hcommanded⟩ := h
  obtain ⟨d', hdrive', -, hrecorded, -⟩ := hm.drives other d hdrive
  refine ⟨other, d', ?_, hdrive', hcommanded.mono hrecorded⟩
  rw [Shares, hm.places]
  exact hother

/-- A drive that shares its file with no other one is commanded itself. -/
theorem Commanded.own (h : m.Commanded slot j) (halone : ∀ other, m.Shares other slot → other = slot) :
    ∃ d, m.inStep.machine.drive? slot = some d ∧ d.Commanded j := by
  obtain ⟨other, d, hother, hdrive, hcommanded⟩ := h
  have hsame : other = slot := hother.elim id (halone other)
  exact ⟨d, hsame ▸ hdrive, hcommanded⟩

namespace Accounted

theorem refl (m : Machine) : m.Accounted m where
  places := rfl
  drives _ d hdrive := ⟨d, hdrive, rfl, List.prefix_refl _, fun _ hne => absurd rfl hne⟩

theorem trans (h : m.Accounted m') (h' : m'.Accounted m'') : m.Accounted m'' where
  places := h'.places.trans h.places
  drives slot d hdrive := by
    obtain ⟨d', hdrive', hcount, hrecorded, hchanged⟩ := h.drives slot d hdrive
    obtain ⟨d'', hdrive'', hcount', hrecorded', hchanged'⟩ := h'.drives slot d' hdrive'
    refine ⟨d'', hdrive'', hcount'.trans hcount, hrecorded.trans hrecorded', fun j hne => ?_⟩
    by_cases hlast : d''.medium.content j = d'.medium.content j
    · rw [hlast] at hne
      exact (hchanged j hne).mono h'
    · exact hchanged' j hlast

end Accounted

/-! ## §2 What an access preserves -/

/-- Bringing images up to date touches nothing that registers depend on. -/
theorem coherent_inStep (h : m.disks.machine.Coherent) : m.inStep.machine.Coherent := by
  have hkeep : ∀ {b : Bus} (slot : Slot), b.Coherent →
      (b.modifyDrive slot (m.refreshed slot)).Coherent := fun slot hb =>
    hb.modifyDrive slot (m.sectorCount_refreshed slot) (m.writeCommands_refreshed slot)
  unfold inStep
  simp only [List.foldl]
  exact hkeep 3 (hkeep 2 (hkeep 1 (hkeep 0 h)))

theorem coherent_access (h : m.inStep.machine.Coherent) (event : BusEvent) :
    (m.access event).inStep.machine.Coherent := by
  apply coherent_inStep
  rw [access, disks_reach]
  exact h.occur event

/-- The drive that an access reaches keeps account itself. -/
theorem access_reached (h : m.inStep.machine.Coherent) {event : BusEvent}
    (hslot : event.slot? m.inStep.machine = some slot) :
    Option.Rel Drive.Accounted (m.inStep.machine.drive? slot)
      ((m.access event).inStep.machine.drive? slot) := by
  rw [access, hslot, drive?_reached]
  exact h.accounted (BusEvent.occur_steps hslot)

/-- **What an access changes on another drive is named by a write command to their file.** -/
theorem access_others (h : m.inStep.machine.Coherent) {event : BusEvent}
    (hother : event.slot? m.inStep.machine ≠ some other) {d : Drive}
    (hdrive : m.inStep.machine.drive? other = some d) :
    ∃ medium, (m.access event).inStep.machine.drive? other = some { d with medium }
      ∧ medium.sectorCount = d.medium.sectorCount
      ∧ ∀ j, medium.content j ≠ d.medium.content j → (m.access event).Commanded other j := by
  have hkept := BusEvent.drive?_occur hother
  have hfile : (m.access event).file? other = _ ∨ _ := m.file?_reach other
  rcases hfile with hsame | ⟨slot, d', content, hslot, hshares, hfile, hdrive', hcontent, hnow⟩
  · exact ⟨d.medium, (drive?_reach_of_file? hsame hkept).trans hdrive, rfl,
      fun _ hne => absurd rfl hne⟩
  · obtain ⟨old, hold⟩ := Option.isSome_iff_exists.1 hfile
    have hshown : (m.access event).inStep.machine.drive? other
        = some { d with medium := d.medium.showing content } := by
      rw [access, drive?_reach, hkept, hdrive, Option.map_some, refreshed, hnow]
    refine ⟨_, hshown, Medium.sectorCount_showing, fun j hne => ?_⟩
    -- both drives held the old content of the file, and the reached one accounts for the new
    obtain ⟨held, hheld, hpiece⟩ := Medium.piece_ne_of_showing hne
    obtain rfl := eq_of_inStep hdrive hold hheld
    have hreached : (m.access event).inStep.machine.drive? slot = some d' := by
      rw [access, hslot, drive?_reached]
      exact hdrive'
    have haccounted := access_reached h hslot
    rw [hreached] at haccounted
    generalize hbefore : m.inStep.machine.drive? slot = before at haccounted
    cases haccounted with
    | @some e _ haccounted =>
      obtain ⟨held', hheld', hchanged⟩ := haccounted.pieces content hcontent
      obtain rfl := eq_of_inStep hbefore ((file?_of_shares hshares).trans hold) hheld'
      refine ⟨slot, d', .inr ?_, hreached, hchanged j hpiece⟩
      rw [Shares, access, places_reach]
      exact hshares

/-- **An access accounts for what it does to the disks.** -/
theorem access_accounted (h : m.inStep.machine.Coherent) (event : BusEvent) :
    m.Accounted (m.access event) := by
  constructor
  case places => exact m.places_reach
  case drives =>
    intro slot d hdrive
    by_cases hslot : event.slot? m.inStep.machine = some slot
    · have haccounted := access_reached h hslot
      rw [hdrive] at haccounted
      generalize hafter : (m.access event).inStep.machine.drive? slot = after at haccounted
      cases haccounted with
      | @some _ d' haccounted =>
        exact ⟨d', rfl, haccounted.sectorCount, haccounted.recorded,
          fun j hne => ⟨slot, d', .inl rfl, hafter, haccounted.changed j hne⟩⟩
    · obtain ⟨medium, hafter, hcount, hchanged⟩ := access_others h hslot hdrive
      exact ⟨_, hafter, hcount, List.prefix_refl _, hchanged⟩

/-! ## §3 Two disks on one file -/

/-- The first of the two disks on one file, with the write commands that it has taken. -/
def firstDisk (commands : Array (UInt32 × Nat)) : Drive :=
  { newDisk 0 with writeCommands := commands }

/-- Two disks on one file and the registers of their channel; no driver is at work. -/
def twin (t : TaskFile) (commands : Array (UInt32 × Nat)) (accesses : Nat) : Machine where
  disks :=
    { controller := .single 8
      machine := { (pairAttached true).bus with
        primary :=
          { master := some (firstDisk commands), slave := some (newDisk 1), registers := t }
        accessCount := accesses } }
  directory := (pairAttached true).directory
  places := (pairAttached true).places

section Twin

variable {t t' : TaskFile} {commands commands' : Array (UInt32 × Nat)} {n n' : Nat}

theorem inStep_twin : (twin t commands n).inStep = (twin t commands n).disks := rfl

theorem save_twin : (twin t commands n).save 0 = twin t commands n := rfl

theorem shares_twin : (twin t commands n).Shares 0 1 := ⟨⟨.above 0, ["a.img"]⟩, rfl, rfl⟩

theorem fresh_twin : (twin {} commands n).disks.machine.Fresh := by
  intro id
  cases id <;> rfl

/-- An access that leaves the content of the first disk leaves the file. -/
theorem access_twin {event : BusEvent}
    (hslot : event.slot? (twin t commands n).disks.machine = some 0)
    (hoccur : event.occur (twin t commands n).disks.machine
      = (twin t' commands' n').disks.machine) :
    (twin t commands n).access event = twin t' commands' n' := by
  rw [access, inStep_twin, hslot]
  unfold reach
  simp only [inStep_twin, hoccur]
  exact save_twin

/-- The registers when the first sector is awaited. -/
def awaiting : TaskFile :=
  { sectorCount := 1, status := .transferDue, busyReads := 2, phase := .write 0 1 }

theorem traffic_command :
    (twin {} #[] 0).traffic [.writeByte 0x1F2 1, .writeByte 0x1F7 0x30]
      = twin awaiting #[(0, 1)] 2 := by
  have hcount : (twin {} #[] 0).access (.writeByte 0x1F2 1) = twin { sectorCount := 1 } #[] 1 :=
    access_twin rfl rfl
  have hcommand : (twin { sectorCount := 1 } #[] 1).access (.writeByte 0x1F7 0x30)
      = twin awaiting #[(0, 1)] 2 := access_twin rfl rfl
  simp only [traffic, List.foldl, hcount, hcommand]

theorem occur_word (w : UInt16) :
    BusEvent.occur (.writeWord 0x1F0 w) (twin t commands n).disks.machine
      = { (twin t commands n).disks.machine with
          primary := (twin t commands n).disks.machine.primary.engaged .master
            (t.writeWord (firstDisk commands) w 2).1 (t.writeWord (firstDisk commands) w 2).2
          accessCount := n + 1 } :=
  congrArg (fun c : BusChannel => ({ (twin t commands n).disks.machine with
    primary := c, accessCount := n + 1 } : Bus))
    ((twin t commands n).disks.machine.primary.writeWord_engaged .master t (firstDisk commands) w 2)

theorem access_word (hphase : t.phase = .write 0 1) (hdue : t.status.dataRequest = true)
    (hcursor : t.cursor + 2 < 512) (w : UInt16) :
    (twin t commands n).access (.writeWord 0x1F0 w) = twin (t.putWord w) commands (n + 1) := by
  have hready : t.dataReady = true := Wire.dataReady_of_lt hdue (by omega)
  refine access_twin rfl ?_
  rw [occur_word, Wire.writeWord_due hphase hready, if_pos hcursor]
  rfl

/-- While the buffer is not full, words go there. -/
theorem traffic_words (w : UInt16) {k : Nat} (hphase : t.phase = .write 0 1)
    (hdue : t.status.dataRequest = true) (hcursor : t.cursor + 2 * k < 512) :
    ∃ t', (twin t commands n).traffic (List.replicate k (.writeWord 0x1F0 w))
        = twin t' commands (n + k)
      ∧ t'.phase = .write 0 1 ∧ t'.status.dataRequest = true ∧ t'.cursor = t.cursor + 2 * k := by
  induction k generalizing t n with
  | zero => exact ⟨t, rfl, hphase, hdue, rfl⟩
  | succ k ih =>
    obtain ⟨t', htraffic, hphase', hdue', hcursor'⟩ := ih (t := t.putWord w) (n := n + 1)
      hphase hdue (show t.cursor + 2 + 2 * k < 512 by omega)
    refine ⟨t', ?_, hphase', hdue', ?_⟩
    · have hword : (twin t commands n).access (.writeWord 0x1F0 w) = _ :=
        access_word hphase hdue (by omega) w
      rw [traffic, List.replicate_succ, List.foldl_cons, hword]
      exact htraffic.trans (by rw [Nat.add_right_comm, Nat.add_assoc])
    · have hput : (t.putWord w).cursor = t.cursor + 2 := rfl
      omega

/-- The last word has the sector written, and the second disk shows it. -/
theorem access_last (hphase : t.phase = .write 0 1) (hdue : t.status.dataRequest = true)
    (hcursor : t.cursor = 510) (w : UInt16) :
    ((twin t commands n).access (.writeWord 0x1F0 w)).inStep.machine.drive? 1
      = some { newDisk 1 with
          medium := (newDisk 1).medium.showing
            (newImage.content.writePiece 0 (t.buffer.setWord 510 w)) } := by
  have hready : t.dataReady = true := Wire.dataReady_of_lt hdue (by omega)
  have hslot : BusEvent.slot? (twin t commands n).disks.machine (.writeWord 0x1F0 w) = some 0 := rfl
  have hkept : (BusEvent.occur (.writeWord 0x1F0 w) (twin t commands n).disks.machine).drive? 1
      = (twin t commands n).disks.machine.drive? 1 :=
    BusEvent.drive?_occur (by rw [hslot]; decide)
  have hstored : (t.writeWord (firstDisk commands) w 2).2.medium.file?
      = some (newImage.content.writePiece 0 (t.buffer.setWord 510 w)) := by
    have hlt : (0 : UInt32).toNat < (firstDisk commands).medium.capacity := Nat.zero_lt_succ 7
    rw [Wire.writeWord_due hphase hready, if_neg (by omega), TaskFile.storeSector_good rfl hlt,
      Medium.file?_put, TaskFile.putWord, hcursor]
    rfl
  have hcontent : ((BusEvent.occur (.writeWord 0x1F0 w)
      (twin t commands n).disks.machine).drive? 0).bind (fun d => d.medium.file?)
        = some (newImage.content.writePiece 0 (t.buffer.setWord 510 w)) := by
    rw [occur_word]
    exact hstored
  rw [access, inStep_twin, hslot]
  exact drive?_reach_of_shares shares_twin rfl hkept hcontent

/-- The data port is read in the middle of a write. -/
theorem traffic_misused :
    (twin {} #[] 0).traffic
        ([.writeByte 0x1F2 1, .writeByte 0x1F7 0x30] ++ [.writeWord 0x1F0 7, .readWord 0x1F0])
      = twin { awaiting.putWord 7 with cursor := 4 } #[(0, 1)] 4 := by
  have hword : (twin awaiting #[(0, 1)] 2).access (.writeWord 0x1F0 7)
      = twin (awaiting.putWord 7) #[(0, 1)] 3 := access_word rfl rfl (by decide) 7
  have hread : (twin (awaiting.putWord 7) #[(0, 1)] 3).access (.readWord 0x1F0)
      = twin { awaiting.putWord 7 with cursor := 4 } #[(0, 1)] 4 := access_twin rfl rfl
  rw [traffic_append, traffic_command]
  simp only [traffic, List.foldl, hword, hread]

end Twin

/-! ## §4 Runs -/

/-- What any traffic preserves. -/
theorem traffic_preserves (h : m.inStep.machine.Coherent) (events : List BusEvent) :
    (m.traffic events).inStep.machine.Coherent ∧ m.Accounted (m.traffic events) := by
  induction events generalizing m with
  | nil => exact ⟨h, .refl m⟩
  | cons event events ih =>
    obtain ⟨hend, hrest⟩ := ih (coherent_access h event)
    exact ⟨hend, (access_accounted h event).trans hrest⟩

/-- **Under any traffic the channels stay coherent**, the data ports answer, and from then
on too a drive changes only where a write command to it, or to a drive on its file, says. -/
theorem traffic_accounted (fresh : m.disks.machine.Fresh) (events more : List BusEvent) :
    let m' := m.traffic events
    m'.inStep.machine.Coherent ∧ m'.inStep.machine.Answers ∧ m.Accounted m'
      ∧ m'.Accounted (m'.traffic more) := by
  intro m'
  obtain ⟨hcoherent, haccounted⟩ := traffic_preserves (coherent_inStep fresh.coherent) events
  exact ⟨hcoherent, hcoherent.answers, haccounted, (traffic_preserves hcoherent more).2⟩

/-- Afterwards a sector goes bad, and the other drive is selected. -/
theorem traffic_accounted_misused :
    let m := twin {} #[] 0
    let m' := m.traffic
      ([.writeByte 0x1F2 1, .writeByte 0x1F7 0x30] ++ [.writeWord 0x1F0 7, .readWord 0x1F0])
    let more : List BusEvent :=
      [.fault 0 fun faults => { faults with badSectors := [0] }, .writeByte 0x1F6 0xB0,
        .readByte 0x1F7]
    m.disks.machine.Fresh ∧ m.Shares 0 1
      ∧ m'.inStep.machine.primary.registers.phase = .write 0 1
      ∧ m'.inStep.machine.primary.registers.cursor = 4
      ∧ m'.inStep.machine.Coherent ∧ m'.inStep.machine.Answers ∧ m.Accounted m'
      ∧ m'.Accounted (m'.traffic more) := by
  intro m m' more
  have hfresh : m.disks.machine.Fresh := fresh_twin
  have hend : m' = twin { awaiting.putWord 7 with cursor := 4 } #[(0, 1)] 4 := traffic_misused
  have hpreserved := traffic_accounted hfresh
    ([.writeByte 0x1F2 1, .writeByte 0x1F7 0x30] ++ [.writeWord 0x1F0 7, .readWord 0x1F0]) more
  refine ⟨hfresh, shares_twin, ?_, ?_, hpreserved⟩
  · rw [hend, inStep_twin]
    rfl
  · rw [hend, inStep_twin]
    rfl

/-- **A sector may change that no write command of the drive names**: a write to the first
of two disks on one file changes the second one, which has taken no command at all. -/
theorem traffic_unaccounted :
    let m := twin {} #[] 0
    let m' := m.traffic ([.writeByte 0x1F2 1, .writeByte 0x1F7 0x30]
      ++ List.replicate 256 (.writeWord 0x1F0 0xFFFF))
    m.disks.machine.Fresh ∧ ∃ d d', m.inStep.machine.drive? 1 = some d
      ∧ m'.inStep.machine.drive? 1 = some d' ∧ d'.medium.content 0 ≠ d.medium.content 0
      ∧ ¬ d'.Commanded 0 := by
  intro m m'
  have hfresh : m.disks.machine.Fresh := fresh_twin
  obtain ⟨t, hwords, hphase, hdue, hcursor⟩ := traffic_words (t := awaiting) (n := 2) 0xFFFF
    (k := 255) rfl rfl (by decide)
  have hend : m' = (twin t #[(0, 1)] (2 + 255)).access (.writeWord 0x1F0 0xFFFF) := by
    have hlast : List.replicate 256 (BusEvent.writeWord 0x1F0 0xFFFF)
        = List.replicate 255 (.writeWord 0x1F0 0xFFFF) ++ [.writeWord 0x1F0 0xFFFF] :=
      List.replicate_succ'
    rw [← hwords, ← traffic_command]
    simp only [m', m, hlast, traffic_append]
    rfl
  have hshown := @access_last t #[(0, 1)] (2 + 255) hphase hdue hcursor 0xFFFF
  rw [← hend] at hshown
  refine ⟨hfresh, newDisk 1, _, rfl, hshown, ?_, ?_⟩
  · intro hsame
    rw [content_newDisk] at hsame
    have hpiece : (newImage.content.writePiece 0 (t.buffer.setWord 510 0xFFFF)).piece 0
        = Sector.zero := hsame
    have hbyte := congrArg (fun s : Sector => s.byte 510) hpiece
    simp only [FileContent.piece_writePiece, if_true, Sector.byte_zero,
      Sector.byte_setWord t.buffer (show 510 + 1 < 512 by decide)] at hbyte
    exact absurd hbyte (by decide)
  · rintro ⟨entry, hmem, -⟩
    exact Array.not_mem_empty entry hmem

end Machine

end AtaVolume
