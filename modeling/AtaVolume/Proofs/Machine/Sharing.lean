/-
AtaVolume.Proofs.Machine.Sharing — what drives on one file do to each other.

A drive answers with what its file holds, so a write to one drive is seen on every other
drive on that file, and on no drive besides. What is done to the disks has to keep to
one drive for that (`Disks.KeepsTo`): it may look at nothing but this drive, and leaves the
others alone. An operation does, and so does a command of the shell (`Shell.execute_keepsTo`).
The machine then brings the file up to date, and through it the drives that share it
(`Machine.reach_left`); what is there to know of a command is `Machine.execute_left`.
-/
import AtaVolume.Machine.Boot
import AtaVolume.Proofs.Machine.Directory
import AtaVolume.Proofs.Shell.Announcement
import AtaVolume.Proofs.Volume.Isolation

namespace AtaVolume

/-! ## §1 Media that show a file -/

namespace Medium

variable {medium : Medium} {content content' : FileContent}

@[simp] theorem showing_showing :
    (medium.showing content).showing content' = medium.showing content' := by
  cases medium <;> rfl

@[simp] theorem sectorCount_showing : (medium.showing content).sectorCount = medium.sectorCount := by
  cases medium <;> rfl

@[simp] theorem file?_showing :
    (medium.showing content).file? = medium.file?.map fun _ => content := by
  cases medium <;> rfl

/-- A sector that another content shows otherwise is another piece of the file. -/
theorem piece_ne_of_showing {j : Nat} (h : (medium.showing content).content j ≠ medium.content j) :
    ∃ old, medium.file? = some old ∧ content.piece j ≠ old.piece j := by
  cases medium with
  | file image =>
    refine ⟨image.content, rfl, fun hsame => h ?_⟩
    simp only [showing, Medium.content, hsame]
  | _ => exact absurd rfl h

/-- A medium that holds this already is shown as it is. -/
theorem showing_of_file? (h : medium.file? = some content) : medium.showing content = medium := by
  cases medium <;> cases h
  rfl

/-- A medium on no file shows none. -/
theorem showing_of_none (h : medium.file? = none) : medium.showing content = medium := by
  cases medium with
  | file image => cases h
  | _ => rfl

/-- Media of one size on one file are the same. -/
theorem showing_eq {medium' : Medium} (hfile : medium.file?.isSome = true)
    (hsame : medium'.sectorCount = medium.sectorCount) (h : medium'.file? = some content) :
    medium.showing content = medium' := by
  cases medium with
  | file image =>
    cases medium' with
    | file image' =>
      obtain ⟨content', capacity⟩ := image'
      cases h
      cases hsame
      rfl
    | _ => cases h
  | _ => cases hfile

end Medium

namespace Machine

variable {α : Type} {m n : Machine} {slot other : Slot}

/-! ## §2 Disks as they answer -/

theorem refreshed_congr (h : m.file? slot = n.file? slot) : m.refreshed slot = n.refreshed slot := by
  funext d
  rw [refreshed, refreshed, h]

theorem refreshed_refreshed (m : Machine) (slot : Slot) (d : Drive) :
    m.refreshed slot (m.refreshed slot d) = m.refreshed slot d := by
  unfold refreshed
  split <;> simp

/-- A drive that shows its file already stays as it is. -/
theorem refreshed_of_file? {d : Drive} (h : m.file? slot = d.medium.file?) :
    m.refreshed slot d = d := by
  unfold refreshed
  cases hfile : m.file? slot with
  | none => rfl
  | some content => simp only [Medium.showing_of_file? (h.symm.trans hfile)]

theorem sectorCount_refreshed (m : Machine) (slot : Slot) (d : Drive) :
    (m.refreshed slot d).medium.sectorCount = d.medium.sectorCount := by
  unfold refreshed
  split
  · exact Medium.sectorCount_showing
  · rfl

theorem writeCommands_refreshed (m : Machine) (slot : Slot) (d : Drive) :
    (m.refreshed slot d).writeCommands = d.writeCommands := by
  unfold refreshed
  split <;> rfl

/-- Every drive is brought up to date, each with its own file. -/
theorem drive?_inStep (m : Machine) (slot : Slot) :
    m.inStep.machine.drive? slot = (m.disks.machine.drive? slot).map (m.refreshed slot) := by
  unfold inStep
  simp only [List.foldl, Bus.drive?_modifyDrive]
  match slot with
  | 0 | 1 | 2 | 3 => simp

/-- A drive on a file holds what the file holds. -/
theorem eq_of_inStep {d : Drive} {content held : FileContent}
    (hdrive : m.inStep.machine.drive? slot = some d) (hfile : m.file? slot = some content)
    (hheld : d.medium.file? = some held) : held = content := by
  rw [drive?_inStep] at hdrive
  obtain ⟨d₀, -, rfl⟩ := Option.map_eq_some_iff.1 hdrive
  simp only [refreshed, hfile, Medium.file?_showing] at hheld
  obtain ⟨_, -, rfl⟩ := Option.map_eq_some_iff.1 hheld
  rfl

theorem isSome_inStep (m : Machine) (slot : Slot) :
    (m.inStep.machine.drive? slot).isSome = (m.disks.machine.drive? slot).isSome := by
  rw [drive?_inStep, Option.isSome_map]

theorem controller_inStep (m : Machine) : m.inStep.controller = m.disks.controller := rfl

theorem latency_inStep (m : Machine) : m.inStep.machine.latency = m.disks.machine.latency := by
  unfold inStep
  simp only [List.foldl, Bus.latency_modifyDrive]

/-- The driver of the machine knows none but drives that are there. -/
def Ready (m : Machine) : Prop := m.disks.controller.Finds m.disks.machine

theorem Ready.inStep (h : m.Ready) : m.inStep.controller.Finds m.inStep.machine := by
  intro drive id p identity hfind
  obtain ⟨slot, hslot, hid, hp, hsome⟩ := h drive id p identity hfind
  exact ⟨slot, hslot, hid, hp, (m.isSome_inStep slot).trans hsome⟩

theorem ready_of_inStep (h : m.inStep.controller.Finds m.inStep.machine) : m.Ready := by
  intro drive id p identity hfind
  obtain ⟨slot, hslot, hid, hp, hsome⟩ := h drive id p identity hfind
  exact ⟨slot, hslot, hid, hp, (m.isSome_inStep slot).symm.trans hsome⟩

/-! ## §3 Files -/

/-- Both slots have the same file behind them. -/
def Shares (m : Machine) (slot other : Slot) : Prop :=
  ∃ place, m.places.lookup slot = some place ∧ m.places.lookup other = some place

theorem file?_of_shares (h : m.Shares slot other) : m.file? slot = m.file? other := by
  obtain ⟨place, hslot, hother⟩ := h
  rw [file?, file?, hslot, hother]

/-- All slots on one file see what is saved from one of them. -/
theorem file?_save_of_shares (h : m.Shares slot other) :
    (m.save slot).file? other = (m.file? other).map fun old => (m.content? slot).getD old := by
  obtain ⟨place, hslot, hother⟩ := h
  have hfile : ∀ {s}, m.places.lookup s = some place → m.file? s = m.directory.file? place := by
    intro s hs
    rw [file?, hs, Option.bind_some]
  unfold save
  rw [hslot, hfile hslot, hfile hother]
  cases hold : m.directory.file? place with
  | none => simpa [hold] using hfile hother
  | some old =>
    cases m.content? slot with
    | none => simpa [hold] using hfile hother
    | some content => simp [file?, hother, Directory.file?_store]

/-- The other files stay as they are. -/
theorem file?_save_of_not_shares (h : ¬ m.Shares slot other) :
    (m.save slot).file? other = m.file? other := by
  unfold save
  split
  case h_2 => rfl
  case h_1 place old content hplace hfile hcontent =>
    unfold file?
    cases hother : m.places.lookup other with
    | none => rfl
    | some p =>
      have hne : p ≠ place := by
        rintro rfl
        exact h ⟨p, hplace, hother⟩
      exact Directory.file?_store_of_ne _ hne content

/-! ## §4 What reaches one drive -/

variable {slot? : Option Slot} {act : Disks Bus → α × Disks Bus}

@[simp] theorem disks_reach (m : Machine) : (m.reach slot? act).2.disks = (act m.inStep).2 := by
  unfold reach
  cases slot? with
  | none => rfl
  | some slot =>
    simp only [Option.elim_some, save]
    split <;> rfl

@[simp] theorem places_reach (m : Machine) : (m.reach slot? act).2.places = m.places := by
  unfold reach
  cases slot? with
  | none => rfl
  | some slot =>
    simp only [Option.elim_some, save]
    split <;> rfl

theorem file?_reach_of_shares (h : m.Shares slot other) :
    (m.reach (some slot) act).2.file? other
      = (m.file? other).map fun old =>
        (((act m.inStep).2.machine.drive? slot).bind fun d => d.medium.file?).getD old :=
  file?_save_of_shares (m := { m with disks := (act m.inStep).2 }) h

theorem file?_reach_of_apart (h : ∀ slot, slot? = some slot → ¬ m.Shares slot other) :
    (m.reach slot? act).2.file? other = m.file? other := by
  cases slot? with
  | none => rfl
  | some slot =>
    exact file?_save_of_not_shares (m := { m with disks := (act m.inStep).2 }) (h slot rfl)

/-- A file is what it was, or what the image that was reached holds now. -/
theorem file?_reach (m : Machine) (other : Slot) :
    (m.reach slot? act).2.file? other = m.file? other
      ∨ ∃ slot d content, slot? = some slot ∧ m.Shares slot other ∧ (m.file? other).isSome = true
        ∧ (act m.inStep).2.machine.drive? slot = some d ∧ d.medium.file? = some content
        ∧ (m.reach slot? act).2.file? other = some content := by
  by_cases hreach : ∃ slot, slot? = some slot ∧ m.Shares slot other
  · obtain ⟨slot, rfl, hshares⟩ := hreach
    have hnow : (m.reach (some slot) act).2.file? other = _ := file?_reach_of_shares hshares
    cases hold : m.file? other with
    | none =>
      rw [hold] at hnow
      exact .inl hnow
    | some old =>
      rw [hold, Option.map_some] at hnow
      cases hheld : ((act m.inStep).2.machine.drive? slot).bind fun d => d.medium.file? with
      | none =>
        rw [hheld] at hnow
        exact .inl hnow
      | some content =>
        rw [hheld] at hnow
        obtain ⟨d, hdrive, hcontent⟩ := Option.bind_eq_some_iff.1 hheld
        exact .inr ⟨slot, d, content, rfl, hshares, rfl, hdrive, hcontent, hnow⟩
  · exact .inl (file?_reach_of_apart fun slot hslot hshares => hreach ⟨slot, hslot, hshares⟩)

/-- A drive shows what is behind it after everything that was done. -/
theorem drive?_reach (m : Machine) (other : Slot) :
    (m.reach slot? act).2.inStep.machine.drive? other
      = ((act m.inStep).2.machine.drive? other).map ((m.reach slot? act).2.refreshed other) := by
  rw [drive?_inStep, disks_reach]

/-- **What was done to a drive is what it shows**: its file has kept all of it. -/
theorem drive?_reached (m : Machine) (slot : Slot) :
    (m.reach (some slot) act).2.inStep.machine.drive? slot
      = (act m.inStep).2.machine.drive? slot := by
  rw [drive?_reach]
  cases hdrive : (act m.inStep).2.machine.drive? slot with
  | none => rfl
  | some d =>
    have hd : (m.reach (some slot) act).2.refreshed slot d = d := by
      unfold refreshed
      by_cases hshares : m.Shares slot slot
      · rw [file?_reach_of_shares hshares, hdrive, Option.bind_some]
        cases m.file? slot with
        | none => rfl
        | some old =>
          cases hfile : d.medium.file? with
          | none => simp [Medium.showing_of_none hfile]
          | some content => simp [Medium.showing_of_file? hfile]
      · have hnone : m.places.lookup slot = none := by
          by_contra hsome
          obtain ⟨place, hplace⟩ := Option.ne_none_iff_exists'.1 hsome
          exact hshares ⟨place, hplace, hplace⟩
        have hfile : (m.reach (some slot) act).2.file? slot = none := by
          rw [file?, places_reach, hnone]
          rfl
        rw [hfile]
    rw [Option.map_some, hd]

/-- A drive that was left alone is as it was if its file is. -/
theorem drive?_reach_of_file? (h : (m.reach slot? act).2.file? other = m.file? other)
    (hkept : (act m.inStep).2.machine.drive? other = m.inStep.machine.drive? other) :
    (m.reach slot? act).2.inStep.machine.drive? other = m.inStep.machine.drive? other := by
  rw [drive?_reach, hkept, refreshed_congr h, drive?_inStep, Option.map_map]
  congr 1
  funext d
  exact m.refreshed_refreshed other d

/-- A drive on another file, or on none, that was left alone is as it was. -/
theorem drive?_reach_of_apart (h : ∀ slot, slot? = some slot → ¬ m.Shares slot other)
    (hkept : (act m.inStep).2.machine.drive? other = m.inStep.machine.drive? other) :
    (m.reach slot? act).2.inStep.machine.drive? other = m.inStep.machine.drive? other :=
  drive?_reach_of_file? (file?_reach_of_apart h) hkept

/-- **A drive on the same file shows what the image that was reached holds now.** -/
theorem drive?_reach_of_shares (h : m.Shares slot other) (hfile : (m.file? other).isSome = true)
    (hkept : (act m.inStep).2.machine.drive? other = m.inStep.machine.drive? other)
    {content : FileContent}
    (hcontent : ((act m.inStep).2.machine.drive? slot).bind (fun d => d.medium.file?) = some content) :
    (m.reach (some slot) act).2.inStep.machine.drive? other
      = (m.inStep.machine.drive? other).map
          fun d => { d with medium := d.medium.showing content } := by
  obtain ⟨old, hold⟩ := Option.isSome_iff_exists.1 hfile
  have hshown : (m.reach (some slot) act).2.file? other = some content := by
    rw [file?_reach_of_shares h, hold, hcontent]
    rfl
  rw [drive?_reach, hkept]
  congr 1
  funext d
  rw [refreshed, hshown]

/-- From `m` to `m'` the disks were left as `s` by what reached one slot at most: the drive
in it has changed, and with it those on its file. -/
structure Left (m : Machine) (slot? : Option Slot) (s : Disks Bus) (m' : Machine) : Prop where
  ready : m'.Ready
  places : m'.places = m.places
  reached : ∀ slot, slot? = some slot → m'.inStep.machine.drive? slot = s.machine.drive? slot
  shared : ∀ slot other content, slot? = some slot → other ≠ slot → m.Shares slot other →
    (m.file? other).isSome = true →
    (s.machine.drive? slot).bind (fun d => d.medium.file?) = some content →
    m'.inStep.machine.drive? other = (m.inStep.machine.drive? other).map
      fun d => { d with medium := d.medium.showing content }
  apart : ∀ other, (∀ slot, slot? = some slot → other ≠ slot ∧ ¬ m.Shares slot other) →
    m'.inStep.machine.drive? other = m.inStep.machine.drive? other

/-- The other slots hold the drives that they held. -/
theorem kept_of_spares {k : UInt8} {s t : Disks Bus} (h : Disks.Spares k s t)
    (hother : ∀ slot, Bus.slot? k.toNat = some slot → other ≠ slot) :
    t.machine.drive? other = s.machine.drive? other :=
  h.others other fun heq => hother other (Bus.slot?_eq_some_iff.2 heq) rfl

theorem Ready.reach {k : UInt8} (h : m.Ready) (hspares : Disks.Spares k m.inStep (act m.inStep).2) :
    (m.reach slot? act).2.Ready := by
  unfold Ready
  rw [disks_reach]
  exact hspares.finds h.inStep

/-- **What keeps to one drive changes that drive and those on its file.** -/
theorem reach_left {k : UInt8} (h : m.Ready) (hact : Disks.KeepsTo k act) :
    m.Left (Bus.slot? k.toNat) (act m.inStep).2 (m.reach (Bus.slot? k.toNat) act).2 := by
  have hspares := (hact _ _ (.refl k h.inStep)).2.spares
  constructor
  case ready => exact h.reach hspares
  case places => exact m.places_reach
  case reached =>
    intro slot hslot
    rw [hslot]
    exact m.drive?_reached slot
  case shared =>
    intro slot other content hslot hne hshares hfile hcontent
    have hkept : (act m.inStep).2.machine.drive? other = m.inStep.machine.drive? other :=
      kept_of_spares hspares (by simpa [hslot] using hne)
    rw [hslot]
    exact drive?_reach_of_shares hshares hfile hkept hcontent
  case apart =>
    intro other hother
    exact drive?_reach_of_apart (fun slot hslot => (hother slot hslot).2)
      (kept_of_spares hspares fun slot hslot => (hother slot hslot).1)

end Machine

/-! ## §5 Commands -/

namespace Shell

open Volume

variable {σ τ : Type} [PortSpace σ] [PortSpace τ] {drive : UInt8} {R : Disks σ → Disks τ → Prop}

/-- Drives that answer alike get the same answers to commands. -/
theorem execute_drive_alike (h : DrivesAlike drive R) {command : Command}
    (hdrive : command.drive? = some drive) {s : Disks σ} {t : Disks τ} (hs : R s t) :
    (execute command s).1 = (execute command t).1
      ∧ R (execute command s).2 (execute command t).2 := by
  have hreads := h.toReadsAlike
  cases command <;> cases hdrive
  case format verify assumeYes =>
    cases assumeYes with
    | true => exact answer_alike _ _ (format_alike h verify) hs
    | false => exact ⟨rfl, hs⟩
  case create => exact answer_alike _ _ (allocate_alike h) hs
  case remove inode => exact answer_alike _ _ (release_alike h inode) hs
  case mount => exact answer_alike _ _ (mount_alike hreads) hs
  case bitmap => exact answer_alike _ _ (mountWithBitmap_alike hreads) hs
  case stat inode => exact answer_alike _ _ (readIndex_alike hreads inode) hs
  case list => exact answer_alike _ _ (listFiles_alike hreads) hs
  case check => exact answer_alike _ _ (check_alike hreads) hs
  case scan => exact scanReply_alike hreads hs
  case dump lba => exact answer_alike _ _ (readSector_alike hreads lba) hs

/-- **A command keeps to its drive.** -/
theorem execute_keepsTo {command : Command} (hdrive : command.drive? = some drive) :
    Disks.KeepsTo drive (execute command) :=
  fun s t h => execute_drive_alike (Disks.drivesAlike_parallel drive s t) hdrive h.parallel

/-- A command that is about no drive changes nothing. -/
theorem execute_of_none {command : Command} (hdrive : command.drive? = none) (s : Disks σ) :
    (execute command s).2 = s := by
  cases command with
  | help | drives | exit => rfl
  | _ => cases hdrive

end Shell

/-- **A command changes the drive that it is about and those on its file**, which show what
its image holds then; the drives on other files, and all other drives, are what they were. -/
theorem Machine.execute_left {m : Machine} (h : m.Ready) (command : Command) :
    m.Left (slotOf command) (Shell.execute command m.inStep).2 (m.execute command).2 := by
  unfold execute slotOf
  cases hdrive : command.drive? with
  | some drive => exact reach_left h (Shell.execute_keepsTo hdrive)
  | none =>
    have hkept : (Shell.execute command m.inStep).2 = m.inStep := Shell.execute_of_none hdrive _
    constructor
    case ready =>
      unfold Ready
      rw [disks_reach, hkept]
      exact h.inStep
    case places => exact m.places_reach
    case reached => intro slot hslot; cases hslot
    case shared => intro slot other content hslot; cases hslot
    case apart =>
      intro other _
      exact drive?_reach_of_apart (fun slot hslot => by cases hslot) (by rw [hkept])

end AtaVolume
