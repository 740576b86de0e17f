/-
AtaVolume.Proofs.Bus.Coherence — cursor, status, phase and selected drive agree,
whatever is done to a channel.

A driver goes through a transfer in one order; other software may not. It can read
the data port during a write, give a command in the middle of a transfer, or select
the other drive. `TaskFile.Coherent` is what holds all the same of the registers and
the selected drive. The registers are written in a dozen places, and each of them has
a lemma here. What becomes of the drive is `Drive.Accounted`: no sector changes that
no write command names.
-/
import AtaVolume.Proofs.Bus.Leftovers

namespace AtaVolume

/-! ## §1 Drives whose changes are accounted for -/

namespace Drive

/-- The drive has the `n` sectors from `lba` on, and there is at least one. -/
structure Spans (d : Drive) (lba : UInt32) (n : Nat) : Prop where
  pos : 1 ≤ n
  within : lba.toNat + n ≤ d.medium.sectorCount.toNat

/-- The last write command that the drive took ends at sector `stop`, and does not
begin behind `lba`. -/
def LastWrite (d : Drive) (lba stop : Nat) : Prop :=
  ∃ first count, d.writeCommands.back? = some (first, count)
    ∧ first.toNat ≤ lba ∧ stop = first.toNat + count

/-- Sector `j` is named by a write command that the drive took. -/
def Commanded (d : Drive) (j : Nat) : Prop :=
  ∃ entry ∈ d.writeCommands, entry.1.toNat ≤ j ∧ j < entry.1.toNat + entry.2

/-- What may become of a drive: it keeps its size and the record of its write
commands, and only sectors that one of them names have changed, in its file too. -/
structure Accounted (d d' : Drive) : Prop where
  sectorCount : d'.medium.sectorCount = d.medium.sectorCount
  recorded : d.writeCommands.toList <+: d'.writeCommands.toList
  changed : ∀ j, d'.medium.content j ≠ d.medium.content j → d'.Commanded j
  pieces : ∀ f', d'.medium.file? = some f' → ∃ f, d.medium.file? = some f
    ∧ ∀ j, f'.piece j ≠ f.piece j → d'.Commanded j

variable {d d' : Drive} {lba : UInt32} {n j : Nat}

/-- What was recorded stays recorded. -/
theorem Commanded.mono (h : d.Commanded j)
    (hrecorded : d.writeCommands.toList <+: d'.writeCommands.toList) : d'.Commanded j := by
  obtain ⟨entry, hmem, hbounds⟩ := h
  exact ⟨entry, Array.mem_toList_iff.1 (hrecorded.subset (Array.mem_toList_iff.2 hmem)), hbounds⟩

theorem LastWrite.commanded {stop : Nat} (h : d.LastWrite j stop) (hj : j < stop) :
    d.Commanded j := by
  obtain ⟨first, count, hback, hfirst, rfl⟩ := h
  exact ⟨(first, count), Array.mem_of_back? hback, hfirst, hj⟩

namespace Accounted

theorem refl (d : Drive) : d.Accounted d where
  sectorCount := rfl
  recorded := List.prefix_refl _
  changed _ hne := absurd rfl hne
  pieces f hfile := ⟨f, hfile, fun _ hne => absurd rfl hne⟩

/-- Nothing changes that is on the medium. -/
theorem of_medium (hmedium : d'.medium = d.medium)
    (hrecorded : d.writeCommands.toList <+: d'.writeCommands.toList) : d.Accounted d' where
  sectorCount := by rw [hmedium]
  recorded := hrecorded
  changed j hne := absurd (by rw [hmedium]) hne
  pieces f hfile := ⟨f, by rw [← hmedium, hfile], fun _ hne => absurd rfl hne⟩

theorem refault (d : Drive) (faults : Faults) : d.Accounted { d with faults } :=
  of_medium rfl (List.prefix_refl _)

/-- A sector is stored that the last write command names. -/
theorem put (hspan : d.Spans lba n) (hlast : d.LastWrite lba.toNat (lba.toNat + n))
    (data : Sector) : d.Accounted { d with medium := d.medium.put lba data } := by
  have hpos := hspan.pos
  have hwithin := hspan.within
  have hcommanded : d.Commanded lba.toNat := hlast.commanded (by omega)
  constructor
  case sectorCount => exact Medium.sectorCount_put ..
  case recorded => exact List.prefix_refl _
  case changed =>
    intro j hne
    have hlt : lba.toNat < d.medium.capacity := Nat.lt_of_lt_of_le (by omega) hwithin
    have hj : j = lba.toNat := by
      by_contra hj
      simp [Medium.content_put hlt, Function.update_of_ne hj] at hne
    exact hj ▸ hcommanded
  case pieces =>
    intro f' hfile'
    rw [Medium.file?_put] at hfile'
    obtain ⟨f, hfile, rfl⟩ := Option.map_eq_some_iff.1 hfile'
    refine ⟨f, hfile, fun j hne => ?_⟩
    have hj : j = lba.toNat := by
      by_contra hj
      exact hne ((f.piece_writePiece ..).trans (if_neg hj))
    exact hj ▸ hcommanded

end Accounted

/-- The sectors that are left when the first one is done. -/
theorem Spans.next (h : d.Spans lba n) (hn : 1 < n) :
    (lba + 1).toNat = lba.toNat + 1 ∧ d.Spans (lba + 1) (n - 1) := by
  have hwithin := h.within
  have hnext : (lba + 1).toNat = lba.toNat + 1 :=
    d.toNat_next (show lba.toNat + 1 ≤ d.medium.sectorCount.toNat by omega)
  exact ⟨hnext, by omega, by omega⟩

end Drive

/-! ## §2 Registers and the selected drive -/

namespace Status

@[simp] theorem dataRequest_transferDue : transferDue.dataRequest = true := rfl
@[simp] theorem dataRequest_idle : idle.dataRequest = false := rfl
@[simp] theorem dataRequest_failure : failure.dataRequest = false := rfl
@[simp] theorem dataRequest_fault : fault.dataRequest = false := rfl

end Status

/-- A transfer under way stays on the selected drive, and a write ends where the last
write command of that drive does. -/
def DataPhase.Suits (current : Option Drive) : DataPhase → Prop
  | .idle => True
  | .identify => True
  | .read lba remaining => ∃ d, current = some d ∧ d.Spans lba remaining
  | .write lba remaining =>
    ∃ d, current = some d ∧ d.Spans lba remaining
      ∧ d.LastWrite lba.toNat (lba.toNat + remaining)

/-- Registers that agree with each other and with the selected drive. -/
structure TaskFile.Coherent (t : TaskFile) (current : Option Drive) : Prop where
  even : t.cursor % 2 = 0
  bounded : t.cursor ≤ 512
  /-- Data is asked for exactly while there is a transfer. -/
  due : t.status.dataRequest = true ↔ t.phase ≠ .idle
  unfinished : t.phase ≠ .idle → t.cursor < 512
  suits : t.phase.Suits current

namespace TaskFile

variable {t t' : TaskFile} {d d' : Drive} {current : Option Drive} {lba : UInt32}
  {remaining : Nat} {latency : Nat}

/-- Registers of which nothing but what a step never looks at has changed. -/
structure Steady (t t' : TaskFile) : Prop where
  status : t'.status = t.status
  cursor : t'.cursor = t.cursor
  phase : t'.phase = t.phase

/-! ## §3 Ends of commands -/

/-- Registers without a transfer go with any drive. -/
theorem coherent_of_idle (heven : t.cursor % 2 = 0) (hbounded : t.cursor ≤ 512)
    (hphase : t.phase = .idle) (hstatus : t.status.dataRequest = false) : t.Coherent current where
  even := heven
  bounded := hbounded
  due := by simp [hphase, hstatus]
  unfinished hne := absurd hphase hne
  suits := by simp [hphase, DataPhase.Suits]

/-- Registers with a transfer that has just begun, or goes on with its next sector. -/
theorem coherent_of_due (hcursor : t.cursor = 0) (hphase : t.phase ≠ .idle)
    (hstatus : t.status = .transferDue) (hsuits : t.phase.Suits current) : t.Coherent current where
  even := by simp [hcursor]
  bounded := by simp [hcursor]
  due := by simp [hphase, hstatus]
  unfinished _ := by simp [hcursor]
  suits := hsuits

theorem coherent_fail (heven : t.cursor % 2 = 0) (hbounded : t.cursor ≤ 512) (error : UInt8) :
    (t.fail error).Coherent current :=
  coherent_of_idle heven hbounded rfl Status.dataRequest_failure

theorem coherent_failWrite (heven : t.cursor % 2 = 0) (hbounded : t.cursor ≤ 512) :
    t.failWrite.Coherent current :=
  coherent_of_idle heven hbounded rfl Status.dataRequest_failure

theorem coherent_finish (heven : t.cursor % 2 = 0) (hbounded : t.cursor ≤ 512) :
    t.finish.Coherent current :=
  coherent_of_idle heven hbounded rfl Status.dataRequest_idle

theorem coherent_select (t : TaskFile) (value : UInt8) : (t.select value).Coherent current :=
  coherent_of_idle (by simp [select, finish]) (by simp [select, finish]) rfl Status.dataRequest_idle

/-- The other registers do not matter. -/
theorem Coherent.steady (h : t.Coherent current) (hsteady : t.Steady t') : t'.Coherent current where
  even := by rw [hsteady.cursor]; exact h.even
  bounded := by rw [hsteady.cursor]; exact h.bounded
  due := by rw [hsteady.status, hsteady.phase]; exact h.due
  unfinished := by rw [hsteady.cursor, hsteady.phase]; exact h.unfinished
  suits := by rw [hsteady.phase]; exact h.suits

/-- A drive that has the same sectors and the same record does as well. -/
theorem Coherent.drive (h : t.Coherent (some d))
    (hcount : d'.medium.sectorCount = d.medium.sectorCount)
    (hrecord : d'.writeCommands = d.writeCommands) : t.Coherent (some d') where
  even := h.even
  bounded := h.bounded
  due := h.due
  unfinished := h.unfinished
  suits := by
    have hspans : ∀ {lba n}, d.Spans lba n → d'.Spans lba n := fun hspan =>
      ⟨hspan.pos, by rw [hcount]; exact hspan.within⟩
    have hsuits := h.suits
    cases hphase : t.phase with
    | read lba remaining =>
      rw [hphase] at hsuits
      obtain ⟨_, ⟨⟩, hspan⟩ := hsuits
      exact ⟨d', rfl, hspans hspan⟩
    | write lba remaining =>
      rw [hphase] at hsuits
      obtain ⟨_, ⟨⟩, hspan, hlast⟩ := hsuits
      refine ⟨d', rfl, hspans hspan, ?_⟩
      unfold Drive.LastWrite
      rw [hrecord]
      exact hlast
    | _ => trivial

/-! ## §4 The data port -/

theorem coherent_load (heven : t.cursor % 2 = 0) (hbounded : t.cursor ≤ 512)
    (hphase : t.phase = .read lba remaining) (hspan : d.Spans lba remaining) :
    (t.load d lba).Coherent (some d) := by
  unfold load
  split
  · exact coherent_fail heven hbounded _
  · split
    · exact coherent_of_due rfl (by simp [hphase]) rfl (by simp [hphase, DataPhase.Suits, hspan])
    · exact coherent_fail heven hbounded _

theorem coherent_advanceRead (heven : t.cursor % 2 = 0) (hbounded : t.cursor ≤ 512)
    (hsuits : t.phase.Suits (some d)) : (t.advanceRead d latency).Coherent (some d) := by
  unfold advanceRead
  cases hphase : t.phase with
  | read lba remaining =>
    rw [hphase] at hsuits
    obtain ⟨_, ⟨⟩, hspan⟩ := hsuits
    simp only
    split
    case isTrue hmore => exact coherent_load heven hbounded rfl (hspan.next hmore).2
    case isFalse => exact coherent_finish heven hbounded
  | _ => exact coherent_finish heven hbounded

/-- A word is due only while the cursor is inside the buffer. -/
theorem cursor_lt_of_ready (h : t.dataReady = true) : t.cursor < 512 := by
  simp [dataReady] at h
  exact h.2

/-- The cursor moves on by one word, which does not fill the buffer. -/
theorem Coherent.advance (h : t.Coherent current) (hlt : t.cursor < 512)
    (hne : t.cursor + 2 ≠ 512) (hcursor : t'.cursor = t.cursor + 2) (hstatus : t'.status = t.status)
    (hphase : t'.phase = t.phase) : t'.Coherent current := by
  have heven := h.even
  exact {
    even := by omega
    bounded := by omega
    due := by rw [hstatus, hphase]; exact h.due
    unfinished := fun _ => by omega
    suits := by rw [hphase]; exact h.suits }

theorem Coherent.readWord (h : t.Coherent (some d)) :
    (t.readWord d latency).2.Coherent (some d) := by
  cases hready : t.dataReady with
  | false => simpa [TaskFile.readWord, hready] using h
  | true =>
    have hlt := cursor_lt_of_ready hready
    have heven := h.even
    rw [readWord_ready hready]
    simp only
    split
    case isTrue hfull =>
      exact coherent_advanceRead (t := { t with cursor := t.cursor + 2 }) (by simp [hfull])
        (by simp [hfull]) h.suits
    case isFalse hmore => exact h.advance hlt hmore rfl rfl rfl

/-- A full buffer is stored, and the registers go on with what is left. -/
theorem storeSector_coherent (heven : t.cursor % 2 = 0) (hbounded : t.cursor ≤ 512)
    (hspan : d.Spans lba remaining)
    (hlast : d.LastWrite lba.toNat (lba.toNat + remaining)) :
    (t.storeSector d lba remaining latency).1.Coherent
        (some (t.storeSector d lba remaining latency).2)
      ∧ d.Accounted (t.storeSector d lba remaining latency).2 := by
  cases hbad : d.isBad lba with
  | true =>
    rw [storeSector_bad hbad]
    exact ⟨coherent_failWrite heven hbounded, .refl d⟩
  | false =>
    have hpos := hspan.pos
    have hwithin := hspan.within
    have hlt : lba.toNat < d.medium.capacity := Nat.lt_of_lt_of_le (by omega) hwithin
    have hput := Drive.Accounted.put hspan hlast (d.stored t.buffer)
    rw [storeSector_good hbad hlt]
    refine ⟨?_, hput⟩
    simp only
    split
    case isFalse => exact coherent_finish heven hbounded
    case isTrue hmore =>
      obtain ⟨hnext, hrest⟩ := hspan.next hmore
      obtain ⟨first, count, hback, hfirst, hstop⟩ := hlast
      refine coherent_of_due rfl (by simp) rfl
        ⟨_, rfl, ⟨hrest.pos, ?_⟩, first, count, hback, ?_, ?_⟩
      · rw [hput.sectorCount]
        exact hrest.within
      · omega
      · omega

theorem Coherent.writeWord (h : t.Coherent (some d)) (w : UInt16) :
    (t.writeWord d w latency).1.Coherent (some (t.writeWord d w latency).2)
      ∧ d.Accounted (t.writeWord d w latency).2 := by
  cases hready : t.dataReady with
  | false =>
    rw [writeWord_of_not_ready hready]
    exact ⟨h, .refl d⟩
  | true =>
    have hlt := cursor_lt_of_ready hready
    have heven := h.even
    have hsuits := h.suits
    unfold TaskFile.writeWord
    cases hphase : t.phase with
    | write lba remaining =>
      rw [hphase] at hsuits
      obtain ⟨_, ⟨⟩, hspan, hlast⟩ := hsuits
      simp only [hready, if_true]
      split
      case isTrue hmore =>
        have hcursor : t.cursor + 2 < 512 := hmore
        exact ⟨h.advance hlt (by omega) rfl rfl rfl, .refl d⟩
      case isFalse =>
        have heven' : (t.cursor + 2) % 2 = 0 := by omega
        have hbounded' : t.cursor + 2 ≤ 512 := by omega
        exact storeSector_coherent (t := t.putWord w) heven' hbounded' hspan hlast
    | _ => exact ⟨h, .refl d⟩

/-! ## §5 Commands -/

theorem targetCount_pos (t : TaskFile) : 1 ≤ t.targetCount := by
  unfold targetCount
  split
  · decide
  case isFalse hne =>
    have : t.sectorCount.toNat ≠ 0 := fun hzero => hne (UInt8.toNat_inj.1 hzero)
    omega

/-- A drive that holds what the registers name spans it. -/
theorem spans_target (h : d.holds t.targetLba t.targetCount = true) :
    d.Spans t.targetLba t.targetCount :=
  ⟨t.targetCount_pos, by simpa [Drive.holds] using h⟩

theorem coherent_identify (hcursor : t.cursor = 0) : (t.identify d).Coherent (some d) := by
  have hfail : ∀ mid high : UInt8,
      (fail { t with lbaMid := mid, lbaHigh := high } errAborted).Coherent (some d) :=
    fun mid high => coherent_fail (by simp [hcursor]) (by simp [hcursor]) _
  unfold identify
  split
  · exact coherent_of_due hcursor (by simp) rfl trivial
  · exact hfail _ _
  · exact hfail _ _

theorem coherent_startRead (hcursor : t.cursor = 0) : (t.startRead d).Coherent (some d) := by
  unfold startRead
  split
  case isTrue hholds =>
    exact coherent_load (by simp [hcursor]) (by simp [hcursor]) rfl (spans_target hholds)
  case isFalse => exact coherent_fail (by simp [hcursor]) (by simp [hcursor]) _

/-- A write that begins is recorded. -/
theorem startWrite_coherent (hcursor : t.cursor = 0) :
    (t.startWrite d).1.Coherent (some (t.startWrite d).2) ∧ d.Accounted (t.startWrite d).2 := by
  unfold startWrite
  split
  case isTrue hholds =>
    have hspan := spans_target hholds
    have hlast : Array.back? (d.writeCommands.push (t.targetLba, t.targetCount))
        = some (t.targetLba, t.targetCount) := by simp
    exact ⟨coherent_of_due hcursor (by simp) rfl
        ⟨_, rfl, ⟨hspan.pos, hspan.within⟩, _, _, hlast, Nat.le_refl _, rfl⟩,
      .of_medium rfl (by simp)⟩
  case isFalse => exact ⟨coherent_fail (by simp [hcursor]) (by simp [hcursor]) _, .refl d⟩

theorem flush_coherent (hcursor : t.cursor = 0) (pending : Option UInt8) :
    (t.flush d pending).1.Coherent (some (t.flush d pending).2)
      ∧ d.Accounted (t.flush d pending).2 := by
  have heven : t.cursor % 2 = 0 := by simp [hcursor]
  have hbounded : t.cursor ≤ 512 := by simp [hcursor]
  have hflushed : d.Accounted { d with flushes := d.flushes + 1 } :=
    .of_medium rfl (List.prefix_refl _)
  cases pending with
  | some error => exact ⟨coherent_fail heven hbounded error, hflushed⟩
  | none => exact ⟨coherent_finish heven hbounded, hflushed⟩

/-- **A command puts the registers in order**, whatever they held before, and records
the write that it may begin. -/
theorem command_coherent (t : TaskFile) (d : Drive) (value : UInt8) (latency : Nat) :
    (t.command d value latency).1.Coherent (some (t.command d value latency).2)
      ∧ d.Accounted (t.command d value latency).2 := by
  have hcursor : (t.cleared latency).cursor = 0 := rfl
  have habort : (fail (t.cleared latency) errAborted).Coherent (some d) :=
    coherent_fail rfl (Nat.zero_le 512) _
  unfold command
  simp only
  split
  · exact ⟨coherent_identify hcursor, .refl d⟩
  split
  · exact ⟨habort, .refl d⟩
  split
  · exact ⟨coherent_of_idle rfl (by simp) rfl Status.dataRequest_fault, .refl d⟩
  split
  · exact ⟨coherent_startRead hcursor, .refl d⟩
  split
  · exact startWrite_coherent hcursor
  split
  · exact flush_coherent hcursor t.pendingError
  · exact ⟨habort, .refl d⟩

end TaskFile

end AtaVolume
