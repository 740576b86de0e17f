/-
AtaVolume.Proofs.Exact.DataPort — no word that goes over a data port is looked up
outside the buffer, and no sector number wraps.

The functions behind the data port are written once more with these steps checked,
as the layout is in `AtaVolume.Proofs.Exact.Layout`: a word has a value only if both
of its bytes lie in the buffer, and the next sector has a number only if it is one of
32 bits. Registers that are coherent never get to a step without a value
(`TaskFile.readWord?_eq`, `TaskFile.writeWord?_eq`).
-/
import AtaVolume.Proofs.Bus.Coherence
import AtaVolume.Proofs.Exact.Layout

namespace AtaVolume

/-! ## §1 Words of the buffer -/

namespace Exact

/-- The word at byte offset `i`, if the sector has both bytes. -/
def word (s : Sector) (i : Nat) : Option UInt16 := do
  let low ← s[i]?
  let high ← s[i + 1]?
  return low.toUInt16 ||| (high.toUInt16 <<< 8)

/-- The sector with the word at byte offset `i` replaced, if it has both bytes. -/
def setWord (s : Sector) (i : Nat) (w : UInt16) : Option Sector :=
  if i + 2 ≤ sectorSize then some (s.setWord i w) else none

variable {i : Nat}

theorem word_eq (s : Sector) (h : i + 2 ≤ 512) : word s i = some (s.word i) := by
  have hlow : s[i]? = some s[i] := Vector.getElem?_eq_getElem (by omega)
  have hhigh : s[i + 1]? = some s[i + 1] := Vector.getElem?_eq_getElem (by omega)
  simp [word, Sector.word, Sector.byte, hlow, hhigh]

theorem setWord_eq (s : Sector) (h : i + 2 ≤ 512) (w : UInt16) :
    setWord s i w = some (s.setWord i w) := if_pos h

end Exact

namespace TaskFile

variable {t : TaskFile} {d : Drive} {lba : UInt32} {remaining : Nat}

/-! ## §2 Reading -/

/-- The buffer is read to its end: the next sector follows, if it has a number. -/
def advanceRead? (t : TaskFile) (d : Drive) (latency : Nat) : Option TaskFile :=
  match t.phase with
  | .read lba remaining =>
    if 1 < remaining then do
      let next ← Exact.add lba 1
      return load { t with phase := .read next (remaining - 1), busyReads := latency } d next
    else some t.finish
  | _ => some t.finish

/-- Reads a word from the data port. -/
def readWord? (t : TaskFile) (d : Drive) (latency : Nat) : Option (UInt16 × TaskFile) :=
  if t.dataReady then do
    let w ← Exact.word t.buffer t.cursor
    let t := { t with cursor := t.cursor + 2 }
    if t.cursor = sectorSize then return (w, ← t.advanceRead? d latency) else return (w, t)
  else some (0xFFFF, t)

/-- The sector behind one of a transfer that goes on has a number. -/
theorem add_one_eq (hspan : d.Spans lba remaining) (hmore : 1 < remaining) :
    Exact.add lba 1 = some (lba + 1) := by
  have hwithin := hspan.within
  have hlt := d.medium.sectorCount.toNat_lt
  apply Exact.add_eq
  rw [UInt32.toNat_one]
  omega

theorem advanceRead?_eq (hsuits : t.phase.Suits (some d)) (latency : Nat) :
    t.advanceRead? d latency = some (t.advanceRead d latency) := by
  unfold advanceRead? advanceRead
  cases hphase : t.phase with
  | read lba remaining =>
    rw [hphase] at hsuits
    obtain ⟨_, ⟨⟩, hspan⟩ := hsuits
    simp only
    split
    case isTrue hmore => simp [add_one_eq hspan hmore]
    case isFalse => rfl
  | _ => rfl

/-- The word at an even cursor before the end lies in the buffer. -/
theorem Coherent.word_within (h : t.Coherent (some d)) (hready : t.dataReady = true) :
    t.cursor + 2 ≤ 512 := by
  have heven := h.even
  have hlt := cursor_lt_of_ready hready
  omega

/-- **Every step of reading a word has a value.** -/
theorem readWord?_eq (h : t.Coherent (some d)) (latency : Nat) :
    t.readWord? d latency = some (t.readWord d latency) := by
  unfold readWord? readWord
  cases hready : t.dataReady with
  | false => rfl
  | true =>
    have hnext := advanceRead?_eq (t := { t with cursor := t.cursor + 2 }) h.suits latency
    simp only [if_true, Exact.word_eq t.buffer (h.word_within hready), hnext]
    split <;> simp [*]

/-! ## §3 Writing -/

/-- The buffer is full: it is stored, and the next sector follows, if it has a
number. -/
def storeSector? (t : TaskFile) (d : Drive) (lba : UInt32) (remaining latency : Nat) :
    Option (TaskFile × Drive) :=
  if d.isBad lba then some (t.failWrite, d)
  else
    match Medium.writeSector lba (d.stored t.buffer) d.medium with
    | .error _ medium => some (t.failWrite, { d with medium })
    | .ok _ medium =>
      if 1 < remaining then do
        let next ← Exact.add lba 1
        return ({ t with phase := .write next (remaining - 1), busyReads := latency, cursor := 0,
                         status := .transferDue }, { d with medium })
      else some (t.finish, { d with medium })

/-- Writes a word to the data port. -/
def writeWord? (t : TaskFile) (d : Drive) (w : UInt16) (latency : Nat) :
    Option (TaskFile × Drive) :=
  match t.phase with
  | .write lba remaining =>
    if t.dataReady then do
      let buffer ← Exact.setWord t.buffer t.cursor w
      let t := { t with buffer, cursor := t.cursor + 2 }
      if t.cursor < sectorSize then return (t, d) else t.storeSector? d lba remaining latency
    else some (t, d)
  | _ => some (t, d)

theorem storeSector?_eq (t : TaskFile) (hspan : d.Spans lba remaining) (latency : Nat) :
    t.storeSector? d lba remaining latency = some (t.storeSector d lba remaining latency) := by
  unfold storeSector? storeSector
  cases d.isBad lba with
  | true => rfl
  | false =>
    cases Medium.writeSector lba (d.stored t.buffer) d.medium with
    | error e medium => rfl
    | ok _ medium =>
      by_cases hmore : 1 < remaining
      · simp [hmore, add_one_eq hspan hmore]
      · simp [hmore]

/-- **Every step of writing a word has a value.** -/
theorem writeWord?_eq (h : t.Coherent (some d)) (w : UInt16) (latency : Nat) :
    t.writeWord? d w latency = some (t.writeWord d w latency) := by
  have hsuits := h.suits
  unfold writeWord? writeWord
  cases hphase : t.phase with
  | write lba remaining =>
    rw [hphase] at hsuits
    obtain ⟨_, ⟨⟩, hspan, -⟩ := hsuits
    cases hready : t.dataReady with
    | false => rfl
    | true =>
      have hbuffer := Exact.setWord_eq t.buffer (h.word_within hready) w
      by_cases hmore : t.cursor + 2 < 512
      · simp [hbuffer, putWord, hmore, hphase]
      · have hstore := fun full : TaskFile => storeSector?_eq full hspan latency
        simp [hbuffer, putWord, hmore, hphase, hstore]
  | _ => rfl

end TaskFile

end AtaVolume
