/-
AtaVolume.Proofs.Bus.DataPort — a sector goes over the data port word by word.

While the driver reads the 256 words of a sector, the cursor of the registers
runs to the end of the buffer, and what was received is the buffer
(`readSectorData_engaged`). While it writes them, the buffer fills up with the
words, and when it is full it is the sector that was sent
(`writeSectorData_engaged`). The inductions are over the words that are left;
the invariant is that cursor and words left add up to a sector.
-/
import AtaVolume.Proofs.Bus.Polling
import AtaVolume.Proofs.Bytes.Sectors
import AtaVolume.Proofs.Bytes.Words

namespace AtaVolume

/-! ## §1 Words in a sector -/

namespace Sector

open LittleEndian

/-- The sector with its bytes from `cursor` on replaced by those of `data` from
`i` on. -/
def fill (s : Sector) (cursor : Nat) (data : Bytes) (i : Nat) : Sector :=
  Vector.ofFn fun k => if k.val < cursor then s.byte k else data.getD (i + (k.val - cursor)) 0

theorem byte_fill (s : Sector) (cursor : Nat) (data : Bytes) (i : Nat) {k : Nat} (h : k < 512) :
    (s.fill cursor data i).byte k
      = if k < cursor then s.byte k else data.getD (i + (k - cursor)) 0 := by
  rw [byte_eq_getElem _ h, fill, Vector.getElem_ofFn]

theorem word_bytes (s : Sector) (i : Nat) :
    (s.word i).toUInt8 = s.byte i ∧ (s.word i >>> 8).toUInt8 = s.byte (i + 1) := by
  have h := le16_join16 (s.byte i) (s.byte (i + 1))
  simp only [le16, List.cons.injEq, and_true] at h
  exact h

/-- A word put at the cursor is the first one of a fill. -/
theorem fill_setWord (s : Sector) {cursor : Nat} (h : cursor + 1 < 512) (data : Bytes) (i : Nat) :
    (s.setWord cursor (word16 data i)).fill (cursor + 2) data (i + 2) = s.fill cursor data i := by
  have hw := le16_join16 (data.getD i 0) (data.getD (i + 1) 0)
  simp only [le16, List.cons.injEq, and_true] at hw
  apply ext_byte
  intro k hk
  rw [byte_fill _ _ _ _ hk, byte_fill _ _ _ _ hk, byte_setWord s h]
  rcases Nat.lt_trichotomy k cursor with hlt | heq | hgt
  · rw [if_pos (by omega), if_neg (by omega), if_neg (by omega), if_pos hlt]
  · rw [if_pos (by omega), if_pos heq, if_neg (by omega), heq, Nat.sub_self]
    exact hw.1
  · by_cases hnext : k = cursor + 1
    · rw [if_pos (by omega), if_neg (by omega), if_pos hnext, if_neg (by omega), hnext,
        Nat.add_sub_cancel_left]
      exact hw.2
    · rw [if_neg (by omega), if_neg (by omega)]
      congr 1
      omega

/-- A fill from the first byte on leaves nothing of the sector. -/
theorem fill_zero (s : Sector) (data : Bytes) (j : Nat) :
    s.fill 0 data (j * 512) = Sectors.ofRun data j := by
  apply ext_byte
  intro k hk
  rw [byte_fill _ _ _ _ hk, if_neg (by omega), Sectors.ofRun, byte_ofBytes _ hk,
    getD_sectorBytes _ _ hk, Nat.sub_zero]

/-- The rest of a sector starts with its next two bytes. -/
theorem push_word_append (s : Sector) (acc : Bytes) {cursor : Nat} (h : cursor + 1 < 512) :
    ((acc.push (s.word cursor).toUInt8).push (s.word cursor >>> 8).toUInt8)
        ++ s.toBytes.extract (cursor + 2) 512
      = acc ++ s.toBytes.extract cursor 512 := by
  obtain ⟨hlow, hhigh⟩ := word_bytes s cursor
  rw [hlow, hhigh, ← Array.append_singleton, ← Array.append_singleton, Array.append_assoc,
    Array.append_assoc]
  congr 1
  apply ext_getD
  · simp only [Array.size_append, Array.size_extract, size_toBytes, List.size_toArray,
      List.length_singleton]
    omega
  intro k hk
  have hsize : (#[s.byte cursor] : Bytes).size = 1 := rfl
  have hsize' : (#[s.byte (cursor + 1)] : Bytes).size = 1 := rfl
  rw [getD_append, getD_append, hsize, hsize', getD_extract, getD_extract, getD_toBytes,
    getD_toBytes]
  rcases Nat.lt_trichotomy k 1 with hlt | heq | hgt
  · have : k = 0 := by omega
    subst this
    rw [if_pos hlt, if_pos (by omega)]
    rfl
  · subst heq
    rw [if_neg (by omega), if_pos (by omega), if_pos (by omega)]
    rfl
  · rw [if_neg (by omega), if_neg (by omega)]
    by_cases hin : k < 512 - cursor
    · rw [if_pos (by omega), if_pos hin]
      congr 1
      omega
    · rw [if_neg (by omega), if_neg hin]

end Sector

namespace Wire

variable {id : ChannelId} {c : BusChannel} {p : Position} {t : TaskFile} {d : Drive} {b : Bus}

/-! ## §2 Reading -/

/-- A transfer that is due goes on while the buffer has words left. -/
theorem dataReady_of_lt (hdue : t.status.dataRequest = true) (hcursor : t.cursor < 512) :
    t.dataReady = true := by
  rw [TaskFile.dataReady, hdue, Bool.true_and]
  exact decide_eq_true hcursor

theorem readWords_engaged {n : Nat} (h : b.channel id = c.engaged p t d)
    (hdue : t.status.dataRequest = true) (hcursor : t.cursor + 2 * (n + 1) = 512) (acc : Bytes) :
    ∃ b', readWords (Register.data.port id) (n + 1) acc b
        = (acc ++ t.buffer.toBytes.extract t.cursor 512, b')
      ∧ b.Turned id
          (c.engaged p (TaskFile.advanceRead { t with cursor := 512 } d b.latency) d) b' := by
  induction n generalizing b t acc with
  | zero =>
    have hready : t.dataReady = true := dataReady_of_lt hdue (by omega)
    have hlast : t.cursor + 2 = 512 := by omega
    have hturned := Bus.turned_readWord id b
    have hfst := Bus.readWord_fst id b
    rw [h, BusChannel.readWord_engaged, TaskFile.readWord, if_pos hready] at hturned hfst
    simp only [hlast, if_true] at hturned hfst
    refine ⟨(PortSpace.readWord (Register.data.port id) b).2, ?_, hturned⟩
    have hrest : t.buffer.toBytes.extract (t.cursor + 2) 512 = #[] := by
      rw [hlast]
      exact Array.extract_empty_of_size_le_start (by rw [Sector.size_toBytes])
    have happend := Sector.push_word_append t.buffer acc (show t.cursor + 1 < 512 by omega)
    rw [hrest, Array.append_empty] at happend
    simp only [readWords, hfst, happend]
  | succ n ih =>
    have hready : t.dataReady = true := dataReady_of_lt hdue (by omega)
    have hmore : t.cursor + 2 ≠ 512 := by omega
    have hturned := Bus.turned_readWord id b
    have hfst := Bus.readWord_fst id b
    rw [h, BusChannel.readWord_engaged, TaskFile.readWord, if_pos hready] at hturned hfst
    simp only [hmore, if_false] at hturned hfst
    obtain ⟨b', hb', hturned'⟩ := ih (t := { t with cursor := t.cursor + 2 }) hturned.channel hdue
      (by simp only; omega)
      ((acc.push (t.buffer.word t.cursor).toUInt8).push (t.buffer.word t.cursor >>> 8).toUInt8)
    rw [hturned.latency] at hturned'
    refine ⟨b', ?_, hturned.trans hturned'⟩
    rw [Sector.push_word_append t.buffer acc (by omega), ← hfst] at hb'
    exact hb'

/-- **A sector is received as it stands in the buffer.** -/
theorem readSectorData_engaged (h : b.channel id = c.engaged p t d)
    (hdue : t.status.dataRequest = true) (hcursor : t.cursor = 0) (acc : Bytes) :
    ∃ b', readSectorData id acc b = (acc ++ t.buffer.toBytes, b')
      ∧ b.Turned id
          (c.engaged p (TaskFile.advanceRead { t with cursor := 512 } d b.latency) d) b' := by
  obtain ⟨b', hb', hturned⟩ := readWords_engaged (n := 255) h hdue (by omega) acc
  have hall : t.buffer.toBytes.extract t.cursor 512 = t.buffer.toBytes := by
    rw [hcursor]
    exact Array.extract_eq_self_of_le (by rw [Sector.size_toBytes])
  rw [hall] at hb'
  exact ⟨b', hb', hturned⟩

/-! ## §3 Writing -/

theorem writeWord_due {lba : UInt32} {remaining : Nat} (hphase : t.phase = .write lba remaining)
    (hready : t.dataReady = true) (w : UInt16) (latency : Nat) :
    t.writeWord d w latency
      = if t.cursor + 2 < 512 then (t.putWord w, d)
        else (t.putWord w).storeSector d lba remaining latency := by
  rw [TaskFile.writeWord, hphase]
  exact if_pos hready

theorem writeWords_engaged {n : Nat} {lba : UInt32} {remaining : Nat}
    (h : b.channel id = c.engaged p t d) (hphase : t.phase = .write lba remaining)
    (hdue : t.status.dataRequest = true) (hcursor : t.cursor + 2 * (n + 1) = 512) (data : Bytes)
    (i : Nat) :
    let full : TaskFile := { t with buffer := t.buffer.fill t.cursor data i, cursor := 512 }
    b.Turned id (c.engaged p (full.storeSector d lba remaining b.latency).1
        (full.storeSector d lba remaining b.latency).2)
      (writeWords (Register.data.port id) data (n + 1) i b) := by
  induction n generalizing b t i with
  | zero =>
    have hready : t.dataReady = true := dataReady_of_lt hdue (by omega)
    have hlast : t.cursor + 2 = 512 := by omega
    have hfill : t.buffer.setWord t.cursor (LittleEndian.word16 data i)
        = t.buffer.fill t.cursor data i := by
      rw [← Sector.fill_setWord t.buffer (by omega) data i, hlast]
      apply Sector.ext_byte
      intro k hk
      rw [Sector.byte_fill _ _ _ _ hk, if_pos hk]
    have hturned := Bus.turned_writeWord id (LittleEndian.word16 data i) b
    rw [h, BusChannel.writeWord_engaged, writeWord_due hphase hready, if_neg (by omega),
      TaskFile.putWord, hlast, hfill] at hturned
    exact hturned
  | succ n ih =>
    have hready : t.dataReady = true := dataReady_of_lt hdue (by omega)
    have hmore : t.cursor + 2 < 512 := by omega
    have hturned := Bus.turned_writeWord id (LittleEndian.word16 data i) b
    rw [h, BusChannel.writeWord_engaged, writeWord_due hphase hready, if_pos hmore,
      TaskFile.putWord] at hturned
    have hturned' := ih (t := { t with
        buffer := t.buffer.setWord t.cursor (LittleEndian.word16 data i)
        cursor := t.cursor + 2 }) hturned.channel hphase hdue (by simp only; omega) (i + 2)
    simp only [Sector.fill_setWord t.buffer (show t.cursor + 1 < 512 by omega) data i,
      hturned.latency] at hturned'
    exact hturned.trans hturned'

/-- **A sector that was sent stands in the buffer and is stored.** -/
theorem writeSectorData_engaged {lba : UInt32} {remaining : Nat}
    (h : b.channel id = c.engaged p t d) (hphase : t.phase = .write lba remaining)
    (hdue : t.status.dataRequest = true) (hcursor : t.cursor = 0) (data : Bytes) (j : Nat) :
    let full : TaskFile := { t with buffer := Sectors.ofRun data j, cursor := 512 }
    b.Turned id (c.engaged p (full.storeSector d lba remaining b.latency).1
        (full.storeSector d lba remaining b.latency).2)
      (writeSectorData id data (j * 512) b) := by
  have hturned := writeWords_engaged (n := 255) h hphase hdue (by omega) data (j * 512)
  rw [hcursor, Sector.fill_zero] at hturned
  exact hturned

end Wire

end AtaVolume
