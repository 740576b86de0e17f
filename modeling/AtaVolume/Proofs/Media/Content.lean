/-
AtaVolume.Proofs.Media.Content — the three kinds of media show one behaviour.

`Medium.content` is what a medium holds, sector by sector. Reading a sector
that the medium has gives its content and writing one replaces it
(`readSector_eq`, `writeSector_eq`), for all kinds alike; `Medium.put` is the
medium after the write.
-/
import AtaVolume.Media.Medium
import AtaVolume.Proofs.Bytes.Sectors

namespace AtaVolume

/-- A write to a file replaces one piece of it. -/
theorem FileContent.piece_writePiece (f : FileContent) (k : Nat) (data : Sector) (j : Nat) :
    (f.writePiece k data).piece j = if j = k then data else f.piece j := by
  simp only [piece, writePiece, Std.HashMap.getD_insert, beq_iff_eq, eq_comm (a := k)]

namespace Medium

/-- The number of sectors. -/
def capacity (medium : Medium) : Nat := medium.sectorCount.toNat

/-- What the medium holds; zeros past its end. -/
def content : Medium → Sectors
  | .memory m => fun j => m.sectors.getD j Sector.zero
  | .sparse m => fun j =>
    if j < m.capacity.toNat then m.written.getD (UInt32.ofNat j) Sector.zero else Sector.zero
  | .file m => fun j => if j < m.capacity.toNat then m.content.piece j else Sector.zero

/-- The medium with sector `lba`, which it has, replaced. -/
def put (lba : UInt32) (data : Sector) : Medium → Medium
  | .memory m => .memory (MemoryMedium.put lba data m)
  | .sparse m => .sparse { m with written := m.written.insert lba data }
  | .file m => .file { m with content := m.content.writePiece lba.toNat data }

theorem capacity_memory (m : MemoryMedium) : (memory m).capacity = m.sectors.size :=
  UInt32.toNat_ofNat_of_lt m.size_lt

/-- The medium has a sector exactly if it reads. -/
theorem readSector_eq (medium : Medium) (lba : UInt32) :
    medium.readSector lba
      = if lba.toNat < medium.capacity then .ok (medium.content lba.toNat)
        else .error (.beyondEnd lba medium.sectorCount) := by
  cases medium with
  | memory m =>
    rw [capacity_memory]
    simp only [readSector, MemoryMedium.readSector, content, Array.getD_eq_getD_getElem?]
    by_cases h : lba.toNat < m.sectors.size
    · rw [if_pos h, Array.getElem?_eq_getElem h]
      rfl
    · rw [if_neg h, Array.getElem?_eq_none (by omega)]
      rfl
  | sparse m =>
    simp only [readSector, SparseMedium.readSector, content, capacity, sectorCount,
      SparseMedium.sectorCount, UInt32.lt_iff_toNat_lt, UInt32.ofNat_toNat]
    by_cases h : lba.toNat < m.capacity.toNat
    · simp only [if_pos h]
    · simp only [if_neg h]
  | file m =>
    simp only [readSector, FileImage.readSector, content, capacity, sectorCount,
      FileImage.sectorCount, UInt32.lt_iff_toNat_lt]
    by_cases h : lba.toNat < m.capacity.toNat
    · simp only [if_pos h]
    · simp only [if_neg h]

/-- The medium takes a sector exactly if it has it. -/
theorem writeSector_eq (medium : Medium) (lba : UInt32) (data : Sector) :
    writeSector lba data medium
      = if lba.toNat < medium.capacity then .ok () (medium.put lba data)
        else .error (.beyondEnd lba medium.sectorCount) medium := by
  cases medium with
  | memory m =>
    rw [capacity_memory]
    simp only [put, writeSector, lift, MemoryMedium.writeSector, sectorCount]
    by_cases h : lba.toNat < m.sectors.size
    · simp only [if_pos h]
    · simp only [if_neg h]
  | sparse m =>
    simp only [put, writeSector, lift, SparseMedium.writeSector, capacity, sectorCount,
      SparseMedium.sectorCount, UInt32.lt_iff_toNat_lt]
    by_cases h : lba.toNat < m.capacity.toNat
    · rw [if_pos h]
      exact (if_pos h).symm
    · rw [if_neg h]
      exact (if_neg h).symm
  | file m =>
    simp only [put, writeSector, lift, FileImage.writeSector, capacity, sectorCount,
      FileImage.sectorCount, UInt32.lt_iff_toNat_lt]
    by_cases h : lba.toNat < m.capacity.toNat
    · rw [if_pos h]
      exact (if_pos h).symm
    · rw [if_neg h]
      exact (if_neg h).symm

@[simp] theorem sectorCount_put (lba : UInt32) (data : Sector) (medium : Medium) :
    (medium.put lba data).sectorCount = medium.sectorCount := by
  cases medium with
  | memory m =>
    simp only [put, sectorCount, MemoryMedium.sectorCount, MemoryMedium.put,
      Array.size_setIfInBounds]
  | sparse m => rfl
  | file m => rfl

@[simp] theorem capacity_put (lba : UInt32) (data : Sector) (medium : Medium) :
    (medium.put lba data).capacity = medium.capacity := by
  rw [capacity, sectorCount_put, capacity]

/-- A write leaves a medium on its file, in which one piece is replaced. -/
theorem file?_put (lba : UInt32) (data : Sector) (medium : Medium) :
    (medium.put lba data).file? = medium.file?.map fun f => f.writePiece lba.toNat data := by
  cases medium <;> rfl

/-- A write changes the one sector that it names. -/
theorem content_put {medium : Medium} {lba : UInt32} (h : lba.toNat < medium.capacity)
    (data : Sector) :
    (medium.put lba data).content = Function.update medium.content lba.toNat data := by
  funext j
  cases medium with
  | memory m =>
    rw [capacity_memory] at h
    simp only [put, content, MemoryMedium.put, Array.getD_eq_getD_getElem?,
      Array.getElem?_setIfInBounds, Function.update_apply]
    by_cases hj : j = lba.toNat
    · rw [if_pos hj.symm, if_pos h, if_pos hj]
      rfl
    · rw [if_neg (Ne.symm hj), if_neg hj]
  | sparse m =>
    have h : lba.toNat < m.capacity.toNat := h
    have hlt := m.capacity.toNat_lt
    simp only [put, content, Std.HashMap.getD_insert, Function.update_apply, beq_iff_eq]
    by_cases hj : j = lba.toNat
    · rw [if_pos hj, hj, if_pos h, if_pos (UInt32.ofNat_toNat).symm]
    · rw [if_neg hj]
      by_cases hc : j < m.capacity.toNat
      · have hne : lba ≠ UInt32.ofNat j := by
          intro he
          rw [he, UInt32.toNat_ofNat_of_lt' (Nat.lt_trans hc hlt)] at hj
          exact hj rfl
        rw [if_pos hc, if_pos hc, if_neg hne]
      · rw [if_neg hc, if_neg hc]
  | file m =>
    have h : lba.toNat < m.capacity.toNat := h
    simp only [put, content, FileContent.piece_writePiece, Function.update_apply]
    by_cases hj : j = lba.toNat
    · rw [if_pos hj, hj, if_pos h, if_pos rfl]
    · rw [if_neg hj, if_neg hj]

/-- A new sparse medium holds nothing. -/
theorem content_blank (n : UInt32) : (sparse (.blank n)).content = fun _ => Sector.zero := by
  funext j
  simp only [content, SparseMedium.blank, Std.HashMap.getD_empty, ite_self]

end Medium

end AtaVolume
