/-
AtaVolume.Proofs.Volume.Table — the index table as a function of its slots.

A table that was read is the list of its slots' records (`ofBytes_bytes`).
Seen as a function from slots to records, the first free slot, the number of
free slots and the list of files are what their names say.
-/
import Mathlib.Data.List.FinRange
import AtaVolume.Proofs.Bytes.Sectors
import AtaVolume.Proofs.Volume.Records

namespace AtaVolume

namespace IndexTable

/-- The table with these records. -/
def ofSlots (slot : Fin 128 → Index) : IndexTable := List.ofFn slot

@[simp] theorem length_ofSlots (slot : Fin 128 → Index) : (ofSlots slot).length = 128 :=
  List.length_ofFn

@[simp] theorem getElem_ofSlots (slot : Fin 128 → Index) {k : Nat}
    (h : k < (ofSlots slot).length) :
    (ofSlots slot)[k] = slot ⟨k, by rwa [length_ofSlots] at h⟩ :=
  List.getElem_ofFn h

/-- The table that lies in the 128 sectors from `lba` on. -/
theorem ofBytes_bytes (m : Sectors) (lba : Nat) :
    ofBytes (m.bytes lba 128) = ofSlots fun i => Index.ofBytes (m (lba + i.val)).toBytes := by
  have hcount : wholeSectors (m.bytes lba 128) = 128 := by
    show (m.bytes lba 128).size / 512 = 128
    rw [Sectors.size_bytes]
  rw [ofBytes, hcount, ofSlots, List.ofFn_eq_map, ← List.map_coe_finRange_eq_range, List.map_map]
  apply List.map_congr_left
  intro i _
  rw [Function.comp_apply, Sectors.sectorBytes_bytes m lba i.isLt]

variable {slot : Fin 128 → Index}

theorem toNat_slot (i : Fin 128) : (UInt32.ofNat i.val).toNat = i.val :=
  UInt32.toNat_ofNat_of_lt' (show i.val < 2 ^ 32 by omega)

/-- Where the table ends below 2³² sectors, each slot has its sector. -/
theorem slotLba_of_le {tableLba : UInt32} (h : tableLba.toNat + 128 ≤ 2 ^ 32) (i : Fin 128) :
    ∃ lba, slotLba tableLba (UInt32.ofNat i.val) = .ok lba
      ∧ lba.toNat = tableLba.toNat + i.val := by
  have hi := toNat_slot i
  have hlt : tableLba.toNat + (UInt32.ofNat i.val).toNat < 2 ^ 32 := by omega
  refine ⟨_, if_pos hlt, ?_⟩
  rw [UInt32.toNat_add, Nat.mod_eq_of_lt hlt, hi]

theorem slot_injective {i j : Fin 128} (h : UInt32.ofNat i.val = UInt32.ofNat j.val) : i = j := by
  have hnat := congrArg UInt32.toNat h
  rw [toNat_slot, toNat_slot] at hnat
  exact Fin.ext hnat

/-- The slot that is found is one of the table. -/
theorem findFree_lt {t : IndexTable} (h : t.findFree = some inode) (hlength : t.length = 128) :
    inode.toNat < 128 := by
  obtain ⟨k, hk, rfl⟩ := Option.map_eq_some_iff.1 h
  obtain ⟨hlt, -⟩ := List.findIdx?_eq_some_iff_getElem.1 hk
  rw [hlength] at hlt
  rwa [UInt32.toNat_ofNat_of_lt' (show k < 2 ^ 32 by omega)]

/-- **The slot that is found is the first free one.** -/
theorem findFree_eq_some {inode : UInt32} (h : (ofSlots slot).findFree = some inode) :
    ∃ i : Fin 128, inode = UInt32.ofNat i.val ∧ (slot i).isFree = true
      ∧ ∀ j, j < i → (slot j).isFree = false := by
  obtain ⟨k, hk, rfl⟩ := Option.map_eq_some_iff.1 h
  obtain ⟨hlt, hfree, hused⟩ := List.findIdx?_eq_some_iff_getElem.1 hk
  rw [getElem_ofSlots] at hfree
  rw [length_ofSlots] at hlt
  refine ⟨⟨k, hlt⟩, rfl, hfree, fun j hj => ?_⟩
  have := hused j.val hj
  rw [getElem_ofSlots] at this
  exact Bool.eq_false_iff.2 this

theorem findFree_of_used (h : ∀ i, (slot i).isFree = false) : (ofSlots slot).findFree = none := by
  rw [findFree, Option.map_eq_none_iff, List.findIdx?_eq_none_iff]
  intro r hr
  obtain ⟨i, rfl⟩ := List.mem_ofFn.1 hr
  exact h i

theorem findFree_eq_none (h : (ofSlots slot).findFree = none) (i : Fin 128) :
    (slot i).isFree = false := by
  have hnone := List.findIdx?_eq_none_iff.1 (Option.map_eq_none_iff.1 h)
  exact hnone (slot i) (List.mem_ofFn.2 ⟨i, rfl⟩)

theorem freeCount_ofSlots :
    (ofSlots slot).freeCount
      = UInt32.ofNat ((List.finRange 128).countP fun i => (slot i).isFree) := by
  rw [freeCount, ofSlots, List.ofFn_eq_map, List.countP_map]
  rfl

/-- The files are the used slots in order. -/
theorem used_ofSlots :
    (ofSlots slot).used
      = (List.finRange 128).filterMap fun i =>
          if (slot i).isFree then none else some (UInt32.ofNat i.val, slot i) := by
  have hzip : (ofSlots slot).zipIdx = (List.finRange 128).map fun i => (slot i, i.val) := by
    apply List.ext_getElem
    · rw [List.length_zipIdx, length_ofSlots, List.length_map, List.length_finRange]
    · intro k _ _
      rw [List.getElem_zipIdx, getElem_ofSlots, List.getElem_map, List.getElem_finRange,
        Nat.zero_add]
      rfl
  rw [used, hzip, List.filter_map, List.map_map, ← List.filterMap_eq_map, List.filterMap_filter]
  congr 1
  funext i
  cases h : (slot i).isFree <;> simp [h]

/-- A file is listed with its slot and its record. -/
theorem mem_used_ofSlots {f : UInt32 × Index} :
    f ∈ (ofSlots slot).used ↔ ∃ i, (slot i).isFree = false ∧ f = (UInt32.ofNat i.val, slot i) := by
  rw [used_ofSlots, List.mem_filterMap]
  constructor
  · rintro ⟨i, -, hi⟩
    obtain ⟨hused, hfile⟩ := Option.ite_none_left_eq_some.1 hi
    exact ⟨i, Bool.eq_false_of_not_eq_true hused, (Option.some.inj hfile).symm⟩
  · rintro ⟨i, hused, rfl⟩
    exact ⟨i, List.mem_finRange i, by rw [hused]; rfl⟩

/-- The slots of the files increase. -/
theorem pairwise_used_ofSlots :
    (ofSlots slot).used.Pairwise fun f g => f.1.toNat < g.1.toNat := by
  rw [used_ofSlots]
  refine (List.pairwise_lt_finRange 128).filterMap _ fun i j hij f hf g hg => ?_
  obtain ⟨-, hi⟩ := Option.ite_none_left_eq_some.1 hf
  obtain ⟨-, hj⟩ := Option.ite_none_left_eq_some.1 hg
  rw [← Option.some.inj hi, ← Option.some.inj hj, toNat_slot, toNat_slot]
  exact hij

/-- Each slot is free or has a file. -/
theorem length_used_ofSlots :
    (ofSlots slot).used.length + (List.finRange 128).countP (fun i => (slot i).isFree) = 128 := by
  have hsplit := (List.finRange 128).length_eq_countP_add_countP fun i => (slot i).isFree
  have hfiles : (ofSlots slot).used.length
      = (List.finRange 128).countP fun i => decide ¬ (slot i).isFree = true := by
    rw [used_ofSlots, List.length_filterMap_eq_countP]
    refine List.countP_congr fun i _ => ?_
    cases h : (slot i).isFree <;> simp
  rw [List.length_finRange] at hsplit
  omega

end IndexTable

end AtaVolume
