/-
AtaVolume.Proofs.Volume.Overwriting — how a block is lost without a trace.

A release that is cut may leave an empty slot, a marked block and the counters as they
were. On a full volume no file is recorded as free, so a file that is made in this slot is
not recorded either, and all counters are right again (`Consistent.overwritten`). What is
left is a marked block that belongs to no file (`unowned_overwritten`).
-/
import AtaVolume.Proofs.Volume.CleanSessions

namespace AtaVolume

open Superblock

namespace FileMap

/-! ## §1 Volumes with the files of a map -/

variable {size : UInt32} {m : FileMap size}

/-- **A volume with the files of a map is consistent.** -/
theorem consistent_contents (h : Ordered size) (m : FileMap size) :
    Volume.Consistent m.contents.super m.contents where
  state := rfl
  blocks := by
    have hroom := h.room
    have hcount := m.count_le
    have hlt : blockCount size < 2 ^ 32 := (forSize size).totalBlocks.toNat_lt
    have htotal : m.contents.super.totalBlocks.toNat = blockCount size := rfl
    have hfree : m.contents.super.freeBlocks = UInt32.ofNat (blockCount size - m.count) := rfl
    rw [htotal, hfree, used_contents, countP_uses,
      UInt32.toNat_ofNat_of_lt' (show _ < 2 ^ 32 by omega)]
    omega
  inodes := by
    have hfree : m.contents.super.freeInodes = UInt32.ofNat (128 - m.count) := rfl
    rw [hfree, slot_contents, countP_isFree, UInt32.toNat_ofNat_of_lt' (show _ < 2 ^ 32 by omega)]
  files i hi := by
    show Volume.InOrder _ m.contents (m.record i)
    cases hb : m.block i with
    | none =>
      rw [slot_contents, record_of_none hb, Index.isFree_vacant] at hi
      cases hi
    | some b =>
      obtain ⟨hdata, hlt⟩ := m.inData hb
      have hplace : m.contents.super.lbaBlock (Index.fileAt size b).firstBlock = UInt32.ofNat b :=
        lbaBlock_counted h hlt
      rw [record_of_some hb]
      refine ⟨rfl, ?_, ?_, ?_⟩
      · rw [hplace, UInt32.le_iff_toNat_le, toNat_block hlt]
        exact hdata
      · rw [hplace, UInt32.lt_iff_toNat_lt, toNat_block hlt]
        exact hlt
      · rw [hplace, toNat_block hlt, used_contents]
        exact uses_iff.2 ⟨i, hb⟩

/-- No two of them share a block. -/
theorem separate_contents (h : Ordered size) (m : FileMap size) :
    Volume.Separate m.contents.super m.contents := by
  intro i j hi hj heq
  rw [slot_contents] at hi hj heq
  rw [isFree_record] at hi hj
  cases hb : m.block i with
  | none =>
    rw [hb] at hi
    cases hi
  | some b =>
    cases hc : m.block j with
    | none =>
      rw [hc] at hj
      cases hj
    | some c =>
      have hlt := (m.inData hb).2
      have hlt' := (m.inData hc).2
      rw [record_of_some hb, record_of_some hc] at heq
      have hplace : UInt32.ofNat b = UInt32.ofNat c :=
        (lbaBlock_counted h hlt).symm.trans (heq.trans (lbaBlock_counted h hlt'))
      have hbc : b = c := by
        rw [← toNat_block hlt, hplace, toNat_block hlt']
      rw [← hbc] at hc
      exact m.injective hb hc

/-- It has a free block. -/
theorem exists_firstFree (h : Ordered size) (m : FileMap size) :
    ∃ block, Volume.FirstFree m.contents.super m.contents block := by
  obtain ⟨b, hb⟩ := m.exists_nextBlock h
  have hnat := toNat_block hb.inData.2
  refine ⟨UInt32.ofNat b, ?_, ?_, ?_, fun k hk hbefore => ?_⟩
  · rw [UInt32.le_iff_toNat_le, hnat]
    exact hb.inData.1
  · rw [UInt32.lt_iff_toNat_lt, hnat]
    exact hb.inData.2
  · rw [hnat, used_contents]
    exact uses_false_iff.2 hb.fresh
  · rw [hnat] at hbefore
    rw [used_contents]
    exact uses_iff.2 (hb.least k hk hbefore)

end FileMap

namespace Volume

/-- **They are as clean a volume as there is.** -/
theorem tidy_of_contents {size : UInt32} (hsize : 1024 ≤ size.toNat) {image : Sectors}
    {m : FileMap size} (h : Contents.of size image = m.contents) : Tidy m.contents.super image := by
  have hordered := layout_ordered size hsize
  have hmountable := m.mountable_contents
  have hunder : Contents.under m.contents.super image = m.contents := h
  refine ⟨⟨congrArg Contents.super h, rfl, ?_⟩, ?_, ?_⟩
  · exact checkLayout_counted size hsize hmountable.blocks hmountable.inodes
  · rw [hunder]
    exact m.consistent_contents hordered
  · rw [hunder]
    exact m.separate_contents hordered

/-! ## §2 A file written over another one -/

variable {sb : Superblock} {κ : Contents} {i : Fin 128} {block : UInt32}

/-- **A lost block is not seen**: on a full volume a file may be written over another one
without a contradiction, if no file is recorded as free. -/
theorem Consistent.overwritten (h : Consistent sb κ) (hsb : sb.LaidOut)
    (hfull : ∀ i, (κ.slot i).isFree = false) (hblock : FirstFree sb κ block) (i : Fin 128) :
    Consistent (charged sb) (afterAllocation sb κ i block) where
  state := rfl
  blocks := countP_charged hblock h.blocks
  inodes := by
    have hnone : sb.freeInodes.toNat = 0 := by
      rw [h.inodes, List.countP_eq_zero]
      intro j _
      rw [hfull j]
      exact Bool.false_ne_true
    have hnone' : (List.finRange 128).countP
        (fun j => (Function.update κ.slot i (newRecord sb block) j).isFree) = 0 := by
      rw [isFree_update, List.countP_eq_zero]
      intro j _
      by_cases hj : j = i
      · rw [hj, Function.update_self]
        exact Bool.false_ne_true
      · rw [Function.update_of_ne hj, hfull j]
        exact Bool.false_ne_true
    show (decrease sb.freeInodes).toNat = _
    rw [toNat_decrease, hnone]
    exact hnone'.symm
  files j hj := by
    simp only [afterAllocation] at hj ⊢
    by_cases hji : j = i
    · rw [hji, Function.update_self]
      exact inOrder_newRecord hsb hblock
    · rw [Function.update_of_ne hji] at hj ⊢
      exact (h.files j hj).allocated hblock

/-- The block of the file that was there is marked as before, -/
theorem used_overwritten (h : Consistent sb κ) (hblock : FirstFree sb κ block)
    (hi : (κ.slot i).isFree = false) :
    (afterAllocation sb κ i block).used (sb.lbaBlock (κ.slot i).firstBlock).toNat = true :=
  ((h.files i hi).allocated hblock).marked

/-- and no file has it. -/
theorem unowned_overwritten (h : Consistent sb κ) (hsb : sb.LaidOut) (hseparate : Separate sb κ)
    (hblock : FirstFree sb κ block) (hi : (κ.slot i).isFree = false) (j : Fin 128)
    (hj : ((afterAllocation sb κ i block).slot j).isFree = false) :
    sb.lbaBlock ((afterAllocation sb κ i block).slot j).firstBlock
      ≠ sb.lbaBlock (κ.slot i).firstBlock := by
  simp only [afterAllocation] at hj ⊢
  by_cases hji : j = i
  · rw [hji, Function.update_self, lbaBlock_newRecord hsb hblock]
    exact (hblock.ne_block (h.files i hi)).symm
  · rw [Function.update_of_ne hji] at hj ⊢
    exact fun heq => hji (hseparate j i hj hi heq)

/-! ## §3 A release that was cut, and an allocation into its slot -/

section Overwritten

variable {m : Sectors}

theorem mounts_vacated (hm : Mounts m sb) (i : Fin 128) :
    Mounts (vacated sb m i) { sb with state := stateDirty } where
  super := congrArg Contents.super (under_vacated hm.laidOut.before_data.2.1 i)
  valid := hm.valid
  layout := checkLayout_counters hm.layout hm.laidOut.freeBlocks hm.laidOut.freeInodes _

theorem slot_vacated (hm : Mounts m sb) (i : Fin 128) :
    (Contents.under sb (vacated sb m i)).slot
      = Function.update (Contents.under sb m).slot i .vacant :=
  congrArg Contents.slot (under_vacated hm.laidOut.before_data.2.1 i)

theorem used_vacated (hm : Mounts m sb) (i : Fin 128) :
    (Contents.under sb (vacated sb m i)).used = (Contents.under sb m).used := by
  rw [under_vacated hm.laidOut.before_data.2.1]

/-- On a full volume the slot is then the only one that is free. -/
theorem firstSlot_vacated (hm : Mounts m sb)
    (hfull : ∀ j, ((Contents.under sb m).slot j).isFree = false) :
    (Contents.under { sb with state := stateDirty } (vacated sb m i)).FirstSlot i := by
  have hslot : (Contents.under { sb with state := stateDirty } (vacated sb m i)).slot
      = Function.update (Contents.under sb m).slot i .vacant := slot_vacated hm i
  constructor
  · rw [hslot, Function.update_self, Index.isFree_vacant]
  · intro j hj
    rw [hslot, Function.update_of_ne (Fin.ne_of_lt hj), hfull j]

/-- The block that is free stays so. -/
theorem firstFree_vacated (hm : Mounts m sb) (hblock : FirstFree sb (Contents.under sb m) block)
    (i : Fin 128) :
    FirstFree { sb with state := stateDirty }
      (Contents.under { sb with state := stateDirty } (vacated sb m i)) block := by
  have hused : (Contents.under { sb with state := stateDirty } (vacated sb m i)).used
      = (Contents.under sb m).used := used_vacated hm i
  refine ⟨hblock.data, hblock.lt, ?_, ?_⟩
  · rw [hused]
    exact hblock.free
  · rw [hused]
    exact hblock.least

/-- What the volume tells in the end is what it would if the file had been written over. -/
theorem under_overwritten (hm : Mounts m sb) (hblock : FirstFree sb (Contents.under sb m) block)
    (i : Fin 128) :
    Contents.under (charged sb) (allocated { sb with state := stateDirty } (vacated sb m i) i block)
      = afterAllocation sb (Contents.under sb m) i block := by
  have hallocated : Contents.under { sb with state := stateDirty }
        (allocated { sb with state := stateDirty } (vacated sb m i) i block)
      = afterAllocation { sb with state := stateDirty } (Contents.under sb (vacated sb m i)) i block :=
    under_allocated hm.laidOut.before_data.2.1 i hblock.lt_total
  refine hallocated.trans ?_
  rw [afterAllocation, slot_vacated hm, used_vacated hm, Function.update_idem]
  rfl

/-- **A check does not see that a block is lost.** -/
theorem Tidy.overlooks (h : Tidy sb m) (hfull : ∀ j, ((Contents.under sb m).slot j).isFree = false)
    (hblock : FirstFree sb (Contents.under sb m) block) (i : Fin 128) :
    let image := Volume.allocated { sb with state := stateDirty } (vacated sb m i) i block
    (reportOf (charged sb) image).problems = []
      ∧ (bitmapOf (charged sb) image).isUsed (blockOf sb m i) = true
      ∧ ∀ f ∈ (IndexTable.ofSlots (Contents.under (charged sb) image).slot).used,
        (charged sb).lbaBlock f.2.firstBlock ≠ blockOf sb m i := by
  intro image
  have hsb := h.mounts.laidOut
  have hunder : Contents.under (charged sb) image = afterAllocation sb (Contents.under sb m) i block :=
    under_overwritten h.mounts hblock i
  have hlt : (blockOf sb m i).toNat < (charged sb).totalBlocks.toNat :=
    UInt32.lt_iff_toNat_lt.1 (h.consistent.files i (hfull i)).lt
  refine ⟨?_, ?_, ?_⟩
  · rw [problems_eq_nil_iff, hunder]
    exact h.consistent.overwritten hsb hfull hblock i
  · rw [isUsed_bitmapOf hlt, hunder]
    exact used_overwritten h.consistent hblock (hfull i)
  · rw [forall_mem_used_ofSlots, hunder]
    exact unowned_overwritten h.consistent hsb h.separate hblock (hfull i)

end Overwritten

end Volume

end AtaVolume
