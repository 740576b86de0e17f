/-
AtaVolume.Proofs.Volume.Images — the calls on any volume, exactly.

Nothing is assumed about where a volume comes from: its superblock passes the checks,
and the sectors of superblock, bitmap and index table work. What an allocation and a
release then make of the drive is written down sector by sector (`allocated`,
`released`), and so is what the volume tells afterwards (`under_allocated`,
`under_released`). A call that refuses leaves all sectors as they are.
-/
import AtaVolume.Proofs.Volume.Effects
import AtaVolume.Proofs.Volume.Files

namespace AtaVolume

open Superblock
open DriveView (Within)

namespace Volume

variable {sb : Superblock} {m : Sectors}

/-! ## §1 The bitmap of a volume -/

theorem bit_bitmapOf {b : Nat} (hb : b < sb.totalBlocks.toNat) :
    BlockBitmap.bit (bitmapOf sb m).bits b = (Contents.under sb m).used b := by
  rw [bitmapOf, BlockBitmap.bit_ofBytes _ hb]
  simp [Contents.under, hb]

/-- Blocks that do not exist are not used. -/
theorem used_under (sb : Superblock) (m : Sectors) (b : Nat) :
    (Contents.under sb m).used b
      = (decide (b < sb.totalBlocks.toNat) && BlockBitmap.bit (bitmapOf sb m).bits b) := by
  by_cases hb : b < sb.totalBlocks.toNat
  · rw [bit_bitmapOf hb, decide_eq_true hb, Bool.true_and]
  · simp [Contents.under, hb]

theorem size_bits_bitmapOf (sb : Superblock) (m : Sectors) :
    (bitmapOf sb m).bits.size = (sb.totalBlocks.toNat + 7) / 8 :=
  BlockBitmap.size_bits_ofBytes _ _

theorem bitmapOf_congr {m' : Sectors}
    (h : ∀ j, 2 ≤ j → j < 2 + sb.bitmapSectors.toNat → m j = m' j) :
    bitmapOf sb m = bitmapOf sb m' := by
  rw [bitmapOf, Sectors.bytes_congr h, bitmapOf]

/-- The free blocks that are counted, and the used ones, are all there are. -/
theorem freeCount_bitmapOf (sb : Superblock) (m : Sectors) :
    (bitmapOf sb m).freeCount.toNat
      + (List.range sb.totalBlocks.toNat).countP (Contents.under sb m).used
        = sb.totalBlocks.toNat := by
  have hcount : (List.range sb.totalBlocks.toNat).countP
        (fun b => BlockBitmap.bit (m.bytes 2 sb.bitmapSectors.toNat) b)
      = (List.range sb.totalBlocks.toNat).countP (Contents.under sb m).used := by
    refine List.countP_congr fun b hb => ?_
    rw [List.mem_range] at hb
    simp [Contents.under, hb]
  have hle : (List.range sb.totalBlocks.toNat).countP (Contents.under sb m).used
      ≤ sb.totalBlocks.toNat := by
    refine List.countP_le_length.trans ?_
    rw [List.length_range]
  have htotal := sb.totalBlocks.toNat_lt
  have hused := UInt32.toNat_ofNat_of_lt' (show
    (List.range sb.totalBlocks.toNat).countP (Contents.under sb m).used < 2 ^ 32 by omega)
  rw [bitmapOf, BlockBitmap.freeCount_ofBytes, hcount,
    UInt32.toNat_sub_of_le _ _ (by rw [UInt32.le_iff_toNat_le, hused]; exact hle), hused]
  omega

theorem isUsed_bitmapOf {block : UInt32} (h : block.toNat < sb.totalBlocks.toNat) :
    (bitmapOf sb m).isUsed block = (Contents.under sb m).used block.toNat := by
  rw [BlockBitmap.isUsed_of_lt h, bit_bitmapOf h]

/-- The first free block of the data area that a superblock describes. -/
structure FirstFree (sb : Superblock) (κ : Contents) (block : UInt32) : Prop where
  data : sb.dataStartBlock ≤ block
  lt : block < sb.totalBlocks
  free : κ.used block.toNat = false
  least : ∀ k, sb.dataStartBlock.toNat ≤ k → k < block.toNat → κ.used k = true

theorem FirstFree.lt_total {κ : Contents} {block : UInt32} (h : FirstFree sb κ block) :
    block.toNat < sb.totalBlocks.toNat :=
  UInt32.lt_iff_toNat_lt.1 h.lt

/-- The search finds the first free block, if there is one. -/
theorem firstFree_bitmapOf (sb : Superblock) (m : Sectors) :
    (∃ block, (bitmapOf sb m).firstFree sb.dataStartBlock = some block
        ∧ FirstFree sb (Contents.under sb m) block)
      ∨ (bitmapOf sb m).firstFree sb.dataStartBlock = none
        ∧ ∀ b, sb.dataStartBlock.toNat ≤ b → b < sb.totalBlocks.toNat →
          (Contents.under sb m).used b = true := by
  cases hfind : (bitmapOf sb m).firstFree sb.dataStartBlock with
  | none =>
    refine .inr ⟨rfl, fun b hdata hlt => ?_⟩
    rw [← bit_bitmapOf hlt]
    exact BlockBitmap.firstFree_eq_none hfind hdata hlt
  | some block =>
    obtain ⟨hdata, hlt, hfree, hleast⟩ := BlockBitmap.firstFree_eq_some hfind
    have htotal : block.toNat < sb.totalBlocks.toNat := hlt
    refine .inl ⟨block, rfl, UInt32.le_iff_toNat_le.2 hdata, UInt32.lt_iff_toNat_lt.2 hlt, ?_, ?_⟩
    · rw [← bit_bitmapOf htotal]
      exact hfree
    · intro k hk hbefore
      rw [← bit_bitmapOf (by omega)]
      exact hleast k hk hbefore

/-- There is only one first free block. -/
theorem FirstFree.unique {κ : Contents} {block block' : UInt32} (h : FirstFree sb κ block)
    (h' : FirstFree sb κ block') : block = block' := by
  have hdata := UInt32.le_iff_toNat_le.1 h.data
  have hdata' := UInt32.le_iff_toNat_le.1 h'.data
  rcases Nat.lt_trichotomy block.toNat block'.toNat with hlt | heq | hgt
  · have hused := h'.least _ hdata hlt
    rw [h.free] at hused
    cases hused
  · exact UInt32.toNat_inj.1 heq
  · have hused := h.least _ hdata' hgt
    rw [h'.free] at hused
    cases hused

theorem FirstFree.find {block : UInt32} (h : FirstFree sb (Contents.under sb m) block) :
    (bitmapOf sb m).firstFree sb.dataStartBlock = some block := by
  rcases firstFree_bitmapOf sb m with ⟨block', hfind, hfirst⟩ | ⟨-, hfull⟩
  · rw [hfind, h.unique hfirst]
  · have hused := hfull _ (UInt32.le_iff_toNat_le.1 h.data) h.lt_total
    rw [h.free] at hused
    cases hused

/-! ## §2 Marks -/

section Marks

variable (h : 2 + sb.bitmapSectors.toNat ≤ sb.inodeTableLba.toNat)

include h

/-- What a volume tells after its bitmap was written. -/
theorem under_overlay {bitmap : BlockBitmap} (htotal : bitmap.total = sb.totalBlocks)
    (hsize : bitmap.bits.size = (bitmap.total.toNat + 7) / 8) {used : Nat → Bool}
    (hbits : ∀ b, used b = (decide (b < sb.totalBlocks.toNat) && BlockBitmap.bit bitmap.bits b)) :
    Contents.under sb (m.overlay 2 sb.bitmapSectors.toNat (Sectors.ofRun bitmap.toBytes))
      = { Contents.under sb m with used } := by
  have hdata := BlockBitmap.size_toBytes hsize
  have hspan := sb.toNat_bitmapSectors
  rw [htotal, ← hspan] at hdata
  have hused : (Contents.under sb
      (m.overlay 2 sb.bitmapSectors.toNat (Sectors.ofRun bitmap.toBytes))).used = used := by
    funext b
    rw [Contents.used_overlay_bits hdata, hbits]
    by_cases hb : b < sb.totalBlocks.toNat
    · rw [if_pos (by omega), BlockBitmap.bit_toBytes hsize (by rw [htotal]; exact hb)]
    · simp [Contents.under, hb]
  rw [Contents.under_overlay_bits h (Nat.le_refl _), hused]

theorem under_setUsed {block : UInt32} (hblock : block.toNat < sb.totalBlocks.toNat) :
    Contents.under sb (m.overlay 2 sb.bitmapSectors.toNat
        (Sectors.ofRun ((bitmapOf sb m).setUsed block).2.toBytes))
      = (Contents.under sb m).edit (.mark block.toNat true) := by
  have hlength := size_bits_bitmapOf sb m
  have htotal : (bitmapOf sb m).total = sb.totalBlocks := rfl
  refine under_overlay h (BlockBitmap.total_setUsed block) ?_ fun b => ?_
  · rw [BlockBitmap.size_bits_setUsed, BlockBitmap.total_setUsed, hlength, htotal]
  · rw [BlockBitmap.bit_setUsed (by rw [htotal]; exact hblock) (by rw [htotal]; omega)]
    by_cases hb : b = block.toNat
    · rw [hb, Function.update_self, beq_self_eq_true, Bool.or_true, decide_eq_true hblock,
        Bool.true_and]
    · rw [Function.update_of_ne hb, beq_false_of_ne hb, Bool.or_false, used_under]

/-- A block behind the last one has no mark to lose. -/
theorem under_setFree (block : UInt32) :
    Contents.under sb (m.overlay 2 sb.bitmapSectors.toNat
        (Sectors.ofRun ((bitmapOf sb m).setFree block).2.toBytes))
      = (Contents.under sb m).edit (.mark block.toNat false) := by
  have hlength := size_bits_bitmapOf sb m
  have htotal : (bitmapOf sb m).total = sb.totalBlocks := rfl
  refine under_overlay h (BlockBitmap.total_setFree block) ?_ fun b => ?_
  · rw [BlockBitmap.size_bits_setFree, BlockBitmap.total_setFree, hlength, htotal]
  · by_cases hblock : block.toNat < sb.totalBlocks.toNat
    · rw [BlockBitmap.bit_setFree (by rw [htotal]; exact hblock) (by rw [htotal]; omega)]
      by_cases hb : b = block.toNat
      · rw [hb, Function.update_self, bne_self_eq_false, Bool.and_false, Bool.and_false]
      · rw [Function.update_of_ne hb, bne_iff_ne.2 hb, Bool.and_true, used_under]
    · rw [BlockBitmap.setFree, if_pos (by rw [htotal, UInt32.le_iff_toNat_le]; omega)]
      by_cases hb : b = block.toNat
      · rw [hb, Function.update_self, decide_eq_false hblock, Bool.false_and]
      · rw [Function.update_of_ne hb, used_under]

end Marks

/-- A release tells whether the block was marked. -/
theorem setFree_fst_bitmapOf (sb : Superblock) (m : Sectors) (block : UInt32) :
    ((bitmapOf sb m).setFree block).1 = (Contents.under sb m).used block.toNat := by
  have htotal : (bitmapOf sb m).total = sb.totalBlocks := rfl
  by_cases hblock : block.toNat < sb.totalBlocks.toNat
  · rw [BlockBitmap.setFree, if_neg (by rw [htotal, UInt32.le_iff_toNat_le]; omega),
      isUsed_bitmapOf hblock]
    cases (Contents.under sb m).used block.toNat <;> rfl
  · rw [BlockBitmap.setFree, if_pos (by rw [htotal, UInt32.le_iff_toNat_le]; omega)]
    simp [Contents.under, hblock]

/-! ## §3 What changes -/

/-- The superblock after an allocation. -/
def charged (sb : Superblock) : Superblock :=
  { sb with freeInodes := decrease sb.freeInodes
            freeBlocks := decrease sb.freeBlocks
            state := stateClean }

/-- The superblock after a release, of a block that was marked or not. -/
def credited (sb : Superblock) (marked : Bool) : Superblock :=
  { sb with freeInodes := increase sb.freeInodes sb.totalInodes
            freeBlocks := if marked then increase sb.freeBlocks sb.totalBlocks else sb.freeBlocks
            state := stateClean }

/-- The record of a new file. -/
def newRecord (sb : Superblock) (block : UInt32) : Index :=
  { Index.regular with firstBlock := sb.blockLba block }

/-- The sectors before the bitmap of an allocation is written. -/
def opened (sb : Superblock) (m : Sectors) : Sectors :=
  Function.update m 1 { sb with state := stateDirty }.encode

/-- The sectors after an allocation. -/
def allocated (sb : Superblock) (m : Sectors) (i : Fin 128) (block : UInt32) : Sectors :=
  Function.update
    (Function.update
      ((opened sb m).overlay 2 sb.bitmapSectors.toNat
        (Sectors.ofRun ((bitmapOf sb m).setUsed block).2.toBytes))
      (sb.inodeTableLba.toNat + i.val) (newRecord sb block).encode)
    1 (charged sb).encode

/-- The sectors of a release that has emptied the slot and not more. -/
def vacated (sb : Superblock) (m : Sectors) (i : Fin 128) : Sectors :=
  Function.update (opened sb m) (sb.inodeTableLba.toNat + i.val) Index.vacant.encode

/-- The block of the file in a slot. -/
def blockOf (sb : Superblock) (m : Sectors) (i : Fin 128) : UInt32 :=
  sb.lbaBlock ((Contents.under sb m).slot i).firstBlock

/-- The sectors after a release. -/
def released (sb : Superblock) (m : Sectors) (i : Fin 128) : Sectors :=
  Function.update
    ((vacated sb m i).overlay 2 sb.bitmapSectors.toNat
      (Sectors.ofRun ((bitmapOf sb m).setFree (blockOf sb m i)).2.toBytes))
    1 (credited sb ((Contents.under sb m).used (blockOf sb m i).toNat)).encode

section Changes

variable (h : 2 + sb.bitmapSectors.toNat ≤ sb.inodeTableLba.toNat)

include h

omit h in
theorem bitmapOf_opened : bitmapOf sb (opened sb m) = bitmapOf sb m :=
  bitmapOf_congr fun j hj _ => Function.update_of_ne (by omega) _ _

theorem bitmapOf_vacated (i : Fin 128) : bitmapOf sb (vacated sb m i) = bitmapOf sb m := by
  refine (bitmapOf_congr fun j hj hj' => ?_).trans bitmapOf_opened
  exact Function.update_of_ne (by omega) _ _

theorem under_vacated (i : Fin 128) :
    Contents.under sb (vacated sb m i)
      = { Contents.under sb m with
          super := { sb with state := stateDirty }
          slot := Function.update (Contents.under sb m).slot i .vacant } := by
  rw [vacated, Contents.under_update_slot h, opened, Contents.under_update_super h]
  rfl

/-- **What an allocation changes of what the volume tells.** -/
theorem under_allocated (i : Fin 128) {block : UInt32} (hblock : block.toNat < sb.totalBlocks.toNat) :
    Contents.under sb (allocated sb m i block)
      = { super := charged sb
          used := Function.update (Contents.under sb m).used block.toNat true
          slot := Function.update (Contents.under sb m).slot i (newRecord sb block) } := by
  rw [allocated, ← bitmapOf_opened, Contents.under_update_super h, Contents.under_update_slot h,
    under_setUsed h hblock, opened, Contents.under_update_super h]
  rfl

/-- **What a release changes of what the volume tells.** -/
theorem under_released (i : Fin 128) :
    Contents.under sb (released sb m i)
      = { super := credited sb ((Contents.under sb m).used (blockOf sb m i).toNat)
          used := Function.update (Contents.under sb m).used (blockOf sb m i).toNat false
          slot := Function.update (Contents.under sb m).slot i .vacant } := by
  rw [released, ← bitmapOf_vacated h i, Contents.under_update_super h, under_setFree h,
    under_vacated h]
  rfl

end Changes

/-! ## §4 Superblocks that stay usable -/

/-- Counters and state do not matter to the layout. -/
theorem checkLayout_counters (h : sb.checkLayout = .ok ()) {freeBlocks freeInodes : UInt32}
    (hblocks : freeBlocks ≤ sb.totalBlocks) (hinodes : freeInodes ≤ sb.totalInodes)
    (state : UInt8) : { sb with freeBlocks, freeInodes, state }.checkLayout = .ok () := by
  simp only [checkLayout, refused_eq_ok, refuse_eq_ok, not_or, UInt32.not_lt] at h ⊢
  obtain ⟨hsize, ⟨hslots, -⟩, -, hrest⟩ := h
  exact ⟨hsize, ⟨hslots, hinodes⟩, hblocks, hrest⟩

/-- A change is under way on a volume as it was. -/
theorem Mounts.dirty (h : Mounts m sb) : { sb with state := stateDirty }.LaidOut :=
  laidOut_of_checkLayout (checkLayout_counters h.layout h.laidOut.freeBlocks h.laidOut.freeInodes _)

theorem Mounts.charged (h : Mounts m sb) (i : Fin 128) (block : UInt32) :
    Mounts (allocated sb m i block) (charged sb) where
  super := by
    rw [allocated, Function.update_self, decode_encode]
  valid := h.valid
  layout := by
    refine checkLayout_counters h.layout ?_ ?_ _
    · have hle := UInt32.le_iff_toNat_le.1 h.laidOut.freeBlocks
      rw [UInt32.le_iff_toNat_le, toNat_decrease]
      omega
    · have hle := UInt32.le_iff_toNat_le.1 h.laidOut.freeInodes
      rw [UInt32.le_iff_toNat_le, toNat_decrease]
      omega

theorem Mounts.credited (h : Mounts m sb) (i : Fin 128) :
    Mounts (released sb m i)
      (credited sb ((Contents.under sb m).used (blockOf sb m i).toNat)) where
  super := by
    rw [released, Function.update_self, decode_encode]
  valid := h.valid
  layout := by
    refine checkLayout_counters h.layout ?_ ?_ _
    · split
      · rw [UInt32.le_iff_toNat_le, toNat_increase]
        exact Nat.min_le_right _ _
      · exact h.laidOut.freeBlocks
    · rw [UInt32.le_iff_toNat_le, toNat_increase]
      exact Nat.min_le_right _ _

/-! ## §5 Calls that change nothing -/

variable {δ : Type} [BlockDevice δ] {v : DriveView δ} {drive : UInt8} {good : Nat → Prop}

theorem listFiles_succeeds (hv : v.Serves drive good) (hm : Mounts m sb) (hw : Works good sb) :
    Succeeds (v.Holds m) (listFiles drive)
      (IndexTable.ofSlots (Contents.under sb m).slot).used (v.Holds m) :=
  (mount_succeeds hv hw.super hm).bind ((readTable_succeeds hv hw.table).bind (.pure _))

/-- What a check reports. -/
def reportOf (sb : Superblock) (m : Sectors) : CheckReport where
  freeBlocksRecorded := sb.freeBlocks
  freeBlocksCounted := (bitmapOf sb m).freeCount
  freeInodesRecorded := sb.freeInodes
  freeInodesCounted := (IndexTable.ofSlots (Contents.under sb m).slot).freeCount
  problems := problems sb (bitmapOf sb m) (.ofSlots (Contents.under sb m).slot)

theorem check_succeeds (hv : v.Serves drive good) (hm : Mounts m sb) (hw : Works good sb) :
    Succeeds (v.Holds m) (check drive) (reportOf sb m) (v.Holds m) := by
  refine (mount_succeeds hv hw.super hm).bind ?_
  refine (readBitmap_succeeds hm.laidOut hv hw.bitmap).bind ?_
  exact (readTable_succeeds hv hw.table).bind (.pure _)

/-! ## §6 Allocation -/

/-- **An allocation takes the first free slot and the first free block.** -/
theorem allocate_succeeds (hv : v.Serves drive good) (hm : Mounts m sb) (hw : Works good sb)
    {i : Fin 128} (hi : (Contents.under sb m).FirstSlot i) {block : UInt32}
    (hblock : FirstFree sb (Contents.under sb m) block) :
    Succeeds (v.Holds m) (allocate drive) (UInt32.ofNat i.val, newRecord sb block)
      (v.Holds (allocated sb m i block)) := by
  have hsb := hm.laidOut
  have hsize : ((bitmapOf sb m).setUsed block).2.bits.size
      = (((bitmapOf sb m).setUsed block).2.total.toNat + 7) / 8 := by
    rw [BlockBitmap.size_bits_setUsed, BlockBitmap.total_setUsed]
    exact size_bits_bitmapOf sb m
  have hwriteBitmap : Succeeds (v.Holds (opened sb m))
      (writeBitmap drive { sb with state := stateDirty } ((bitmapOf sb m).setUsed block).2) () _ :=
    writeBitmap_succeeds hsb hv hw.bitmap (BlockBitmap.total_setUsed block) hsize
  unfold allocate
  refine (mount_succeeds hv hw.super hm).bind ?_
  refine (readBitmap_succeeds hsb hv hw.bitmap).bind ?_
  refine (readTable_succeeds hv hw.table).bind ?_
  simp only [hi.findFree, hblock.find]
  refine (newIndex_succeeds hv).bind ?_
  refine (writeSuper_succeeds hv hw.super _).bind ?_
  refine hwriteBitmap.bind ?_
  refine (writeSlot_succeeds hsb hv i (hw.table _ (by omega) (by omega)) _).bind ?_
  refine (writeSuper_succeeds hv hw.super _).bind ?_
  exact (note_succeeds hv _).bind (.pure _)

/-- Without a free slot there is no allocation. -/
theorem allocate_inodeFull (hv : v.Serves drive good) (hm : Mounts m sb) (hw : Works good sb)
    (hfull : ∀ i, ((Contents.under sb m).slot i).isFree = false) :
    Fails (v.Holds m) (allocate drive) (· = .inodeFull) (v.Holds m) := by
  refine (mount_succeeds hv hw.super hm).fails ?_
  refine (readBitmap_succeeds hm.laidOut hv hw.bitmap).fails ?_
  refine (readTable_succeeds hv hw.table).fails ?_
  simp only [IndexTable.findFree_of_used hfull]
  exact .throw rfl

/-- Without a free block there is no allocation. -/
theorem allocate_diskFull (hv : v.Serves drive good) (hm : Mounts m sb) (hw : Works good sb)
    {i : Fin 128} (hi : (Contents.under sb m).FirstSlot i)
    (hfull : (bitmapOf sb m).firstFree sb.dataStartBlock = none) :
    Fails (v.Holds m) (allocate drive) (· = .diskFull) (v.Holds m) := by
  refine (mount_succeeds hv hw.super hm).fails ?_
  refine (readBitmap_succeeds hm.laidOut hv hw.bitmap).fails ?_
  refine (readTable_succeeds hv hw.table).fails ?_
  simp only [hi.findFree, hfull]
  exact .throw rfl

/-! ## §7 Release -/

/-- **A release frees the slot of a file and then its block.** -/
theorem release_succeeds (hv : v.Serves drive good) (hm : Mounts m sb) (hw : Works good sb)
    {i : Fin 128} (hi : ((Contents.under sb m).slot i).isFree = false) :
    Succeeds (v.Holds m) (release drive (UInt32.ofNat i.val)) ((Contents.under sb m).slot i)
      (v.Holds (released sb m i)) := by
  have hsb := hm.laidOut
  have hslot := hw.table (sb.inodeTableLba.toNat + i.val) (by omega) (by omega)
  have hbitmap := bitmapOf_vacated (m := m) hsb.before_data.2.1 i
  have hreadBitmap : Succeeds (v.Holds (vacated sb m i))
      (readBitmap drive { sb with state := stateDirty }) (bitmapOf sb (vacated sb m i)) _ :=
    readBitmap_succeeds hm.dirty hv hw.bitmap
  have hsize : ((bitmapOf sb m).setFree (blockOf sb m i)).2.bits.size
      = (((bitmapOf sb m).setFree (blockOf sb m i)).2.total.toNat + 7) / 8 := by
    rw [BlockBitmap.size_bits_setFree, BlockBitmap.total_setFree]
    exact size_bits_bitmapOf sb m
  have hwriteBitmap : Succeeds (v.Holds (vacated sb m i))
      (writeBitmap drive { sb with state := stateDirty }
        ((bitmapOf sb m).setFree (blockOf sb m i)).2) () _ :=
    writeBitmap_succeeds hsb hv hw.bitmap (BlockBitmap.total_setFree _) hsize
  have hblock : { sb with state := stateDirty }.lbaBlock
      ((Contents.under sb m).slot i).firstBlock = blockOf sb m i := rfl
  rw [hbitmap] at hreadBitmap
  unfold release
  refine (mount_succeeds hv hw.super hm).bind ?_
  refine (readSlot_succeeds hsb hv i hslot).bind ?_
  simp only [hi, Bool.false_eq_true, if_false]
  refine (writeSuper_succeeds hv hw.super _).bind ?_
  refine (writeSlot_succeeds hsb hv i hslot _).bind ?_
  refine hreadBitmap.bind ?_
  rw [hblock, setFree_fst_bitmapOf]
  refine hwriteBitmap.bind ?_
  exact (writeSuper_succeeds hv hw.super _).bind (.pure _)

/-- A slot that does not exist holds no file. -/
theorem release_beyond (hv : v.Serves drive good) (hm : Mounts m sb) (hw : Works good sb)
    {inode : UInt32} (h : 128 ≤ inode.toNat) :
    Fails (v.Holds m) (release drive inode) (· = .invalidInode inode) (v.Holds m) :=
  (mount_succeeds hv hw.super hm).fails (readSlot_fails hm.laidOut h).bind

/-- Neither does a free one. -/
theorem release_free (hv : v.Serves drive good) (hm : Mounts m sb) (hw : Works good sb)
    {i : Fin 128} (hi : ((Contents.under sb m).slot i).isFree = true) :
    Fails (v.Holds m) (release drive (UInt32.ofNat i.val))
      (· = .invalidInode (UInt32.ofNat i.val)) (v.Holds m) := by
  refine (mount_succeeds hv hw.super hm).fails ?_
  refine (readSlot_succeeds hm.laidOut hv i (hw.table _ (by omega) (by omega))).fails ?_
  simp only [hi, if_true]
  exact Fails.bind (.throw rfl)

/-- A release that cannot read the bitmap has emptied the slot, and no more. -/
theorem release_cut (hv : v.Serves drive good) (hg : v.Guards drive good) (hm : Mounts m sb)
    (hsuper : good 1) (htable : Within good sb.inodeTableLba.toNat 128)
    (hbitmap : ¬ Within good 2 sb.bitmapSectors.toNat) {i : Fin 128}
    (hi : ((Contents.under sb m).slot i).isFree = false) :
    Fails (v.Holds m) (release drive (UInt32.ofNat i.val)) (fun e => ∃ cause, e = .io cause)
      (v.Holds (vacated sb m i)) := by
  have hsb := hm.laidOut
  have hslot := htable (sb.inodeTableLba.toNat + i.val) (by omega) (by omega)
  refine (mount_succeeds hv hsuper hm).fails ?_
  refine (readSlot_succeeds hsb hv i hslot).fails ?_
  simp only [hi, Bool.false_eq_true, if_false]
  refine (writeSuper_succeeds hv hsuper _).fails ?_
  refine (writeSlot_succeeds hsb hv i hslot _).fails ?_
  exact (readBitmap_fails hm.dirty hv hg hbitmap).bind

end Volume

end AtaVolume
