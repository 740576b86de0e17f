/-
AtaVolume.Proofs.Volume.Calls — what the calls on a volume do.

Each call is followed once through its device calls. An allocation and a release
perform their edits; a call without a slot, a block or a file for it refuses.
All of this holds whatever the counters and the state of the superblock are, as
long as it can be mounted (`Contents.Mountable`).
-/
import AtaVolume.Proofs.Volume.Files
import AtaVolume.Volume.Check

namespace AtaVolume

open Superblock Contents

theorem Superblock.verify_self (sb : Superblock) : sb.verify sb = .ok () := by
  simp [verify, verifiedFields]

namespace Volume

variable {δ : Type} [BlockDevice δ] {v : DriveView δ} {drive : UInt8} {fails : Prop}
  {κ : Contents} {freeBlocks freeInodes : UInt32} {state : UInt8}

/-! ## §1 Volumes in use -/

theorem mount_performs (hv : v.Stores drive fails) (hsize : 1024 ≤ v.size.toNat)
    (hκ : Mountable v.size κ freeBlocks freeInodes state) :
    v.Performs fails κ (mount drive) [] (· = counted v.size freeBlocks freeInodes state) := by
  refine (readSuper_performs hv (layout_ordered _ hsize)).then ?_
  rintro _ rfl
  rw [hκ.super, checkLayout_counted _ hsize hκ.blocks hκ.inodes]
  by_cases hstate : (counted v.size freeBlocks freeInodes state).state ≠ stateClean
  · simp only [isValid_counted, Bool.not_true, Bool.false_eq_true, if_false, if_pos hstate]
    exact (note_performs hv _).then fun _ _ => .pure rfl
  · simp only [isValid_counted, Bool.not_true, Bool.false_eq_true, if_false, if_neg hstate]
    exact .pure rfl

/-- The files that are listed are those in the table. -/
theorem listFiles_performs (hv : v.Stores drive fails) (hsize : 1024 ≤ v.size.toNat)
    (hκ : Mountable v.size κ freeBlocks freeInodes state) :
    v.Performs fails κ (listFiles drive) [] (· = (IndexTable.ofSlots κ.slot).used) := by
  refine (mount_performs hv hsize hκ).then ?_
  rintro _ rfl
  refine (readTable_performs hv (layout_ordered _ hsize)).then ?_
  rintro _ rfl
  exact .pure rfl

/-- What a check compares. -/
theorem check_performs (hv : v.Stores drive fails) (hsize : 1024 ≤ v.size.toNat)
    (hκ : Mountable v.size κ freeBlocks freeInodes state) :
    v.Performs fails κ (check drive) []
      (fun r => ∃ m : BlockBitmap, m.Agrees v.size κ.used
        ∧ m.freeCount = UInt32.ofNat (blockCount v.size)
          - UInt32.ofNat ((List.range (blockCount v.size)).countP κ.used)
        ∧ r.problems = problems (counted v.size freeBlocks freeInodes state) m
            (.ofSlots κ.slot)) := by
  have h := layout_ordered _ hsize
  refine (mount_performs hv hsize hκ).then ?_
  rintro _ rfl
  refine (readBitmap_performs hv h).then ?_
  rintro m ⟨hm, hcount⟩
  refine (readTable_performs hv h).then ?_
  rintro _ rfl
  exact .pure ⟨m, hm, hcount, rfl⟩

/-! ## §2 Allocation -/

theorem newIndex_performs (hv : v.Stores drive fails) :
    v.Performs fails κ (newIndex drive) [] (· = Index.regular) :=
  (totalSectors_performs hv).then fun _ _ => .pure rfl

/-- **An allocation takes the first free slot and the first free block.** -/
theorem allocate_performs (hv : v.Stores drive fails) (hsize : 1024 ≤ v.size.toNat)
    (hκ : Mountable v.size κ freeBlocks freeInodes state) {i : Fin 128} (hi : κ.FirstSlot i)
    {b : Nat} (hb : FirstBlock v.size κ b) :
    v.Performs fails κ (allocate drive) (allocation v.size freeBlocks freeInodes i b)
      (· = (UInt32.ofNat i.val, Index.fileAt v.size b)) := by
  have h := layout_ordered _ hsize
  have hnat := toNat_block hb.lt
  refine (mount_performs hv hsize hκ).then ?_
  rintro _ rfl
  refine (readBitmap_performs hv h).then ?_
  rintro m ⟨hm, -⟩
  refine (readTable_performs hv h).then ?_
  rintro _ rfl
  have hblock := hb.firstFree hm
    (show (counted v.size freeBlocks freeInodes state).dataStartBlock.toNat = _ from rfl)
  simp only [hi.findFree, hblock]
  refine (newIndex_performs hv).then ?_
  rintro _ rfl
  rw [blockLba_counted h hb.lt]
  have hused : (m.setUsed (UInt32.ofNat b)).2.Agrees v.size (Function.update κ.used b true) := by
    have hset := hm.setUsed (show (UInt32.ofNat b).toNat < blockCount v.size by rw [hnat]; exact hb.lt)
    rwa [hnat] at hset
  have hmark : v.Performs fails (κ.edit (.super (counted v.size freeBlocks freeInodes stateDirty)))
      (writeBitmap drive (counted v.size freeBlocks freeInodes stateDirty)
        (m.setUsed (UInt32.ofNat b)).2) [.mark b true] (fun _ => True) :=
    writeBitmap_performs hv h hb.lt hused
  refine (writeSuper_performs hv h _).bind fun _ _ => ?_
  refine hmark.bind fun _ _ => ?_
  refine (writeSlot_performs hv h i _).bind fun _ _ => ?_
  refine (writeSuper_performs hv h _).bind fun _ _ => ?_
  exact (note_performs hv _).then fun _ _ => .pure rfl

/-- Without a free slot there is no allocation. -/
theorem allocate_refuses_inodeFull (hv : v.Stores drive fails) (hsize : 1024 ≤ v.size.toNat)
    (hκ : Mountable v.size κ freeBlocks freeInodes state)
    (hfull : ∀ i, (κ.slot i).isFree = false) :
    v.Refuses fails κ (allocate drive) .inodeFull := by
  have h := layout_ordered _ hsize
  refine (mount_performs hv hsize hκ).refuses ?_
  rintro _ rfl
  refine (readBitmap_performs hv h).refuses fun m _ => ?_
  refine (readTable_performs hv h).refuses ?_
  rintro _ rfl
  simp only [IndexTable.findFree_of_used hfull]
  exact .throw

/-- Without a free block there is no allocation. -/
theorem allocate_refuses_diskFull (hv : v.Stores drive fails) (hsize : 1024 ≤ v.size.toNat)
    (hκ : Mountable v.size κ freeBlocks freeInodes state) {i : Fin 128} (hi : κ.FirstSlot i)
    (hfull : ∀ b, firstData v.size ≤ b → b < blockCount v.size → κ.used b = true) :
    v.Refuses fails κ (allocate drive) .diskFull := by
  have h := layout_ordered _ hsize
  refine (mount_performs hv hsize hκ).refuses ?_
  rintro _ rfl
  refine (readBitmap_performs hv h).refuses ?_
  rintro m ⟨hm, -⟩
  refine (readTable_performs hv h).refuses ?_
  rintro _ rfl
  have hblock := Contents.firstFree_of_used hm hfull
    (show (counted v.size freeBlocks freeInodes state).dataStartBlock.toNat = _ from rfl)
  simp only [hi.findFree, hblock]
  exact .throw

/-! ## §3 Release -/

/-- **A release frees the slot of a file and then its block.** -/
theorem release_performs (hv : v.Stores drive fails) (hsize : 1024 ≤ v.size.toNat)
    (hκ : Mountable v.size κ freeBlocks freeInodes state) {i : Fin 128} {b : Nat}
    (hb : b < blockCount v.size) (hi : κ.slot i = Index.fileAt v.size b) :
    v.Performs fails κ (release drive (UInt32.ofNat i.val))
      (releasing v.size freeBlocks freeInodes i b (κ.used b)) (· = Index.fileAt v.size b) := by
  have h := layout_ordered _ hsize
  have hnat := toNat_block hb
  refine (mount_performs hv hsize hκ).then ?_
  rintro _ rfl
  refine (readSlot_performs hv h i).then ?_
  rintro _ rfl
  simp only [hi, Index.isFree_fileAt, Bool.false_eq_true, if_false]
  refine (writeSuper_performs hv h _).bind fun _ _ => ?_
  refine (writeSlot_performs hv h i _).bind fun _ _ => ?_
  refine (readBitmap_performs hv h).then ?_
  rintro m ⟨hm, -⟩
  have hblock : (UInt32.ofNat b).toNat < blockCount v.size := by
    rw [hnat]
    exact hb
  have hlba : Superblock.lbaBlock
      { counted v.size freeBlocks freeInodes state with state := stateDirty }
      (Index.fileAt v.size b).firstBlock = UInt32.ofNat b := lbaBlock_counted h hb
  have hfreed := hm.setFree_fst hblock
  have hunused := hm.setFree hblock
  rw [hnat] at hfreed hunused
  rw [hlba, hfreed]
  have hmark : v.Performs fails
      ((κ.edit (.super (counted v.size freeBlocks freeInodes stateDirty))).edit (.slot i .vacant))
      (writeBitmap drive (counted v.size freeBlocks freeInodes stateDirty)
        (m.setFree (UInt32.ofNat b)).2) [.mark b false] (fun _ => True) :=
    writeBitmap_performs hv h hb hunused
  refine hmark.bind fun _ _ => ?_
  refine (writeSuper_performs hv h _).bind fun _ _ => ?_
  exact .pure rfl

/-- A slot that does not exist holds no file. -/
theorem release_refuses_beyond (hv : v.Stores drive fails) (hsize : 1024 ≤ v.size.toNat)
    (hκ : Mountable v.size κ freeBlocks freeInodes state) {inode : UInt32}
    (hinode : 128 ≤ inode.toNat) :
    v.Refuses fails κ (release drive inode) (.invalidInode inode) := by
  refine (mount_performs hv hsize hκ).refuses ?_
  rintro _ rfl
  exact (readSlot_refuses hinode).bind

/-- Neither does a free one. -/
theorem release_refuses_free (hv : v.Stores drive fails) (hsize : 1024 ≤ v.size.toNat)
    (hκ : Mountable v.size κ freeBlocks freeInodes state) {i : Fin 128}
    (hi : (κ.slot i).isFree = true) :
    v.Refuses fails κ (release drive (UInt32.ofNat i.val))
      (.invalidInode (UInt32.ofNat i.val)) := by
  refine (mount_performs hv hsize hκ).refuses ?_
  rintro _ rfl
  refine (readSlot_performs hv (layout_ordered _ hsize) i).refuses ?_
  rintro _ rfl
  simp only [hi, if_true]
  exact DriveView.Refuses.bind .throw

/-! ## §4 New volumes -/

theorem plan_performs (hv : v.Stores drive fails) (hsize : 1024 ≤ v.size.toNat) :
    v.Performs fails κ (plan drive) [] (· = forSize v.size) := by
  have hlarge : ¬ v.size < minimumSectors := by
    rw [UInt32.lt_iff_toNat_lt]
    exact Nat.not_lt.2 hsize
  refine (totalSectors_performs hv).then ?_
  rintro _ rfl
  simp only [if_neg hlarge]
  exact .pure rfl

theorem verifySuper_performs (hv : v.Stores drive fails) (h : Ordered v.size) :
    v.Performs fails κ (verifySuper drive κ.super) [] (fun _ => True) := by
  refine (readSuper_performs hv h).then ?_
  rintro _ rfl
  simp only [verify_self]
  exact note_performs hv _

theorem writeBlank_runs (hv : v.Stores drive fails) (h : Ordered v.size) :
    v.Runs κ (writeBitmap drive (forSize v.size) (.blank (forSize v.size).totalBlocks))
      (fun _ κ' => κ' = { κ with used := fun _ => false }) (fun _ _ => fails) := by
  have hroom := h.inside
  have hbitmap := h.bitmap
  have hspan := h.bits
  have hpos := h.room
  have hblank : (BlockBitmap.blank (forSize v.size).totalBlocks).Agrees v.size fun _ => false :=
    ⟨rfl, size_zeroes _, fun b _ => BlockBitmap.bit_zeroes _ b⟩
  have htotal : ¬ (BlockBitmap.blank (forSize v.size).totalBlocks).total
      ≠ (forSize v.size).totalBlocks := not_not_intro rfl
  rw [writeBitmap, if_neg htotal]
  refine write_runs hv (show 1 ≤ bitmapSpan v.size by omega) hblank.size_toBytes
    (show 2 + bitmapSpan v.size ≤ v.size.toNat by omega) ?_ fun hfails _ _ _ _ _ => hfails
  intro m hm
  rw [← hm]
  exact of_overlay_blank h hblank.size_toBytes fun b hb => hblank.bit_toBytes hb

theorem writeTable_runs (hv : v.Stores drive fails) (h : Ordered v.size) :
    v.Runs κ (write drive (forSize v.size).inodeTableLba (zeroes (indexSlots.toNat * sectorSize)))
      (fun _ κ' => κ' = { κ with slot := fun _ => .vacant }) (fun _ _ => fails) := by
  refine write_runs hv (show 1 ≤ 128 by decide) (size_zeroes _) h.inside ?_
    fun hfails _ _ _ _ _ => hfails
  intro m hm
  rw [← hm]
  exact of_overlay_table h _

/-- **A new volume is empty**, whatever the drive told before. -/
theorem format_runs (hv : v.Stores drive fails) (hsize : 1024 ≤ v.size.toNat) (verify : Bool) :
    v.Runs κ (format drive verify)
      (fun sb κ' => sb = forSize v.size ∧ κ' = Contents.blank v.size) (fun _ _ => fails) := by
  have h := layout_ordered _ hsize
  have hrest : v.Runs (κ.edit (.super (forSize v.size)))
      (do writeBitmap drive (forSize v.size) (.blank (forSize v.size).totalBlocks)
          write drive (forSize v.size).inodeTableLba (zeroes (indexSlots.toNat * sectorSize))
          note (.info s!"Drive {drive} formatted")
          return forSize v.size)
      (fun sb κ' => sb = forSize v.size ∧ κ' = Contents.blank v.size) (fun _ _ => fails) := by
    refine (writeBlank_runs hv h).bind ?_
    rintro _ _ rfl
    refine (writeTable_runs hv h).bind ?_
    rintro _ _ rfl
    exact (note_performs hv _).runs fun _ _ => .pure ⟨rfl, rfl⟩
  refine (plan_performs hv hsize).runs ?_
  rintro _ rfl
  refine (note_performs hv _).runs fun _ _ => ?_
  refine (writeSuper_performs hv h _).runs fun _ _ => ?_
  cases verify with
  | false => exact hrest
  | true => exact (verifySuper_performs hv h).runs fun _ _ => hrest

end Volume

end AtaVolume
