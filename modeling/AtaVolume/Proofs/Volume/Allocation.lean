/-
AtaVolume.Proofs.Volume.Allocation — where an allocation leads.

How large the drive is does not matter to an allocation: on every drive that has
the areas in front of the data, the first free block is handed out, on the drive or
not (`allocate_offered`). So what is handed out is a block of the volume that the
superblock describes, as a whole (`allocate_inside`); but a volume that was made
on a larger drive gives blocks away that its drive does not have
(`allocate_beyond_end`).
-/
import AtaVolume.Proofs.Bus.DiskStores
import AtaVolume.Proofs.Volume.Images

namespace AtaVolume

namespace Volume

/-! ## §1 What an allocation takes -/

variable {δ : Type} [BlockDevice δ] {v : DriveView δ} {drive : UInt8} {m : Sectors}
  {sb : Superblock} {inode block : UInt32}

/-- A drive that holds `m` offers a slot and a block: its superblock can be mounted, and
they are the first free ones. -/
structure Offers (m : Sectors) (sb : Superblock) (inode block : UInt32) : Prop where
  super : Superblock.decode (m 1).toBytes = sb
  valid : sb.isValid = true
  layout : sb.checkLayout = .ok ()
  slot : (IndexTable.ofBytes (m.bytes sb.inodeTableLba.toNat 128)).findFree = some inode
  block : (BlockBitmap.ofBytes (m.bytes 2 sb.bitmapSectors.toNat) sb.totalBlocks).firstFree
    sb.dataStartBlock = some block

theorem Offers.mounts (h : Offers m sb inode block) : Mounts m sb := ⟨h.super, h.valid, h.layout⟩

/-- The slot that is offered is the first free one. -/
theorem Offers.firstSlot (h : Offers m sb inode block) :
    ∃ i : Fin 128, inode = UInt32.ofNat i.val ∧ (Contents.under sb m).FirstSlot i := by
  have hslot := h.slot
  rw [IndexTable.ofBytes_bytes] at hslot
  obtain ⟨i, hinode, hfree, hleast⟩ := IndexTable.findFree_eq_some hslot
  exact ⟨i, hinode, hfree, hleast⟩

/-- So is the block. -/
theorem Offers.firstFree (h : Offers m sb inode block) :
    FirstFree sb (Contents.under sb m) block := by
  have hblock : (bitmapOf sb m).firstFree sb.dataStartBlock = some block := h.block
  rcases firstFree_bitmapOf sb m with ⟨block', hfind, hfirst⟩ | ⟨hnone, -⟩
  · rw [hfind] at hblock
    cases hblock
    exact hfirst
  · rw [hnone] at hblock
    cases hblock

/-- **An allocation takes what the superblock offers.** The drive has to have the areas in
front of the data; whether it has the block is not asked. -/
theorem allocate_offered (hv : v.FaultFree drive) (h : Offers m sb inode block)
    (hroom : sb.dataStartLba.toNat ≤ v.size.toNat) :
    Succeeds (v.Holds m) (allocate drive)
      (inode, { Index.regular with firstBlock := sb.blockLba block }) v.Sound := by
  obtain ⟨-, -, htable⟩ := h.mounts.laidOut.before_data
  have hworks := works_of_room h.mounts.laidOut (htable.trans hroom)
  obtain ⟨i, rfl, hi⟩ := h.firstSlot
  exact (allocate_succeeds hv.serves h.mounts hworks hi h.firstFree).mono (fun _ hs => hs)
    fun _ hs => hs.sound

end Volume

/-! ## §2 The front of a larger volume -/

namespace Medium

/-- The bits of a bitmap whose first 1024 blocks are used. -/
def usedSector : Sector := Sector.ofBytes (Array.replicate 128 0xFF)

/-- The first 1024 sectors of a volume of 2048, which are all used. -/
def cutShort : Medium :=
  ((sparse (.blank 1024)).put 1 (Superblock.forSize 2048).encode).put 2 usedSector

theorem content_cutShort :
    cutShort.content
      = Function.update (Function.update (fun _ => Sector.zero) 1 (Superblock.forSize 2048).encode)
        2 usedSector := by
  unfold cutShort
  rw [content_put (by rw [capacity_put]; decide), content_put (by decide), content_blank]
  rfl

/-- The bitmap's bits. -/
theorem bit_usedSector {block : Nat} (h : block < 2048) :
    BlockBitmap.bit usedSector.toBytes block = decide (block < 1024) := by
  have hbyte : usedSector.toBytes.getD (block / 8) 0 = if block / 8 < 128 then 0xFF else 0 := by
    rw [usedSector, Sector.getD_toBytes, Sector.byte_ofBytes _ (by omega)]
    rw [Array.getD_eq_getD_getElem?, Array.getElem?_replicate]
    split <;> rfl
  by_cases hused : block < 1024
  · rw [if_pos (by omega)] at hbyte
    rw [BlockBitmap.bit_of_full hbyte, decide_eq_true hused]
  · rw [if_neg (by omega)] at hbyte
    rw [BlockBitmap.bit_eq_getLsbD, hbyte, decide_eq_false hused]
    simp

/-- Its superblock offers the block behind the last sector. -/
theorem offers_cutShort : Volume.Offers cutShort.content (Superblock.forSize 2048) 0 1024 where
  super := by
    rw [content_cutShort]
    exact Superblock.decode_encode _
  valid := rfl
  layout := rfl
  slot := by
    have hslots : (fun i : Fin 128 => Index.ofBytes (cutShort.content (3 + i.val)).toBytes)
        = fun _ => Index.vacant := by
      funext i
      rw [content_cutShort, Function.update_of_ne (by omega), Function.update_of_ne (by omega)]
      exact Index.ofBytes_zero
    show (IndexTable.ofBytes (cutShort.content.bytes 3 128)).findFree = some 0
    rw [IndexTable.ofBytes_bytes, hslots]
    rfl
  block := by
    have hbits : ∀ k, k < 2048 →
        BlockBitmap.bit (BlockBitmap.ofBytes (cutShort.content.bytes 2 1) 2048).bits k
          = decide (k < 1024) := by
      intro k hk
      rw [BlockBitmap.bit_ofBytes _ hk, Sectors.bytes_one, content_cutShort]
      exact bit_usedSector hk
    have hsearch : BlockBitmap.searchFree
        (BlockBitmap.ofBytes (cutShort.content.bytes 2 1) 2048).bits 2048 131 = some 1024 := by
      rw [BlockBitmap.searchFree_eq_some_iff, hbits 1024 (by decide)]
      refine ⟨by decide, by decide, by decide, fun k _ hk => ?_⟩
      rw [hbits k (by omega), decide_eq_true hk]
    exact congrArg (Option.map UInt32.ofNat) hsearch

end Medium

namespace Volume

/-- A disk with these sectors. -/
def cutShortDisk : Drive := { Drive.blankWith 1024 {} with medium := Medium.cutShort }

/-- The machine that has this disk. -/
def cutShortDisks : Disks Bus := ⟨Controller.single 1024, Bus.single cutShortDisk⟩

/-- The disk as volumes see it. -/
abbrev cutShortView : DriveView (Disks Bus) :=
  Disks.view (Controller.single 1024) .primary .master 1024

theorem cutShort_holds : cutShortView.Holds Medium.cutShort.content cutShortDisks := by
  have hfaultless : cutShortDisk.Faultless 1024 := by
    refine ⟨⟨rfl, rfl, rfl⟩, rfl, ?_, fun _ _ => rfl⟩
    show 1024 ≤ Medium.cutShort.capacity
    unfold Medium.cutShort
    rw [Medium.capacity_put, Medium.capacity_put]
    decide
  exact Disks.holds_view (d := cutShortDisk) ⟨rfl, rfl, by decide⟩ hfaultless

theorem allocate_cutShort :
    ∃ s', allocate 0 cutShortDisks = .ok (0, { Index.regular with firstBlock := 1024 }) s' := by
  obtain ⟨s', hrun, -⟩ :=
    allocate_offered Disks.single_faultFree Medium.offers_cutShort (by decide) _ cutShort_holds
  exact ⟨s', hrun⟩

/-! ## §3 Where the block lies -/

/-- The first sector of a data block of the volume that a superblock describes, with all
sectors of the block. -/
structure Given (sb : Superblock) (lba : UInt32) : Prop where
  block : ∃ block, sb.dataStartBlock ≤ block ∧ block < sb.totalBlocks ∧ lba = sb.blockLba block
  start : sb.dataStartLba.toNat ≤ lba.toNat
  stop : lba.toNat + sb.sectorsPerBlock.toNat ≤ sb.sectors

variable {δ : Type} [BlockDevice δ] {drive : UInt8} {s s' : δ} {inode : UInt32} {record : Index}

/-- **The block that an allocation hands out lies in the volume**, with all its sectors;
and so on the drive, if the drive has all sectors of the volume. -/
theorem allocate_inside (h : allocate drive s = .ok (inode, record) s') :
    ∃ sb t, mount drive s = .ok sb t ∧ Given sb record.firstBlock
      ∧ ∀ size, BlockDevice.totalSectors s drive = .ok size → sb.sectors ≤ size.toNat →
        record.firstBlock.toNat + sb.sectorsPerBlock.toNat ≤ size.toNat := by
  unfold allocate at h
  obtain ⟨sb, t, hmount, hrest⟩ := bind_run_eq_ok.1 h
  have hsb := (mount_safe drive).yields _ _ _ hmount
  have hgiven : Given sb record.firstBlock := by
    refine Yields.run (P := fun r => Given sb r.2.firstBlock) hrest ?_
    refine .bind (readBitmap_safe drive sb).yields fun bitmap hbitmap => .after fun table => ?_
    cases table.findFree with
    | none => exact .throw
    | some inode =>
      cases hfree : bitmap.firstFree sb.dataStartBlock with
      | none => exact .throw
      | some block =>
        obtain ⟨hfirst, hblock, -⟩ := BlockBitmap.firstFree_eq_some hfree
        rw [← UInt32.le_iff_toNat_le] at hfirst
        rw [hbitmap.2, ← UInt32.lt_iff_toNat_lt] at hblock
        have hdata := hsb.blocks block hfirst hblock
        refine .after fun _ => .after fun _ => .after fun _ => .after fun _ => .after fun _ => ?_
        exact .after fun _ => .pure ⟨⟨block, hfirst, hblock, rfl⟩, hdata.start, hdata.stop⟩
  exact ⟨sb, t, hmount, hgiven, fun _ _ hsize => Nat.le_trans hgiven.stop hsize⟩

/-- The block behind the end of a disk that is too small, which lies in the volume. -/
theorem allocate_inside_cutShort :
    ∃ s' sb t, allocate 0 cutShortDisks = .ok (0, { Index.regular with firstBlock := 1024 }) s'
      ∧ mount 0 cutShortDisks = .ok sb t ∧ Given sb 1024 := by
  obtain ⟨s', hrun⟩ := allocate_cutShort
  obtain ⟨sb, t, hmount, hgiven, -⟩ := allocate_inside hrun
  exact ⟨s', sb, t, hrun, hmount, hgiven⟩

/-- **It need not lie on the drive**: not even its first sector does. -/
theorem allocate_beyond_end :
    ¬ ∀ (s s' : Disks Bus) (drive : UInt8) (size inode : UInt32) (record : Index),
      BlockDevice.totalSectors s drive = .ok size →
      allocate drive s = .ok (inode, record) s' → record.firstBlock.toNat < size.toNat := by
  intro hall
  obtain ⟨s', hrun⟩ := allocate_cutShort
  exact absurd (hall _ _ _ _ _ _ (Disks.single_faultFree.size cutShort_holds.sound) hrun) (by decide)

end Volume

end AtaVolume
