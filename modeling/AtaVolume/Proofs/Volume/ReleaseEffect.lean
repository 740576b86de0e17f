/-
AtaVolume.Proofs.Volume.ReleaseEffect — the sectors that a release changes.

Whatever a drive holds, if it can be mounted and has the sectors in front of the data, a
release is refused for a slot that does not exist and for one without a file, and nothing
is changed. Else it empties the slot. What the record says about its block need not be true:
the block may belong to the metadata, be free already, or lie behind the last one. So the
counter of the free blocks goes up only with a mark that was there (`wasMarked`), and no
other mark is touched (`Releases`).
-/
import AtaVolume.Proofs.Volume.AllocationEffect

namespace AtaVolume

namespace Volume

/-! ## §1 What is looked at -/

/-- The record in a slot of the index table. -/
def recordAt (sb : Superblock) (m : Sectors) (i : Fin 128) : Index :=
  Index.ofBytes (m (sb.inodeTableLba.toNat + i.val)).toBytes

/-- There is a block of this number, and its bit in the bitmap is set. -/
def wasMarked (sb : Superblock) (m : Sectors) (b : Nat) : Bool :=
  decide (b < sb.totalBlocks.toNat) && BlockBitmap.bit (m.bytes 2 sb.bitmapSectors.toNat) b

variable {sb : Superblock} {m : Sectors} {i : Fin 128}

/-- The block of a file by number. -/
theorem toNat_blockOf (sb : Superblock) (m : Sectors) (i : Fin 128) :
    (blockOf sb m i).toNat = (recordAt sb m i).firstBlock.toNat / sb.sectorsPerBlock.toNat :=
  UInt32.toNat_div _ _

/-- The type tag alone tells a free slot. -/
theorem isFree_recordAt : (recordAt sb m i).isFree = true ↔ (recordAt sb m i).kind = 0 := by
  rw [Index.isFree, beq_iff_eq, IndexKind.tag]

/-- A counter goes up by one, up to its limit. -/
theorem increase_eq_min (n limit : UInt32) :
    increase n limit = UInt32.ofNat (min (n.toNat + 1) limit.toNat) := by
  have hlimit := limit.toNat_lt
  rw [← UInt32.toNat_inj, toNat_increase, UInt32.toNat_ofNat_of_lt' (show _ < 2 ^ 32 by omega)]

/-- An empty slot is stored as zeros. -/
theorem encode_vacant : Index.vacant.encode = Sector.zero := by
  apply Sector.ext_byte
  intro k hk
  have hrecord : Index.vacant.record.toArray = zeroes Index.recordLength := by decide
  rw [Index.encode, Sector.byte_ofBytes _ hk, hrecord, getD_zeroes, Sector.byte_zero]

/-! ## §2 What is changed -/

/-- What the release of a slot, whose record names block `b`, makes of the sectors `m`. -/
structure Releases (sb : Superblock) (i : Fin 128) (b : Nat) (m m' : Sectors) : Prop where
  super : m' 1
    = { sb with
        freeInodes := UInt32.ofNat (min (sb.freeInodes.toNat + 1) sb.totalInodes.toNat)
        freeBlocks :=
          if wasMarked sb m b then
            UInt32.ofNat (min (sb.freeBlocks.toNat + 1) sb.totalBlocks.toNat)
          else sb.freeBlocks
        state := stateClean }.encode
  /-- All bits of the bitmap's bytes, those included that belong to no block. -/
  bits : ∀ k, k < (sb.totalBlocks.toNat + 7) / 8 * 8 →
    BlockBitmap.bit (m'.bytes 2 sb.bitmapSectors.toNat) k
      = if k = b ∧ b < sb.totalBlocks.toNat then false
        else BlockBitmap.bit (m.bytes 2 sb.bitmapSectors.toNat) k
  padding : ∀ k, (sb.totalBlocks.toNat + 7) / 8 ≤ k →
    (m'.bytes 2 sb.bitmapSectors.toNat).getD k 0 = 0
  slot : m' (sb.inodeTableLba.toNat + i.val) = Sector.zero
  rest : ∀ j, j ≠ 1 → ¬ (2 ≤ j ∧ j < 2 + sb.bitmapSectors.toNat) →
    j ≠ sb.inodeTableLba.toNat + i.val → m' j = m j

/-- One mark is gone, if there was one; the bits of no block stay. -/
theorem bit_setFree_bitmapOf (block : UInt32) {k : Nat}
    (hk : k < (sb.totalBlocks.toNat + 7) / 8 * 8) :
    BlockBitmap.bit ((bitmapOf sb m).setFree block).2.bits k
      = if k = block.toNat ∧ block.toNat < sb.totalBlocks.toNat then false
        else BlockBitmap.bit (m.bytes 2 sb.bitmapSectors.toNat) k := by
  have hlength := size_bits_bitmapOf sb m
  have htotal : (bitmapOf sb m).total = sb.totalBlocks := rfl
  have hkept : BlockBitmap.bit (bitmapOf sb m).bits k
      = BlockBitmap.bit (m.bytes 2 sb.bitmapSectors.toNat) k :=
    BlockBitmap.bit_fitTo _ (show k / 8 < (sb.totalBlocks.toNat + 7) / 8 by omega)
  by_cases hblock : block.toNat < sb.totalBlocks.toNat
  · rw [BlockBitmap.bit_setFree (by rw [htotal]; exact hblock) (by rw [htotal]; omega), hkept]
    by_cases hself : k = block.toNat
    · rw [if_pos ⟨hself, hblock⟩, hself, bne_self_eq_false, Bool.and_false]
    · rw [if_neg fun h => hself h.1, bne_iff_ne.2 hself, Bool.and_true]
  · rw [BlockBitmap.setFree, if_pos (by rw [htotal, UInt32.le_iff_toNat_le]; omega),
      if_neg fun h => hblock h.2, hkept]

/-- **A release changes three things**: the superblock, at most one bit, and one slot. -/
theorem releases_released (h : 2 + sb.bitmapSectors.toNat ≤ sb.inodeTableLba.toNat) :
    Releases sb i (blockOf sb m i).toNat m (released sb m i) := by
  have hsize : ((bitmapOf sb m).setFree (blockOf sb m i)).2.bits.size
      = (sb.totalBlocks.toNat + 7) / 8 := by
    rw [BlockBitmap.size_bits_setFree, size_bits_bitmapOf]
  have hbitmap : (released sb m i).bytes 2 sb.bitmapSectors.toNat
      = ((bitmapOf sb m).setFree (blockOf sb m i)).2.toBytes := by
    refine bytes_of_overlay_bitmap (m := vacated sb m i) hsize fun j hj hj' => ?_
    rw [released, Function.update_of_ne (by omega)]
  constructor
  case super =>
    have hmarked : (Contents.under sb m).used (blockOf sb m i).toNat
        = wasMarked sb m (blockOf sb m i).toNat := rfl
    rw [released, Function.update_self, credited, hmarked, increase_eq_min, increase_eq_min]
  case bits =>
    intro k hk
    rw [hbitmap, BlockBitmap.bit_toBytes_of_lt (by omega), bit_setFree_bitmapOf _ hk]
  case padding =>
    intro k hk
    rw [hbitmap]
    exact BlockBitmap.getD_toBytes_of_le (by omega)
  case slot =>
    rw [released, Function.update_of_ne (by omega), Sectors.overlay_apply_of_not_mem _ _ (by omega),
      vacated, Function.update_self, encode_vacant]
  case rest =>
    intro j hsuper hbits hslot
    rw [released, Function.update_of_ne hsuper, Sectors.overlay_apply_of_not_mem _ _ hbits,
      vacated, Function.update_of_ne hslot, opened, Function.update_of_ne hsuper]

/-! ## §3 How a release ends -/

variable {δ : Type} [BlockDevice δ] {v : DriveView δ} {drive : UInt8} {s t : δ}

/-- **The exact effect of a release** on whatever a drive without faults holds, if it can be
mounted: refused for a slot that does not exist or holds no file, without a change; or the
record is returned, and its slot and its block are free. -/
theorem release_effect (hv : v.FaultFree drive) (hs : v.Sound s)
    (hmount : mount drive s = .ok sb t) (hroom : sb.inodeTableLba.toNat + 128 ≤ v.size.toNat)
    (inode : UInt32) :
    (128 ≤ inode.toNat →
        ∃ s', release drive inode s = .error (.invalidInode inode) s' ∧ v.Holds (v.image s) s')
      ∧ ∀ i : Fin 128, inode.toNat = i.val →
        let record := recordAt sb (v.image s) i
        let block := record.firstBlock.toNat / sb.sectorsPerBlock.toNat
        (record.kind = 0 →
            ∃ s', release drive inode s = .error (.invalidInode inode) s' ∧ v.Holds (v.image s) s')
          ∧ (record.kind ≠ 0 →
            ∃ s', release drive inode s = .ok record s' ∧ v.Sound s'
              ∧ Releases sb i block (v.image s) (v.image s')) := by
  have hholds : v.Holds (v.image s) s := ⟨hs, rfl⟩
  have hm := mounts_of_mount hv.serves (show 1 < v.size.toNat by omega) hholds hmount
  obtain ⟨-, hbitmap, htable⟩ := hm.laidOut.before_data
  have hw : Works (fun j => j < v.size.toNat) sb :=
    ⟨by omega, fun j _ hj => by omega, fun j _ hj => by omega⟩
  refine ⟨fun hbeyond => ?_, fun i hi => ⟨fun hkind => ?_, fun hkind => ?_⟩⟩
  · obtain ⟨_, s', hrun, rfl, hs'⟩ := release_beyond hv.serves hm hw hbeyond s hholds
    exact ⟨s', hrun, hs'⟩
  · obtain rfl : inode = UInt32.ofNat i.val := by rw [← hi, UInt32.ofNat_toNat]
    obtain ⟨_, s', hrun, rfl, hs'⟩ :=
      release_free hv.serves hm hw (isFree_recordAt.2 hkind) s hholds
    exact ⟨s', hrun, hs'⟩
  · obtain rfl : inode = UInt32.ofNat i.val := by rw [← hi, UInt32.ofNat_toNat]
    have hused : (recordAt sb (v.image s) i).isFree = false := by
      rw [← Bool.not_eq_true]
      exact fun hfree => hkind (isFree_recordAt.1 hfree)
    obtain ⟨s', hrun, hs'⟩ := release_succeeds hv.serves hm hw hused s hholds
    refine ⟨s', hrun, hs'.sound, ?_⟩
    rw [hs'.image, ← toNat_blockOf]
    exact releases_released hbitmap

/-- A record of no known kind that names the block of the superblock. -/
def strayRecord : Index := { kind := 9 }

/-- A disk with this record in its first slot; its counters say that all is free, while the
first 1024 blocks are marked. -/
def strayMedium : Medium := Medium.cutShort.put 3 strayRecord.encode

/-- The drive with these sectors. -/
def strayDisk : Drive := { Drive.blankWith 1024 {} with medium := strayMedium }

/-- The machine that has this drive. -/
def strayDisks : Disks Bus := ⟨Controller.single 1024, Bus.single strayDisk⟩

theorem capacity_cutShort : Medium.cutShort.capacity = 1024 := by
  simp only [Medium.cutShort, Medium.capacity_put]
  rfl

theorem content_stray :
    strayMedium.content = Function.update Medium.cutShort.content 3 strayRecord.encode :=
  Medium.content_put (by rw [capacity_cutShort]; decide) _

theorem stray_holds : cutShortView.Holds strayMedium.content strayDisks := by
  have hcapacity : 1024 ≤ strayMedium.capacity := by
    rw [strayMedium, Medium.capacity_put, capacity_cutShort]
  have hfaultless : strayDisk.Faultless 1024 := ⟨⟨rfl, rfl, rfl⟩, rfl, hcapacity, fun _ _ => rfl⟩
  exact Disks.holds_view (d := strayDisk) ⟨rfl, rfl, by decide⟩ hfaultless

theorem mounts_stray : Mounts strayMedium.content (Superblock.forSize 2048) where
  super := by
    rw [content_stray, Function.update_of_ne (by decide)]
    exact Medium.offers_cutShort.super
  valid := rfl
  layout := rfl

theorem recordAt_stray : recordAt (Superblock.forSize 2048) strayMedium.content 0 = strayRecord := by
  show Index.ofBytes (strayMedium.content 3).toBytes = strayRecord
  rw [content_stray, Function.update_self, Index.ofBytes_encode]

theorem wasMarked_stray : wasMarked (Superblock.forSize 2048) strayMedium.content 0 = true := by
  have hbits : strayMedium.content 2 = Medium.usedSector := by
    rw [content_stray, Function.update_of_ne (by decide), Medium.content_cutShort,
      Function.update_self]
  have hspan : (Superblock.forSize 2048).bitmapSectors.toNat = 1 := by decide
  rw [wasMarked, hspan, Sectors.bytes_one, hbits, Medium.bit_usedSector (by decide)]
  decide

/-- The release of such a record takes the mark from the block of the superblock. -/
theorem release_effect_stray :
    let sb := Superblock.forSize 2048
    let m := strayMedium.content
    cutShortView.Sound strayDisks ∧ (∃ t, mount 0 strayDisks = .ok sb t)
      ∧ sb.inodeTableLba.toNat + 128 ≤ cutShortView.size.toNat
      ∧ recordAt sb m 0 = strayRecord ∧ wasMarked sb m 0 = true
      ∧ ∃ s', release 0 0 strayDisks = .ok strayRecord s' ∧ cutShortView.Sound s'
        ∧ Releases sb 0 0 m (cutShortView.image s') := by
  intro sb m
  have hholds := stray_holds
  have hserves : cutShortView.Serves 0 _ := Disks.single_faultFree.serves
  have hroom : sb.inodeTableLba.toNat + 128 ≤ cutShortView.size.toNat := by decide
  obtain ⟨t, hmount, -⟩ := mount_succeeds hserves (show 1 < 1024 by decide) mounts_stray _ hholds
  have heffect := (release_effect Disks.single_faultFree hholds.sound hmount hroom 0).2 0 rfl
  rw [hholds.image, recordAt_stray] at heffect
  exact ⟨hholds.sound, ⟨t, hmount⟩, hroom, recordAt_stray, wasMarked_stray,
    heffect.2 (by decide)⟩

end Volume

end AtaVolume
