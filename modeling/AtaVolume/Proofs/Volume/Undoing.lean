/-
AtaVolume.Proofs.Volume.Undoing — a release takes an allocation back.

The sectors are not all as they were: the allocation has cut the superblock and the bitmap
to what they say, and the slot that was free and may have held anything is all zeros now.
But what a volume tells about itself is the same as before: the superblock
(`credited_charged`), each bit of the bitmap's bytes (`bitmapOf_restored`), and the files
with the number of free slots (`tellsAlike_restored`). The counters come back because
on a consistent volume the one is not zero when a slot or a block is taken, and neither is
above its limit when it is given back.
-/
import AtaVolume.Proofs.Volume.CleanSessions
import AtaVolume.Proofs.Volume.ReleaseEffect

namespace AtaVolume

open Superblock

/-! ## §1 Bitmaps by their bits -/

namespace BlockBitmap

/-- A byte is known by its bits. -/
theorem getD_eq_of_bits {a b : Bytes} {i : Nat}
    (h : ∀ k, k < 8 → bit a (i * 8 + k) = bit b (i * 8 + k)) : a.getD i 0 = b.getD i 0 := by
  rw [← UInt8.toBitVec_inj]
  apply BitVec.eq_of_getLsbD_eq
  intro k hk
  have hbit := h k hk
  rw [bit_eq_getLsbD, bit_eq_getLsbD, show (i * 8 + k) / 8 = i by omega,
    show (i * 8 + k) % 8 = k by omega] at hbit
  exact hbit

/-- Bytes with the same bits read as the same bitmap. -/
theorem ofBytes_congr {a b : Bytes} {total : UInt32}
    (h : ∀ k, k < (total.toNat + 7) / 8 * 8 → bit a k = bit b k) :
    ofBytes a total = ofBytes b total := by
  have hbits : fitTo (byteLength total) a = fitTo (byteLength total) b := by
    apply ext_getD (by rw [size_fitTo, size_fitTo])
    intro i hi
    rw [size_fitTo] at hi
    rw [getD_fitTo, getD_fitTo, if_pos hi, if_pos hi]
    have hlast : i < (total.toNat + 7) / 8 := hi
    exact getD_eq_of_bits fun k hk => h _ (by omega)
  rw [ofBytes, ofBytes, hbits]

end BlockBitmap

namespace Volume

variable {sb : Superblock} {m : Sectors} {i : Fin 128} {block : UInt32}

/-! ## §2 There and back -/

/-- A counter that has room both ways. -/
theorem increase_decrease {n limit : UInt32} (hpos : 1 ≤ n.toNat) (hle : n ≤ limit) :
    increase (decrease n) limit = n := by
  rw [UInt32.le_iff_toNat_le] at hle
  rw [← UInt32.toNat_inj, toNat_increase, toNat_decrease]
  omega

/-- **The counters are as they were.** -/
theorem credited_charged (h : Consistent sb (Contents.under sb m)) (hsb : sb.LaidOut)
    (hi : ((Contents.under sb m).slot i).isFree = true)
    (hblock : FirstFree sb (Contents.under sb m) block) : credited (charged sb) true = sb := by
  have hinodes : 1 ≤ sb.freeInodes.toNat := by
    rw [h.inodes]
    exact List.countP_pos_iff.2 ⟨i, List.mem_finRange i, hi⟩
  have hblocks : 1 ≤ sb.freeBlocks.toNat := by
    have hcount :=
      countP_update_true List.nodup_range (List.mem_range.2 hblock.lt_total) hblock.free
    have hle : (List.range sb.totalBlocks.toNat).countP
        (Function.update (Contents.under sb m).used block.toNat true) ≤ sb.totalBlocks.toNat :=
      List.countP_le_length.trans (by rw [List.length_range])
    have hsum := h.blocks
    omega
  have hfields : credited (charged sb) true
      = { sb with
          freeInodes := increase (decrease sb.freeInodes) sb.totalInodes
          freeBlocks := increase (decrease sb.freeBlocks) sb.totalBlocks
          state := stateClean } := rfl
  rw [hfields, increase_decrease hinodes hsb.freeInodes, increase_decrease hblocks hsb.freeBlocks,
    ← h.state]

/-- The sectors after an allocation and the release of its file. -/
def restored (sb : Superblock) (m : Sectors) (i : Fin 128) (block : UInt32) : Sectors :=
  released (charged sb) (allocated sb m i block) i

section Restored

variable (hsb : sb.LaidOut) (hblock : FirstFree sb (Contents.under sb m) block)

include hsb hblock

theorem slot_allocated :
    (Contents.under (charged sb) (allocated sb m i block)).slot i = newRecord sb block := by
  have hunder : Contents.under (charged sb) (allocated sb m i block) = _ :=
    under_allocated hsb.before_data.2.1 i hblock.lt_total
  rw [hunder]
  exact Function.update_self ..

/-- The release finds the block that the allocation took. -/
theorem blockOf_allocated : blockOf (charged sb) (allocated sb m i block) i = block := by
  rw [blockOf, slot_allocated hsb hblock]
  exact show sb.lbaBlock (newRecord sb block).firstBlock = block from lbaBlock_newRecord hsb hblock

theorem used_allocated :
    (Contents.under (charged sb) (allocated sb m i block)).used block.toNat = true := by
  have hunder : Contents.under (charged sb) (allocated sb m i block) = _ :=
    under_allocated hsb.before_data.2.1 i hblock.lt_total
  rw [hunder]
  exact Function.update_self ..

/-- The superblock is the one that there was. -/
theorem Mounts.restored (hm : Mounts m sb) (h : Consistent sb (Contents.under sb m))
    (hi : ((Contents.under sb m).slot i).isFree = true) :
    Mounts (restored sb m i block) sb := by
  have hmounts := (hm.charged i block).credited i
  rw [blockOf_allocated hsb hblock, used_allocated hsb hblock,
    credited_charged h hsb hi hblock] at hmounts
  exact hmounts

/-- **So is the bitmap**: a bit was set and is cleared again. -/
theorem bitmapOf_restored : bitmapOf sb (restored sb m i block) = bitmapOf sb m := by
  have hregions := hsb.before_data.2.1
  have hset : Allocates sb i block m (allocated sb m i block) :=
    allocates_allocated hregions hblock.lt_total
  have hcleared : Releases (charged sb) i
      (blockOf (charged sb) (allocated sb m i block) i).toNat (allocated sb m i block)
      (restored sb m i block) := releases_released hregions
  rw [blockOf_allocated hsb hblock] at hcleared
  apply BlockBitmap.ofBytes_congr
  intro k hk
  have hfree : BlockBitmap.bit (m.bytes 2 sb.bitmapSectors.toNat) block.toNat = false := by
    have hused := hblock.free
    simp only [Contents.under, decide_eq_true hblock.lt_total, Bool.true_and] at hused
    exact hused
  rw [show BlockBitmap.bit ((restored sb m i block).bytes 2 sb.bitmapSectors.toNat) k = _ from
    hcleared.bits k hk]
  by_cases hself : k = block.toNat
  · rw [if_pos ⟨hself, hblock.lt_total⟩, hself, hfree]
  · rw [if_neg fun hk => hself hk.1,
      show BlockBitmap.bit ((allocated sb m i block).bytes 2 (charged sb).bitmapSectors.toNat) k
        = _ from hset.bits k hk, beq_false_of_ne hself, Bool.or_false]

/-- The slot that was taken is empty; the others are as they were. -/
theorem slot_restored :
    (Contents.under sb (restored sb m i block)).slot
      = Function.update (Contents.under sb m).slot i .vacant := by
  have hregions := hsb.before_data.2.1
  have htaken : Contents.under (charged sb) (allocated sb m i block) = _ :=
    under_allocated hregions i hblock.lt_total
  have hcharged : 2 + (charged sb).bitmapSectors.toNat ≤ (charged sb).inodeTableLba.toNat := hregions
  have hgiven : Contents.under sb (restored sb m i block) = _ :=
    under_released (m := allocated sb m i block) hcharged i
  rw [hgiven, htaken]
  exact Function.update_idem _ _ _

end Restored

/-! ## §3 What is told -/

/-- Two contents of a drive are told as the same volume. -/
structure TellsAlike (sb : Superblock) (m m' : Sectors) : Prop where
  bitmap : bitmapOf sb m' = bitmapOf sb m
  files : (IndexTable.ofSlots (Contents.under sb m').slot).used
    = (IndexTable.ofSlots (Contents.under sb m).slot).used
  free : (IndexTable.ofSlots (Contents.under sb m').slot).freeCount
    = (IndexTable.ofSlots (Contents.under sb m).slot).freeCount

/-- What a free slot holds does not matter. -/
theorem used_update_vacant {slot : Fin 128 → Index} (hi : (slot i).isFree = true) :
    (IndexTable.ofSlots (Function.update slot i .vacant)).used
      = (IndexTable.ofSlots slot).used := by
  rw [IndexTable.used_ofSlots, IndexTable.used_ofSlots]
  refine List.filterMap_congr fun j _ => ?_
  by_cases hj : j = i
  · rw [hj, Function.update_self, if_pos Index.isFree_vacant, if_pos hi]
  · rw [Function.update_of_ne hj]

theorem freeCount_update_vacant {slot : Fin 128 → Index} (hi : (slot i).isFree = true) :
    (IndexTable.ofSlots (Function.update slot i .vacant)).freeCount
      = (IndexTable.ofSlots slot).freeCount := by
  have hfree : (fun j => (Function.update slot i Index.vacant j).isFree)
      = fun j => (slot j).isFree := by
    rw [isFree_update, Index.isFree_vacant, ← hi]
    exact Function.update_eq_self i fun j => (slot j).isFree
  rw [IndexTable.freeCount_ofSlots, IndexTable.freeCount_ofSlots, hfree]

theorem tellsAlike_restored (hsb : sb.LaidOut) (hblock : FirstFree sb (Contents.under sb m) block)
    (hi : ((Contents.under sb m).slot i).isFree = true) :
    TellsAlike sb m (restored sb m i block) where
  bitmap := bitmapOf_restored hsb hblock
  files := by
    rw [slot_restored hsb hblock]
    exact used_update_vacant hi
  free := by
    rw [slot_restored hsb hblock]
    exact freeCount_update_vacant hi

/-- A check reports the same. -/
theorem TellsAlike.report {m' : Sectors} (h : TellsAlike sb m m') :
    reportOf sb m' = reportOf sb m := by
  simp only [reportOf, problems, h.bitmap, h.files, h.free]

/-! ## §4 The calls -/

variable {δ : Type} [BlockDevice δ] {v : DriveView δ} {drive : UInt8} {good : Nat → Prop}

/-- Both times the call ends well, with the same result. -/
def SameResult {α : Type} (x : VolumeAction δ α) (s s' : δ) : Prop :=
  ∃ a t t', x s = .ok a t ∧ x s' = .ok a t'

omit [BlockDevice δ] in
theorem Succeeds.sameResult {α : Type} {x : VolumeAction δ α} {a : α} {I J I' J' : δ → Prop}
    (h : Succeeds I x a J) (h' : Succeeds I' x a J') {s s' : δ} (hs : I s) (hs' : I' s') :
    SameResult x s s' := by
  obtain ⟨t, hrun, -⟩ := h s hs
  obtain ⟨t', hrun', -⟩ := h' s' hs'
  exact ⟨a, t, t', hrun, hrun'⟩

/-- **A release takes an allocation back.** If a check finds nothing wrong with a volume and
an allocation succeeds, so does the release of the slot that it returned; and then the
volume is mounted, read, listed and checked with the results of before. -/
theorem release_undoes_allocate (hv : v.Serves drive good) (hg : v.Guards drive good) {s s' s₁ s₂ : δ}
    (hs : v.Sound s) (hmount : mount drive s = .ok sb s₁) {report : CheckReport}
    (hcheck : check drive s = .ok report s₂) (hproblems : report.problems = []) {inode : UInt32}
    {record : Index} (hallocate : allocate drive s = .ok (inode, record) s') :
    ∃ s'', release drive inode s' = .ok record s''
      ∧ SameResult (mount drive) s s''
      ∧ SameResult (readBitmap drive sb) s s''
      ∧ SameResult (listFiles drive) s s''
      ∧ SameResult (check drive) s s'' := by
  have hholds : v.Holds (v.image s) s := ⟨hs, rfl⟩
  obtain ⟨hgood, hm⟩ := mounts_of_ok hv hg hholds hmount
  obtain ⟨sb₀, hm₀, hw, hreport⟩ := works_of_check hv hg hholds hcheck
  obtain rfl : sb₀ = sb := hm₀.super.symm.trans hm.super
  have hsb := hm.laidOut
  have hconsistent : Consistent sb₀ (Contents.under sb₀ (v.image s)) :=
    (problems_eq_nil_iff _ _).1 (hreport ▸ hproblems)
  rcases allocate_cases hv hm hw with ⟨i, block, hi, hblock, htaken⟩ | hrefused
  · obtain ⟨t, hrun, ht⟩ := htaken s hholds
    rw [hallocate] at hrun
    cases hrun
    have hslot := slot_allocated (i := i) hsb hblock
    have hw' : Works good (charged sb₀) := ⟨hw.super, hw.bitmap, hw.table⟩
    have hrelease : Succeeds _ (release drive (UInt32.ofNat i.val)) _
        (v.Holds (restored sb₀ (v.image s) i block)) :=
      release_succeeds hv (hm.charged i block) hw' (by rw [hslot]; rfl)
    obtain ⟨s'', hback, hs''⟩ := hrelease s' ht
    rw [hslot] at hback
    have hm'' := hm.restored hsb hblock hconsistent hi.free
    have hsame := tellsAlike_restored hsb hblock hi.free
    have hbitmap := readBitmap_succeeds (m := restored sb₀ (v.image s) i block) hsb hv hw.bitmap
    have hfiles := listFiles_succeeds hv hm'' hw
    have hagain := check_succeeds hv hm'' hw
    rw [hsame.bitmap] at hbitmap
    rw [hsame.files] at hfiles
    rw [hsame.report] at hagain
    refine ⟨s'', hback, ?_, ?_, ?_, ?_⟩
    · exact (mount_succeeds hv hgood hm).sameResult (mount_succeeds hv hgood hm'') hholds hs''
    · exact (readBitmap_succeeds hsb hv hw.bitmap).sameResult hbitmap hholds hs''
    · exact (listFiles_succeeds hv hm hw).sameResult hfiles hholds hs''
    · exact (check_succeeds hv hm hw).sameResult hagain hholds hs''
  · exact absurd hallocate (hrefused.not_ok hholds)

/-- Where the next file of the volume with one file goes. -/
theorem firstSlot_lone : (Contents.under Medium.loneSuper Medium.lone.content).FirstSlot 1 := by
  rw [Medium.under_lone]
  refine ⟨rfl, fun j hj => ?_⟩
  obtain rfl : j = 0 := by omega
  rfl

theorem firstFree_lone :
    FirstFree Medium.loneSuper (Contents.under Medium.loneSuper Medium.lone.content) 132 := by
  rw [Medium.under_lone]
  refine ⟨by decide, by decide, rfl, fun k hk hk' => ?_⟩
  have hdata : Medium.loneSuper.dataStartBlock.toNat = 131 := by decide
  have hend : (132 : UInt32).toNat = 132 := rfl
  obtain rfl : k = 131 := by omega
  rfl

/-- A second file is made on this volume, and released. -/
theorem release_undoes_allocate_lone :
    (∃ s₁, mount 0 loneDisk = .ok Medium.loneSuper s₁)
      ∧ (∃ report s₂, check 0 loneDisk = .ok report s₂ ∧ report.problems = [])
      ∧ ∃ s' s'', allocate 0 loneDisk = .ok (1, newRecord Medium.loneSuper 132) s'
        ∧ release 0 1 s' = .ok (newRecord Medium.loneSuper 132) s''
        ∧ SameResult (mount 0) loneDisk s''
        ∧ SameResult (readBitmap 0 Medium.loneSuper) loneDisk s''
        ∧ SameResult (listFiles 0) loneDisk s''
        ∧ SameResult (check 0) loneDisk s'' := by
  have hs : (Disks.aloneView (· < 1024)).Holds Medium.lone.content loneDisk :=
    Disks.holds_alone (Drive.worksOn_sound Medium.capacity_lone (by decide))
  have hw : Works (· < 1024) Medium.loneSuper :=
    ⟨works_small.super, works_small.bitmap, works_small.table⟩
  have hm := tidy_lone.mounts
  have hclean := (problems_eq_nil_iff _ _).2 tidy_lone.consistent
  obtain ⟨s₁, hmount, -⟩ := mount_succeeds alone_serves hw.super hm loneDisk hs
  obtain ⟨s₂, hcheck, -⟩ := check_succeeds alone_serves hm hw loneDisk hs
  obtain ⟨s', hallocate, -⟩ :=
    allocate_succeeds alone_serves hm hw firstSlot_lone firstFree_lone loneDisk hs
  obtain ⟨s'', hundone⟩ := release_undoes_allocate alone_serves Disks.aloneView_guards hs.sound
    hmount hcheck hclean hallocate
  exact ⟨⟨s₁, hmount⟩, ⟨_, s₂, hcheck, hclean⟩, s', s'', hallocate, hundone⟩

end Volume

end AtaVolume
