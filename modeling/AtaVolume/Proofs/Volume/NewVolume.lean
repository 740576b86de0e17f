/-
AtaVolume.Proofs.Volume.NewVolume — what a new volume is, sector by sector.

A format writes the superblock and zeros over the sectors of the bitmap and of the
index table, and nothing else (`formatted`). The bitmap that is read back is the blank
one, there are no files, and a check finds nothing wrong. What calls on the drive leave
as it is, a format leaves as it is: the other drives of an emulated machine, for one
(`Disks.untouched_others`).
-/
import AtaVolume.Proofs.Bus.DiskStores
import AtaVolume.Proofs.Volume.Calls
import AtaVolume.Proofs.Volume.Consistency
import AtaVolume.Proofs.Volume.Isolation

namespace AtaVolume

open Superblock
open DriveView (Within)

/-! ## §1 Zeros -/

namespace BlockBitmap

/-- A blank bitmap is written as zeros. -/
theorem ofRun_toBytes_blank (total : UInt32) :
    Sectors.ofRun (blank total).toBytes = fun _ => Sector.zero := by
  funext k
  rw [toBytes, show (blank total).bits = zeroes (byteLength total) from rfl, fitTo_zeroes,
    Sectors.ofRun_zeroes]

end BlockBitmap

namespace Volume

variable {m : Sectors} {sb : Superblock} {size : UInt32}

/-- A bitmap of zeros has no block marked. -/
theorem bitmapOf_of_zero (h : ∀ j, 2 ≤ j → j < 2 + sb.bitmapSectors.toNat → m j = Sector.zero) :
    bitmapOf sb m = .blank sb.totalBlocks := by
  rw [bitmapOf, Sectors.bytes_of_zero h, BlockBitmap.ofBytes_zeroes]

theorem used_of_zero (h : ∀ j, 2 ≤ j → j < 2 + sb.bitmapSectors.toNat → m j = Sector.zero) :
    (Contents.under sb m).used = fun _ => false := by
  funext b
  rw [used_under, bitmapOf_of_zero h, BlockBitmap.blank, BlockBitmap.bit_zeroes, Bool.and_false]

/-- A table of zeros has no files. -/
theorem slot_of_zero (h : ∀ j, sb.inodeTableLba.toNat ≤ j → j < sb.inodeTableLba.toNat + 128 →
    m j = Sector.zero) : (Contents.under sb m).slot = fun _ => .vacant := by
  funext i
  show Index.ofBytes (m (sb.inodeTableLba.toNat + i.val)).toBytes = .vacant
  rw [h _ (Nat.le_add_right _ _) (by omega), Index.ofBytes_zero]

/-! ## §2 The sectors of a new volume -/

/-- What a drive holds after a format. -/
def formatted (size : UInt32) (m : Sectors) : Sectors := fun j =>
  if j = 1 then (forSize size).encode
  else if 2 ≤ j ∧ j < 2 + bitmapSpan size then Sector.zero
  else if tableStart size ≤ j ∧ j < tableStart size + 128 then Sector.zero
  else m j

/-- It is written in three parts. -/
theorem formatted_eq_overlay (h : Ordered size) (m : Sectors) :
    formatted size m
      = Sectors.overlay
          (Sectors.overlay (Function.update m 1 (forSize size).encode) 2 (bitmapSpan size)
            fun _ => Sector.zero)
          (tableStart size) 128 fun _ => Sector.zero := by
  have hbitmap := h.bitmap
  funext j
  unfold formatted Sectors.overlay
  by_cases hsuper : j = 1
  · rw [if_pos hsuper, if_neg (by omega), if_neg (by omega), hsuper, Function.update_self]
  · rw [if_neg hsuper, Function.update_of_ne hsuper]
    by_cases hbits : 2 ≤ j ∧ j < 2 + bitmapSpan size
    · rw [if_pos hbits, if_neg (by omega), if_pos hbits]
    · rw [if_neg hbits, if_neg hbits]

theorem formatted_super (size : UInt32) (m : Sectors) :
    formatted size m 1 = (forSize size).encode := if_pos rfl

theorem formatted_bitmap {j : Nat} (hj : 2 ≤ j) (hj' : j < 2 + bitmapSpan size) :
    formatted size m j = Sector.zero := by
  rw [formatted, if_neg (by omega), if_pos ⟨hj, hj'⟩]

theorem formatted_table (h : Ordered size) {j : Nat} (hj : tableStart size ≤ j)
    (hj' : j < tableStart size + 128) : formatted size m j = Sector.zero := by
  have hbitmap := h.bitmap
  rw [formatted, if_neg (by omega), if_neg (by omega), if_pos ⟨hj, hj'⟩]

/-- All other sectors stay as they are. -/
theorem formatted_rest {j : Nat} (hsuper : j ≠ 1) (hbitmap : ¬ (2 ≤ j ∧ j < 2 + bitmapSpan size))
    (htable : ¬ (tableStart size ≤ j ∧ j < tableStart size + 128)) : formatted size m j = m j := by
  rw [formatted, if_neg hsuper, if_neg hbitmap, if_neg htable]

/-! ## §3 What it tells -/

theorem bitmapOf_formatted :
    bitmapOf (forSize size) (formatted size m) = .blank (forSize size).totalBlocks :=
  bitmapOf_of_zero fun _ hj hj' => formatted_bitmap hj hj'

theorem under_formatted (h : Ordered size) :
    Contents.under (forSize size) (formatted size m) = Contents.blank size := by
  apply Contents.ext
  · show Superblock.decode (formatted size m 1).toBytes = forSize size
    rw [formatted_super, decode_encode]
  · exact used_of_zero fun _ hj hj' => formatted_bitmap hj hj'
  · exact slot_of_zero fun _ hj hj' => formatted_table h hj hj'

theorem mounts_formatted (h : 1024 ≤ size.toNat) : Mounts (formatted size m) (forSize size) where
  super := by rw [formatted_super, decode_encode]
  valid := rfl
  layout := checkLayout_counted size h (Nat.le_refl _) (Nat.le_refl 128)

/-- **A new volume is consistent.** -/
theorem consistent_blank (size : UInt32) : Consistent (forSize size) (Contents.blank size) where
  state := rfl
  blocks := by
    have hnone : (List.range (forSize size).totalBlocks.toNat).countP (Contents.blank size).used = 0 :=
      List.countP_eq_zero.2 fun _ _ => Bool.false_ne_true
    rw [hnone]
    rfl
  inodes := by
    have hall : (List.finRange 128).countP (fun i => ((Contents.blank size).slot i).isFree)
        = (List.finRange 128).length :=
      List.countP_eq_length.2 fun _ _ => Index.isFree_vacant
    rw [hall, List.length_finRange]
    rfl
  files i hi := by
    rw [Contents.blank, Index.isFree_vacant] at hi
    cases hi

/-- It has no files. -/
theorem used_ofSlots_vacant : (IndexTable.ofSlots fun _ => .vacant).used = [] :=
  List.eq_nil_iff_forall_not_mem.2 <| forall_mem_used_ofSlots.2 fun _ hi => by
    rw [Index.isFree_vacant] at hi
    cases hi

/-! ## §4 Formats -/

section Format

variable {δ : Type} [BlockDevice δ] {v : DriveView δ} {drive : UInt8} {good : Nat → Prop}

theorem plan_succeeds (htotal : ∀ {s}, v.Sound s → BlockDevice.totalSectors s drive = .ok size)
    (hsize : 1024 ≤ size.toNat) : Succeeds (v.Holds m) (plan drive) (forSize size) (v.Holds m) := by
  intro s hs
  have hreported : totalSectors drive s = .ok size s := by
    rw [totalSectors, htotal hs.sound]
  have hlarge : ¬ size < minimumSectors := by
    rw [UInt32.lt_iff_toNat_lt]
    exact Nat.not_lt.2 hsize
  refine ⟨s, bind_run_eq_ok.2 ⟨size, s, hreported, ?_⟩, hs⟩
  rw [if_neg hlarge]
  rfl

theorem verifySuper_succeeds (hv : v.Serves drive good) (hgood : good 1)
    (h : Superblock.decode (m 1).toBytes = sb) :
    Succeeds (v.Holds m) (verifySuper drive sb) () (v.Holds m) := by
  have hsuper := readSuper_succeeds (m := m) hv hgood
  rw [h] at hsuper
  refine hsuper.bind ?_
  simp only [Superblock.verify_self]
  exact note_succeeds hv _

/-- **A format writes three areas and no more.** -/
theorem format_succeeds (hv : v.Serves drive good)
    (htotal : ∀ {s}, v.Sound s → BlockDevice.totalSectors s drive = .ok size)
    (hsize : 1024 ≤ size.toNat) (hw : Works good (forSize size)) (verify : Bool) :
    Succeeds (v.Holds m) (format drive verify) (forSize size) (v.Holds (formatted size m)) := by
  have hsuper : Superblock.decode
      ((Function.update m 1 (forSize size).encode) 1).toBytes = forSize size := by
    rw [Function.update_self, decode_encode]
  have hwriteBitmap := writeBitmap_succeeds (m := Function.update m 1 (forSize size).encode)
    (mounts_formatted (m := m) hsize).laidOut hv hw.bitmap
    (show (BlockBitmap.blank (forSize size).totalBlocks).total = _ from rfl) (size_zeroes _)
  have hwriteTable := write_succeeds
    (m := Sectors.overlay (Function.update m 1 (forSize size).encode) 2
      (forSize size).bitmapSectors.toNat fun _ => Sector.zero)
    hv (by decide) (show (zeroes (indexSlots.toNat * sectorSize)).size = 128 * 512 from size_zeroes _)
    hw.table
  rw [BlockBitmap.ofRun_toBytes_blank] at hwriteBitmap
  rw [show Sectors.ofRun (zeroes (indexSlots.toNat * sectorSize)) = fun _ => Sector.zero from
    funext (Sectors.ofRun_zeroes _)] at hwriteTable
  rw [formatted_eq_overlay (layout_ordered _ hsize)]
  unfold format
  refine (plan_succeeds htotal hsize).bind ?_
  refine (note_succeeds hv _).bind ?_
  refine (writeSuper_succeeds hv hw.super _).bind ?_
  cases verify with
  | false =>
    refine hwriteBitmap.bind (hwriteTable.bind ?_)
    exact (note_succeeds hv _).bind (.pure _)
  | true =>
    refine (verifySuper_succeeds hv hw.super hsuper).bind ?_
    refine hwriteBitmap.bind (hwriteTable.bind ?_)
    exact (note_succeeds hv _).bind (.pure _)

/-- On a drive that does not fail, all that a new volume needs works. -/
theorem works_forSize (h : 1024 ≤ size.toNat) : Works (· < size.toNat) (forSize size) := by
  have hordered := layout_ordered _ h
  have hinside := hordered.inside
  have hbitmap := hordered.bitmap
  refine ⟨by omega, fun j _ hj => ?_, fun j _ hj => ?_⟩
  · have hspan : j < 2 + bitmapSpan size := hj
    omega
  · have htable : j < tableStart size + 128 := hj
    omega

end Format

end Volume

/-! ## §5 What calls leave alone -/

/-- Calls on the drive leave `P` as it is. -/
structure BlockDevice.Untouched {δ : Type} [BlockDevice δ] (drive : UInt8) (P : δ → Prop) : Prop where
  note : ∀ {s}, P s → ∀ report, P (BlockDevice.note report s)
  read : ∀ {s}, P s → ∀ count lba buffer,
    P (BlockDevice.readSectors drive count lba buffer s).device
  written : ∀ {s t}, P s → ∀ {lba data}, BlockDevice.writeSectors drive lba data s = .ok () t → P t
  failed : ∀ {s t}, P s → ∀ {lba data e},
    BlockDevice.writeSectors drive lba data s = .error e t → P t

/-- Of two runs that are the same, one may be left out. -/
theorem BlockDevice.Untouched.drivesAlike {δ : Type} [BlockDevice δ] {drive : UInt8} {P : δ → Prop}
    (h : Untouched drive P) : DrivesAlike drive fun s t => s = t ∧ P s where
  size := by
    rintro s _ ⟨rfl, -⟩
    rfl
  note := by
    rintro report s _ ⟨rfl, hs⟩
    exact ⟨rfl, h.note hs report⟩
  read := by
    rintro count lba buffer s _ ⟨rfl, hs⟩
    exact ⟨rfl, rfl, rfl, h.read hs count lba buffer⟩
  write := by
    rintro lba data s _ ⟨rfl, hs⟩
    cases hrun : BlockDevice.writeSectors drive lba data s with
    | ok _ t => exact .ok ⟨rfl, h.written hs hrun⟩
    | error e t => exact .error ⟨rfl, h.failed hs hrun⟩

/-- Calls on one drive of an emulated machine leave its other drives alone. -/
theorem Disks.untouched_others (k : UInt8) (u : Disks Bus) :
    BlockDevice.Untouched k fun s => Parallel k u u s s where
  note hs report := (drivesAlike_parallel k u u).note report _ _ hs
  read hs count lba buffer := ((drivesAlike_parallel k u u).read count lba buffer _ _ hs).states
  written {s t} hs {lba data} hrun := by
    have hends := (drivesAlike_parallel k u u).write lba data s s hs
    rw [hrun] at hends
    cases hends with
    | ok states => exact states
  failed {s t} hs {lba data e} hrun := by
    have hends := (drivesAlike_parallel k u u).write lba data s s hs
    rw [hrun] at hends
    cases hends with
    | error states => exact states

/-! ## §6 New volumes -/

namespace Volume

variable {δ : Type} [BlockDevice δ] {v : DriveView δ} {drive : UInt8} {s s' : δ}

/-- From `s` to `s'` a volume was made: the three areas are written, everything else is
as it was, and what can be asked of the volume is answered as an empty one would. -/
structure Established (v : DriveView δ) (drive : UInt8) (s s' : δ) : Prop where
  super : v.image s' 1 = (forSize v.size).encode
  bitmap : ∀ j, 2 ≤ j → j < 2 + (forSize v.size).bitmapSectors.toNat → v.image s' j = Sector.zero
  table : ∀ j, (forSize v.size).inodeTableLba.toNat ≤ j →
    j < (forSize v.size).inodeTableLba.toNat + 128 → v.image s' j = Sector.zero
  rest : ∀ j, j ≠ 1 → ¬ (2 ≤ j ∧ j < 2 + (forSize v.size).bitmapSectors.toNat) →
    ¬ ((forSize v.size).inodeTableLba.toNat ≤ j
      ∧ j < (forSize v.size).inodeTableLba.toNat + 128) → v.image s' j = v.image s j
  /-- The other drives, and whatever else calls on this one leave alone. -/
  others : ∀ P : δ → Prop, BlockDevice.Untouched drive P → P s → P s'
  mount : ∃ t, mount drive s' = .ok (forSize v.size) t
  readBitmap : ∃ t, readBitmap drive (forSize v.size) s'
    = .ok (.blank (forSize v.size).totalBlocks) t
  listFiles : ∃ t, listFiles drive s' = .ok [] t
  check : ∃ report t, check drive s' = .ok report t ∧ report.problems = []

/-- **A format makes an empty volume** of whatever the drive held, with or without
reading the superblock back, and touches nothing but the three areas. -/
theorem format_establishes (hv : v.FaultFree drive) (hsize : 1024 ≤ v.size.toNat) (hs : v.Sound s)
    (verify : Bool) :
    ∃ s', format drive verify s = .ok (forSize v.size) s' ∧ Established v drive s s' := by
  have h := layout_ordered _ hsize
  have hserves := hv.serves
  have hw := works_forSize hsize
  have hm := mounts_formatted (m := v.image s) hsize
  obtain ⟨s', hrun, hs'⟩ := format_succeeds hserves hv.size hsize hw verify s ⟨hs, rfl⟩
  refine ⟨s', hrun, ?_⟩
  have himage := hs'.image
  refine ⟨?_, fun j hj hj' => ?_, fun j hj hj' => ?_, fun j hsuper hbitmap htable => ?_, ?_, ?_, ?_,
    ?_, ?_⟩
  · rw [himage, formatted_super]
  · rw [himage, formatted_bitmap hj hj']
  · rw [himage, formatted_table h hj hj']
  · rw [himage, formatted_rest hsuper hbitmap htable]
  · intro P huntouched hP
    have hends := format_alike huntouched.drivesAlike verify s s ⟨rfl, hP⟩
    rw [hrun] at hends
    cases hends with
    | ok states => exact states.2
  · obtain ⟨t, hmount, -⟩ := mount_succeeds hserves hw.super hm s' hs'
    exact ⟨t, hmount⟩
  · obtain ⟨t, hread, -⟩ := readBitmap_succeeds hm.laidOut hserves hw.bitmap s' hs'
    exact ⟨t, by rw [hread, bitmapOf_formatted]⟩
  · obtain ⟨t, hlist, -⟩ := listFiles_succeeds hserves hm hw s' hs'
    rw [under_formatted h, Contents.blank, used_ofSlots_vacant] at hlist
    exact ⟨t, hlist⟩
  · obtain ⟨t, hcheck, -⟩ := check_succeeds hserves hm hw s' hs'
    refine ⟨_, t, hcheck, (problems_eq_nil_iff _ _).2 ?_⟩
    rw [under_formatted h]
    exact consistent_blank v.size

/-- A driver for a disk in the first slot finds whatever is there. -/
theorem finds_single {b : Bus} (h : (b.drive? 0).isSome = true) :
    (Controller.single 1024).Finds b := by
  refine Controller.finds_of_foundIn (b := b) (fun slot => ?_) (.refl b)
  intro id p identity hdevice
  match slot with
  | 0 =>
    cases hdevice
    exact ⟨rfl, rfl, h⟩
  | 1 => cases hdevice
  | 2 => cases hdevice
  | 3 => cases hdevice

/-- A machine with two disks on its first channel. -/
def twoDisks : Disks Bus where
  controller := Controller.single 1024
  machine :=
    { primary :=
        { master := some (.blankWith 1024 {}), slave := some (.blankWith 8 { badSectors := [1] }) } }

/-- The driver finds the first one where it is. -/
theorem finds_twoDisks : twoDisks.controller.Finds twoDisks.machine := finds_single rfl

/-- A new volume on the first disk, beside which the second one stays as it is. -/
theorem format_establishes_beside :
    ∃ s', format 0 true twoDisks = .ok (forSize 1024) s'
      ∧ Established (Disks.view (Controller.single 1024) .primary .master 1024) 0 twoDisks s'
      ∧ s'.machine.drive? 1 = some (.blankWith 8 { badSectors := [1] }) := by
  have hfaultless : (Drive.blankWith 1024 {}).Faultless 1024 :=
    ⟨⟨rfl, rfl, rfl⟩, rfl, by decide, fun _ _ => rfl⟩
  have hsound : (Disks.view (Controller.single 1024) .primary .master 1024).Sound twoDisks :=
    ⟨_, ⟨rfl, rfl, by decide⟩, hfaultless⟩
  have hstart : Disks.SameDrive 0 twoDisks twoDisks := .refl 0 finds_twoDisks
  obtain ⟨s', hrun, hnew⟩ :=
    format_establishes Disks.single_faultFree (by decide) hsound true
  have hparallel := hnew.others _ (Disks.untouched_others 0 twoDisks)
    ⟨.refl 0 twoDisks, .refl 0 twoDisks, hstart⟩
  exact ⟨s', hrun, hnew, hparallel.spares.others 1 (by decide)⟩

end Volume

end AtaVolume
