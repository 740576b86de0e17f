/-
AtaVolume.Proofs.Volume.CleanSessions — a clean volume stays clean, unless two files
share a block.

A call that ends well tells that the volume could be mounted and its parts be read, so
nothing need be known of an image but what a check found (`mounts_of_ok`,
`works_of_check`). From there on one call keeps the volume as clean as it was, and by
induction so does a session.
-/
import AtaVolume.Proofs.Bus.DiskServes
import AtaVolume.Proofs.Volume.NewVolume
import AtaVolume.Proofs.Volume.Refinement

namespace AtaVolume

open Superblock
open DriveView (Within)

namespace Volume

variable {δ : Type} [BlockDevice δ] {v : DriveView δ} {drive : UInt8} {good : Nat → Prop}
  {m : Sectors} {sb : Superblock} {s t : δ}

/-! ## §1 What a call that ends well tells -/

/-- A sector that does not work is not read. -/
theorem readSector_fails (hg : v.Guards drive good) {lba : UInt32} (h : ¬ good lba.toNat) :
    Fails (v.Holds m) (readSector drive lba) (fun e => ∃ cause, e = .io cause) (v.Holds m) := by
  intro s hs
  have hbad : ¬ Within good lba.toNat 1 := fun hgood => h (hgood _ (Nat.le_refl _) (by omega))
  obtain ⟨e, hresult, hholds⟩ := hg.refuse hs (Nat.le_refl 1) (by decide)
    (size_zeroes (1 * 512)) hbad
  show ∃ e t, received (BlockDevice.readSectors drive (UInt16.ofNat 1) lba (zeroes (1 * 512)) s)
    = .error e t ∧ _
  generalize BlockDevice.readSectors drive (UInt16.ofNat 1) lba (zeroes (1 * 512)) s = o
    at hresult hholds ⊢
  obtain ⟨result, buffer, t⟩ := o
  obtain rfl : result = .error e := hresult
  exact ⟨_, t, rfl, ⟨e, rfl⟩, hholds⟩

/-- **What is mounted is on the drive.** -/
theorem mounts_of_ok (hv : v.Serves drive good) (hg : v.Guards drive good) (hs : v.Holds m s)
    (h : mount drive s = .ok sb t) : good 1 ∧ Mounts m sb := by
  by_cases hgood : good 1
  · exact ⟨hgood, mounts_of_mount hv hgood hs h⟩
  · have hfails : Fails (v.Holds m) (mount drive) _ (v.Holds m) :=
      Fails.bind (Fails.bind (readSector_fails hg hgood))
    exact absurd h (hfails.not_ok hs)

/-- **What is checked can be read**, and the check tells how it is. -/
theorem works_of_check (hv : v.Serves drive good) (hg : v.Guards drive good) (hs : v.Holds m s)
    {report : CheckReport} (h : check drive s = .ok report t) :
    ∃ sb, Mounts m sb ∧ Works good sb ∧ report = reportOf sb m := by
  obtain ⟨sb, s₁, hmount, -⟩ := bind_run_eq_ok.1 (show (mount drive >>= _) s = .ok report t from h)
  obtain ⟨hgood, hm⟩ := mounts_of_ok hv hg hs hmount
  have hmounts := mount_succeeds hv hgood hm
  by_cases hbitmap : Within good 2 sb.bitmapSectors.toNat
  · have hreads := readBitmap_succeeds (m := m) hm.laidOut hv hbitmap
    by_cases htable : Within good sb.inodeTableLba.toNat 128
    · have hw : Works good sb := ⟨hgood, hbitmap, htable⟩
      obtain ⟨t', hrun, -⟩ := check_succeeds hv hm hw s hs
      rw [hrun] at h
      cases h
      exact ⟨sb, hm, hw, rfl⟩
    · have hfails : Fails (v.Holds m) (check drive) _ (v.Holds m) :=
        hmounts.fails (hreads.fails (readTable_fails hm.laidOut hv hg htable).bind)
      exact absurd h (hfails.not_ok hs)
  · have hfails : Fails (v.Holds m) (check drive) _ (v.Holds m) :=
      hmounts.fails (readBitmap_fails hm.laidOut hv hg hbitmap).bind
    exact absurd h (hfails.not_ok hs)

/-! ## §2 Calls -/

/-- A volume that a check finds nothing wrong with, where each file has a block to itself. -/
structure Tidy (sb : Superblock) (m : Sectors) : Prop where
  mounts : Mounts m sb
  consistent : Consistent sb (Contents.under sb m)
  separate : Separate sb (Contents.under sb m)

/-- The drive holds such a volume, of which all parts work. -/
structure Clean (v : DriveView δ) (good : Nat → Prop) (sb : Superblock) (s : δ) : Prop where
  image : ∃ m, v.Holds m s ∧ Tidy sb m
  works : Works good sb

theorem Tidy.allocated (h : Tidy sb m) {i : Fin 128} (hi : (Contents.under sb m).FirstSlot i)
    {block : UInt32} (hblock : FirstFree sb (Contents.under sb m) block) :
    Tidy (charged sb) (Volume.allocated sb m i block) := by
  have hsb := h.mounts.laidOut
  have hunder : Contents.under (charged sb) (Volume.allocated sb m i block)
      = afterAllocation sb (Contents.under sb m) i block :=
    under_allocated hsb.before_data.2.1 i hblock.lt_total
  refine ⟨h.mounts.charged i block, ?_, ?_⟩
  · rw [hunder]
    exact h.consistent.allocated hsb hblock hi.free
  · rw [hunder]
    exact h.separate.allocated hsb hblock h.consistent.files

/-- On a consistent volume the block of a file is marked, and a release clears the mark. -/
theorem Consistent.mounts_released (h : Consistent sb (Contents.under sb m)) (hm : Mounts m sb)
    {i : Fin 128} (hi : ((Contents.under sb m).slot i).isFree = false) :
    Mounts (Volume.released sb m i) (credited sb true)
      ∧ Contents.under (credited sb true) (Volume.released sb m i)
        = afterRelease sb (Contents.under sb m) i := by
  have hmarked : (Contents.under sb m).used (blockOf sb m i).toNat = true := (h.files i hi).marked
  have hmounts := hm.credited i
  have hunder := under_released (m := m) hm.laidOut.before_data.2.1 i
  rw [hmarked] at hmounts hunder
  exact ⟨hmounts, hunder⟩

theorem Tidy.released (h : Tidy sb m) {i : Fin 128}
    (hi : ((Contents.under sb m).slot i).isFree = false) :
    Tidy (credited sb true) (Volume.released sb m i) := by
  obtain ⟨hmounts, hunder⟩ := h.consistent.mounts_released h.mounts hi
  refine ⟨hmounts, ?_, ?_⟩
  · rw [hunder]
    exact h.consistent.released h.mounts.laidOut h.separate hi
  · rw [hunder]
    exact h.separate.released

/-- A check after the release of one of two files in a block does find something. -/
theorem problems_released (h : Consistent sb (Contents.under sb m)) (hm : Mounts m sb)
    {i j : Fin 128} (hij : j ≠ i) (hi : ((Contents.under sb m).slot i).isFree = false)
    (hj : ((Contents.under sb m).slot j).isFree = false)
    (hshared : sb.lbaBlock ((Contents.under sb m).slot j).firstBlock
      = sb.lbaBlock ((Contents.under sb m).slot i).firstBlock) :
    (reportOf (credited sb true) (released sb m i)).problems ≠ [] := by
  rw [ne_eq, problems_eq_nil_iff, (h.mounts_released hm hi).2]
  exact not_consistent_released hij hj hshared

/-- An allocation takes the first free slot and block, or there is none and nothing changes. -/
theorem allocate_cases (hv : v.Serves drive good) (hm : Mounts m sb) (hw : Works good sb) :
    (∃ i block, (Contents.under sb m).FirstSlot i ∧ FirstFree sb (Contents.under sb m) block
        ∧ Succeeds (v.Holds m) (allocate drive) (UInt32.ofNat i.val, newRecord sb block)
          (v.Holds (allocated sb m i block)))
      ∨ Fails (v.Holds m) (allocate drive) (fun _ => True) (v.Holds m) := by
  cases hslot : (IndexTable.ofSlots (Contents.under sb m).slot).findFree with
  | none => exact .inr ((allocate_inodeFull hv hm hw (IndexTable.findFree_eq_none hslot)).mono
    fun _ _ => trivial)
  | some inode =>
    obtain ⟨i, -, hfree, hleast⟩ := IndexTable.findFree_eq_some hslot
    have hi : (Contents.under sb m).FirstSlot i := ⟨hfree, hleast⟩
    rcases firstFree_bitmapOf sb m with ⟨block, -, hblock⟩ | ⟨hfull, -⟩
    · exact .inl ⟨i, block, hi, hblock, allocate_succeeds hv hm hw hi hblock⟩
    · exact .inr ((allocate_diskFull hv hm hw hi hfull).mono fun _ _ => trivial)

/-- A release frees a slot that is used, or there is none to free and nothing changes. -/
theorem release_cases (hv : v.Serves drive good) (hm : Mounts m sb) (hw : Works good sb)
    (inode : UInt32) :
    (∃ i, ((Contents.under sb m).slot i).isFree = false
        ∧ Succeeds (v.Holds m) (release drive inode) ((Contents.under sb m).slot i)
          (v.Holds (released sb m i)))
      ∨ Fails (v.Holds m) (release drive inode) (fun _ => True) (v.Holds m) := by
  by_cases hinode : inode.toNat < 128
  · obtain ⟨i, rfl⟩ : ∃ i : Fin 128, inode = UInt32.ofNat i.val :=
      ⟨⟨inode.toNat, hinode⟩, (UInt32.ofNat_toNat).symm⟩
    cases hi : ((Contents.under sb m).slot i).isFree with
    | true => exact .inr ((release_free hv hm hw hi).mono fun _ _ => trivial)
    | false => exact .inl ⟨i, hi, release_succeeds hv hm hw hi⟩
  · exact .inr ((release_beyond hv hm hw (by omega)).mono fun _ _ => trivial)

/-! ## §3 Sessions -/

omit [BlockDevice δ] in
theorem Succeeds.outcome {α : Type} {I J : δ → Prop} {x : VolumeAction δ α} {a : α}
    (h : Succeeds I x a J) (hs : I s) : J (DriveView.outcome (x s)).2 := by
  obtain ⟨t, hrun, ht⟩ := h s hs
  rw [hrun]
  exact ht

omit [BlockDevice δ] in
theorem Fails.outcome {α : Type} {I J : δ → Prop} {x : VolumeAction δ α} {E : VolumeError → Prop}
    (h : Fails I x E J) (hs : I s) : J (DriveView.outcome (x s)).2 := by
  obtain ⟨e, t, hrun, -, ht⟩ := h s hs
  rw [hrun]
  exact ht

/-- A session goes on where its first call ended. -/
theorem session_cons (c : FileCall) (calls : List FileCall) (s : δ) :
    (FileCall.session drive (c :: calls) s).2
      = (FileCall.session drive calls (DriveView.outcome (c.run drive s)).2).2 := by
  rw [FileCall.session]
  cases c.run drive s with
  | ok a t => rfl
  | error e t => rfl

/-- **One call keeps a volume clean**, and does not move its blocks. -/
theorem call_clean (hv : v.Serves drive good) (h : Clean v good sb s) (c : FileCall) :
    ∃ sb', sb'.lbaBlock = sb.lbaBlock
      ∧ Clean v good sb' (DriveView.outcome (c.run drive s)).2 := by
  obtain ⟨⟨m, hs, hm⟩, hw⟩ := h
  have hsame : Clean v good sb (DriveView.outcome (c.run drive s)).2 → ∃ sb',
      sb'.lbaBlock = sb.lbaBlock ∧ Clean v good sb' (DriveView.outcome (c.run drive s)).2 :=
    fun h => ⟨sb, rfl, h⟩
  cases c with
  | allocate =>
    rcases allocate_cases hv hm.mounts hw with ⟨i, block, hi, hblock, hrun⟩ | hfails
    · have hcall : Succeeds (v.Holds m) (FileCall.run drive .allocate) _ _ := hrun.bind (.pure _)
      exact ⟨charged sb, rfl, ⟨_, hcall.outcome hs, hm.allocated hi hblock⟩,
        hw.super, hw.bitmap, hw.table⟩
    · have hcall : Fails (v.Holds m) (FileCall.run drive .allocate) _ _ := hfails.bind
      exact hsame ⟨⟨m, hcall.outcome hs, hm⟩, hw⟩
  | release inode =>
    rcases release_cases hv hm.mounts hw inode with ⟨i, hi, hrun⟩ | hfails
    · have hcall : Succeeds (v.Holds m) (FileCall.run drive (.release inode)) _ _ :=
        hrun.bind (.pure _)
      exact ⟨credited sb true, rfl, ⟨_, hcall.outcome hs, hm.released hi⟩,
        hw.super, hw.bitmap, hw.table⟩
    · have hcall : Fails (v.Holds m) (FileCall.run drive (.release inode)) _ _ := hfails.bind
      exact hsame ⟨⟨m, hcall.outcome hs, hm⟩, hw⟩

/-- So does a session. -/
theorem session_keeps_clean (hv : v.Serves drive good) (calls : List FileCall)
    (h : Clean v good sb s) :
    ∃ sb', sb'.lbaBlock = sb.lbaBlock ∧ Clean v good sb' (FileCall.session drive calls s).2 := by
  induction calls generalizing sb s with
  | nil => exact ⟨sb, rfl, h⟩
  | cons c calls ih =>
    obtain ⟨sb₁, hsame, hclean⟩ := call_clean hv h c
    obtain ⟨sb₂, hsame', hclean'⟩ := ih hclean
    rw [session_cons]
    exact ⟨sb₂, hsame'.trans hsame, hclean'⟩

/-- **The block that an allocation hands out has no file.** -/
theorem Tidy.fresh (hv : v.Serves drive good) (hm : Tidy sb m) (hw : Works good sb)
    (hs : v.Holds m s) {inode : UInt32} {record : Index} (h : allocate drive s = .ok (inode, record) t)
    (i : Fin 128) (hi : ((Contents.under sb m).slot i).isFree = false) :
    sb.lbaBlock record.firstBlock ≠ sb.lbaBlock ((Contents.under sb m).slot i).firstBlock := by
  rcases allocate_cases hv hm.mounts hw with ⟨j, block, hj, hblock, hrun⟩ | hfails
  · obtain ⟨t', hok, -⟩ := hrun s hs
    rw [hok] at h
    cases h
    rw [lbaBlock_newRecord hm.mounts.laidOut hblock]
    exact (hblock.ne_block (hm.consistent.files i hi)).symm
  · exact absurd h (hfails.not_ok hs)

end Volume

/-! ## §4 A volume with one file, and one with a copy of it -/

namespace Medium

/-- A bitmap in which block 131 is marked. -/
def markedSector : Sector := Sectors.ofRun ((BlockBitmap.blank 1024).setUsed 131).2.toBytes 0

/-- The superblock of a volume with one file. -/
def loneSuper : Superblock := Volume.charged (forSize 1024)

/-- The record of a file in block 131. -/
def loneFile : Index := Volume.newRecord (forSize 1024) 131

/-- A volume with one file. -/
def lone : Medium :=
  (((sparse (.blank 1024)).put 2 markedSector).put 3 loneFile.encode).put 1 loneSuper.encode

/-- The superblock of a volume with one slot less. -/
def twinSuper : Superblock := { loneSuper with freeInodes := Volume.decrease loneSuper.freeInodes }

/-- The same with the record a second time. -/
def twins : Medium := (lone.put 4 loneFile.encode).put 1 twinSuper.encode

theorem capacity_lone : lone.capacity = 1024 := by
  simp only [lone, capacity_put]
  rfl

theorem capacity_twins : twins.capacity = 1024 := by
  simp only [twins, capacity_put]
  exact capacity_lone

theorem content_lone :
    lone.content = Function.update (Function.update (Function.update (fun _ => Sector.zero) 2
      markedSector) 3 loneFile.encode) 1 loneSuper.encode := by
  unfold lone
  rw [content_put (by simp only [capacity_put]; decide),
    content_put (by simp only [capacity_put]; decide), content_put (by decide), content_blank]
  rfl

theorem content_twins :
    twins.content = Function.update (Function.update lone.content 4 loneFile.encode) 1
      twinSuper.encode := by
  unfold twins
  rw [content_put (by rw [capacity_put, capacity_lone]; decide),
    content_put (by rw [capacity_lone]; decide)]
  rfl

/-- The one file is as an allocation makes it. -/
theorem under_lone :
    Contents.under loneSuper lone.content
      = Volume.afterAllocation (forSize 1024) (Contents.blank 1024) 0 131 := by
  have h : 2 + (forSize 1024).bitmapSectors.toNat ≤ (forSize 1024).inodeTableLba.toNat := by decide
  have hmarked : Function.update (fun _ => Sector.zero) 2 markedSector
      = Sectors.overlay (fun _ => Sector.zero) 2 (forSize 1024).bitmapSectors.toNat (Sectors.ofRun
        ((Volume.bitmapOf (forSize 1024) fun _ => Sector.zero).setUsed 131).2.toBytes) := by
    rw [Volume.bitmapOf_of_zero fun _ _ _ => rfl,
      show (forSize 1024).bitmapSectors.toNat = 1 by decide, Sectors.overlay_succ,
      Sectors.overlay_zero]
    rfl
  rw [content_lone, hmarked]
  show Contents.under (forSize 1024) (Function.update (Function.update _
    ((forSize 1024).inodeTableLba.toNat + (0 : Fin 128).val) loneFile.encode) 1 _) = _
  rw [Contents.under_update_super h, Contents.under_update_slot h,
    Volume.under_setUsed h (by decide)]
  simp only [Contents.edit, Volume.used_of_zero fun _ _ _ => rfl,
    Volume.slot_of_zero fun _ _ _ => rfl]
  rfl

/-- The copy is as any other file. -/
theorem under_twins :
    Contents.under twinSuper twins.content
      = Volume.afterCopy loneSuper (Contents.under loneSuper lone.content) 0 1 := by
  have h : 2 + loneSuper.bitmapSectors.toNat ≤ loneSuper.inodeTableLba.toNat := by decide
  have hfile : (Contents.under loneSuper lone.content).slot 0 = loneFile := by
    rw [under_lone]
    rfl
  rw [content_twins]
  show Contents.under loneSuper (Function.update (Function.update _
    (loneSuper.inodeTableLba.toNat + (1 : Fin 128).val) loneFile.encode) 1 _) = _
  rw [Contents.under_update_super h, Contents.under_update_slot h, Volume.afterCopy, hfile]
  rfl

end Medium

namespace Volume

variable {δ : Type} [BlockDevice δ] {v : DriveView δ} {drive : UInt8} {good : Nat → Prop}
  {sb : Superblock} {s t : δ}

/-- The layout of a drive of 1024 sectors. -/
theorem laidOut_small : (forSize 1024).LaidOut := laidOut_of_checkLayout rfl

/-- Its first free block is the first one of the data area. -/
theorem firstFree_blank : FirstFree (forSize 1024) (Contents.blank 1024) 131 where
  data := by decide
  lt := by decide
  free := rfl
  least k hk hk' := by
    have hdata : (forSize 1024).dataStartBlock.toNat = 131 := by decide
    have hend : (131 : UInt32).toNat = 131 := rfl
    omega

/-- On a disk of 1024 sectors all areas of such a volume work. -/
theorem works_small : Works (· < 1024) (forSize 1024) := @works_forSize 1024 (by decide)

/-- In a tidy volume no two files share a block. -/
theorem Tidy.distinct {m : Sectors} (h : Tidy sb m) :
    ∀ f ∈ (IndexTable.ofSlots (Contents.under sb m).slot).used,
      ∀ g ∈ (IndexTable.ofSlots (Contents.under sb m).slot).used,
        sb.lbaBlock f.2.firstBlock = sb.lbaBlock g.2.firstBlock → f = g :=
  forall_mem_used_ofSlots.2 fun i hi => forall_mem_used_ofSlots.2 fun j hj heq => by
    rw [h.separate i j hi hj heq]

theorem tidy_lone : Tidy Medium.loneSuper Medium.lone.content where
  mounts := by
    refine ⟨?_, rfl, rfl⟩
    rw [Medium.content_lone, Function.update_self, decode_encode]
  consistent := by
    rw [Medium.under_lone]
    exact (consistent_blank 1024).allocated laidOut_small firstFree_blank Index.isFree_vacant
  separate := by
    rw [Medium.under_lone]
    refine Separate.allocated laidOut_small firstFree_blank (fun i _ hi => ?_) fun i hi => ?_
    · cases hi
    · cases hi

/-- **A clean volume stays clean.** Of whatever image a check finds nothing wrong with, and
in which no two of the files that are listed share a block, a check finds nothing wrong
with after any calls; and no allocation then returns the block of a file that is listed. -/
theorem session_clean (hv : v.Serves drive good) (hg : v.Guards drive good) (hs : v.Sound s)
    {s₁ s₂ s₃ : δ} {report : CheckReport} {files : List (UInt32 × Index)}
    (hmount : mount drive s = .ok sb s₁) (hcheck : check drive s = .ok report s₂)
    (hproblems : report.problems = []) (hlist : listFiles drive s = .ok files s₃)
    (hdistinct : ∀ f ∈ files, ∀ g ∈ files,
      sb.lbaBlock f.2.firstBlock = sb.lbaBlock g.2.firstBlock → f = g) (calls : List FileCall) :
    let s' := (FileCall.session drive calls s).2
    (∃ report' t, check drive s' = .ok report' t ∧ report'.problems = [])
      ∧ ∃ files' t, listFiles drive s' = .ok files' t
        ∧ ∀ inode record u, allocate drive t = .ok (inode, record) u →
          ∀ f ∈ files', sb.lbaBlock record.firstBlock ≠ sb.lbaBlock f.2.firstBlock := by
  intro s'
  have hholds : v.Holds (v.image s) s := ⟨hs, rfl⟩
  obtain ⟨hgood, hm⟩ := mounts_of_ok hv hg hholds hmount
  obtain ⟨sb₀, hm₀, hw, hreport⟩ := works_of_check hv hg hholds hcheck
  obtain rfl : sb₀ = sb := hm₀.super.symm.trans hm.super
  have hconsistent : Consistent sb₀ (Contents.under sb₀ (v.image s)) :=
    (problems_eq_nil_iff _ _).1 (hreport ▸ hproblems)
  have hseparate : Separate sb₀ (Contents.under sb₀ (v.image s)) := by
    obtain ⟨t, hrun, -⟩ := listFiles_succeeds hv hm hw s hholds
    rw [hlist] at hrun
    cases hrun
    intro i j hi hj heq
    have hfile := forall_mem_used_ofSlots.1 hdistinct i hi
    have hsame := forall_mem_used_ofSlots.1 hfile j hj heq
    exact IndexTable.slot_injective (congrArg Prod.fst hsame)
  obtain ⟨sb', hsame, ⟨m', hs', htidy⟩, hw'⟩ :=
    session_keeps_clean hv calls ⟨⟨_, hholds, hm, hconsistent, hseparate⟩, hw⟩
  constructor
  · obtain ⟨t, hrun, -⟩ := check_succeeds hv htidy.mounts hw' s' hs'
    exact ⟨_, t, hrun, (problems_eq_nil_iff _ _).2 htidy.consistent⟩
  · obtain ⟨t, hrun, ht⟩ := listFiles_succeeds hv htidy.mounts hw' s' hs'
    refine ⟨_, t, hrun, fun inode record u hallocate => ?_⟩
    rw [← hsame]
    exact forall_mem_used_ofSlots.2 fun i hi => htidy.fresh hv hw' ht hallocate i hi

/-- The disk of a machine, with a volume of one file on it. -/
def loneDisk : Disks Bus := .alone { Drive.blankWith 1024 {} with medium := Medium.lone }

/-- The same with the file a second time. -/
def twinDisk : Disks Bus := .alone { Drive.blankWith 1024 {} with medium := Medium.twins }

theorem alone_serves : (Disks.aloneView (· < 1024)).Serves 0 (· < 1024) :=
  Disks.aloneView_serves fun hj => by omega

/-- Calls on a volume with one file. -/
theorem session_clean_lone :
    let s' := (FileCall.session 0 [.allocate, .release 0, .allocate] loneDisk).2
    (∃ report' t, check 0 s' = .ok report' t ∧ report'.problems = [])
      ∧ ∃ files' t, listFiles 0 s' = .ok files' t
        ∧ ∀ inode record u, allocate 0 t = .ok (inode, record) u →
          ∀ f ∈ files', Medium.loneSuper.lbaBlock record.firstBlock
            ≠ Medium.loneSuper.lbaBlock f.2.firstBlock := by
  have hs : (Disks.aloneView (· < 1024)).Holds Medium.lone.content loneDisk :=
    Disks.holds_alone (Drive.worksOn_sound Medium.capacity_lone (by decide))
  have hw : Works (· < 1024) Medium.loneSuper :=
    ⟨works_small.super, works_small.bitmap, works_small.table⟩
  have hm := tidy_lone.mounts
  obtain ⟨s₁, hmount, -⟩ := mount_succeeds alone_serves hw.super hm loneDisk hs
  obtain ⟨s₂, hcheck, -⟩ := check_succeeds alone_serves hm hw loneDisk hs
  obtain ⟨s₃, hlist, -⟩ := listFiles_succeeds alone_serves hm hw loneDisk hs
  exact session_clean alone_serves Disks.aloneView_guards hs.sound hmount hcheck
    ((problems_eq_nil_iff _ _).2 tidy_lone.consistent) hlist tidy_lone.distinct _

theorem mounts_twins : Mounts Medium.twins.content Medium.twinSuper where
  super := by rw [Medium.content_twins, Function.update_self, decode_encode]
  valid := rfl
  layout := rfl

theorem consistent_twins :
    Consistent Medium.twinSuper (Contents.under Medium.twinSuper Medium.twins.content) := by
  rw [Medium.under_twins]
  refine tidy_lone.consistent.copied ?_ ?_
  · rw [Medium.under_lone]
    rfl
  · rw [Medium.under_lone]
    rfl

theorem slot_zero_twins :
    (Contents.under Medium.twinSuper Medium.twins.content).slot 0 = Medium.loneFile := by
  rw [Medium.under_twins, Medium.under_lone]
  rfl

theorem slot_one_twins :
    (Contents.under Medium.twinSuper Medium.twins.content).slot 1 = Medium.loneFile := by
  rw [Medium.under_twins, Medium.under_lone]
  rfl

/-- The volume after the release of the one of the two files. -/
def twinReleased : Sectors := released Medium.twinSuper Medium.twins.content 0

theorem under_twinReleased :
    Contents.under (credited Medium.twinSuper true) twinReleased
      = afterRelease Medium.twinSuper (Contents.under Medium.twinSuper Medium.twins.content) 0 :=
  (consistent_twins.mounts_released mounts_twins (by rw [slot_zero_twins]; rfl)).2

/-- Its first free block is the one of the other file. -/
theorem firstFree_twinReleased :
    FirstFree (credited Medium.twinSuper true)
      (Contents.under (credited Medium.twinSuper true) twinReleased) 131 := by
  refine ⟨by decide, by decide, ?_, fun k hk hk' => ?_⟩
  · have hblock : Medium.twinSuper.lbaBlock Medium.loneFile.firstBlock = 131 := by decide
    rw [under_twinReleased, ← hblock, ← slot_zero_twins, used_afterRelease_self]
  · have hdata : (credited Medium.twinSuper true).dataStartBlock.toNat = 131 := by decide
    have hend : (131 : UInt32).toNat = 131 := rfl
    omega

/-- Its first free slot is that of the file that was released. -/
theorem firstSlot_twinReleased :
    (Contents.under (credited Medium.twinSuper true) twinReleased).FirstSlot 0 := by
  refine ⟨?_, fun j hj => absurd hj (Fin.not_lt_zero j)⟩
  rw [under_twinReleased, slot_afterRelease_self, Index.isFree_vacant]

/-- The other file is still there. -/
theorem slot_one_twinReleased :
    (Contents.under (credited Medium.twinSuper true) twinReleased).slot 1 = Medium.loneFile := by
  rw [under_twinReleased, slot_afterRelease_of_ne (by decide), slot_one_twins]

/-- **Where two files share a block, a clean volume need not stay clean.** A check finds
nothing wrong; but after the release of the one file it does, and the next allocation
returns the block of the other one, which is still listed. -/
theorem release_shared :
    (∃ report t, check 0 twinDisk = .ok report t ∧ report.problems = [])
      ∧ ∃ t, release 0 0 twinDisk = .ok Medium.loneFile t
        ∧ (∃ report u, check 0 t = .ok report u ∧ report.problems ≠ [])
        ∧ ∃ files u w, listFiles 0 t = .ok files u ∧ (1, Medium.loneFile) ∈ files
          ∧ allocate 0 u = .ok (0, Medium.loneFile) w := by
  have hs : (Disks.aloneView (· < 1024)).Holds Medium.twins.content twinDisk :=
    Disks.holds_alone (Drive.worksOn_sound Medium.capacity_twins (by decide))
  have hw : Works (· < 1024) Medium.twinSuper :=
    ⟨works_small.super, works_small.bitmap, works_small.table⟩
  have hw' : Works (· < 1024) (credited Medium.twinSuper true) :=
    ⟨works_small.super, works_small.bitmap, works_small.table⟩
  have hfile : ((Contents.under Medium.twinSuper Medium.twins.content).slot 0).isFree = false := by
    rw [slot_zero_twins]
    rfl
  have hcopy : ((Contents.under Medium.twinSuper Medium.twins.content).slot 1).isFree = false := by
    rw [slot_one_twins]
    rfl
  have hm := (consistent_twins.mounts_released mounts_twins hfile).1
  obtain ⟨t₁, hclean, -⟩ := check_succeeds alone_serves mounts_twins hw twinDisk hs
  obtain ⟨t, hrelease, ht⟩ := release_succeeds alone_serves mounts_twins hw hfile twinDisk hs
  rw [slot_zero_twins] at hrelease
  refine ⟨⟨_, t₁, hclean, (problems_eq_nil_iff _ _).2 consistent_twins⟩, t, hrelease, ?_, ?_⟩
  · obtain ⟨u, hcheck, -⟩ := check_succeeds alone_serves hm hw' t ht
    refine ⟨_, u, hcheck, problems_released consistent_twins mounts_twins (by decide) hfile hcopy ?_⟩
    rw [slot_zero_twins, slot_one_twins]
  · obtain ⟨u, hlist, hu⟩ := listFiles_succeeds alone_serves hm hw' t ht
    obtain ⟨w, hallocate, -⟩ := allocate_succeeds alone_serves hm hw' firstSlot_twinReleased
      firstFree_twinReleased u hu
    refine ⟨_, u, w, hlist, ?_, hallocate⟩
    have hlisted := forall_mem_used_ofSlots.1 (fun f hf => hf) 1
      (show ((Contents.under _ twinReleased).slot 1).isFree = false by rw [slot_one_twinReleased]; rfl)
    rwa [slot_one_twinReleased] at hlisted

end Volume

end AtaVolume
