/-
AtaVolume.Proofs.Volume.FailedCalls — what a failed call leaves of the disks.

A file is made in two phases: all that will be written is read first, and then it is
written. A fault that lasts shows in the first phase, and on a drive whose reads vouch
for its writes the second one does not fail (`allocate_ends`). When a file is removed,
the bitmap is read only after the first two writes; so there an error of the drive can
come too late, and it is the only one that can (`release_ends`). Each phase is
followed call by call: `Ends` says what a call gives or how it fails.
-/
import AtaVolume.Proofs.Bus.DiskVouches
import AtaVolume.Proofs.Volume.Leaks
import AtaVolume.Proofs.Volume.NewVolume

namespace AtaVolume

open BlockDevice (Vouches Accepts VouchesFor)
open DriveView (Within)

namespace Volume

/-! ## §1 How calls end -/

section Calls

variable {δ α β : Type} {I J K : δ → Prop} {x : VolumeAction δ α} {f : α → VolumeAction δ β}
  {P : α → Prop} {Q : β → Prop} {E : VolumeError → δ → Prop}

/-- Something in `P` was given and the state is in `J`, or the call failed as `E` says. -/
inductive EndsAs (J : δ → Prop) (P : α → Prop) (E : VolumeError → δ → Prop) :
    EStateM.Result VolumeError δ α → Prop
  | ok {a : α} {t : δ} (state : J t) (given : P a) : EndsAs J P E (.ok a t)
  | error {e : VolumeError} {t : δ} (failed : E e t) : EndsAs J P E (.error e t)

/-- How the call ends from a state in `I`. -/
def Ends (I : δ → Prop) (x : VolumeAction δ α) (J : δ → Prop) (P : α → Prop)
    (E : VolumeError → δ → Prop) : Prop :=
  ∀ s, I s → EndsAs J P E (x s)

namespace Ends

theorem pure {a : α} (h : P a) : Ends I (Pure.pure a) I P E := fun _ hs => .ok hs h

theorem throw {e : VolumeError} (h : ∀ s, I s → E e s) :
    Ends I (throw e : VolumeAction δ α) J P E :=
  fun s hs => .error (h s hs)

theorem bind (hx : Ends I x J P E) (hf : ∀ a, P a → Ends J (f a) K Q E) :
    Ends I (x >>= f) K Q E := by
  intro s hs
  have hends := hx s hs
  simp only [Bind.bind, EStateM.bind]
  generalize x s = r at hends ⊢
  cases hends with
  | ok state given => exact hf _ given _ state
  | error failed => exact .error failed

/-- A call that refuses some arguments. -/
theorem refuse {p : Prop} [Decidable p] {e : VolumeError} {f : β → VolumeAction δ α}
    (he : ∀ s, I s → E e s) (hx : ¬ p → Ends I x J P E) :
    Ends I (if p then throwThe VolumeError e >>= f else x) J P E := by
  split
  case isTrue => exact fun s hs => .error (he s hs)
  case isFalse h => exact hx h

theorem mono {P' : α → Prop} (hx : Ends I x J P E) (hP : ∀ a, P a → P' a) :
    Ends I x J P' E := by
  intro s hs
  have hends := hx s hs
  generalize x s = r at hends ⊢
  cases hends with
  | ok state given => exact .ok state (hP _ given)
  | error failed => exact .error failed

theorem weaken (hx : Ends J x K P E) (h : ∀ s, I s → J s) : Ends I x K P E :=
  fun s hs => hx s (h s hs)

/-- What a call gives in any case can be counted on. -/
theorem yields {P' : α → Prop} (hx : Ends I x J P E) (h : Yields x P') :
    Ends I x J (fun a => P a ∧ P' a) E := by
  intro s hs
  have hends := hx s hs
  have hyields := h s
  generalize x s = r at hends hyields ⊢
  cases hends with
  | ok state given => exact .ok state ⟨given, hyields _ _ rfl⟩
  | error failed => exact .error failed

theorem failed (hx : Ends I x J P E) {s t : δ} (hs : I s) {e : VolumeError}
    (hrun : x s = .error e t) : E e t := by
  have hends := hx s hs
  rw [hrun] at hends
  cases hends with
  | error failed => exact failed

/-- A report can be made in every state that reports do not end. -/
theorem note [BlockDevice δ] (h : ∀ {s}, I s → ∀ report, I (BlockDevice.note report s))
    (report : Report) : Ends I (Volume.note report) I (fun _ => True) E :=
  fun _ hs => .ok (h hs report) trivial

end Ends

end Calls

variable {δ : Type} [BlockDevice δ] {drive : UInt8} {good : Nat → Prop} {I J : δ → Prop}
  {E : VolumeError → δ → Prop} {sb : Superblock}

/-! ## §2 Reading -/

section Reading

variable (hv : Vouches drive good I) (hE : ∀ e t, I t → E e t)

omit [BlockDevice δ] in
include hE in
/-- A read that ended well has filled its buffer from good sectors. -/
theorem received_ends {lba n size : Nat} {o : ReadOutcome δ} (h : VouchesFor good I lba n o)
    (hsize : o.buffer.size = size) :
    EndsAs I (fun bytes => Within good lba n ∧ bytes.size = size) E (received o) := by
  obtain ⟨result, buffer, t⟩ := o
  cases result with
  | ok _ => exact .ok h.1 ⟨h.2 rfl, hsize⟩
  | error e => exact .error (hE _ t h.1)

include hE in
theorem newIndex_ends : Ends I (newIndex drive) I (fun _ => True) E := by
  intro s hs
  unfold newIndex totalSectors
  simp only [Bind.bind, EStateM.bind]
  cases BlockDevice.totalSectors s drive with
  | ok n => exact .ok hs trivial
  | error e => exact .error (hE _ s hs)

include hv hE

theorem readSector_ends (lba : UInt32) :
    Ends I (readSector drive lba) I (fun _ => good lba.toNat) E := by
  have hread : Ends I (readSector drive lba) I
      (fun bytes => Within good lba.toNat 1 ∧ bytes.size = 512) E := fun s hs =>
    received_ends hE (hv.read hs (Nat.le_refl 1) (by decide) (size_zeroes (1 * 512)))
      ((BlockDevice.size_readSectors drive 1 lba _ s).trans (size_zeroes 512))
  exact hread.mono fun _ h => h.1 lba.toNat (Nat.le_refl _) (Nat.lt_succ_self _)

theorem readSectors_ends (lba : UInt32) {n : Nat} (hn : 1 ≤ n) :
    Ends I (readSectors drive lba n) I
      (fun bytes => Within good lba.toNat n ∧ bytes.size = n * 512) E := by
  intro s hs
  have hsize := size_zeroes (n * 512)
  exact received_ends hE (hv.readRange hs lba hn hsize)
    ((BlockDevice.size_readRange drive lba _ s).trans hsize)

/-- A volume that was mounted is laid out, and its superblock works. -/
theorem mount_ends : Ends I (mount drive) I (fun sb => good 1 ∧ sb.LaidOut) E := by
  refine Ends.yields ?_ (mount_safe drive).yields
  unfold mount readSuper
  refine .bind (P := fun _ => good 1)
    (.bind (readSector_ends hv hE superblockLba) fun _ hgood => .pure hgood) fun sb hgood => ?_
  refine .refuse (hE _) fun _ => ?_
  cases sb.checkLayout with
  | error c => exact .throw (hE _)
  | ok _ =>
    simp only
    split
    · exact .bind (.note hv.note _) fun _ _ => .pure hgood
    · exact .pure hgood

theorem readBitmap_ends (hsb : sb.LaidOut) :
    Ends I (readBitmap drive sb) I (fun bitmap => Within good 2 sb.bitmapSectors.toNat
      ∧ bitmap.Counted ∧ bitmap.total = sb.totalBlocks) E := by
  refine Ends.yields ?_ (readBitmap_safe drive sb).yields
  unfold readBitmap
  rw [hsb.bitmapStart]
  exact .bind (readSectors_ends hv hE bitmapStart hsb.before_data.1) fun _ h => .pure h.1

/-- All 128 records are read, and their sectors work. -/
theorem readTable_ends :
    Ends I (readTable drive sb) I
      (fun table => Within good sb.inodeTableLba.toNat 128 ∧ table.length = 128) E := by
  refine .bind (readSectors_ends hv hE sb.inodeTableLba (by decide)) fun bytes h => ?_
  refine .pure ⟨h.1, ?_⟩
  rw [IndexTable.ofBytes, List.length_map, List.length_range, wholeSectors, h.2]
  exact Nat.mul_div_cancel 128 (by decide)

/-- Only a slot that exists is read. -/
theorem readSlot_ends (hsb : sb.LaidOut) (inode : UInt32) :
    Ends I (readSlot drive sb inode) I (fun _ => inode < sb.totalInodes) E := by
  unfold readSlot
  refine .refuse (hE _) fun hexists => ?_
  have hlt : inode < sb.totalInodes := UInt32.not_le.1 hexists
  obtain ⟨lba, hlba, -⟩ := hsb.slots inode hlt
  simp only [hlba, ofExcept, pure_bind]
  exact .bind (readSector_ends hv hE lba) fun _ _ => .pure hlt

end Reading

/-! ## §3 Writing what was read -/

section Writing

variable (ha : Accepts drive good J)

include ha

theorem write_ends {lba : UInt32} {data : Bytes} {n : Nat} (hn : 1 ≤ n) (hdata : data.size = n * 512)
    (h : Within good lba.toNat n) : Ends J (write drive lba data) J (fun _ => True) E := by
  intro s hs
  obtain ⟨t, hrun, ht⟩ := ha.write hs hn hdata h
  unfold write
  rw [hrun]
  exact .ok ht trivial

theorem writeSector_ends {lba : UInt32} (sector : Sector) (h : good lba.toNat) :
    Ends J (write drive lba sector.toBytes) J (fun _ => True) E :=
  write_ends ha (Nat.le_refl 1) (show sector.toBytes.size = 1 * 512 by rw [Sector.size_toBytes])
    fun j hj hj' => by rwa [show j = lba.toNat by omega]

theorem writeSuper_ends (h : good 1) (sb : Superblock) :
    Ends J (writeSuper drive sb) J (fun _ => True) E :=
  writeSector_ends ha sb.encode h

/-- The bitmap takes the sectors from which it was read. -/
theorem writeBitmap_ends (hsb : sb.LaidOut) (h : Within good 2 sb.bitmapSectors.toNat)
    {bitmap : BlockBitmap} (hcounted : bitmap.Counted) (htotal : bitmap.total = sb.totalBlocks)
    (block : UInt32) :
    Ends J (writeBitmap drive sb (bitmap.setUsed block).2) J (fun _ => True) E := by
  have htotal' : (bitmap.setUsed block).2.total = sb.totalBlocks := by
    rw [BlockBitmap.total_setUsed, htotal]
  have hsize : (bitmap.setUsed block).2.bits.size = ((bitmap.setUsed block).2.total.toNat + 7) / 8 := by
    rw [BlockBitmap.size_bits_setUsed, BlockBitmap.total_setUsed, hcounted.size]
  have hdata := BlockBitmap.size_toBytes hsize
  rw [htotal', ← sb.toNat_bitmapSectors] at hdata
  rw [writeBitmap, if_neg (not_not_intro htotal'), hsb.bitmapStart]
  exact write_ends ha hsb.before_data.1 hdata h

theorem writeSlot_ends (hsb : sb.LaidOut) (h : Within good sb.inodeTableLba.toNat 128)
    {inode : UInt32} (hinode : inode < sb.totalInodes) (record : Index) :
    Ends J (writeSlot drive sb inode record) J (fun _ => True) E := by
  obtain ⟨lba, hlba, hfirst, hlast⟩ := hsb.slots inode hinode
  simp only [writeSlot, hlba, ofExcept, pure_bind]
  exact writeSector_ends ha record.encode (h lba.toNat hfirst hlast)

end Writing

/-! ## §4 Errors of the drive -/

section Anywhere

variable (hio : ∀ cause t, E (.io cause) t)

include hio

theorem write_anywhere (lba : UInt32) (data : Bytes) :
    Ends (fun _ => True) (write drive lba data) (fun _ => True) (fun _ => True) E := by
  intro s _
  unfold write
  cases BlockDevice.writeSectors drive lba data s with
  | ok _ t => exact .ok trivial trivial
  | error e t => exact .error (hio e t)

theorem readSectors_anywhere (lba : UInt32) (n : Nat) :
    Ends (fun _ => True) (readSectors drive lba n) (fun _ => True) (fun _ => True) E := by
  intro s _
  unfold readSectors
  generalize BlockDevice.readRange drive lba (zeroes (n * sectorSize)) s = o
  obtain ⟨result, buffer, t⟩ := o
  cases result with
  | ok _ => exact .ok trivial trivial
  | error e => exact .error (hio e t)

theorem readBitmap_anywhere (sb : Superblock) :
    Ends (fun _ => True) (readBitmap drive sb) (fun _ => True)
      (fun bitmap => bitmap.total = sb.totalBlocks) E :=
  .bind (readSectors_anywhere hio _ _) fun _ _ => .pure rfl

theorem writeBitmap_anywhere {bitmap : BlockBitmap} (h : bitmap.total = sb.totalBlocks) :
    Ends (fun _ => True) (writeBitmap drive sb bitmap) (fun _ => True) (fun _ => True) E := by
  rw [writeBitmap, if_neg (not_not_intro h)]
  exact write_anywhere hio _ _

theorem writeSlot_anywhere (hsb : sb.LaidOut) {inode : UInt32} (hinode : inode < sb.totalInodes)
    (record : Index) :
    Ends (fun _ => True) (writeSlot drive sb inode record) (fun _ => True) (fun _ => True) E := by
  obtain ⟨lba, hlba, -⟩ := hsb.slots inode hinode
  simp only [writeSlot, hlba, ofExcept, pure_bind]
  exact write_anywhere hio _ _

end Anywhere

/-! ## §5 Files -/

/-- **A file that cannot be made has changed nothing**, if reads vouch for writes. -/
theorem allocate_ends (hv : Vouches drive good I) (ha : Accepts drive good J)
    (hbegun : ∀ s, I s → J s) :
    Ends I (allocate drive) J (fun _ => True) fun _ t => I t := by
  have hE : ∀ (e : VolumeError) t, I t → I t := fun _ _ h => h
  unfold allocate
  refine .bind (mount_ends hv hE) fun sb ⟨hsuper, hsb⟩ => ?_
  refine .bind (readBitmap_ends hv hE hsb) fun bitmap ⟨hbitmap, hcounted, htotal⟩ => ?_
  refine .bind (readTable_ends hv hE) fun table ⟨htable, hlength⟩ => ?_
  cases hslot : table.findFree with
  | none => exact .throw fun _ hs => hs
  | some inode =>
    have hinode : inode < sb.totalInodes := by
      rw [hsb.inodes, UInt32.lt_iff_toNat_lt]
      exact IndexTable.findFree_lt hslot hlength
    simp only
    cases bitmap.firstFree sb.dataStartBlock with
    | none => exact .throw fun _ hs => hs
    | some block =>
      refine .bind (newIndex_ends hE) fun index _ => ?_
      -- all that will be written has been read, so from here on nothing fails
      refine Ends.weaken ?_ hbegun
      refine .bind (writeSuper_ends ha hsuper _) fun _ _ => ?_
      refine .bind (writeBitmap_ends ha hsb hbitmap hcounted htotal block) fun _ _ => ?_
      refine .bind (writeSlot_ends ha hsb htable hinode _) fun _ _ => ?_
      refine .bind (writeSuper_ends ha hsuper _) fun _ _ => ?_
      exact .bind (.note ha.note _) fun _ _ => .pure trivial

/-- **Only an error of the drive leaves a file half removed.** -/
theorem release_ends (hv : Vouches drive good I) (inode : UInt32) :
    Ends I (release drive inode) (fun _ => True) (fun _ => True)
      fun e t => I t ∨ ∃ cause, e = .io cause := by
  have hE : ∀ (e : VolumeError) t, I t → I t ∨ ∃ cause, e = .io cause := fun _ _ h => .inl h
  have hio : ∀ (cause : AtaError) (t : δ), I t ∨ ∃ cause', VolumeError.io cause = .io cause' :=
    fun cause _ => .inr ⟨cause, rfl⟩
  unfold release
  refine .bind (mount_ends hv hE) fun sb ⟨_, hsb⟩ => ?_
  refine .bind (readSlot_ends hv hE hsb inode) fun record hinode => ?_
  refine .refuse (fun _ hs => .inl hs) fun _ => ?_
  -- from here on the drive can fail anywhere, but nothing else can
  refine Ends.weaken ?_ fun _ _ => trivial
  refine .bind (write_anywhere hio _ _) fun _ _ => ?_
  refine .bind (writeSlot_anywhere hio hsb hinode _) fun _ _ => ?_
  refine .bind (readBitmap_anywhere hio _) fun bitmap htotal => ?_
  have hfreed := bitmap.total_setFree ({ sb with state := stateDirty }.lbaBlock record.firstBlock)
  generalize bitmap.setFree ({ sb with state := stateDirty }.lbaBlock record.firstBlock) = r
    at hfreed ⊢
  refine .bind (writeBitmap_anywhere hio (hfreed.trans htotal)) fun _ _ => ?_
  exact .bind (write_anywhere hio _ _) fun _ _ => .pure trivial

/-- **Failed calls leave the disks as they were.** On every machine whose disks are where
the driver found them, whatever they hold and whatever is wrong with them: if no file can
be made, for whatever reason, and if a file cannot be removed, for any reason but an error
of the drive, every drive is what it was, with all its sectors. -/
theorem failed_calls_unchanged {s : Disks Bus} (h : s.controller.Finds s.machine) (drive : UInt8) :
    (∀ e s', allocate drive s = .error e s' → s.machine.SameDrives s'.machine)
      ∧ ∀ inode e s', release drive inode s = .error e s' → (∀ cause, e ≠ .io cause) →
        s.machine.SameDrives s'.machine := by
  obtain ⟨good, J, hv, ha, hbegun⟩ := Disks.exists_vouches h drive
  refine ⟨fun e s' hrun => ?_, fun inode e s' hrun hne => ?_⟩
  · exact ((allocate_ends hv ha hbegun).failed (.refl s) hrun).drives
  · rcases (release_ends hv inode).failed (.refl s) hrun with hsame | ⟨cause, hio⟩
    · exact hsame.drives
    · exact absurd hio (hne cause)

/-- A disk with a volume with one file, of which a sector in the index table is bad. -/
def scratchedDisk : Drive := ({ Drive.blankWith 1024 {} with medium := Medium.lone }).damaged [100]

/-- The disk in its machine, as far as it works. -/
abbrev scratchedView : DriveView (Disks Bus) := Disks.aloneView (scratchedDisk.spared [100])

theorem scratched_serves : scratchedView.Serves 0 (scratchedDisk.spared [100]) :=
  Disks.aloneView_serves fun h => h.1

theorem scratched_holds : scratchedView.Holds Medium.lone.content (.alone scratchedDisk) :=
  Disks.holds_alone (d := scratchedDisk) ⟨⟨rfl, rfl, rfl⟩, rfl, fun _ => Iff.rfl⟩

theorem spared_scratched {j : Nat} (hj : j < 131) (hne : j ≠ 100) :
    scratchedDisk.spared [100] j := by
  have hcapacity : scratchedDisk.medium.capacity = 1024 := Medium.capacity_lone
  exact spared_other (by omega) hj hne

/-- No file can be made on it. -/
theorem allocate_scratched :
    ∃ cause s', allocate 0 (Disks.alone scratchedDisk) = .error (.io cause) s' := by
  have hsb := tidy_lone.mounts.laidOut
  have hspan : 2 + Medium.loneSuper.bitmapSectors.toNat = 3 := by decide
  have hbitmap : Within (scratchedDisk.spared [100]) 2 Medium.loneSuper.bitmapSectors.toNat :=
    fun j _ hj => spared_scratched (by omega) (by omega)
  have htable : ¬ Within (scratchedDisk.spared [100]) Medium.loneSuper.inodeTableLba.toNat 128 :=
    fun h => absurd (h 100 (by decide) (by decide)).2.2 (by decide)
  have hfails : Fails (scratchedView.Holds Medium.lone.content) (allocate 0) _ _ :=
    (mount_succeeds scratched_serves (spared_scratched (by decide) (by decide))
      tidy_lone.mounts).fails ((readBitmap_succeeds hsb scratched_serves hbitmap).fails
        (readTable_fails hsb scratched_serves Disks.aloneView_guards htable).bind)
  obtain ⟨_, s', hrun, ⟨cause, rfl⟩, -⟩ := hfails _ scratched_holds
  exact ⟨cause, s', hrun⟩

/-- There is no file in slot 5. -/
theorem release_scratched :
    ∃ s', release 0 5 (Disks.alone scratchedDisk) = .error (.invalidInode 5) s' := by
  have hread := readSlot_succeeds (m := Medium.lone.content) tidy_lone.mounts.laidOut
    scratched_serves 5 (spared_scratched (by decide) (by decide))
  have hfree : ((Contents.under Medium.loneSuper Medium.lone.content).slot 5).isFree = true := by
    rw [Medium.under_lone]
    rfl
  have hfails : Fails (scratchedView.Holds Medium.lone.content) (release 0 5)
      (· = .invalidInode 5) (scratchedView.Holds Medium.lone.content) := by
    refine (mount_succeeds scratched_serves (spared_scratched (by decide) (by decide))
      tidy_lone.mounts).fails (hread.fails ?_)
    rw [hfree]
    exact Fails.bind (.throw rfl)
  obtain ⟨_, s', hrun, rfl, -⟩ := hfails _ scratched_holds
  exact ⟨s', hrun⟩

/-- Neither call has changed the disk. -/
theorem failed_calls_unchanged_scratched :
    let s := Disks.alone scratchedDisk
    s.controller.Finds s.machine
      ∧ (∃ cause s', allocate 0 s = .error (.io cause) s' ∧ s.machine.SameDrives s'.machine)
      ∧ ∃ s', release 0 5 s = .error (.invalidInode 5) s' ∧ s.machine.SameDrives s'.machine := by
  intro s
  have hfinds : s.controller.Finds s.machine := finds_single rfl
  obtain ⟨hallocate, hrelease⟩ := failed_calls_unchanged hfinds 0
  obtain ⟨cause, s₁, hfailed⟩ := allocate_scratched
  obtain ⟨s₂, hrejected⟩ := release_scratched
  exact ⟨hfinds, ⟨cause, s₁, hfailed, hallocate _ s₁ hfailed⟩, s₂, hrejected,
    hrelease 5 _ s₂ hrejected fun cause h => nomatch h⟩

end Volume

end AtaVolume
