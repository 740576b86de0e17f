/-
AtaVolume.Proofs.Volume.Effects — the parts of any volume, read and written exactly.

On a drive of which some sectors work, a call `Succeeds` with one result and one
content afterwards, or it `Fails`. One such law holds for each call that moves a part
of a volume, under every superblock that passes the checks, whether or not the volume
was made on this drive. All that a part needs is that its own sectors work.
-/
import AtaVolume.Proofs.Device.Serving
import AtaVolume.Proofs.Exact.Calls
import AtaVolume.Proofs.Volume.Contents

namespace AtaVolume

open DriveView (Within)

namespace Volume

/-! ## §1 Calls that succeed, and calls that fail -/

section Calls

variable {δ α β : Type} {I J K : δ → Prop} {x : VolumeAction δ α} {f : α → VolumeAction δ β}
  {a : α} {b : β} {E : VolumeError → Prop}

/-- From a state in `I` the call gives `a` and ends in a state in `J`. -/
def Succeeds (I : δ → Prop) (x : VolumeAction δ α) (a : α) (J : δ → Prop) : Prop :=
  ∀ s, I s → ∃ t, x s = .ok a t ∧ J t

/-- From a state in `I` the call fails with an error in `E` and ends in a state in `J`. -/
def Fails (I : δ → Prop) (x : VolumeAction δ α) (E : VolumeError → Prop) (J : δ → Prop) : Prop :=
  ∀ s, I s → ∃ e t, x s = .error e t ∧ E e ∧ J t

theorem Succeeds.pure (a : α) : Succeeds I (Pure.pure a) a I := fun s hs => ⟨s, rfl, hs⟩

theorem Succeeds.bind (hx : Succeeds I x a J) (hf : Succeeds J (f a) b K) :
    Succeeds I (x >>= f) b K := by
  intro s hs
  obtain ⟨t, hxs, ht⟩ := hx s hs
  obtain ⟨u, hft, hu⟩ := hf t ht
  exact ⟨u, bind_run_eq_ok.2 ⟨a, t, hxs, hft⟩, hu⟩

theorem Succeeds.mono {I' J' : δ → Prop} (hx : Succeeds I x a J) (hI : ∀ s, I' s → I s)
    (hJ : ∀ s, J s → J' s) : Succeeds I' x a J' := by
  intro s hs
  obtain ⟨t, hrun, ht⟩ := hx s (hI s hs)
  exact ⟨t, hrun, hJ t ht⟩

theorem Fails.throw {e : VolumeError} (he : E e) : Fails I (throw e : VolumeAction δ α) E I :=
  fun s hs => ⟨e, s, rfl, he, hs⟩

theorem Fails.mono {E' : VolumeError → Prop} (hx : Fails I x E J) (hE : ∀ e, E e → E' e) :
    Fails I x E' J := by
  intro s hs
  obtain ⟨e, t, hrun, he, ht⟩ := hx s hs
  exact ⟨e, t, hrun, hE e he, ht⟩

/-- A call that fails ends what would follow it. -/
theorem Fails.bind (hx : Fails I x E J) : Fails I (x >>= f) E J := by
  intro s hs
  obtain ⟨e, t, hrun, he, ht⟩ := hx s hs
  exact ⟨e, t, bind_run_error hrun f, he, ht⟩

theorem Succeeds.fails (hx : Succeeds I x a J) (hf : Fails J (f a) E K) :
    Fails I (x >>= f) E K := by
  intro s hs
  obtain ⟨t, hrun, ht⟩ := hx s hs
  obtain ⟨e, u, hfails, he, hu⟩ := hf t ht
  refine ⟨e, u, ?_, he, hu⟩
  simp only [Bind.bind, EStateM.bind, hrun, hfails]

/-- What fails does not end well. -/
theorem Fails.not_ok (hx : Fails I x E J) {s t : δ} (hs : I s) : x s ≠ .ok a t := by
  obtain ⟨e, u, hrun, -⟩ := hx s hs
  rw [hrun]
  exact fun h => nomatch h

/-- What succeeds gives one result. -/
theorem Succeeds.ok_iff (hx : Succeeds I x a J) {s : δ} (hs : I s) {a' : α} :
    (∃ t, x s = .ok a' t) ↔ a' = a := by
  obtain ⟨t, hrun, -⟩ := hx s hs
  rw [hrun]
  constructor
  · rintro ⟨t', h⟩
    cases h
    rfl
  · rintro rfl
    exact ⟨t, rfl⟩

/-- What succeeds does not fail. -/
theorem Succeeds.not_error (hx : Succeeds I x a J) {s : δ} (hs : I s) {e : VolumeError} {t : δ} :
    x s ≠ .error e t := by
  obtain ⟨u, hrun, -⟩ := hx s hs
  rw [hrun]
  exact fun h => nomatch h

end Calls

variable {δ : Type} [BlockDevice δ] {v : DriveView δ} {drive : UInt8} {good : Nat → Prop}
  {m : Sectors} {sb : Superblock}

/-! ## §2 Sectors -/

theorem note_succeeds (hv : v.Serves drive good) (report : Report) :
    Succeeds (v.Holds m) (note report) () (v.Holds m) :=
  fun _ hs => ⟨_, rfl, hv.note hs report⟩

omit [BlockDevice δ] in
theorem received_succeeds {m : Sectors} {bytes : Bytes} {o : ReadOutcome δ}
    (h : o.Reads (v.Holds m) False bytes) :
    ∃ t, received o = .ok bytes t ∧ v.Holds m t := by
  obtain ⟨result, buffer, s⟩ := o
  cases result with
  | ok _ => exact ⟨s, by rw [received, show buffer = bytes from h.ok rfl], h.inv⟩
  | error e => exact (h.error e rfl).elim

theorem readSector_succeeds (hv : v.Serves drive good) {lba : UInt32} (h : good lba.toNat) :
    Succeeds (v.Holds m) (readSector drive lba) (m lba.toNat).toBytes (v.Holds m) := by
  intro s hs
  have hgood : Within good lba.toNat 1 := fun j hj hj' => by rwa [show j = lba.toNat by omega]
  have hread := hv.read m hgood hs (Nat.le_refl 1) (by decide)
    (Nat.le_refl _) (Nat.le_refl _) (size_zeroes (1 * 512))
  rw [Sectors.bytes_one] at hread
  exact received_succeeds hread

theorem readSectors_succeeds (hv : v.Serves drive good) {lba : UInt32} {n : Nat} (hn : 1 ≤ n)
    (h : Within good lba.toNat n) :
    Succeeds (v.Holds m) (readSectors drive lba n) (m.bytes lba.toNat n) (v.Holds m) :=
  fun _ hs => received_succeeds (hv.readRange hs hn h (size_zeroes _))

theorem write_succeeds (hv : v.Serves drive good) {lba : UInt32} {data : Bytes} {n : Nat}
    (hn : 1 ≤ n) (hdata : data.size = n * 512) (h : Within good lba.toNat n) :
    Succeeds (v.Holds m) (write drive lba data) ()
      (v.Holds (m.overlay lba.toNat n (Sectors.ofRun data))) := by
  intro s hs
  have hwrote := hv.write hs hn hdata h
  unfold write
  cases hresult : BlockDevice.writeSectors drive lba data s with
  | ok _ t =>
    rw [hresult] at hwrote
    exact ⟨t, rfl, hwrote⟩
  | error e t =>
    rw [hresult] at hwrote
    exact hwrote.1.elim

theorem writeSector_succeeds (hv : v.Serves drive good) {lba : UInt32} {sector : Sector}
    (h : good lba.toNat) :
    Succeeds (v.Holds m) (write drive lba sector.toBytes) ()
      (v.Holds (Function.update m lba.toNat sector)) := by
  have hwrite := write_succeeds (m := m) hv (Nat.le_refl 1)
    (show sector.toBytes.size = 1 * 512 by rw [Sector.size_toBytes])
    (show Within good lba.toNat 1 from fun j hj hj' => by rwa [show j = lba.toNat by omega])
  rw [Sectors.overlay_succ, Sectors.overlay_zero, Sectors.ofRun_toBytes] at hwrite
  exact hwrite

theorem readSectors_fails (hv : v.Serves drive good) (hg : v.Guards drive good) {lba : UInt32}
    {n : Nat} (hn : 1 ≤ n) (hend : lba.toNat + n < 2 ^ 32) (h : ¬ Within good lba.toNat n) :
    Fails (v.Holds m) (readSectors drive lba n) (fun e => ∃ cause, e = .io cause) (v.Holds m) := by
  intro s hs
  obtain ⟨e, hresult, hholds⟩ := hg.readRange hv hs hn hend h (size_zeroes (n * 512))
  unfold readSectors
  generalize BlockDevice.readRange drive lba (zeroes (n * sectorSize)) s = o at hresult hholds ⊢
  obtain ⟨result, buffer, t⟩ := o
  obtain rfl : result = .error e := hresult
  exact ⟨_, t, rfl, ⟨e, rfl⟩, hholds⟩

/-! ## §3 Parts of a volume -/

/-- The superblock on the drive is `sb`, and it can be used. -/
structure Mounts (m : Sectors) (sb : Superblock) : Prop where
  super : Superblock.decode (m 1).toBytes = sb
  valid : sb.isValid = true
  layout : sb.checkLayout = .ok ()

theorem Mounts.laidOut (h : Mounts m sb) : sb.LaidOut := Superblock.laidOut_of_checkLayout h.layout

/-- The sectors work in which a volume keeps its superblock, bitmap and index table. -/
structure Works (good : Nat → Prop) (sb : Superblock) : Prop where
  super : good 1
  bitmap : Within good 2 sb.bitmapSectors.toNat
  table : Within good sb.inodeTableLba.toNat 128

/-- A drive that has the sectors in front of the data has all that a volume keeps there. -/
theorem works_of_room (hsb : sb.LaidOut) {size : Nat} (h : sb.inodeTableLba.toNat + 128 ≤ size) :
    Works (fun j => j < size) sb := by
  obtain ⟨-, hbitmap, -⟩ := hsb.before_data
  exact ⟨by omega, fun j _ hj => by omega, fun j _ hj => by omega⟩

/-- The bitmap of a volume, with its bits counted. -/
def bitmapOf (sb : Superblock) (m : Sectors) : BlockBitmap :=
  .ofBytes (m.bytes 2 sb.bitmapSectors.toNat) sb.totalBlocks

theorem readSuper_succeeds (hv : v.Serves drive good) (h : good 1) :
    Succeeds (v.Holds m) (readSuper drive) (.decode (m 1).toBytes) (v.Holds m) :=
  (readSector_succeeds hv (show good superblockLba.toNat from h)).bind (.pure _)

theorem mount_succeeds (hv : v.Serves drive good) (h : good 1) (hm : Mounts m sb) :
    Succeeds (v.Holds m) (mount drive) sb (v.Holds m) := by
  have hsuper := readSuper_succeeds (m := m) hv h
  rw [hm.super] at hsuper
  refine hsuper.bind ?_
  rw [hm.valid, hm.layout]
  simp only [Bool.not_true, Bool.false_eq_true, if_false]
  split
  · exact (note_succeeds hv _).bind (.pure sb)
  · exact .pure sb

/-- **A superblock that was mounted is the one on the drive.** -/
theorem mounts_of_mount (hv : v.Serves drive good) (hgood : good 1) {s t : δ} (hs : v.Holds m s)
    (h : mount drive s = .ok sb t) : Mounts m sb := by
  have hsuper := readSuper_succeeds (m := m) hv hgood
  cases hvalid : (Superblock.decode (m 1).toBytes).isValid with
  | false =>
    have hfails : Fails (v.Holds m) (mount drive) (fun _ => True) (v.Holds m) := by
      refine hsuper.fails ?_
      rw [hvalid]
      exact Fails.bind (.throw trivial)
    exact absurd h (hfails.not_ok hs)
  | true =>
    cases hlayout : (Superblock.decode (m 1).toBytes).checkLayout with
    | error c =>
      have hfails : Fails (v.Holds m) (mount drive) (fun _ => True) (v.Holds m) := by
        refine hsuper.fails ?_
        rw [hvalid, hlayout]
        exact .throw trivial
      exact absurd h (hfails.not_ok hs)
    | ok _ =>
      have hm : Mounts m (Superblock.decode (m 1).toBytes) := ⟨rfl, hvalid, hlayout⟩
      obtain ⟨t', hrun, -⟩ := mount_succeeds hv hgood hm s hs
      rw [hrun] at h
      cases h
      exact hm

theorem newIndex_succeeds (hv : v.Serves drive good) :
    Succeeds (v.Holds m) (newIndex drive) Index.regular (v.Holds m) := by
  intro s hs
  obtain ⟨n, hn⟩ := hv.present hs.sound
  have htotal : totalSectors drive s = .ok n s := by
    rw [totalSectors, hn]
  exact ⟨s, bind_run_eq_ok.2 ⟨n, s, htotal, rfl⟩, hs⟩

theorem writeSuper_succeeds (hv : v.Serves drive good) (h : good 1) (sb : Superblock) :
    Succeeds (v.Holds m) (writeSuper drive sb) () (v.Holds (Function.update m 1 sb.encode)) :=
  writeSector_succeeds hv h

section LaidOut

variable (hsb : sb.LaidOut)

include hsb

theorem readBitmap_succeeds (hv : v.Serves drive good) (h : Within good 2 sb.bitmapSectors.toNat) :
    Succeeds (v.Holds m) (readBitmap drive sb) (bitmapOf sb m) (v.Holds m) := by
  have hread := readSectors_succeeds (m := m) hv hsb.before_data.1
    (show Within good bitmapStart.toNat _ from h)
  rw [← hsb.bitmapStart] at hread
  refine hread.bind ?_
  rw [hsb.bitmapStart]
  exact .pure _

/-- A bitmap that cannot be read as a whole is not read. -/
theorem readBitmap_fails (hv : v.Serves drive good) (hg : v.Guards drive good)
    (h : ¬ Within good 2 sb.bitmapSectors.toNat) :
    Fails (v.Holds m) (readBitmap drive sb) (fun e => ∃ cause, e = .io cause) (v.Holds m) := by
  obtain ⟨hbits, hbitmap, htable⟩ := hsb.before_data
  have hend := sb.dataStartLba.toNat_lt
  have hroom : 2 + sb.bitmapSectors.toNat < 2 ^ 32 := by omega
  have hread := readSectors_fails (m := m) hv hg hbits
    (show bitmapStart.toNat + sb.bitmapSectors.toNat < 2 ^ 32 from hroom) h
  rw [← hsb.bitmapStart] at hread
  exact hread.bind

omit hsb in
theorem readTable_succeeds (hv : v.Serves drive good) (h : Within good sb.inodeTableLba.toNat 128) :
    Succeeds (v.Holds m) (readTable drive sb) (.ofSlots (Contents.under sb m).slot)
      (v.Holds m) := by
  have hread := readSectors_succeeds (m := m) hv (n := 128) (by decide) h
  refine hread.bind ?_
  rw [IndexTable.ofBytes_bytes]
  exact .pure _

theorem readTable_fails (hv : v.Serves drive good) (hg : v.Guards drive good)
    (h : ¬ Within good sb.inodeTableLba.toNat 128) :
    Fails (v.Holds m) (readTable drive sb) (fun e => ∃ cause, e = .io cause) (v.Holds m) := by
  obtain ⟨-, -, htable⟩ := hsb.before_data
  have hend := sb.dataStartLba.toNat_lt
  exact (readSectors_fails hv hg (n := 128) (by decide) (by omega) h).bind

/-- The sector of a slot. -/
theorem slotLba_laidOut (i : Fin 128) :
    ∃ lba, IndexTable.slotLba sb.inodeTableLba (UInt32.ofNat i.val) = .ok lba
      ∧ lba.toNat = sb.inodeTableLba.toNat + i.val := by
  obtain ⟨-, -, htable⟩ := hsb.before_data
  have hend := sb.dataStartLba.toNat_lt
  exact IndexTable.slotLba_of_le (by omega) i

theorem readSlot_succeeds (hv : v.Serves drive good) (i : Fin 128)
    (h : good (sb.inodeTableLba.toNat + i.val)) :
    Succeeds (v.Holds m) (readSlot drive sb (UInt32.ofNat i.val)) ((Contents.under sb m).slot i)
      (v.Holds m) := by
  obtain ⟨lba, hlba, hnat⟩ := slotLba_laidOut hsb i
  have hexists : ¬ sb.totalInodes ≤ UInt32.ofNat i.val := by
    rw [hsb.inodes, UInt32.le_iff_toNat_le, IndexTable.toNat_slot]
    exact Nat.not_le.2 i.isLt
  have hread := readSector_succeeds (m := m) hv (show good lba.toNat by rwa [hnat])
  rw [hnat] at hread
  simp only [readSlot, if_neg hexists, hlba, ofExcept, pure_bind]
  exact hread.bind (.pure _)

/-- There is no record in a slot that does not exist. -/
theorem readSlot_fails {inode : UInt32} (h : 128 ≤ inode.toNat) :
    Fails (v.Holds m) (readSlot drive sb inode) (· = .invalidInode inode) (v.Holds m) := by
  have hexists : sb.totalInodes ≤ inode := by
    rw [hsb.inodes]
    exact UInt32.le_iff_toNat_le.2 h
  simp only [readSlot, if_pos hexists]
  exact Fails.bind (.throw rfl)

theorem writeBitmap_succeeds (hv : v.Serves drive good) (h : Within good 2 sb.bitmapSectors.toNat)
    {bitmap : BlockBitmap} (htotal : bitmap.total = sb.totalBlocks)
    (hsize : bitmap.bits.size = (bitmap.total.toNat + 7) / 8) :
    Succeeds (v.Holds m) (writeBitmap drive sb bitmap) ()
      (v.Holds (m.overlay 2 sb.bitmapSectors.toNat (Sectors.ofRun bitmap.toBytes))) := by
  have hdata := BlockBitmap.size_toBytes hsize
  rw [htotal, ← sb.toNat_bitmapSectors] at hdata
  rw [writeBitmap, if_neg (not_not_intro htotal), hsb.bitmapStart]
  exact write_succeeds hv hsb.before_data.1 hdata h

theorem writeSlot_succeeds (hv : v.Serves drive good) (i : Fin 128)
    (h : good (sb.inodeTableLba.toNat + i.val)) (record : Index) :
    Succeeds (v.Holds m) (writeSlot drive sb (UInt32.ofNat i.val) record) ()
      (v.Holds (Function.update m (sb.inodeTableLba.toNat + i.val) record.encode)) := by
  obtain ⟨lba, hlba, hnat⟩ := slotLba_laidOut hsb i
  have hwrite : Succeeds (v.Holds m) (write drive lba record.encode.toBytes) () _ :=
    writeSector_succeeds hv (by rwa [hnat])
  rw [hnat] at hwrite
  simp only [writeSlot, hlba, ofExcept, pure_bind]
  exact hwrite

end LaidOut

end Volume

end AtaVolume
