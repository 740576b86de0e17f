/-
AtaVolume.Proofs.Volume.Parts — reading and writing the parts of a volume.

One law for each call that moves a superblock, the bitmap, the index table or a
slot between a drive and memory. The superblock that tells where they lie is
always that of the drive's size, with some counters (`Superblock.counted`).
-/
import AtaVolume.Proofs.Volume.Performs

namespace AtaVolume

open Superblock

/-- A bitmap of a volume on a drive of this size that has the bits of `used`. -/
structure BlockBitmap.Agrees (m : BlockBitmap) (size : UInt32) (used : Nat → Bool) : Prop where
  total : m.total = (forSize size).totalBlocks
  length : m.bits.size = (blockCount size + 7) / 8
  bits : ∀ b, b < blockCount size → bit m.bits b = used b

namespace BlockBitmap.Agrees

variable {m : BlockBitmap} {size : UInt32} {used : Nat → Bool}

theorem toNat_total (h : m.Agrees size used) : m.total.toNat = blockCount size := by
  rw [h.total]
  rfl

theorem setUsed (h : m.Agrees size used) {block : UInt32} (hblock : block.toNat < blockCount size) :
    (m.setUsed block).2.Agrees size (Function.update used block.toNat true) := by
  have htotal := h.toNat_total
  have hlength := h.length
  refine ⟨?_, ?_, fun b hb => ?_⟩
  · rw [total_setUsed, h.total]
  · rw [size_bits_setUsed, h.length]
  · rw [bit_setUsed (by omega) (by omega), h.bits b hb]
    by_cases hbx : b = block.toNat
    · rw [hbx, Function.update_self, beq_self_eq_true, Bool.or_true]
    · rw [Function.update_of_ne hbx, beq_false_of_ne hbx, Bool.or_false]

theorem setFree (h : m.Agrees size used) {block : UInt32} (hblock : block.toNat < blockCount size) :
    (m.setFree block).2.Agrees size (Function.update used block.toNat false) := by
  have htotal := h.toNat_total
  have hlength := h.length
  refine ⟨?_, ?_, fun b hb => ?_⟩
  · rw [total_setFree, h.total]
  · rw [size_bits_setFree, h.length]
  · rw [bit_setFree (by omega) (by omega), h.bits b hb]
    by_cases hbx : b = block.toNat
    · rw [hbx, Function.update_self, bne_self_eq_false, Bool.and_false]
    · rw [Function.update_of_ne hbx, bne_iff_ne.2 hbx, Bool.and_true]

/-- The bitmap has the size of its area. -/
theorem size_toBytes (h : m.Agrees size used) : m.toBytes.size = bitmapSpan size * 512 := by
  rw [BlockBitmap.size_toBytes (by rw [h.length, h.toNat_total]), h.toNat_total, bitmapSpan_eq]

theorem bit_toBytes (h : m.Agrees size used) {b : Nat} (hb : b < blockCount size) :
    bit m.toBytes b = used b := by
  rw [BlockBitmap.bit_toBytes (by rw [h.length, h.toNat_total]) (by rw [h.toNat_total]; exact hb),
    h.bits b hb]

end BlockBitmap.Agrees

namespace Volume

variable {δ α : Type} {v : DriveView δ} {drive : UInt8} {fails : Prop}
  {κ : Contents}

/-! ## §1 Reading -/

/-- The call brings the bytes of `n` sectors, or fails. -/
structure Fetches (v : DriveView δ) (fails : Prop) (x : VolumeAction δ Bytes) (lba n : Nat) :
    Prop where
  ends : ∀ m s, v.Holds m s → match x s with
    | .ok bytes s' => bytes = m.bytes lba n ∧ v.Holds m s'
    | .error _ s' => fails ∧ v.Holds m s'

theorem received_reads {m : Sectors} {bytes : Bytes} {o : ReadOutcome δ}
    (h : o.Reads (v.Holds m) fails bytes) :
    match received o with
    | .ok buffer s => buffer = bytes ∧ v.Holds m s
    | .error _ s => fails ∧ v.Holds m s := by
  obtain ⟨result, buffer, s⟩ := o
  cases result with
  | ok _ => exact ⟨h.ok rfl, h.inv⟩
  | error e => exact ⟨h.error e rfl, h.inv⟩

/-- What is made of bytes that were read. -/
theorem Fetches.performs {x : VolumeAction δ Bytes} {lba n : Nat} (hx : Fetches v fails x lba n)
    {f : Bytes → α} {R : α → Prop}
    (hf : ∀ m, Contents.of v.size m = κ → R (f (m.bytes lba n))) :
    v.Performs fails κ (x >>= fun bytes => pure (f bytes)) [] R := by
  constructor
  intro s hs hκ
  have hread := hx.ends _ s ⟨hs, rfl⟩
  simp only [bind, EStateM.bind]
  cases hresult : x s with
  | ok bytes s' =>
    rw [hresult] at hread
    obtain ⟨rfl, hholds⟩ := hread
    refine ⟨hholds.sound, hf _ hκ, ?_⟩
    rw [DriveView.contents, hholds.image]
    exact hκ
  | error e s' =>
    rw [hresult] at hread
    obtain ⟨hfails, hholds⟩ := hread
    refine ⟨hholds.sound, hfails, [], List.prefix_refl [], ?_⟩
    rw [DriveView.contents, hholds.image]
    exact hκ

variable [BlockDevice δ]

theorem readSector_fetches (hv : v.Stores drive fails) (lba : UInt32)
    (h : lba.toNat + 1 ≤ v.size.toNat) : Fetches v fails (readSector drive lba) lba.toNat 1 := by
  constructor
  intro m s hs
  exact received_reads (hv.read m hs (Nat.le_refl 1) (by decide) (Nat.zero_le _) h (size_zeroes _))

theorem readSectors_fetches (hv : v.Stores drive fails) (lba : UInt32) (n : Nat) (hn : 1 ≤ n)
    (h : lba.toNat + n ≤ v.size.toNat) :
    Fetches v fails (readSectors drive lba n) lba.toNat n := by
  constructor
  intro m s hs
  exact received_reads (BlockDevice.readRange_reads (hv.read m) v.size.toNat_lt hn hs (Nat.zero_le _)
    h (size_zeroes _))

theorem note_performs (hv : v.Stores drive fails) (report : Report) :
    v.Performs fails κ (note report) [] (fun _ => True) := by
  constructor
  intro s hs hκ
  have hnoted := hv.note ⟨hs, rfl⟩ report
  refine ⟨hnoted.sound, trivial, ?_⟩
  rw [DriveView.contents, hnoted.image]
  exact hκ

theorem totalSectors_performs (hv : v.Stores drive fails) :
    v.Performs fails κ (totalSectors drive) [] (· = v.size) := by
  constructor
  intro s hs hκ
  rw [totalSectors, hv.size hs]
  exact ⟨hs, rfl, hκ⟩

variable {freeBlocks freeInodes : UInt32} {state : UInt8}

theorem readSuper_performs (hv : v.Stores drive fails) (h : Ordered v.size) :
    v.Performs fails κ (readSuper drive) [] (· = κ.super) := by
  have hroom := h.inside
  have hfetch := readSector_fetches hv superblockLba (show 1 + 1 ≤ v.size.toNat by omega)
  refine hfetch.performs fun m hm => ?_
  rw [← hm]
  show decode (m.bytes 1 1) = _
  rw [Sectors.bytes_one]
  rfl

/-- The bits of the bitmap that is read, and how many of its blocks are free. -/
theorem readBitmap_performs (hv : v.Stores drive fails) (h : Ordered v.size) :
    v.Performs fails κ (readBitmap drive (counted v.size freeBlocks freeInodes state)) []
      (fun m => m.Agrees v.size κ.used ∧ m.freeCount = UInt32.ofNat (blockCount v.size)
        - UInt32.ofNat ((List.range (blockCount v.size)).countP κ.used)) := by
  have hroom := h.inside
  have hbitmap := h.bitmap
  have hpos := h.bits
  have hblocks := h.room
  have hfetch := readSectors_fetches hv bitmapStart (bitmapSpan v.size) (by omega)
    (show 2 + bitmapSpan v.size ≤ v.size.toNat by omega)
  refine hfetch.performs fun m hm => ?_
  have hbits : ∀ b, b < blockCount v.size →
      BlockBitmap.bit (m.bytes 2 (bitmapSpan v.size)) b = κ.used b := by
    intro b hb
    rw [← hm]
    simp only [Contents.of, hb, decide_true, Bool.true_and]
  refine ⟨⟨rfl, BlockBitmap.size_bits_ofBytes _ _, fun b hb => ?_⟩, ?_⟩
  · rw [← hbits b hb]
    exact BlockBitmap.bit_ofBytes _ hb
  · have hcount : (List.range (blockCount v.size)).countP
          (fun b => BlockBitmap.bit (m.bytes 2 (bitmapSpan v.size)) b)
        = (List.range (blockCount v.size)).countP κ.used :=
      List.countP_congr fun b hb => by rw [hbits b (List.mem_range.1 hb)]
    rw [← hcount, BlockBitmap.freeCount_ofBytes, blockCount, UInt32.ofNat_toNat]
    rfl

theorem readTable_performs (hv : v.Stores drive fails) (h : Ordered v.size) :
    v.Performs fails κ (readTable drive (counted v.size freeBlocks freeInodes state)) []
      (· = .ofSlots κ.slot) := by
  have hroom := h.inside
  have hfetch := readSectors_fetches hv (counted v.size freeBlocks freeInodes state).inodeTableLba
    indexSlots.toNat (by decide) hroom
  refine hfetch.performs fun m hm => ?_
  rw [← hm]
  exact IndexTable.ofBytes_bytes m _

/-! ## §2 Slots -/

theorem slotLba_eq {size tableLba : UInt32} (h : Ordered size)
    (htable : tableLba.toNat = tableStart size) (i : Fin 128) :
    ∃ lba, IndexTable.slotLba tableLba (UInt32.ofNat i.val) = .ok lba
      ∧ lba.toNat = tableStart size + i.val := by
  have hroom := h.inside
  have hsize := size.toNat_lt
  rw [← htable]
  exact IndexTable.slotLba_of_le (by omega) i

/-- The record of a slot. -/
theorem readSlot_performs (hv : v.Stores drive fails) (h : Ordered v.size) (i : Fin 128) :
    v.Performs fails κ
      (readSlot drive (counted v.size freeBlocks freeInodes state) (UInt32.ofNat i.val)) []
      (· = κ.slot i) := by
  have hroom := h.inside
  obtain ⟨lba, hlba, hnat⟩ := slotLba_eq h
    (show (counted v.size freeBlocks freeInodes state).inodeTableLba.toNat = _ from rfl) i
  have hexists : ¬ (counted v.size freeBlocks freeInodes state).totalInodes ≤ UInt32.ofNat i.val := by
    rw [UInt32.le_iff_toNat_le, IndexTable.toNat_slot]
    exact Nat.not_le.2 i.isLt
  have hfetch := readSector_fetches hv lba (by omega)
  simp only [readSlot, if_neg hexists, hlba, ofExcept, pure_bind]
  refine hfetch.performs fun m hm => ?_
  rw [← hm, Sectors.bytes_one, hnat]
  rfl

/-- There is no record in a slot that does not exist. -/
theorem readSlot_refuses {inode : UInt32} (hinode : 128 ≤ inode.toNat) :
    v.Refuses fails κ (readSlot drive (counted v.size freeBlocks freeInodes state) inode)
      (.invalidInode inode) := by
  have hexists : (counted v.size freeBlocks freeInodes state).totalInodes ≤ inode :=
    UInt32.le_iff_toNat_le.2 hinode
  simp only [readSlot, if_pos hexists]
  exact DriveView.Refuses.bind .throw

/-! ## §3 Writing -/

/-- A write ends with all sectors replaced, or with the first ones of them. -/
theorem write_runs (hv : v.Stores drive fails) {lba : UInt32} {data : Bytes} {n : Nat}
    {Q : Unit → Contents → Prop} {E : VolumeError → Contents → Prop} (hn : 1 ≤ n)
    (hdata : data.size = n * 512) (hroom : lba.toNat + n ≤ v.size.toNat)
    (hall : ∀ m, Contents.of v.size m = κ →
      Q () (.of v.size (m.overlay lba.toNat n (Sectors.ofRun data))))
    (hcut : fails → ∀ m, Contents.of v.size m = κ → ∀ k, k ≤ n → ∀ e,
      E e (.of v.size (m.overlay lba.toNat k (Sectors.ofRun data)))) :
    v.Runs κ (write drive lba data) Q E := by
  constructor
  intro s hs hκ
  have hwrote := hv.write ⟨hs, rfl⟩ hn hdata hroom
  rw [write]
  cases hresult : BlockDevice.writeSectors drive lba data s with
  | ok _ s' =>
    rw [hresult] at hwrote
    refine ⟨hwrote.sound, ?_⟩
    rw [DriveView.contents, hwrote.image]
    exact hall _ hκ
  | error e s' =>
    rw [hresult] at hwrote
    obtain ⟨hfails, k, hk, hholds⟩ := hwrote
    refine ⟨hholds.sound, ?_⟩
    rw [DriveView.contents, hholds.image]
    exact hcut hfails _ hκ k hk _

/-- A write that shows one edit as a whole or not at all. -/
theorem write_performs (hv : v.Stores drive fails) {lba : UInt32} {data : Bytes} {n : Nat}
    {e : Edit} (hn : 1 ≤ n) (hdata : data.size = n * 512) (hroom : lba.toNat + n ≤ v.size.toNat)
    (hall : ∀ m, Contents.of v.size m = κ →
      Contents.of v.size (m.overlay lba.toNat n (Sectors.ofRun data)) = κ.edit e)
    (hcut : ∀ m, Contents.of v.size m = κ → ∀ k, k < n →
      Contents.of v.size (m.overlay lba.toNat k (Sectors.ofRun data)) = κ
        ∨ Contents.of v.size (m.overlay lba.toNat k (Sectors.ofRun data)) = κ.edit e) :
    v.Performs fails κ (write drive lba data) [e] (fun _ => True) := by
  refine write_runs hv hn hdata hroom ?_ ?_
  · intro m hm
    exact ⟨trivial, hall m hm⟩
  · intro hfails m hm k hk e'
    have hshows : Contents.of v.size (m.overlay lba.toNat k (Sectors.ofRun data)) = κ
        ∨ Contents.of v.size (m.overlay lba.toNat k (Sectors.ofRun data)) = κ.edit e := by
      rcases Nat.lt_or_eq_of_le hk with hlt | rfl
      · exact hcut m hm k hlt
      · exact .inr (hall m hm)
    refine ⟨hfails, ?_⟩
    rcases hshows with hsame | hmade
    · exact ⟨[], List.nil_prefix, hsame⟩
    · exact ⟨[e], List.prefix_refl _, hmade⟩

theorem writeSector_performs (hv : v.Stores drive fails) {lba : UInt32} {sector : Sector}
    {e : Edit} (hroom : lba.toNat + 1 ≤ v.size.toNat)
    (h : ∀ m, Contents.of v.size m = κ →
      Contents.of v.size (Function.update m lba.toNat sector) = κ.edit e) :
    v.Performs fails κ (write drive lba sector.toBytes) [e] (fun _ => True) := by
  refine write_performs hv (Nat.le_refl 1) (by rw [Sector.size_toBytes]) hroom ?_ ?_
  · intro m hm
    rw [Sectors.overlay_succ, Sectors.overlay_zero, Sectors.ofRun_toBytes]
    exact h m hm
  · intro m hm k hk
    obtain rfl : k = 0 := by omega
    rw [Sectors.overlay_zero]
    exact .inl hm

theorem writeSuper_performs (hv : v.Stores drive fails) (h : Ordered v.size) (sb : Superblock) :
    v.Performs fails κ (writeSuper drive sb) [.super sb] (fun _ => True) := by
  have hroom := h.inside
  refine writeSector_performs hv (show 1 + 1 ≤ v.size.toNat by omega) fun m hm => ?_
  rw [← hm]
  exact Contents.of_update_super h sb

theorem writeSlot_performs (hv : v.Stores drive fails) (h : Ordered v.size) (i : Fin 128)
    (r : Index) :
    v.Performs fails κ
      (writeSlot drive (counted v.size freeBlocks freeInodes state) (UInt32.ofNat i.val) r)
      [.slot i r] (fun _ => True) := by
  have hroom := h.inside
  obtain ⟨lba, hlba, hnat⟩ := slotLba_eq h
    (show (counted v.size freeBlocks freeInodes state).inodeTableLba.toNat = _ from rfl) i
  simp only [writeSlot, hlba, ofExcept, pure_bind]
  refine writeSector_performs hv (by omega) fun m hm => ?_
  rw [← hm, hnat]
  exact Contents.of_update_slot h i r

/-- A bitmap with one bit changed. -/
theorem writeBitmap_performs (hv : v.Stores drive fails) (h : Ordered v.size) {x : Nat} {u : Bool}
    (hx : x < blockCount v.size) {m : BlockBitmap}
    (hm : m.Agrees v.size (Function.update κ.used x u)) :
    v.Performs fails κ (writeBitmap drive (counted v.size freeBlocks freeInodes state) m)
      [.mark x u] (fun _ => True) := by
  have hroom := h.inside
  have hbitmap := h.bitmap
  have hspan := h.bits
  have htotal : ¬ m.total ≠ (counted v.size freeBlocks freeInodes state).totalBlocks :=
    not_not_intro hm.total
  rw [writeBitmap, if_neg htotal]
  have hmark : ∀ sectors, Contents.of v.size sectors = κ → ∀ k, k ≤ bitmapSpan v.size →
      Contents.of v.size (sectors.overlay 2 k (Sectors.ofRun m.toBytes))
        = if x / 4096 < k then κ.edit (.mark x u) else κ := by
    intro sectors hκ k hk
    rw [← hκ]
    refine Contents.of_overlay_mark h hm.size_toBytes hx (fun b hb => ?_) hk
    rw [hm.bit_toBytes hb, hκ]
  refine write_performs hv (show 1 ≤ bitmapSpan v.size by omega) hm.size_toBytes
    (show 2 + bitmapSpan v.size ≤ v.size.toNat by omega) ?_ ?_
  · intro sectors hκ
    exact (hmark sectors hκ _ (Nat.le_refl _)).trans (if_pos (by omega))
  · intro sectors hκ k hk
    have hcut := hmark sectors hκ k (Nat.le_of_lt hk)
    by_cases hpast : x / 4096 < k
    · exact .inr (hcut.trans (if_pos hpast))
    · exact .inl (hcut.trans (if_neg hpast))

end Volume

end AtaVolume
