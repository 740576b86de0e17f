/-
AtaVolume.Proofs.Volume.Contents — what a volume tells, and how single changes
alter it.

A volume keeps three things apart on its drive: a superblock, a bitmap and an
index table. `Contents.of` reads them off the sectors. Every write of a volume
in use changes one of them in one place (`Edit`), even a bitmap of many sectors,
of which the other bits are written as they were. So what a write has replaced
when it fails half-way shows the edit as a whole or not at all.

Where the parts lie is for the superblock to say (`Contents.under`). Of it only the
order of bitmap and table matters here.
-/
import AtaVolume.Proofs.Volume.Bitmap
import AtaVolume.Proofs.Volume.Layout
import AtaVolume.Proofs.Volume.Table

namespace AtaVolume

open Superblock

/-- A superblock, the blocks marked as used, and the records of the slots. -/
@[ext] structure Contents where
  super : Superblock
  used : Nat → Bool
  slot : Fin 128 → Index

/-- One change. -/
inductive Edit
  | super (sb : Superblock)
  | mark (block : Nat) (used : Bool)
  | slot (i : Fin 128) (record : Index)

namespace Contents

/-- What a drive with content `m` tells of a volume that is laid out as `sb` says. -/
def under (sb : Superblock) (m : Sectors) : Contents where
  super := .decode (m 1).toBytes
  used b := decide (b < sb.totalBlocks.toNat)
    && BlockBitmap.bit (m.bytes 2 sb.bitmapSectors.toNat) b
  slot i := .ofBytes (m (sb.inodeTableLba.toNat + i.val)).toBytes

/-- What a drive of `size` sectors tells whose content is `m`. -/
def of (size : UInt32) (m : Sectors) : Contents where
  super := .decode (m 1).toBytes
  used b := decide (b < blockCount size) && BlockBitmap.bit (m.bytes 2 (bitmapSpan size)) b
  slot i := .ofBytes (m (tableStart size + i.val)).toBytes

/-- The contents with a change made. -/
def edit (κ : Contents) : Edit → Contents
  | .super sb => { κ with super := sb }
  | .mark b u => { κ with used := Function.update κ.used b u }
  | .slot i r => { κ with slot := Function.update κ.slot i r }

@[simp] theorem used_edit_mark (κ : Contents) (b : Nat) (u : Bool) :
    (κ.edit (.mark b u)).used = Function.update κ.used b u := rfl

@[simp] theorem slot_edit_slot (κ : Contents) (i : Fin 128) (r : Index) :
    (κ.edit (.slot i r)).slot = Function.update κ.slot i r := rfl

/-- The contents with changes made one after the other. -/
def apply (κ : Contents) (edits : List Edit) : Contents := edits.foldl edit κ

@[simp] theorem apply_nil (κ : Contents) : κ.apply [] = κ := rfl

@[simp] theorem apply_cons (κ : Contents) (e : Edit) (es : List Edit) :
    κ.apply (e :: es) = (κ.edit e).apply es := rfl

theorem apply_append (κ : Contents) (es fs : List Edit) :
    κ.apply (es ++ fs) = (κ.apply es).apply fs :=
  List.foldl_append

section Parts

variable {sb : Superblock} {m m' : Sectors}

/-! ## §1 Where each part lies -/

theorem super_congr (h : m 1 = m' 1) : (under sb m).super = (under sb m').super := by
  simp only [under, h]

theorem used_congr (h : ∀ j, 2 ≤ j → j < 2 + sb.bitmapSectors.toNat → m j = m' j) :
    (under sb m).used = (under sb m').used := by
  simp only [under, Sectors.bytes_congr h]

theorem slot_congr (h : ∀ j, sb.inodeTableLba.toNat ≤ j → m j = m' j) :
    (under sb m).slot = (under sb m').slot := by
  funext i
  simp only [under, h _ (Nat.le_add_right _ _)]

/-! ## §2 Writes of one sector -/

variable (h : 2 + sb.bitmapSectors.toNat ≤ sb.inodeTableLba.toNat)

include h

theorem under_update_super (written : Superblock) :
    under sb (Function.update m 1 written.encode) = (under sb m).edit (.super written) := by
  have hframe : ∀ j, 2 ≤ j → Function.update m 1 written.encode j = m j :=
    fun j hj => Function.update_of_ne (by omega) _ _
  apply Contents.ext
  · simp only [under, edit, Function.update_self, decode_encode]
  · exact used_congr fun j hj _ => hframe j hj
  · exact slot_congr fun j hj => hframe j (by omega)

theorem under_update_slot (i : Fin 128) (r : Index) :
    under sb (Function.update m (sb.inodeTableLba.toNat + i.val) r.encode)
      = (under sb m).edit (.slot i r) := by
  have hframe : ∀ j, j < sb.inodeTableLba.toNat →
      Function.update m (sb.inodeTableLba.toNat + i.val) r.encode j = m j :=
    fun j hj => Function.update_of_ne (by omega) _ _
  apply Contents.ext
  · exact super_congr (hframe 1 (by omega))
  · exact used_congr fun j _ hj => hframe j (by omega)
  · funext k
    simp only [under, edit]
    by_cases hk : k = i
    · subst hk
      rw [Function.update_self, Function.update_self, Index.ofBytes_encode]
    · have hne : sb.inodeTableLba.toNat + k.val ≠ sb.inodeTableLba.toNat + i.val := by
        intro heq
        exact hk (Fin.ext (by omega))
      rw [Function.update_of_ne hk, Function.update_of_ne hne]

/-! ## §3 Writes of the bitmap and of the table -/

omit h in
/-- Each sector of the bitmap has the bits of 4096 blocks. -/
theorem bit_bytes (m : Sectors) (lba : Nat) {n b : Nat} (h : b < n * 4096) :
    BlockBitmap.bit (m.bytes lba n) b = BlockBitmap.bit (m (lba + b / 4096)).toBytes (b % 4096) := by
  have hindex : lba + b / 8 / 512 = lba + b / 4096 := by omega
  have hbyte : b / 8 % 512 = b % 4096 / 8 := by omega
  have hbit : b % 8 = b % 4096 % 8 := by omega
  rw [BlockBitmap.bit_eq_getLsbD, BlockBitmap.bit_eq_getLsbD, Sectors.getD_bytes m lba (by omega),
    Sector.getD_toBytes, hindex, hbyte, hbit]

omit h in
/-- The bitmap after its first `k` sectors were replaced. -/
theorem used_overlay_bits {data : Bytes} (hdata : data.size = sb.bitmapSectors.toNat * 512)
    (k b : Nat) :
    (under sb (m.overlay 2 k (Sectors.ofRun data))).used b
      = if b / 4096 < k then decide (b < sb.totalBlocks.toNat) && BlockBitmap.bit data b
        else (under sb m).used b := by
  by_cases hb : b < sb.totalBlocks.toNat
  · have hbits := sb.toNat_bitmapSectors
    simp only [under, hb, decide_true, Bool.true_and]
    rw [bit_bytes _ 2 (by omega), bit_bytes m 2 (by omega)]
    by_cases hnew : b / 4096 < k
    · have hread := bit_bytes (Sectors.ofRun data) 0
        (show b < sb.bitmapSectors.toNat * 4096 by omega)
      rw [Sectors.bytes_ofRun hdata, Nat.zero_add] at hread
      rw [if_pos hnew, Sectors.overlay_apply_of_mem _ _ (by omega) (by omega),
        Nat.add_sub_cancel_left, hread]
    · rw [if_neg hnew, Sectors.overlay_apply_of_not_mem _ _ (by omega)]
  · simp [under, hb]

theorem under_overlay_bits {k : Nat} (hk : k ≤ sb.bitmapSectors.toNat) (source : Sectors) :
    under sb (m.overlay 2 k source)
      = { under sb m with used := (under sb (m.overlay 2 k source)).used } := by
  have hsuper : (under sb (m.overlay 2 k source)).super = (under sb m).super :=
    super_congr (Sectors.overlay_apply_of_not_mem _ _ (by omega))
  have hslot : (under sb (m.overlay 2 k source)).slot = (under sb m).slot :=
    slot_congr fun j hj => Sectors.overlay_apply_of_not_mem _ _ (by omega)
  exact Contents.ext hsuper rfl hslot

/-- **A bitmap that differs in one bit is written as a whole or not at all**, even
if the write stops between its sectors. -/
theorem under_overlay_mark {data : Bytes} (hdata : data.size = sb.bitmapSectors.toNat * 512)
    {x : Nat} {u : Bool} (hx : x < sb.totalBlocks.toNat)
    (hbits : ∀ b, b < sb.totalBlocks.toNat →
      BlockBitmap.bit data b = Function.update (under sb m).used x u b)
    {k : Nat} (hk : k ≤ sb.bitmapSectors.toNat) :
    under sb (m.overlay 2 k (Sectors.ofRun data))
      = if x / 4096 < k then (under sb m).edit (.mark x u) else under sb m := by
  have hused : (under sb (m.overlay 2 k (Sectors.ofRun data))).used
      = if x / 4096 < k then Function.update (under sb m).used x u else (under sb m).used := by
    funext b
    rw [used_overlay_bits hdata k b]
    by_cases hb : b < sb.totalBlocks.toNat
    · simp only [hb, decide_true, Bool.true_and, hbits b hb]
      by_cases hbx : b = x
      · subst hbx
        split <;> rfl
      · rw [Function.update_of_ne hbx]
        split <;> split <;> simp [Function.update_of_ne hbx]
    · have hbx : b ≠ x := by omega
      have hfree : (under sb m).used b = false := by simp [under, hb]
      split <;> split <;> simp [Function.update_of_ne hbx, hfree, hb]
  rw [under_overlay_bits h hk, hused]
  split <;> rfl

end Parts

/-! ## §4 New volumes -/

section Sized

variable {size : UInt32} {m : Sectors}

theorem of_update_super (h : Ordered size) (sb : Superblock) :
    of size (Function.update m 1 sb.encode) = (of size m).edit (.super sb) :=
  under_update_super h.bitmap sb

theorem of_update_slot (h : Ordered size) (i : Fin 128) (r : Index) :
    of size (Function.update m (tableStart size + i.val) r.encode)
      = (of size m).edit (.slot i r) :=
  under_update_slot h.bitmap i r

theorem of_overlay_mark (h : Ordered size) {data : Bytes}
    (hdata : data.size = bitmapSpan size * 512) {x : Nat} {u : Bool} (hx : x < blockCount size)
    (hbits : ∀ b, b < blockCount size →
      BlockBitmap.bit data b = Function.update (of size m).used x u b)
    {k : Nat} (hk : k ≤ bitmapSpan size) :
    of size (m.overlay 2 k (Sectors.ofRun data))
      = if x / 4096 < k then (of size m).edit (.mark x u) else of size m :=
  under_overlay_mark h.bitmap hdata hx hbits hk

/-- A bitmap of zeros marks no block as used. -/
theorem of_overlay_blank (h : Ordered size) {data : Bytes}
    (hdata : data.size = bitmapSpan size * 512)
    (hbits : ∀ b, b < blockCount size → BlockBitmap.bit data b = false) :
    of size (m.overlay 2 (bitmapSpan size) (Sectors.ofRun data))
      = { of size m with used := fun _ => false } := by
  have hused : (of size (m.overlay 2 (bitmapSpan size) (Sectors.ofRun data))).used
      = fun _ => false := by
    funext b
    refine (@used_overlay_bits (forSize size) _ _ hdata _ b).trans ?_
    by_cases hb : b < blockCount size
    · have hspan := h.bits
      rw [if_pos (by omega), hbits b hb, Bool.and_false]
    · have hb' : ¬ b < (forSize size).totalBlocks.toNat := hb
      simp [under, hb']
  refine (under_overlay_bits h.bitmap (Nat.le_refl _) _).trans ?_
  exact congrArg (fun used => { of size m with used := used }) hused

/-- A table of zeros has only free slots. -/
theorem of_overlay_table (h : Ordered size) (n : Nat) :
    of size (m.overlay (tableStart size) 128 (Sectors.ofRun (zeroes n)))
      = { of size m with slot := fun _ => .vacant } := by
  have hbitmap := h.bitmap
  have hframe : ∀ j, j < tableStart size →
      m.overlay (tableStart size) 128 (Sectors.ofRun (zeroes n)) j = m j :=
    fun j hj => Sectors.overlay_apply_of_not_mem _ _ (by omega)
  apply Contents.ext
  · exact @super_congr (forSize size) _ _ (hframe 1 (by omega))
  · refine @used_congr (forSize size) _ _ fun j _ hj => hframe j ?_
    have hspan : j < 2 + bitmapSpan size := hj
    omega
  · funext i
    show Index.ofBytes _ = _
    rw [Sectors.overlay_apply_of_mem _ _ (Nat.le_add_right _ _) (by omega), Sectors.ofRun_zeroes,
      Index.ofBytes_zero]

end Sized

end Contents

end AtaVolume
