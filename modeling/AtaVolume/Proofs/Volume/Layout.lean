/-
AtaVolume.Proofs.Volume.Layout — where the parts of a new volume lie.

The layout of `Superblock.forSize` is computed on 32-bit numbers. Here its
quantities are given as natural numbers, for the eight block sizes one after
the other, and the order of the areas follows by arithmetic: superblock, bitmap,
index table and data do not overlap, and there are more data blocks than index
slots (`layout_ordered`).
-/
import Mathlib.Data.UInt
import Mathlib.Tactic.SplitIfs
import AtaVolume.Volume.Superblock

namespace AtaVolume

namespace Superblock

/-! ## §1 Quantities as natural numbers -/

theorem toNat_ceilDiv (a : UInt32) {b : UInt32} (hb : 1 < b.toNat ∨ a.toNat % b.toNat = 0) :
    (ceilDiv a b).toNat = a.toNat / b.toNat + if a.toNat % b.toNat = 0 then 0 else 1 := by
  have ha := a.toNat_lt
  have hmod : a % b = 0 ↔ a.toNat % b.toNat = 0 := by
    rw [← UInt32.toNat_inj, UInt32.toNat_mod]
    rfl
  rw [ceilDiv, UInt32.toNat_add, UInt32.toNat_div]
  by_cases h : a.toNat % b.toNat = 0
  · rw [if_pos (hmod.2 h), if_pos h]
    have : a.toNat / b.toNat ≤ a.toNat := Nat.div_le_self _ _
    exact Nat.mod_eq_of_lt (by show _ + 0 < _; omega)
  · have hb : 1 < b.toNat := hb.resolve_right h
    have : a.toNat / b.toNat ≤ a.toNat / 2 := Nat.div_le_div_left hb (by decide)
    rw [if_neg (fun hz => h (hmod.1 hz)), if_neg h]
    exact Nat.mod_eq_of_lt (by show _ + 1 < _; omega)

/-- A sector of the bitmap has the bits of 4096 blocks. -/
theorem toNat_bitmapSectors (sb : Superblock) :
    sb.bitmapSectors.toNat = (sb.totalBlocks.toNat + 4095) / 4096 := by
  have hbytes := toNat_ceilDiv sb.totalBlocks (b := 8) (.inl (by decide))
  have hsectors := toNat_ceilDiv (ceilDiv sb.totalBlocks 8) (b := 512) (.inl (by decide))
  have hdef : sb.bitmapSectors.toNat = (ceilDiv (ceilDiv sb.totalBlocks 8) 512).toNat := rfl
  rw [hbytes] at hsectors
  simp only [UInt32.reduceToNat] at hsectors
  rw [hdef, hsectors]
  split <;> split <;> omega

variable (size : UInt32)

/-- Sectors in a block of a new volume. -/
def blockSpan : Nat := (sectorsPerBlockFor size).toNat

/-- Blocks of a new volume. -/
def blockCount : Nat := (forSize size).totalBlocks.toNat

/-- Sectors of its bitmap. -/
def bitmapSpan : Nat := (forSize size).bitmapSectors.toNat

/-- The first sector of its index table. -/
def tableStart : Nat := (forSize size).inodeTableLba.toNat

/-- The first block of its data area. -/
def firstData : Nat := (forSize size).dataStartBlock.toNat

/-- Blocks have 1 to 128 sectors, and only large drives have blocks of more than
one. -/
theorem sectorsPerBlockFor_spec :
    sectorsPerBlockFor size ∈ ([1, 2, 4, 8, 16, 32, 64, 128] : List UInt32)
      ∧ (blockSpan size = 1 ∨ 16384 * blockSpan size ≤ size.toNat) := by
  unfold blockSpan sectorsPerBlockFor
  simp only [UInt32.lt_iff_toNat_lt]
  split_ifs with h₁ h₂ h₃ h₄ h₅ h₆ h₇
  · exact ⟨by decide, .inl rfl⟩
  all_goals
    refine ⟨by decide, .inr ?_⟩
    simp only [UInt32.reduceToNat, maxSectorsPerBlock] at *
    omega

/-- The bytes of a block as the superblock keeps them: 65536 does not fit in the
field and is written as 0. -/
def keptBytes (span : UInt32) : UInt32 :=
  if (span * 512).toUInt16 = 0 then 65536 else (span * 512).toUInt16.toUInt32

theorem keptBytes_of_mem {span : UInt32}
    (h : span ∈ ([1, 2, 4, 8, 16, 32, 64, 128] : List UInt32)) :
    keptBytes span / 512 = span ∧ keptBytes span % 512 = 0 ∧ max span 1 = span ∧ isPowerOfTwo span
      ∧ span ≤ maxSectorsPerBlock := by
  simp only [List.mem_cons, List.not_mem_nil, or_false] at h
  rcases h with rfl | rfl | rfl | rfl | rfl | rfl | rfl | rfl <;> decide

theorem sectorsPerBlock_forSize : (forSize size).sectorsPerBlock = sectorsPerBlockFor size := by
  obtain ⟨hspan, -, hmax, -⟩ := keptBytes_of_mem (sectorsPerBlockFor_spec size).1
  show max (keptBytes (sectorsPerBlockFor size) / 512) 1 = sectorsPerBlockFor size
  rw [hspan]
  exact hmax

theorem blockSpan_cases :
    blockSpan size = 1 ∨ blockSpan size = 2 ∨ blockSpan size = 4 ∨ blockSpan size = 8
      ∨ blockSpan size = 16 ∨ blockSpan size = 32 ∨ blockSpan size = 64 ∨ blockSpan size = 128 := by
  have hspan := (sectorsPerBlockFor_spec size).1
  simp only [List.mem_cons, List.not_mem_nil, or_false] at hspan
  unfold blockSpan
  rcases hspan with h | h | h | h | h | h | h | h <;> rw [h] <;> decide

/-! ## §2 The areas in order -/

theorem blockCount_eq : blockCount size = size.toNat / blockSpan size :=
  UInt32.toNat_div size _

theorem bitmapSpan_eq :
    bitmapSpan size = (blockCount size + 4095) / 4096 :=
  toNat_bitmapSectors (forSize size)

theorem toNat_bitmapBlocks :
    (forSize size).bitmapBlocks.toNat
      = (bitmapSpan size + blockSpan size - 1) / blockSpan size := by
  have hblocks := toNat_ceilDiv (forSize size).bitmapSectors (b := sectorsPerBlockFor size) (by
    rcases blockSpan_cases size with h | h | h | h | h | h | h | h <;>
      rw [show (sectorsPerBlockFor size).toNat = _ from h] <;> omega)
  refine hblocks.trans ?_
  show bitmapSpan size / blockSpan size
    + (if bitmapSpan size % blockSpan size = 0 then 0 else 1) = _
  rcases blockSpan_cases size with h | h | h | h | h | h | h | h <;> rw [h] <;> split <;> omega

theorem tableStart_eq :
    tableStart size = 2 + (forSize size).bitmapBlocks.toNat * blockSpan size := by
  have hsize := size.toNat_lt
  have hcount := blockCount_eq size
  have hspan := bitmapSpan_eq size
  have hblocks := toNat_bitmapBlocks size
  have htable : tableStart size
      = (2 + (forSize size).bitmapBlocks.toNat * blockSpan size % 2 ^ 32) % 2 ^ 32 := by
    show (bitmapStart + _ * _ : UInt32).toNat = _
    rw [UInt32.toNat_add, UInt32.toNat_mul]
    rfl
  -- the eight block sizes make the products linear
  rcases blockSpan_cases size with h | h | h | h | h | h | h | h <;>
    rw [h] at hcount hblocks htable ⊢ <;> omega

/-- The data area starts behind the index table. -/
theorem toNat_dataStartLba (h : 1024 ≤ size.toNat) :
    (forSize size).dataStartLba.toNat = tableStart size + 128 := by
  have hsize := size.toNat_lt
  have hcount := blockCount_eq size
  have hspan := bitmapSpan_eq size
  have hblocks := toNat_bitmapBlocks size
  have htable := tableStart_eq size
  have hstart : (forSize size).dataStartLba.toNat = (tableStart size + 128) % 2 ^ 32 :=
    UInt32.toNat_add _ _
  rw [hstart]
  rcases blockSpan_cases size with hb | hb | hb | hb | hb | hb | hb | hb <;>
    rw [hb] at hcount hblocks htable <;> omega

theorem firstData_eq (h : 1024 ≤ size.toNat) :
    firstData size = (tableStart size + 128 + blockSpan size - 1) / blockSpan size := by
  have hstart := toNat_dataStartLba size h
  have hfirst := toNat_ceilDiv (forSize size).dataStartLba (b := sectorsPerBlockFor size) (by
    rcases blockSpan_cases size with h | h | h | h | h | h | h | h <;>
      rw [show (sectorsPerBlockFor size).toNat = _ from h] <;> omega)
  have hdef : firstData size
      = (ceilDiv (forSize size).dataStartLba (sectorsPerBlockFor size)).toNat := by
    rw [firstData, dataStartBlock, sectorsPerBlock_forSize]
  rw [hdef, hfirst, hstart]
  show (tableStart size + 128) / blockSpan size
    + (if (tableStart size + 128) % blockSpan size = 0 then 0 else 1) = _
  rcases blockSpan_cases size with h | h | h | h | h | h | h | h <;> rw [h] <;> split <;> omega

/-- What the layout of a volume comes to: the areas follow one another, and
there are more data blocks than index slots. -/
structure Ordered (size : UInt32) : Prop where
  span : 1 ≤ blockSpan size
  bitmap : 2 + bitmapSpan size ≤ tableStart size
  bits : blockCount size ≤ bitmapSpan size * 4096
  table : tableStart size + 128 ≤ firstData size * blockSpan size
  room : firstData size + 128 < blockCount size
  blocks : blockCount size * blockSpan size ≤ size.toNat

theorem layout_ordered (h : 1024 ≤ size.toNat) : Ordered size := by
  have hlarge := (sectorsPerBlockFor_spec size).2
  have hcount := blockCount_eq size
  have hspan := bitmapSpan_eq size
  have hblocks := toNat_bitmapBlocks size
  have htable := tableStart_eq size
  have hfirst := firstData_eq size h
  rcases blockSpan_cases size with hb | hb | hb | hb | hb | hb | hb | hb <;>
    rw [hb] at hlarge hcount hblocks htable hfirst <;>
    exact ⟨by omega, by omega, by omega, by rw [hb]; omega, by omega, by rw [hb]; omega⟩

variable {size} in
/-- All areas lie on the drive. -/
theorem Ordered.inside (h : Ordered size) : tableStart size + 128 ≤ size.toNat := by
  have hroom : firstData size * blockSpan size ≤ blockCount size * blockSpan size :=
    Nat.mul_le_mul_right _ (by have := h.room; omega)
  exact Nat.le_trans h.table (Nat.le_trans hroom h.blocks)

/-! ## §3 Superblocks of a volume in use -/

/-- The superblock of a volume whose counters and state have changed. -/
def counted (freeBlocks freeInodes : UInt32) (state : UInt8) : Superblock :=
  { forSize size with freeBlocks, freeInodes, state }

variable {freeBlocks freeInodes : UInt32} {state : UInt8}

theorem isValid_counted : (counted size freeBlocks freeInodes state).isValid = true := rfl

/-- A superblock that gives no reason to refuse it is not refused. -/
theorem checkLayout_eq_ok {sb : Superblock} {span : UInt32} (hspan : sb.blockBytes / 512 = span)
    (hbytes : ¬ (sb.blockBytes % 512 ≠ 0 ∨ ¬ isPowerOfTwo span ∨ maxSectorsPerBlock < span))
    (hinodes : ¬ (sb.totalInodes ≠ indexSlots ∨ sb.totalInodes < sb.freeInodes))
    (hblocks : ¬ sb.totalBlocks < sb.freeBlocks) (hstart : ¬ sb.bitmapStartLba ≠ bitmapStart)
    (hextent : ¬ (sb.bitmapBlocks.toNat * span.toNat < sb.bitmapSectors.toNat
      ∨ sb.inodeTableLba.toNat < sb.bitmapStartLba.toNat + sb.bitmapBlocks.toNat * span.toNat))
    (hdata : ¬ sb.inodeTableLba.toNat + indexSlots.toNat ≠ sb.dataStartLba.toNat)
    (hsectors : ¬ (UInt32.size ≤ sb.totalBlocks.toNat * span.toNat
      ∨ sb.totalBlocks.toNat * span.toNat ≤ sb.dataStartLba.toNat)) :
    sb.checkLayout = .ok () := by
  simp only [checkLayout, hspan]
  rw [if_neg hbytes, if_neg hinodes, if_neg hblocks, if_neg hstart, if_neg hextent, if_neg hdata,
    if_neg hsectors]
  rfl

/-- **A superblock keeps its layout as long as its counters do not exceed the
totals.** -/
theorem checkLayout_counted (h : 1024 ≤ size.toNat) (hblocks : freeBlocks.toNat ≤ blockCount size)
    (hinodes : freeInodes.toNat ≤ 128) :
    (counted size freeBlocks freeInodes state).checkLayout = .ok () := by
  have hordered := layout_ordered size h
  have hdata := toNat_dataStartLba size h
  obtain ⟨hspan, hwhole, -, hpower, hmax⟩ := keptBytes_of_mem (sectorsPerBlockFor_spec size).1
  have hbytes : ¬ (keptBytes (sectorsPerBlockFor size) % 512 ≠ 0
      ∨ ¬ isPowerOfTwo (sectorsPerBlockFor size) ∨ maxSectorsPerBlock < sectorsPerBlockFor size) := by
    simp [hwhole, hpower, hmax]
  apply checkLayout_eq_ok (show (counted size freeBlocks freeInodes state).blockBytes / 512 = _ from
    hspan) hbytes
  · show ¬ ((indexSlots : UInt32) ≠ indexSlots ∨ indexSlots < freeInodes)
    rw [UInt32.lt_iff_toNat_lt]
    show ¬ ((indexSlots : UInt32) ≠ indexSlots ∨ 128 < freeInodes.toNat)
    simpa using hinodes
  · show ¬ (forSize size).totalBlocks < freeBlocks
    rw [UInt32.lt_iff_toNat_lt]
    exact Nat.not_lt.2 hblocks
  · exact not_not_intro rfl
  · have htable := tableStart_eq size
    have hbitmap := hordered.bitmap
    show ¬ ((forSize size).bitmapBlocks.toNat * blockSpan size < bitmapSpan size
      ∨ tableStart size < 2 + (forSize size).bitmapBlocks.toNat * blockSpan size)
    omega
  · show ¬ tableStart size + 128 ≠ (forSize size).dataStartLba.toNat
    omega
  · have hroom : firstData size * blockSpan size < blockCount size * blockSpan size :=
      Nat.mul_lt_mul_of_pos_right (by have := hordered.room; omega) hordered.span
    have htable := hordered.table
    have hend := hordered.blocks
    have hsize := size.toNat_lt
    show ¬ (2 ^ 32 ≤ blockCount size * blockSpan size
      ∨ blockCount size * blockSpan size ≤ (forSize size).dataStartLba.toNat)
    omega

end Superblock

end AtaVolume
