/-
AtaVolume.Proofs.Volume.Files — files, and the edits that make and free them.

A file is a record that names the first sector of a block (`Index.fileAt`). The
slot and the block of the next file are the first free ones; an allocation and a
release are four edits each, in the order that keeps a block from being given
away twice.
-/
import Mathlib.Order.Fin.Basic
import AtaVolume.Proofs.Volume.Parts

namespace AtaVolume

open Superblock

namespace Superblock

variable {size : UInt32} {freeBlocks freeInodes : UInt32} {state : UInt8}

theorem sectorsPerBlock_counted :
    (counted size freeBlocks freeInodes state).sectorsPerBlock = sectorsPerBlockFor size :=
  sectorsPerBlock_forSize size

end Superblock

/-! ## §1 Files -/

/-- The record of an empty file in a block. -/
def Index.fileAt (size : UInt32) (b : Nat) : Index :=
  { Index.regular with firstBlock := UInt32.ofNat (b * blockSpan size) }

@[simp] theorem Index.isFree_fileAt (size : UInt32) (b : Nat) :
    (Index.fileAt size b).isFree = false := rfl

section Blocks

variable {size : UInt32} {b : Nat} {freeBlocks freeInodes : UInt32} {state : UInt8}

theorem Superblock.toNat_block (hb : b < blockCount size) : (UInt32.ofNat b).toNat = b :=
  UInt32.toNat_ofNat_of_lt' (Nat.lt_trans hb (forSize size).totalBlocks.toNat_lt)

/-- The first sector of a block has a number of 32 bits. -/
theorem Index.toNat_firstBlock (h : Ordered size) (hb : b < blockCount size) :
    (Index.fileAt size b).firstBlock.toNat = b * blockSpan size := by
  have hspan := h.span
  have hend : b * blockSpan size < blockCount size * blockSpan size :=
    Nat.mul_lt_mul_of_pos_right hb hspan
  have hblocks := h.blocks
  have hsize := size.toNat_lt
  exact UInt32.toNat_ofNat_of_lt' (show b * blockSpan size < 2 ^ 32 by omega)

theorem Index.fileAt_injective (h : Ordered size) {b' : Nat} (hb : b < blockCount size)
    (hb' : b' < blockCount size)
    (heq : (Index.fileAt size b).firstBlock = (Index.fileAt size b').firstBlock) : b = b' := by
  have hnat := congrArg UInt32.toNat heq
  rw [toNat_firstBlock h hb, toNat_firstBlock h hb'] at hnat
  exact Nat.eq_of_mul_eq_mul_right h.span hnat

theorem blockLba_counted (h : Ordered size) (hb : b < blockCount size) :
    { Index.regular with
      firstBlock := (counted size freeBlocks freeInodes state).blockLba (UInt32.ofNat b) }
      = Index.fileAt size b := by
  have hlba : (counted size freeBlocks freeInodes state).blockLba (UInt32.ofNat b)
      = (Index.fileAt size b).firstBlock := by
    have hend := (Index.fileAt size b).firstBlock.toNat_lt
    rw [Index.toNat_firstBlock h hb] at hend
    rw [← UInt32.toNat_inj, Index.toNat_firstBlock h hb, blockLba, UInt32.toNat_mul,
      toNat_block hb, sectorsPerBlock_counted]
    exact Nat.mod_eq_of_lt hend
  rw [hlba]
  rfl

theorem lbaBlock_counted (h : Ordered size) (hb : b < blockCount size) :
    (counted size freeBlocks freeInodes state).lbaBlock (Index.fileAt size b).firstBlock
      = UInt32.ofNat b := by
  rw [← UInt32.toNat_inj, lbaBlock, UInt32.toNat_div, Index.toNat_firstBlock h hb,
    sectorsPerBlock_counted, toNat_block hb]
  exact Nat.mul_div_cancel b h.span

end Blocks

/-! ## §2 Counters -/

namespace Volume

theorem toNat_decrease (n : UInt32) : (decrease n).toNat = n.toNat - 1 := by
  rw [decrease]
  split
  case isTrue h => rw [h]; rfl
  case isFalse h =>
    have hpos : 1 ≤ n.toNat := by
      rw [Nat.one_le_iff_ne_zero]
      intro hzero
      exact h (UInt32.toNat_inj.1 hzero)
    exact UInt32.toNat_sub_of_le _ _ (UInt32.le_iff_toNat_le.2 hpos)

theorem toNat_increase (n limit : UInt32) :
    (increase n limit).toNat = min (n.toNat + 1) limit.toNat := by
  have hlimit := limit.toNat_lt
  rw [increase]
  split
  case isTrue h =>
    rw [UInt32.toNat_add, Nat.mod_eq_of_lt (by show n.toNat + 1 < _; omega)]
    show n.toNat + 1 = _
    omega
  case isFalse h => omega

end Volume

namespace BlockBitmap.Agrees

variable {m : BlockBitmap} {size : UInt32} {used : Nat → Bool}

theorem isUsed_eq (h : m.Agrees size used) {block : UInt32}
    (hblock : block.toNat < blockCount size) : m.isUsed block = used block.toNat := by
  rw [isUsed_of_lt (by rw [h.toNat_total]; exact hblock), h.bits _ hblock]

/-- A release tells whether the block was marked. -/
theorem setFree_fst (h : m.Agrees size used) {block : UInt32}
    (hblock : block.toNat < blockCount size) : (m.setFree block).1 = used block.toNat := by
  have htotal := h.toNat_total
  rw [BlockBitmap.setFree, if_neg (by rw [UInt32.le_iff_toNat_le]; omega), h.isUsed_eq hblock]
  cases used block.toNat <;> rfl

end BlockBitmap.Agrees

namespace Contents

/-! ## §3 Free slots and blocks -/

/-- The first free slot. -/
structure FirstSlot (κ : Contents) (i : Fin 128) : Prop where
  free : (κ.slot i).isFree = true
  least : ∀ j, j < i → (κ.slot j).isFree = false

/-- The first free block of the data area. -/
structure FirstBlock (size : UInt32) (κ : Contents) (b : Nat) : Prop where
  data : firstData size ≤ b
  lt : b < blockCount size
  free : κ.used b = false
  least : ∀ k, firstData size ≤ k → k < b → κ.used k = true

variable {κ : Contents} {size : UInt32}

theorem FirstSlot.findFree {i : Fin 128} (h : κ.FirstSlot i) :
    (IndexTable.ofSlots κ.slot).findFree = some (UInt32.ofNat i.val) := by
  cases hfind : (IndexTable.ofSlots κ.slot).findFree with
  | none =>
    have hused := IndexTable.findFree_eq_none hfind i
    rw [h.free] at hused
    cases hused
  | some inode =>
    obtain ⟨k, rfl, hfree, hleast⟩ := IndexTable.findFree_eq_some hfind
    rcases lt_trichotomy k i with hlt | rfl | hgt
    · simp [h.least k hlt] at hfree
    · rfl
    · have := hleast i hgt
      simp [h.free] at this

/-- Of the free blocks in the data area, one is the first. -/
theorem exists_firstBlock
    (h : ∃ b, firstData size ≤ b ∧ b < blockCount size ∧ κ.used b = false) :
    ∃ b, FirstBlock size κ b := by
  obtain ⟨hdata, hlt, hfree⟩ := Nat.find_spec h
  refine ⟨Nat.find h, hdata, hlt, hfree, fun k hk hbefore => ?_⟩
  by_contra hnone
  exact Nat.find_min h hbefore ⟨hk, by omega, Bool.eq_false_of_not_eq_true hnone⟩

theorem FirstBlock.firstFree {b : Nat} (h : FirstBlock size κ b) {m : BlockBitmap}
    (hm : m.Agrees size κ.used) {start : UInt32} (hstart : start.toNat = firstData size) :
    m.firstFree start = some (UInt32.ofNat b) := by
  have hdata := h.data
  have hlt := h.lt
  have htotal := hm.toNat_total
  cases hfind : m.firstFree start with
  | none =>
    have hused := BlockBitmap.firstFree_eq_none hfind (by omega) (by omega : b < m.total.toNat)
    rw [hm.bits b hlt, h.free] at hused
    cases hused
  | some block =>
    obtain ⟨hge, hbelow, hfree, hleast⟩ := BlockBitmap.firstFree_eq_some hfind
    have hblock : block.toNat = b := by
      rcases Nat.lt_trichotomy block.toNat b with hbefore | heq | hafter
      · rw [hm.bits _ (by omega), h.least _ (by omega) hbefore] at hfree
        cases hfree
      · exact heq
      · have hused := hleast b (by omega) hafter
        rw [hm.bits b hlt, h.free] at hused
        cases hused
    rw [← hblock, UInt32.ofNat_toNat]

theorem firstFree_of_used {m : BlockBitmap} (hm : m.Agrees size κ.used)
    (hfull : ∀ b, firstData size ≤ b → b < blockCount size → κ.used b = true) {start : UInt32}
    (hstart : start.toNat = firstData size) : m.firstFree start = none := by
  have htotal := hm.toNat_total
  cases hfind : m.firstFree start with
  | none => rfl
  | some block =>
    obtain ⟨hge, hbelow, hfree, -⟩ := BlockBitmap.firstFree_eq_some hfind
    rw [hm.bits _ (by omega), hfull _ (by omega) (by omega)] at hfree
    cases hfree

/-- The superblock belongs to a drive of this size, and its counters do not exceed
the totals. -/
structure Mountable (size : UInt32) (κ : Contents) (freeBlocks freeInodes : UInt32)
    (state : UInt8) : Prop where
  super : κ.super = counted size freeBlocks freeInodes state
  blocks : freeBlocks.toNat ≤ blockCount size
  inodes : freeInodes.toNat ≤ 128

/-- What a new volume tells. -/
def blank (size : UInt32) : Contents where
  super := forSize size
  used _ := false
  slot _ := .vacant

/-- The edits of an allocation. -/
def allocation (size freeBlocks freeInodes : UInt32) (i : Fin 128) (b : Nat) : List Edit :=
  [.super (counted size freeBlocks freeInodes stateDirty),
   .mark b true,
   .slot i (.fileAt size b),
   .super (counted size (Volume.decrease freeBlocks) (Volume.decrease freeInodes) stateClean)]

/-- The edits of a release. -/
def releasing (size freeBlocks freeInodes : UInt32) (i : Fin 128) (b : Nat) (marked : Bool) :
    List Edit :=
  [.super (counted size freeBlocks freeInodes stateDirty),
   .slot i .vacant,
   .mark b false,
   .super (counted size
     (if marked then Volume.increase freeBlocks (forSize size).totalBlocks else freeBlocks)
     (Volume.increase freeInodes indexSlots) stateClean)]

end Contents

end AtaVolume
