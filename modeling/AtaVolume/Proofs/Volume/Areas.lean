/-
AtaVolume.Proofs.Volume.Areas — what a superblock that passes the checks says.

The fields of a superblock that was read can be anything. `checkLayout` looks at
them one after the other, and what passes is laid out as a volume has to be
(`laidOut_of_checkLayout`): the areas follow one another and end below 2³²
sectors, each index slot has its sector, and each data block lies in the data
area. Nothing is assumed about where the superblock comes from.
-/
import AtaVolume.Proofs.Checks
import AtaVolume.Proofs.Volume.Layout
import AtaVolume.Volume.Index

namespace AtaVolume

namespace Superblock

variable {sb : Superblock}

/-! ## §1 Blocks of a power of two of sectors -/

theorem exists_pow_of_isPowerOfTwo {n : UInt32} (hpower : isPowerOfTwo n)
    (hmax : n ≤ maxSectorsPerBlock) : ∃ k ≤ 7, n.toNat = 2 ^ k := by
  have hall :
      ∀ n : Fin 129, isPowerOfTwo (UInt32.ofNat n.val) → ∃ k : Fin 8, n.val = 2 ^ k.val := by
    decide
  have hle : n.toNat ≤ 128 := UInt32.le_iff_toNat_le.1 hmax
  obtain ⟨k, hk⟩ := hall ⟨n.toNat, by omega⟩ (by rw [UInt32.ofNat_toNat]; exact hpower)
  exact ⟨k.val, Nat.le_of_lt_succ k.isLt, hk⟩

/-- A quotient rounded up, times the divisor, is no smaller than the number. -/
theorem le_ceilDiv_mul (a : UInt32) {b : UInt32} (hb : 0 < b.toNat) :
    a.toNat ≤ (ceilDiv a b).toNat * b.toNat := by
  have hdiv := Nat.div_add_mod a.toNat b.toNat
  have hmod := Nat.mod_lt a.toNat hb
  rw [toNat_ceilDiv a (by
    rcases Nat.lt_or_eq_of_le hb with h | h
    · exact .inl h
    · exact .inr (by rw [← h, Nat.mod_one])), Nat.add_mul, Nat.mul_comm (_ / _)]
  split <;> omega

/-! ## §2 The areas -/

variable (sb) in
/-- The sectors of all blocks. -/
def sectors : Nat := sb.totalBlocks.toNat * sb.sectorsPerBlock.toNat

variable (sb) in
/-- The areas of a volume, each with its first sector and the one behind its last:
superblock, bitmap, index table, data. -/
def areas : List (Nat × Nat) :=
  [(superblockLba.toNat, superblockLba.toNat + 1),
    (bitmapStart.toNat, bitmapStart.toNat + sb.bitmapSectors.toNat),
    (sb.inodeTableLba.toNat, sb.inodeTableLba.toNat + indexSlots.toNat),
    (sb.dataStartLba.toNat, sb.sectors)]

/-- The sector of a slot is one of the index table. -/
def SlotInTable (sb : Superblock) (inode : UInt32) : Prop :=
  ∃ lba, IndexTable.slotLba sb.inodeTableLba inode = .ok lba
    ∧ sb.inodeTableLba.toNat ≤ lba.toNat ∧ lba.toNat < sb.inodeTableLba.toNat + indexSlots.toNat

/-- The sectors of a block can be told from its number and the other way, and all of
them lie in the data area. -/
structure BlockInData (sb : Superblock) (block : UInt32) : Prop where
  first : (sb.blockLba block).toNat = block.toNat * sb.sectorsPerBlock.toNat
  back : sb.lbaBlock (sb.blockLba block) = block
  start : sb.dataStartLba.toNat ≤ (sb.blockLba block).toNat
  stop : (sb.blockLba block).toNat + sb.sectorsPerBlock.toNat ≤ sb.sectors

/-- A superblock whose volume has all its parts in their places. -/
structure LaidOut (sb : Superblock) : Prop where
  span : ∃ k ≤ 7, sb.sectorsPerBlock.toNat = 2 ^ k
  bitmapStart : sb.bitmapStartLba = bitmapStart
  proper : ∀ area ∈ sb.areas, area.1 < area.2
  ordered : sb.areas.Pairwise fun a b => a.2 ≤ b.1
  size : sb.sectors < 2 ^ 32
  freeBlocks : sb.freeBlocks ≤ sb.totalBlocks
  inodes : sb.totalInodes = indexSlots
  freeInodes : sb.freeInodes ≤ sb.totalInodes
  slots : ∀ inode < sb.totalInodes, sb.SlotInTable inode
  blocks : ∀ block, sb.dataStartBlock ≤ block → block < sb.totalBlocks → sb.BlockInData block

/-- The areas in front of the data, one behind the other. -/
theorem LaidOut.before_data (h : sb.LaidOut) :
    1 ≤ sb.bitmapSectors.toNat ∧ 2 + sb.bitmapSectors.toNat ≤ sb.inodeTableLba.toNat
      ∧ sb.inodeTableLba.toNat + 128 ≤ sb.dataStartLba.toNat := by
  have hproper := h.proper
  have hordered := h.ordered
  simp only [areas, superblockLba, AtaVolume.bitmapStart, indexSlots,
    UInt32.reduceToNat, List.forall_mem_cons, List.pairwise_cons] at hproper hordered
  exact ⟨by omega, hordered.2.1.1, hordered.2.2.1.1⟩

/-! ## §3 Each check says something about the areas -/

theorem toNat_sectorsPerBlock (sb : Superblock) :
    sb.sectorsPerBlock.toNat = max (sb.blockBytes / 512).toNat 1 := by
  unfold sectorsPerBlock
  rw [UInt32.max_def]
  split
  · next hle =>
    rw [UInt32.le_iff_toNat_le, UInt32.toNat_one] at hle
    rw [UInt32.toNat_one, Nat.max_eq_right hle]
  · next hle =>
    rw [UInt32.le_iff_toNat_le, UInt32.toNat_one] at hle
    rw [Nat.max_eq_left (by omega)]

/-- A block has at least one sector, whatever the superblock says. -/
theorem sectorsPerBlock_pos (sb : Superblock) : 0 < sb.sectorsPerBlock.toNat := by
  rw [toNat_sectorsPerBlock]
  omega

theorem blockInData (hsize : sb.sectors < 2 ^ 32) {block : UInt32}
    (hstart : sb.dataStartBlock ≤ block) (hblock : block < sb.totalBlocks) :
    sb.BlockInData block := by
  have hpos := sb.sectorsPerBlock_pos
  rw [UInt32.le_iff_toNat_le] at hstart
  rw [UInt32.lt_iff_toNat_lt] at hblock
  have hend : block.toNat * sb.sectorsPerBlock.toNat + sb.sectorsPerBlock.toNat ≤ sb.sectors := by
    rw [← Nat.succ_mul]
    exact Nat.mul_le_mul_right _ hblock
  have hfirst : (sb.blockLba block).toNat = block.toNat * sb.sectorsPerBlock.toNat := by
    rw [blockLba, UInt32.toNat_mul]
    exact Nat.mod_eq_of_lt (by omega)
  refine ⟨hfirst, ?_, ?_, by omega⟩
  · rw [← UInt32.toNat_inj, lbaBlock, UInt32.toNat_div, hfirst]
    exact Nat.mul_div_cancel _ hpos
  · calc sb.dataStartLba.toNat
        ≤ sb.dataStartBlock.toNat * sb.sectorsPerBlock.toNat := le_ceilDiv_mul _ hpos
      _ ≤ block.toNat * sb.sectorsPerBlock.toNat := Nat.mul_le_mul_right _ hstart
      _ = (sb.blockLba block).toNat := hfirst.symm

theorem slotInTable (htotal : sb.totalInodes = indexSlots)
    (htable : sb.inodeTableLba.toNat + indexSlots.toNat < 2 ^ 32) {inode : UInt32}
    (h : inode < sb.totalInodes) : sb.SlotInTable inode := by
  have hlt : inode.toNat < indexSlots.toNat := by
    rw [htotal] at h
    exact UInt32.lt_iff_toNat_lt.1 h
  have hfits : sb.inodeTableLba.toNat + inode.toNat < UInt32.size :=
    show _ < 2 ^ 32 by omega
  have hlba : (sb.inodeTableLba + inode).toNat = sb.inodeTableLba.toNat + inode.toNat := by
    rw [UInt32.toNat_add]
    exact Nat.mod_eq_of_lt hfits
  exact ⟨_, if_pos hfits, by omega, by omega⟩

/-- The areas lie one behind the other, and none of them is empty. -/
theorem areas_ordered (hblocks : 0 < sb.totalBlocks.toNat)
    (htable : 2 + sb.bitmapSectors.toNat ≤ sb.inodeTableLba.toNat)
    (hdata : sb.inodeTableLba.toNat + 128 = sb.dataStartLba.toNat)
    (hroom : sb.dataStartLba.toNat < sb.sectors) :
    (∀ area ∈ sb.areas, area.1 < area.2) ∧ sb.areas.Pairwise fun a b => a.2 ≤ b.1 := by
  have hbits := sb.toNat_bitmapSectors
  simp only [areas, superblockLba, bitmapStart, indexSlots, UInt32.reduceToNat,
    List.forall_mem_cons, List.pairwise_cons]
  refine ⟨⟨by omega, by omega, by omega, hroom, by simp⟩, ⟨by omega, by omega, by omega, by simp⟩,
    ⟨htable, by omega, by simp⟩, ⟨by omega, by simp⟩, by simp, .nil⟩

/-- **A superblock that passes the checks describes a volume.** -/
theorem laidOut_of_checkLayout (h : sb.checkLayout = .ok ()) : sb.LaidOut := by
  simp only [checkLayout, refused_eq_ok, refuse_eq_ok, not_or, not_not, Nat.not_lt, UInt32.not_lt,
    Nat.not_le] at h
  obtain ⟨⟨-, hpower, hmax⟩, ⟨hslots, hinodes⟩, hblocks, hstart, ⟨hbits, htable⟩, hdata,
    ⟨hsize, hroom⟩, -⟩ := h
  obtain ⟨k, hk, hpow⟩ := exists_pow_of_isPowerOfTwo hpower hmax
  have hspan : sb.sectorsPerBlock = sb.blockBytes / 512 := by
    have hpos := Nat.two_pow_pos k
    rw [← UInt32.toNat_inj, toNat_sectorsPerBlock]
    omega
  rw [← hspan] at hpow hbits htable hsize hroom
  have htotal : 0 < sb.totalBlocks.toNat := by
    apply Nat.pos_of_ne_zero
    intro hzero
    rw [hzero, Nat.zero_mul] at hroom
    exact absurd hroom (Nat.not_lt_zero _)
  rw [hstart] at htable
  simp only [bitmapStart, indexSlots, UInt32.reduceToNat] at htable hdata
  have hareas := areas_ordered htotal (by omega) hdata hroom
  have hend : sb.inodeTableLba.toNat + indexSlots.toNat < 2 ^ 32 := by
    have := sb.dataStartLba.toNat_lt
    show sb.inodeTableLba.toNat + 128 < 2 ^ 32
    omega
  exact
    { span := ⟨k, hk, hpow⟩
      bitmapStart := hstart
      proper := hareas.1
      ordered := hareas.2
      size := hsize
      freeBlocks := hblocks
      inodes := hslots
      freeInodes := hinodes
      slots := fun inode => slotInTable hslots hend
      blocks := fun block => blockInData hsize }

end Superblock

end AtaVolume
