/-
AtaVolume.Proofs.Volume.Capacity — what a new volume makes of the size of its drive.

The larger the drive, the larger the blocks, and the number of blocks, the bitmap, the
index table and the data area follow from that. `Superblock.LayoutFits` says how, and
that nothing is wasted: no block more would fit on the drive, and no block less would
hold the bitmap. There is room for more blocks than slots, so what a volume runs out of
is slots: it takes 128 files, one after the other, and then refuses (`Superblock.Fills`),
by induction over the files with the map of files as the invariant.
-/
import Mathlib.Order.Bounds.Basic
import AtaVolume.Proofs.Exact.NewLayout
import AtaVolume.Proofs.Volume.CleanSessions

namespace AtaVolume

namespace Superblock

/-! ## §1 Sizes -/

variable (size : UInt32)

/-- The sizes of drives that go with each size of blocks. -/
theorem blockSpan_tier :
    size.toNat < 32768 ∧ blockSpan size = 1
      ∨ 32768 ≤ size.toNat ∧ size.toNat < 131072 ∧ blockSpan size = 2
      ∨ 131072 ≤ size.toNat ∧ size.toNat < 524288 ∧ blockSpan size = 4
      ∨ 524288 ≤ size.toNat ∧ size.toNat < 2097152 ∧ blockSpan size = 8
      ∨ 2097152 ≤ size.toNat ∧ size.toNat < 8388608 ∧ blockSpan size = 16
      ∨ 8388608 ≤ size.toNat ∧ size.toNat < 33554432 ∧ blockSpan size = 32
      ∨ 33554432 ≤ size.toNat ∧ size.toNat < 134217728 ∧ blockSpan size = 64
      ∨ 134217728 ≤ size.toNat ∧ blockSpan size = 128 := by
  unfold blockSpan sectorsPerBlockFor
  simp only [UInt32.lt_iff_toNat_lt, UInt32.reduceToNat]
  split_ifs <;> simp [maxSectorsPerBlock] <;> omega

variable {size} in
/-- Larger drives do not have smaller blocks. -/
theorem sectorsPerBlockFor_mono {larger : UInt32} (h : size ≤ larger) :
    sectorsPerBlockFor size ≤ sectorsPerBlockFor larger := by
  rw [UInt32.le_iff_toNat_le] at h ⊢
  show blockSpan size ≤ blockSpan larger
  have htier := blockSpan_tier size
  have htier' := blockSpan_tier larger
  omega

/-- The blocks fill the drive but for less than one block. -/
theorem blockCount_bounds :
    blockCount size * blockSpan size ≤ size.toNat
      ∧ size.toNat < (blockCount size + 1) * blockSpan size := by
  have hpos := (blockSpan_bounds size).1
  rw [blockCount_eq, Nat.succ_mul]
  exact ⟨Nat.div_mul_le_self .., Nat.lt_div_mul_add hpos⟩

/-- The bitmap has as few blocks as hold one bit for each block. -/
theorem bitmapBlocks_isLeast :
    IsLeast {n | blockCount size ≤ n * blockSpan size * (512 * 8)}
      (forSize size).bitmapBlocks.toNat := by
  have hspan := bitmapSpan_eq size
  have hblocks := toNat_bitmapBlocks size
  -- the eight block sizes make the products linear
  constructor
  · show blockCount size ≤ (forSize size).bitmapBlocks.toNat * blockSpan size * (512 * 8)
    rcases blockSpan_cases size with h | h | h | h | h | h | h | h <;>
      rw [h] at hblocks ⊢ <;> omega
  · intro n hn
    have hn : blockCount size ≤ n * blockSpan size * (512 * 8) := hn
    rcases blockSpan_cases size with h | h | h | h | h | h | h | h <;>
      rw [h] at hblocks hn <;> omega

/-- What is right about the layout of a new volume. -/
structure LayoutFits (size : UInt32) : Prop where
  /-- No step of the computation leaves the 32 bits. -/
  exact : forSize? size = some (forSize size)
  accepted : (forSize size).checkLayout = .ok ()
  blockBytes : (forSize size).blockBytes.toNat = 512 * (sectorsPerBlockFor size).toNat
  totalBlocks : (forSize size).totalBlocks.toNat * (sectorsPerBlockFor size).toNat ≤ size.toNat
    ∧ size.toNat < ((forSize size).totalBlocks.toNat + 1) * (sectorsPerBlockFor size).toNat
  /-- A block of the bitmap has eight bits in each byte of its sectors. -/
  bitmapBlocks : IsLeast
    {n | (forSize size).totalBlocks.toNat ≤ n * (sectorsPerBlockFor size).toNat * (512 * 8)}
    (forSize size).bitmapBlocks.toNat
  inodeTable : (forSize size).inodeTableLba.toNat
    = 2 + (forSize size).bitmapBlocks.toNat * (sectorsPerBlockFor size).toNat
  dataStart : (forSize size).dataStartLba.toNat = (forSize size).inodeTableLba.toNat + 128
  /-- There are as many blocks for data as there are slots. -/
  dataBlocks : (forSize size).dataStartBlock.toNat + 128 ≤ (forSize size).totalBlocks.toNat

theorem layoutFits {size : UInt32} (h : 1024 ≤ size.toNat) : LayoutFits size where
  exact := forSize?_eq size h
  accepted := checkLayout_counted size h (Nat.le_refl _) (Nat.le_refl 128)
  blockBytes := blockBytes_forSize size
  totalBlocks := blockCount_bounds size
  bitmapBlocks := bitmapBlocks_isLeast size
  inodeTable := tableStart_eq size
  dataStart := toNat_dataStartLba size h
  dataBlocks := Nat.le_of_lt (layout_ordered size h).room

end Superblock

/-! ## §2 Files -/

/-- An allocation adds a file while there is a slot without one, and is refused then. -/
theorem FileMap.Step.allocated {size : UInt32} {m m' : FileMap size}
    {answer : Except VolumeError Answer} (h : m.Step (.file .allocate) answer m') :
    (m.count < 128 → (∃ inode record, answer = .ok (.allocated inode record))
        ∧ m'.count = m.count + 1)
      ∧ (m.count = 128 → answer = .error .inodeFull ∧ m' = m) := by
  cases h with
  | allocate hi hb =>
    refine ⟨fun _ => ⟨⟨_, _, rfl⟩, FileMap.count_insert hi.free⟩, fun hfull => ?_⟩
    exact absurd hi.free (FileMap.count_eq_iff.1 hfull _)
  | full hfull => exact ⟨fun hlt => absurd hfull hlt.ne, fun _ => ⟨rfl, rfl⟩⟩

/-- The device after `n` allocations. -/
def Volume.allocations {δ : Type} [BlockDevice δ] (drive : UInt8) (n : Nat) (s : δ) : δ :=
  (FileCall.session drive (List.replicate n .allocate) s).2

namespace DriveView

open Superblock Volume

variable {δ : Type} [BlockDevice δ] {v : DriveView δ} {drive : UInt8} {m : FileMap v.size} {s : δ}

/-- The files after `n` allocations. -/
theorem allocations_count (hv : v.FaultFree drive) (hsize : 1024 ≤ v.size.toNat) (hs : v.Sound s)
    (hκ : v.contents s = m.contents) (n : Nat) :
    ∃ m' : FileMap v.size, v.Sound (allocations drive n s)
      ∧ v.contents (allocations drive n s) = m'.contents ∧ m'.count = min (m.count + n) 128 := by
  unfold allocations
  induction n generalizing s m with
  | zero =>
    have hcount := m.count_le
    exact ⟨m, hs, hκ, by omega⟩
  | succ n ih =>
    obtain ⟨m₁, hstep, hsound, hcontents⟩ := allocate_refines hv hsize hs hκ
    obtain ⟨m', hsound', hcontents', hcount'⟩ := ih hsound hcontents
    obtain ⟨hmore, hfull⟩ := hstep.allocated
    rw [List.replicate_succ, session_cons]
    refine ⟨m', hsound', hcontents', ?_⟩
    rw [hcount']
    by_cases hlt : m.count < 128
    · rw [(hmore hlt).2]
      omega
    · have hcount := m.count_le
      rw [(hfull (by omega)).2]
      omega

/-- An allocation as a call of a session. -/
theorem outcome_allocate (drive : UInt8) (s : δ) :
    (outcome (FileCall.run drive .allocate s)).1
      = (outcome (allocate drive s)).1.map fun file => .allocated file.1 file.2 := by
  simp only [FileCall.run, bind, EStateM.bind]
  cases allocate drive s <;> rfl

/-- **A new volume takes 128 files**, and then refuses for want of a slot. -/
theorem allocate_new (hv : v.FaultFree drive) (hsize : 1024 ≤ v.size.toNat) (hs : v.Sound s)
    (verify : Bool) (n : Nat) :
    ∃ s', format drive verify s = .ok (forSize v.size) s'
      ∧ (n < 128 → ∃ inode record,
          (outcome (allocate drive (allocations drive n s'))).1 = .ok (inode, record))
      ∧ (128 ≤ n → (outcome (allocate drive (allocations drive n s'))).1 = .error .inodeFull) := by
  obtain ⟨s', hformat, hsound, hempty⟩ := format_refines hv hsize hs verify
  obtain ⟨m, hsound', hcontents, hcount⟩ := allocations_count hv hsize hsound hempty n
  obtain ⟨m', hstep, -⟩ := allocate_refines hv hsize hsound' hcontents
  obtain ⟨hmore, hfull⟩ := hstep.allocated
  rw [outcome_allocate] at hmore hfull
  rw [FileMap.count_empty] at hcount
  refine ⟨s', ?_, fun hn => ?_, fun hn => ?_⟩
  · simp only [Call.run, bind, EStateM.bind] at hformat
    cases hrun : format drive verify s with
    | error e t => simp [hrun] at hformat
    | ok sb t =>
      rw [hrun] at hformat
      cases hformat
      rfl
  · obtain ⟨⟨inode, record, hanswer⟩, -⟩ := hmore (by omega)
    cases hrun : (outcome (allocate drive (allocations drive n s'))).1 with
    | error e => simp [hrun, Except.map] at hanswer
    | ok file => exact ⟨file.1, file.2, rfl⟩
  · have hanswer := (hfull (by omega)).1
    cases hrun : (outcome (allocate drive (allocations drive n s'))).1 with
    | error e => simpa [hrun, Except.map] using hanswer
    | ok file => simp [hrun, Except.map] at hanswer

end DriveView

/-! ## §3 All drives -/

namespace Superblock

/-- How a new volume on a drive of this size fills up: whatever the drive, it takes a
file for each of its slots, and is never short of a block for one. -/
def Fills (size : UInt32) : Prop :=
  ∀ {δ : Type} [BlockDevice δ] (v : DriveView δ) (drive : UInt8) (s : δ), v.size = size →
    v.FaultFree drive → v.Sound s → ∀ (verify : Bool) (n : Nat),
    ∃ s', Volume.format drive verify s = .ok (forSize size) s'
      ∧ (n < 128 → ∃ inode record,
          (DriveView.outcome (Volume.allocate drive (Volume.allocations drive n s'))).1
            = .ok (inode, record))
      ∧ (128 ≤ n →
          (DriveView.outcome (Volume.allocate drive (Volume.allocations drive n s'))).1
            = .error .inodeFull)

/-- **Every drive that is large enough has a layout that is right**: it is computed
without overflow and accepted, its areas are as large as they must be and follow one
another, and slots run out before blocks do. Larger drives do not have smaller blocks. -/
theorem forSize_fits {size : UInt32} (h : 1024 ≤ size.toNat) :
    LayoutFits size ∧ Fills size
      ∧ ∀ larger, size ≤ larger → sectorsPerBlockFor size ≤ sectorsPerBlockFor larger := by
  refine ⟨layoutFits h, ?_, fun larger hle => sectorsPerBlockFor_mono hle⟩
  intro δ _ v drive s hsize hv hs verify n
  subst hsize
  exact v.allocate_new hv h hs verify n

/-- The largest drive there is, the bytes of whose blocks do not fit in 16 bits. -/
theorem forSize_fits_largest :
    1024 ≤ (0xFFFFFFFF : UInt32).toNat ∧ (forSize 0xFFFFFFFF).blockSize = 0
      ∧ LayoutFits 0xFFFFFFFF ∧ Fills 0xFFFFFFFF
      ∧ ∀ larger, 0xFFFFFFFF ≤ larger →
          sectorsPerBlockFor 0xFFFFFFFF ≤ sectorsPerBlockFor larger := by
  have hlarge : 1024 ≤ (0xFFFFFFFF : UInt32).toNat := by decide
  exact ⟨hlarge, by decide, forSize_fits hlarge⟩

end Superblock

end AtaVolume
