/-
AtaVolume.Proofs.Exact.NewLayout — the layout of a new volume, worked out step by step.

`Superblock.forSize?` computes the layout with every step checked, as the checks of a
superblock are in `AtaVolume.Proofs.Exact.Layout`. One step is meant to lose something:
the bytes of a block are cut to 16 bits, so that 65536 is kept as 0, and `blockBytes`
undoes that (`blockBytes_forSize`). No other step can leave the 32 bits on a drive that
is large enough for a volume (`forSize?_eq`).
-/
import AtaVolume.Proofs.Exact.Layout

namespace AtaVolume

/-- Sectors of a bitmap with one bit for each block. -/
def bitmapSectorsFor? (blocks : UInt32) : Option UInt32 := do ceilDiv? (← ceilDiv? blocks 8) 512

theorem bitmapSectorsFor?_eq (blocks : UInt32) :
    bitmapSectorsFor? blocks = some (bitmapSectorsFor blocks) := by
  simp [bitmapSectorsFor?, bitmapSectorsFor, ceilDiv?_eq]

namespace Superblock

/-- The superblock of a new volume on a drive of this size. -/
def forSize? (sectors : UInt32) : Option Superblock := do
  let spb := sectorsPerBlockFor sectors
  let blockBytes ← Exact.mul spb 512
  let totalBlocks ← Exact.div sectors spb
  let bitmapBlocks ← ceilDiv? (← bitmapSectorsFor? totalBlocks) spb
  let inodeTableLba ← Exact.add bitmapStart (← Exact.mul bitmapBlocks spb)
  let dataStartLba ← Exact.add inodeTableLba indexSlots
  return {
    magic := volumeMagic
    freeBlocks := totalBlocks
    blockSize := blockBytes.toUInt16
    totalBlocks
    freeInodes := indexSlots
    totalInodes := indexSlots
    bitmapStartLba := bitmapStart
    bitmapBlocks
    inodeTableLba
    dataStartLba
    state := stateClean
    errors := 0 }

variable (size : UInt32)

/-- A block has at least one sector and at most 128. -/
theorem blockSpan_bounds : 1 ≤ blockSpan size ∧ blockSpan size ≤ 128 := by
  have hspan := blockSpan_cases size
  omega

/-- The bitmap is as large as its blocks, and ends where the index table starts. -/
theorem bitmapExtent_lt : 2 + (forSize size).bitmapBlocks.toNat * blockSpan size < 2 ^ 32 := by
  rw [← tableStart_eq]
  exact (forSize size).inodeTableLba.toNat_lt

/-- **No step of the layout leaves the 32 bits.** -/
theorem forSize?_eq (h : 1024 ≤ size.toNat) : forSize? size = some (forSize size) := by
  obtain ⟨hpos, hmax⟩ := blockSpan_bounds size
  have hbytes : Exact.mul (sectorsPerBlockFor size) 512 = some (sectorsPerBlockFor size * 512) := by
    apply Exact.mul_eq
    show blockSpan size * 512 < 2 ^ 32
    omega
  have hextent : Exact.mul (forSize size).bitmapBlocks (sectorsPerBlockFor size)
      = some ((forSize size).bitmapBlocks * sectorsPerBlockFor size) := by
    apply Exact.mul_eq
    have hlt := bitmapExtent_lt size
    show (forSize size).bitmapBlocks.toNat * blockSpan size < 2 ^ 32
    omega
  have hproduct : ((forSize size).bitmapBlocks * sectorsPerBlockFor size).toNat
      = (forSize size).bitmapBlocks.toNat * blockSpan size := by
    have hlt := bitmapExtent_lt size
    rw [UInt32.toNat_mul]
    show (forSize size).bitmapBlocks.toNat * blockSpan size % 2 ^ 32 = _
    exact Nat.mod_eq_of_lt (by omega)
  have htable : Exact.add bitmapStart ((forSize size).bitmapBlocks * sectorsPerBlockFor size)
      = some (forSize size).inodeTableLba := by
    apply Exact.add_eq
    rw [hproduct]
    exact bitmapExtent_lt size
  have hdata : Exact.add (forSize size).inodeTableLba indexSlots
      = some (forSize size).dataStartLba := by
    apply Exact.add_eq
    have hlt := (forSize size).dataStartLba.toNat_lt
    rw [toNat_dataStartLba size h] at hlt
    exact hlt
  have hblocks : ceilDiv? (bitmapSectorsFor (size / sectorsPerBlockFor size))
      (sectorsPerBlockFor size) = some (forSize size).bitmapBlocks := ceilDiv?_eq _ hpos
  unfold forSize?
  simp only [hbytes, Exact.div_eq hpos, bitmapSectorsFor?_eq, hblocks, hextent, htable, hdata,
    Option.bind_eq_bind, Option.bind_some, Option.pure_def]
  rfl

/-- The bytes of a block are read as they were meant. -/
theorem blockBytes_forSize : (forSize size).blockBytes.toNat = 512 * blockSpan size := by
  have hkept : ∀ {span : UInt32}, span ∈ ([1, 2, 4, 8, 16, 32, 64, 128] : List UInt32) →
      (keptBytes span).toNat = 512 * span.toNat := by
    intro span hspan
    simp only [List.mem_cons, List.not_mem_nil, or_false] at hspan
    rcases hspan with rfl | rfl | rfl | rfl | rfl | rfl | rfl | rfl <;> decide
  exact hkept (sectorsPerBlockFor_spec size).1

end Superblock

end AtaVolume
