/-
AtaVolume.Proofs.Exact.Layout — the numbers of a volume, worked out step by step.

The layout and the bitmap are computed on 32-bit numbers, which wrap, and on
arrays, which give a default behind their end. Here each computation is written
once more with every step checked: it has a value only if no sum or product
leaves the 32 bits, no difference falls below zero, no divisor is zero and no
byte is looked up outside its array. The theorems say when that is so, and that
the value is then the one that is computed without checks.
`Superblock.checkLayout?_eq` needs no condition: the checks themselves are safe on
every superblock.
-/
import AtaVolume.Proofs.Volume.Areas

namespace AtaVolume

/-! ## §1 Single steps -/

namespace Exact

/-- The sum, if it is a 32-bit number. -/
def add (a b : UInt32) : Option UInt32 :=
  if a.toNat + b.toNat < UInt32.size then some (a + b) else none

/-- The difference, if it is not below zero. -/
def sub (a b : UInt32) : Option UInt32 := if b.toNat ≤ a.toNat then some (a - b) else none

/-- The product, if it is a 32-bit number. -/
def mul (a b : UInt32) : Option UInt32 :=
  if a.toNat * b.toNat < UInt32.size then some (a * b) else none

/-- The quotient, if there is one. -/
def div (a b : UInt32) : Option UInt32 := if b.toNat = 0 then none else some (a / b)

/-- The rest of a division, if there is one. -/
def mod (a b : UInt32) : Option UInt32 := if b.toNat = 0 then none else some (a % b)

/-- The bytes from `i` up to `j`, if the array has them. -/
def slice (bytes : Bytes) (i j : Nat) : Option Bytes :=
  if i ≤ j ∧ j ≤ bytes.size then some (bytes.extract i j) else none

/-- The array with byte `i` changed, if it has that byte. -/
def modify (bytes : Bytes) (i : Nat) (f : UInt8 → UInt8) : Option Bytes :=
  if i < bytes.size then some (bytes.modify i f) else none

variable {a b c : UInt32}

theorem add_eq (h : a.toNat + b.toNat < 2 ^ 32) : add a b = some (a + b) := if_pos h

theorem add_eq_none (h : 2 ^ 32 ≤ a.toNat + b.toNat) : add a b = none := if_neg (Nat.not_lt.2 h)

theorem sub_eq (h : b.toNat ≤ a.toNat) : sub a b = some (a - b) := if_pos h

theorem mul_eq (h : a.toNat * b.toNat < 2 ^ 32) : mul a b = some (a * b) := if_pos h

theorem mul_eq_none (h : 2 ^ 32 ≤ a.toNat * b.toNat) : mul a b = none := if_neg (Nat.not_lt.2 h)

theorem div_eq (h : 0 < b.toNat) : div a b = some (a / b) := if_neg h.ne'

theorem mod_eq (h : 0 < b.toNat) : mod a b = some (a % b) := if_neg h.ne'

theorem toNat_of_add (h : add a b = some c) : c.toNat = a.toNat + b.toNat := by
  unfold add at h
  split at h
  case isTrue hlt =>
    cases h
    rw [UInt32.toNat_add]
    exact Nat.mod_eq_of_lt hlt
  case isFalse => cases h

theorem toNat_of_sub (h : sub a b = some c) : c.toNat = a.toNat - b.toNat := by
  unfold sub at h
  split at h
  case isTrue hle =>
    cases h
    exact UInt32.toNat_sub_of_le _ _ (UInt32.le_iff_toNat_le.2 hle)
  case isFalse => cases h

end Exact

/-- A quotient rounded up. -/
def ceilDiv? (a b : UInt32) : Option UInt32 := do
  let quotient ← Exact.div a b
  let rest ← Exact.mod a b
  if rest = 0 then return quotient else Exact.add quotient 1

theorem ceilDiv?_eq (a : UInt32) {b : UInt32} (h : 0 < b.toNat) :
    ceilDiv? a b = some (ceilDiv a b) := by
  unfold ceilDiv? ceilDiv
  rw [Exact.div_eq h, Exact.mod_eq h]
  simp only [Option.bind_eq_bind, Option.bind_some]
  by_cases hrest : a % b = 0
  · rw [if_pos hrest, if_pos hrest, UInt32.add_zero]
    rfl
  · rw [if_neg hrest, if_neg hrest]
    apply Exact.add_eq
    have hlt := a.toNat_lt
    have hone : b.toNat ≠ 1 := by
      intro hone
      apply hrest
      rw [← UInt32.toNat_inj, UInt32.toNat_mod, hone, Nat.mod_one]
      rfl
    have hhalf : a.toNat / b.toNat ≤ a.toNat / 2 := Nat.div_le_div_left (by omega) (by decide)
    rw [UInt32.toNat_div, UInt32.toNat_one]
    omega

/-! ## §2 The layout -/

namespace Superblock

variable (sb : Superblock)

/-- Sectors in a block, at least one. -/
def sectorsPerBlock? : Option UInt32 := do return max (← Exact.div sb.blockBytes 512) 1

/-- The first block that lies in the data area as a whole. -/
def dataStartBlock? : Option UInt32 := do ceilDiv? sb.dataStartLba (← sb.sectorsPerBlock?)

/-- The first sector of a block. -/
def blockLba? (block : UInt32) : Option UInt32 := do Exact.mul block (← sb.sectorsPerBlock?)

/-- The block that a sector lies in. -/
def lbaBlock? (lba : UInt32) : Option UInt32 := do Exact.div lba (← sb.sectorsPerBlock?)

/-- Sectors of the bitmap that hold bits. -/
def bitmapSectors? : Option UInt32 := do ceilDiv? (← ceilDiv? sb.totalBlocks 8) 512

/-- The bitmap holds all bits and ends before the index table. Only the first product
may leave the 32 bits; the bitmap then does not fit. -/
def bitmapFits? (spb : UInt32) : Option Bool :=
  match (Exact.mul sb.bitmapBlocks spb).bind (Exact.add sb.bitmapStartLba) with
  | none => some false
  | some stop => do
    let extent ← Exact.mul sb.bitmapBlocks spb
    let needed ← sb.bitmapSectors?
    return decide (needed ≤ extent ∧ stop ≤ sb.inodeTableLba)

/-- The data area starts before the last block ends, and that is below 2³². -/
def dataFits (spb : UInt32) : Bool :=
  match Exact.mul sb.totalBlocks spb with
  | none => false
  | some sectors => decide (sb.dataStartLba < sectors)

/-- The checks of a superblock. -/
def checkLayout? : ExceptT Corruption Option Unit := do
  let bytes := sb.blockBytes
  let spb ← Exact.div bytes 512
  if (← Exact.mod bytes 512) ≠ 0 ∨ ¬ isPowerOfTwo spb ∨ maxSectorsPerBlock < spb then
    throw (.blockSize bytes)
  if sb.totalInodes ≠ indexSlots ∨ sb.totalInodes < sb.freeInodes then
    throw (.indexCounts sb.freeInodes sb.totalInodes)
  if sb.totalBlocks < sb.freeBlocks then
    throw (.blockCounts sb.freeBlocks sb.totalBlocks)
  if sb.bitmapStartLba ≠ bitmapStart then
    throw (.bitmapStart sb.bitmapStartLba)
  if !(← sb.bitmapFits? spb) then
    throw (.bitmapExtent sb.bitmapBlocks sb.inodeTableLba)
  if Exact.add sb.inodeTableLba indexSlots ≠ some sb.dataStartLba then
    throw (.tableExtent sb.inodeTableLba sb.dataStartLba)
  if !sb.dataFits spb then
    throw (.dataStart sb.dataStartLba sb.totalBlocks)

theorem dataStartBlock?_eq : sb.dataStartBlock? = some sb.dataStartBlock :=
  ceilDiv?_eq _ sb.sectorsPerBlock_pos

theorem lbaBlock?_eq (lba : UInt32) : sb.lbaBlock? lba = some (sb.lbaBlock lba) :=
  Exact.div_eq sb.sectorsPerBlock_pos

theorem bitmapSectors?_eq : sb.bitmapSectors? = some sb.bitmapSectors := by
  unfold bitmapSectors?
  rw [ceilDiv?_eq _ (show 0 < (8 : UInt32).toNat by decide)]
  exact ceilDiv?_eq _ (show 0 < (512 : UInt32).toNat by decide)

theorem blockLba?_eq {block : UInt32} (h : sb.BlockInData block) :
    sb.blockLba? block = some (sb.blockLba block) :=
  Exact.mul_eq (h.first ▸ (sb.blockLba block).toNat_lt)

theorem bitmapFits?_eq (spb : UInt32) :
    sb.bitmapFits? spb = some (decide ¬ (sb.bitmapBlocks.toNat * spb.toNat < sb.bitmapSectors.toNat
      ∨ sb.inodeTableLba.toNat < sb.bitmapStartLba.toNat + sb.bitmapBlocks.toNat * spb.toNat)) := by
  have htable := sb.inodeTableLba.toNat_lt
  unfold bitmapFits?
  by_cases hmul : sb.bitmapBlocks.toNat * spb.toNat < 2 ^ 32
  · have hextent : (sb.bitmapBlocks * spb).toNat = sb.bitmapBlocks.toNat * spb.toNat := by
      rw [UInt32.toNat_mul, Nat.mod_eq_of_lt hmul]
    rw [Exact.mul_eq hmul, Option.bind_some]
    by_cases hadd : sb.bitmapStartLba.toNat + (sb.bitmapBlocks * spb).toNat < 2 ^ 32
    · have hstop : (sb.bitmapStartLba + sb.bitmapBlocks * spb).toNat
          = sb.bitmapStartLba.toNat + sb.bitmapBlocks.toNat * spb.toNat := by
        rw [UInt32.toNat_add, Nat.mod_eq_of_lt hadd, hextent]
      rw [Exact.add_eq hadd, bitmapSectors?_eq]
      simp only [Option.bind_eq_bind, Option.bind_some, Option.pure_def, UInt32.le_iff_toNat_le,
        hstop, hextent, not_or, Nat.not_lt]
    · rw [Exact.add_eq_none (Nat.le_of_not_lt hadd)]
      rw [hextent] at hadd
      simp only [Option.some_inj]
      exact (decide_eq_false (by omega)).symm
  · rw [Exact.mul_eq_none (Nat.le_of_not_lt hmul)]
    simp only [Option.bind_none, Option.some_inj]
    exact (decide_eq_false (by omega)).symm

theorem dataFits_eq (spb : UInt32) :
    sb.dataFits spb = decide ¬ (UInt32.size ≤ sb.totalBlocks.toNat * spb.toNat
      ∨ sb.totalBlocks.toNat * spb.toNat ≤ sb.dataStartLba.toNat) := by
  unfold dataFits
  by_cases hmul : sb.totalBlocks.toNat * spb.toNat < 2 ^ 32
  · rw [Exact.mul_eq hmul]
    simp only [UInt32.lt_iff_toNat_lt, UInt32.toNat_mul, Nat.mod_eq_of_lt hmul, not_or, Nat.not_le]
    exact decide_eq_decide.2 ⟨fun h => ⟨hmul, h⟩, fun h => h.2⟩
  · rw [Exact.mul_eq_none (Nat.le_of_not_lt hmul)]
    exact (decide_eq_false (not_not_intro (.inl (Nat.le_of_not_lt hmul)))).symm

theorem add_eq_some_iff {a b c : UInt32} :
    Exact.add a b = some c ↔ a.toNat + b.toNat = c.toNat := by
  have hc := c.toNat_lt
  by_cases h : a.toNat + b.toNat < 2 ^ 32
  · rw [Exact.add_eq h, Option.some_inj, ← UInt32.toNat_inj, UInt32.toNat_add, Nat.mod_eq_of_lt h]
  · rw [Exact.add_eq_none (Nat.le_of_not_lt h)]
    simp only [reduceCtorEq, false_iff]
    omega

/-! A call that checks and one that does not, side by side. -/

section

variable {ε α β : Type} {e : ε} {x : ExceptT ε Option α} {y : Except ε α}

/-- A check before others, made in both ways. -/
theorem refuse_settled {p q : Prop} [Decidable p] [Decidable q] {f : β → ExceptT ε Option α}
    {g : β → Except ε α} (hcheck : p ↔ q) (hrest : x = ExceptT.mk (some y)) :
    (if p then throw e >>= f else x) = ExceptT.mk (some (if q then throw e >>= g else y)) := by
  by_cases hq : q
  · rw [if_pos (hcheck.2 hq), if_pos hq]
    rfl
  · rw [if_neg (fun hp => hq (hcheck.1 hp)), if_neg hq, hrest]

/-- A step that has a value. -/
theorem liftM_some_bind {a : β} {f : β → ExceptT ε Option α} :
    ((liftM (some a) : ExceptT ε Option β) >>= f) = f a := rfl

end

/-- **The checks have a value on every superblock, and it is their result.** -/
theorem checkLayout?_eq : sb.checkLayout?.run = some sb.checkLayout := by
  show sb.checkLayout? = ExceptT.mk (some sb.checkLayout)
  unfold checkLayout? checkLayout
  simp only [Exact.div_eq (a := sb.blockBytes) (b := 512) (by decide),
    Exact.mod_eq (a := sb.blockBytes) (b := 512) (by decide), liftM_some_bind, bitmapFits?_eq]
  apply refuse_settled Iff.rfl
  apply refuse_settled Iff.rfl
  apply refuse_settled Iff.rfl
  apply refuse_settled Iff.rfl
  apply refuse_settled (by simp)
  apply refuse_settled (not_congr add_eq_some_iff)
  have hdata : ((!sb.dataFits (sb.blockBytes / 512)) = true)
      ↔ (UInt32.size ≤ sb.totalBlocks.toNat * (sb.blockBytes / 512).toNat
        ∨ sb.totalBlocks.toNat * (sb.blockBytes / 512).toNat ≤ sb.dataStartLba.toNat) := by
    rw [dataFits_eq]
    simp
  simp only [hdata]
  split <;> rfl

end Superblock

end AtaVolume
