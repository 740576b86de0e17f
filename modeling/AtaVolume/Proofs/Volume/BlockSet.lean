/-
AtaVolume.Proofs.Volume.BlockSet — a bitmap is a set of blocks that knows its size.

`BlockBitmap.blocks` is the set of the blocks whose bit is set. On a bitmap whose numbers
are right a call does to it what its name says and keeps the numbers right
(`BitmapCall.run_becomes`), so by induction a bitmap follows its set through any calls, with
no number ever leaving its range (`follows_set`). Bits that belong to no block are carried
along.

The search for a free block needs less: the bits must be as many as the blocks take, and
may otherwise be any. It is a first fit (`firstFree_exact`), so marking what it finds and
searching again goes through the free blocks in order (`claim_eq_take`).
-/
import AtaVolume.Proofs.Exact.Bitmap

namespace AtaVolume

namespace BlockBitmap

variable {m : BlockBitmap} {block : UInt32}

/-! ## §1 The set -/

/-- The blocks that are used. -/
def blocks (m : BlockBitmap) : Finset Nat :=
  (Finset.range m.total.toNat).filter fun b => bit m.bits b = true

theorem mem_blocks {b : Nat} : b ∈ m.blocks ↔ b < m.total.toNat ∧ bit m.bits b = true := by
  rw [blocks, Finset.mem_filter, Finset.mem_range]

/-- Blocks that do not exist count as used, and are not in the set. -/
theorem isUsed_iff : m.isUsed block = true ↔ block.toNat ∈ m.blocks ∨ m.total ≤ block := by
  rw [mem_blocks, UInt32.le_iff_toNat_le]
  by_cases hlt : block.toNat < m.total.toNat
  · rw [isUsed_of_lt hlt]
    exact ⟨fun h => .inl ⟨hlt, h⟩, fun h => h.elim (fun h => h.2) fun h => absurd h (by omega)⟩
  · rw [isUsed_of_le (by omega)]
    exact ⟨fun _ => .inr (by omega), fun _ => rfl⟩

theorem isUsed_eq_false_iff :
    m.isUsed block = false ↔ block < m.total ∧ block.toNat ∉ m.blocks := by
  rw [← Bool.not_eq_true, isUsed_iff, not_or, UInt32.not_le, and_comm]

theorem card_blocks (m : BlockBitmap) :
    m.blocks.card = (List.range m.total.toNat).countP fun b => bit m.bits b := by
  have hlist : m.blocks.card
      = ((List.range m.total.toNat).filter fun b => decide (bit m.bits b = true)).length := rfl
  simp only [hlist, Bool.decide_eq_true, List.countP_eq_length_filter]

theorem card_blocks_le (m : BlockBitmap) : m.blocks.card ≤ m.total.toNat := by
  rw [card_blocks]
  exact List.countP_le_length.trans (Nat.le_of_eq List.length_range)

/-- The numbers of a bitmap are those of its set. -/
theorem counted_iff :
    m.Counted ↔ m.bits.size = (m.total.toNat + 7) / 8 ∧ m.usedCount.toNat = m.blocks.card
      ∧ m.freeCount.toNat = m.total.toNat - m.blocks.card := by
  have hle := card_blocks_le m
  constructor
  · rintro ⟨hsize, hused, hsum⟩
    rw [← card_blocks] at hused
    exact ⟨hsize, hused, by omega⟩
  · rintro ⟨hsize, hused, hfree⟩
    exact ⟨hsize, hused.trans (card_blocks m), by omega⟩

/-! ## §2 Changes -/

/-- The bitmap `m` has become one for the blocks in `U`. -/
structure Becomes (m m' : BlockBitmap) (U : Finset Nat) : Prop where
  counted : m'.Counted
  total : m'.total = m.total
  blocks : m'.blocks = U
  /-- The bits that belong to no block. -/
  rest : ∀ k, m.total.toNat ≤ k → bit m'.bits k = bit m.bits k

theorem Becomes.refl (h : m.Counted) : m.Becomes m m.blocks := ⟨h, rfl, rfl, fun _ _ => rfl⟩

theorem setUsed_of_used (h : m.isUsed block = true) : m.setUsed block = (false, m) := if_pos h

theorem setUsed_of_free (h : m.isUsed block = false) :
    m.setUsed block
      = (true, { m with bits := m.bits.modify (block.toNat / 8) (· ||| mask block.toNat)
                        freeCount := m.freeCount - 1
                        usedCount := m.usedCount + 1 }) := by
  rw [setUsed, h]
  rfl

theorem setFree_of_notMem (h : block.toNat ∉ m.blocks) : m.setFree block = (false, m) := by
  by_cases hle : m.total ≤ block
  · exact if_pos hle
  · rw [setFree, if_neg hle, isUsed_eq_false_iff.2 ⟨UInt32.not_le.1 hle, h⟩]
    rfl

theorem setFree_of_mem (h : block.toNat ∈ m.blocks) :
    m.setFree block
      = (true, { m with bits := m.bits.modify (block.toNat / 8) (· &&& ~~~ mask block.toNat)
                        freeCount := m.freeCount + 1
                        usedCount := m.usedCount - 1 }) := by
  obtain ⟨hlt, hbit⟩ := mem_blocks.1 h
  rw [setFree, if_neg (by rw [UInt32.le_iff_toNat_le]; omega), isUsed_of_lt hlt, if_pos hbit]

/-- The bits are enough for the blocks. -/
theorem Counted.le_bits (h : m.Counted) : m.total.toNat ≤ m.bits.size * 8 := by
  rw [h.size]
  omega

theorem blocks_setUsed (h : m.Counted) (hlt : block.toNat < m.total.toNat) :
    (m.setUsed block).2.blocks = insert block.toNat m.blocks := by
  ext b
  rw [Finset.mem_insert, mem_blocks, mem_blocks, total_setUsed, bit_setUsed hlt h.le_bits,
    Bool.or_eq_true, beq_iff_eq]
  constructor
  · rintro ⟨hb, hbit | rfl⟩
    · exact .inr ⟨hb, hbit⟩
    · exact .inl rfl
  · rintro (rfl | ⟨hb, hbit⟩)
    · exact ⟨hlt, .inr rfl⟩
    · exact ⟨hb, .inl hbit⟩

theorem blocks_setFree (h : m.Counted) (hlt : block.toNat < m.total.toNat) :
    (m.setFree block).2.blocks = m.blocks.erase block.toNat := by
  ext b
  rw [Finset.mem_erase, mem_blocks, mem_blocks, total_setFree, bit_setFree hlt h.le_bits,
    Bool.and_eq_true, bne_iff_ne]
  exact ⟨fun ⟨hb, hbit, hne⟩ => ⟨hne, hb, hbit⟩, fun ⟨hne, hb, hbit⟩ => ⟨hb, hbit, hne⟩⟩

/-- **A free block that is marked joins the set.** -/
theorem becomes_setUsed (h : m.Counted) (hfree : m.isUsed block = false) :
    (m.setUsed block).1 = true
      ∧ m.Becomes (m.setUsed block).2 (insert block.toNat m.blocks) := by
  obtain ⟨hblock, hnew⟩ := isUsed_eq_false_iff.1 hfree
  rw [UInt32.lt_iff_toNat_lt] at hblock
  obtain ⟨hsize, hused, hcount⟩ := counted_iff.1 h
  have hblocks := blocks_setUsed h hblock
  have hcard := card_blocks_le (m.setUsed block).2
  rw [hblocks, Finset.card_insert_of_notMem hnew, total_setUsed] at hcard
  have htotal := m.total.toNat_lt
  have husedCount : (m.usedCount + 1).toNat = m.usedCount.toNat + 1 := by
    rw [UInt32.toNat_add, UInt32.toNat_one, Nat.mod_eq_of_lt (by omega)]
  have hfreeCount : (m.freeCount - 1).toNat = m.freeCount.toNat - 1 :=
    UInt32.toNat_sub_of_le _ _ (by rw [UInt32.le_iff_toNat_le, UInt32.toNat_one]; omega)
  refine ⟨by rw [setUsed_of_free hfree], counted_iff.2 ⟨?_, ?_, ?_⟩, total_setUsed block, hblocks,
    fun k hk => ?_⟩
  · rw [size_bits_setUsed, total_setUsed, hsize]
  · rw [hblocks, Finset.card_insert_of_notMem hnew, setUsed_of_free hfree, husedCount, hused]
  · rw [hblocks, Finset.card_insert_of_notMem hnew, total_setUsed, setUsed_of_free hfree,
      hfreeCount, hcount, Nat.sub_sub]
  · rw [bit_setUsed hblock h.le_bits, beq_false_of_ne (by omega), Bool.or_false]

/-- **A used block that is freed leaves the set.** -/
theorem becomes_setFree (h : m.Counted) (hmem : block.toNat ∈ m.blocks) :
    (m.setFree block).1 = true
      ∧ m.Becomes (m.setFree block).2 (m.blocks.erase block.toNat) := by
  obtain ⟨hblock, -⟩ := mem_blocks.1 hmem
  obtain ⟨hsize, hused, hcount⟩ := counted_iff.1 h
  have hblocks := blocks_setFree h hblock
  have hcard := card_blocks_le m
  have hpos := Finset.card_pos.2 ⟨_, hmem⟩
  have htotal := m.total.toNat_lt
  have husedCount : (m.usedCount - 1).toNat = m.usedCount.toNat - 1 :=
    UInt32.toNat_sub_of_le _ _ (by rw [UInt32.le_iff_toNat_le, UInt32.toNat_one]; omega)
  have hfreeCount : (m.freeCount + 1).toNat = m.freeCount.toNat + 1 := by
    rw [UInt32.toNat_add, UInt32.toNat_one, Nat.mod_eq_of_lt (by omega)]
  refine ⟨by rw [setFree_of_mem hmem], counted_iff.2 ⟨?_, ?_, ?_⟩, total_setFree block, hblocks,
    fun k hk => ?_⟩
  · rw [size_bits_setFree, total_setFree, hsize]
  · rw [hblocks, Finset.card_erase_of_mem hmem, setFree_of_mem hmem, husedCount, hused]
  · rw [hblocks, Finset.card_erase_of_mem hmem, total_setFree, setFree_of_mem hmem, hfreeCount]
    omega
  · rw [bit_setFree hblock h.le_bits, bne_iff_ne.2 (show k ≠ block.toNat by omega), Bool.and_true]

/-- Counting anew changes no bit. -/
theorem becomes_recount (h : m.Counted) : m.Becomes m.recount m.blocks :=
  ⟨counted_recount h.size, rfl, rfl, fun _ _ => rfl⟩

end BlockBitmap

/-! ## §3 Calls -/

open BlockBitmap

/-- Calls that may change a bitmap. -/
inductive BitmapCall
  | setUsed (block : UInt32)
  | setFree (block : UInt32)
  | recount
  deriving DecidableEq, Repr

namespace BitmapCall

/-- What a call answers, a recount nothing, and the bitmap after it. -/
def run : BitmapCall → BlockBitmap → Option Bool × BlockBitmap
  | .setUsed block, m => (some (m.setUsed block).1, (m.setUsed block).2)
  | .setFree block, m => (some (m.setFree block).1, (m.setFree block).2)
  | .recount, m => (none, m.recount)

/-- The call with every step checked. -/
def run? : BitmapCall → BlockBitmap → Option (Option Bool × BlockBitmap)
  | .setUsed block, m => return (some (← m.setUsed? block).1, (← m.setUsed? block).2)
  | .setFree block, m => return (some (← m.setFree? block).1, (← m.setFree? block).2)
  | .recount, m => return (none, ← m.recount?)

/-- What a call is meant to do to the used ones among `total` blocks. -/
def onSet (total : UInt32) : BitmapCall → Finset Nat → Option Bool × Finset Nat
  | .setUsed block, U =>
    if block < total ∧ block.toNat ∉ U then (some true, insert block.toNat U) else (some false, U)
  | .setFree block, U =>
    if block.toNat ∈ U then (some true, U.erase block.toNat) else (some false, U)
  | .recount, U => (none, U)

/-- Makes calls one after the other; gives what they answer, and what they end with. -/
def inOrder {σ : Type} (step : BitmapCall → σ → Option Bool × σ) :
    List BitmapCall → σ → List (Option Bool) × σ
  | [], s => ([], s)
  | c :: calls, s =>
    let rest := inOrder step calls (step c s).2
    ((step c s).1 :: rest.1, rest.2)

/-- The same with calls that check their steps. -/
def inOrder? {σ : Type} (step : BitmapCall → σ → Option (Option Bool × σ)) :
    List BitmapCall → σ → Option (List (Option Bool) × σ)
  | [], s => return ([], s)
  | c :: calls, s => do
    let (answer, s) ← step c s
    let (answers, s) ← inOrder? step calls s
    return (answer :: answers, s)

variable {m : BlockBitmap}

theorem run?_eq (h : m.Counted) (c : BitmapCall) : c.run? m = some (c.run m) := by
  cases c with
  | setUsed block => simp [run?, run, setUsed?_eq h]
  | setFree block => simp [run?, run, setFree?_eq h]
  | recount => simp [run?, run, recount?_eq h.size]

/-- **One call does to the bitmap what it is meant to do to the set.** -/
theorem run_becomes (h : m.Counted) (c : BitmapCall) :
    (c.run m).1 = (c.onSet m.total m.blocks).1
      ∧ m.Becomes (c.run m).2 (c.onSet m.total m.blocks).2 := by
  cases c with
  | setUsed block =>
    simp only [run, onSet, ← isUsed_eq_false_iff]
    by_cases hfree : m.isUsed block = false
    · obtain ⟨hanswer, hbecomes⟩ := becomes_setUsed h hfree
      rw [if_pos hfree, hanswer]
      exact ⟨rfl, hbecomes⟩
    · rw [if_neg hfree, setUsed_of_used (Bool.eq_true_of_not_eq_false hfree)]
      exact ⟨rfl, .refl h⟩
  | setFree block =>
    simp only [run, onSet]
    by_cases hmem : block.toNat ∈ m.blocks
    · obtain ⟨hanswer, hbecomes⟩ := becomes_setFree h hmem
      rw [if_pos hmem, hanswer]
      exact ⟨rfl, hbecomes⟩
    · rw [if_neg hmem, setFree_of_notMem hmem]
      exact ⟨rfl, .refl h⟩
  | recount => exact ⟨rfl, becomes_recount h⟩

/-- A call that says that it has changed nothing has not. -/
theorem run_of_false {c : BitmapCall} (h : (c.run m).1 = some false) : (c.run m).2 = m := by
  cases c with
  | setUsed block =>
    cases hused : m.isUsed block with
    | true => simp only [run, setUsed_of_used hused]
    | false =>
      simp only [run, setUsed_of_free hused] at h
      cases h
  | setFree block =>
    by_cases hmem : block.toNat ∈ m.blocks
    · simp only [run, setFree_of_mem hmem] at h
      cases h
    · simp only [run, setFree_of_notMem hmem]
  | recount => cases h

/-- **So do all calls, one after the other.** -/
theorem inOrder_becomes (h : m.Counted) (calls : List BitmapCall) :
    inOrder? run? calls m = some (inOrder run calls m)
      ∧ (inOrder run calls m).1 = (inOrder (onSet m.total) calls m.blocks).1
      ∧ m.Becomes (inOrder run calls m).2 (inOrder (onSet m.total) calls m.blocks).2 := by
  induction calls generalizing m with
  | nil => exact ⟨rfl, rfl, .refl h⟩
  | cons c calls ih =>
    obtain ⟨hanswer, hbecomes⟩ := run_becomes h c
    obtain ⟨hchecked, hanswers, hlater⟩ := ih hbecomes.counted
    rw [hbecomes.total, hbecomes.blocks] at hanswers hlater
    refine ⟨?_, ?_, ?_⟩
    · simp only [inOrder?, run?_eq h, Option.bind_eq_bind, Option.bind_some, hchecked]
      rfl
    · simp only [inOrder, hanswer, hanswers]
    · refine ⟨hlater.counted, hlater.total.trans hbecomes.total, hlater.blocks, fun k hk => ?_⟩
      exact (hlater.rest k (by rwa [hbecomes.total])).trans (hbecomes.rest k hk)

end BitmapCall

/-! ## §4 New bitmaps -/

/-- Where a bitmap comes from. -/
inductive BitmapOrigin
  | blank
  | read (bytes : Bytes)
  deriving DecidableEq, Repr

namespace BitmapOrigin

/-- The bitmap for `total` blocks. -/
def bitmap (total : UInt32) : BitmapOrigin → BlockBitmap
  | .blank => .blank total
  | .read bytes => .ofBytes bytes total

/-- The same with every step checked. -/
def bitmap? (total : UInt32) : BitmapOrigin → Option BlockBitmap
  | .blank => return .blank total
  | .read bytes => BlockBitmap.ofBytes? bytes total

/-- The bytes that tell which blocks are used; behind their end they are zeros. -/
def bytes : BitmapOrigin → Bytes
  | .blank => #[]
  | .read bytes => bytes

/-- The used ones among `total` blocks. -/
def blocks (total : UInt32) : BitmapOrigin → Finset Nat
  | .blank => ∅
  | .read bytes => (Finset.range total.toNat).filter fun b => bit bytes b = true

variable (total : UInt32)

/-- A blank bitmap is one that was read from no bytes. -/
theorem bitmap_eq (origin : BitmapOrigin) : origin.bitmap total = ofBytes origin.bytes total := by
  cases origin with
  | blank => exact (ofBytes_zeroes 0 total).symm
  | read bytes => rfl

theorem bitmap?_eq (origin : BitmapOrigin) :
    origin.bitmap? total = some (origin.bitmap total) := by
  cases origin with
  | blank => rfl
  | read bytes => exact ofBytes?_eq bytes total

theorem blocks_bitmap (origin : BitmapOrigin) :
    (origin.bitmap total).blocks = origin.blocks total := by
  ext b
  rw [bitmap_eq, mem_blocks, total_ofBytes]
  cases origin with
  | blank =>
    refine ⟨fun ⟨hlt, hbit⟩ => ?_, fun h => absurd h (Finset.notMem_empty b)⟩
    rw [bit_ofBytes _ hlt, show bit (bytes .blank) b = false from bit_zeroes 0 b] at hbit
    cases hbit
  | read bytes =>
    rw [blocks, Finset.mem_filter, Finset.mem_range]
    exact and_congr_right fun hlt => by rw [bit_ofBytes _ hlt]; rfl

end BitmapOrigin

/-- The bitmap `m` says that the blocks in `U` are the used ones among `total`, and how many
there are. -/
structure BlockBitmap.StandsFor (m : BlockBitmap) (total : UInt32) (U : Finset Nat) : Prop where
  same : m.total = total
  size : m.bits.size = (total.toNat + 7) / 8
  lt : ∀ b ∈ U, b < total.toNat
  isUsed : ∀ block, m.isUsed block = true ↔ block.toNat ∈ U ∨ total ≤ block
  usedCount : m.usedCount.toNat = U.card
  freeCount : m.freeCount.toNat = total.toNat - U.card

theorem BlockBitmap.Counted.standsFor {m : BlockBitmap} (h : m.Counted) :
    m.StandsFor m.total m.blocks :=
  have hcounts := counted_iff.1 h
  ⟨rfl, h.size, fun _ hb => (mem_blocks.1 hb).1, fun _ => isUsed_iff, hcounts.2.1, hcounts.2.2⟩

/-- **A bitmap is a set that knows its size**, through all calls, whether it starts blank or
with any bytes. No call leaves the range of a number, one that answers `false` changes
nothing, and no call changes a bit that belongs to no block. -/
theorem BitmapOrigin.follows_set (origin : BitmapOrigin) (total : UInt32)
    (calls : List BitmapCall) :
    let last := BitmapCall.inOrder BitmapCall.run calls (origin.bitmap total)
    let U := BitmapCall.inOrder (BitmapCall.onSet total) calls (origin.blocks total)
    (origin.bitmap? total >>= BitmapCall.inOrder? BitmapCall.run? calls) = some last
      ∧ last.1 = U.1 ∧ last.2.StandsFor total U.2
      ∧ (∀ c : BitmapCall, (c.run last.2).1 = some false → (c.run last.2).2 = last.2)
      ∧ ∀ k, total.toNat ≤ k → k / 8 < last.2.bits.size →
          bit last.2.bits k = bit origin.bytes k := by
  intro last U
  have htotal : (origin.bitmap total).total = total := by rw [origin.bitmap_eq]; rfl
  have hcounted : (origin.bitmap total).Counted := by
    rw [origin.bitmap_eq]
    exact counted_ofBytes _ _
  obtain ⟨hchecked, hanswers, hbecomes⟩ := BitmapCall.inOrder_becomes hcounted calls
  rw [htotal, origin.blocks_bitmap] at hanswers hbecomes
  have hstands := hbecomes.counted.standsFor
  rw [hbecomes.total, htotal, hbecomes.blocks] at hstands
  refine ⟨?_, hanswers, hstands, fun c => BitmapCall.run_of_false, fun k hk hbyte => ?_⟩
  · rw [origin.bitmap?_eq]
    exact hchecked
  · rw [hbecomes.rest k (by rwa [htotal]), origin.bitmap_eq]
    rw [hstands.size] at hbyte
    exact bit_fitTo _ hbyte

/-! ## §5 Searching -/

namespace BlockBitmap

variable {m : BlockBitmap} {start block : UInt32}

/-- The free blocks from `start` on, in order. -/
def freeFrom (m : BlockBitmap) (start : UInt32) : List Nat :=
  (List.range' start.toNat (m.total.toNat - start.toNat)).filter fun b => !bit m.bits b

/-- Marks the first free block from `start` on, `n` times, as long as there is one. Gives
these blocks, and the bitmap after them. -/
def claim (m : BlockBitmap) (start : UInt32) : (n : Nat) → List UInt32 × BlockBitmap
  | 0 => ([], m)
  | n + 1 =>
    match m.firstFree start with
    | none => ([], m)
    | some block =>
      let rest := claim (m.setUsed block).2 start n
      (block :: rest.1, rest.2)

/-- The same with every step checked. -/
def claim? (m : BlockBitmap) (start : UInt32) : (n : Nat) → Option (List UInt32 × BlockBitmap)
  | 0 => return ([], m)
  | n + 1 => do
    match ← m.firstFree? start with
    | none => return ([], m)
    | some block =>
      let (_, m) ← m.setUsed? block
      let (blocks, m) ← claim? m start n
      return (block :: blocks, m)

theorem mem_freeFrom {b : Nat} :
    b ∈ m.freeFrom start ↔ start.toNat ≤ b ∧ b < m.total.toNat ∧ bit m.bits b = false := by
  rw [freeFrom, List.mem_filter, List.mem_range'_1, Bool.not_eq_true']
  constructor
  · rintro ⟨⟨hle, hlt⟩, hbit⟩
    exact ⟨hle, by omega, hbit⟩
  · rintro ⟨hle, hlt, hbit⟩
    exact ⟨⟨hle, by omega⟩, hbit⟩

theorem pairwise_freeFrom : (m.freeFrom start).Pairwise (· < ·) :=
  (List.pairwise_lt_range' 1).filter _

theorem firstFree_eq_some_iff :
    m.firstFree start = some block ↔ start.toNat ≤ block.toNat ∧ block.toNat < m.total.toNat
      ∧ bit m.bits block.toNat = false
      ∧ ∀ k, start.toNat ≤ k → k < block.toNat → bit m.bits k = true := by
  constructor
  · exact firstFree_eq_some
  · intro h
    rw [firstFree, searchFree_eq_some_iff.2 h, Option.map_some, UInt32.ofNat_toNat]

theorem firstFree_eq_none_iff :
    m.firstFree start = none
      ↔ ∀ k, start.toNat ≤ k → k < m.total.toNat → bit m.bits k = true := by
  constructor
  · exact fun h k => firstFree_eq_none h
  · intro h
    cases hfirst : m.firstFree start with
    | none => rfl
    | some block =>
      obtain ⟨hle, hlt, hfree, -⟩ := firstFree_eq_some hfirst
      rw [h _ hle hlt] at hfree
      cases hfree

theorem freeFrom_eq_nil (h : m.firstFree start = none) : m.freeFrom start = [] := by
  rw [List.eq_nil_iff_forall_not_mem]
  intro b hb
  obtain ⟨hle, hlt, hfree⟩ := mem_freeFrom.1 hb
  rw [firstFree_eq_none h hle hlt] at hfree
  cases hfree

/-- The block that is found is the first of the free ones, and marking it leaves the others. -/
theorem freeFrom_eq_cons (hsize : m.bits.size = (m.total.toNat + 7) / 8)
    (h : m.firstFree start = some block) :
    m.freeFrom start = block.toNat :: (m.setUsed block).2.freeFrom start := by
  obtain ⟨hle, hlt, hfree, hused⟩ := firstFree_eq_some h
  have hbits := bit_setUsed hlt (show m.total.toNat ≤ m.bits.size * 8 by omega)
  have hmem : ∀ b, b ∈ (m.setUsed block).2.freeFrom start
      ↔ b ∈ m.freeFrom start ∧ b ≠ block.toNat := by
    intro b
    rw [mem_freeFrom, mem_freeFrom, total_setUsed, hbits, Bool.or_eq_false_iff, beq_eq_false_iff_ne]
    tauto
  have hfirst : ∀ b ∈ m.freeFrom start, block.toNat ≤ b := by
    intro b hb
    obtain ⟨hstart, -, hbit⟩ := mem_freeFrom.1 hb
    by_contra hbefore
    rw [hused b hstart (by omega)] at hbit
    cases hbit
  -- both lists go up, so it is enough that they have the same blocks
  refine pairwise_freeFrom.eq_of_mem_iff (List.pairwise_cons.2 ⟨fun b hb => ?_, ?_⟩) fun b => ?_
  · obtain ⟨hb, hne⟩ := (hmem b).1 hb
    have := hfirst b hb
    omega
  · exact pairwise_freeFrom
  · rw [List.mem_cons, hmem]
    constructor
    · exact fun hb => or_iff_not_imp_left.2 fun hne => ⟨hb, hne⟩
    · rintro (rfl | ⟨hb, -⟩)
      · exact mem_freeFrom.2 ⟨hle, hlt, hfree⟩
      · exact hb

/-- **Searching and marking goes through the free blocks in order.** -/
theorem claim_eq_take (hsize : m.bits.size = (m.total.toNat + 7) / 8) (start : UInt32) (n : Nat) :
    (m.claim start n).1.map UInt32.toNat = (m.freeFrom start).take n := by
  induction n generalizing m with
  | zero => rfl
  | succ n ih =>
    unfold claim
    cases hfirst : m.firstFree start with
    | none =>
      rw [freeFrom_eq_nil hfirst]
      rfl
    | some block =>
      rw [freeFrom_eq_cons hsize hfirst, List.take_succ_cons,
        ← ih (by rw [size_bits_setUsed, total_setUsed, hsize])]
      rfl

theorem claim?_eq (h : m.Counted) (start : UInt32) (n : Nat) :
    m.claim? start n = some (m.claim start n) := by
  induction n generalizing m with
  | zero => rfl
  | succ n ih =>
    unfold claim? claim
    rw [firstFree?_eq h.size, Option.bind_eq_bind, Option.bind_some]
    cases hfirst : m.firstFree start with
    | none => rfl
    | some block =>
      obtain ⟨-, hlt, hfree, -⟩ := firstFree_eq_some hfirst
      have hmarked := (becomes_setUsed h ((isUsed_of_lt hlt).trans hfree)).2.counted
      simp only [setUsed?_eq h, ih hmarked, Option.bind_eq_bind, Option.bind_some]
      rfl

/-- What the search for a free block finds from `start` on, and what searching and marking
goes through. -/
structure FirstFit (m : BlockBitmap) (start : UInt32) : Prop where
  checked : m.firstFree? start = some (m.firstFree start)
  some_iff : ∀ block, m.firstFree start = some block
    ↔ IsLeast {b : Nat | start.toNat ≤ b ∧ b < m.total.toNat ∧ bit m.bits b = false} block.toNat
  none_iff : m.firstFree start = none
    ↔ ∀ b, start.toNat ≤ b → b < m.total.toNat → bit m.bits b = true
  mem_free : ∀ b, b ∈ m.freeFrom start
    ↔ start.toNat ≤ b ∧ b < m.total.toNat ∧ bit m.bits b = false
  ordered : (m.freeFrom start).Pairwise (· < ·)
  claims : ∀ n, (m.claim start n).1.map UInt32.toNat = (m.freeFrom start).take n
  claims_checked : m.Counted → ∀ n, m.claim? start n = some (m.claim start n)

/-- **The search is an exact first fit**, on bits that are as many as the blocks take and any
otherwise. No number leaves its range on the way, and searching and marking goes through the
free blocks in order, each once. -/
theorem firstFree_exact (hsize : m.bits.size = (m.total.toNat + 7) / 8) (start : UInt32) :
    m.FirstFit start where
  checked := firstFree?_eq hsize start
  some_iff block := by
    rw [firstFree_eq_some_iff]
    constructor
    · rintro ⟨hle, hlt, hfree, hused⟩
      refine ⟨⟨hle, hlt, hfree⟩, fun b ⟨hstart, _, hbit⟩ => ?_⟩
      by_contra hbefore
      rw [hused b hstart (by omega)] at hbit
      cases hbit
    · rintro ⟨⟨hle, hlt, hfree⟩, hleast⟩
      refine ⟨hle, hlt, hfree, fun b hstart hbefore => Bool.eq_true_of_not_eq_false fun hbit => ?_⟩
      have := hleast ⟨hstart, by omega, hbit⟩
      omega
  none_iff := firstFree_eq_none_iff
  mem_free _ := mem_freeFrom
  ordered := pairwise_freeFrom
  claims := claim_eq_take hsize start
  claims_checked h := claim?_eq h start

/-- The blocks 9 and 11 of thirteen are free. The clear bit behind the last block is none. -/
theorem firstFree_exact_tail :
    let m : BlockBitmap :=
      { bits := #[0xFF, 0xB5], total := 13, freeCount := 2, usedCount := 11 }
    m.bits.size = (m.total.toNat + 7) / 8 ∧ m.FirstFit 0 ∧ m.firstFree 12 = none
      ∧ (m.claim 0 3).1 = [9, 11] := by
  intro m
  have hsize : m.bits.size = (m.total.toNat + 7) / 8 := by decide
  have hfirst : m.FirstFit 0 := firstFree_exact hsize 0
  have hlast : m.FirstFit 12 := firstFree_exact hsize 12
  refine ⟨hsize, hfirst, hlast.none_iff.2 fun b hstart hend => ?_, ?_⟩
  · obtain rfl : b = 12 := Nat.le_antisymm (Nat.le_of_lt_succ hend) hstart
    decide
  · have htaken : (m.claim 0 3).1.map UInt32.toNat = [9, 11] :=
      (hfirst.claims 3).trans (by decide)
    exact List.map_injective_iff.2 (fun _ _ => UInt32.toNat_inj.1) htaken

end BlockBitmap

end AtaVolume
