/-
AtaVolume.Proofs.Exact.Bitmap — the bitmap, worked out step by step.

Counting, marking and searching look bytes up and add numbers. With every step
checked they have a value on each bitmap whose numbers are those of its bits
(`Counted`), and bitmaps that were read are of this kind, whatever their bytes.
The search is written as two loops, over the bytes and over the bits of a byte;
`firstFree?_eq` says that they find what the search over blocks finds.
-/
import AtaVolume.Proofs.Volume.Bitmap
import AtaVolume.Proofs.Exact.Layout

namespace AtaVolume

namespace BlockBitmap

/-! ## §1 Counting -/

/-- How many of the first `total` bits are set. -/
def countUsed? (bits : Bytes) (total : UInt32) : Option UInt32 := do
  let full := total.toNat / 8
  let front ← Exact.slice bits 0 full
  let used ← front.toList.foldlM (fun n b => Exact.add n (UInt32.ofNat (popCount b))) 0
  if total.toNat % 8 = 0 then return used
  else
    let last ← bits[full]?
    Exact.add used (UInt32.ofNat (popCount (lowBits (total.toNat % 8) last)))

/-- The bitmap with its numbers counted anew. -/
def recount? (m : BlockBitmap) : Option BlockBitmap := do
  let used ← countUsed? m.bits m.total
  let free ← Exact.sub m.total used
  return { m with usedCount := used, freeCount := free }

/-- The bitmap with these bits; missing bytes are zero. -/
def ofBytes? (bytes : Bytes) (total : UInt32) : Option BlockBitmap :=
  recount? { bits := fitTo (byteLength total) bytes, total, freeCount := 0, usedCount := 0 }

theorem toNat_popCount (b : UInt8) : (UInt32.ofNat (popCount b)).toNat = popCount b :=
  UInt32.toNat_ofNat_of_lt' (Nat.lt_trans (UInt8.toNat_lt _) (by decide))

/-- A sum whose end fits has no step that does not. -/
theorem foldlM_add (bytes : List UInt8)
    (h : bytes.foldl (fun n b => n + popCount b) 0 < 2 ^ 32) :
    bytes.foldlM (fun n b => Exact.add n (UInt32.ofNat (popCount b))) 0
      = some (UInt32.ofNat (bytes.foldl (fun n b => n + popCount b) 0)) := by
  induction bytes using List.reverseRecOn with
  | nil => rfl
  | append_singleton bytes b ih =>
    simp only [List.foldl_append, List.foldl_cons, List.foldl_nil] at h ⊢
    have hfront : bytes.foldl (fun n b => n + popCount b) 0 < 2 ^ 32 := by omega
    have hadd : (UInt32.ofNat (bytes.foldl (fun n b => n + popCount b) 0)).toNat
        + (UInt32.ofNat (popCount b)).toNat < 2 ^ 32 := by
      rw [UInt32.toNat_ofNat_of_lt' hfront, toNat_popCount]
      exact h
    rw [List.foldlM_append, ih hfront]
    simp only [Option.bind_eq_bind, Option.bind_some, List.foldlM_cons, List.foldlM_nil,
      Exact.add_eq hadd, UInt32.ofNat_add]
    rfl

theorem countUsed_le {bits : Bytes} {total : UInt32} (hsize : bits.size = (total.toNat + 7) / 8) :
    countUsed bits total ≤ total.toNat := by
  rw [countUsed_eq_countP (by omega)]
  exact Nat.le_trans List.countP_le_length (Nat.le_of_eq List.length_range)

theorem getElem?_of_lt {bits : Bytes} {i : Nat} (h : i < bits.size) :
    bits[i]? = some (bits.getD i 0) := by
  simp [Array.getD, h]

theorem countUsed?_eq {bits : Bytes} {total : UInt32}
    (hsize : bits.size = (total.toNat + 7) / 8) :
    countUsed? bits total = some (UInt32.ofNat (countUsed bits total)) := by
  have htotal := total.toNat_lt
  have hle : bits.foldl (fun n b => n + popCount b) 0 0 (total.toNat / 8)
      + popCount (lowBits (total.toNat % 8) (bits.getD (total.toNat / 8) 0)) ≤ total.toNat :=
    countUsed_le hsize
  have hfold : (bits.extract 0 (total.toNat / 8)).toList.foldl (fun n b => n + popCount b) 0
      = bits.foldl (fun n b => n + popCount b) 0 0 (total.toNat / 8) := by
    rw [Array.foldl_toList]
    exact Array.foldl_eq_foldl_extract.symm
  have hfront : Exact.slice bits 0 (total.toNat / 8) = some (bits.extract 0 (total.toNat / 8)) :=
    if_pos ⟨Nat.zero_le _, by omega⟩
  unfold countUsed? countUsed
  simp only [hfront, Option.bind_eq_bind, Option.bind_some]
  rw [foldlM_add _ (by rw [hfold]; omega), hfold, Option.bind_some]
  by_cases hrest : total.toNat % 8 = 0
  · rw [if_pos hrest, hrest, popCount_lowBits (by decide)]
    rfl
  · rw [if_neg hrest, getElem?_of_lt (by omega), Option.bind_some, Exact.add_eq, ← UInt32.ofNat_add]
    rw [toNat_popCount, UInt32.toNat_ofNat_of_lt' (by show _ < 2 ^ 32; omega)]
    omega

/-- The numbers beside the bits are those of the bits. -/
structure Counted (m : BlockBitmap) : Prop where
  size : m.bits.size = (m.total.toNat + 7) / 8
  used : m.usedCount.toNat = (List.range m.total.toNat).countP fun k => bit m.bits k
  sum : m.freeCount.toNat + m.usedCount.toNat = m.total.toNat

variable {m : BlockBitmap}

theorem counted_recount (hsize : m.bits.size = (m.total.toNat + 7) / 8) : m.recount.Counted := by
  have hle := countUsed_le hsize
  have htotal := m.total.toNat_lt
  have hused : m.recount.usedCount.toNat = countUsed m.bits m.total :=
    UInt32.toNat_ofNat_of_lt' (Nat.lt_of_le_of_lt hle htotal)
  have hfree : m.recount.freeCount.toNat = m.total.toNat - m.recount.usedCount.toNat :=
    UInt32.toNat_sub_of_le _ _ (UInt32.le_iff_toNat_le.2 (hused.trans_le hle))
  refine ⟨hsize, hused.trans (countUsed_eq_countP (by omega)), ?_⟩
  show m.recount.freeCount.toNat + m.recount.usedCount.toNat = m.total.toNat
  omega

theorem recount?_eq (hsize : m.bits.size = (m.total.toNat + 7) / 8) :
    m.recount? = some m.recount := by
  have hsum := (counted_recount hsize).sum
  have hle : m.recount.usedCount.toNat ≤ m.recount.total.toNat := by omega
  have hfree : Exact.sub m.total (UInt32.ofNat (countUsed m.bits m.total))
      = some m.recount.freeCount := Exact.sub_eq hle
  unfold recount?
  rw [countUsed?_eq hsize]
  simp only [hfree, Option.bind_eq_bind, Option.bind_some]
  rfl

/-- **The numbers of a bitmap that was read are those of its bits.** -/
theorem counted_ofBytes (bytes : Bytes) (total : UInt32) : (ofBytes bytes total).Counted :=
  counted_recount (size_fitTo _ _)

theorem ofBytes?_eq (bytes : Bytes) (total : UInt32) :
    ofBytes? bytes total = some (ofBytes bytes total) :=
  recount?_eq (size_fitTo _ _)

/-! ## §2 Marking -/

/-- The block is used, or does not exist. -/
def isUsed? (m : BlockBitmap) (block : UInt32) : Option Bool :=
  if m.total ≤ block then return true
  else do
    let byte ← m.bits[block.toNat / 8]?
    return byte &&& mask block.toNat != 0

/-- Marks a block as used; tells whether that is a change. -/
def setUsed? (m : BlockBitmap) (block : UInt32) : Option (Bool × BlockBitmap) := do
  if ← m.isUsed? block then return (false, m)
  else
    let bits ← Exact.modify m.bits (block.toNat / 8) (· ||| mask block.toNat)
    let free ← Exact.sub m.freeCount 1
    let used ← Exact.add m.usedCount 1
    return (true, { m with bits, freeCount := free, usedCount := used })

/-- Marks a block as free; tells whether that is a change. -/
def setFree? (m : BlockBitmap) (block : UInt32) : Option (Bool × BlockBitmap) :=
  if m.total ≤ block then return (false, m)
  else do
    if ← m.isUsed? block then
      let bits ← Exact.modify m.bits (block.toNat / 8) (· &&& ~~~ mask block.toNat)
      let free ← Exact.add m.freeCount 1
      let used ← Exact.sub m.usedCount 1
      return (true, { m with bits, freeCount := free, usedCount := used })
    else return (false, m)

theorem Counted.byte (h : m.Counted) {block : UInt32} (hblock : ¬ m.total ≤ block) :
    block.toNat / 8 < m.bits.size := by
  have hsize := h.size
  rw [UInt32.le_iff_toNat_le] at hblock
  omega

theorem isUsed?_eq (h : m.Counted) (block : UInt32) : m.isUsed? block = some (m.isUsed block) := by
  unfold isUsed? isUsed
  by_cases htotal : m.total ≤ block
  · rw [if_pos htotal, if_pos htotal]
    rfl
  · rw [if_neg htotal, if_neg htotal, getElem?_of_lt (h.byte htotal)]
    rfl

/-- A block that is free is one of the free blocks that were counted. -/
theorem Counted.one_le_free (h : m.Counted) {block : UInt32} (hblock : ¬ m.total ≤ block)
    (hfree : m.isUsed block = false) : 1 ≤ m.freeCount.toNat := by
  have hsum := h.sum
  rw [UInt32.le_iff_toNat_le] at hblock
  rw [isUsed_of_lt (by omega)] at hfree
  have hlt : ((List.range m.total.toNat).countP fun k => bit m.bits k)
      < (List.range m.total.toNat).length := by
    apply Nat.lt_of_le_of_ne List.countP_le_length
    intro hall
    rw [List.countP_eq_length] at hall
    have := hall block.toNat (List.mem_range.2 (by omega))
    rw [hfree] at this
    cases this
  rw [← h.used, List.length_range] at hlt
  omega

/-- A block that is used is one of the used blocks that were counted. -/
theorem Counted.one_le_used (h : m.Counted) {block : UInt32} (hblock : ¬ m.total ≤ block)
    (hused : m.isUsed block = true) : 1 ≤ m.usedCount.toNat := by
  rw [UInt32.le_iff_toNat_le] at hblock
  rw [isUsed_of_lt (by omega)] at hused
  rw [h.used]
  exact List.countP_pos_iff.2 ⟨block.toNat, List.mem_range.2 (by omega), hused⟩

theorem setUsed?_eq (h : m.Counted) (block : UInt32) :
    m.setUsed? block = some (m.setUsed block) := by
  unfold setUsed? setUsed
  rw [isUsed?_eq h]
  simp only [Option.bind_eq_bind, Option.bind_some]
  by_cases hused : m.isUsed block = true
  · rw [if_pos hused, if_pos hused]
    rfl
  · have hblock : ¬ m.total ≤ block := fun hle =>
      hused (isUsed_of_le (UInt32.le_iff_toNat_le.1 hle))
    have hfree := h.one_le_free hblock (Bool.eq_false_iff.2 hused)
    have hsum := h.sum
    have htotal := m.total.toNat_lt
    rw [if_neg hused, if_neg hused, Exact.modify, if_pos (h.byte hblock),
      Exact.sub_eq (by rwa [UInt32.toNat_one]), Exact.add_eq (by rw [UInt32.toNat_one]; omega)]
    rfl

theorem setFree?_eq (h : m.Counted) (block : UInt32) :
    m.setFree? block = some (m.setFree block) := by
  unfold setFree? setFree
  by_cases hblock : m.total ≤ block
  · rw [if_pos hblock, if_pos hblock]
    rfl
  · rw [if_neg hblock, if_neg hblock, isUsed?_eq h]
    simp only [Option.bind_eq_bind, Option.bind_some]
    by_cases hused : m.isUsed block = true
    · have hone := h.one_le_used hblock hused
      have hsum := h.sum
      have htotal := m.total.toNat_lt
      rw [if_pos hused, if_pos hused, Exact.modify, if_pos (h.byte hblock),
        Exact.sub_eq (by rwa [UInt32.toNat_one]), Exact.add_eq (by rw [UInt32.toNat_one]; omega)]
      rfl
    · rw [if_neg hused, if_neg hused]
      rfl

/-! ## §3 First fit -/

/-- What the bits of one byte tell a search. -/
inductive Glance
  /-- A block is free. -/
  | free (block : UInt32)
  /-- The volume ends within the byte. -/
  | ended
  /-- All blocks that count are used. -/
  | passed

/-- Looks at the last `n` bits of a byte whose first bit tells about block `base`. -/
def glance? (total start base : UInt32) (byte : UInt8) : (n : Nat) → Option Glance
  | 0 => return .passed
  | n + 1 => do
    let block ← Exact.add base (UInt32.ofNat (7 - n))
    if total ≤ block then return .ended
    else if start ≤ block ∧ byte &&& mask (7 - n) = 0 then return .free block
    else glance? total start base byte n

/-- Looks at bytes, the first of which is byte `i`. -/
def searchBytes? (total start : UInt32) : (bytes : List UInt8) → (i : Nat) → Option (Option UInt32)
  | [], _ => return none
  | byte :: bytes, i =>
    if byte = 0xFF then searchBytes? total start bytes (i + 1)
    else do
      match ← glance? total start (UInt32.ofNat (i * 8)) byte 8 with
      | .free block => return some block
      | .ended => return none
      | .passed => searchBytes? total start bytes (i + 1)

/-- The first free block from `start` on. -/
def firstFree? (m : BlockBitmap) (start : UInt32) : Option (Option UInt32) :=
  if m.total ≤ start then return none
  else do
    let bytes ← Exact.slice m.bits (start.toNat / 8) m.bits.size
    searchBytes? m.total start bytes.toList (start.toNat / 8)

/-! What a search finds is the first free block, so it does not matter how the search
gets there. -/

theorem searchFree_eq_some_iff {bits : Bytes} {total start block : Nat} :
    searchFree bits total start = some block ↔ start ≤ block ∧ block < total
      ∧ bit bits block = false ∧ ∀ k, start ≤ k → k < block → bit bits k = true := by
  constructor
  · exact searchFree_eq_some
  · rintro ⟨hstart, hblock, hfree, hused⟩
    cases hsearch : searchFree bits total start with
    | none =>
      have hbit := searchFree_eq_none hsearch hstart hblock
      rw [hfree] at hbit
      cases hbit
    | some other =>
      obtain ⟨hstart', -, hfree', hused'⟩ := searchFree_eq_some hsearch
      rcases Nat.lt_trichotomy block other with hlt | heq | hgt
      · have hbit := hused' block hstart hlt
        rw [hfree] at hbit
        cases hbit
      · rw [heq]
      · have hbit := hused other hstart' hgt
        rw [hfree'] at hbit
        cases hbit

/-- Blocks that are used make no difference to a search. -/
theorem searchFree_of_used {bits : Bytes} {total i j : Nat} (hij : i ≤ j)
    (hused : ∀ k, i ≤ k → k < j → bit bits k = true) :
    searchFree bits total i = searchFree bits total j := by
  apply Option.ext
  intro block
  rw [searchFree_eq_some_iff, searchFree_eq_some_iff]
  constructor
  · rintro ⟨hi, hblock, hfree, hbefore⟩
    have hj : j ≤ block := by
      apply Nat.le_of_not_lt
      intro hlt
      have hbit := hused block hi hlt
      rw [hfree] at hbit
      cases hbit
    exact ⟨hj, hblock, hfree, fun k hk => hbefore k (Nat.le_trans hij hk)⟩
  · rintro ⟨hj, hblock, hfree, hbefore⟩
    refine ⟨Nat.le_trans hij hj, hblock, hfree, fun k hk hlt => ?_⟩
    by_cases hkj : k < j
    · exact hused k hk hkj
    · exact hbefore k (by omega) hlt

theorem searchFree_of_le {bits : Bytes} {total i : Nat} (h : total ≤ i) :
    searchFree bits total i = none := by
  rw [searchFree, if_neg (by omega)]

/-- The bits of one byte. -/
theorem bit_byte (bits : Bytes) (i : Nat) {k : Nat} (h : k < 8) :
    bit bits (i * 8 + k) = (bits.getD i 0 &&& mask k != 0) := by
  rw [bit_eq_getLsbD, and_mask_ne_zero, show (i * 8 + k) / 8 = i by omega,
    show (i * 8 + k) % 8 = k % 8 by omega]

/-- What a glance says about a search from block `i` on: its end, or that it goes on at
block `j`. -/
def Glance.Tells (bits : Bytes) (total i j : Nat) : Glance → Prop
  | .free block => searchFree bits total i = some block.toNat
  | .ended => searchFree bits total i = none
  | .passed => searchFree bits total i = searchFree bits total j

theorem glance?_tells {bits : Bytes} {total : UInt32} (start : UInt32) {i n : Nat} (hn : n ≤ 8)
    (hi : i * 8 + (8 - n) ≤ total.toNat) :
    ∃ g, glance? total start (UInt32.ofNat (i * 8)) (bits.getD i 0) n = some g
      ∧ g.Tells bits total.toNat (max start.toNat (i * 8 + (8 - n)))
          (max start.toNat (i * 8 + 8)) := by
  induction n with
  | zero => exact ⟨.passed, rfl, rfl⟩
  | succ n ih =>
    have htotal := total.toNat_lt
    have hbase : (UInt32.ofNat (i * 8)).toNat = i * 8 :=
      UInt32.toNat_ofNat_of_lt' (by show _ < 2 ^ 32; omega)
    have hbit : (UInt32.ofNat (7 - n)).toNat = 7 - n :=
      UInt32.toNat_ofNat_of_lt' (by show _ < 2 ^ 32; omega)
    have hfits : (UInt32.ofNat (i * 8)).toNat + (UInt32.ofNat (7 - n)).toNat < 2 ^ 32 := by omega
    have hblock : (UInt32.ofNat (i * 8) + UInt32.ofNat (7 - n)).toNat = i * 8 + (7 - n) := by
      rw [UInt32.toNat_add, Nat.mod_eq_of_lt hfits, hbase, hbit]
    rw [show 8 - (n + 1) = 7 - n by omega]
    simp only [glance?, Exact.add_eq hfits, Option.bind_eq_bind, Option.bind_some,
      UInt32.le_iff_toNat_le, hblock]
    by_cases hend : total.toNat ≤ i * 8 + (7 - n)
    · rw [if_pos hend]
      exact ⟨.ended, rfl, searchFree_of_le (by omega)⟩
    · rw [if_neg hend]
      by_cases hfree : start.toNat ≤ i * 8 + (7 - n) ∧ bits.getD i 0 &&& mask (7 - n) = 0
      · rw [if_pos hfree]
        refine ⟨.free _, rfl, ?_⟩
        show searchFree _ _ _ = some _
        rw [hblock, Nat.max_eq_right hfree.1, searchFree_eq_some_iff, bit_byte bits i (by omega),
          hfree.2]
        exact ⟨Nat.le_refl _, by omega, rfl, fun k hk hk' => absurd hk' (by omega)⟩
      · rw [if_neg hfree]
        obtain ⟨g, hg, htells⟩ := ih (by omega) (by omega)
        refine ⟨g, hg, ?_⟩
        -- the block that was looked at is used, or lies before the start of the search
        have hstep : searchFree bits total.toNat (max start.toNat (i * 8 + (7 - n)))
            = searchFree bits total.toNat (max start.toNat (i * 8 + (8 - n))) := by
          apply searchFree_of_used (by omega)
          intro k hk hk'
          rw [show k = i * 8 + (7 - n) by omega, bit_byte bits i (by omega), bne_iff_ne]
          exact fun hzero => hfree ⟨by omega, hzero⟩
        cases g with
        | free block => exact hstep.trans htells
        | ended => exact hstep.trans htells
        | passed => exact hstep.trans htells

theorem searchBytes?_eq {bits : Bytes} {total : UInt32} (start : UInt32)
    (hsize : bits.size = (total.toNat + 7) / 8) (bytes : List UInt8) {i : Nat}
    (hbytes : bytes = bits.toList.drop i) :
    searchBytes? total start bytes i
      = some ((searchFree bits total.toNat (max start.toNat (i * 8))).map UInt32.ofNat) := by
  induction bytes generalizing i with
  | nil =>
    have hle : bits.size ≤ i := by
      rw [← Array.length_toList]
      exact List.drop_eq_nil_iff.1 hbytes.symm
    rw [searchFree_of_le (by omega)]
    rfl
  | cons byte bytes ih =>
    have hlt : i < bits.size := by
      rw [← Array.length_toList]
      apply Nat.lt_of_not_le
      intro hle
      rw [List.drop_eq_nil_of_le hle] at hbytes
      cases hbytes
    rw [List.drop_eq_getElem_cons (by rwa [Array.length_toList])] at hbytes
    obtain ⟨hbyte, hrest⟩ := List.cons.inj hbytes
    replace hbyte : byte = bits.getD i 0 := by
      rw [hbyte]
      simp [Array.getD, hlt]
    have ih := ih hrest
    rw [show (i + 1) * 8 = i * 8 + 8 by omega] at ih
    unfold searchBytes?
    by_cases hfull : byte = 0xFF
    · rw [if_pos hfull, ih]
      rw [searchFree_of_used (show max start.toNat (i * 8) ≤ max start.toNat (i * 8 + 8) by omega)]
      intro k hk hk'
      apply bit_of_full
      rw [show k / 8 = i by omega, ← hbyte]
      exact hfull
    · rw [if_neg hfull, hbyte]
      obtain ⟨g, hg, htells⟩ : ∃ g, glance? total start (UInt32.ofNat (i * 8)) (bits.getD i 0) 8
          = some g ∧ g.Tells bits total.toNat (max start.toNat (i * 8 + (8 - 8)))
            (max start.toNat (i * 8 + 8)) := glance?_tells start (Nat.le_refl 8) (by omega)
      simp only [hg, Option.bind_eq_bind, Option.bind_some]
      rw [Nat.sub_self, Nat.add_zero] at htells
      cases g with
      | free block =>
        rw [show searchFree _ _ _ = _ from htells, Option.map_some, UInt32.ofNat_toNat]
        rfl
      | ended =>
        rw [show searchFree _ _ _ = _ from htells]
        rfl
      | passed =>
        rw [show searchFree _ _ _ = _ from htells]
        exact ih

/-- **The two loops find what the search over blocks finds.** -/
theorem firstFree?_eq (hsize : m.bits.size = (m.total.toNat + 7) / 8) (start : UInt32) :
    m.firstFree? start = some (m.firstFree start) := by
  unfold firstFree? firstFree
  by_cases hstart : m.total ≤ start
  · rw [if_pos hstart, searchFree_of_le (UInt32.le_iff_toNat_le.1 hstart)]
    rfl
  · rw [if_neg hstart]
    rw [UInt32.le_iff_toNat_le] at hstart
    have hslice : Exact.slice m.bits (start.toNat / 8) m.bits.size
        = some (m.bits.extract (start.toNat / 8) m.bits.size) :=
      if_pos ⟨by omega, Nat.le_refl _⟩
    have hlist : (m.bits.extract (start.toNat / 8) m.bits.size).toList
        = m.bits.toList.drop (start.toNat / 8) := by
      simp
    simp only [hslice, Option.bind_eq_bind, Option.bind_some]
    rw [searchBytes?_eq start hsize _ hlist, Nat.max_eq_left (by omega)]

end BlockBitmap

end AtaVolume
