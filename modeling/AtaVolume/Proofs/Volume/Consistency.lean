/-
AtaVolume.Proofs.Volume.Consistency — what a check without problems is worth.

A check finds nothing exactly if the counters are right and each file lies in a marked
block of the data area (`problems_eq_nil_iff`). Where each file has a block to itself, that
and the rest is kept by allocations and releases (`Consistent.allocated`,
`Consistent.released`). But a check does not look for two files in one block, and if there
are two, the release of the one frees the block of the other (`not_consistent_released`).
-/
import AtaVolume.Proofs.Volume.Images

namespace AtaVolume

open Superblock

namespace Volume

/-! ## §1 Counting after a change -/

/-- One more has the property. -/
theorem countP_update_true {α : Type} [DecidableEq α] {l : List α} (hl : l.Nodup) {a : α}
    (ha : a ∈ l) {p : α → Bool} (hp : p a = false) :
    l.countP (Function.update p a true) = l.countP p + 1 := by
  induction l with
  | nil => cases ha
  | cons x l ih =>
    obtain ⟨hx, hl⟩ := List.nodup_cons.1 hl
    by_cases hxa : x = a
    · have hrest : l.countP (Function.update p a true) = l.countP p := by
        refine List.countP_congr fun y hy => ?_
        rw [Function.update_of_ne]
        rintro rfl
        exact hx (hxa ▸ hy)
      rw [hxa, List.countP_cons_of_pos (by rw [Function.update_self]),
        List.countP_cons_of_neg (by rw [hp]; exact Bool.false_ne_true), hrest]
    · have hmem : a ∈ l := (List.mem_cons.1 ha).resolve_left (Ne.symm hxa)
      rw [List.countP_cons, List.countP_cons, ih hl hmem, Function.update_of_ne hxa]
      omega

/-- One less has it. -/
theorem countP_update_false {α : Type} [DecidableEq α] {l : List α} (hl : l.Nodup) {a : α}
    (ha : a ∈ l) {p : α → Bool} (hp : p a = true) :
    l.countP (Function.update p a false) + 1 = l.countP p := by
  have hback : Function.update (Function.update p a false) a true = p := by
    rw [Function.update_idem, ← hp, Function.update_eq_self]
  rw [← countP_update_true hl ha (p := Function.update p a false) (by rw [Function.update_self]),
    hback]

/-! ## §2 What a check looks at -/

/-- The file lies in a marked block of the data area. -/
structure InOrder (sb : Superblock) (κ : Contents) (r : Index) : Prop where
  kind : r.kind = IndexKind.regular.tag
  data : sb.dataStartBlock ≤ sb.lbaBlock r.firstBlock
  lt : sb.lbaBlock r.firstBlock < sb.totalBlocks
  marked : κ.used (sb.lbaBlock r.firstBlock).toNat = true

/-- No change is under way, the counters are right, and all files are in order. -/
structure Consistent (sb : Superblock) (κ : Contents) : Prop where
  state : sb.state = stateClean
  blocks : sb.freeBlocks.toNat + (List.range sb.totalBlocks.toNat).countP κ.used
    = sb.totalBlocks.toNat
  inodes : sb.freeInodes.toNat = (List.finRange 128).countP fun i => (κ.slot i).isFree
  files : ∀ i, (κ.slot i).isFree = false → InOrder sb κ (κ.slot i)

variable {sb : Superblock} {m : Sectors}

theorem fileProblem_eq_none_iff {r : Index} (hr : r.isFree = false) (inode : UInt32) :
    fileProblem sb (bitmapOf sb m) inode r = none ↔ InOrder sb (Contents.under sb m) r := by
  have hfree : r.kind ≠ 0 := by
    intro h
    rw [Index.isFree, h] at hr
    exact absurd hr (by decide)
  unfold fileProblem IndexKind.ofTag?
  rw [if_neg hfree]
  by_cases hkind : r.kind = 1
  · simp only [if_pos hkind]
    by_cases hinside : sb.lbaBlock r.firstBlock < sb.dataStartBlock
        ∨ sb.totalBlocks ≤ sb.lbaBlock r.firstBlock
    · rw [if_pos hinside]
      refine ⟨fun h => (nomatch h), fun h => ?_⟩
      rcases hinside with hlow | hhigh
      · exact absurd hlow (UInt32.not_lt.2 h.data)
      · exact absurd h.lt (UInt32.not_lt.2 hhigh)
    · rw [not_or, UInt32.not_lt, UInt32.not_le] at hinside
      rw [if_neg (by rw [not_or, UInt32.not_lt, UInt32.not_le]; exact hinside),
        isUsed_bitmapOf (UInt32.lt_iff_toNat_lt.1 hinside.2)]
      constructor
      · intro h
        refine ⟨hkind, hinside.1, hinside.2, ?_⟩
        cases hused : (Contents.under sb m).used (sb.lbaBlock r.firstBlock).toNat with
        | true => rfl
        | false =>
          rw [hused] at h
          cases h
      · intro h
        rw [h.marked, if_pos rfl]
  · simp only [if_neg hkind]
    exact ⟨fun h => (nomatch h), fun h => absurd h.kind hkind⟩

theorem problemIf_eq_nil {p : Bool} {problem : Problem} : problemIf p problem = [] ↔ p = false := by
  cases p <;> simp [problemIf]

/-- The free blocks are counted right. -/
theorem freeBlocks_counted_iff (sb : Superblock) (m : Sectors) :
    sb.freeBlocks = (bitmapOf sb m).freeCount
      ↔ sb.freeBlocks.toNat
          + (List.range sb.totalBlocks.toNat).countP (Contents.under sb m).used
        = sb.totalBlocks.toNat := by
  have hcount := freeCount_bitmapOf sb m
  rw [← UInt32.toNat_inj]
  omega

/-- So are the free slots. -/
theorem freeInodes_counted_iff (n : UInt32) (slot : Fin 128 → Index) :
    n = (IndexTable.ofSlots slot).freeCount
      ↔ n.toNat = (List.finRange 128).countP fun i => (slot i).isFree := by
  have hle : ((List.finRange 128).countP fun i => (slot i).isFree) ≤ 128 :=
    List.countP_le_length.trans (by rw [List.length_finRange])
  rw [IndexTable.freeCount_ofSlots, ← UInt32.toNat_inj,
    UInt32.toNat_ofNat_of_lt' (show _ < 2 ^ 32 by omega)]

/-- The files are those in the used slots. -/
theorem forall_mem_used_ofSlots {slot : Fin 128 → Index} {P : UInt32 × Index → Prop} :
    (∀ f ∈ (IndexTable.ofSlots slot).used, P f)
      ↔ ∀ i, (slot i).isFree = false → P (UInt32.ofNat i.val, slot i) := by
  constructor
  · intro h i hi
    exact h _ (IndexTable.mem_used_ofSlots.2 ⟨i, hi, rfl⟩)
  · intro h f hf
    obtain ⟨i, hi, rfl⟩ := IndexTable.mem_used_ofSlots.1 hf
    exact h i hi

/-- A check has nothing to say if state, counters and files give it no cause. -/
theorem problems_nil_iff {bitmap : BlockBitmap} {table : IndexTable} :
    problems sb bitmap table = []
      ↔ ((sb.state = stateClean ∧ sb.freeBlocks = bitmap.freeCount)
          ∧ sb.freeInodes = table.freeCount)
        ∧ ∀ f ∈ table.used, fileProblem sb bitmap f.1 f.2 = none := by
  simp only [problems, List.append_eq_nil_iff, problemIf_eq_nil, bne_eq_false_iff_eq,
    List.filterMap_eq_nil_iff]

/-- **A check finds nothing exactly if the volume is consistent.** -/
theorem problems_eq_nil_iff (sb : Superblock) (m : Sectors) :
    (reportOf sb m).problems = [] ↔ Consistent sb (Contents.under sb m) := by
  have hfiles : (∀ f ∈ (IndexTable.ofSlots (Contents.under sb m).slot).used,
        fileProblem sb (bitmapOf sb m) f.1 f.2 = none)
      ↔ ∀ i, ((Contents.under sb m).slot i).isFree = false →
        InOrder sb (Contents.under sb m) ((Contents.under sb m).slot i) := by
    rw [forall_mem_used_ofSlots]
    exact forall₂_congr fun i hi => fileProblem_eq_none_iff hi _
  rw [reportOf, problems_nil_iff, freeBlocks_counted_iff, freeInodes_counted_iff, hfiles]
  constructor
  · rintro ⟨⟨⟨hstate, hblocks⟩, hinodes⟩, hfiles⟩
    exact ⟨hstate, hblocks, hinodes, hfiles⟩
  · rintro ⟨hstate, hblocks, hinodes, hfiles⟩
    exact ⟨⟨⟨hstate, hblocks⟩, hinodes⟩, hfiles⟩

/-! ## §3 What the changes keep -/

/-- Each file has a block to itself. -/
def Separate (sb : Superblock) (κ : Contents) : Prop :=
  ∀ i j, (κ.slot i).isFree = false → (κ.slot j).isFree = false →
    sb.lbaBlock (κ.slot i).firstBlock = sb.lbaBlock (κ.slot j).firstBlock → i = j

/-- The free slots after one was written. -/
theorem isFree_update (slot : Fin 128 → Index) (i : Fin 128) (r : Index) :
    (fun j => (Function.update slot i r j).isFree)
      = Function.update (fun j => (slot j).isFree) i r.isFree := by
  funext j
  by_cases hj : j = i
  · rw [hj, Function.update_self, Function.update_self]
  · rw [Function.update_of_ne hj, Function.update_of_ne hj]

/-- A free block is not the block of a file that is in order. -/
theorem FirstFree.ne_block {κ : Contents} {block : UInt32} (h : FirstFree sb κ block) {r : Index}
    (hr : InOrder sb κ r) : sb.lbaBlock r.firstBlock ≠ block := by
  intro heq
  have hmarked := hr.marked
  rw [heq, h.free] at hmarked
  cases hmarked

section Allocated

variable {κ : Contents} {i : Fin 128} {block : UInt32}

/-- What a volume tells after an allocation. -/
def afterAllocation (sb : Superblock) (κ : Contents) (i : Fin 128) (block : UInt32) : Contents where
  super := charged sb
  used := Function.update κ.used block.toNat true
  slot := Function.update κ.slot i (newRecord sb block)

variable (hsb : sb.LaidOut) (hblock : FirstFree sb κ block)

include hsb hblock

/-- The new file lies in its block. -/
theorem lbaBlock_newRecord : sb.lbaBlock (newRecord sb block).firstBlock = block :=
  (hsb.blocks block hblock.data hblock.lt).back

omit hsb in
/-- A file that is in order stays so. -/
theorem InOrder.allocated {r : Index} (h : InOrder sb κ r) :
    InOrder (charged sb) (afterAllocation sb κ i block) r := by
  refine ⟨h.kind, h.data, h.lt, ?_⟩
  have hne : (sb.lbaBlock r.firstBlock).toNat ≠ block.toNat :=
    fun heq => hblock.ne_block h (UInt32.toNat_inj.1 heq)
  exact (Function.update_of_ne hne _ _).trans h.marked

/-- The new file is in order. -/
theorem inOrder_newRecord :
    InOrder (charged sb) (afterAllocation sb κ i block) (newRecord sb block) := by
  have hplace : (charged sb).lbaBlock (newRecord sb block).firstBlock = block :=
    show sb.lbaBlock (newRecord sb block).firstBlock = block from lbaBlock_newRecord hsb hblock
  refine ⟨rfl, ?_, ?_, ?_⟩
  · rw [hplace]
    exact hblock.data
  · rw [hplace]
    exact hblock.lt
  · rw [hplace]
    exact Function.update_self ..

omit hsb in
/-- The marks are counted as before, with one more. -/
theorem countP_charged (h : sb.freeBlocks.toNat
      + (List.range sb.totalBlocks.toNat).countP κ.used = sb.totalBlocks.toNat) :
    (charged sb).freeBlocks.toNat + (List.range sb.totalBlocks.toNat).countP
      (Function.update κ.used block.toNat true) = sb.totalBlocks.toNat := by
  have hcount := countP_update_true List.nodup_range (List.mem_range.2 hblock.lt_total) hblock.free
  have hle : (List.range sb.totalBlocks.toNat).countP (Function.update κ.used block.toNat true)
      ≤ sb.totalBlocks.toNat :=
    List.countP_le_length.trans (by rw [List.length_range])
  rw [charged, toNat_decrease]
  omega

/-- **An allocation keeps a volume consistent.** -/
theorem Consistent.allocated (h : Consistent sb κ) (hi : (κ.slot i).isFree = true) :
    Consistent (charged sb) (afterAllocation sb κ i block) where
  state := rfl
  blocks := countP_charged hblock h.blocks
  inodes := by
    have hcount := countP_update_false (List.nodup_finRange 128) (List.mem_finRange i)
      (p := fun j => (κ.slot j).isFree) hi
    have hinodes := h.inodes
    show (decrease sb.freeInodes).toNat = (List.finRange 128).countP
      fun j => (Function.update κ.slot i (newRecord sb block) j).isFree
    rw [toNat_decrease, isFree_update, show (newRecord sb block).isFree = false from rfl]
    omega
  files := by
    intro j hj
    simp only [afterAllocation] at hj ⊢
    by_cases hji : j = i
    · rw [hji, Function.update_self]
      exact inOrder_newRecord hsb hblock
    · rw [Function.update_of_ne hji] at hj ⊢
      exact (h.files j hj).allocated hblock

/-- An allocation gives its file a block to itself. -/
theorem Separate.allocated (h : Separate sb κ) (hfiles : ∀ j, (κ.slot j).isFree = false →
    InOrder sb κ (κ.slot j)) : Separate (charged sb) (afterAllocation sb κ i block) := by
  intro j k hj hk heq
  have hplace := lbaBlock_newRecord hsb hblock
  have hnew : ∀ l, (κ.slot l).isFree = false →
      sb.lbaBlock (κ.slot l).firstBlock ≠ sb.lbaBlock (newRecord sb block).firstBlock := by
    intro l hl
    rw [hplace]
    exact hblock.ne_block (hfiles l hl)
  simp only [afterAllocation] at hj hk heq
  by_cases hji : j = i <;> by_cases hki : k = i
  · rw [hji, hki]
  · rw [Function.update_of_ne hki] at hk heq
    rw [hji, Function.update_self] at heq
    exact absurd heq.symm (hnew k hk)
  · rw [Function.update_of_ne hji] at hj heq
    rw [hki, Function.update_self] at heq
    exact absurd heq (hnew j hj)
  · rw [Function.update_of_ne hji] at hj heq
    rw [Function.update_of_ne hki] at hk heq
    exact h j k hj hk heq

end Allocated

section Released

variable {κ : Contents} {i : Fin 128}

/-- What a volume tells after the release of a file whose block was marked. -/
def afterRelease (sb : Superblock) (κ : Contents) (i : Fin 128) : Contents where
  super := credited sb true
  used := Function.update κ.used (sb.lbaBlock (κ.slot i).firstBlock).toNat false
  slot := Function.update κ.slot i .vacant

@[simp] theorem used_afterRelease_self :
    (afterRelease sb κ i).used (sb.lbaBlock (κ.slot i).firstBlock).toNat = false :=
  Function.update_self ..

@[simp] theorem slot_afterRelease_self : (afterRelease sb κ i).slot i = .vacant :=
  Function.update_self ..

theorem slot_afterRelease_of_ne {j : Fin 128} (h : j ≠ i) :
    (afterRelease sb κ i).slot j = κ.slot j :=
  Function.update_of_ne h ..

/-- **A release keeps a volume consistent**, if no other file has the block. -/
theorem Consistent.released (h : Consistent sb κ) (hsb : sb.LaidOut) (hseparate : Separate sb κ)
    (hi : (κ.slot i).isFree = false) :
    Consistent (credited sb true) (afterRelease sb κ i) where
  state := rfl
  blocks := by
    have hfile := h.files i hi
    have hcount := countP_update_false List.nodup_range
      (List.mem_range.2 (UInt32.lt_iff_toNat_lt.1 hfile.lt)) hfile.marked
    have hblocks := h.blocks
    show (increase sb.freeBlocks sb.totalBlocks).toNat + (List.range sb.totalBlocks.toNat).countP
      (Function.update κ.used (sb.lbaBlock (κ.slot i).firstBlock).toNat false)
        = sb.totalBlocks.toNat
    rw [toNat_increase]
    omega
  inodes := by
    have hcount := countP_update_true (List.nodup_finRange 128) (List.mem_finRange i)
      (p := fun j => (κ.slot j).isFree) hi
    have hle : (List.finRange 128).countP
        (Function.update (fun j => (κ.slot j).isFree) i true) ≤ 128 :=
      List.countP_le_length.trans (by rw [List.length_finRange])
    have hinodes := h.inodes
    show (increase sb.freeInodes sb.totalInodes).toNat = (List.finRange 128).countP
      fun j => (Function.update κ.slot i Index.vacant j).isFree
    rw [toNat_increase, isFree_update, Index.isFree_vacant, hsb.inodes,
      show indexSlots.toNat = 128 from rfl]
    omega
  files := by
    intro j hj
    simp only [afterRelease] at hj ⊢
    by_cases hji : j = i
    · rw [hji, Function.update_self, Index.isFree_vacant] at hj
      cases hj
    · rw [Function.update_of_ne hji] at hj ⊢
      have hfile := h.files j hj
      refine ⟨hfile.kind, hfile.data, hfile.lt, ?_⟩
      have hne : (sb.lbaBlock (κ.slot j).firstBlock).toNat
          ≠ (sb.lbaBlock (κ.slot i).firstBlock).toNat :=
        fun heq => hji (hseparate j i hj hi (UInt32.toNat_inj.1 heq))
      exact (Function.update_of_ne hne _ _).trans hfile.marked

/-- A release leaves the other files where they are. -/
theorem Separate.released (h : Separate sb κ) :
    Separate (credited sb true) (afterRelease sb κ i) := by
  intro j k hj hk heq
  simp only [afterRelease] at hj hk heq
  have hne : ∀ l, (Function.update κ.slot i Index.vacant l).isFree = false → l ≠ i := by
    rintro l hl rfl
    rw [Function.update_self, Index.isFree_vacant] at hl
    cases hl
  have hji := hne j hj
  have hki := hne k hk
  rw [Function.update_of_ne hji] at hj heq
  rw [Function.update_of_ne hki] at hk heq
  exact h j k hj hk heq

end Released

/-! ## §4 Files that share a block -/

section Shared

variable {κ : Contents} {i j : Fin 128}

/-- What a volume tells after the record of a file was copied to a free slot, and counted. -/
def afterCopy (sb : Superblock) (κ : Contents) (i j : Fin 128) : Contents where
  super := { sb with freeInodes := decrease sb.freeInodes }
  used := κ.used
  slot := Function.update κ.slot j (κ.slot i)

/-- **A second file in the same block goes unnoticed.** -/
theorem Consistent.copied (h : Consistent sb κ) (hi : (κ.slot i).isFree = false)
    (hj : (κ.slot j).isFree = true) :
    Consistent { sb with freeInodes := decrease sb.freeInodes } (afterCopy sb κ i j) where
  state := h.state
  blocks := h.blocks
  inodes := by
    have hcount := countP_update_false (List.nodup_finRange 128) (List.mem_finRange j)
      (p := fun k => (κ.slot k).isFree) hj
    have hinodes := h.inodes
    show (decrease sb.freeInodes).toNat = (List.finRange 128).countP
      fun k => (Function.update κ.slot j (κ.slot i) k).isFree
    rw [toNat_decrease, isFree_update, hi]
    omega
  files := by
    intro k hk
    simp only [afterCopy] at hk ⊢
    by_cases hkj : k = j
    · rw [hkj, Function.update_self]
      exact ⟨(h.files i hi).kind, (h.files i hi).data, (h.files i hi).lt, (h.files i hi).marked⟩
    · rw [Function.update_of_ne hkj] at hk ⊢
      exact ⟨(h.files k hk).kind, (h.files k hk).data, (h.files k hk).lt, (h.files k hk).marked⟩

/-- **The release of one of two files in a block is not harmless**: the other one is left in
a block that counts as free. -/
theorem not_consistent_released (hij : j ≠ i) (hj : (κ.slot j).isFree = false)
    (hshared : sb.lbaBlock (κ.slot j).firstBlock = sb.lbaBlock (κ.slot i).firstBlock) :
    ¬ Consistent (credited sb true) (afterRelease sb κ i) := by
  intro h
  have hslot : (afterRelease sb κ i).slot j = κ.slot j := slot_afterRelease_of_ne hij
  have hmarked := (h.files j (by rw [hslot, hj])).marked
  rw [hslot, show (credited sb true).lbaBlock (κ.slot j).firstBlock = _ from hshared,
    used_afterRelease_self] at hmarked
  cases hmarked

end Shared

end Volume

end AtaVolume
