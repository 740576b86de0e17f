/-
AtaVolume.Proofs.Volume.FileMap — the files of a volume as a map.

A `FileMap` gives the block of the file in each slot. That the blocks lie in the
data area and that no two files share one is part of the map, so the laws of the
calls need not say it again. `FileMap.contents` is what a volume with these files
tells when no change of it is under way; making and freeing a file are edits of
the map as well as of the contents.
-/
import Mathlib.Data.Fintype.Card
import Mathlib.Order.Interval.Finset.Nat
import AtaVolume.Proofs.Volume.Files

namespace AtaVolume

open Superblock

/-- The block of the file in each slot. -/
@[ext] structure FileMap (size : UInt32) where
  block : Fin 128 → Option Nat
  inData : ∀ {i b}, block i = some b → firstData size ≤ b ∧ b < blockCount size
  injective : ∀ {i j b}, block i = some b → block j = some b → i = j

namespace FileMap

variable {size : UInt32}

/-! ## §1 Changes -/

/-- No files. -/
def empty (size : UInt32) : FileMap size where
  block _ := none
  inData h := nomatch h
  injective h := nomatch h

/-- A file more, in a block that no other file has. -/
def insert (m : FileMap size) (i : Fin 128) (b : Nat)
    (hdata : firstData size ≤ b ∧ b < blockCount size) (hfresh : ∀ j, m.block j ≠ some b) :
    FileMap size where
  block := Function.update m.block i (some b)
  inData := by
    intro j c h
    by_cases hj : j = i
    · rw [hj, Function.update_self] at h
      cases h
      exact hdata
    · rw [Function.update_of_ne hj] at h
      exact m.inData h
  injective := by
    intro j k c hj hk
    by_cases hji : j = i <;> by_cases hki : k = i
    · rw [hji, hki]
    · rw [hji, Function.update_self] at hj
      rw [Function.update_of_ne hki] at hk
      cases hj
      exact absurd hk (hfresh k)
    · rw [hki, Function.update_self] at hk
      rw [Function.update_of_ne hji] at hj
      cases hk
      exact absurd hj (hfresh j)
    · rw [Function.update_of_ne hji] at hj
      rw [Function.update_of_ne hki] at hk
      exact m.injective hj hk

/-- The file in a slot is gone. -/
def erase (m : FileMap size) (i : Fin 128) : FileMap size where
  block := Function.update m.block i none
  inData := by
    intro j c h
    by_cases hj : j = i
    · rw [hj, Function.update_self] at h
      cases h
    · rw [Function.update_of_ne hj] at h
      exact m.inData h
  injective := by
    intro j k c hj hk
    by_cases hji : j = i
    · rw [hji, Function.update_self] at hj
      cases hj
    · by_cases hki : k = i
      · rw [hki, Function.update_self] at hk
        cases hk
      · rw [Function.update_of_ne hji] at hj
        rw [Function.update_of_ne hki] at hk
        exact m.injective hj hk

/-! ## §2 What is seen of a map -/

/-- The record in a slot. -/
def record (m : FileMap size) (i : Fin 128) : Index :=
  match m.block i with
  | none => .vacant
  | some b => .fileAt size b

/-- A file has the block. -/
def uses (m : FileMap size) (b : Nat) : Bool := decide (∃ i, m.block i = some b)

/-- The slots that hold files. -/
def slots (m : FileMap size) : Finset (Fin 128) := Finset.univ.filter fun i => (m.block i).isSome

/-- The number of files. -/
def count (m : FileMap size) : Nat := m.slots.card

/-- The files in the order of their slots. -/
def entries (m : FileMap size) : List (UInt32 × Index) :=
  (List.finRange 128).filterMap fun i =>
    (m.block i).map fun b => (UInt32.ofNat i.val, Index.fileAt size b)

/-- What a volume with these files tells. -/
def contents (m : FileMap size) : Contents where
  super := counted size (UInt32.ofNat (blockCount size - m.count)) (UInt32.ofNat (128 - m.count))
    stateClean
  used := m.uses
  slot := m.record

variable {m : FileMap size} {i : Fin 128} {b : Nat}

@[simp] theorem block_empty : (empty size).block i = none := rfl

@[simp] theorem used_contents : m.contents.used = m.uses := by
  rw [contents]

@[simp] theorem slot_contents : m.contents.slot = m.record := by
  rw [contents]

theorem record_of_none (h : m.block i = none) : m.record i = .vacant := by
  simp only [record, h]

theorem record_of_some (h : m.block i = some b) : m.record i = .fileAt size b := by
  simp only [record, h]

theorem isFree_record (m : FileMap size) (i : Fin 128) :
    (m.record i).isFree = (m.block i).isNone := by
  cases h : m.block i with
  | none => rw [record_of_none h, Index.isFree_vacant, Option.isNone_none]
  | some b => rw [record_of_some h, Index.isFree_fileAt, Option.isNone_some]

theorem uses_iff : m.uses b = true ↔ ∃ i, m.block i = some b := decide_eq_true_iff

theorem uses_false_iff : m.uses b = false ↔ ∀ i, m.block i ≠ some b := by
  rw [uses, decide_eq_false_iff_not, not_exists]

theorem mem_slots : i ∈ m.slots ↔ ∃ b, m.block i = some b := by
  rw [slots, Finset.mem_filter, Option.isSome_iff_exists]
  simp

theorem count_le (m : FileMap size) : m.count ≤ 128 := by
  have hcard := Finset.card_le_univ m.slots
  rwa [Fintype.card_fin] at hcard

/-! ## §3 Changes as edits -/

section Insert

variable {hdata : firstData size ≤ b ∧ b < blockCount size} {hfresh : ∀ j, m.block j ≠ some b}

@[simp] theorem block_insert_self : (m.insert i b hdata hfresh).block i = some b :=
  Function.update_self ..

@[simp] theorem block_insert_of_ne {j : Fin 128} (hj : j ≠ i) :
    (m.insert i b hdata hfresh).block j = m.block j :=
  Function.update_of_ne hj ..

theorem record_insert :
    (m.insert i b hdata hfresh).record = Function.update m.record i (.fileAt size b) := by
  funext j
  by_cases hj : j = i
  · subst hj
    rw [Function.update_self, record_of_some block_insert_self]
  · rw [Function.update_of_ne hj, record, block_insert_of_ne hj, record]

theorem uses_insert (hi : m.block i = none) :
    (m.insert i b hdata hfresh).uses = Function.update m.uses b true := by
  funext c
  rw [Bool.eq_iff_iff, uses_iff]
  by_cases hc : c = b
  · subst hc
    rw [Function.update_self]
    exact ⟨fun _ => rfl, fun _ => ⟨i, block_insert_self⟩⟩
  · rw [Function.update_of_ne hc, uses_iff]
    constructor
    · rintro ⟨j, hj⟩
      by_cases hji : j = i
      · rw [hji, block_insert_self] at hj
        exact absurd (Option.some.inj hj).symm hc
      · rw [block_insert_of_ne hji] at hj
        exact ⟨j, hj⟩
    · rintro ⟨j, hj⟩
      have hji : j ≠ i := by
        rintro rfl
        rw [hi] at hj
        cases hj
      exact ⟨j, (block_insert_of_ne hji).trans hj⟩

theorem count_insert (hi : m.block i = none) : (m.insert i b hdata hfresh).count = m.count + 1 := by
  have hslots : (m.insert i b hdata hfresh).slots = Insert.insert i m.slots := by
    ext j
    rw [Finset.mem_insert, mem_slots, mem_slots]
    by_cases hj : j = i
    · simp [hj]
    · simp [hj]
  have hnew : i ∉ m.slots := by
    rw [mem_slots, hi]
    simp
  rw [count, hslots, Finset.card_insert_of_notMem hnew, count]

end Insert

@[simp] theorem block_erase_self : (m.erase i).block i = none :=
  Function.update_self ..

@[simp] theorem block_erase_of_ne {j : Fin 128} (hj : j ≠ i) :
    (m.erase i).block j = m.block j :=
  Function.update_of_ne hj ..

theorem record_erase : (m.erase i).record = Function.update m.record i .vacant := by
  funext j
  by_cases hj : j = i
  · subst hj
    rw [Function.update_self, record_of_none block_erase_self]
  · rw [Function.update_of_ne hj, record, block_erase_of_ne hj, record]

theorem uses_erase (h : m.block i = some b) : (m.erase i).uses = Function.update m.uses b false := by
  funext c
  rw [Bool.eq_iff_iff, uses_iff]
  by_cases hc : c = b
  · subst hc
    rw [Function.update_self]
    refine ⟨?_, fun hfalse => nomatch hfalse⟩
    rintro ⟨j, hj⟩
    by_cases hji : j = i
    · rw [hji, block_erase_self] at hj
      cases hj
    · rw [block_erase_of_ne hji] at hj
      exact absurd (m.injective hj h) hji
  · rw [Function.update_of_ne hc, uses_iff]
    constructor
    · rintro ⟨j, hj⟩
      by_cases hji : j = i
      · rw [hji, block_erase_self] at hj
        cases hj
      · rw [block_erase_of_ne hji] at hj
        exact ⟨j, hj⟩
    · rintro ⟨j, hj⟩
      have hji : j ≠ i := by
        rintro rfl
        exact hc (Option.some.inj (hj.symm.trans h))
      exact ⟨j, (block_erase_of_ne hji).trans hj⟩

theorem count_erase (h : m.block i = some b) : (m.erase i).count + 1 = m.count := by
  have hslots : (m.erase i).slots = m.slots.erase i := by
    ext j
    rw [Finset.mem_erase, mem_slots, mem_slots]
    by_cases hj : j = i
    · simp [hj]
    · simp [hj]
  rw [count, hslots, Finset.card_erase_add_one (mem_slots.2 ⟨b, h⟩), count]

/-! ## §4 Counting -/

/-- Counting along a list without repetitions. -/
theorem card_filter_toFinset {α : Type} [DecidableEq α] {l : List α} (hl : l.Nodup) (p : α → Bool) :
    (l.toFinset.filter fun a => p a = true).card = l.countP p := by
  rw [← List.toFinset_filter, List.toFinset_card_of_nodup (hl.filter p), List.countP_eq_length_filter]

/-- The number of free slots. -/
theorem countP_isFree (m : FileMap size) :
    (List.finRange 128).countP (fun i => (m.record i).isFree) = 128 - m.count := by
  have hcount : m.count = (List.finRange 128).countP fun i => (m.block i).isSome := by
    rw [← card_filter_toFinset (List.nodup_finRange 128), List.toFinset_finRange]
    rfl
  have hsplit := (List.finRange 128).length_eq_countP_add_countP fun i => (m.record i).isFree
  have hused : (List.finRange 128).countP (fun i => ¬ (m.record i).isFree = true) = m.count := by
    rw [hcount]
    apply List.countP_congr
    intro i _
    rw [isFree_record]
    cases m.block i <;> simp
  rw [List.length_finRange, hused] at hsplit
  omega

/-- The blocks that have a file. -/
def blocks (m : FileMap size) : Finset Nat := m.slots.image fun i => (m.block i).getD 0

theorem mem_blocks : b ∈ m.blocks ↔ m.uses b = true := by
  rw [blocks, Finset.mem_image, uses_iff]
  constructor
  · rintro ⟨i, hi, rfl⟩
    obtain ⟨c, hc⟩ := mem_slots.1 hi
    exact ⟨i, by rw [hc, Option.getD_some]⟩
  · rintro ⟨i, hi⟩
    exact ⟨i, mem_slots.2 ⟨b, hi⟩, by rw [hi, Option.getD_some]⟩

/-- Each file has one block, and no two have the same. -/
theorem card_blocks (m : FileMap size) : m.blocks.card = m.count := by
  apply Finset.card_image_of_injOn
  intro i hi j hj heq
  obtain ⟨b, hb⟩ := mem_slots.1 hi
  obtain ⟨c, hc⟩ := mem_slots.1 hj
  simp only [hb, hc, Option.getD_some] at heq
  subst heq
  exact m.injective hb hc

/-- The number of blocks that are marked for the files. -/
theorem countP_uses (m : FileMap size) :
    (List.range (blockCount size)).countP m.uses = m.count := by
  have hfilter : (Finset.range (blockCount size)).filter (fun b => m.uses b = true) = m.blocks := by
    ext b
    rw [Finset.mem_filter, Finset.mem_range, mem_blocks, and_iff_right_iff_imp]
    intro hb
    obtain ⟨i, hi⟩ := uses_iff.1 hb
    exact (m.inData hi).2
  rw [← card_blocks, ← hfilter, ← List.toFinset_range, card_filter_toFinset List.nodup_range]

/-- **There is a block for every slot.** -/
theorem exists_unused (h : Ordered size) (m : FileMap size) :
    ∃ b, firstData size ≤ b ∧ b < blockCount size ∧ m.uses b = false := by
  by_contra hnone
  have hall : Finset.Ico (firstData size) (blockCount size) ⊆ m.blocks := by
    intro b hb
    rw [Finset.mem_Ico] at hb
    rw [mem_blocks]
    by_contra hfree
    exact hnone ⟨b, hb.1, hb.2, Bool.eq_false_of_not_eq_true hfree⟩
  have hcard := Finset.card_le_card hall
  have hroom := h.room
  have hcount := m.count_le
  rw [Nat.card_Ico, card_blocks] at hcard
  omega

end FileMap

end AtaVolume
