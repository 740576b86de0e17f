/-
AtaVolume.Proofs.Volume.Sessions — calls on a volume and what they mean for its
files.

A session is a list of calls. `FileMap.Step` tells what the answer to a call must
be and which files there are afterwards, without a word about drives: a new
volume has no files, a new file gets the first free slot and the first free
block, and a file is freed by its slot.
-/
import Mathlib.Data.Finset.Max
import AtaVolume.Proofs.Volume.Calls
import AtaVolume.Proofs.Volume.FileMap

namespace AtaVolume

open Superblock

/-! ## §1 Calls -/

/-- Calls that make and free files. -/
inductive FileCall
  | allocate
  | release (inode : UInt32)
  deriving DecidableEq, Repr

/-- Calls that change a volume. -/
inductive Call
  | format (verify : Bool)
  | file (call : FileCall)
  deriving DecidableEq, Repr

/-- What a call gives when it ends well. -/
inductive Answer
  | formatted (sb : Superblock)
  | allocated (inode : UInt32) (record : Index)
  | released (record : Index)
  deriving DecidableEq, Repr

section Run

variable {δ : Type} [BlockDevice δ]

/-- Makes a call on the volume of a drive. -/
def FileCall.run (drive : UInt8) : FileCall → VolumeAction δ Answer
  | .allocate => do
    let (inode, record) ← Volume.allocate drive
    return .allocated inode record
  | .release inode => return .released (← Volume.release drive inode)

/-- Makes a call on the volume of a drive. -/
def Call.run (drive : UInt8) : Call → VolumeAction δ Answer
  | .format verify => return .formatted (← Volume.format drive verify)
  | .file call => call.run drive

/-- Makes calls one after the other, whether they end well or not; tells how many
failed. -/
def FileCall.session (drive : UInt8) : List FileCall → δ → Nat × δ
  | [], s => (0, s)
  | c :: calls, s =>
    match c.run drive s with
    | .ok _ s => session drive calls s
    | .error _ s =>
      let (failed, s) := session drive calls s
      (failed + 1, s)

end Run

namespace FileMap

variable {size : UInt32}

/-! ## §2 The next file -/

/-- The first slot without a file. -/
structure NextSlot (m : FileMap size) (i : Fin 128) : Prop where
  free : m.block i = none
  least : ∀ j, j < i → m.block j ≠ none

/-- The first block of the data area without a file. -/
structure NextBlock (m : FileMap size) (b : Nat) : Prop where
  inData : firstData size ≤ b ∧ b < blockCount size
  fresh : ∀ i, m.block i ≠ some b
  least : ∀ k, firstData size ≤ k → k < b → ∃ i, m.block i = some k

variable {m : FileMap size}

theorem count_eq_iff : m.count = 128 ↔ ∀ i, m.block i ≠ none := by
  have hcard : m.count = 128 ↔ m.slots = Finset.univ := by
    rw [← Finset.card_eq_iff_eq_univ, Fintype.card_fin, count]
  rw [hcard, Finset.eq_univ_iff_forall]
  simp only [mem_slots, ne_eq, Option.ne_none_iff_exists']

theorem exists_nextSlot (h : m.count ≠ 128) : ∃ i, m.NextSlot i := by
  have hfree : (Finset.univ.filter fun i => m.block i = none).Nonempty := by
    rw [ne_eq, count_eq_iff, not_forall] at h
    obtain ⟨i, hi⟩ := h
    exact ⟨i, Finset.mem_filter.2 ⟨Finset.mem_univ i, not_not.1 hi⟩⟩
  refine ⟨_, (Finset.mem_filter.1 (Finset.min'_mem _ hfree)).2, fun j hj hnone => ?_⟩
  have hmem : j ∈ Finset.univ.filter fun i => m.block i = none :=
    Finset.mem_filter.2 ⟨Finset.mem_univ j, hnone⟩
  exact absurd hj (not_lt.2 (Finset.min'_le _ j hmem))

/-! ## §3 Steps -/

/-- The answer to a call, and the files after it. -/
inductive Step : FileMap size → Call → Except VolumeError Answer → FileMap size → Prop
  /-- A new volume has no files. -/
  | format (m : FileMap size) (verify : Bool) :
    Step m (.format verify) (.ok (.formatted (forSize size))) (.empty size)
  /-- A new file gets the first free slot and the first free block. -/
  | allocate {m : FileMap size} {i : Fin 128} {b : Nat} (hi : m.NextSlot i) (hb : m.NextBlock b) :
    Step m (.file .allocate) (.ok (.allocated (UInt32.ofNat i.val) (.fileAt size b)))
      (m.insert i b hb.inData hb.fresh)
  /-- There are no more than 128 files. -/
  | full {m : FileMap size} (h : m.count = 128) :
    Step m (.file .allocate) (.error .inodeFull) m
  /-- The record of a file is returned when it is freed. -/
  | release {m : FileMap size} {inode : UInt32} {i : Fin 128} {b : Nat}
      (hinode : inode = UInt32.ofNat i.val) (h : m.block i = some b) :
    Step m (.file (.release inode)) (.ok (.released (.fileAt size b))) (m.erase i)
  /-- There is nothing to free in a slot without a file. -/
  | invalid {m : FileMap size} {inode : UInt32}
      (h : ∀ i : Fin 128, inode = UInt32.ofNat i.val → m.block i = none) :
    Step m (.file (.release inode)) (.error (.invalidInode inode)) m

theorem NextSlot.unique {i j : Fin 128} (hi : m.NextSlot i) (hj : m.NextSlot j) : i = j := by
  rcases lt_trichotomy i j with hlt | heq | hgt
  · exact absurd hi.free (hj.least i hlt)
  · exact heq
  · exact absurd hj.free (hi.least j hgt)

theorem NextBlock.unique {b c : Nat} (hb : m.NextBlock b) (hc : m.NextBlock c) : b = c := by
  rcases lt_trichotomy b c with hlt | heq | hgt
  · obtain ⟨i, hi⟩ := hc.least b hb.inData.1 hlt
    exact absurd hi (hb.fresh i)
  · exact heq
  · obtain ⟨i, hi⟩ := hb.least c hc.inData.1 hgt
    exact absurd hi (hc.fresh i)

/-- **A call has one answer**, and leaves one map. -/
theorem Step.unique {c : Call} {a a' : Except VolumeError Answer} {m₁ m₂ : FileMap size}
    (h : m.Step c a m₁) (h' : m.Step c a' m₂) : a = a' ∧ m₁ = m₂ := by
  cases h with
  | format verify => cases h' with | format verify => exact ⟨rfl, rfl⟩
  | allocate hi hb =>
    cases h' with
    | allocate hj hc =>
      obtain rfl := hi.unique hj
      obtain rfl := hb.unique hc
      exact ⟨rfl, rfl⟩
    | full hfull => exact absurd hi.free (count_eq_iff.1 hfull _)
  | full hfull =>
    cases h' with
    | allocate hj hc => exact absurd hj.free (count_eq_iff.1 hfull _)
    | full => exact ⟨rfl, rfl⟩
  | release hinode hi =>
    cases h' with
    | release hinode' hj =>
      obtain rfl := IndexTable.slot_injective (hinode.symm.trans hinode')
      cases hi.symm.trans hj
      exact ⟨rfl, rfl⟩
    | invalid hnone => cases hi.symm.trans (hnone _ hinode)
  | invalid hnone =>
    cases h' with
    | release hinode hj => cases hj.symm.trans (hnone _ hinode)
    | invalid => exact ⟨rfl, rfl⟩

/-! ## §4 Maps and contents -/

theorem NextSlot.firstSlot {κ : Contents} (hslots : ∀ i, κ.slot i = m.record i) {i : Fin 128}
    (h : m.NextSlot i) : κ.FirstSlot i := by
  constructor
  · rw [hslots, record_of_none h.free, Index.isFree_vacant]
  · intro j hj
    obtain ⟨b, hb⟩ := Option.ne_none_iff_exists'.1 (h.least j hj)
    rw [hslots, record_of_some hb, Index.isFree_fileAt]

theorem NextBlock.firstBlock {κ : Contents} (hused : κ.used = m.uses) {b : Nat}
    (h : m.NextBlock b) : Contents.FirstBlock size κ b := by
  refine ⟨h.inData.1, h.inData.2, ?_, fun k hk hbefore => ?_⟩
  · rw [hused]
    exact uses_false_iff.2 h.fresh
  · rw [hused]
    exact uses_iff.2 (h.least k hk hbefore)

theorem exists_nextBlock (h : Ordered size) (m : FileMap size) : ∃ b, m.NextBlock b := by
  have hunused := exists_unused h m
  rw [← used_contents] at hunused
  obtain ⟨b, hb⟩ := Contents.exists_firstBlock hunused
  have hfree := hb.free
  have hleast := hb.least
  rw [used_contents] at hfree hleast
  exact ⟨b, ⟨hb.data, hb.lt⟩, uses_false_iff.1 hfree,
    fun k hk hbefore => uses_iff.1 (hleast k hk hbefore)⟩

theorem mountable_contents (m : FileMap size) :
    Contents.Mountable size m.contents (UInt32.ofNat (blockCount size - m.count))
      (UInt32.ofNat (128 - m.count)) stateClean := by
  have htotal := (forSize size).totalBlocks.toNat_lt
  have hcount : blockCount size < 2 ^ 32 := htotal
  refine ⟨rfl, ?_, ?_⟩
  · rw [UInt32.toNat_ofNat_of_lt' (show _ < 2 ^ 32 by omega)]
    omega
  · rw [UInt32.toNat_ofNat_of_lt' (show _ < 2 ^ 32 by omega)]
    omega

theorem count_empty : (empty size).count = 0 := by
  rw [count, Finset.card_eq_zero, Finset.eq_empty_iff_forall_notMem]
  intro i hi
  simpa using mem_slots.1 hi

theorem contents_empty : (empty size).contents = Contents.blank size := by
  apply Contents.ext
  · rw [contents, count_empty, Nat.sub_zero, Nat.sub_zero, blockCount, UInt32.ofNat_toNat]
    rfl
  · funext b
    rw [used_contents, Contents.blank, uses_false_iff]
    simp
  · funext i
    rw [slot_contents, record_of_none block_empty, Contents.blank]

/-- The counters of a volume with one file more. -/
theorem decrease_ofNat {n : Nat} (h : n < 2 ^ 32) :
    Volume.decrease (UInt32.ofNat n) = UInt32.ofNat (n - 1) := by
  rw [← UInt32.toNat_inj, Volume.toNat_decrease, UInt32.toNat_ofNat_of_lt' h,
    UInt32.toNat_ofNat_of_lt' (show n - 1 < 2 ^ 32 by omega)]

/-- The counters of a volume with one file less. -/
theorem increase_ofNat {n : Nat} {limit : UInt32} (h : n < limit.toNat) :
    Volume.increase (UInt32.ofNat n) limit = UInt32.ofNat (n + 1) := by
  have hlimit := limit.toNat_lt
  rw [← UInt32.toNat_inj, Volume.toNat_increase,
    UInt32.toNat_ofNat_of_lt' (show n < 2 ^ 32 by omega),
    UInt32.toNat_ofNat_of_lt' (show n + 1 < 2 ^ 32 by omega)]
  omega

/-- An allocation adds a file. -/
theorem contents_insert {i : Fin 128} {b : Nat} (hi : m.block i = none)
    (hdata : firstData size ≤ b ∧ b < blockCount size) (hfresh : ∀ j, m.block j ≠ some b) :
    m.contents.apply (Contents.allocation size (UInt32.ofNat (blockCount size - m.count))
        (UInt32.ofNat (128 - m.count)) i b)
      = (m.insert i b hdata hfresh).contents := by
  have htotal : blockCount size < 2 ^ 32 := (forSize size).totalBlocks.toNat_lt
  simp only [Contents.allocation, Contents.apply_cons, Contents.apply_nil, Contents.edit,
    used_contents, slot_contents]
  apply Contents.ext
  · rw [contents, count_insert hi, decrease_ofNat (by omega), decrease_ofNat (by omega),
      Nat.sub_sub, Nat.sub_sub]
  · rw [used_contents, uses_insert hi]
  · rw [slot_contents, record_insert]

/-- A release removes one. -/
theorem contents_erase (h : Ordered size) {i : Fin 128} {b : Nat} (hi : m.block i = some b) :
    m.contents.apply (Contents.releasing size (UInt32.ofNat (blockCount size - m.count))
        (UInt32.ofNat (128 - m.count)) i b true)
      = (m.erase i).contents := by
  have hroom := h.room
  have hcount := m.count_le
  have herase := count_erase hi
  have hinodes : indexSlots.toNat = 128 := rfl
  have hblocks : (forSize size).totalBlocks.toNat = blockCount size := rfl
  simp only [Contents.releasing, Contents.apply_cons, Contents.apply_nil, Contents.edit,
    used_contents, slot_contents, if_true]
  apply Contents.ext
  · rw [contents, increase_ofNat (by omega), increase_ofNat (by omega)]
    simp only
    congr 2 <;> omega
  · rw [used_contents, uses_erase hi]
  · rw [slot_contents, record_erase]

/-! ## §5 Calls on the slots of a map -/

section Calls

variable {δ : Type} [BlockDevice δ] {v : DriveView δ} {drive : UInt8} {fails : Prop}
  {κ : Contents} {m : FileMap v.size} {freeBlocks freeInodes : UInt32} {state : UInt8}

/-- An allocation has a free slot or finds none; which block it takes, if any, is
up to the marks. -/
theorem allocate_cases (hv : v.Stores drive fails) (hsize : 1024 ≤ v.size.toNat)
    (hκ : κ.Mountable v.size freeBlocks freeInodes state) (hslots : κ.slot = m.record) :
    (m.count = 128 ∧ v.Refuses fails κ (FileCall.run drive .allocate) .inodeFull)
      ∨ ∃ i, m.NextSlot i
        ∧ (∀ b, Contents.FirstBlock v.size κ b →
            v.Performs fails κ (FileCall.run drive .allocate)
              (Contents.allocation v.size freeBlocks freeInodes i b)
              (· = .allocated (UInt32.ofNat i.val) (Index.fileAt v.size b)))
        ∧ ((∀ b, firstData v.size ≤ b → b < blockCount v.size → κ.used b = true) →
            v.Refuses fails κ (FileCall.run drive .allocate) .diskFull) := by
  by_cases hcount : m.count = 128
  · refine .inl ⟨hcount, (Volume.allocate_refuses_inodeFull hv hsize hκ fun i => ?_).bind⟩
    obtain ⟨b, hb⟩ := Option.ne_none_iff_exists'.1 (count_eq_iff.1 hcount i)
    rw [hslots, record_of_some hb, Index.isFree_fileAt]
  · obtain ⟨i, hi⟩ := exists_nextSlot hcount
    have hfirst := hi.firstSlot (congrFun hslots)
    refine .inr ⟨i, hi, fun b hb => ?_, fun hfull => ?_⟩
    · exact (Volume.allocate_performs hv hsize hκ hfirst hb).map (by rintro _ rfl; rfl)
    · exact (Volume.allocate_refuses_diskFull hv hsize hκ hfirst hfull).bind

/-- There is a file in a slot to release, or there is not. -/
theorem release_cases (hv : v.Stores drive fails) (hsize : 1024 ≤ v.size.toNat)
    (hκ : κ.Mountable v.size freeBlocks freeInodes state) (hslots : κ.slot = m.record)
    (inode : UInt32) :
    (∃ i b, inode = UInt32.ofNat i.val ∧ m.block i = some b
        ∧ v.Performs fails κ (FileCall.run drive (.release inode))
          (Contents.releasing v.size freeBlocks freeInodes i b (κ.used b))
          (· = .released (Index.fileAt v.size b)))
      ∨ (∀ i : Fin 128, inode = UInt32.ofNat i.val → m.block i = none)
        ∧ v.Refuses fails κ (FileCall.run drive (.release inode)) (.invalidInode inode) := by
  by_cases hinode : inode.toNat < 128
  · obtain ⟨i, rfl⟩ : ∃ i : Fin 128, inode = UInt32.ofNat i.val :=
      ⟨⟨inode.toNat, hinode⟩, (UInt32.ofNat_toNat).symm⟩
    cases hi : m.block i with
    | none =>
      have hfree : (κ.slot i).isFree = true := by
        rw [hslots, record_of_none hi, Index.isFree_vacant]
      refine .inr ⟨fun j hj => ?_, (Volume.release_refuses_free hv hsize hκ hfree).bind⟩
      rw [← IndexTable.slot_injective hj, hi]
    | some b =>
      have hslot : κ.slot i = Index.fileAt v.size b := by
        rw [hslots, record_of_some hi]
      refine .inl ⟨i, b, rfl, hi, ?_⟩
      exact (Volume.release_performs hv hsize hκ (m.inData hi).2 hslot).map (by rintro _ rfl; rfl)
  · refine .inr ⟨fun i hi => ?_, (Volume.release_refuses_beyond hv hsize hκ (by omega)).bind⟩
    rw [hi, IndexTable.toNat_slot] at hinode
    omega

end Calls

end FileMap

end AtaVolume
