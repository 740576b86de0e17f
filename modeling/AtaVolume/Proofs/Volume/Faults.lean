/-
AtaVolume.Proofs.Volume.Faults — a volume whose drive fails never gives a block
away twice.

The invariant `Keeps` is what every cut of every call leaves: each used slot is
the record of a file of a map, and the blocks of the files are marked. Blocks
that are marked for no file are leaked. A call that was cut, at whatever edit,
leaks at most one block more, and a finished one leaks none (`allocation_keeps`,
`releasing_keeps`); so there are never more leaked blocks than calls that failed.
-/
import AtaVolume.Proofs.Device.Flaky
import AtaVolume.Proofs.Volume.Sessions

namespace AtaVolume

open Superblock

namespace FileMap

variable {size : UInt32}

/-! ## §1 Files that are kept, blocks that are leaked -/

/-- The blocks that are marked for no file. -/
def leaked (m : FileMap size) (κ : Contents) : Finset Nat :=
  (Finset.range (blockCount size)).filter fun b => κ.used b = true ∧ m.uses b = false

/-- The files of the map are in their slots, their blocks are marked, and no more
than `n` other blocks are. -/
structure Keeps (m : FileMap size) (n : Nat) (κ : Contents) : Prop where
  mountable : ∃ freeBlocks freeInodes state, κ.Mountable size freeBlocks freeInodes state
  slots : κ.slot = m.record
  marked : ∀ b, m.uses b = true → κ.used b = true
  leaks : (m.leaked κ).card ≤ n

variable {m : FileMap size} {κ : Contents} {i : Fin 128} {b n : Nat}

theorem mem_leaked {c : Nat} :
    c ∈ m.leaked κ ↔ c < blockCount size ∧ κ.used c = true ∧ m.uses c = false := by
  rw [leaked, Finset.mem_filter, Finset.mem_range]

/-- One block more is leaked. -/
theorem card_leaked_le_succ {m' : FileMap size} {κ' : Contents} (hleaks : (m.leaked κ).card ≤ n)
    (b : Nat) (h : ∀ c, c ≠ b → c ∈ m'.leaked κ' → c ∈ m.leaked κ) : (m'.leaked κ').card ≤ n + 1 := by
  have hsubset : m'.leaked κ' ⊆ Insert.insert b (m.leaked κ) := by
    intro c hc
    rw [Finset.mem_insert]
    by_cases hcb : c = b
    · exact .inl hcb
    · exact .inr (h c hcb hc)
  calc (m'.leaked κ').card
      ≤ (Insert.insert b (m.leaked κ)).card := Finset.card_le_card hsubset
    _ ≤ (m.leaked κ).card + 1 := Finset.card_insert_le _ _
    _ ≤ n + 1 := Nat.succ_le_succ hleaks

/-- One block less is leaked. -/
theorem card_leaked_le_pred {m' : FileMap size} {κ' : Contents}
    (hleaks : (m.leaked κ).card ≤ n + 1) (hb : b ∈ m.leaked κ)
    (h : ∀ c, c ∈ m'.leaked κ' → c ≠ b ∧ c ∈ m.leaked κ) : (m'.leaked κ').card ≤ n := by
  have hsubset : m'.leaked κ' ⊆ (m.leaked κ).erase b := by
    intro c hc
    rw [Finset.mem_erase]
    exact h c hc
  have hcard := Finset.card_erase_add_one hb
  have hle := Finset.card_le_card hsubset
  omega

theorem Keeps.mono (h : m.Keeps n κ) {n' : Nat} (hn : n ≤ n') : m.Keeps n' κ :=
  ⟨h.mountable, h.slots, h.marked, Nat.le_trans h.leaks hn⟩

/-- A block that is not marked has no file. -/
theorem Keeps.fresh (h : m.Keeps n κ) (hb : κ.used b = false) : ∀ i, m.block i ≠ some b := by
  intro i hi
  have hused := h.marked b (uses_iff.2 ⟨i, hi⟩)
  rw [hb] at hused
  cases hused

/-- A marked block in which no record of the table puts a file is leaked. -/
theorem Keeps.unowned_subset (h : m.Keeps n κ) (hordered : Ordered size) :
    ((Finset.range (blockCount size)).filter fun b => κ.used b = true
      ∧ ∀ i, (κ.slot i).isFree = false → (κ.slot i).firstBlock.toNat ≠ b * blockSpan size)
      ⊆ m.leaked κ := by
  intro b hb
  rw [Finset.mem_filter, Finset.mem_range] at hb
  obtain ⟨hlt, hused, hnone⟩ := hb
  rw [mem_leaked, uses_false_iff]
  refine ⟨hlt, hused, fun i hi => ?_⟩
  have hslot : κ.slot i = Index.fileAt size b := by
    rw [h.slots, record_of_some hi]
  refine hnone i (by rw [hslot, Index.isFree_fileAt]) ?_
  rw [hslot, Index.toNat_firstBlock hordered hlt]

/-- The marked blocks are the leaked ones and those of the files. -/
theorem Keeps.card_leaked (h : m.Keeps n κ) :
    (m.leaked κ).card + m.count = (List.range (blockCount size)).countP κ.used := by
  have hmarked := card_filter_toFinset (List.nodup_range (n := blockCount size)) κ.used
  have hsplit := Finset.card_filter_add_card_filter_not
    (s := (Finset.range (blockCount size)).filter fun b => κ.used b = true) fun b => m.uses b = true
  have howned : ((Finset.range (blockCount size)).filter fun b => κ.used b = true).filter
      (fun b => m.uses b = true) = m.blocks := by
    ext b
    rw [Finset.mem_filter, Finset.mem_filter, Finset.mem_range, mem_blocks, and_iff_right_iff_imp]
    intro hb
    obtain ⟨i, hi⟩ := uses_iff.1 hb
    exact ⟨(m.inData hi).2, h.marked b hb⟩
  have hleaked : ((Finset.range (blockCount size)).filter fun b => κ.used b = true).filter
      (fun b => ¬ m.uses b = true) = m.leaked κ := by
    ext b
    rw [Finset.mem_filter, Finset.mem_filter, Finset.mem_range, mem_leaked, Bool.not_eq_true,
      and_assoc]
  rw [List.toFinset_range] at hmarked
  rw [howned, hleaked, card_blocks, hmarked] at hsplit
  omega

/-! ## §2 Single edits -/

theorem Keeps.super (h : m.Keeps n κ) {freeBlocks freeInodes : UInt32} (state : UInt8)
    (hblocks : freeBlocks.toNat ≤ blockCount size) (hinodes : freeInodes.toNat ≤ 128) :
    m.Keeps n (κ.edit (.super (counted size freeBlocks freeInodes state))) :=
  ⟨⟨_, _, _, rfl, hblocks, hinodes⟩, h.slots, h.marked, h.leaks⟩

/-- Edits that leave the superblock alone leave it mountable. -/
theorem Keeps.mountable_of_super (h : m.Keeps n κ) {κ' : Contents} (hsuper : κ'.super = κ.super) :
    ∃ freeBlocks freeInodes state, κ'.Mountable size freeBlocks freeInodes state := by
  obtain ⟨freeBlocks, freeInodes, state, hκ⟩ := h.mountable
  exact ⟨freeBlocks, freeInodes, state, hsuper.trans hκ.super, hκ.blocks, hκ.inodes⟩

/-- A block that is marked may be leaked. -/
theorem Keeps.mark (h : m.Keeps n κ) (b : Nat) : m.Keeps (n + 1) (κ.edit (.mark b true)) where
  mountable := h.mountable_of_super rfl
  slots := h.slots
  marked c hc := by
    rw [Contents.used_edit_mark]
    by_cases hcb : c = b
    · rw [hcb, Function.update_self]
    · rw [Function.update_of_ne hcb, h.marked c hc]
  leaks := by
    refine card_leaked_le_succ h.leaks b fun c hcb hc => ?_
    rw [mem_leaked, Contents.used_edit_mark, Function.update_of_ne hcb] at hc
    exact mem_leaked.2 hc

/-- A leaked block is one less when its mark goes. -/
theorem Keeps.unmark (h : m.Keeps (n + 1) κ) (hb : b ∈ m.leaked κ) :
    m.Keeps n (κ.edit (.mark b false)) where
  mountable := h.mountable_of_super rfl
  slots := h.slots
  marked c hc := by
    have hcb : c ≠ b := by
      rintro rfl
      rw [(mem_leaked.1 hb).2.2] at hc
      cases hc
    rw [Contents.used_edit_mark, Function.update_of_ne hcb, h.marked c hc]
  leaks := by
    refine card_leaked_le_pred h.leaks hb fun c hc => ?_
    rw [mem_leaked, Contents.used_edit_mark] at hc
    have hcb : c ≠ b := by
      rintro rfl
      simp at hc
    rw [Function.update_of_ne hcb] at hc
    exact ⟨hcb, mem_leaked.2 hc⟩

/-- A file that is entered takes its block from those that are leaked. -/
theorem Keeps.insert (h : m.Keeps (n + 1) κ) (hi : m.block i = none) (hb : κ.used b = true)
    (hdata : firstData size ≤ b ∧ b < blockCount size) (hfresh : ∀ j, m.block j ≠ some b) :
    (m.insert i b hdata hfresh).Keeps n (κ.edit (.slot i (.fileAt size b))) where
  mountable := h.mountable_of_super rfl
  slots := by rw [Contents.slot_edit_slot, record_insert, h.slots]
  marked c hc := by
    rw [uses_insert hi] at hc
    by_cases hcb : c = b
    · rw [hcb]
      exact hb
    · rw [Function.update_of_ne hcb] at hc
      exact h.marked c hc
  leaks := by
    have hmem : b ∈ m.leaked κ := mem_leaked.2 ⟨hdata.2, hb, uses_false_iff.2 hfresh⟩
    refine card_leaked_le_pred h.leaks hmem fun c hc => ?_
    rw [mem_leaked, uses_insert hi] at hc
    have hcb : c ≠ b := by
      rintro rfl
      simp at hc
    rw [Function.update_of_ne hcb] at hc
    exact ⟨hcb, mem_leaked.2 hc⟩

/-- The block of a file that is taken out is leaked. -/
theorem Keeps.erase (h : m.Keeps n κ) (hi : m.block i = some b) :
    (m.erase i).Keeps (n + 1) (κ.edit (.slot i .vacant)) where
  mountable := h.mountable_of_super rfl
  slots := by rw [Contents.slot_edit_slot, record_erase, h.slots]
  marked c hc := by
    rw [uses_erase hi] at hc
    by_cases hcb : c = b
    · rw [hcb, Function.update_self] at hc
      cases hc
    · rw [Function.update_of_ne hcb] at hc
      exact h.marked c hc
  leaks := by
    refine card_leaked_le_succ h.leaks b fun c hcb hc => ?_
    rw [mem_leaked, uses_erase hi, Function.update_of_ne hcb] at hc
    exact mem_leaked.2 hc

/-! ## §3 Calls that are cut -/

/-- The parts of a call of four edits. -/
theorem prefix_four {made : List Edit} {e₁ e₂ e₃ e₄ : Edit} (h : made <+: [e₁, e₂, e₃, e₄]) :
    made = [] ∨ made = [e₁] ∨ made = [e₁, e₂] ∨ made = [e₁, e₂, e₃]
      ∨ made = [e₁, e₂, e₃, e₄] := by
  simp only [List.prefix_cons_iff, List.prefix_nil] at h
  grind

/-- Some files are kept, and at most `n` blocks are leaked. -/
def KeepsAll (size : UInt32) (n : Nat) (κ : Contents) : Prop := ∃ m : FileMap size, m.Keeps n κ

variable {freeBlocks freeInodes : UInt32}

/-- **However an allocation is cut, no file is lost**, and one block more may be
leaked. -/
theorem allocation_keeps (h : m.Keeps n κ) (hblocks : freeBlocks.toNat ≤ blockCount size)
    (hinodes : freeInodes.toNat ≤ 128) (hi : m.block i = none)
    (hb : Contents.FirstBlock size κ b) :
    KeepsAll size n (κ.apply (Contents.allocation size freeBlocks freeInodes i b))
      ∧ ∀ made, made <+: Contents.allocation size freeBlocks freeInodes i b →
        KeepsAll size (n + 1) (κ.apply made) := by
  have hblocks' := Volume.toNat_decrease freeBlocks
  have hinodes' := Volume.toNat_decrease freeInodes
  have h₁ := h.super stateDirty hblocks hinodes
  have h₂ := h₁.mark b
  have h₃ := h₂.insert hi (Function.update_self ..) ⟨hb.data, hb.lt⟩ (h.fresh hb.free)
  have h₄ := h₃.super stateClean
    (show (Volume.decrease freeBlocks).toNat ≤ blockCount size by omega)
    (show (Volume.decrease freeInodes).toNat ≤ 128 by omega)
  refine ⟨⟨_, h₄⟩, fun made hmade => ?_⟩
  rcases prefix_four hmade with rfl | rfl | rfl | rfl | rfl
  · exact ⟨m, h.mono (Nat.le_succ n)⟩
  · exact ⟨m, h₁.mono (Nat.le_succ n)⟩
  · exact ⟨m, h₂⟩
  · exact ⟨_, h₃.mono (Nat.le_succ n)⟩
  · exact ⟨_, h₄.mono (Nat.le_succ n)⟩

/-- **However a release is cut, no other file is lost**, and one block more may be
leaked. -/
theorem releasing_keeps (h : m.Keeps n κ) (hblocks : freeBlocks.toNat ≤ blockCount size)
    (hinodes : freeInodes.toNat ≤ 128) (hi : m.block i = some b) (marked : Bool) :
    KeepsAll size n (κ.apply (Contents.releasing size freeBlocks freeInodes i b marked))
      ∧ ∀ made, made <+: Contents.releasing size freeBlocks freeInodes i b marked →
        KeepsAll size (n + 1) (κ.apply made) := by
  have hblocks' := Volume.toNat_increase freeBlocks (forSize size).totalBlocks
  have hinodes' := Volume.toNat_increase freeInodes indexSlots
  have hslots : indexSlots.toNat = 128 := rfl
  have htotal : (forSize size).totalBlocks.toNat = blockCount size := rfl
  have hfinal : (if marked then Volume.increase freeBlocks (forSize size).totalBlocks
      else freeBlocks).toNat ≤ blockCount size := by
    cases marked
    · exact hblocks
    · show (Volume.increase freeBlocks (forSize size).totalBlocks).toNat ≤ _
      omega
  have h₁ := h.super stateDirty hblocks hinodes
  have h₂ := h₁.erase hi
  have hleaked : b ∈ (m.erase i).leaked
      ((κ.edit (.super (counted size freeBlocks freeInodes stateDirty))).edit
        (.slot i .vacant)) := by
    rw [mem_leaked, uses_erase hi]
    exact ⟨(m.inData hi).2, h.marked b (uses_iff.2 ⟨i, hi⟩), Function.update_self ..⟩
  have h₃ := h₂.unmark hleaked
  have h₄ := h₃.super stateClean hfinal
    (show (Volume.increase freeInodes indexSlots).toNat ≤ 128 by omega)
  refine ⟨⟨_, h₄⟩, fun made hmade => ?_⟩
  rcases prefix_four hmade with rfl | rfl | rfl | rfl | rfl
  · exact ⟨m, h.mono (Nat.le_succ n)⟩
  · exact ⟨m, h₁.mono (Nat.le_succ n)⟩
  · exact ⟨_, h₂⟩
  · exact ⟨_, h₃.mono (Nat.le_succ n)⟩
  · exact ⟨_, h₄.mono (Nat.le_succ n)⟩

/-- A new volume keeps its files, of which there are none. -/
theorem keepsAll_blank (size : UInt32) : KeepsAll size 0 (.blank size) := by
  have hmount := (FileMap.empty size).mountable_contents
  rw [← contents_empty]
  refine ⟨.empty size, ⟨_, _, _, hmount⟩, slot_contents, fun b hb => ?_, ?_⟩
  · rw [used_contents]
    exact hb
  · rw [Nat.le_zero, Finset.card_eq_zero, Finset.eq_empty_iff_forall_notMem]
    intro b hb
    obtain ⟨-, hused, hunused⟩ := mem_leaked.1 hb
    rw [used_contents, hunused] at hused
    cases hused

end FileMap

namespace DriveView

open FileMap

variable {δ : Type} {v : DriveView δ} {drive : UInt8} {κ : Contents} {n : Nat}

/-! ## §4 What is on the drive -/

/-- No block of the volume is given away twice, and no more than `failed` blocks
are marked without a file. -/
structure Intact (v : DriveView δ) (failed : Nat) (s : δ) : Prop where
  magic : (v.contents s).super.magic = volumeMagic
  layout : (v.contents s).super.checkLayout = .ok ()
  /-- Only counters and the state differ from the superblock of a new volume. -/
  super : ∃ freeBlocks freeInodes state,
    (v.contents s).super = { forSize v.size with freeBlocks, freeInodes, state }
  /-- Each file has a block of the data area that is marked. -/
  files : ∀ i, ((v.contents s).slot i).isFree = false →
    ∃ b, firstData v.size ≤ b ∧ b < blockCount v.size
      ∧ ((v.contents s).slot i).firstBlock.toNat = b * blockSpan v.size
      ∧ (v.contents s).used b = true
  /-- No two files have the same block. -/
  distinct : ∀ i j, ((v.contents s).slot i).isFree = false → ((v.contents s).slot j).isFree = false →
    ((v.contents s).slot i).firstBlock = ((v.contents s).slot j).firstBlock → i = j
  /-- Few blocks are marked for no file. -/
  leaked : ((Finset.range (blockCount v.size)).filter fun b => (v.contents s).used b = true
      ∧ ∀ i, ((v.contents s).slot i).isFree = false →
        ((v.contents s).slot i).firstBlock.toNat ≠ b * blockSpan v.size).card ≤ failed

/-- What is kept can be seen on the drive. -/
theorem intact_of_keeps (hsize : 1024 ≤ v.size.toNat) {s : δ} {failed : Nat}
    (h : KeepsAll v.size failed (v.contents s)) : v.Intact failed s := by
  obtain ⟨m, hm⟩ := h
  obtain ⟨freeBlocks, freeInodes, state, hκ⟩ := hm.mountable
  have hordered := layout_ordered _ hsize
  -- a used slot has a file of the map
  have hfile : ∀ i, ((v.contents s).slot i).isFree = false →
      ∃ b, m.block i = some b ∧ (v.contents s).slot i = Index.fileAt v.size b := by
    intro i hused
    rw [hm.slots] at hused ⊢
    cases hi : m.block i with
    | none =>
      rw [record_of_none hi, Index.isFree_vacant] at hused
      cases hused
    | some b => exact ⟨b, rfl, record_of_some hi⟩
  refine ⟨?_, ?_, ?_, ?_, ?_, ?_⟩
  · rw [hκ.super]
    rfl
  · rw [hκ.super]
    exact checkLayout_counted _ hsize hκ.blocks hκ.inodes
  · exact ⟨freeBlocks, freeInodes, state, hκ.super⟩
  · intro i hused
    obtain ⟨b, hi, hslot⟩ := hfile i hused
    obtain ⟨hdata, hlt⟩ := m.inData hi
    rw [hslot]
    exact ⟨b, hdata, hlt, Index.toNat_firstBlock hordered hlt, hm.marked b (uses_iff.2 ⟨i, hi⟩)⟩
  · intro i j hused hused' heq
    obtain ⟨b, hi, hslot⟩ := hfile i hused
    obtain ⟨c, hj, hslot'⟩ := hfile j hused'
    rw [hslot, hslot'] at heq
    have hbc := Index.fileAt_injective hordered (m.inData hi).2 (m.inData hj).2 heq
    rw [← hbc] at hj
    exact m.injective hi hj
  · exact (Finset.card_le_card (hm.unowned_subset hordered)).trans hm.leaks

/-! ## §5 Sessions -/

variable [BlockDevice δ]

theorem allocate_keeps (hv : v.Fallible drive) (hsize : 1024 ≤ v.size.toNat)
    (h : KeepsAll v.size n κ) :
    v.Runs κ (FileCall.run drive .allocate) (fun _ κ' => KeepsAll v.size n κ')
      (fun _ κ' => KeepsAll v.size (n + 1) κ') := by
  obtain ⟨m, hm⟩ := h
  obtain ⟨freeBlocks, freeInodes, state, hκ⟩ := hm.mountable
  rcases allocate_cases hv hsize hκ hm.slots with ⟨-, hrefuses⟩ | ⟨i, hi, hperforms, hrefuses⟩
  · exact hrefuses.holds ⟨m, hm.mono (Nat.le_succ n)⟩
  by_cases hblocks : ∃ b, firstData v.size ≤ b ∧ b < blockCount v.size ∧ κ.used b = false
  · obtain ⟨b, hb⟩ := Contents.exists_firstBlock hblocks
    exact (hperforms b hb).holds (allocation_keeps hm hκ.blocks hκ.inodes hi.free hb)
  · refine (hrefuses fun b hdata hlt => ?_).holds ⟨m, hm.mono (Nat.le_succ n)⟩
    by_contra hfree
    exact hblocks ⟨b, hdata, hlt, Bool.eq_false_of_not_eq_true hfree⟩

theorem release_keeps (hv : v.Fallible drive) (hsize : 1024 ≤ v.size.toNat)
    (h : KeepsAll v.size n κ) (inode : UInt32) :
    v.Runs κ (FileCall.run drive (.release inode)) (fun _ κ' => KeepsAll v.size n κ')
      (fun _ κ' => KeepsAll v.size (n + 1) κ') := by
  obtain ⟨m, hm⟩ := h
  obtain ⟨freeBlocks, freeInodes, state, hκ⟩ := hm.mountable
  rcases release_cases hv hsize hκ hm.slots inode with ⟨i, b, -, hi, hperforms⟩ | ⟨-, hrefuses⟩
  · exact hperforms.holds (releasing_keeps hm hκ.blocks hκ.inodes hi _)
  · exact hrefuses.holds ⟨m, hm.mono (Nat.le_succ n)⟩

/-- **A call that fails leaks at most one block**, and one that ends well none. -/
theorem run_keeps (hv : v.Fallible drive) (hsize : 1024 ≤ v.size.toNat)
    (h : KeepsAll v.size n κ) (c : FileCall) :
    v.Runs κ (c.run drive) (fun _ κ' => KeepsAll v.size n κ')
      (fun _ κ' => KeepsAll v.size (n + 1) κ') := by
  cases c with
  | allocate => exact allocate_keeps hv hsize h
  | release inode => exact release_keeps hv hsize h inode

theorem session_keeps (hv : v.Fallible drive) (hsize : 1024 ≤ v.size.toNat) {s : δ}
    (hs : v.Sound s) (h : KeepsAll v.size n (v.contents s)) (calls : List FileCall) :
    KeepsAll v.size (n + (FileCall.session drive calls s).1)
      (v.contents (FileCall.session drive calls s).2) := by
  induction calls generalizing n s with
  | nil => exact h
  | cons c calls ih =>
    have hrun := (run_keeps hv hsize h c).ends s hs rfl
    rw [FileCall.session]
    cases hresult : c.run drive s with
    | ok a s' =>
      rw [hresult] at hrun
      exact ih hrun.1 hrun.2
    | error e s' =>
      rw [hresult] at hrun
      have hrest := ih hrun.1 hrun.2
      rw [Nat.add_assoc, Nat.add_comm 1] at hrest
      exact hrest

/-- **Whatever fails, no block is given away twice.** After a volume was made on a
drive of at least 1024 sectors, any calls may fail at any point, with any part of
a write done: the superblock can be used, each file has a marked block of the data
area to itself, and no more blocks are marked without a file than calls have
failed. -/
theorem session_intact (hv : v.Fallible drive) (hsize : 1024 ≤ v.size.toNat) {s s₁ : δ}
    (hs : v.Sound s) {verify : Bool} {sb : Superblock}
    (hformat : Volume.format drive verify s = .ok sb s₁) (calls : List FileCall) :
    v.Intact (FileCall.session drive calls s₁).1 (FileCall.session drive calls s₁).2 := by
  have hrun := (Volume.format_runs hv hsize verify).ends s hs rfl
  rw [hformat] at hrun
  obtain ⟨hsound, -, hblank⟩ := hrun
  have hkeeps : KeepsAll v.size 0 (v.contents s₁) := by
    rw [hblank]
    exact keepsAll_blank v.size
  have hsession := session_keeps hv hsize hsound hkeeps calls
  rw [Nat.zero_add] at hsession
  exact intact_of_keeps hsize hsession

/-- The first of these calls fails at its first read, and the second one before it
writes the record of its file. -/
theorem session_intact_cut :
    ∃ s₁ s₂, Volume.format 0 false
        (Flaky.blank 1024 [none, none, none, some 0, none, none, none, none, none, some 0])
          = .ok (forSize 1024) s₁
      ∧ FileCall.run 0 .allocate s₁ = .error (.io .timeout) s₂
      ∧ (Flaky.view 1024).Intact
          (FileCall.session 0 [.allocate, .allocate, .allocate, .release 0] s₁).1
          (FileCall.session 0 [.allocate, .allocate, .allocate, .release 0] s₁).2 := by
  obtain ⟨s₁, hformat, s₂, hcut⟩ : ∃ s₁, Volume.format 0 false
        (Flaky.blank 1024 [none, none, none, some 0, none, none, none, none, none, some 0])
          = .ok (forSize 1024) s₁
      ∧ ∃ s₂, FileCall.run 0 .allocate s₁ = .error (.io .timeout) s₂ := ⟨_, rfl, _, rfl⟩
  have hintact := session_intact (Flaky.view_fallible 1024 0) (by decide)
    (Flaky.sound_blank 1024 _) hformat [.allocate, .allocate, .allocate, .release 0]
  exact ⟨s₁, s₂, hformat, hcut, hintact⟩

end DriveView

end AtaVolume
