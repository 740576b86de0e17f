/-
AtaVolume.Proofs.Volume.Leaks — what a check without problems says of leaked blocks.

A check compares counters. It does not ask of a marked block whose it is, so it sees a
leak only where the counters do. Each call moves both counters by one, and no call that
is cut moves either; so the blocks and the files that are recorded go together
(`Balanced`), with one exception: an allocation that finds no free file recorded, although
a slot is free, records a block and no file. Where a check finds nothing there are no more
leaked blocks than there were such allocations (`check_bounds_leaks`), and there may be
as many (`check_overlooks`).
-/
import AtaVolume.Proofs.Volume.Faults
import AtaVolume.Proofs.Volume.Isolation
import AtaVolume.Proofs.Volume.Overwriting

namespace AtaVolume

open Superblock

/-! ## §1 Marks without a file -/

namespace Contents

/-- The marked blocks in which no used slot has its file. -/
def unowned (size : UInt32) (κ : Contents) : Finset Nat :=
  (Finset.range (blockCount size)).filter fun b => κ.used b = true
    ∧ ∀ i, (κ.slot i).isFree = false → (κ.slot i).firstBlock.toNat ≠ b * blockSpan size

/-- A slot is free that the superblock does not count. -/
def Overdrawn (κ : Contents) : Prop :=
  κ.super.freeInodes = 0 ∧ ∃ i, (κ.slot i).isFree = true

instance (κ : Contents) : Decidable κ.Overdrawn := inferInstanceAs (Decidable (_ ∧ _))

/-- One for an allocation that takes a slot which is not counted. -/
def overdraft (κ : Contents) (c : FileCall) : Nat :=
  if c = .allocate ∧ κ.Overdrawn then 1 else 0

end Contents

/-! ## §2 The counters of blocks and files -/

/-- No more than `k` blocks are recorded beyond one for each file that is recorded. -/
def Balanced (size : UInt32) (k : Nat) (κ : Contents) : Prop :=
  blockCount size + κ.super.freeInodes.toNat ≤ 128 + κ.super.freeBlocks.toNat + k

namespace Balanced

variable {size freeBlocks freeInodes : UInt32} {state : UInt8} {κ : Contents} {i : Fin 128}
  {b k : Nat}

theorem mono (h : Balanced size k κ) {k' : Nat} (hk : k ≤ k') : Balanced size k' κ :=
  Nat.le_trans h (Nat.add_le_add_left hk _)

theorem blank (size : UInt32) : Balanced size 0 (.blank size) := by
  show blockCount size + (forSize size).freeInodes.toNat ≤ 128 + blockCount size + 0
  have hinodes : (forSize size).freeInodes.toNat = 128 := rfl
  omega

/-- Only the last edit moves the counters. -/
theorem of_prefix (h : Balanced size k κ) (hκ : κ.Mountable size freeBlocks freeInodes state)
    {e₂ e₃ : Edit} (h₂ : ∀ κ' : Contents, (κ'.edit e₂).super = κ'.super)
    (h₃ : ∀ κ' : Contents, (κ'.edit e₃).super = κ'.super) {freeBlocks' freeInodes' : UInt32}
    {k' : Nat} (hk : k ≤ k')
    (hlast : blockCount size + freeInodes'.toNat ≤ 128 + freeBlocks'.toNat + k')
    {made : List Edit}
    (hmade : made <+: [.super (counted size freeBlocks freeInodes stateDirty), e₂, e₃,
      .super (counted size freeBlocks' freeInodes' stateClean)]) :
    Balanced size k' (κ.apply made) := by
  have hbefore : blockCount size + freeInodes.toNat ≤ 128 + freeBlocks.toNat + k' := by
    have h' := h.mono hk
    rw [Balanced, hκ.super] at h'
    exact h'
  unfold Balanced
  rcases FileMap.prefix_four hmade with rfl | rfl | rfl | rfl | rfl
  · exact h.mono hk
  · exact hbefore
  · rw [Contents.apply_cons, Contents.apply_cons, Contents.apply_nil, h₂]
    exact hbefore
  · rw [Contents.apply_cons, Contents.apply_cons, Contents.apply_cons, Contents.apply_nil, h₃, h₂]
    exact hbefore
  · exact hlast

/-- **However an allocation is cut**, a block is recorded only with a file, or there was no
file left to record. -/
theorem allocation (h : Balanced size k κ) (hκ : κ.Mountable size freeBlocks freeInodes state)
    {made : List Edit} (hmade : made <+: Contents.allocation size freeBlocks freeInodes i b) :
    Balanced size (k + if freeInodes = 0 then 1 else 0) (κ.apply made) := by
  have hblocks := Volume.toNat_decrease freeBlocks
  have hinodes := Volume.toNat_decrease freeInodes
  have hbefore := h
  rw [Balanced, hκ.super] at hbefore
  simp only [counted] at hbefore
  refine h.of_prefix hκ (fun _ => rfl) (fun _ => rfl) (Nat.le_add_right k _) ?_ hmade
  by_cases hnone : freeInodes.toNat = 0
  · rw [if_pos (UInt32.toNat_inj.1 hnone)]
    omega
  · rw [if_neg fun h => hnone (congrArg UInt32.toNat h)]
    omega

/-- **However a release is cut**, a file is recorded as gone only with its block. -/
theorem releasing (h : Balanced size k κ) (hκ : κ.Mountable size freeBlocks freeInodes state)
    {made : List Edit}
    (hmade : made <+: Contents.releasing size freeBlocks freeInodes i b true) :
    Balanced size k (κ.apply made) := by
  have hblocks := Volume.toNat_increase freeBlocks (forSize size).totalBlocks
  have hinodes := Volume.toNat_increase freeInodes indexSlots
  have hslots : indexSlots.toNat = 128 := rfl
  have htotal : (forSize size).totalBlocks.toNat = blockCount size := rfl
  have hbefore := h
  rw [Balanced, hκ.super] at hbefore
  simp only [counted] at hbefore
  refine h.of_prefix hκ (fun _ => rfl) (fun _ => rfl) (Nat.le_refl k) ?_ hmade
  rw [if_pos rfl]
  omega

end Balanced

/-! ## §3 Calls that may fail -/

namespace DriveView

open FileMap

variable {δ : Type} [BlockDevice δ] {v : DriveView δ} {drive : UInt8} {κ : Contents} {n k : Nat}
  {s : δ}

/-- **A call that finds a slot which is not counted may unbalance the counters**, by one; no
other call does, however it ends. -/
theorem run_balanced (hv : v.Fallible drive) (hsize : 1024 ≤ v.size.toNat)
    (h : KeepsAll v.size n κ) (hbalanced : Balanced v.size k κ) (c : FileCall) :
    v.Runs κ (c.run drive) (fun _ κ' => Balanced v.size (k + κ.overdraft c) κ')
      (fun _ κ' => Balanced v.size (k + κ.overdraft c) κ') := by
  obtain ⟨m, hm⟩ := h
  obtain ⟨freeBlocks, freeInodes, state, hκ⟩ := hm.mountable
  have hsame : Balanced v.size (k + κ.overdraft c) κ := hbalanced.mono (Nat.le_add_right k _)
  cases c with
  | allocate =>
    rcases allocate_cases hv hsize hκ hm.slots with ⟨-, hrefuses⟩ | ⟨i, hi, hperforms, hrefuses⟩
    · exact hrefuses.holds hsame
    have hfree : (κ.slot i).isFree = true := (hi.firstSlot (congrFun hm.slots)).free
    have hcost : (if freeInodes = 0 then 1 else 0) ≤ κ.overdraft .allocate := by
      have hinodes : κ.super.freeInodes = freeInodes := by rw [hκ.super]; rfl
      split
      · next hzero => rw [Contents.overdraft, if_pos ⟨rfl, hinodes.trans hzero, i, hfree⟩]
      · exact Nat.zero_le _
    by_cases hblocks : ∃ b, firstData v.size ≤ b ∧ b < blockCount v.size ∧ κ.used b = false
    · obtain ⟨b, hb⟩ := Contents.exists_firstBlock hblocks
      exact (hperforms b hb).always fun made hmade =>
        (hbalanced.allocation hκ hmade).mono (Nat.add_le_add_left hcost k)
    · refine (hrefuses fun b hdata hlt => ?_).holds hsame
      by_contra hunmarked
      exact hblocks ⟨b, hdata, hlt, Bool.eq_false_of_not_eq_true hunmarked⟩
  | release inode =>
    rcases release_cases hv hsize hκ hm.slots inode with ⟨i, b, -, hi, hperforms⟩ | ⟨-, hrefuses⟩
    · rw [hm.marked b (uses_iff.2 ⟨i, hi⟩)] at hperforms
      exact hperforms.always fun made hmade =>
        (hbalanced.releasing hκ hmade).mono (Nat.le_add_right k _)
    · exact hrefuses.holds hsame

/-- A drive that does not fail has room for a file in every slot. -/
theorem allocate_grows (hv : v.FaultFree drive) (hsize : 1024 ≤ v.size.toNat) (hs : v.Sound s)
    {m : FileMap v.size} (hκ : v.contents s = m.contents) (hcount : m.count < 128) :
    ∃ a s', FileCall.run drive .allocate s = .ok a s' ∧ v.Sound s'
      ∧ ∃ m' : FileMap v.size, v.contents s' = m'.contents ∧ m'.count = m.count + 1 := by
  rcases FileMap.allocate_cases hv hsize m.mountable_contents FileMap.slot_contents with
    ⟨hfull, -⟩ | ⟨i, hi, hperforms, -⟩
  · omega
  · obtain ⟨b, hb⟩ := m.exists_nextBlock (layout_ordered _ hsize)
    obtain ⟨a, s', hrun, -, hsound, hedits⟩ :=
      (hperforms b (hb.firstBlock FileMap.used_contents)).ok hs hκ
    exact ⟨a, s', hrun, hsound, m.insert i b hb.inData hb.fresh,
      hedits.trans (FileMap.contents_insert hi.free _ _), FileMap.count_insert hi.free⟩

/-- **As many files can be made as there are free slots.** -/
theorem session_grows (hv : v.FaultFree drive) (hsize : 1024 ≤ v.size.toNat) (hs : v.Sound s)
    {m : FileMap v.size} (hκ : v.contents s = m.contents) {n : Nat} (hcount : m.count + n ≤ 128) :
    ∃ s', FileCall.session drive (List.replicate n .allocate) s = (0, s') ∧ v.Sound s'
      ∧ ∃ m' : FileMap v.size, v.contents s' = m'.contents ∧ m'.count = m.count + n := by
  induction n generalizing s m with
  | zero => exact ⟨s, rfl, hs, m, hκ, rfl⟩
  | succ n ih =>
    obtain ⟨a, s', hrun, hs', m', hκ', hone⟩ := allocate_grows hv hsize hs hκ (by omega)
    obtain ⟨s'', hsession, hs'', m'', hκ'', hrest⟩ := ih hs' hκ' (by omega)
    refine ⟨s'', ?_, hs'', m'', hκ'', by omega⟩
    rw [List.replicate_succ, FileCall.session, hrun]
    exact hsession

variable (v drive) in
/-- What becomes of a new volume by calls of which any may fail at any point. Between two
calls the device may change in other ways than in what it holds. The number is that of the
allocations that took a slot which was not counted. -/
inductive Reached : Nat → δ → Prop
  | formatted {s s' : δ} {verify : Bool} {sb : Superblock} (hs : v.Sound s)
      (h : Volume.format drive verify s = .ok sb s') : Reached 0 s'
  | called {k : Nat} {s : δ} (h : Reached k s) (c : FileCall) :
      Reached (k + (v.contents s).overdraft c) (outcome (c.run drive s)).2
  | disturbed {k : Nat} {s t : δ} (h : Reached k s) (ht : v.Sound t)
      (hsame : v.contents t = v.contents s) : Reached k t

/-- What all these states have in common. -/
theorem Reached.accounted (hv : v.Fallible drive) (hsize : 1024 ≤ v.size.toNat)
    (h : v.Reached drive k s) :
    v.Sound s ∧ (∃ n, KeepsAll v.size n (v.contents s)) ∧ Balanced v.size k (v.contents s) := by
  induction h with
  | @formatted s s' verify sb hs h =>
    have hrun := (Volume.format_runs hv hsize verify).ends s hs rfl
    rw [h] at hrun
    obtain ⟨hsound, -, hblank⟩ := hrun
    rw [hblank]
    exact ⟨hsound, ⟨0, keepsAll_blank v.size⟩, .blank v.size⟩
  | @called k s h c ih =>
    obtain ⟨hs, ⟨n, hkeeps⟩, hbalanced⟩ := ih
    have hkeeps' := (run_keeps hv hsize hkeeps c).ends s hs rfl
    have hbalanced' := (run_balanced hv hsize hkeeps hbalanced c).ends s hs rfl
    cases hresult : c.run drive s with
    | ok a t =>
      rw [hresult] at hkeeps' hbalanced'
      exact ⟨hkeeps'.1, ⟨n, hkeeps'.2⟩, hbalanced'.2⟩
    | error e t =>
      rw [hresult] at hkeeps' hbalanced'
      exact ⟨hkeeps'.1, ⟨n + 1, hkeeps'.2⟩, hbalanced'.2⟩
  | disturbed h ht hsame ih =>
    rw [hsame]
    exact ⟨ht, ih.2⟩

/-- **Where a check finds nothing, few blocks are leaked**: no more than there were
allocations that took a slot which was not counted. -/
theorem check_bounds_leaks (hv : v.Fallible drive) (hsize : 1024 ≤ v.size.toNat)
    (h : v.Reached drive k s) {report : CheckReport} {t : δ}
    (hcheck : Volume.check drive s = .ok report t) (hproblems : report.problems = []) :
    ((v.contents s).unowned v.size).card ≤ k := by
  obtain ⟨hs, ⟨n, m, hm⟩, hbalanced⟩ := h.accounted hv hsize
  obtain ⟨freeBlocks, freeInodes, state, hκ⟩ := hm.mountable
  have hrun := (Volume.check_performs hv hsize hκ).ends s hs rfl
  rw [hcheck] at hrun
  obtain ⟨-, ⟨bitmap, -, hcount, heq⟩, -⟩ := hrun
  rw [hproblems] at heq
  obtain ⟨⟨⟨-, hblocks⟩, hinodes⟩, -⟩ := Volume.problems_nil_iff.1 heq.symm
  -- the counters are right, so the recorded blocks are the marked ones
  have hmarks : freeBlocks.toNat + (List.range (blockCount v.size)).countP (v.contents s).used
      = blockCount v.size := by
    have htotal : blockCount v.size < 2 ^ 32 := (forSize v.size).totalBlocks.toNat_lt
    have hle : (List.range (blockCount v.size)).countP (v.contents s).used ≤ blockCount v.size :=
      List.countP_le_length.trans (by rw [List.length_range])
    have hfree : freeBlocks = bitmap.freeCount := hblocks
    rw [hfree, hcount, UInt32.toNat_sub_of_le, UInt32.toNat_ofNat_of_lt' htotal,
      UInt32.toNat_ofNat_of_lt' (show _ < 2 ^ 32 by omega)]
    · omega
    · rw [UInt32.le_iff_toNat_le, UInt32.toNat_ofNat_of_lt' htotal,
        UInt32.toNat_ofNat_of_lt' (show _ < 2 ^ 32 by omega)]
      exact hle
  -- and the recorded files those in the slots
  have hfiles : freeInodes.toNat = 128 - m.count := by
    have hfree : freeInodes = (IndexTable.ofSlots (v.contents s).slot).freeCount := hinodes
    rw [Volume.freeInodes_counted_iff, hm.slots, m.countP_isFree] at hfree
    exact hfree
  have hleaked := hm.card_leaked
  have hfew := m.count_le
  rw [Balanced, hκ.super] at hbalanced
  simp only [counted] at hbalanced
  calc ((v.contents s).unowned v.size).card
      ≤ (m.leaked (v.contents s)).card :=
        Finset.card_le_card (hm.unowned_subset (layout_ordered _ hsize))
    _ ≤ k := by omega

/-- Of two calls the first one fails, at its first read. -/
theorem check_bounds_leaks_flaky :
    ∃ s₁ s₂ s₃ a report t, Volume.format 0 false
        (Flaky.blank 1024 [none, none, none, some 0]) = .ok (forSize 1024) s₁
      ∧ FileCall.run 0 .allocate s₁ = .error (.io .timeout) s₂
      ∧ FileCall.run 0 .allocate s₂ = .ok a s₃
      ∧ Volume.check 0 s₃ = .ok report t ∧ report.problems = []
      ∧ (((Flaky.view 1024).contents s₃).unowned 1024).card ≤ 0 := by
  have hv := Flaky.view_fallible 1024 0
  have hcalm := Flaky.calm_faultFree 1024 0
  have hs := Flaky.sound_blank 1024 [none, none, none, some 0]
  obtain ⟨s₁, hformat, s₂, hcut, hs₂, hsame⟩ : ∃ s₁, Volume.format 0 false
        (Flaky.blank 1024 [none, none, none, some 0]) = .ok (forSize 1024) s₁
      ∧ ∃ s₂, FileCall.run 0 .allocate s₁ = .error (.io .timeout) s₂
      ∧ (Flaky.calm 1024).Sound s₂ ∧ (Flaky.view 1024).contents s₂ = (Flaky.view 1024).contents s₁ :=
    ⟨_, rfl, _, rfl, ⟨rfl, rfl⟩, rfl⟩
  have hblank : (Flaky.view 1024).contents s₁ = .blank 1024 := by
    have hrun := (Volume.format_runs hv (by decide) false).ends _ hs rfl
    rw [hformat] at hrun
    exact hrun.2.2
  obtain ⟨a, s₃, hrun, hs₃, m, hκ, -⟩ := allocate_grows hcalm (by decide) hs₂
    ((hsame.trans hblank).trans FileMap.contents_empty.symm)
    (show (FileMap.empty 1024).count < 128 by rw [FileMap.count_empty]; decide)
  obtain ⟨report, t, hcheck, hclean⟩ := (reflects_of_contents hcalm (by decide) hs₃ hκ).check
  have hstart : (Flaky.view 1024).Reached 0 0 s₁ := .formatted hs hformat
  have hreached := (hstart.called .allocate).called .allocate
  have hcounted : ¬ (Contents.blank 1024).Overdrawn := by
    rintro ⟨hzero, -⟩
    exact absurd hzero (by decide)
  rw [hcut, outcome, hrun, outcome, hsame, hblank, Contents.overdraft,
    if_neg fun h => hcounted h.2] at hreached
  exact ⟨s₁, s₂, s₃, a, report, t, hformat, hcut, hrun, hcheck, hclean,
    check_bounds_leaks hv (by decide) hreached hcheck hclean⟩

end DriveView

/-! ## §4 A machine of which a sector goes bad for a while -/

/-- The disk with other bad sectors. -/
def Drive.damaged (d : Drive) (bad : List UInt32) : Drive :=
  { d with faults := { d.faults with badSectors := bad } }

/-- The sectors that then work. -/
def Drive.spared (d : Drive) (bad : List UInt32) (j : Nat) : Prop :=
  j < 2 ^ 28 ∧ j < d.medium.capacity ∧ bad.contains (UInt32.ofNat j) = false

namespace Disks

/-- The machine with other bad sectors on its first disk. -/
def damaged (bad : List UInt32) (s : Disks Bus) : Disks Bus :=
  ((Event.fault 0 fun faults => { faults with badSectors := bad }).occur s).2

variable {d : Drive} {s : Disks Bus}

/-- The disk holds what it held. -/
theorem holds_damaged (h : Carries (Controller.single 1024) .primary .master d s)
    (hd : d.Responsive) (hfaithful : d.faults.corruptWrites = false) (bad : List UInt32) :
    (aloneView (d.spared bad)).Holds d.medium.content (damaged bad s) := by
  have hdrive : (damaged bad s).machine.drive? 0 = some (d.damaged bad) := by
    have hfound : s.machine.drive? 0 = some d := h.drive
    have hrefault := Event.drive?_refault s.machine 0
      (fun faults => { faults with badSectors := bad }) 0
    rw [if_pos (show (0 : Slot).val = (0 : UInt8).toNat from rfl), hfound] at hrefault
    exact hrefault
  have hlatency : (damaged bad s).machine.latency ≤ (Controller.single 1024).pollBudget.toNat :=
    Nat.le_trans (Nat.le_of_eq (Event.latency_refault _ _ _)) h.latency
  have hworks : (d.damaged bad).WorksOn (d.spared bad) :=
    ⟨⟨hd.kind, hd.free, hd.sound⟩, hfaithful, fun _ => Iff.rfl⟩
  show (aloneView _).Holds (d.damaged bad).medium.content _
  exact holds_partView ⟨h.controller, hdrive, hlatency⟩ hworks

end Disks

namespace Volume

/-- Without bad sectors all areas of a small volume work. -/
theorem works_spared {sb : Superblock} (hbitmap : sb.bitmapSectors.toNat = 1)
    (htable : sb.inodeTableLba.toNat = 3) {d : Drive} (hd : 130 < d.medium.capacity) :
    Works (d.spared []) sb := by
  have hall : ∀ j, j < 131 → d.spared [] j := fun j hj => ⟨by omega, by omega, rfl⟩
  exact ⟨hall 1 (by decide), fun j _ hj => hall j (by omega), fun j _ hj => hall j (by omega)⟩

/-- With a bad sector the others of these areas do. -/
theorem spared_other {d : Drive} (hd : 131 ≤ d.medium.capacity) {bad : UInt32} {j : Nat}
    (hj : j < 131) (hne : j ≠ bad.toNat) : d.spared [bad] j := by
  refine ⟨by omega, by omega, ?_⟩
  have hnat : UInt32.ofNat j ≠ bad := by
    intro h
    rw [← UInt32.toNat_inj, UInt32.toNat_ofNat_of_lt' (show j < 2 ^ 32 by omega)] at h
    exact hne h
  simpa using hnat

/-- The volume on the machine has a marked block in which no file is. -/
def HasLeak (s : Disks Bus) : Prop :=
  ∃ sb t bitmap u files w block, mount 0 s = .ok sb t ∧ readBitmap 0 sb s = .ok bitmap u
    ∧ listFiles 0 s = .ok files w ∧ block < sb.totalBlocks ∧ bitmap.isUsed block = true
    ∧ ∀ f ∈ files, sb.lbaBlock f.2.firstBlock ≠ block

/-- On a full volume the release of the first file is cut, and then another file is made. -/
theorem check_overlooks_release {m : FileMap 1024} (hcount : m.count = 128) {d : Drive}
    {s : Disks Bus} (hs : Disks.Carries (Controller.single 1024) .primary .master d s)
    (hd : d.Faultless 1024) (hκ : Contents.of 1024 d.medium.content = m.contents) :
    ∃ e s₁ a s₂, FileCall.run 0 (.release 0) (Disks.damaged [2] s) = .error (.io e) s₁
      ∧ FileCall.run 0 .allocate (Disks.damaged [] s₁) = .ok a s₂
      ∧ (∃ report t, check 0 s₂ = .ok report t ∧ report.problems = []) ∧ HasLeak s₂ := by
  have hlarge := hd.large
  have htidy := tidy_of_contents (by decide) hκ
  have hunder : Contents.under m.contents.super d.medium.content = m.contents := hκ
  have hfull : ∀ i, ((Contents.under m.contents.super d.medium.content).slot i).isFree = false := by
    intro i
    obtain ⟨b, hb⟩ := Option.ne_none_iff_exists'.1 (FileMap.count_eq_iff.1 hcount i)
    rw [hunder, FileMap.slot_contents, FileMap.record_of_some hb, Index.isFree_fileAt]
  obtain ⟨block, hblock⟩ : ∃ block, FirstFree m.contents.super
      (Contents.under m.contents.super d.medium.content) block := by
    rw [hunder]
    exact m.exists_firstFree (layout_ordered 1024 (by decide))
  have hbitmap : m.contents.super.bitmapSectors.toNat = 1 :=
    show (forSize 1024).bitmapSectors.toNat = 1 by decide
  have htable : m.contents.super.inodeTableLba.toNat = 3 :=
    show (forSize 1024).inodeTableLba.toNat = 3 by decide
  -- from here on it does not matter where the files are
  generalize m.contents.super = sb at *
  have hspared : ∀ j, j < 131 → j ≠ 2 → d.spared [2] j :=
    fun j hj (hne : j ≠ (2 : UInt32).toNat) => spared_other (by omega) hj hne
  have hrelease : Fails _ (FileCall.run 0 (.release 0)) _ _ :=
    (release_cut (Disks.aloneView_serves fun h => h.1) Disks.aloneView_guards htidy.mounts
      (hspared 1 (by decide) (by decide))
      (fun j hj hj' => hspared j (by omega) (by omega))
      (fun hgood => absurd (hgood 2 (by decide) (by omega)).2.2 (by decide)) (hfull 0)).bind
  obtain ⟨_, s₁, hcut, ⟨e, rfl⟩, hs₁⟩ :=
    hrelease _ (Disks.holds_damaged hs hd.responsive hd.faithful [2])
  -- the sector is good again, and all areas work
  obtain ⟨d₁, hcarries, hworks, hcontent⟩ := Disks.exists_of_holds hs₁
  have hv : (Disks.aloneView (d₁.spared [])).Serves 0 (d₁.spared []) :=
    Disks.aloneView_serves fun h => h.1
  have hw : Works (d₁.spared []) sb :=
    works_spared hbitmap htable ((hworks.good_iff 130).1 (hspared 130 (by decide) (by decide))).2.1
  have hw' : Works (d₁.spared []) (charged sb) := ⟨hw.super, hw.bitmap, hw.table⟩
  have hs₁' := Disks.holds_damaged hcarries hworks.responsive hworks.faithful []
  rw [← hcontent] at hs₁'
  have hm := mounts_vacated htidy.mounts 0
  obtain ⟨s₂, hallocate, hs₂⟩ := allocate_succeeds hv hm ⟨hw.super, hw.bitmap, hw.table⟩
    (firstSlot_vacated htidy.mounts hfull) (firstFree_vacated htidy.mounts hblock 0) _ hs₁'
  obtain ⟨hclean, hused, hlost⟩ := htidy.overlooks hfull hblock 0
  have hm' : Mounts _ (charged sb) := hm.charged 0 block
  obtain ⟨t, hcheck, -⟩ := check_succeeds hv hm' hw' s₂ hs₂
  obtain ⟨t₁, hmount, -⟩ := mount_succeeds hv hw'.super hm' s₂ hs₂
  obtain ⟨t₂, hread, -⟩ := readBitmap_succeeds hm'.laidOut hv hw'.bitmap s₂ hs₂
  obtain ⟨t₃, hlist, -⟩ := listFiles_succeeds hv hm' hw' s₂ hs₂
  have hrun : FileCall.run 0 .allocate (Disks.damaged [] s₁) = .ok _ s₂ :=
    bind_run_eq_ok.2 ⟨_, _, hallocate, rfl⟩
  exact ⟨e, s₁, _, s₂, hcut, hrun, ⟨_, t, hcheck, hclean⟩, charged sb, t₁, _, t₂, _, t₃,
    blockOf sb d.medium.content 0, hmount, hread, hlist, (htidy.consistent.files 0 (hfull 0)).lt, hused,
    hlost⟩

/-- **A check may overlook a leaked block**, after two calls of which the first one failed. -/
theorem check_overlooks :
    ∃ s₁ s₂ e s₃ a s₄, Call.run 0 (.format true) (Disks.alone (.blankWith 1024 {}))
        = .ok (.formatted (forSize 1024)) s₁
      ∧ FileCall.session 0 (List.replicate 128 .allocate) s₁ = (0, s₂)
      ∧ FileCall.run 0 (.release 0) (Disks.damaged [2] s₂) = .error (.io e) s₃
      ∧ FileCall.run 0 .allocate (Disks.damaged [] s₃) = .ok a s₄
      ∧ (∃ report t, check 0 s₄ = .ok report t ∧ report.problems = []) ∧ HasLeak s₄ := by
  have hv := Disks.single_faultFree
  have hfaultless : (Drive.blankWith 1024 {}).Faultless 1024 :=
    ⟨⟨rfl, rfl, rfl⟩, rfl, by decide, fun _ _ => rfl⟩
  have hs : (Disks.view (Controller.single 1024) .primary .master 1024).Sound
      (Disks.alone (.blankWith 1024 {})) := ⟨_, ⟨rfl, rfl, by decide⟩, hfaultless⟩
  obtain ⟨s₁, hformat, hs₁, hκ₁⟩ := DriveView.format_refines hv (by decide) hs true
  obtain ⟨s₂, hsession, ⟨d, hcarries, hd⟩, m, hκ₂, hcount⟩ :=
    DriveView.session_grows hv (by decide) hs₁ hκ₁
      (show (FileMap.empty 1024).count + 128 ≤ 128 by rw [FileMap.count_empty])
  rw [DriveView.contents, Disks.image_view hcarries] at hκ₂
  obtain ⟨e, s₃, a, s₄, hrest⟩ := check_overlooks_release
    (hcount.trans (congrArg (· + 128) FileMap.count_empty)) hcarries hd hκ₂
  exact ⟨s₁, s₂, e, s₃, a, s₄, hformat, hsession, hrest⟩

end Volume

end AtaVolume
