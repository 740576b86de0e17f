/-
AtaVolume.Proofs.Volume.Refinement — a session on a drive without faults is a
walk from one map of files to the next.

The invariant is that the drive tells exactly the contents of the map
(`FileMap.contents`). A new volume establishes it, whatever was on the drive; the
other calls keep it, and from it everything follows that can be seen of a volume
between two calls (`Reflects`).
-/
import AtaVolume.Proofs.Bus.DiskStores
import AtaVolume.Proofs.Volume.Sessions

namespace AtaVolume

open Superblock

namespace FileMap

variable {size : UInt32} {m : FileMap size}

/-! ## §1 What is listed and checked -/

theorem used_ofSlots_record (m : FileMap size) : (IndexTable.ofSlots m.record).used = m.entries := by
  rw [IndexTable.used_ofSlots, entries]
  apply List.filterMap_congr
  intro i _
  cases h : m.block i with
  | none => simp [record_of_none h, Index.isFree_vacant]
  | some b => simp [record_of_some h]

theorem mem_entries {entry : UInt32 × Index} (h : entry ∈ m.entries) :
    ∃ i b, m.block i = some b ∧ entry = (UInt32.ofNat i.val, Index.fileAt size b) := by
  obtain ⟨i, -, hi⟩ := List.mem_filterMap.1 h
  obtain ⟨b, hb, rfl⟩ := Option.map_eq_some_iff.1 hi
  exact ⟨i, b, hb, rfl⟩

/-- A file in a marked block of the data area is in order. -/
theorem fileProblem_eq_none (h : Ordered size) {bitmap : BlockBitmap}
    (hbitmap : bitmap.Agrees size m.uses) {i : Fin 128} {b : Nat} (hi : m.block i = some b)
    {freeBlocks freeInodes : UInt32} {state : UInt8} (inode : UInt32) :
    Volume.fileProblem (counted size freeBlocks freeInodes state) bitmap inode
      (Index.fileAt size b) = none := by
  obtain ⟨hdata, hlt⟩ := m.inData hi
  have hnat := toNat_block hlt
  have hkind : IndexKind.ofTag? (Index.fileAt size b).kind = some .regular := rfl
  have hinside : ¬ (UInt32.ofNat b < (counted size freeBlocks freeInodes state).dataStartBlock
      ∨ (counted size freeBlocks freeInodes state).totalBlocks ≤ UInt32.ofNat b) := by
    rw [UInt32.lt_iff_toNat_lt, UInt32.le_iff_toNat_le, hnat]
    show ¬ (b < firstData size ∨ blockCount size ≤ b)
    omega
  have hmarked : bitmap.isUsed (UInt32.ofNat b) = true := by
    rw [hbitmap.isUsed_eq (by rw [hnat]; exact hlt), hnat]
    exact uses_iff.2 ⟨i, hi⟩
  simp only [Volume.fileProblem, hkind, lbaBlock_counted h hlt, if_neg hinside, hmarked, if_true]

/-- **A volume without a change under way agrees with itself.** -/
theorem problems_eq_nil (h : Ordered size) (m : FileMap size) {bitmap : BlockBitmap}
    (hbitmap : bitmap.Agrees size m.uses)
    (hfree : bitmap.freeCount = UInt32.ofNat (blockCount size)
      - UInt32.ofNat ((List.range (blockCount size)).countP m.uses)) :
    Volume.problems m.contents.super bitmap (.ofSlots m.record) = [] := by
  have hcount := m.count_le
  have hroom := h.room
  have htotal : blockCount size < 2 ^ 32 := (forSize size).totalBlocks.toNat_lt
  have hblocks : UInt32.ofNat (blockCount size - m.count) = bitmap.freeCount := by
    have hle : UInt32.ofNat m.count ≤ UInt32.ofNat (blockCount size) := by
      rw [UInt32.le_iff_toNat_le, UInt32.toNat_ofNat_of_lt' (show m.count < 2 ^ 32 by omega),
        UInt32.toNat_ofNat_of_lt' htotal]
      omega
    rw [hfree, countP_uses, ← UInt32.toNat_inj, UInt32.toNat_sub_of_le _ _ hle,
      UInt32.toNat_ofNat_of_lt' (show m.count < 2 ^ 32 by omega), UInt32.toNat_ofNat_of_lt' htotal,
      UInt32.toNat_ofNat_of_lt' (show blockCount size - m.count < 2 ^ 32 by omega)]
  have hinodes : UInt32.ofNat (128 - m.count) = (IndexTable.ofSlots m.record).freeCount := by
    rw [IndexTable.freeCount_ofSlots, countP_isFree]
  have hfiles : ∀ entry ∈ (IndexTable.ofSlots m.record).used,
      Volume.fileProblem m.contents.super bitmap entry.1 entry.2 = none := by
    intro entry hentry
    rw [used_ofSlots_record] at hentry
    obtain ⟨i, b, hi, rfl⟩ := mem_entries hentry
    exact fileProblem_eq_none h hbitmap hi _
  unfold Volume.problems
  rw [List.filterMap_eq_nil_iff.2 hfiles]
  simp [contents, counted, Volume.problemIf, hblocks, hinodes]

end FileMap

/-! ## §2 Between two calls -/

namespace DriveView

variable {δ : Type} [BlockDevice δ] (v : DriveView δ)

/-- What can be seen of a volume with these files. -/
structure Reflects (drive : UInt8) (m : FileMap v.size) (s : δ) : Prop where
  sound : v.Sound s
  /-- The files are listed in the order of their slots. -/
  files : ∃ s', Volume.listFiles drive s = .ok m.entries s'
  /-- The bits of the bitmap are those of the files' blocks. -/
  marked : ∀ b, b < blockCount v.size →
    (BlockBitmap.bit ((v.image s).bytes 2 (bitmapSpan v.size)) b = true ↔ ∃ i, m.block i = some b)
  /-- The superblock is that of a new volume, with the counters of these files. -/
  super : Superblock.decode (v.image s 1).toBytes
    = { forSize v.size with
        freeInodes := UInt32.ofNat (128 - m.count)
        freeBlocks := UInt32.ofNat (blockCount v.size - m.count)
        state := stateClean }
  /-- A check finds nothing. -/
  check : ∃ r s', Volume.check drive s = .ok r s' ∧ r.problems = []

/-- The answer of a call and the device after it. -/
def outcome {α : Type} : EStateM.Result VolumeError δ α → Except VolumeError α × δ
  | .ok a s => (.ok a, s)
  | .error e s => (.error e, s)

/-- **Calls follow the files.** Each call of the session answers as it must from
the files there are, and the volume reflects the files there are afterwards. -/
def Refines (drive : UInt8) : FileMap v.size → δ → List Call → Prop
  | _, _, [] => True
  | m, s, c :: calls =>
    let (answer, s') := outcome (c.run drive s)
    ∃ m', m.Step c answer m' ∧ v.Reflects drive m' s' ∧ Refines drive m' s' calls

variable {v} {drive : UInt8} {m : FileMap v.size} {s : δ}

theorem reflects_of_contents (hv : v.FaultFree drive) (hsize : 1024 ≤ v.size.toNat)
    (hs : v.Sound s) (hκ : v.contents s = m.contents) : v.Reflects drive m s := by
  have h := layout_ordered _ hsize
  have hmount := m.mountable_contents
  refine ⟨hs, ?_, fun b hb => ?_, ?_, ?_⟩
  · obtain ⟨files, s', hrun, rfl, -⟩ := (Volume.listFiles_performs hv hsize hmount).ok hs hκ
    rw [FileMap.slot_contents, FileMap.used_ofSlots_record] at hrun
    exact ⟨s', hrun⟩
  · have hbit : BlockBitmap.bit ((v.image s).bytes 2 (bitmapSpan v.size)) b = m.uses b := by
      rw [← FileMap.used_contents, ← hκ]
      simp [contents, Contents.of, hb]
    rw [hbit, FileMap.uses_iff]
  · have hsuper : Superblock.decode (v.image s 1).toBytes = m.contents.super := by
      rw [← hκ]
      rfl
    exact hsuper
  · obtain ⟨r, s', hrun, ⟨bitmap, hbitmap, hfree, hproblems⟩, -⟩ :=
      (Volume.check_performs hv hsize hmount).ok hs hκ
    rw [FileMap.used_contents] at hbitmap hfree
    rw [FileMap.slot_contents, ← hmount.super, m.problems_eq_nil h hbitmap hfree] at hproblems
    exact ⟨r, s', hrun, hproblems⟩

/-! ## §3 Steps and sessions -/

/-- A new volume is made on any drive. -/
theorem format_refines (hv : v.FaultFree drive) (hsize : 1024 ≤ v.size.toNat) (hs : v.Sound s)
    (verify : Bool) :
    ∃ s', Call.run drive (.format verify) s = .ok (.formatted (forSize v.size)) s' ∧ v.Sound s'
      ∧ v.contents s' = (FileMap.empty v.size).contents := by
  have hrun := (Volume.format_runs hv hsize verify).ends s hs rfl
  simp only [Call.run, bind, EStateM.bind]
  cases hresult : Volume.format drive verify s with
  | error e s' =>
    rw [hresult] at hrun
    exact hrun.2.elim
  | ok sb s' =>
    rw [hresult] at hrun
    obtain ⟨hsound, rfl, hblank⟩ := hrun
    exact ⟨s', rfl, hsound, by rw [hblank, FileMap.contents_empty]⟩

theorem allocate_refines (hv : v.FaultFree drive) (hsize : 1024 ≤ v.size.toNat) (hs : v.Sound s)
    (hκ : v.contents s = m.contents) :
    ∃ m', m.Step (.file .allocate) (outcome (FileCall.run drive .allocate s)).1 m'
      ∧ v.Sound (outcome (FileCall.run drive .allocate s)).2
      ∧ v.contents (outcome (FileCall.run drive .allocate s)).2 = m'.contents := by
  rcases FileMap.allocate_cases hv hsize m.mountable_contents FileMap.slot_contents with
    ⟨hfull, hrefuses⟩ | ⟨i, hi, hperforms, -⟩
  · obtain ⟨s', hrun, hsound, hsame⟩ := hrefuses.error hs hκ
    rw [hrun]
    exact ⟨m, .full hfull, hsound, hsame⟩
  · obtain ⟨b, hb⟩ := m.exists_nextBlock (layout_ordered _ hsize)
    obtain ⟨a, s', hrun, rfl, hsound, hedits⟩ :=
      (hperforms b (hb.firstBlock FileMap.used_contents)).ok hs hκ
    rw [hrun]
    exact ⟨_, .allocate hi hb, hsound, hedits.trans (FileMap.contents_insert hi.free _ _)⟩

theorem release_refines (hv : v.FaultFree drive) (hsize : 1024 ≤ v.size.toNat) (hs : v.Sound s)
    (hκ : v.contents s = m.contents) (inode : UInt32) :
    ∃ m', m.Step (.file (.release inode)) (outcome (FileCall.run drive (.release inode) s)).1 m'
      ∧ v.Sound (outcome (FileCall.run drive (.release inode) s)).2
      ∧ v.contents (outcome (FileCall.run drive (.release inode) s)).2 = m'.contents := by
  rcases FileMap.release_cases hv hsize m.mountable_contents FileMap.slot_contents inode with
    ⟨i, b, hinode, hi, hperforms⟩ | ⟨hnone, hrefuses⟩
  · have hmarked : m.contents.used b = true := by
      rw [FileMap.used_contents]
      exact FileMap.uses_iff.2 ⟨i, hi⟩
    obtain ⟨a, s', hrun, rfl, hsound, hedits⟩ := hperforms.ok hs hκ
    rw [hmarked] at hedits
    rw [hrun]
    exact ⟨_, .release hinode hi, hsound,
      hedits.trans (FileMap.contents_erase (layout_ordered _ hsize) hi)⟩
  · obtain ⟨s', hrun, hsound, hsame⟩ := hrefuses.error hs hκ
    rw [hrun]
    exact ⟨m, .invalid hnone, hsound, hsame⟩

/-- One call. -/
theorem call_refines (hv : v.FaultFree drive) (hsize : 1024 ≤ v.size.toNat) (hs : v.Sound s)
    (hκ : v.contents s = m.contents) (c : Call) :
    ∃ m', m.Step c (outcome (c.run drive s)).1 m' ∧ v.Sound (outcome (c.run drive s)).2
      ∧ v.contents (outcome (c.run drive s)).2 = m'.contents := by
  cases c with
  | format verify =>
    obtain ⟨s', hrun, hsound, hempty⟩ := format_refines hv hsize hs verify
    rw [hrun]
    exact ⟨_, .format m verify, hsound, hempty⟩
  | file call =>
    cases call with
    | allocate => exact allocate_refines hv hsize hs hκ
    | release inode => exact release_refines hv hsize hs hκ inode

/-- Calls on a volume whose contents are those of a map. -/
theorem calls_refine (hv : v.FaultFree drive) (hsize : 1024 ≤ v.size.toNat) (hs : v.Sound s)
    (hκ : v.contents s = m.contents) (calls : List Call) : v.Refines drive m s calls := by
  induction calls generalizing m s with
  | nil => exact trivial
  | cons c calls ih =>
    obtain ⟨m', hstep, hsound, hcontents⟩ := call_refines hv hsize hs hκ c
    exact ⟨m', hstep, reflects_of_contents hv hsize hsound hcontents, ih hsound hcontents⟩

/-- **Every session follows the files.** On a drive of at least 1024 sectors that
does not fail, whatever it holds, a session that starts by making a volume goes
from one map of files to the next as its calls say, and between two calls the
list of files, the bitmap, the superblock and the check agree with the map. -/
theorem session_refines (hv : v.FaultFree drive) (hsize : 1024 ≤ v.size.toNat) (hs : v.Sound s)
    (verify : Bool) (calls : List Call) :
    v.Refines drive (.empty v.size) s (.format verify :: calls) := by
  obtain ⟨s', hrun, hsound, hempty⟩ := format_refines hv hsize hs verify
  rw [Refines, hrun]
  exact ⟨_, .format _ verify, reflects_of_contents hv hsize hsound hempty,
    calls_refine hv hsize hsound hempty calls⟩

/-- A session on an emulated disk: two files are made, the first one is freed, and
there is nothing more to free in its slot. -/
theorem session_refines_single :
    (Disks.view (Controller.single 1024) .primary .master 1024).Refines 0 (.empty 1024)
      ⟨Controller.single 1024, Bus.single (.blankWith 1024 {})⟩
      [.format true, .file .allocate, .file .allocate, .file (.release 0), .file (.release 0)] := by
  have hfaultless : (Drive.blankWith 1024 {}).Faultless 1024 :=
    ⟨⟨rfl, rfl, rfl⟩, rfl, by decide, fun _ _ => rfl⟩
  exact session_refines Disks.single_faultFree (by decide) ⟨_, ⟨rfl, rfl, by decide⟩, hfaultless⟩ true
    [.file .allocate, .file .allocate, .file (.release 0), .file (.release 0)]

end DriveView

end AtaVolume
