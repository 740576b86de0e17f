/-
AtaVolume.Proofs.Volume.Inspection — what a check and the two ways to look files up tell.

Nothing is assumed about where a volume comes from: it can be mounted, and its drive has no
faults and the sectors in front of the data. A check then counts the clear bits and the
free slots, and has one problem for each reason to have one: the state, a counter that is
off, a slot that is taken by anything but a file in a marked block of the data area
(`Reports`). A slot that has more than one thing wrong with it still makes one problem.

The files can be listed from the table as a whole or be looked up slot by slot. Both find
the same records (`lookups_agree`), and the slots that are not listed are those that a check
counts as free.
-/
import AtaVolume.Proofs.Volume.Consistency
import AtaVolume.Proofs.Volume.ReleaseEffect

namespace AtaVolume

/-- The slot that a problem is about, if it is about one. -/
def Problem.inode? : Problem → Option UInt32
  | .kind inode _ | .outside inode _ | .markedFree inode _ => some inode
  | .unfinished _ | .freeBlocks .. | .freeInodes .. => none

namespace Volume

variable {sb : Superblock} {m : Sectors} {i : Fin 128}

/-! ## §1 Slots that are out of order -/

instance (sb : Superblock) (κ : Contents) (r : Index) : Decidable (InOrder sb κ r) :=
  decidable_of_iff
    (r.kind = IndexKind.regular.tag ∧ sb.dataStartBlock ≤ sb.lbaBlock r.firstBlock
      ∧ sb.lbaBlock r.firstBlock < sb.totalBlocks
      ∧ κ.used (sb.lbaBlock r.firstBlock).toNat = true)
    ⟨fun ⟨kind, data, lt, marked⟩ => ⟨kind, data, lt, marked⟩,
      fun h => ⟨h.kind, h.data, h.lt, h.marked⟩⟩

/-- The slot is not free, and does not hold a file in a marked block of the data area. -/
def Faulty (sb : Superblock) (m : Sectors) (i : Fin 128) : Prop :=
  (recordAt sb m i).kind ≠ 0 ∧ ¬ InOrder sb (Contents.under sb m) (recordAt sb m i)

instance (sb : Superblock) (m : Sectors) : DecidablePred (Faulty sb m) :=
  fun _ => inferInstanceAs (Decidable (_ ∧ _))

/-- What a check has to say about a slot. -/
def slotProblem (sb : Superblock) (m : Sectors) (i : Fin 128) : Option Problem :=
  if (recordAt sb m i).isFree then none
  else fileProblem sb (bitmapOf sb m) (UInt32.ofNat i.val) (recordAt sb m i)

theorem isSome_slotProblem : (slotProblem sb m i).isSome = true ↔ Faulty sb m i := by
  unfold slotProblem Faulty
  by_cases hfree : (recordAt sb m i).isFree = true
  · rw [if_pos hfree]
    exact ⟨fun h => (nomatch h), fun h => absurd (isFree_recordAt.1 hfree) h.1⟩
  · have hproblem : fileProblem sb (bitmapOf sb m) (UInt32.ofNat i.val) (recordAt sb m i) = none
        ↔ InOrder sb (Contents.under sb m) (recordAt sb m i) :=
      fileProblem_eq_none_iff (Bool.eq_false_of_not_eq_true hfree) _
    rw [if_neg hfree, Option.isSome_iff_ne_none, Ne, hproblem]
    exact ⟨fun h => ⟨fun hkind => hfree (isFree_recordAt.2 hkind), h⟩, fun h => h.2⟩

/-- What is said about a slot names it. -/
theorem inode?_slotProblem {p : Problem} (h : slotProblem sb m i = some p) :
    p.inode? = some (UInt32.ofNat i.val) := by
  obtain ⟨-, hfile⟩ := Option.ite_none_left_eq_some.1 h
  unfold fileProblem at hfile
  cases hkind : IndexKind.ofTag? (recordAt sb m i).kind with
  | none =>
    rw [hkind] at hfile
    cases hfile
    rfl
  | some kind =>
    simp only [hkind] at hfile
    split at hfile
    · cases hfile
      rfl
    · obtain ⟨-, hmarked⟩ := Option.ite_none_left_eq_some.1 hfile
      cases hmarked
      rfl

/-- The files are checked slot by slot. -/
theorem filterMap_fileProblem (sb : Superblock) (m : Sectors) :
    ((IndexTable.ofSlots (Contents.under sb m).slot).used.filterMap fun (inode, record) =>
        fileProblem sb (bitmapOf sb m) inode record)
      = (List.finRange 128).filterMap (slotProblem sb m) := by
  rw [IndexTable.used_ofSlots, List.filterMap_filterMap]
  congr 1
  funext i
  unfold slotProblem
  show (if (recordAt sb m i).isFree then none else some (UInt32.ofNat i.val, recordAt sb m i)).bind _
    = _
  split <;> rfl

/-! ## §2 Counting problems -/

theorem length_problemIf (p : Bool) (problem : Problem) :
    (problemIf p problem).length = if p then 1 else 0 := by
  cases p <;> rfl

/-- A problem of the volume as a whole is about no slot. -/
theorem countP_problemIf {p : Bool} {problem : Problem} (h : problem.inode? = none)
    (inode : UInt32) : (problemIf p problem).countP (·.inode? == some inode) = 0 := by
  cases p <;> simp [problemIf, h]

/-- There is one problem about a slot that is out of order, and none about any other. -/
theorem countP_slotProblem (sb : Superblock) (m : Sectors) (i : Fin 128) :
    ((List.finRange 128).filterMap (slotProblem sb m)).countP
        (·.inode? == some (UInt32.ofNat i.val))
      = if Faulty sb m i then 1 else 0 := by
  have hnames : ∀ j, ((slotProblem sb m j).map
        (·.inode? == some (UInt32.ofNat i.val))).getD false = true
      ↔ Faulty sb m j ∧ j = i := by
    intro j
    rw [← isSome_slotProblem]
    cases hproblem : slotProblem sb m j with
    | none => simp
    | some p =>
      simp only [Option.map_some, Option.getD_some, inode?_slotProblem hproblem, beq_iff_eq,
        Option.some_inj, Option.isSome_some, true_and]
      exact ⟨IndexTable.slot_injective, fun h => by rw [h]⟩
  rw [List.countP_filterMap]
  split
  case isTrue hfaulty =>
    rw [← List.count_finRange i, List.count]
    refine List.countP_congr fun j _ => ?_
    rw [hnames, beq_iff_eq]
    exact ⟨fun h => h.2, fun h => ⟨h ▸ hfaulty, h⟩⟩
  case isFalse hfaulty =>
    rw [List.countP_eq_zero]
    intro j _
    rw [hnames]
    rintro ⟨hj, rfl⟩
    exact hfaulty hj

/-! ## §3 What a check says -/

/-- What there is to say about the sectors `m`. -/
structure Reports (sb : Superblock) (m : Sectors) (report : CheckReport) : Prop where
  recordedBlocks : report.freeBlocksRecorded = sb.freeBlocks
  recordedInodes : report.freeInodesRecorded = sb.freeInodes
  /-- The blocks whose bit is clear. -/
  countedBlocks : report.freeBlocksCounted.toNat
    = (List.range sb.totalBlocks.toNat).countP
        fun b => !BlockBitmap.bit (m.bytes 2 sb.bitmapSectors.toNat) b
  /-- The slots with the type tag of a free one. -/
  countedInodes : report.freeInodesCounted.toNat
    = (List.finRange 128).countP fun i => (recordAt sb m i).kind == 0
  clean : report.problems = [] ↔ sb.state = stateClean
    ∧ sb.freeBlocks = report.freeBlocksCounted ∧ sb.freeInodes = report.freeInodesCounted
    ∧ ∀ i, (recordAt sb m i).kind ≠ 0 → InOrder sb (Contents.under sb m) (recordAt sb m i)
  /-- One problem about each slot that is out of order. -/
  slot : ∀ i : Fin 128, report.problems.countP (·.inode? == some (UInt32.ofNat i.val))
    = if Faulty sb m i then 1 else 0
  /-- And no more than one for each other reason. -/
  length : report.problems.length
    = (if sb.state = stateClean then 0 else 1)
      + (if sb.freeBlocks = report.freeBlocksCounted then 0 else 1)
      + (if sb.freeInodes = report.freeInodesCounted then 0 else 1)
      + (List.finRange 128).countP fun i => decide (Faulty sb m i)

theorem problems_reportOf (sb : Superblock) (m : Sectors) :
    (reportOf sb m).problems
      = problemIf (sb.state != stateClean) (.unfinished sb.state)
        ++ problemIf (sb.freeBlocks != (reportOf sb m).freeBlocksCounted)
          (.freeBlocks sb.freeBlocks (reportOf sb m).freeBlocksCounted)
        ++ problemIf (sb.freeInodes != (reportOf sb m).freeInodesCounted)
          (.freeInodes sb.freeInodes (reportOf sb m).freeInodesCounted)
        ++ (List.finRange 128).filterMap (slotProblem sb m) := by
  rw [← filterMap_fileProblem]
  rfl

theorem length_problems (sb : Superblock) (m : Sectors) :
    (reportOf sb m).problems.length
      = (if sb.state = stateClean then 0 else 1)
        + (if sb.freeBlocks = (reportOf sb m).freeBlocksCounted then 0 else 1)
        + (if sb.freeInodes = (reportOf sb m).freeInodesCounted then 0 else 1)
        + (List.finRange 128).countP fun i => decide (Faulty sb m i) := by
  have hslots : ((List.finRange 128).filterMap (slotProblem sb m)).length
      = (List.finRange 128).countP fun i => decide (Faulty sb m i) := by
    rw [List.length_filterMap_eq_countP]
    exact List.countP_congr fun i _ => by rw [isSome_slotProblem, decide_eq_true_iff]
  have hreason : ∀ {α : Type} [DecidableEq α] (a b : α) (problem : Problem),
      (problemIf (!decide (a = b)) problem).length = if a = b then 0 else 1 := by
    intro α _ a b problem
    rw [length_problemIf]
    by_cases h : a = b <;> simp [h]
  rw [problems_reportOf]
  simp only [List.length_append, hslots, bne, beq_eq_decide, hreason]

/-- **A check says all there is to say**, and says it once. -/
theorem reports_reportOf (sb : Superblock) (m : Sectors) : Reports sb m (reportOf sb m) where
  recordedBlocks := rfl
  recordedInodes := rfl
  countedBlocks := by
    have hcount := freeCount_bitmapOf sb m
    have hsplit := (List.range sb.totalBlocks.toNat).length_eq_countP_add_countP
      (Contents.under sb m).used
    have hclear : (List.range sb.totalBlocks.toNat).countP
          (fun b => decide ¬ (Contents.under sb m).used b = true)
        = (List.range sb.totalBlocks.toNat).countP
          fun b => !BlockBitmap.bit (m.bytes 2 sb.bitmapSectors.toNat) b := by
      refine List.countP_congr fun b hb => ?_
      rw [List.mem_range] at hb
      simp [Contents.under, hb]
    rw [List.length_range, hclear] at hsplit
    show (bitmapOf sb m).freeCount.toNat = _
    omega
  countedInodes := (freeInodes_counted_iff _ _).1 rfl
  clean := by
    rw [problems_eq_nil_iff]
    constructor
    · rintro ⟨hstate, hblocks, hinodes, hfiles⟩
      refine ⟨hstate, (freeBlocks_counted_iff sb m).2 hblocks,
        (freeInodes_counted_iff _ _).2 hinodes, fun i hkind => hfiles i ?_⟩
      exact Bool.eq_false_of_not_eq_true fun hfree => hkind (isFree_recordAt.1 hfree)
    · rintro ⟨hstate, hblocks, hinodes, hfiles⟩
      refine ⟨hstate, (freeBlocks_counted_iff sb m).1 hblocks,
        (freeInodes_counted_iff _ _).1 hinodes, fun i hused => hfiles i fun hkind => ?_⟩
      rw [show ((Contents.under sb m).slot i).isFree = true from isFree_recordAt.2 hkind] at hused
      cases hused
  slot i := by
    rw [problems_reportOf, List.countP_append, List.countP_append, List.countP_append,
      countP_problemIf rfl, countP_problemIf rfl, countP_problemIf rfl, countP_slotProblem,
      Nat.zero_add]
  length := length_problems sb m

variable {δ : Type} [BlockDevice δ] {v : DriveView δ} {drive : UInt8} {s t : δ}

/-- What is mounted on a drive without faults is on it, and all parts of it work. -/
theorem mounted (hv : v.FaultFree drive) (hs : v.Sound s) (hmount : mount drive s = .ok sb t)
    (hroom : sb.inodeTableLba.toNat + 128 ≤ v.size.toNat) :
    Mounts (v.image s) sb ∧ Works (fun j => j < v.size.toNat) sb := by
  have hm := mounts_of_mount hv.serves (show 1 < v.size.toNat by omega) ⟨hs, rfl⟩ hmount
  exact ⟨hm, works_of_room hm.laidOut hroom⟩

/-- **A check decides whether a volume agrees with itself**, whatever a drive without faults
holds, if it can be mounted. The report counts the bits and the slots, and has exactly the
problems that there are; nothing is changed. -/
theorem check_decides (hv : v.FaultFree drive) (hs : v.Sound s) (hmount : mount drive s = .ok sb t)
    (hroom : sb.inodeTableLba.toNat + 128 ≤ v.size.toNat) :
    ∃ report s', check drive s = .ok report s' ∧ v.Holds (v.image s) s'
      ∧ Reports sb (v.image s) report := by
  obtain ⟨hm, hw⟩ := mounted hv hs hmount hroom
  obtain ⟨s', hrun, hs'⟩ := check_succeeds hv.serves hm hw s ⟨hs, rfl⟩
  exact ⟨_, s', hrun, hs', reports_reportOf sb (v.image s)⟩

/-- The disk with the stray record can be mounted, and has room for what is in front of the
data. -/
theorem mount_stray :
    cutShortView.Sound strayDisks ∧ (∃ t, mount 0 strayDisks = .ok (Superblock.forSize 2048) t)
      ∧ (Superblock.forSize 2048).inodeTableLba.toNat + 128 ≤ cutShortView.size.toNat := by
  have hserves : cutShortView.Serves 0 _ := Disks.single_faultFree.serves
  obtain ⟨t, hmount, -⟩ :=
    mount_succeeds hserves (show 1 < 1024 by decide) mounts_stray _ stray_holds
  exact ⟨stray_holds.sound, ⟨t, hmount⟩, by decide⟩

/-- The stray record makes one problem, for want of a type. -/
theorem check_decides_stray :
    let sb := Superblock.forSize 2048
    let m := strayMedium.content
    cutShortView.Sound strayDisks ∧ (∃ t, mount 0 strayDisks = .ok sb t)
      ∧ sb.inodeTableLba.toNat + 128 ≤ cutShortView.size.toNat
      ∧ ∃ report s', check 0 strayDisks = .ok report s' ∧ cutShortView.Holds m s'
        ∧ Reports sb m report ∧ report.problems.countP (·.inode? == some 0) = 1 := by
  intro sb m
  obtain ⟨hsound, ⟨t, hmount⟩, hroom⟩ := mount_stray
  obtain ⟨report, s', hrun, hs', hreports⟩ :=
    check_decides Disks.single_faultFree hsound hmount hroom
  rw [stray_holds.image] at hs' hreports
  have hfaulty : Faulty sb m 0 := by
    unfold Faulty
    rw [recordAt_stray]
    exact ⟨by decide, fun h => absurd h.kind (by decide)⟩
  exact ⟨hsound, ⟨t, hmount⟩, hroom, report, s', hrun, hs', hreports,
    (hreports.slot 0).trans (if_pos hfaulty)⟩

/-! ## §4 Looking files up -/

/-- The record of a slot is read alone as it is in the table. -/
theorem readIndex_succeeds {good : Nat → Prop} (hv : v.Serves drive good) (hm : Mounts m sb)
    (hw : Works good sb) (i : Fin 128) :
    Succeeds (v.Holds m) (readIndex drive (UInt32.ofNat i.val)) (recordAt sb m i) (v.Holds m) :=
  (mount_succeeds hv hw.super hm).bind
    (readSlot_succeeds hm.laidOut hv i (hw.table _ (by omega) (by omega)))

/-- There is no record behind the table. -/
theorem readIndex_beyond {good : Nat → Prop} (hv : v.Serves drive good) (hm : Mounts m sb)
    (hw : Works good sb) {inode : UInt32} (h : 128 ≤ inode.toNat) :
    Fails (v.Holds m) (readIndex drive inode) (· = .invalidInode inode) (v.Holds m) :=
  (mount_succeeds hv hw.super hm).fails (readSlot_fails hm.laidOut h)

/-- From state `s` the table as a whole gives `files` and a check `report`, and looking at
single slots finds the same. -/
structure Lookups (v : DriveView δ) (drive : UInt8) (m : Sectors) (files : List (UInt32 × Index))
    (report : CheckReport) (s : δ) : Prop where
  listed : ∃ t, listFiles drive s = .ok files t ∧ v.Holds m t
  checked : ∃ t, check drive s = .ok report t ∧ v.Holds m t
  found : ∀ inode : UInt32, inode.toNat < 128 →
    ∃ record t, readIndex drive inode s = .ok record t ∧ v.Holds m t
  mem_iff : ∀ (inode : UInt32) record, inode.toNat < 128 →
    ((inode, record) ∈ files ↔ (∃ t, readIndex drive inode s = .ok record t) ∧ record.kind ≠ 0)
  invalid_iff : ∀ inode : UInt32,
    (∃ t, readIndex drive inode s = .error (.invalidInode inode) t) ↔ 128 ≤ inode.toNat

/-- A slot by its number. -/
theorem exists_slot {inode : UInt32} (h : inode.toNat < 128) :
    ∃ i : Fin 128, inode = UInt32.ofNat i.val :=
  ⟨⟨inode.toNat, h⟩, UInt32.ofNat_toNat.symm⟩

theorem mem_files_iff {record : Index} :
    (UInt32.ofNat i.val, record) ∈ (IndexTable.ofSlots (Contents.under sb m).slot).used
      ↔ record = recordAt sb m i ∧ record.kind ≠ 0 := by
  rw [IndexTable.mem_used_ofSlots]
  constructor
  · rintro ⟨j, hused, hfile⟩
    obtain ⟨hij, rfl⟩ := Prod.mk.inj hfile
    obtain rfl := IndexTable.slot_injective hij
    refine ⟨rfl, fun hkind => ?_⟩
    rw [show ((Contents.under sb m).slot i).isFree = true from isFree_recordAt.2 hkind] at hused
    cases hused
  · rintro ⟨rfl, hkind⟩
    exact ⟨i, Bool.eq_false_of_not_eq_true fun hfree => hkind (isFree_recordAt.1 hfree), rfl⟩

theorem lookups_of_works {good : Nat → Prop} (hv : v.Serves drive good) (hm : Mounts m sb)
    (hw : Works good sb) (hs : v.Holds m s) :
    Lookups v drive m (IndexTable.ofSlots (Contents.under sb m).slot).used (reportOf sb m) s where
  listed := listFiles_succeeds hv hm hw s hs
  checked := check_succeeds hv hm hw s hs
  found inode h := by
    obtain ⟨i, rfl⟩ := exists_slot h
    exact ⟨_, readIndex_succeeds hv hm hw i s hs⟩
  mem_iff inode record h := by
    obtain ⟨i, rfl⟩ := exists_slot h
    rw [(readIndex_succeeds hv hm hw i).ok_iff hs, mem_files_iff]
  invalid_iff inode := by
    constructor
    · rintro ⟨t, hrun⟩
      by_contra hlt
      obtain ⟨i, rfl⟩ := exists_slot (Nat.lt_of_not_le hlt)
      exact (readIndex_succeeds hv hm hw i).not_error hs hrun
    · intro h
      obtain ⟨_, t, hrun, rfl, -⟩ := readIndex_beyond hv hm hw h s hs
      exact ⟨t, hrun⟩

/-- **Both ways to look files up agree**, whatever a drive without faults holds, if it can be
mounted. The list goes up by slots, has the record that is in a slot exactly if its type tag
is not that of a free slot, and leaves as many slots out as a check counts. -/
theorem lookups_agree (hv : v.FaultFree drive) (hs : v.Sound s) (hmount : mount drive s = .ok sb t)
    (hroom : sb.inodeTableLba.toNat + 128 ≤ v.size.toNat) :
    ∃ files report, files.Pairwise (fun f g => f.1.toNat < g.1.toNat)
      ∧ (∀ f ∈ files, f.1.toNat < 128)
      ∧ files.length + report.freeInodesCounted.toNat = 128
      ∧ ∀ s', v.Holds (v.image s) s' → Lookups v drive (v.image s) files report s' := by
  obtain ⟨hm, hw⟩ := mounted hv hs hmount hroom
  refine ⟨_, _, IndexTable.pairwise_used_ofSlots, fun f hf => ?_, ?_,
    fun s' hs' => lookups_of_works hv.serves hm hw hs'⟩
  · obtain ⟨i, -, rfl⟩ := IndexTable.mem_used_ofSlots.1 hf
    rw [IndexTable.toNat_slot]
    exact i.isLt
  · rw [(reports_reportOf sb _).countedInodes]
    exact IndexTable.length_used_ofSlots

/-- The stray record is listed, although its type is none that there is. -/
theorem lookups_agree_stray :
    let sb := Superblock.forSize 2048
    let m := strayMedium.content
    cutShortView.Sound strayDisks ∧ (∃ t, mount 0 strayDisks = .ok sb t)
      ∧ sb.inodeTableLba.toNat + 128 ≤ cutShortView.size.toNat
      ∧ ∃ files report, files.Pairwise (fun f g => f.1.toNat < g.1.toNat)
        ∧ (∀ f ∈ files, f.1.toNat < 128)
        ∧ files.length + report.freeInodesCounted.toNat = 128
        ∧ Lookups cutShortView 0 m files report strayDisks ∧ (0, strayRecord) ∈ files := by
  intro sb m
  obtain ⟨hsound, ⟨t, hmount⟩, hroom⟩ := mount_stray
  obtain ⟨files, report, hordered, hslots, hlength, hlookups⟩ :=
    lookups_agree Disks.single_faultFree hsound hmount hroom
  rw [stray_holds.image] at hlookups
  have hlookups := hlookups _ stray_holds
  have hrecord : ∃ t, readIndex 0 0 strayDisks = .ok strayRecord t := by
    have hserves : cutShortView.Serves 0 _ := Disks.single_faultFree.serves
    have hworks := works_of_room mounts_stray.laidOut hroom
    have hread := readIndex_succeeds hserves mounts_stray hworks 0
    rw [recordAt_stray] at hread
    exact (hread.ok_iff stray_holds).2 rfl
  exact ⟨hsound, ⟨t, hmount⟩, hroom, files, report, hordered, hslots, hlength, hlookups,
    (hlookups.mem_iff 0 strayRecord (by decide)).2 ⟨hrecord, by decide⟩⟩

end Volume

end AtaVolume
