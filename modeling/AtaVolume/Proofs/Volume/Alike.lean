/-
AtaVolume.Proofs.Volume.Alike — volumes on two devices at once.

A call on a volume depends on its device only through one drive. So on two
devices whose drives answer alike (`DrivesAlike`) every call ends alike, and
leaves the drives alike; for a call that does not write it is enough that they are
read alike (`ReadsAlike`). Each call is a sequence of calls on the drive, so the
proofs follow its text.
-/
import AtaVolume.Proofs.Ata.Simulation
import AtaVolume.Volume.Check
import AtaVolume.Volume.Occupancy

namespace AtaVolume

/-- As long as `R` holds, a drive is read alike on two devices, and reading keeps `R`. -/
structure ReadsAlike {δ ε : Type} [BlockDevice δ] [BlockDevice ε] (drive : UInt8)
    (R : δ → ε → Prop) : Prop where
  size : ∀ s t, R s t → BlockDevice.totalSectors s drive = BlockDevice.totalSectors t drive
  note : ∀ report s t, R s t → R (BlockDevice.note report s) (BlockDevice.note report t)
  read : ∀ count lba buffer s t, R s t →
    OutcomesAlike R (BlockDevice.readSectors drive count lba buffer s)
      (BlockDevice.readSectors drive count lba buffer t)

/-- As long as `R` holds, a drive answers alike on two devices, and answering
keeps `R`. -/
structure DrivesAlike {δ ε : Type} [BlockDevice δ] [BlockDevice ε] (drive : UInt8)
    (R : δ → ε → Prop) : Prop extends ReadsAlike drive R where
  write : ∀ lba data, RunsAlike R (BlockDevice.writeSectors drive lba data)
    (BlockDevice.writeSectors drive lba data)

variable {δ ε : Type} [BlockDevice δ] [BlockDevice ε] {drive : UInt8} {R : δ → ε → Prop}

/-! ## §1 Ranges -/

theorem BlockDevice.readPieces_alike (h : ReadsAlike drive R) (buffer : Bytes) (lba : UInt32)
    (n i : Nat) (acc : Bytes) {s : δ} {t : ε} (hs : R s t) :
    OutcomesAlike R (readPieces drive buffer lba n i acc s)
      (readPieces drive buffer lba n i acc t) := by
  induction n using Nat.strongRecOn generalizing lba i acc s t with
  | ind n ih =>
    unfold readPieces
    by_cases hzero : n = 0
    · rw [if_pos hzero, if_pos hzero]
      exact ⟨rfl, rfl, hs⟩
    · rw [if_neg hzero, if_neg hzero]
      have hfewer : n - min n 256 < n := by omega
      obtain ⟨result, piece, s', t', hs', ht', states⟩ := (h.read (UInt16.ofNat (min n maxTransfer))
        lba (buffer.extract i (i + min n maxTransfer * sectorSize)) s t hs).cases_eq
      simp only [hs', ht']
      cases result with
      | error e => exact ⟨rfl, rfl, states⟩
      | ok _ =>
        simp only
        split
        · exact ih _ hfewer _ _ _ states
        · exact ⟨rfl, rfl, states⟩

theorem BlockDevice.readRange_alike (h : ReadsAlike drive R) (lba : UInt32) (buffer : Bytes)
    {s : δ} {t : ε} (hs : R s t) :
    OutcomesAlike R (readRange drive lba buffer s) (readRange drive lba buffer t) := by
  unfold readRange
  split
  · exact ⟨rfl, rfl, hs⟩
  · split
    · exact ⟨rfl, rfl, hs⟩
    · exact readPieces_alike h _ _ _ _ _ hs

namespace Volume

/-! ## §2 Sectors and records -/

theorem note_alike (h : ReadsAlike drive R) (report : Report) :
    RunsAlike R (note report : VolumeAction δ Unit) (note report) :=
  .modify (h.note report)

theorem totalSectors_alike (h : ReadsAlike drive R) :
    RunsAlike R (totalSectors drive : VolumeAction δ UInt32) (totalSectors drive) := by
  intro s t hs
  unfold totalSectors
  rw [h.size s t hs]
  cases BlockDevice.totalSectors t drive with
  | ok n => exact .ok hs
  | error e => exact .error hs

omit [BlockDevice δ] [BlockDevice ε] in
theorem received_alike {x : ReadOutcome δ} {y : ReadOutcome ε} (h : OutcomesAlike R x y) :
    EndsAlike R (received x) (received y) := by
  obtain ⟨result, buffer, s, t, rfl, rfl, states⟩ := h.cases_eq
  cases result with
  | ok _ => exact .ok states
  | error e => exact .error states

theorem readSector_alike (h : ReadsAlike drive R) (lba : UInt32) :
    RunsAlike R (readSector drive lba : VolumeAction δ Bytes) (readSector drive lba) := by
  intro s t hs
  exact received_alike (h.read _ _ _ s t hs)

theorem readSectors_alike (h : ReadsAlike drive R) (lba : UInt32) (n : Nat) :
    RunsAlike R (readSectors drive lba n : VolumeAction δ Bytes) (readSectors drive lba n) := by
  intro s t hs
  exact received_alike (BlockDevice.readRange_alike h _ _ hs)

theorem write_alike (h : DrivesAlike drive R) (lba : UInt32) (data : Bytes) :
    RunsAlike R (write drive lba data : VolumeAction δ Unit) (write drive lba data) := by
  intro s t hs
  unfold write
  obtain ⟨_, s', t', hs', ht', states⟩ | ⟨e, s', t', hs', ht', states⟩ :=
    (h.write lba data s t hs).cases_eq
  · rw [hs', ht']
    exact .ok states
  · rw [hs', ht']
    exact .error states

omit [BlockDevice δ] [BlockDevice ε] in
theorem ofExcept_alike {α : Type} (x : Except VolumeError α) :
    RunsAlike R (ofExcept x : VolumeAction δ α) (ofExcept x) := by
  cases x with
  | ok a => exact .pure a
  | error e => exact .throw e

theorem readSuper_alike (h : ReadsAlike drive R) :
    RunsAlike R (readSuper drive : VolumeAction δ Superblock) (readSuper drive) :=
  .bind (readSector_alike h _) fun _ => .pure _

theorem readBitmap_alike (h : ReadsAlike drive R) (sb : Superblock) :
    RunsAlike R (readBitmap drive sb : VolumeAction δ BlockBitmap) (readBitmap drive sb) :=
  .bind (readSectors_alike h _ _) fun _ => .pure _

theorem writeBitmap_alike (h : DrivesAlike drive R) (sb : Superblock) (bitmap : BlockBitmap) :
    RunsAlike R (writeBitmap drive sb bitmap : VolumeAction δ Unit)
      (writeBitmap drive sb bitmap) :=
  .ite (.throw _) (write_alike h _ _)

theorem readTable_alike (h : ReadsAlike drive R) (sb : Superblock) :
    RunsAlike R (readTable drive sb : VolumeAction δ IndexTable) (readTable drive sb) :=
  .bind (readSectors_alike h _ _) fun _ => .pure _

theorem readSlot_alike (h : ReadsAlike drive R) (sb : Superblock) (inode : UInt32) :
    RunsAlike R (readSlot drive sb inode : VolumeAction δ Index) (readSlot drive sb inode) := by
  unfold readSlot
  refine .refuse (.bind (ofExcept_alike _) fun lba => ?_)
  exact .bind (readSector_alike h lba) fun _ => .pure _

theorem writeSlot_alike (h : DrivesAlike drive R) (sb : Superblock) (inode : UInt32)
    (record : Index) :
    RunsAlike R (writeSlot drive sb inode record : VolumeAction δ Unit)
      (writeSlot drive sb inode record) :=
  .bind (ofExcept_alike _) fun lba => write_alike h lba _

/-! ## §3 Calls -/

theorem plan_alike (h : ReadsAlike drive R) :
    RunsAlike R (plan drive : VolumeAction δ Superblock) (plan drive) := by
  unfold plan
  exact .bind (totalSectors_alike h) fun sectors => .refuse (.pure _)

theorem planBitmap_alike (h : ReadsAlike drive R) :
    RunsAlike R (planBitmap drive : VolumeAction δ BlockBitmap) (planBitmap drive) :=
  .bind (plan_alike h) fun _ => .pure _

theorem verifySuper_alike (h : ReadsAlike drive R) (sb : Superblock) :
    RunsAlike R (verifySuper drive sb : VolumeAction δ Unit) (verifySuper drive sb) := by
  unfold verifySuper
  refine .bind (readSuper_alike h) fun onDisk => ?_
  cases sb.verify onDisk with
  | ok _ => exact note_alike h _
  | error e => exact .bind (note_alike h _) fun _ => .throw _

theorem format_alike (h : DrivesAlike drive R) (verify : Bool) :
    RunsAlike R (format drive verify : VolumeAction δ Superblock) (format drive verify) := by
  have hreads := h.toReadsAlike
  unfold format
  refine .bind (plan_alike hreads) fun sb => ?_
  refine .bind (note_alike hreads _) fun _ => ?_
  refine .bind (write_alike h _ _) fun _ => ?_
  cases verify with
  | true =>
    refine .bind (verifySuper_alike hreads sb) fun _ => ?_
    refine .bind (writeBitmap_alike h _ _) fun _ => ?_
    refine .bind (write_alike h _ _) fun _ => ?_
    exact .bind (note_alike hreads _) fun _ => .pure _
  | false =>
    refine .bind (writeBitmap_alike h _ _) fun _ => ?_
    refine .bind (write_alike h _ _) fun _ => ?_
    exact .bind (note_alike hreads _) fun _ => .pure _

theorem mount_alike (h : ReadsAlike drive R) :
    RunsAlike R (mount drive : VolumeAction δ Superblock) (mount drive) := by
  unfold mount
  refine .bind (readSuper_alike h) fun sb => .refuse ?_
  cases sb.checkLayout with
  | error c => exact .throw _
  | ok _ => exact .ite (.bind (note_alike h _) fun _ => .pure _) (.pure _)

theorem newIndex_alike (h : ReadsAlike drive R) :
    RunsAlike R (newIndex drive : VolumeAction δ Index) (newIndex drive) :=
  .bind (totalSectors_alike h) fun _ => .pure _

theorem allocate_alike (h : DrivesAlike drive R) :
    RunsAlike R (allocate drive : VolumeAction δ (UInt32 × Index)) (allocate drive) := by
  have hreads := h.toReadsAlike
  unfold allocate
  refine .bind (mount_alike hreads) fun sb => ?_
  refine .bind (readBitmap_alike hreads sb) fun bitmap => ?_
  refine .bind (readTable_alike hreads sb) fun table => ?_
  cases table.findFree with
  | none => exact .throw _
  | some inode =>
    cases bitmap.firstFree sb.dataStartBlock with
    | none => exact .throw _
    | some block =>
      refine .bind (newIndex_alike hreads) fun record => ?_
      refine .bind (write_alike h _ _) fun _ => ?_
      refine .bind (writeBitmap_alike h _ _) fun _ => ?_
      refine .bind (writeSlot_alike h _ _ _) fun _ => ?_
      refine .bind (write_alike h _ _) fun _ => ?_
      exact .bind (note_alike hreads _) fun _ => .pure _

theorem release_alike (h : DrivesAlike drive R) (inode : UInt32) :
    RunsAlike R (release drive inode : VolumeAction δ Index) (release drive inode) := by
  have hreads := h.toReadsAlike
  unfold release
  refine .bind (mount_alike hreads) fun sb => ?_
  refine .bind (readSlot_alike hreads sb inode) fun record => .refuse ?_
  refine .bind (write_alike h _ _) fun _ => ?_
  refine .bind (writeSlot_alike h _ _ _) fun _ => ?_
  refine .bind (readBitmap_alike hreads _) fun bitmap => ?_
  refine .bind (writeBitmap_alike h _ _) fun _ => ?_
  exact .bind (write_alike h _ _) fun _ => .pure _

theorem readIndex_alike (h : ReadsAlike drive R) (inode : UInt32) :
    RunsAlike R (readIndex drive inode : VolumeAction δ Index) (readIndex drive inode) :=
  .bind (mount_alike h) fun sb => readSlot_alike h sb inode

theorem listFiles_alike (h : ReadsAlike drive R) :
    RunsAlike R (listFiles drive : VolumeAction δ (List (UInt32 × Index))) (listFiles drive) :=
  .bind (mount_alike h) fun sb => .bind (readTable_alike h sb) fun _ => .pure _

theorem check_alike (h : ReadsAlike drive R) :
    RunsAlike R (check drive : VolumeAction δ CheckReport) (check drive) :=
  .bind (mount_alike h) fun sb =>
    .bind (readBitmap_alike h sb) fun _ => .bind (readTable_alike h sb) fun _ => .pure _

/-! ## §4 Scans -/

/-- Two scans end alike. -/
structure ScansAlike (R : δ → ε → Prop) (x : ScanOutcome δ) (y : ScanOutcome ε) : Prop where
  result : x.result = y.result
  progress : x.progress = y.progress
  states : R x.device y.device

theorem scanFrom_alike (h : ReadsAlike drive R) (total : UInt32) (n : Nat) (lba : UInt32)
    (buffer : Bytes) (t : Occupancy.Tally) (progress : Array (UInt32 × UInt32)) {x : δ} {y : ε}
    (hs : R x y) :
    ScansAlike R (scanFrom drive total n lba buffer t progress x)
      (scanFrom drive total n lba buffer t progress y) := by
  induction n using Nat.strongRecOn generalizing lba buffer t progress x y with
  | ind n ih =>
    unfold scanFrom
    by_cases hzero : n = 0
    · rw [if_pos hzero, if_pos hzero]
      exact ⟨rfl, rfl, h.note _ _ _ hs⟩
    · rw [if_neg hzero, if_neg hzero]
      have hfewer : n - min n 256 < n := by omega
      obtain ⟨result, piece, x', y', hx', hy', states⟩ := (h.read (UInt16.ofNat (min n maxTransfer))
        lba (buffer.extract 0 (min n maxTransfer * sectorSize)) x y hs).cases_eq
      simp only [hx', hy']
      cases result with
      | error e => exact ⟨rfl, rfl, states⟩
      | ok _ => exact ih _ hfewer _ _ _ _ states

theorem scan_alike (h : ReadsAlike drive R) {x : δ} {y : ε} (hs : R x y) :
    ScansAlike R (scan drive x) (scan drive y) := by
  unfold scan
  rw [h.size x y hs]
  cases BlockDevice.totalSectors y drive with
  | error e => exact ⟨rfl, rfl, hs⟩
  | ok total => exact scanFrom_alike h total _ _ _ _ _ hs

end Volume

end AtaVolume
