/-
AtaVolume.Proofs.Shell.Announcement — what the shell announces is what it does.

The command that shows the bitmap names the block that the next file will get. It reads
the bitmap anew and searches it from the start of the data area, and so does the command
that makes the file, so on a drive without faults the two agree, whatever the volume's
counters say: the announced block is the one that is taken, unless there is no slot for a
file (`createTakes_of_first`), and the counts that are shown afterwards are the old ones with
one block moved (`counts_allocated`). They are counted from the bits, so they always make up
the whole volume.

Nothing changes by looking: a command that is not meant to change anything leaves every
drive as it is (`execute_looks`).
-/
import AtaVolume.Shell.Execute
import AtaVolume.Proofs.Volume.AllocationEffect
import AtaVolume.Proofs.Volume.Inspection
import AtaVolume.Proofs.Volume.ReadOnly

namespace AtaVolume.Shell

open Volume

/-! ## §1 Answers -/

section Answers

variable {σ τ α : Type} [PortSpace σ] [PortSpace τ] {I J : Disks σ → Prop}
  {call : VolumeAction (Disks σ) α} {a : α} {s : Disks σ} (before : String) (render : α → String)

omit [PortSpace σ] in
/-- A call that succeeds is answered with what it gives. -/
theorem answer_of_succeeds (hcall : Succeeds I call a J) (hs : I s) :
    ∃ s', answer before call render s = ({ text := before ++ render a }, s') ∧ J s' := by
  obtain ⟨s', hrun, hs'⟩ := hcall s hs
  exact ⟨s', by simp only [answer, hrun], hs'⟩

omit [PortSpace σ] in
/-- A call that fails is answered with its error. -/
theorem answer_of_fails {e : VolumeError} (hcall : Fails I call (· = e) J) (hs : I s) :
    ∃ s', answer before call render s = ({ text := before, error := some (.volume e) }, s')
      ∧ J s' := by
  obtain ⟨_, s', hrun, rfl, hs'⟩ := hcall s hs
  exact ⟨s', by simp only [answer, hrun], hs'⟩

omit [PortSpace σ] [PortSpace τ] in
/-- Calls that end alike are answered alike. -/
theorem answer_alike {R : Disks σ → Disks τ → Prop} {call' : VolumeAction (Disks τ) α}
    (hcall : RunsAlike R call call') {t : Disks τ} (hs : R s t) :
    (answer before call render s).1 = (answer before call' render t).1
      ∧ R (answer before call render s).2 (answer before call' render t).2 := by
  obtain ⟨a, s', t', hs', ht', states⟩ | ⟨e, s', t', hs', ht', states⟩ := (hcall s t hs).cases_eq
  · simp only [answer, hs', ht']
    exact ⟨trivial, states⟩
  · simp only [answer, hs', ht']
    exact ⟨trivial, states⟩

end Answers

/-! ## §2 Looking -/

section Looking

variable {σ τ : Type} [PortSpace σ] [PortSpace τ] {R : σ → τ → Prop} {command : Command}

theorem mountWithBitmap_alike {drive : UInt8} {Q : Disks σ → Disks τ → Prop}
    (h : ReadsAlike drive Q) :
    RunsAlike Q (mountWithBitmap drive : VolumeAction (Disks σ) _) (mountWithBitmap drive) :=
  .bind (mount_alike h) fun sb => .bind (readBitmap_alike h sb) fun _ => .pure _

theorem scanReply_alike {drive : UInt8} {Q : Disks σ → Disks τ → Prop}
    (h : ReadsAlike drive Q) {s : Disks σ} {t : Disks τ} (hs : Q s t) :
    (scanReply drive s).1 = (scanReply drive t).1 ∧ Q (scanReply drive s).2 (scanReply drive t).2 := by
  unfold scanReply
  rw [h.size s t hs]
  cases BlockDevice.totalSectors t drive with
  | error e => exact ⟨rfl, hs⟩
  | ok size =>
    have hscan := scan_alike h hs
    generalize scan drive s = x at hscan
    generalize scan drive t = y at hscan
    obtain ⟨result, progress, s'⟩ := x
    obtain ⟨result', progress', t'⟩ := y
    obtain rfl : result = result' := hscan.result
    cases result with
    | ok o => exact ⟨rfl, hscan.states⟩
    | error e => exact ⟨rfl, hscan.states⟩

/-- **Machines that are looked at alike get the same answers** to all commands that are not
meant to change anything. -/
theorem execute_alike (h : Wire.LookedAlike R) (c : Controller) (hlooks : command.isChange = false)
    {s : Disks σ} {t : Disks τ} (hs : Disks.Driving c R s t) :
    (execute command s).1 = (execute command t).1
      ∧ Disks.Driving c R (execute command s).2 (execute command t).2 := by
  have hreads := fun drive => Disks.readsAlike h c drive
  cases command with
  | help => exact ⟨rfl, hs⟩
  | drives =>
    refine ⟨?_, hs⟩
    simp only [execute, hs.1, hs.2.1]
  | mount drive => exact answer_alike _ _ (mount_alike (hreads drive)) hs
  | bitmap drive => exact answer_alike _ _ (mountWithBitmap_alike (hreads drive)) hs
  | stat drive inode => exact answer_alike _ _ (readIndex_alike (hreads drive) inode) hs
  | list drive => exact answer_alike _ _ (listFiles_alike (hreads drive)) hs
  | check drive => exact answer_alike _ _ (check_alike (hreads drive)) hs
  | scan drive => exact scanReply_alike (hreads drive) hs
  | dump drive lba => exact answer_alike _ _ (readSector_alike (hreads drive) lba) hs
  | exit => exact ⟨rfl, hs⟩
  | format drive verify assumeYes => cases hlooks
  | create drive => cases hlooks
  | remove drive inode => cases hlooks

/-- **A command that is not meant to change anything leaves every drive as it is**, with
its medium and all that it has counted. -/
theorem execute_looks (hlooks : command.isChange = false) (c : Controller) (b : Bus) (slot : Slot) :
    (execute command (⟨c, b⟩ : Disks Bus)).2.machine.drive? slot = b.drive? slot := by
  have hstart : Disks.Driving c b.Carrying (⟨c, b⟩ : Disks Bus) ⟨c, b⟩ := ⟨rfl, rfl, rfl, .refl b⟩
  obtain ⟨-, -, -, -, hdrives⟩ := execute_alike b.looked_carrying c hlooks hstart
  exact hdrives _ _

end Looking

/-! ## §3 What is announced -/

/-- The block that the next file will get, with its first sector. -/
def nextLine (sb : Superblock) : Option UInt32 → String
  | some block => s!"Next data block: {block} (LBA {sb.blockLba block})"
  | none => "No free data blocks"

/-- What the bitmap command prints about a volume. -/
def announcement (sb : Superblock) (used free : UInt32) (next : Option UInt32) : String := lines
  [s!"🧮 {sb.totalBlocks} blocks: {used} used, {free} free "
      ++ s!"({sb.bitmapSectors.toNat * sectorSize} bytes on disk)",
    nextLine sb next]

/-- What the create command prints about a new file. -/
def createdText (inode lba : UInt32) : String := lines [s!"📝 Created inode {inode} at LBA {lba}"]

variable {sb : Superblock} {m : Sectors} {block : UInt32} {i : Fin 128}

theorem sectorLength_bitmapOf (sb : Superblock) (m : Sectors) :
    (bitmapOf sb m).sectorLength = sb.bitmapSectors.toNat := by
  have hsize := size_bits_bitmapOf sb m
  have hspan := sb.toNat_bitmapSectors
  rw [BlockBitmap.sectorLength, hsize]
  simp only [sectorSize]
  omega

theorem bitmapText_bitmapOf (sb : Superblock) (m : Sectors) :
    bitmapText sb (bitmapOf sb m)
      = announcement sb (bitmapOf sb m).usedCount (bitmapOf sb m).freeCount
        ((bitmapOf sb m).firstFree sb.dataStartBlock) := by
  unfold bitmapText announcement
  rw [sectorLength_bitmapOf]
  cases (bitmapOf sb m).firstFree sb.dataStartBlock with
  | none => rfl
  | some block => rfl

/-- The counts make up the whole volume. -/
theorem used_add_free_bitmapOf (sb : Superblock) (m : Sectors) :
    (bitmapOf sb m).usedCount.toNat + (bitmapOf sb m).freeCount.toNat = sb.totalBlocks.toNat := by
  have hsum := (BlockBitmap.counted_ofBytes (m.bytes 2 sb.bitmapSectors.toNat) sb.totalBlocks).sum
  rw [Nat.add_comm]
  exact hsum

/-- An allocation moves one block from the free ones to the used ones. -/
theorem counts_allocated (h : 2 + sb.bitmapSectors.toNat ≤ sb.inodeTableLba.toNat)
    (hblock : FirstFree sb (Contents.under sb m) block) :
    (bitmapOf sb (allocated sb m i block)).usedCount.toNat = (bitmapOf sb m).usedCount.toNat + 1
      ∧ (bitmapOf sb (allocated sb m i block)).freeCount.toNat + 1
        = (bitmapOf sb m).freeCount.toNat := by
  have hcount := countP_update_true List.nodup_range (List.mem_range.2 hblock.lt_total) hblock.free
  have hbefore := freeCount_bitmapOf sb m
  have hafter := freeCount_bitmapOf sb (allocated sb m i block)
  have htold : (Contents.under sb (allocated sb m i block)).used
      = Function.update (Contents.under sb m).used block.toNat true := by
    have hunder := congrArg Contents.used (under_allocated h i hblock.lt_total (m := m))
    exact hunder
  rw [htold, hcount] at hafter
  have hsum := used_add_free_bitmapOf sb m
  have hsum' := used_add_free_bitmapOf sb (allocated sb m i block)
  omega

/-- The first free block is the least one whose bit is clear. -/
theorem isLeast_of_firstFree (h : FirstFree sb (Contents.under sb m) block) :
    IsLeast (freeBlocks sb m) block.toNat := by
  refine ⟨mem_freeBlocks_of_firstFree h, ?_⟩
  intro b hb
  obtain ⟨hdata, -, hclear⟩ := mem_freeBlocks.1 hb
  by_contra hlt
  rw [h.least b hdata (by omega)] at hclear
  cases hclear

/-! ## §4 What is created -/

section Creating

variable {σ : Type} [PortSpace σ]

/-- The bitmap command prints this and leaves the drive's sectors as they are. -/
def Announces (v : DriveView (Disks σ)) (drive : UInt8) (sb : Superblock) (used free : UInt32)
    (next : Option UInt32) (s s' : Disks σ) : Prop :=
  execute (.bitmap drive) s = ({ text := announcement sb used free next }, s')
    ∧ v.Holds (v.image s) s'

/-- The create command fails and leaves the drive's sectors as they are. -/
def CreateFails (v : DriveView (Disks σ)) (drive : UInt8) (e : VolumeError) (s : Disks σ) : Prop :=
  ∃ s', execute (.create drive) s = ({ text := "", error := some (.volume e) }, s')
    ∧ v.Holds (v.image s) s'

/-- The create command prints the first sector of the block and marks it, and no other. The
bitmap command then counts one more block as used than `used`, and one less as free than
`free`. -/
def CreateTakes (v : DriveView (Disks σ)) (drive : UInt8) (sb : Superblock) (used free block : UInt32)
    (s : Disks σ) : Prop :=
  ∃ (i : Fin 128) (s' : Disks σ),
    execute (.create drive) s
        = ({ text := createdText (UInt32.ofNat i.val) (sb.blockLba block) }, s')
      ∧ IsLeast (freeSlots sb (v.image s)) i ∧ IsLeast (freeBlocks sb (v.image s)) block.toNat
      ∧ Allocates sb i block (v.image s) (v.image s')
      ∧ ∃ used' free' next' s'', Announces v drive sb used' free' next' s' s''
        ∧ used'.toNat = used.toNat + 1 ∧ free'.toNat + 1 = free.toNat

variable {v : DriveView (Disks σ)} {drive : UInt8} {good : Nat → Prop} {s : Disks σ}

theorem mountWithBitmap_succeeds (hv : v.Serves drive good) (hm : Mounts m sb) (hw : Works good sb) :
    Succeeds (v.Holds m) (mountWithBitmap drive) (sb, bitmapOf sb m) (v.Holds m) :=
  (mount_succeeds hv hw.super hm).bind
    ((readBitmap_succeeds hm.laidOut hv hw.bitmap).bind (.pure _))

theorem exists_announces (hv : v.Serves drive good) (hm : Mounts m sb) (hw : Works good sb)
    (hs : v.Holds m s) :
    ∃ s', Announces v drive sb (bitmapOf sb m).usedCount (bitmapOf sb m).freeCount
      ((bitmapOf sb m).firstFree sb.dataStartBlock) s s' := by
  obtain ⟨s', hrun, hs'⟩ := answer_of_succeeds "" (fun parts => bitmapText parts.1 parts.2)
    (mountWithBitmap_succeeds hv hm hw) hs
  simp only [String.empty_append, bitmapText_bitmapOf] at hrun
  refine ⟨s', hrun, ?_⟩
  rw [hs.image]
  exact hs'

theorem createFails_of_fails {e : VolumeError} (hs : v.Holds m s)
    (h : Fails (v.Holds m) (allocate drive) (· = e) (v.Holds m)) : CreateFails v drive e s := by
  obtain ⟨s', hrun, hs'⟩ := answer_of_fails "" _ h hs
  refine ⟨s', hrun, ?_⟩
  rw [hs.image]
  exact hs'

/-- A slot and a block are taken as they are found. -/
theorem createTakes_of_first (hv : v.Serves drive good) (hm : Mounts m sb) (hw : Works good sb)
    (hs : v.Holds m s) (hi : IsLeast (freeSlots sb m) i)
    (hblock : FirstFree sb (Contents.under sb m) block) :
    CreateTakes v drive sb (bitmapOf sb m).usedCount (bitmapOf sb m).freeCount block s := by
  obtain ⟨-, hbitmap, -⟩ := hm.laidOut.before_data
  have hallocate := allocate_succeeds hv hm hw (firstSlot_of_isLeast hi) hblock
  obtain ⟨s', hrun, hs'⟩ := answer_of_succeeds ""
    (fun file => createdText file.1 file.2.firstBlock) hallocate hs
  have hcounts := counts_allocated (i := i) hbitmap hblock
  obtain ⟨s'', hannounces⟩ := exists_announces hv (hm.charged i block)
    (show Works good (charged sb) from ⟨hw.super, hw.bitmap, hw.table⟩) hs'
  rw [String.empty_append] at hrun
  refine ⟨i, s', hrun, ?_, ?_, ?_, _, _, _, s'', hannounces, hcounts⟩
  · rw [hs.image]
    exact hi
  · rw [hs.image]
    exact isLeast_of_firstFree hblock
  · rw [hs.image, hs'.image]
    exact allocates_allocated hbitmap hblock.lt_total

end Creating

/-- A block is found exactly if it is the least one whose bit is clear. -/
theorem firstFree_eq_some_iff :
    (bitmapOf sb m).firstFree sb.dataStartBlock = some block
      ↔ IsLeast (freeBlocks sb m) block.toNat := by
  constructor
  · intro hfind
    obtain ⟨block', hfind', hblock⟩ | ⟨hnone, -⟩ := firstFree_bitmapOf sb m
    · obtain rfl : block' = block := by simpa [hfind'] using hfind
      exact isLeast_of_firstFree hblock
    · rw [hnone] at hfind
      cases hfind
  · intro hleast
    exact (firstFree_of_isLeast hleast).find

/-- **What the bitmap command announces is what the create command does.** Looking at the
bitmap changes no drive. On a drive without faults, whatever it holds, if that can be
mounted, the counts that are printed make up the volume, and the block is the least one
whose bit is clear: the next file gets it, unless there is no slot for a file. If no block is
announced, there is no file to be made. -/
theorem execute_announces :
    (∀ (c : Controller) (b : Bus) (drive : UInt8) (slot : Slot),
      (execute (.bitmap drive) (⟨c, b⟩ : Disks Bus)).2.machine.drive? slot = b.drive? slot)
    ∧ ∀ (σ : Type) [PortSpace σ] (v : DriveView (Disks σ)) (drive : UInt8) (s t : Disks σ)
        (sb : Superblock), v.FaultFree drive → v.Sound s → mount drive s = .ok sb t →
      sb.inodeTableLba.toNat + 128 ≤ v.size.toNat →
      ∃ used free next s', Announces v drive sb used free next s s'
        ∧ used.toNat + free.toNat = sb.totalBlocks.toNat
        ∧ (∀ block, next = some block ↔ IsLeast (freeBlocks sb (v.image s)) block.toNat)
        ∧ (∀ block, next = some block →
          CreateFails v drive .inodeFull s' ∨ CreateTakes v drive sb used free block s')
        ∧ (next = none → CreateFails v drive .inodeFull s' ∨ CreateFails v drive .diskFull s') := by
  constructor
  · intro c b drive slot
    exact execute_looks rfl c b slot
  · intro σ _ v drive s t sb hv hs hmount hroom
    obtain ⟨hm, hw⟩ := mounted hv hs hmount hroom
    obtain ⟨s', hannounces⟩ := exists_announces hv.serves hm hw ⟨hs, rfl⟩
    have hs' : v.Holds (v.image s) s' := hannounces.2
    refine ⟨_, _, _, s', hannounces, used_add_free_bitmapOf sb (v.image s),
      fun _ => firstFree_eq_some_iff, ?_⟩
    obtain hempty | hslots := (freeSlots sb (v.image s)).eq_empty_or_nonempty
    · have hfails := createFails_of_fails hs'
        (allocate_inodeFull hv.serves hm hw (taken_of_freeSlots_eq_empty hempty))
      exact ⟨fun _ _ => .inl hfails, fun _ => .inl hfails⟩
    · obtain ⟨i, hi⟩ := exists_isLeast hslots
      constructor
      · intro block hfind
        have hblock := firstFree_of_isLeast (firstFree_eq_some_iff.1 hfind)
        exact .inr (createTakes_of_first hv.serves hm hw hs' hi hblock)
      · intro hnone
        exact .inr (createFails_of_fails hs'
          (allocate_diskFull hv.serves hm hw (firstSlot_of_isLeast hi) hnone))

/-- On the disk that counts blocks behind its end the first of these is announced. -/
theorem execute_announces_cutShort :
    let sb := Superblock.forSize 2048
    cutShortView.Sound cutShortDisks ∧ (∃ t, mount 0 cutShortDisks = .ok sb t)
      ∧ sb.inodeTableLba.toNat + 128 ≤ cutShortView.size.toNat
      ∧ ∃ used free s', Announces cutShortView 0 sb used free (some 1024) cutShortDisks s'
        ∧ used.toNat + free.toNat = sb.totalBlocks.toNat
        ∧ (CreateFails cutShortView 0 .inodeFull s'
          ∨ CreateTakes cutShortView 0 sb used free 1024 s') := by
  intro sb
  have hholds := cutShort_holds
  have hoffers : Offers Medium.cutShort.content sb 0 1024 := Medium.offers_cutShort
  have hserves : cutShortView.Serves 0 _ := Disks.single_faultFree.serves
  have hroom : sb.inodeTableLba.toNat + 128 ≤ cutShortView.size.toNat := by decide
  obtain ⟨t, hmount, -⟩ := mount_succeeds hserves (show 1 < 1024 by decide) hoffers.mounts _ hholds
  obtain ⟨used, free, next, s', hannounces, hsum, hnext, hcreate, -⟩ :=
    execute_announces.2 _ _ _ _ _ _ Disks.single_faultFree hholds.sound hmount hroom
  have hleast : IsLeast (freeBlocks sb (cutShortView.image cutShortDisks)) (1024 : UInt32).toNat := by
    rw [hholds.image]
    exact isLeast_of_firstFree hoffers.firstFree
  obtain rfl := (hnext 1024).2 hleast
  exact ⟨hholds.sound, ⟨t, hmount⟩, hroom, used, free, s', hannounces, hsum, hcreate 1024 rfl⟩

end AtaVolume.Shell
