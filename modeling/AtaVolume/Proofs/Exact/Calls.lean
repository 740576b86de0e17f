/-
AtaVolume.Proofs.Exact.Calls — no call on a volume leaves the 32 bits.

Each call that reads a superblock is written once more with all its arithmetic and
all its look-ups checked; where a step has no value, the call is `trapped`.
`Safe` says that a checked call is the unchecked one, so that it is never trapped.
Safety goes from one call to the next because `mount` hands on only superblocks that
pass the checks, and `readBitmap` only bitmaps whose numbers are right. The drive may
answer whatever it likes.
-/
import AtaVolume.Proofs.Checks
import AtaVolume.Proofs.Exact.Bitmap
import AtaVolume.Volume.Check

namespace AtaVolume

/-- How a checked call can end without a result. -/
inductive Halt
  /-- It fails as the call without checks does. -/
  | failed (e : VolumeError)
  /-- A step has no value. -/
  | trapped
  deriving DecidableEq, Repr

/-- Calls with checked steps. -/
abbrev CheckedAction (δ : Type) := EStateM Halt δ

namespace Volume

variable {δ α β : Type}

/-- The call, with none of its steps checked. -/
def unchecked (x : VolumeAction δ α) : CheckedAction δ α := EStateM.adaptExcept Halt.failed x

/-- The value of a step. -/
def value : Option α → CheckedAction δ α
  | some a => pure a
  | none => throw .trapped

/-! ## §1 Results -/

/-- A sequence of calls that ended well. -/
theorem bind_run_eq_ok {x : VolumeAction δ α} {f : α → VolumeAction δ β} {s s' : δ} {b : β} :
    (x >>= f) s = .ok b s' ↔ ∃ a t, x s = .ok a t ∧ f a t = .ok b s' := by
  simp only [bind, EStateM.bind]
  cases x s with
  | ok a t => simp
  | error e t => simp

/-- A call that fails ends what would follow it. -/
theorem bind_run_error {x : VolumeAction δ α} {e : VolumeError} {s s' : δ}
    (h : x s = .error e s') (f : α → VolumeAction δ β) : (x >>= f) s = .error e s' := by
  simp only [bind, EStateM.bind, h]

/-- A call that ends well hands on what it gives. -/
theorem bind_run_ok {x : VolumeAction δ α} {a : α} {s s' : δ} (h : x s = .ok a s')
    (f : α → VolumeAction δ β) : (x >>= f) s = f a s' := by
  simp only [bind, EStateM.bind, h]

/-- Whatever the call gives has `P`. -/
def Yields (x : VolumeAction δ α) (P : α → Prop) : Prop := ∀ s a s', x s = .ok a s' → P a

namespace Yields

variable {P : α → Prop} {Q : β → Prop} {x : VolumeAction δ α} {f : α → VolumeAction δ β}

theorem run {s s' : δ} {a : α} (hrun : x s = .ok a s') (h : Yields x P) : P a := h s a s' hrun

theorem pure {a : α} (h : P a) : Yields (Pure.pure a : VolumeAction δ α) P := by
  intro s b s' hrun
  cases hrun
  exact h

theorem throw {e : VolumeError} : Yields (throw e : VolumeAction δ α) P :=
  fun _ _ _ hrun => nomatch hrun

theorem bind (hx : Yields x P) (hf : ∀ a, P a → Yields (f a) Q) : Yields (x >>= f) Q := by
  intro s b s' hrun
  obtain ⟨a, t, ha, hb⟩ := bind_run_eq_ok.1 hrun
  exact hf a (hx s a t ha) t b s' hb

/-- What the first call gives does not matter. -/
theorem after (hf : ∀ a, Yields (f a) Q) : Yields (x >>= f) Q :=
  bind (fun _ _ _ _ => trivial : Yields x fun _ => True) fun a _ => hf a

end Yields

/-! ## §2 Safety -/

/-- The checked call `x` does what `y` does, and a result of it has `P`. -/
structure Safe (x : CheckedAction δ α) (y : VolumeAction δ α) (P : α → Prop) : Prop where
  same : x = unchecked y
  yields : Yields y P

namespace Safe

variable {x : CheckedAction δ α} {y : VolumeAction δ α} {P : α → Prop} {Q : β → Prop}
  {f : α → CheckedAction δ β} {g : α → VolumeAction δ β}

theorem pure {a : α} (h : P a) : Safe (Pure.pure a : CheckedAction δ α) (Pure.pure a) P :=
  ⟨rfl, .pure h⟩

theorem throw {e : VolumeError} :
    Safe (throw (Halt.failed e) : CheckedAction δ α) (throw e : VolumeAction δ α) P :=
  ⟨rfl, .throw⟩

/-- A call without steps of its own. -/
theorem plain (y : VolumeAction δ α) : Safe (unchecked y) y fun _ => True :=
  ⟨rfl, fun _ _ _ _ => trivial⟩

theorem bind (hx : Safe x y P) (hf : ∀ a, P a → Safe (f a) (g a) Q) :
    Safe (x >>= f) (y >>= g) Q := by
  refine ⟨?_, hx.yields.bind fun a ha => (hf a ha).yields⟩
  funext s
  rw [hx.same]
  have hyields := hx.yields s
  simp only [Bind.bind, EStateM.bind, unchecked, EStateM.adaptExcept]
  cases hy : y s with
  | ok a s' => exact congrFun (hf a (hyields a s' hy)).same s'
  | error e s' => rfl

/-- A step that has a value. -/
theorem step {o : Option β} {b : β} {f : β → CheckedAction δ α} (ho : o = some b)
    (h : Safe (f b) y P) : Safe (value o >>= f) y P := by
  rw [ho]
  exact h

/-- A call that refuses some arguments. -/
theorem refuse {p : Prop} [Decidable p] {e : VolumeError} {f : β → CheckedAction δ α}
    {g : β → VolumeAction δ α} (h : Safe x y P) :
    Safe (if p then throwThe Halt (.failed e) >>= f else x)
      (if p then throwThe VolumeError e >>= g else y) P := by
  split
  · exact throw
  · exact h

end Safe

/-! ## §3 Calls with checked steps -/

variable [BlockDevice δ]

/-- Reads the bitmap and counts its bits. -/
def readBitmap? (drive : UInt8) (sb : Superblock) : CheckedAction δ BlockBitmap := do
  let sectors ← value sb.bitmapSectors?
  let bytes ← unchecked (readSectors drive sb.bitmapStartLba sectors.toNat)
  value (BlockBitmap.ofBytes? bytes sb.totalBlocks)

/-- Reads a superblock that can be used. -/
def mount? (drive : UInt8) : CheckedAction δ Superblock := do
  let sb ← unchecked (readSuper drive)
  if !sb.isValid then throw (.failed (.invalidFilesystem sb.magic))
  match ← value sb.checkLayout?.run with
  | .error c => throw (.failed (.corrupted c))
  | .ok _ =>
    if sb.state ≠ stateClean then
      unchecked (note (.warn s!"Drive {drive} was not cleanly updated (state {sb.state})"))
    return sb

/-- Makes a file in the first free slot with the first free data block. -/
def allocate? (drive : UInt8) : CheckedAction δ (UInt32 × Index) := do
  let sb ← mount? drive
  let bitmap ← readBitmap? drive sb
  let table ← unchecked (readTable drive sb)
  let some inode := table.findFree | throw (.failed .inodeFull)
  let first ← value sb.dataStartBlock?
  let some block ← value (bitmap.firstFree? first) | throw (.failed .diskFull)
  let index ← unchecked (newIndex drive)
  let lba ← value (sb.blockLba? block)
  let record := { index with firstBlock := lba }
  let sb := { sb with state := stateDirty }
  unchecked (writeSuper drive sb)
  let marked ← value (bitmap.setUsed? block)
  unchecked (writeBitmap drive sb marked.2)
  unchecked (writeSlot drive sb inode record)
  unchecked (writeSuper drive
    { sb with freeInodes := decrease sb.freeInodes
              freeBlocks := decrease sb.freeBlocks
              state := stateClean })
  unchecked (note (.debug
    s!"allocated inode {inode} at LBA {record.firstBlock} on drive {drive}"))
  return (inode, record)

/-- Frees the slot of a file, then its block. -/
def release? (drive : UInt8) (inode : UInt32) : CheckedAction δ Index := do
  let sb ← mount? drive
  let record ← unchecked (readSlot drive sb inode)
  if record.isFree then throw (.failed (.invalidInode inode))
  let sb := { sb with state := stateDirty }
  unchecked (writeSuper drive sb)
  unchecked (writeSlot drive sb inode Index.vacant)
  let bitmap ← readBitmap? drive sb
  let block ← value (sb.lbaBlock? record.firstBlock)
  let (freed, bitmap) ← value (bitmap.setFree? block)
  unchecked (writeBitmap drive sb bitmap)
  unchecked (writeSuper drive
    { sb with freeInodes := increase sb.freeInodes sb.totalInodes
              freeBlocks := if freed then increase sb.freeBlocks sb.totalBlocks else sb.freeBlocks
              state := stateClean })
  return record

/-- The record of a slot. -/
def readIndex? (drive : UInt8) (inode : UInt32) : CheckedAction δ Index := do
  let sb ← mount? drive
  unchecked (readSlot drive sb inode)

/-- All files with their slots. -/
def listFiles? (drive : UInt8) : CheckedAction δ (List (UInt32 × Index)) := do
  let sb ← mount? drive
  return (← unchecked (readTable drive sb)).used

/-- What is wrong with a file, at most one thing. -/
def fileProblem? (sb : Superblock) (bitmap : BlockBitmap) (inode : UInt32) (record : Index) :
    Option (Option Problem) :=
  match IndexKind.ofTag? record.kind with
  | none => return some (.kind inode record.kind)
  | some _ => do
    let block ← sb.lbaBlock? record.firstBlock
    let first ← sb.dataStartBlock?
    if block < first ∨ sb.totalBlocks ≤ block then return some (.outside inode record.firstBlock)
    else if ← bitmap.isUsed? block then return none
    else return some (.markedFree inode block)

/-- Checks the volume of a drive. -/
def check? (drive : UInt8) : CheckedAction δ CheckReport := do
  let sb ← mount? drive
  let bitmap ← readBitmap? drive sb
  let table ← unchecked (readTable drive sb)
  let files ← value (table.used.mapM fun (inode, record) => fileProblem? sb bitmap inode record)
  return { freeBlocksRecorded := sb.freeBlocks
           freeBlocksCounted := bitmap.freeCount
           freeInodesRecorded := sb.freeInodes
           freeInodesCounted := table.freeCount
           problems :=
            problemIf (sb.state != stateClean) (.unfinished sb.state)
              ++ problemIf (sb.freeBlocks != bitmap.freeCount)
                (.freeBlocks sb.freeBlocks bitmap.freeCount)
              ++ problemIf (sb.freeInodes != table.freeCount)
                (.freeInodes sb.freeInodes table.freeCount)
              ++ files.filterMap id }

/-! ## §4 They are safe -/

variable (drive : UInt8)

theorem readBitmap_safe (sb : Superblock) :
    Safe (readBitmap? drive sb : CheckedAction δ BlockBitmap) (readBitmap drive sb)
      fun bitmap => bitmap.Counted ∧ bitmap.total = sb.totalBlocks := by
  unfold readBitmap? readBitmap
  refine .step sb.bitmapSectors?_eq (.bind (.plain _) fun bytes _ => ?_)
  rw [BlockBitmap.ofBytes?_eq]
  exact .pure ⟨BlockBitmap.counted_ofBytes _ _, rfl⟩

theorem mount_safe :
    Safe (mount? drive : CheckedAction δ Superblock) (mount drive) Superblock.LaidOut := by
  unfold mount? mount
  refine .bind (.plain _) fun sb _ => .refuse (.step sb.checkLayout?_eq ?_)
  cases hlayout : sb.checkLayout with
  | error c => exact .throw
  | ok _ =>
    have hsb := Superblock.laidOut_of_checkLayout hlayout
    simp only
    split
    · exact .bind (.plain _) fun _ _ => .pure hsb
    · exact .pure hsb

theorem allocate_safe :
    Safe (allocate? drive : CheckedAction δ (UInt32 × Index)) (allocate drive) fun _ => True := by
  unfold allocate? allocate
  refine .bind (mount_safe drive) fun sb hsb => ?_
  refine .bind (readBitmap_safe drive sb) fun bitmap hbitmap => ?_
  refine .bind (.plain _) fun table _ => ?_
  cases table.findFree with
  | none => exact .throw
  | some inode =>
    refine .step sb.dataStartBlock?_eq (.step (BlockBitmap.firstFree?_eq hbitmap.1.size _) ?_)
    cases hfree : bitmap.firstFree sb.dataStartBlock with
    | none => exact .throw
    | some block =>
      obtain ⟨hfirst, hblock, -⟩ := BlockBitmap.firstFree_eq_some hfree
      rw [hbitmap.2] at hblock
      have hdata := hsb.blocks block (UInt32.le_iff_toNat_le.2 hfirst)
        (UInt32.lt_iff_toNat_lt.2 hblock)
      refine .bind (.plain _) fun index _ => .step (sb.blockLba?_eq hdata) ?_
      refine .bind (.plain _) fun _ _ => .step (BlockBitmap.setUsed?_eq hbitmap.1 block) ?_
      refine .bind (.plain _) fun _ _ => .bind (.plain _) fun _ _ => .bind (.plain _) fun _ _ => ?_
      exact .bind (.plain _) fun _ _ => .pure trivial

theorem release_safe (inode : UInt32) :
    Safe (release? drive inode : CheckedAction δ Index) (release drive inode) fun _ => True := by
  unfold release? release
  refine .bind (mount_safe drive) fun sb _ => ?_
  refine .bind (.plain _) fun record _ => .refuse ?_
  refine .bind (.plain _) fun _ _ => .bind (.plain _) fun _ _ => ?_
  refine .bind (readBitmap_safe drive _) fun bitmap hbitmap => ?_
  refine .step (Superblock.lbaBlock?_eq _ _) (.step (BlockBitmap.setFree?_eq hbitmap.1 _) ?_)
  exact .bind (.plain _) fun _ _ => .bind (.plain _) fun _ _ => .pure trivial

theorem readIndex_safe (inode : UInt32) :
    Safe (readIndex? drive inode : CheckedAction δ Index) (readIndex drive inode) fun _ => True :=
  .bind (mount_safe drive) fun _ _ => .plain _

theorem listFiles_safe :
    Safe (listFiles? drive : CheckedAction δ (List (UInt32 × Index))) (listFiles drive)
      fun _ => True :=
  .bind (mount_safe drive) fun _ _ => .bind (.plain _) fun _ _ => .pure trivial

theorem fileProblem?_eq (sb : Superblock) {bitmap : BlockBitmap} (h : bitmap.Counted)
    (inode : UInt32) (record : Index) :
    fileProblem? sb bitmap inode record = some (fileProblem sb bitmap inode record) := by
  unfold fileProblem? fileProblem
  cases IndexKind.ofTag? record.kind with
  | none => rfl
  | some kind =>
    simp only [sb.lbaBlock?_eq, sb.dataStartBlock?_eq, BlockBitmap.isUsed?_eq h,
      Option.bind_eq_bind, Option.bind_some]
    split
    · rfl
    · split <;> rfl

theorem check_safe :
    Safe (check? drive : CheckedAction δ CheckReport) (check drive) fun _ => True := by
  unfold check? check
  refine .bind (mount_safe drive) fun sb _ => ?_
  refine .bind (readBitmap_safe drive sb) fun bitmap hbitmap => ?_
  refine .bind (.plain _) fun table _ => ?_
  have hfiles := mapM_eq_some table.used fun file _ =>
    fileProblem?_eq sb hbitmap.1 file.1 file.2
  refine .step hfiles ?_
  rw [List.filterMap_map]
  exact .pure trivial

/-- No call on the volume of a drive is trapped: with all steps checked, it does the same. -/
structure Untrapped (δ : Type) [BlockDevice δ] (drive : UInt8) : Prop where
  mount : (mount? drive : CheckedAction δ _) = unchecked (mount drive)
  readBitmap : ∀ sb, (readBitmap? drive sb : CheckedAction δ _) = unchecked (readBitmap drive sb)
  allocate : (allocate? drive : CheckedAction δ _) = unchecked (allocate drive)
  release : ∀ inode, (release? drive inode : CheckedAction δ _) = unchecked (release drive inode)
  readIndex : ∀ inode,
    (readIndex? drive inode : CheckedAction δ _) = unchecked (readIndex drive inode)
  listFiles : (listFiles? drive : CheckedAction δ _) = unchecked (listFiles drive)
  check : (check? drive : CheckedAction δ _) = unchecked (check drive)

theorem untrapped : Untrapped δ drive where
  mount := (mount_safe drive).same
  readBitmap sb := (readBitmap_safe drive sb).same
  allocate := (allocate_safe drive).same
  release inode := (release_safe drive inode).same
  readIndex inode := (readIndex_safe drive inode).same
  listFiles := (listFiles_safe drive).same
  check := (check_safe drive).same

end Volume

/-- **The checks of a superblock are enough.** They have a result on every superblock.
If that is to accept it, the areas of the volume, its index slots and its blocks are in
their places; and no call on a volume, which makes the checks first, has a step that
leaves the 32 bits or looks behind the end of an array, whatever is on the drive. -/
theorem Superblock.checkLayout_guards (sb : Superblock) :
    sb.checkLayout?.run = some sb.checkLayout ∧ (sb.checkLayout = .ok () → sb.LaidOut)
      ∧ ∀ (δ : Type) [BlockDevice δ] (drive : UInt8), Volume.Untrapped δ drive :=
  ⟨sb.checkLayout?_eq, laidOut_of_checkLayout, fun _ _ drive => Volume.untrapped drive⟩

/-- The superblock of a volume of 2048 sectors is accepted. -/
theorem Superblock.checkLayout_guards_small :
    (forSize 2048).checkLayout = .ok () ∧ (forSize 2048).LaidOut :=
  ⟨rfl, (checkLayout_guards (forSize 2048)).2.1 rfl⟩

end AtaVolume
