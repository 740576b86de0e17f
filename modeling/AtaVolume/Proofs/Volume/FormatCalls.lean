/-
AtaVolume.Proofs.Volume.FormatCalls — the calls that a format makes, and where it stops.

A format writes the superblock, reads it back if that is wanted, writes the bitmap and then
the index table. The device may fail at each of these calls, and it may store something
else. `FormatEnds` lists how a format can end, with the calls that were made until then:
there is nothing behind a call that failed, nor behind a superblock that reads back
other than it was written. Which sectors an end leaves as they were is read off from
the list, because the areas of a new volume lie apart.
-/
import AtaVolume.Proofs.Device.Recorder
import AtaVolume.Proofs.Exact.Calls
import AtaVolume.Proofs.Volume.Calls

namespace AtaVolume

namespace Superblock

/-! ## §1 Comparing superblocks -/

/-- Two superblocks have the same values where they are compared. -/
structure AgreesWith (sb onDisk : Superblock) : Prop where
  magic : onDisk.magic = sb.magic
  blockSize : onDisk.blockSize = sb.blockSize
  totalBlocks : onDisk.totalBlocks = sb.totalBlocks
  freeBlocks : onDisk.freeBlocks = sb.freeBlocks
  totalInodes : onDisk.totalInodes = sb.totalInodes
  freeInodes : onDisk.freeInodes = sb.freeInodes

/-- The field is the first one, in this order, in which two superblocks differ. -/
structure DiffersFirst (sb onDisk : Superblock) (field : VerifiedField) : Prop where
  differs : sb.verifiedValue field ≠ onDisk.verifiedValue field
  first : ∃ front back,
    [.magic, .blockSize, .totalBlocks, .freeBlocks, .totalInodes, .freeInodes]
      = front ++ field :: back
      ∧ ∀ f ∈ front, sb.verifiedValue f = onDisk.verifiedValue f

variable {sb onDisk : Superblock} {field : VerifiedField}

/-- **The comparison names the first field that differs**, with both values. -/
theorem verify_cases (sb onDisk : Superblock) :
    (sb.verify onDisk = .ok () ∧ sb.AgreesWith onDisk)
      ∨ ∃ field, sb.verify onDisk = .error (.verificationFailed field (sb.verifiedValue field)
          (onDisk.verifiedValue field)) ∧ sb.DiffersFirst onDisk field := by
  unfold verify
  cases hfind : verifiedFields.find? fun f => sb.verifiedValue f != onDisk.verifiedValue f with
  | none =>
    have hequal : ∀ f ∈ verifiedFields, onDisk.verifiedValue f = sb.verifiedValue f := by
      intro f hf
      have hsame := List.find?_eq_none.1 hfind f hf
      rw [bne_iff_ne, ne_eq, not_not] at hsame
      exact hsame.symm
    refine .inl ⟨rfl, ?_, ?_, ?_, ?_, ?_, ?_⟩
    · exact UInt16.toNat_inj.1 (hequal .magic (by decide))
    · exact UInt16.toNat_inj.1 (hequal .blockSize (by decide))
    · exact UInt32.toNat_inj.1 (hequal .totalBlocks (by decide))
    · exact UInt32.toNat_inj.1 (hequal .freeBlocks (by decide))
    · exact UInt32.toNat_inj.1 (hequal .totalInodes (by decide))
    · exact UInt32.toNat_inj.1 (hequal .freeInodes (by decide))
  | some field =>
    obtain ⟨hdiffers, front, back, hsplit, hfront⟩ := List.find?_eq_some_iff_append.1 hfind
    refine .inr ⟨field, rfl, bne_iff_ne.1 hdiffers, front, back, hsplit, fun f hf => ?_⟩
    simpa using hfront f hf

end Superblock

namespace Volume

open Recorder

/-! ## §2 The calls of a format -/

section Ends

variable (drive : UInt8) (verify : Bool) (sb : Superblock)

/-- The superblock is written. -/
abbrev superCall (result : Except AtaError Unit) : DriveCall :=
  .write drive 1 sb.encode.toBytes result

/-- The bitmap is written. -/
abbrev bitmapCall (result : Except AtaError Unit) : DriveCall :=
  .write drive sb.bitmapStartLba (BlockBitmap.blank sb.totalBlocks).toBytes result

/-- The index table is written. -/
abbrev tableCall (result : Except AtaError Unit) : DriveCall :=
  .write drive sb.inodeTableLba (zeroes (indexSlots.toNat * sectorSize)) result

/-- The calls for a superblock that is on the drive, as far as one can tell. -/
inductive SuperMade : List DriveCall → Prop
  | unread (h : verify = false) : SuperMade [superCall drive sb (.ok ())]
  | read (h : verify = true) {bytes : Bytes} (agrees : sb.AgreesWith (.decode bytes)) :
    SuperMade [superCall drive sb (.ok ()), .read drive 1 1 bytes (.ok ())]

/-- How a format of a drive that is large enough ends, and the calls that it made. -/
inductive FormatEnds : Except VolumeError Superblock → List DriveCall → Prop
  | superWrite (e : AtaError) : FormatEnds (.error (.io e)) [superCall drive sb (.error e)]
  | superRead (h : verify = true) (bytes : Bytes) (e : AtaError) :
    FormatEnds (.error (.io e))
      [superCall drive sb (.ok ()), .read drive 1 1 bytes (.error e)]
  | superDiffers (h : verify = true) {bytes : Bytes} {field : VerifiedField}
    (first : sb.DiffersFirst (.decode bytes) field) :
    FormatEnds
      (.error (.verificationFailed field (sb.verifiedValue field)
        ((Superblock.decode bytes).verifiedValue field)))
      [superCall drive sb (.ok ()), .read drive 1 1 bytes (.ok ())]
  | bitmapWrite {front : List DriveCall} (super : SuperMade drive verify sb front) (e : AtaError) :
    FormatEnds (.error (.io e)) (front ++ [bitmapCall drive sb (.error e)])
  | tableWrite {front : List DriveCall} (super : SuperMade drive verify sb front) (e : AtaError) :
    FormatEnds (.error (.io e))
      (front ++ [bitmapCall drive sb (.ok ())] ++ [tableCall drive sb (.error e)])
  | done {front : List DriveCall} (super : SuperMade drive verify sb front) :
    FormatEnds (.ok sb) (front ++ [bitmapCall drive sb (.ok ())] ++ [tableCall drive sb (.ok ())])

end Ends

variable {δ : Type} [BlockDevice δ] {drive : UInt8} {verify : Bool} {sb : Superblock} {s : δ}
  {n : UInt32}

theorem plan_unknown {e : AtaError} (h : BlockDevice.totalSectors s drive = .error e) :
    plan drive s = .error (.io e) s := by
  refine bind_run_error ?_ _
  rw [totalSectors, h]

theorem plan_small (h : BlockDevice.totalSectors s drive = .ok n) (hn : n < 1024) :
    plan drive s = .error (.driveTooSmall n 1024) s := by
  have hreported : totalSectors drive s = .ok n s := by rw [totalSectors, h]
  rw [plan, bind_run_ok hreported, if_pos hn]
  rfl

theorem plan_large (h : BlockDevice.totalSectors s drive = .ok n) (hn : ¬ n < 1024) :
    plan drive s = .ok (.forSize n) s := by
  have hreported : totalSectors drive s = .ok n s := by rw [totalSectors, h]
  rw [plan, bind_run_ok hreported, if_neg hn]
  rfl

/-- The superblock is read back and compared. -/
theorem tells_verifySuper {calls : List DriveCall} {P : Except VolumeError Unit → List DriveCall → Prop}
    (hagrees : ∀ bytes, sb.AgreesWith (.decode bytes) →
      P (.ok ()) (calls ++ [.read drive 1 1 bytes (.ok ())]))
    (hread : ∀ e buffer, P (.error (.io e)) (calls ++ [.read drive 1 1 buffer (.error e)]))
    (hdiffers : ∀ bytes field, sb.DiffersFirst (.decode bytes) field →
      P (.error (.verificationFailed field (sb.verifiedValue field)
          ((Superblock.decode bytes).verifiedValue field)))
        (calls ++ [.read drive 1 1 bytes (.ok ())])) :
    Tells (verifySuper drive sb : VolumeAction (Recorder δ) Unit) calls P := by
  unfold verifySuper readSuper
  refine .bind (.bind (tells_readSector (fun bytes => .pure ?_) hread))
  rcases sb.verify_cases (.decode bytes) with ⟨hverify, hsame⟩ | ⟨field, hverify, hfirst⟩
  · simp only [Next, hverify]
    exact tells_note _ (hagrees bytes hsame)
  · simp only [Next, hverify]
    exact .bind (tells_note _ (.throw (hdiffers bytes field hfirst)))

/-- What is left of a format once the superblock is on the drive. -/
theorem tells_writeAreas {front : List DriveCall} (hfront : SuperMade drive verify sb front) :
    Tells (do
        writeBitmap drive sb (BlockBitmap.blank sb.totalBlocks)
        write drive sb.inodeTableLba (zeroes (indexSlots.toNat * sectorSize))
        note (.info s!"Drive {drive} formatted")
        return sb : VolumeAction (Recorder δ) Superblock)
      front (FormatEnds drive verify sb) := by
  have htotal : ¬ (BlockBitmap.blank sb.totalBlocks).total ≠ sb.totalBlocks := not_not_intro rfl
  unfold writeBitmap
  rw [if_neg htotal]
  refine .bind (tells_write ?_ fun e => .bitmapWrite hfront e)
  refine .bind (tells_write ?_ fun e => .tableWrite hfront e)
  exact .bind (tells_note _ (.pure (.done hfront)))

/-- **Every end of a format is in the list.** -/
theorem formatEnds (h : BlockDevice.totalSectors s drive = .ok n) (hn : ¬ n < 1024) :
    FormatEnds drive verify (.forSize n) (ended (format drive verify (⟨s, []⟩ : Recorder δ)))
      (made (format drive verify (⟨s, []⟩ : Recorder δ))) := by
  have hplan : plan drive (⟨s, []⟩ : Recorder δ) = .ok (.forSize n) ⟨s, []⟩ := plan_large h hn
  rw [format, bind_run_ok hplan]
  refine (show Tells _ [] (FormatEnds drive verify (.forSize n)) from ?_) ⟨s, []⟩ rfl
  refine .bind (tells_note _ (.bind (tells_write ?_ fun e => .superWrite e)))
  cases verify with
  | false => exact tells_writeAreas (.unread rfl)
  | true =>
    refine .bind (tells_verifySuper (fun bytes hsame => ?_) ?_ ?_)
    · exact tells_writeAreas (.read rfl hsame)
    · exact fun e bytes => .superRead rfl bytes e
    · exact fun bytes field hfirst => .superDiffers rfl hfirst

/-! ## §3 Where the calls go -/

theorem writes_superCall {result : Except AtaError Unit} {j : Nat}
    (h : (superCall drive sb result).Writes j) : j = 1 := by
  have hsize : wholeSectors sb.encode.toBytes = 1 := by
    rw [wholeSectors, Sector.size_toBytes]
    rfl
  have hrange : 1 ≤ j ∧ j < 1 + wholeSectors sb.encode.toBytes := h
  omega

section Large

variable (hn : ¬ n < 1024)

include hn

/-- The index table starts behind the bitmap, which has at least one sector. -/
theorem table_behind_bitmap :
    2 + (Superblock.blockCount n + 4095) / 4096 ≤ (Superblock.forSize n).inodeTableLba.toNat
      ∧ 1 ≤ Superblock.blockCount n := by
  have hordered := Superblock.layout_ordered n (by rwa [UInt32.lt_iff_toNat_lt, Nat.not_lt] at hn)
  have hspan := Superblock.bitmapSpan_eq n
  have hbitmap := hordered.bitmap
  have hroom := hordered.room
  exact ⟨hspan ▸ hbitmap, by omega⟩

/-- The bitmap ends in front of the index table. -/
theorem writes_bitmapCall {result : Except AtaError Unit} {j : Nat}
    (h : (bitmapCall drive (.forSize n) result).Writes j) :
    j < (Superblock.forSize n).inodeTableLba.toNat := by
  have htable := (table_behind_bitmap hn).1
  have hsize : wholeSectors (BlockBitmap.blank (Superblock.forSize n).totalBlocks).toBytes
      = (Superblock.blockCount n + 4095) / 4096 := by
    rw [wholeSectors, BlockBitmap.size_toBytes (size_zeroes _)]
    exact Nat.mul_div_cancel _ (by decide)
  have hlast : j < 2 + wholeSectors (BlockBitmap.blank (Superblock.forSize n).totalBlocks).toBytes :=
    h.2
  omega

theorem tableLba_ne {lba : UInt32} (hlba : lba.toNat ≤ 2) :
    (Superblock.forSize n).inodeTableLba ≠ lba := by
  have htable := table_behind_bitmap hn
  rintro rfl
  omega

end Large

namespace SuperMade

variable {front : List DriveCall} (h : SuperMade drive verify sb front)

include h

/-- These calls went well. -/
theorem result_eq {c : DriveCall} (hc : c ∈ front) : c.result = .ok () := by
  cases h with
  | unread =>
    obtain rfl := List.mem_singleton.1 hc
    rfl
  | read =>
    rcases List.mem_pair.1 hc with rfl | rfl <;> rfl

/-- They were for the superblock. -/
theorem writes {c : DriveCall} (hc : c ∈ front) {j : Nat} (hj : c.Writes j) : j = 1 := by
  cases h with
  | unread =>
    obtain rfl := List.mem_singleton.1 hc
    exact writes_superCall hj
  | read =>
    rcases List.mem_pair.1 hc with rfl | rfl
    · exact writes_superCall hj
    · exact hj.elim

/-- What was read back was right. -/
theorem agrees {bytes : Bytes} (hc : .read drive 1 1 bytes (.ok ()) ∈ front) :
    sb.AgreesWith (.decode bytes) := by
  cases h with
  | unread => cases List.mem_singleton.1 hc
  | read _ hsame =>
    rcases List.mem_pair.1 hc with heq | heq
    · cases heq
    · cases heq
      exact hsame

/-- So it was if it was read back at all: the calls that follow are writes. -/
theorem agrees_followed {rest : List DriveCall} {bytes : Bytes}
    (hread : .read drive 1 1 bytes (.ok ()) ∈ front ++ rest)
    (hrest : ∀ c ∈ rest, c ≠ .read drive 1 1 bytes (.ok ())) : sb.AgreesWith (.decode bytes) := by
  rcases List.mem_append.1 hread with hread | hread
  · exact h.agrees hread
  · exact absurd rfl (hrest _ hread)

/-- If it was wanted, the superblock was read back. -/
theorem exists_read (hverify : verify = true) :
    ∃ bytes, .read drive 1 1 bytes (.ok ()) ∈ front ∧ sb.AgreesWith (.decode bytes) := by
  cases h with
  | unread hnot => cases hverify.symm.trans hnot
  | read _ hsame => exact ⟨_, List.mem_pair.2 (.inr rfl), hsame⟩

end SuperMade

/-! ## §4 Where a format stops -/

/-- The superblock could not be written or read back, or reads back otherwise. -/
def SuperFails (last : Except VolumeError Superblock) (calls : List DriveCall) : Prop :=
  (∃ c ∈ calls, c.lba = 1 ∧ ∃ e, c.result = .error e)
    ∨ ∃ field expected found, last = .error (.verificationFailed field expected found)

namespace FormatEnds

variable {last : Except VolumeError Superblock} {calls : List DriveCall}

/-- A call that fails ends the format with its error. -/
theorem io (h : FormatEnds drive verify sb last calls) :
    ∀ c ∈ calls, ∀ e, c.result = .error e → last = .error (.io e) := by
  have hok : ∀ {c : DriveCall}, c.result = .ok () →
      ∀ e, c.result = .error e → last = .error (.io e) :=
    fun hresult e he => nomatch hresult.symm.trans he
  cases h with
  | superWrite e =>
    exact List.forall_mem_singleton.2 fun _ he => by cases he; rfl
  | superRead _ _ e =>
    refine List.forall_mem_cons.2 ⟨hok rfl, List.forall_mem_singleton.2 fun _ he => ?_⟩
    cases he
    rfl
  | superDiffers =>
    exact List.forall_mem_cons.2 ⟨hok rfl, List.forall_mem_singleton.2 (hok rfl)⟩
  | bitmapWrite hsuper e =>
    refine List.forall_mem_append.2
      ⟨fun c hc => hok (hsuper.result_eq hc), List.forall_mem_singleton.2 fun _ he => ?_⟩
    cases he
    rfl
  | tableWrite hsuper e =>
    refine List.forall_mem_append.2 ⟨List.forall_mem_append.2
      ⟨fun c hc => hok (hsuper.result_eq hc), List.forall_mem_singleton.2 (hok rfl)⟩,
      List.forall_mem_singleton.2 fun _ he => ?_⟩
    cases he
    rfl
  | done hsuper =>
    exact List.forall_mem_append.2 ⟨List.forall_mem_append.2
      ⟨fun c hc => hok (hsuper.result_eq hc), List.forall_mem_singleton.2 (hok rfl)⟩,
      List.forall_mem_singleton.2 (hok rfl)⟩

/-- An error of the device is that of a call. -/
theorem cause (h : FormatEnds drive verify sb last calls) {e : AtaError}
    (hlast : last = .error (.io e)) : ∃ c ∈ calls, c.result = .error e := by
  cases h with
  | superWrite =>
    cases hlast
    exact ⟨_, List.mem_singleton_self _, rfl⟩
  | superRead =>
    cases hlast
    exact ⟨_, List.mem_pair.2 (.inr rfl), rfl⟩
  | superDiffers => cases hlast
  | bitmapWrite =>
    cases hlast
    exact ⟨_, List.mem_append_right _ (List.mem_singleton_self _), rfl⟩
  | tableWrite =>
    cases hlast
    exact ⟨_, List.mem_append_right _ (List.mem_singleton_self _), rfl⟩
  | done => cases hlast

/-- Behind the superblock, calls are made only if it is known to be on the drive. -/
theorem not_superFails {front rest : List DriveCall} (hsuper : SuperMade drive verify sb front)
    (hrest : ∀ c ∈ rest, c.lba ≠ 1)
    (hlast : ∀ field expected found, last ≠ .error (.verificationFailed field expected found)) :
    ¬ SuperFails last (front ++ rest) := by
  rintro (⟨c, hc, hlba, e, he⟩ | ⟨field, expected, found, hverification⟩)
  · rcases List.mem_append.1 hc with hc | hc
    · cases (hsuper.result_eq hc).symm.trans he
    · exact hrest c hc hlba
  · exact hlast _ _ _ hverification

/-- **No sector but that of the superblock is written if the superblock fails.** -/
theorem super (h : FormatEnds drive verify (.forSize n) last calls) (hn : ¬ n < 1024)
    (hfails : SuperFails last calls) : ∀ c ∈ calls, ∀ j, c.Writes j → j = 1 := by
  have htable : (Superblock.forSize n).inodeTableLba ≠ 1 := tableLba_ne hn (by decide)
  have hbitmap : (Superblock.forSize n).bitmapStartLba ≠ 1 := by
    show bitmapStart ≠ 1
    decide
  cases h with
  | superWrite => exact List.forall_mem_singleton.2 fun _ => writes_superCall
  | superRead =>
    exact List.forall_mem_cons.2 ⟨fun _ => writes_superCall,
      List.forall_mem_singleton.2 fun _ hj => hj.elim⟩
  | superDiffers =>
    exact List.forall_mem_cons.2 ⟨fun _ => writes_superCall,
      List.forall_mem_singleton.2 fun _ hj => hj.elim⟩
  | bitmapWrite hsuper =>
    exact absurd hfails (not_superFails hsuper (List.forall_mem_singleton.2 hbitmap) nofun)
  | tableWrite hsuper =>
    rw [List.append_assoc] at hfails
    exact absurd hfails (not_superFails hsuper
      (List.forall_mem_cons.2 ⟨hbitmap, List.forall_mem_singleton.2 htable⟩) nofun)
  | done hsuper =>
    rw [List.append_assoc] at hfails
    exact absurd hfails (not_superFails hsuper
      (List.forall_mem_cons.2 ⟨hbitmap, List.forall_mem_singleton.2 htable⟩) nofun)

/-- **No sector of the index table is written if the bitmap fails.** -/
theorem bitmap (h : FormatEnds drive verify (.forSize n) last calls) (hn : ¬ n < 1024)
    {data : Bytes} {e : AtaError} (hfails : .write drive 2 data (.error e) ∈ calls) :
    ∀ c ∈ calls, ∀ j, c.Writes j → j < (Superblock.forSize n).inodeTableLba.toNat := by
  have htable := table_behind_bitmap hn
  have hsuper : ∀ {result : Except AtaError Unit} j,
      (superCall drive (.forSize n) result).Writes j →
      j < (Superblock.forSize n).inodeTableLba.toNat := by
    intro result j hj
    have hone := writes_superCall hj
    omega
  -- the bitmap was written if there is a call for the index table
  have hwritten : ∀ {front result}, SuperMade drive verify (.forSize n) front →
      .write drive 2 data (.error e) ∉ front ++ [bitmapCall drive (.forSize n) (.ok ())]
        ++ [tableCall drive (.forSize n) result] := by
    intro front result hfront hmem
    rw [List.mem_append, List.mem_append, List.mem_singleton, List.mem_singleton] at hmem
    rcases hmem with (hmem | hmem) | hmem
    · cases hfront.result_eq hmem
    · cases hmem
    · exact tableLba_ne hn (by decide) (DriveCall.write.inj hmem).2.1.symm
  cases h with
  | superWrite => exact List.forall_mem_singleton.2 hsuper
  | superRead =>
    exact List.forall_mem_cons.2 ⟨hsuper, List.forall_mem_singleton.2 fun _ hj => hj.elim⟩
  | superDiffers =>
    exact List.forall_mem_cons.2 ⟨hsuper, List.forall_mem_singleton.2 fun _ hj => hj.elim⟩
  | bitmapWrite hfront =>
    refine List.forall_mem_append.2 ⟨fun c hc j hj => ?_,
      List.forall_mem_singleton.2 fun _ => writes_bitmapCall hn⟩
    have hone := hfront.writes hc hj
    omega
  | tableWrite hfront => exact absurd hfails (hwritten hfront)
  | done hfront => exact absurd hfails (hwritten hfront)

/-- **With a comparison there is a new volume only if it found no difference.** -/
theorem verified (h : FormatEnds drive verify sb last calls) (hverify : verify = true)
    {sb' : Superblock} (hlast : last = .ok sb') :
    sb' = sb ∧ ∃ bytes, .read drive 1 1 bytes (.ok ()) ∈ calls ∧ sb.AgreesWith (.decode bytes) := by
  cases h with
  | done hfront =>
    cases hlast
    obtain ⟨bytes, hread, hsame⟩ := hfront.exists_read hverify
    exact ⟨rfl, bytes, List.mem_append_left _ (List.mem_append_left _ hread), hsame⟩
  | _ => cases hlast

/-- **A difference ends the format**, which names the first one. -/
theorem differs (h : FormatEnds drive verify sb last calls) {bytes : Bytes}
    (hread : .read drive 1 1 bytes (.ok ()) ∈ calls) (hother : ¬ sb.AgreesWith (.decode bytes)) :
    ∃ field, sb.DiffersFirst (.decode bytes) field
      ∧ last = .error (.verificationFailed field (sb.verifiedValue field)
        ((Superblock.decode bytes).verifiedValue field)) := by
  cases h with
  | superWrite => cases List.mem_singleton.1 hread
  | superRead => rcases List.mem_pair.1 hread with heq | heq <;> cases heq
  | superDiffers _ hfirst =>
    rcases List.mem_pair.1 hread with heq | heq
    · cases heq
    · cases heq
      exact ⟨_, hfirst, rfl⟩
  | bitmapWrite hfront =>
    exact absurd (hfront.agrees_followed hread (List.forall_mem_singleton.2 nofun)) hother
  | tableWrite hfront =>
    rw [List.append_assoc] at hread
    exact absurd (hfront.agrees_followed hread
      (List.forall_mem_cons.2 ⟨nofun, List.forall_mem_singleton.2 nofun⟩)) hother
  | done hfront =>
    rw [List.append_assoc] at hread
    exact absurd (hfront.agrees_followed hread
      (List.forall_mem_cons.2 ⟨nofun, List.forall_mem_singleton.2 nofun⟩)) hother

end FormatEnds

/-- Where a format of a drive stops, told by its end and the calls that it made. -/
structure FormatStops (drive : UInt8) (verify : Bool) (s : δ)
    (last : Except VolumeError Superblock) (calls : List DriveCall) : Prop where
  unknown : ∀ e, BlockDevice.totalSectors s drive = .error e → last = .error (.io e) ∧ calls = []
  tooSmall : ∀ n, BlockDevice.totalSectors s drive = .ok n → n < 1024 →
    last = .error (.driveTooSmall n 1024) ∧ calls = []
  super : SuperFails last calls → ∀ c ∈ calls, ∀ j, c.Writes j → j = 1
  bitmap : ∀ n, BlockDevice.totalSectors s drive = .ok n →
    (∃ data e, .write drive 2 data (.error e) ∈ calls) →
    ∀ c ∈ calls, ∀ j, c.Writes j →
      ¬ ((Superblock.forSize n).inodeTableLba.toNat ≤ j
        ∧ j < (Superblock.forSize n).inodeTableLba.toNat + 128)
  /-- An error of the device ends the format as it is. -/
  io : ∀ c ∈ calls, ∀ e, c.result = .error e → last = .error (.io e)
  /-- There are no other errors of the device. -/
  cause : ∀ e, last = .error (.io e) →
    BlockDevice.totalSectors s drive = .error e ∨ ∃ c ∈ calls, c.result = .error e
  verified : verify = true → ∀ sb, last = .ok sb →
    ∃ n bytes, BlockDevice.totalSectors s drive = .ok n ∧ sb = .forSize n
      ∧ .read drive 1 1 bytes (.ok ()) ∈ calls
      ∧ (Superblock.forSize n).AgreesWith (.decode bytes)
  differs : ∀ n bytes, BlockDevice.totalSectors s drive = .ok n →
    .read drive 1 1 bytes (.ok ()) ∈ calls →
    ¬ (Superblock.forSize n).AgreesWith (.decode bytes) →
    ∃ field, (Superblock.forSize n).DiffersFirst (.decode bytes) field
      ∧ last = .error (.verificationFailed field ((Superblock.forSize n).verifiedValue field)
        ((Superblock.decode bytes).verifiedValue field))

/-- A format that was refused for the size of its drive has made no call. -/
theorem FormatStops.without_calls {e : VolumeError}
    (hio : ∀ cause, BlockDevice.totalSectors s drive = .error cause ↔ e = .io cause)
    (hsmall : ∀ n, BlockDevice.totalSectors s drive = .ok n → e = .driveTooSmall n 1024) :
    FormatStops drive verify s (.error e) [] where
  unknown cause h := ⟨congrArg Except.error ((hio cause).1 h), rfl⟩
  tooSmall n h _ := ⟨congrArg Except.error (hsmall n h), rfl⟩
  super _ _ hc := nomatch hc
  bitmap _ _ _ _ hc := nomatch hc
  io _ hc := nomatch hc
  cause _ h := .inl ((hio _).2 (Except.error.inj h))
  verified _ _ h := nomatch h
  differs _ _ _ hread := nomatch hread

/-- The other ends are those in the list. -/
theorem FormatEnds.stops {last : Except VolumeError Superblock} {calls : List DriveCall}
    (h : FormatEnds drive verify (.forSize n) last calls)
    (htotal : BlockDevice.totalSectors s drive = .ok n) (hn : ¬ n < 1024) :
    FormatStops drive verify s last calls where
  unknown _ he := nomatch htotal.symm.trans he
  tooSmall n' hn' hlt := by
    cases htotal.symm.trans hn'
    exact absurd hlt hn
  super := h.super hn
  bitmap n' hn' hfails c hc j hj hin := by
    cases htotal.symm.trans hn'
    obtain ⟨data, e, hcall⟩ := hfails
    exact Nat.not_le.2 (h.bitmap hn hcall c hc j hj) hin.1
  io := h.io
  cause _ he := .inr (h.cause he)
  verified hverify sb hsb := by
    obtain ⟨hsame, bytes, hread, hagrees⟩ := h.verified hverify hsb
    exact ⟨n, bytes, htotal, hsame, hread, hagrees⟩
  differs n' bytes hn' hread hother := by
    cases htotal.symm.trans hn'
    exact h.differs hread hother

/-- **A format stops at its first failure**, on any device. The calls it makes are those that
a recorder keeps; on the device itself it ends in the same way, and no sector of a drive
that keeps to its writes has changed but those that were written. -/
theorem format_stops (drive : UInt8) (verify : Bool) (s : δ) :
    let run := format drive verify (⟨s, []⟩ : Recorder δ)
    EndsAlike (Follows drive s) run (format drive verify s)
      ∧ FormatStops drive verify s (ended run) (made run) := by
  intro run
  refine ⟨format_alike (drivesAlike drive s) verify _ _ (follows_start drive s), ?_⟩
  cases htotal : BlockDevice.totalSectors s drive with
  | error cause =>
    have hplan : plan drive (⟨s, []⟩ : Recorder δ) = .error (.io cause) ⟨s, []⟩ :=
      plan_unknown htotal
    have hrun : run = .error (.io cause) ⟨s, []⟩ := bind_run_error hplan _
    rw [hrun]
    refine .without_calls (fun e => ?_) fun n hn => nomatch htotal.symm.trans hn
    rw [htotal, Except.error.injEq, VolumeError.io.injEq]
  | ok n =>
    by_cases hsmall : n < 1024
    · have hplan : plan drive (⟨s, []⟩ : Recorder δ) = .error (.driveTooSmall n 1024) ⟨s, []⟩ :=
        plan_small htotal hsmall
      have hrun : run = .error (.driveTooSmall n 1024) ⟨s, []⟩ := bind_run_error hplan _
      rw [hrun]
      refine .without_calls (fun e => ?_) fun n' hn' => ?_
      · rw [htotal]
        exact ⟨nofun, nofun⟩
      · cases htotal.symm.trans hn'
        rfl
    · exact (formatEnds htotal hsmall).stops htotal hsmall

end Volume

end AtaVolume
