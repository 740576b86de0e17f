/-
AtaVolume.Proofs.Media.Interchange — the kinds of media can take each other's place.

A medium is used by calls that read, write and flush. What a call answers on a medium that
was blank follows from the calls before it (`MediumCall.answerAfter`): it is refused exactly
if it names a sector behind the end, and a read brings what was written last. Each kind of
medium gives this answer, whatever it keeps its sectors in (`Shows.perform`), so by
induction over the calls all of them answer alike (`Shows.run`).

What they keep is told apart after that: a sparse medium as many sectors as were written
(`SparseMedium.Holds`), an image a file of exactly its own size (`FileImage.Exact`), which can
be opened again with any other one.
-/
import Mathlib.Data.Finset.Card
import Mathlib.Data.Finset.Option
import AtaVolume.Proofs.Machine.Directory
import AtaVolume.Proofs.Media.Content
import AtaVolume.Proofs.Media.FileBytes

namespace AtaVolume

/-! ## §1 Calls -/

/-- A call on a medium. A read is given the buffer that it is to fill. -/
inductive MediumCall
  | read (lba : UInt32) (buffer : Sector)
  | write (lba : UInt32) (data : Sector)
  | flush

/-- How a call has ended, and what a read has left in its buffer. -/
structure MediumAnswer where
  result : Except MediumError Unit
  buffer : Option Sector

namespace MediumCall

/-- The sector that a call names. -/
def sector? : MediumCall → Option UInt32
  | read lba _ | write lba _ => some lba
  | flush => none

/-- The buffer that a call is given to fill. -/
def buffer? : MediumCall → Option Sector
  | read _ buffer => some buffer
  | _ => none

/-- Makes a call: what it answers, and the medium after it. -/
def perform (call : MediumCall) (medium : Medium) : MediumAnswer × Medium :=
  match call with
  | read lba buffer =>
    match medium.readSector lba with
    | .ok data => (⟨.ok (), some data⟩, medium)
    | .error e => (⟨.error e, some buffer⟩, medium)
  | write lba data =>
    match Medium.writeSector lba data medium with
    | .ok _ medium => (⟨.ok (), none⟩, medium)
    | .error e medium => (⟨.error e, none⟩, medium)
  | flush =>
    match Medium.flush medium with
    | .ok _ medium => (⟨.ok (), none⟩, medium)
    | .error e medium => (⟨.error e, none⟩, medium)

/-- Makes calls one after the other: what they answer, and the medium after them. -/
def run : List MediumCall → Medium → List MediumAnswer × Medium
  | [], medium => ([], medium)
  | call :: calls, medium =>
    let rest := run calls (call.perform medium).2
    ((call.perform medium).1 :: rest.1, rest.2)

/-! ## §2 Answers -/

/-- The data that a call brings to a sector. -/
def dataFor (lba : UInt32) : MediumCall → Option Sector
  | write lba' data => if lba' = lba then some data else none
  | _ => none

/-- What calls have written last to a sector; zeros if none has. -/
def lastWritten (calls : List MediumCall) (lba : UInt32) : Sector :=
  (calls.filterMap (dataFor lba)).getLast?.getD Sector.zero

/-- The sector that a call changes on a medium of `n` sectors. -/
def changed? (n : UInt32) : MediumCall → Option UInt32
  | write lba _ => if lba < n then some lba else none
  | _ => none

/-- The sectors that calls have changed on a medium of `n` sectors. -/
def changed (n : UInt32) (calls : List MediumCall) : Finset UInt32 :=
  (calls.filterMap (changed? n)).toFinset

/-- The answer to a call on a medium of `n` sectors that was blank before the calls
`before`. -/
def answerAfter (n : UInt32) (before : List MediumCall) : MediumCall → MediumAnswer
  | read lba buffer =>
    if lba < n then ⟨.ok (), some (lastWritten before lba)⟩
    else ⟨.error (.beyondEnd lba n), some buffer⟩
  | write lba _ => if lba < n then ⟨.ok (), none⟩ else ⟨.error (.beyondEnd lba n), none⟩
  | flush => ⟨.ok (), none⟩

/-- The answers to calls that follow the calls `before`. -/
def answersAfter (n : UInt32) (before : List MediumCall) : List MediumCall → List MediumAnswer
  | [] => []
  | call :: calls => answerAfter n before call :: answersAfter n (before ++ [call]) calls

variable {n lba : UInt32} {before : List MediumCall} {medium : Medium}

theorem lastWritten_nil (lba : UInt32) : lastWritten [] lba = Sector.zero := rfl

theorem lastWritten_write (before : List MediumCall) (lba lba' : UInt32) (data : Sector) :
    lastWritten (before ++ [write lba data]) lba'
      = if lba = lba' then data else lastWritten before lba' := by
  by_cases h : lba = lba' <;> simp [lastWritten, dataFor, h]

/-- Nothing but a write changes what was written last. -/
theorem lastWritten_of_dataFor {call : MediumCall} (h : call.dataFor lba = none) :
    lastWritten (before ++ [call]) lba = lastWritten before lba := by
  simp [lastWritten, h]

theorem changed_append (n : UInt32) (before : List MediumCall) (call : MediumCall) :
    changed n (before ++ [call]) = changed n before ∪ (call.changed? n).toFinset := by
  cases h : call.changed? n <;> simp [changed, h]

/-! ## §3 What calls do to any medium -/

/-- A medium that is left by a write has the sector replaced, if it has the sector. -/
theorem perform_write (lba : UInt32) (data : Sector) (medium : Medium) :
    (write lba data).perform medium
      = if lba < medium.sectorCount then (⟨.ok (), none⟩, medium.put lba data)
        else (⟨.error (.beyondEnd lba medium.sectorCount), none⟩, medium) := by
  simp only [perform, Medium.writeSector_eq, Medium.capacity, UInt32.lt_iff_toNat_lt]
  by_cases h : lba.toNat < medium.sectorCount.toNat <;> simp [h]

theorem perform_read (lba : UInt32) (buffer : Sector) (medium : Medium) :
    (read lba buffer).perform medium
      = if lba < medium.sectorCount then (⟨.ok (), some (medium.content lba.toNat)⟩, medium)
        else (⟨.error (.beyondEnd lba medium.sectorCount), some buffer⟩, medium) := by
  simp only [perform, Medium.readSector_eq, Medium.capacity, UInt32.lt_iff_toNat_lt]
  by_cases h : lba.toNat < medium.sectorCount.toNat <;> simp [h]

/-- **A call that names a sector behind the end is refused**, and leaves the medium and
its buffer as they were. -/
theorem perform_beyond {call : MediumCall} (hcall : call.sector? = some lba)
    (h : medium.sectorCount ≤ lba) :
    call.perform medium
      = (⟨.error (.beyondEnd lba medium.sectorCount), call.buffer?⟩, medium) := by
  cases call with
  | read lba' buffer =>
    cases hcall
    rw [perform_read, if_neg (UInt32.not_lt.2 h)]
    rfl
  | write lba' data =>
    cases hcall
    rw [perform_write, if_neg (UInt32.not_lt.2 h)]
    rfl
  | flush => cases hcall

/-- The medium after a call: changed in one sector, or not at all. -/
theorem perform_snd (call : MediumCall) (medium : Medium) :
    (call.changed? medium.sectorCount = none ∧ (call.perform medium).2 = medium)
      ∨ ∃ lba data, call = write lba data ∧ lba < medium.sectorCount
        ∧ (call.perform medium).2 = medium.put lba data := by
  cases call with
  | read lba buffer =>
    left
    rw [perform_read]
    split <;> exact ⟨rfl, rfl⟩
  | write lba data =>
    rw [perform_write]
    by_cases h : lba < medium.sectorCount
    · right
      exact ⟨lba, data, rfl, h, by rw [if_pos h]⟩
    · left
      simp [changed?, h]
  | flush =>
    left
    exact ⟨rfl, rfl⟩

/-- What each call keeps, all of them keep. -/
theorem run_keeps {P : List MediumCall → Medium → Prop}
    (hstep : ∀ before call medium, P before medium → P (before ++ [call]) (call.perform medium).2)
    (h : P before medium) (calls : List MediumCall) : P (before ++ calls) (run calls medium).2 := by
  induction calls generalizing before medium with
  | nil => simpa [run] using h
  | cons call calls ih => simpa [run] using ih (hstep before call medium h)

end MediumCall

open MediumCall

/-! ## §4 Answers alike -/

/-- The medium has `n` sectors, and shows what the calls have written. -/
structure Medium.Shows (n : UInt32) (calls : List MediumCall) (medium : Medium) : Prop where
  count : medium.sectorCount = n
  content : ∀ lba, lba < n → medium.content lba.toNat = lastWritten calls lba

namespace Medium.Shows

variable {n : UInt32} {before : List MediumCall} {medium : Medium}

/-- **A call gives the answer that it is due**, and the medium shows what it has written. -/
theorem perform (h : medium.Shows n before) (call : MediumCall) :
    (call.perform medium).1 = answerAfter n before call
      ∧ (call.perform medium).2.Shows n (before ++ [call]) := by
  have hcount := h.count
  subst hcount
  -- a call without data for a sector leaves what was written last
  have hsame : (∀ lba, lba < medium.sectorCount → call.dataFor lba = none) →
      medium.Shows medium.sectorCount (before ++ [call]) := by
    intro hnone
    constructor
    · rfl
    · intro lba hlba
      rw [lastWritten_of_dataFor (hnone lba hlba), h.content lba hlba]
  cases call with
  | read lba buffer =>
    rw [perform_read]
    by_cases hlba : lba < medium.sectorCount
    · simp only [answerAfter, if_pos hlba, h.content lba hlba]
      exact ⟨trivial, hsame fun _ _ => rfl⟩
    · simp only [answerAfter, if_neg hlba]
      exact ⟨trivial, hsame fun _ _ => rfl⟩
  | write lba data =>
    rw [perform_write]
    by_cases hlba : lba < medium.sectorCount
    · simp only [answerAfter, if_pos hlba, true_and]
      constructor
      · exact sectorCount_put lba data medium
      · intro lba' hlba'
        rw [content_put (UInt32.lt_iff_toNat_lt.1 hlba), lastWritten_write, Function.update_apply,
          h.content lba' hlba']
        simp only [UInt32.toNat_inj, eq_comm]
    · simp only [answerAfter, if_neg hlba, true_and]
      apply hsame
      intro lba' hlba'
      have hne : lba ≠ lba' := fun heq => hlba (heq ▸ hlba')
      simp [dataFor, hne]
  | flush => exact ⟨rfl, hsame fun _ _ => rfl⟩

/-- **So do all calls, one after the other.** -/
theorem run (h : medium.Shows n before) (calls : List MediumCall) :
    (run calls medium).1 = answersAfter n before calls
      ∧ (run calls medium).2.Shows n (before ++ calls) := by
  constructor
  · induction calls generalizing before medium with
    | nil => rfl
    | cons call calls ih =>
      obtain ⟨hanswer, hnext⟩ := h.perform call
      rw [MediumCall.run, answersAfter, hanswer, ih hnext]
  · exact run_keeps (P := fun before medium => medium.Shows n before)
      (fun before call medium h => (h.perform call).2) h calls

theorem memory (n : UInt32) : (Medium.memory (.blank n)).Shows n [] where
  count := by simp [sectorCount, MemoryMedium.sectorCount, MemoryMedium.blank]
  content lba hlba := by
    simp [Medium.content, MemoryMedium.blank, lastWritten_nil, Array.getD_eq_getD_getElem?,
      UInt32.lt_iff_toNat_lt.1 hlba]

theorem sparse (n : UInt32) : (Medium.sparse (.blank n)).Shows n [] where
  count := rfl
  content lba _ := by rw [content_blank, lastWritten_nil]

end Medium.Shows

/-! ## §5 What media keep -/

/-- The sparse medium has `n` sectors, and holds those that the calls have changed. -/
structure SparseMedium.Holds (n : UInt32) (calls : List MediumCall) (m : SparseMedium) : Prop where
  capacity : m.capacity = n
  mem_iff : ∀ lba, lba ∈ m.written ↔ lba ∈ changed n calls
  size : m.written.size = (changed n calls).card

/-- A write that is accepted makes the medium hold its sector. -/
theorem SparseMedium.Holds.perform {n : UInt32} {before : List MediumCall} {m : SparseMedium}
    (h : m.Holds n before) (call : MediumCall) :
    ∃ m', (call.perform (.sparse m)).2 = .sparse m' ∧ m'.Holds n (before ++ [call]) := by
  have hcount : (Medium.sparse m).sectorCount = n := h.capacity
  obtain ⟨hnone, hsame⟩ | ⟨lba, data, rfl, hlba, hput⟩ := perform_snd call (.sparse m)
  · rw [hcount] at hnone
    have hchanged : changed n (before ++ [call]) = changed n before := by
      simp [changed_append, hnone]
    exact ⟨m, hsame, h.capacity, by rw [hchanged]; exact h.mem_iff, by rw [hchanged]; exact h.size⟩
  · rw [hcount] at hlba
    have hchanged : changed n (before ++ [write lba data]) = insert lba (changed n before) := by
      simp [changed_append, changed?, hlba]
    refine ⟨_, hput, h.capacity, ?_, ?_⟩
    · intro lba'
      rw [hchanged, Std.HashMap.mem_insert, Finset.mem_insert, h.mem_iff, beq_iff_eq, eq_comm]
    · rw [hchanged, Std.HashMap.size_insert, Finset.card_insert_eq_ite, h.size]
      simp only [h.mem_iff]

theorem SparseMedium.holds_run (n : UInt32) (calls : List MediumCall) :
    ∃ m, (run calls (.sparse (.blank n))).2 = .sparse m ∧ m.Holds n calls := by
  have hstart : ∃ m, Medium.sparse (.blank n) = .sparse m ∧ m.Holds n [] :=
    ⟨.blank n, rfl, rfl, by simp [blank, changed], by simp [blank, changed]⟩
  refine run_keeps (P := fun before medium => ∃ m, medium = .sparse m ∧ m.Holds n before)
    ?_ hstart calls
  rintro before call _ ⟨m, rfl, hm⟩
  exact hm.perform call

/-- The image has `n` sectors, and its file just these. -/
structure FileImage.Exact (n : UInt32) (image : FileImage) : Prop where
  capacity : image.capacity = n
  length : image.content.length = n.toNat * 512
  ended : image.content.Ended

/-- Calls do not change how long the file is. -/
theorem FileImage.Exact.perform {n : UInt32} {image : FileImage} (h : image.Exact n)
    (call : MediumCall) : ∃ image', (call.perform (.file image)).2 = .file image' ∧ image'.Exact n := by
  have hcount : (Medium.file image).sectorCount = n := h.capacity
  obtain ⟨-, hsame⟩ | ⟨lba, data, rfl, hlba, hput⟩ := perform_snd call (.file image)
  · exact ⟨image, hsame, h⟩
  · rw [hcount, UInt32.lt_iff_toNat_lt] at hlba
    refine ⟨_, hput, h.capacity, ?_, h.ended.writePiece _ _⟩
    show max image.content.length ((lba.toNat + 1) * 512) = n.toNat * 512
    rw [h.length]
    exact Nat.max_eq_left (Nat.mul_le_mul_right 512 hlba)

/-- A file that was made for an image. -/
theorem FileImage.exact_new (n : UInt32) : (openContent .empty n).Exact n where
  capacity := rfl
  length := by simp [openContent, FileContent.lengthen, FileContent.empty]
  ended := FileContent.ended_empty.lengthen _

theorem FileImage.shows_new (n : UInt32) : (Medium.file (openContent .empty n)).Shows n [] where
  count := rfl
  content lba hlba := by
    simp [Medium.content, openContent, FileContent.lengthen, FileContent.empty, FileContent.piece,
      lastWritten_nil]

theorem FileImage.exact_run (n : UInt32) (calls : List MediumCall) :
    ∃ image, (run calls (.file (openContent .empty n))).2 = .file image ∧ image.Exact n
      ∧ (Medium.file image).Shows n calls := by
  have hstart : ∃ image, Medium.file (openContent .empty n) = .file image ∧ image.Exact n
      ∧ (Medium.file image).Shows n [] := ⟨_, rfl, exact_new n, shows_new n⟩
  refine run_keeps (P := fun before medium => ∃ image, medium = .file image ∧ image.Exact n
    ∧ (Medium.file image).Shows n before) ?_ hstart calls
  rintro before call _ ⟨image, rfl, hexact, hshows⟩
  obtain ⟨image', himage, hexact'⟩ := hexact.perform call
  have hnext := (hshows.perform call).2
  rw [himage] at hnext
  exact ⟨image', himage, hexact', hnext⟩

section Files

variable {n : UInt32} {calls : List MediumCall} {image : FileImage} (h : image.Exact n)
  (hshows : (Medium.file image).Shows n calls)

include h hshows

theorem FileImage.Exact.piece {lba : UInt32} (hlba : lba < n) :
    image.content.piece lba.toNat = lastWritten calls lba := by
  have hwithin : lba.toNat < image.capacity.toNat := by
    rw [h.capacity]
    exact UInt32.lt_iff_toNat_lt.1 hlba
  rw [← hshows.content lba hlba]
  exact (if_pos hwithin).symm

/-- The file is the sectors, one behind the other. -/
theorem FileImage.Exact.bytes :
    image.content.bytes
      = Sectors.bytes (fun j => lastWritten calls (UInt32.ofNat j)) 0 n.toNat := by
  rw [FileContent.bytes_eq_pieces h.ended h.length]
  apply Sectors.bytes_congr
  intro j _ hj
  rw [Nat.zero_add] at hj
  have hnat : (UInt32.ofNat j).toNat = j := UInt32.toNat_ofNat_of_lt' (Nat.lt_trans hj n.toNat_lt)
  have hpiece := h.piece hshows (UInt32.lt_iff_toNat_lt.2 (hnat.symm ▸ hj))
  rwa [hnat] at hpiece

/-- What another image on the same file reads. -/
theorem FileImage.Exact.read_reopened {count lba : UInt32} (hlba : lba < count) :
    (openContent image.content count).readSector lba
      = .ok (if lba < n then lastWritten calls lba else Sector.zero) := by
  have hread : (openContent image.content count).readSector lba
      = .ok (image.content.piece lba.toNat) := if_pos hlba
  rw [hread]
  by_cases hkept : lba < n
  · rw [if_pos hkept, h.piece hshows hkept]
  · have hle : n.toNat ≤ lba.toNat := UInt32.le_iff_toNat_le.1 (UInt32.not_lt.1 hkept)
    have hend : image.content.length ≤ lba.toNat * 512 := by
      rw [h.length]
      exact Nat.mul_le_mul_right 512 hle
    rw [if_neg hkept, FileContent.piece_eq_zero h.ended hend]

end Files

/-! ## §6 One behaviour -/

/-- The calls find on `start` what they are to find on any blank medium of `n` sectors, and
every call that names a sector behind the end is refused without a trace. -/
structure Medium.Answers (n : UInt32) (calls : List MediumCall) (start : Medium) : Prop where
  answers : (run calls start).1 = answersAfter n [] calls
  refuses : ∀ (call : MediumCall) (lba : UInt32), call.sector? = some lba → n ≤ lba →
    ∃ e : MediumError, e.kind = .invalidInput
      ∧ e.message = s!"sector {lba} beyond end of media ({n} sectors)"
      ∧ call.perform (run calls start).2 = (⟨.error e, call.buffer?⟩, (run calls start).2)

theorem Medium.Shows.answersCalls {n : UInt32} {start : Medium} (h : start.Shows n [])
    (calls : List MediumCall) : start.Answers n calls where
  answers := (h.run calls).1
  refuses call lba hcall hlba := by
    have hcount := (h.run calls).2.count
    have hrefused := perform_beyond hcall (hcount.trans_le hlba)
    rw [hcount] at hrefused
    exact ⟨.beyondEnd lba n, rfl, rfl, hrefused⟩

/-- What an image of `count` sectors shows that is opened on the file of another one of
`n` sectors, with the content that calls have left. -/
structure FileImage.Reopened (n : UInt32) (calls : List MediumCall) (content : FileContent)
    (count : UInt32) (image : FileImage) : Prop where
  bytes : image.content.bytes
    = content.bytes ++ zeroes (count.toNat * 512 - n.toNat * 512)
  read : ∀ lba, lba < count →
    image.readSector lba = .ok (if lba < n then lastWritten calls lba else Sector.zero)

/-- **The kinds of media are interchangeable.** Whatever calls are made on a blank medium
of `n` sectors, in memory, sparse or in a file that was not there, each gives the same
answers: those that follow from what was written before. A sparse medium holds as many
sectors as were written. The file is the sectors one behind the other, and is found again
under its path with any other size: cut off, or with zeros behind. -/
theorem media_interchangeable {d : Directory} {path : String} {place : Place}
    (hpath : d.locateFile path = .ok place) (habsent : d.file? place = none) (n : UInt32) :
    ∃ image opened, d.openImage path n = .ok (place, image, opened)
      ∧ ∀ calls : List MediumCall,
        (∀ start ∈ [Medium.memory (.blank n), .sparse (.blank n), .file image],
            start.Answers n calls)
        ∧ (run calls (.sparse (.blank n))).2.writtenCount = (changed n calls).card
        ∧ ∃ content, (run calls (.file image)).2 = .file ⟨content, n⟩
          ∧ content.bytes = Sectors.bytes (fun j => lastWritten calls (UInt32.ofNat j)) 0 n.toNat
          ∧ ∀ count, ∃ reopened after,
            (opened.store place content).openImage path count = .ok (place, reopened, after)
              ∧ reopened.Reopened n calls content count := by
  have hopen := Directory.openImage_eq hpath n
  rw [habsent, Option.getD_none] at hopen
  refine ⟨_, _, hopen, fun calls => ⟨?_, ?_, ?_⟩⟩
  · intro start hstart
    simp only [List.mem_cons, List.not_mem_nil, or_false] at hstart
    obtain rfl | rfl | rfl := hstart
    · exact (Medium.Shows.memory n).answersCalls calls
    · exact (Medium.Shows.sparse n).answersCalls calls
    · exact (FileImage.shows_new n).answersCalls calls
  · obtain ⟨m, hm, hholds⟩ := SparseMedium.holds_run n calls
    rw [hm]
    exact hholds.size
  · obtain ⟨⟨content, capacity⟩, himage, hexact, hshows⟩ := FileImage.exact_run n calls
    obtain rfl : capacity = n := hexact.capacity
    refine ⟨content, himage, hexact.bytes hshows, fun count => ?_⟩
    have hfolders : ((d.store place (FileImage.openContent .empty capacity).content).store place
        content).folders = d.folders := rfl
    have hreopen := Directory.openImage_eq (Directory.locateFile_of_folders hfolders hpath) count
    rw [Directory.file?_store, Option.getD_some] at hreopen
    refine ⟨_, _, hreopen, ?_, fun lba hlba => hexact.read_reopened hshows hlba⟩
    show (content.lengthen (count.toNat * 512)).bytes = _
    rw [FileContent.bytes_lengthen hexact.ended, hexact.length]

/-- A file of two sectors in an empty directory: a write behind the end leaves nothing, and
with three sectors the file is found again with the other write and a sector of zeros. -/
theorem media_interchangeable_two :
    let data := Sector.ofBytes #[0xAB]
    let place : Place := ⟨.above 0, ["disk.img"]⟩
    let calls : List MediumCall := [.write 1 data, .write 2 data, .read 1 Sector.zero]
    ({} : Directory).locateFile "disk.img" = .ok place ∧ ({} : Directory).file? place = none
      ∧ ∃ image opened, ({} : Directory).openImage "disk.img" 2 = .ok (place, image, opened)
        ∧ (∀ start ∈ [Medium.memory (.blank 2), .sparse (.blank 2), .file image],
            start.Answers 2 calls)
        ∧ (run calls (.sparse (.blank 2))).2.writtenCount = 1
        ∧ ∃ content reopened after, (run calls (.file image)).2 = .file ⟨content, 2⟩
          ∧ (opened.store place content).openImage "disk.img" 3 = .ok (place, reopened, after)
          ∧ reopened.readSector 1 = .ok data ∧ reopened.readSector 2 = .ok Sector.zero := by
  intro data place calls
  have hpath : ({} : Directory).locateFile "disk.img" = .ok place := rfl
  have habsent : ({} : Directory).file? place = none := rfl
  obtain ⟨image, opened, hopen, hall⟩ := media_interchangeable hpath habsent 2
  obtain ⟨hanswers, hwritten, content, hcontent, -, hreopen⟩ := hall calls
  obtain ⟨reopened, after, hopened, -, hread⟩ := hreopen 3
  exact ⟨hpath, habsent, image, opened, hopen, hanswers, hwritten, content, reopened, after,
    hcontent, hopened, hread 1 (by decide), hread 2 (by decide)⟩

end AtaVolume
