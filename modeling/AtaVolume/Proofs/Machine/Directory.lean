/-
AtaVolume.Proofs.Machine.Directory — files can be opened whatever else is made.

Where a path leads depends on the directories alone (`locateFile_of_folders`), and opening
an image makes a file and no directory. So a path that was opened can be opened again, and
it finds what was stored in its place (`file?_store`).
-/
import AtaVolume.Machine.Directory

namespace AtaVolume

namespace Directory

variable {d d' : Directory} {path : String} {place : Place} {sectors : UInt32}

theorem isFolder_congr (h : d'.folders = d.folders) (p : Place) : d'.isFolder p = d.isFolder p := by
  simp [isFolder, h]

theorem enter_of_folders (h : d'.folders = d.folders) {p q : Place} {part : String}
    (hok : d.enter p part = .ok q) : d'.enter p part = .ok q := by
  unfold enter at hok ⊢
  simp only [isFolder_congr h] at hok ⊢
  split at hok
  · cases hok
  case isFalse hshort =>
    rw [if_neg hshort]
    split at hok
    case isTrue hfolder =>
      rw [if_pos hfolder]
      exact hok
    case isFalse => split at hok <;> cases hok

theorem follow_of_folders (h : d'.folders = d.folders) {parts : List String} {p q : Place}
    (hok : d.follow p parts = .ok q) : d'.follow p parts = .ok q := by
  unfold follow at hok ⊢
  induction parts generalizing p with
  | nil => exact hok
  | cons part parts ih =>
    rw [List.foldlM_cons] at hok ⊢
    cases henter : d.enter p part with
    | error e => simp [henter, bind, Except.bind] at hok
    | ok r =>
      rw [henter] at hok
      rw [enter_of_folders h henter]
      exact ih hok

theorem locateFile_of_folders (h : d'.folders = d.folders) (hok : d.locateFile path = .ok place) :
    d'.locateFile path = .ok place := by
  unfold locateFile at hok ⊢
  split at hok
  · cases hok
  case isFalse hnonempty =>
  split at hok
  · cases hok
  case isFalse hshort =>
  rw [if_neg hnonempty, if_neg hshort]
  simp only [isFolder_congr h] at hok ⊢
  generalize (List.dropWhile _ (Place.parts path).reverse).reverse = named at hok ⊢
  cases hlast : named.getLast? with
  | none => simp [hlast] at hok
  | some last =>
    cases hfollow : d.follow (Place.start path) named.dropLast with
    | error e => simp [hlast, hfollow] at hok
    | ok p =>
      rw [hlast, hfollow] at hok
      rw [follow_of_folders h hfollow]
      exact hok

/-- What was stored in a place is found there. -/
theorem file?_store (d : Directory) (place : Place) (content : FileContent) :
    (d.store place content).file? place = some content := by
  unfold store file?
  generalize d.files = files
  induction files with
  | nil => simp [putFile]
  | cons entry rest ih =>
    obtain ⟨p, old⟩ := entry
    by_cases h : p = place
    · simp [putFile, h]
    · have hne : (place == p) = false := by simpa using Ne.symm h
      simpa [putFile, h, List.lookup_cons, hne] using ih

/-- The other files stay. -/
theorem file?_store_of_ne (d : Directory) {p : Place} (h : p ≠ place) (content : FileContent) :
    (d.store place content).file? p = d.file? p := by
  have hplace : (p == place) = false := by simpa using h
  unfold store file?
  generalize d.files = files
  induction files with
  | nil => simp [putFile, h]
  | cons entry rest ih =>
    obtain ⟨q, old⟩ := entry
    by_cases hq : q = place
    · simp [putFile, hq, List.lookup_cons, hplace]
    · simp only [putFile, if_neg hq, List.lookup_cons]
      rw [ih]

/-- A path that leads to a file is opened. -/
theorem openImage_eq (h : d.locateFile path = .ok place) (sectors : UInt32) :
    let image := FileImage.openContent ((d.file? place).getD FileContent.empty) sectors
    d.openImage path sectors = .ok (place, image, d.store place image.content) := by
  rw [openImage, h]

/-- **An image can still be opened when other files were made**: what counts is where
its path leads. -/
theorem openImage_of_folders (h : d'.folders = d.folders)
    (hok : ∃ opened, d.openImage path sectors = .ok opened) :
    ∃ place image directory, d'.openImage path sectors = .ok (place, image, directory)
      ∧ image.capacity = sectors ∧ directory.folders = d.folders := by
  obtain ⟨opened, hopened⟩ := hok
  unfold openImage at hopened
  cases hlocate : d.locateFile path with
  | error e => simp [hlocate] at hopened
  | ok place =>
    have hopen := openImage_eq (locateFile_of_folders h hlocate) sectors
    exact ⟨place, _, _, hopen, rfl, h⟩

end Directory

end AtaVolume
