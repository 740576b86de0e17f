/-
AtaVolume.Proofs.Machine.DiskSpec — how the text of an image is taken apart.

A text names its size (`Sized`) if nothing but digits follows its last colon, which is then
the colon that it splits at; there is one such split, since no digit is a colon. All other
texts are paths as a whole, colons and digits included. `parse_eq_sized` and
`parse_eq_whole` are the two cases; between them they cover every text.

An image that is written with its size (`DiskSpec.text`) is read back as itself.
-/
import AtaVolume.Machine.Config
import AtaVolume.Proofs.Machine.Config
import AtaVolume.Proofs.Text.Numeral
import AtaVolume.Proofs.Text.Words

namespace AtaVolume.DiskSpec

open Text (TrimsTo)

variable {cs front back path digits : List Char} {name value : String} {spec : DiskSpec}

/-! ## §1 The last colon -/

theorem splitLastColon_append (h : ':' ∉ back) :
    splitLastColon (front ++ ':' :: back) = some (front, back) := by
  have hback : ∀ c ∈ back.reverse, (c != ':') = true := by
    intro c hc
    have hne : c ≠ ':' := by
      rintro rfl
      exact h (List.mem_reverse.1 hc)
    simpa using hne
  have hreverse : (front ++ ':' :: back).reverse = back.reverse ++ ':' :: front.reverse := by simp
  simp only [splitLastColon, hreverse]
  rw [List.dropWhile_append_of_pos hback, List.takeWhile_append_of_pos hback]
  simp

theorem splitLastColon_of_not_mem (h : ':' ∉ cs) : splitLastColon cs = none := by
  simp [splitLastColon, h]

/-- **A text is split at its last colon**, if it has one. -/
theorem splitLastColon_eq_some_iff :
    splitLastColon cs = some (front, back) ↔ cs = front ++ ':' :: back ∧ ':' ∉ back := by
  constructor
  · intro h
    by_cases hmem : ':' ∈ cs
    · -- the last colon is the first one from behind
      obtain ⟨back', front', hcs, hback'⟩ := List.eq_append_cons_of_mem (List.mem_reverse.2 hmem)
      have hsplit : cs = front'.reverse ++ ':' :: back'.reverse := by
        rw [← List.reverse_reverse cs, hcs]
        simp
      rw [hsplit, splitLastColon_append (by simpa using hback')] at h
      cases h
      exact ⟨hsplit, by simpa using hback'⟩
    · rw [splitLastColon_of_not_mem hmem] at h
      cases h
  · rintro ⟨rfl, hback⟩
    exact splitLastColon_append hback

/-! ## §2 Sizes -/

/-- The text is a path and, behind a colon, digits. -/
structure Sized (cs path digits : List Char) : Prop where
  split : cs = path ++ ':' :: digits
  nonempty : digits ≠ []
  digit : ∀ c ∈ digits, c.isDigit = true

theorem Sized.splitLastColon_eq (h : Sized cs path digits) :
    splitLastColon cs = some (path, digits) := by
  have hcolon : ':' ∉ digits := by
    intro hmem
    cases h.digit _ hmem
  exact splitLastColon_eq_some_iff.2 ⟨h.split, hcolon⟩

theorem sized_iff :
    Sized cs path digits
      ↔ splitLastColon cs = some (path, digits)
        ∧ (!digits.isEmpty && Text.allDigits digits) = true := by
  have hdigits : (!digits.isEmpty && Text.allDigits digits) = true
      ↔ digits ≠ [] ∧ ∀ c ∈ digits, c.isDigit = true := by
    simp [Text.allDigits]
  rw [hdigits]
  constructor
  · intro h
    exact ⟨h.splitLastColon_eq, h.nonempty, h.digit⟩
  · rintro ⟨hsplit, hnonempty, hdigit⟩
    exact ⟨(splitLastColon_eq_some_iff.1 hsplit).1, hnonempty, hdigit⟩

/-- Digits are a size if a drive can have so many sectors, however many digits there are. -/
theorem readSectors_eq (hnonempty : digits ≠ []) (hdigit : ∀ c ∈ digits, c.isDigit = true) :
    readSectors name digits
      = if Nat.ofDigitChars 10 digits 0 = 0 ∨ lba28Max < Nat.ofDigitChars 10 digits 0 then
          .error (.invalidSectors name (String.ofList digits))
        else .ok (UInt32.ofNat (Nat.ofDigitChars 10 digits 0)) := by
  have hread : Text.readNatural 10 digits = some (Nat.ofDigitChars 10 digits 0) :=
    (Text.readNatural_eq_some_iff (by decide)).2 ⟨hnonempty, Text.denotes_ten_iff.2 ⟨hdigit, rfl⟩⟩
  simp only [readSectors, hread]
  generalize Nat.ofDigitChars 10 digits 0 = n
  by_cases hn : n = 0 ∨ lba28Max < n
  · have hbeyond : ¬ (0 < n ∧ n ≤ lba28Max) := by omega
    rw [if_neg hbeyond, if_pos hn]
  · have hwithin : 0 < n ∧ n ≤ lba28Max := by omega
    rw [if_pos hwithin, if_neg hn]

/-! ## §3 Texts of images -/

theorem withPath_eq (name : String) (path : List Char) (sectors : UInt32) :
    withPath name path sectors
      = if path = [] then .error (.emptyPath name) else .ok ⟨String.ofList path, sectors⟩ := by
  simp [withPath]

/-- What is read from a text that names its size. -/
theorem parse_eq_sized (hcs : TrimsTo value.toList cs) (h : Sized cs path digits) :
    parse name value
      = if Nat.ofDigitChars 10 digits 0 = 0 ∨ lba28Max < Nat.ofDigitChars 10 digits 0 then
          .error (.invalidSectors name (String.ofList digits))
        else if path = [] then .error (.emptyPath name)
        else .ok ⟨String.ofList path, UInt32.ofNat (Nat.ofDigitChars 10 digits 0)⟩ := by
  obtain ⟨hsplit, hdigits⟩ := sized_iff.1 h
  simp only [parse, Text.trimsTo_iff.1 hcs, hsplit, hdigits, if_true,
    readSectors_eq h.nonempty h.digit]
  split
  · rfl
  · exact withPath_eq _ _ _

/-- What is read from any other text. -/
theorem parse_eq_whole (hcs : TrimsTo value.toList cs) (h : ¬ ∃ path digits, Sized cs path digits) :
    parse name value
      = if cs = [] then .error (.emptyPath name)
        else .ok ⟨String.ofList cs, defaultSectors⟩ := by
  simp only [parse, Text.trimsTo_iff.1 hcs, ← withPath_eq]
  cases hsplit : splitLastColon cs with
  | none => rfl
  | some parts =>
    obtain ⟨path, digits⟩ := parts
    have hno : ¬ (!digits.isEmpty && Text.allDigits digits) = true := by
      intro hdigits
      exact h ⟨path, digits, sized_iff.2 ⟨hsplit, hdigits⟩⟩
    simp only [if_neg hno]

/-- An image as it is written, with its size. -/
def text (spec : DiskSpec) : String := spec.path ++ ":" ++ toString spec.sectors.toNat

theorem sized_text (spec : DiskSpec) :
    Sized spec.text.toList spec.path.toList (Nat.toDigits 10 spec.sectors.toNat) where
  split := by simp [text]
  nonempty := Nat.toDigits_ne_nil
  digit := Text.isDigit_of_mem_toDigits

/-- Different images have different texts, whatever is in their paths. -/
theorem text_injective : Function.Injective text := by
  intro spec other h
  have hsplit := (sized_text spec).splitLastColon_eq
  rw [h, (sized_text other).splitLastColon_eq] at hsplit
  simp only [Option.some.injEq, Prod.mk.injEq, String.toList_inj] at hsplit
  obtain ⟨hpath, hdigits⟩ := hsplit
  have hsectors : spec.sectors.toNat = other.sectors.toNat := by
    calc spec.sectors.toNat = Nat.ofDigitChars 10 (Nat.toDigits 10 spec.sectors.toNat) 0 :=
          Nat.ofDigitChars_ten_toDigits.symm
      _ = Nat.ofDigitChars 10 (Nat.toDigits 10 other.sectors.toNat) 0 := by rw [hdigits]
      _ = other.sectors.toNat := Nat.ofDigitChars_ten_toDigits
  cases spec
  cases other
  simp only [mk.injEq]
  exact ⟨hpath.symm, UInt32.toNat_inj.1 hsectors⟩

/-- A path without a blank before it keeps its text from being trimmed. -/
theorem trimsTo_text (hpath : spec.path ≠ "")
    (hfirst : ∀ c ∈ spec.path.toList.head?, Text.isBlank c = false) :
    TrimsTo spec.text.toList spec.text.toList := by
  have hsized := sized_text spec
  refine ⟨⟨?_, ?_⟩, [], [], by simp, by simp [Text.Blanks], by simp [Text.Blanks]⟩
  · intro c hc
    obtain ⟨first, rest, hcons⟩ := List.exists_cons_of_ne_nil (l := spec.path.toList)
      (by simpa using hpath)
    rw [hsized.split, hcons, List.cons_append, List.head?_cons] at hc
    exact hfirst c (by rw [hcons]; exact hc)
  · -- the text ends in a digit
    intro c hc
    obtain hnil | ⟨digits, last, hdigits⟩ :=
      List.eq_nil_or_concat (Nat.toDigits 10 spec.sectors.toNat)
    · exact absurd hnil hsized.nonempty
    · have hlast : last.isDigit = true := hsized.digit last (by simp [hdigits])
      have hend : spec.text.toList = (spec.path.toList ++ ':' :: digits) ++ [last] := by
        rw [hsized.split, hdigits]
        simp
      rw [hend, List.getLast?_concat, Option.mem_def, Option.some.injEq] at hc
      rw [← hc]
      exact Text.isBlank_of_isDigit hlast

/-- An image that is written with its size is read back as itself. -/
theorem parse_text (hproper : spec.Proper)
    (hfirst : ∀ c ∈ spec.path.toList.head?, Text.isBlank c = false) :
    parse name spec.text = .ok spec := by
  have hpath : spec.path.toList ≠ [] := by simpa using hproper.path
  have hsize : ¬ (spec.sectors.toNat = 0 ∨ lba28Max < spec.sectors.toNat) := by
    have hpos := hproper.pos
    have hbounded := hproper.bounded
    omega
  rw [parse_eq_sized (trimsTo_text hproper.path hfirst) (sized_text spec),
    Nat.ofDigitChars_ten_toDigits, if_neg hsize, if_neg hpath]
  simp

/-- **How the text of an image is taken apart.** Digits behind a colon, at the end of what
is left of the text without the blanks around it, are its size, which is checked before
the path; without them all of it is the path. An image whose path starts with no blank is
read back from its text, and different images have different texts. -/
theorem parse_splits :
    (∀ name value cs, TrimsTo value.toList cs →
      (∀ path digits, Sized cs path digits →
        parse name value
          = if Nat.ofDigitChars 10 digits 0 = 0 ∨ lba28Max < Nat.ofDigitChars 10 digits 0 then
              .error (.invalidSectors name (String.ofList digits))
            else if path = [] then .error (.emptyPath name)
            else .ok ⟨String.ofList path, UInt32.ofNat (Nat.ofDigitChars 10 digits 0)⟩)
      ∧ ((¬ ∃ path digits, Sized cs path digits) →
        parse name value
          = if cs = [] then .error (.emptyPath name)
            else .ok ⟨String.ofList cs, defaultSectors⟩))
    ∧ (∀ spec : DiskSpec, spec.Proper → (∀ c ∈ spec.path.toList.head?, Text.isBlank c = false) →
      ∀ name, parse name spec.text = .ok spec)
    ∧ Function.Injective text := by
  refine ⟨?_, ?_, text_injective⟩
  · intro name value cs hcs
    constructor
    · intro path digits h
      exact parse_eq_sized hcs h
    · intro h
      exact parse_eq_whole hcs h
  · intro spec hproper hfirst name
    exact parse_text hproper hfirst

theorem parse_splits_colons :
    parse "ELIXIR_DISK0" " C:0:4096 " = .ok ⟨"C:0", 4096⟩
      ∧ parse "ELIXIR_DISK0" "C:0:" = .ok ⟨"C:0:", defaultSectors⟩
      ∧ parse "ELIXIR_DISK0" (text ⟨"C:0", 4096⟩) = .ok ⟨"C:0", 4096⟩ := by
  have hsized : Sized "C:0:4096".toList "C:0".toList "4096".toList := sized_iff.2 (by decide)
  have hwhole : ¬ ∃ path digits, Sized "C:0:".toList path digits := by
    rintro ⟨path, digits, h⟩
    have hsplit : splitLastColon "C:0:".toList = some ("C:0".toList, []) := by decide
    rw [h.splitLastColon_eq] at hsplit
    cases hsplit
    exact h.nonempty rfl
  refine ⟨?_, ?_, ?_⟩
  · exact (parse_splits.1 _ _ _ (Text.trimsTo_iff.2 (by decide))).1 _ _ hsized
  · exact (parse_splits.1 _ _ _ (Text.trimsTo_iff.2 (by decide))).2 hwhole
  · refine parse_splits.2.1 ⟨"C:0", 4096⟩ ⟨by decide, by decide, by decide⟩ ?_ _
    intro c hc
    obtain rfl : 'C' = c := by simpa using hc
    decide

end AtaVolume.DiskSpec
