/-
AtaVolume.Proofs.Text.Numeral — which texts are numbers, and which numbers they are.

A text `Denotes` a number if it is made of digits of the base, in either case, and the
number is that of the digits. Readers accept just these texts: `readNatural` all that are
not empty, `readUnsigned` also those behind one `+`, as long as the number is small enough
(`readUnsigned_eq_some_iff`).

What is written denotes the number that it was written for, in any base
(`denotes_toDigits`), and so it does behind the zeros that bring it to a width
(`isHex_hexDigits`). In base 10 the digits are the ASCII digits, and the number is the one
that core's `Nat.ofDigitChars` gives (`denotes_ten_iff`), so a number that was written in
decimal reads as itself (`writes_toDigits`).
-/
import Mathlib.Data.List.Forall2
import Mathlib.Data.Nat.Digits.Defs
import Mathlib.Tactic.IntervalCases
import AtaVolume.Text.Numeral

namespace AtaVolume.Text

/-! ## §1 Digits -/

/-- The character is the digit with the value `v` in a base up to 16. -/
def IsDigit (base : Nat) (c : Char) (v : Nat) : Prop :=
  v < base ∧ (c = Nat.digitChar v ∨ c = (Nat.digitChar v).toUpper)

/-- The characters are digits that write `n`, the first of them the most significant. -/
def Denotes (base : Nat) (cs : List Char) (n : Nat) : Prop :=
  ∃ values, List.Forall₂ (IsDigit base) cs values ∧ Nat.ofDigits base values.reverse = n

variable {base bound acc n v : Nat} {c : Char} {cs : List Char}

/-- A smaller base has fewer digits, with the same values. -/
theorem digitValue?_eq_filter (h : base ≤ 16) (c : Char) :
    digitValue? base c = (digitValue? 16 c).filter (· < base) := by
  have hvalue : ∀ v, (if v < base then some v else none)
      = (if v < 16 then some v else none).filter (· < base) := by
    intro v
    by_cases hv : v < 16
    · simp [hv, Option.filter]
    · simp [hv, show ¬ v < base by omega]
  unfold digitValue?
  simp only
  split
  case isTrue => exact hvalue _
  split
  case isTrue => exact hvalue _
  split
  case isTrue => exact hvalue _
  case isFalse => simp

/-- Beyond ASCII there are no digits. -/
theorem digitValue?_of_le (h : 128 ≤ c.toNat) : digitValue? 16 c = none := by
  have hbeyond : ∀ d : Char, d.toNat < 128 → ¬ c ≤ d := by
    intro d hd hle
    have hnat : c.toNat ≤ d.toNat := hle
    omega
  simp [digitValue?, hbeyond '9' (by decide), hbeyond 'f' (by decide), hbeyond 'F' (by decide)]

theorem isDigit_of_ascii : ∀ k < 128, ∀ v ∈ digitValue? 16 (Char.ofNat k),
    v < 16 ∧ (Char.ofNat k = Nat.digitChar v ∨ Char.ofNat k = (Nat.digitChar v).toUpper) := by
  decide

theorem digitValue?_digitChar : ∀ v < 16, digitValue? 16 (Nat.digitChar v) = some v
    ∧ digitValue? 16 (Nat.digitChar v).toUpper = some v := by
  decide

/-- **A character has a value exactly if it is a digit**, and then that of the digit. -/
theorem digitValue?_eq_some_iff (h : base ≤ 16) : digitValue? base c = some v ↔ IsDigit base c v := by
  rw [digitValue?_eq_filter h, Option.filter_eq_some_iff, decide_eq_true_eq]
  constructor
  · rintro ⟨hvalue, hlt⟩
    by_cases hascii : c.toNat < 128
    · have hdigit := isDigit_of_ascii c.toNat hascii v
      rw [Char.ofNat_toNat] at hdigit
      exact ⟨hlt, (hdigit hvalue).2⟩
    · rw [digitValue?_of_le (by omega)] at hvalue
      cases hvalue
  · rintro ⟨hlt, rfl | rfl⟩
    · exact ⟨(digitValue?_digitChar v (by omega)).1, hlt⟩
    · exact ⟨(digitValue?_digitChar v (by omega)).2, hlt⟩

/-- A character without a value is no digit. -/
theorem not_isDigit (h : base ≤ 16) (hc : digitValue? 16 c = none) : ¬ IsDigit base c v := by
  rw [← digitValue?_eq_some_iff h, digitValue?_eq_filter h, hc]
  simp

/-! ## §2 Numbers -/

/-- Reading from a number on puts the digits behind it. -/
theorem readDigits_eq_some_iff (h : base ≤ 16) :
    readDigits base acc cs = some n
      ↔ ∃ values, List.Forall₂ (IsDigit base) cs values
        ∧ values.foldl (fun acc v => acc * base + v) acc = n := by
  induction cs generalizing acc with
  | nil => simp [readDigits]
  | cons c cs ih =>
    cases hvalue : digitValue? base c with
    | none =>
      have hno : ∀ v, ¬ IsDigit base c v := by
        intro v hv
        rw [← digitValue?_eq_some_iff h, hvalue] at hv
        cases hv
      simp [readDigits, hvalue, List.forall₂_cons_left_iff, hno]
    | some v =>
      have hdigit : ∀ w, IsDigit base c w ↔ v = w := by
        intro w
        rw [← digitValue?_eq_some_iff h, hvalue, Option.some.injEq]
      simp [readDigits, hvalue, ih, List.forall₂_cons_left_iff, hdigit]

/-- The most significant digit comes first. -/
theorem foldl_eq_ofDigits (base : Nat) (values : List Nat) :
    values.foldl (fun acc v => acc * base + v) 0 = Nat.ofDigits base values.reverse := by
  rw [Nat.ofDigits_eq_foldr, List.foldr_reverse]
  simp [Nat.mul_comm, Nat.add_comm]

/-- A number is made of digits. -/
theorem Denotes.isDigit (h : Denotes base cs n) : ∀ c ∈ cs, ∃ v, IsDigit base c v := by
  obtain ⟨values, hvalues, -⟩ := h
  induction hvalues with
  | nil => simp
  | @cons c v _ _ hdigit _ ih =>
    intro d hd
    obtain rfl | hd := List.mem_cons.1 hd
    · exact ⟨v, hdigit⟩
    · exact ih d hd

/-- **A text is read as a number exactly if it is not empty and denotes it.** -/
theorem readNatural_eq_some_iff (h : base ≤ 16) :
    readNatural base cs = some n ↔ cs ≠ [] ∧ Denotes base cs n := by
  cases cs with
  | nil => simp [readNatural]
  | cons c cs => simp [readNatural, readDigits_eq_some_iff h, foldl_eq_ofDigits, Denotes]

/-- The text is a number below `bound`: digits, behind at most one `+`. -/
def Writes (base bound : Nat) (cs : List Char) (n : Nat) : Prop :=
  n < bound ∧ ∃ digits, digits ≠ [] ∧ Denotes base digits n ∧ (cs = digits ∨ cs = '+' :: digits)

/-- A number that starts with a sign has its digits behind it. -/
theorem not_denotes_plus (h : base ≤ 16) : ¬ Denotes base ('+' :: cs) n := by
  intro hdenotes
  obtain ⟨v, hv⟩ := hdenotes.isDigit '+' List.mem_cons_self
  exact not_isDigit h rfl hv

/-- **Numbers are read exactly as they are written.** -/
theorem readUnsigned_eq_some_iff (h : base ≤ 16) :
    readUnsigned base bound cs = some n ↔ Writes base bound cs n := by
  have hread : ∀ digits, (readNatural base digits).filter (· < bound) = some n
      ↔ n < bound ∧ digits ≠ [] ∧ Denotes base digits n := by
    intro digits
    rw [Option.filter_eq_some_iff, readNatural_eq_some_iff h, decide_eq_true_eq, and_comm]
  unfold readUnsigned Writes
  split
  case h_1 rest =>
    rw [hread]
    constructor
    · rintro ⟨hlt, hne, hdenotes⟩
      exact ⟨hlt, rest, hne, hdenotes, .inr rfl⟩
    · rintro ⟨hlt, digits, hne, hdenotes, rfl | heq⟩
      · exact absurd hdenotes (not_denotes_plus h)
      · cases heq
        exact ⟨hlt, hne, hdenotes⟩
  case h_2 hsign =>
    rw [hread]
    constructor
    · rintro ⟨hlt, hne, hdenotes⟩
      exact ⟨hlt, cs, hne, hdenotes, .inl rfl⟩
    · rintro ⟨hlt, digits, hne, hdenotes, rfl | rfl⟩
      · exact ⟨hlt, hne, hdenotes⟩
      · exact absurd rfl (hsign digits)

/-- **Bytes are read exactly as they are written.** -/
theorem readByte_eq_some_iff {b : UInt8} : readByte cs = some b ↔ Writes 10 UInt8.size cs b.toNat := by
  rw [← readUnsigned_eq_some_iff (by decide), readByte, Option.map_eq_some_iff]
  constructor
  · rintro ⟨n, hn, rfl⟩
    have hlt : n < UInt8.size := ((readUnsigned_eq_some_iff (by decide)).1 hn).1
    rw [hn, UInt8.toNat_ofNat_of_lt' hlt]
  · intro h
    exact ⟨b.toNat, h, UInt8.ofNat_toNat⟩

/-- A number of 32 bits in a base. -/
theorem map_readUnsigned_eq_some_iff {w : UInt32} (h : base ≤ 16) :
    (readUnsigned base UInt32.size cs).map UInt32.ofNat = some w
      ↔ Writes base UInt32.size cs w.toNat := by
  rw [← readUnsigned_eq_some_iff h, Option.map_eq_some_iff]
  constructor
  · rintro ⟨n, hn, rfl⟩
    have hlt : n < UInt32.size := ((readUnsigned_eq_some_iff h).1 hn).1
    rw [hn, UInt32.toNat_ofNat_of_lt' hlt]
  · intro hw
    exact ⟨w.toNat, hw, UInt32.ofNat_toNat⟩

/-- **Words of 32 bits are read exactly as they are written.** -/
theorem readWord_eq_some_iff {w : UInt32} :
    readWord cs = some w ↔ Writes 10 UInt32.size cs w.toNat :=
  map_readUnsigned_eq_some_iff (by decide)

/-! ## §3 Numbers as they are written -/

/-- The digits that a number is written with, by their values. -/
theorem exists_values (h : 1 < base) (n : Nat) :
    ∃ values : List Nat, Nat.toDigits base n = values.map Nat.digitChar
      ∧ (∀ v ∈ values, v < base) ∧ Nat.ofDigits base values.reverse = n := by
  induction n using Nat.strong_induction_on with
  | _ n ih =>
    by_cases hn : n < base
    · exact ⟨[n], Nat.toDigits_of_lt_base hn, by simpa using hn, by simp⟩
    · -- the last digit is the rest of a division, the others write the quotient
      obtain ⟨values, hdigits, hvalues, hnumber⟩ :=
        ih (n / base) (Nat.div_lt_self (by omega) h)
      have hlast : n % base < base := Nat.mod_lt _ (by omega)
      refine ⟨values ++ [n % base], ?_, ?_, ?_⟩
      · rw [Nat.toDigits_of_base_le h (by omega), hdigits, List.map_append, List.map_singleton]
      · intro v hv
        obtain hv | hv := List.mem_append.1 hv
        · exact hvalues v hv
        · rwa [List.mem_singleton.1 hv]
      · rw [List.reverse_append, List.reverse_singleton, List.singleton_append, Nat.ofDigits_cons,
          hnumber, Nat.mod_add_div]

/-- Digits denote the number that their values make. -/
theorem denotes_map_digitChar {values : List Nat} (h : ∀ v ∈ values, v < base) :
    Denotes base (values.map Nat.digitChar) (Nat.ofDigits base values.reverse) := by
  refine ⟨values, ?_, rfl⟩
  rw [List.forall₂_map_left_iff, List.forall₂_same]
  intro v hv
  exact ⟨h v hv, .inl rfl⟩

theorem denotes_toDigits (h : 1 < base) (n : Nat) : Denotes base (Nat.toDigits base n) n := by
  obtain ⟨values, hdigits, hvalues, hnumber⟩ := exists_values h n
  rw [hdigits]
  exact hnumber ▸ denotes_map_digitChar hvalues

/-- The text is the number in base 16, in lower case, with as many digits as it takes and at
least `width`. -/
structure IsHex (width : Nat) (cs : List Char) (n : Nat) : Prop where
  denotes : Denotes 16 cs n
  lower : ∀ c ∈ cs, c.isUpper = false
  length_eq : cs.length = max width (Nat.toDigits 16 n).length

/-- No digit is an upper case letter as it is written. -/
theorem isUpper_digitChar : ∀ v < 16, (Nat.digitChar v).isUpper = false := by decide

/-- **A number is written in base 16 with its digits**, behind zeros if it has fewer than
`width` of them. -/
theorem isHex_hexDigits (width n : Nat) : IsHex width (hexDigits width n) n := by
  obtain ⟨values, hdigits, hvalues, hnumber⟩ := exists_values (show 1 < 16 by decide) n
  have hpadded : hexDigits width n
      = (List.replicate (width - values.length) 0 ++ values).map Nat.digitChar := by
    rw [hexDigits, padLeft, hdigits, List.map_append, List.map_replicate, List.length_map]
    rfl
  have hall : ∀ v ∈ List.replicate (width - values.length) 0 ++ values, v < 16 := by
    intro v hv
    obtain hv | hv := List.mem_append.1 hv
    · rw [List.eq_of_mem_replicate hv]
      decide
    · exact hvalues v hv
  refine ⟨?_, ?_, ?_⟩
  · have hdenotes := denotes_map_digitChar hall
    rwa [List.reverse_append, List.reverse_replicate, Nat.ofDigits_append_replicate_zero, hnumber,
      ← hpadded] at hdenotes
  · rw [hpadded]
    intro c hc
    obtain ⟨v, hv, rfl⟩ := List.mem_map.1 hc
    exact isUpper_digitChar v (hall v hv)
  · rw [hexDigits, padLeft, List.length_append, List.length_replicate]
    omega

/-! ## §4 Decimal numbers -/

/-- The value of an ASCII digit. -/
def digitOf (c : Char) : Nat := c.toNat - '0'.toNat

/-- In base 10 the digits are the ASCII digits. -/
theorem isDigit_ten_iff : IsDigit 10 c v ↔ c.isDigit = true ∧ digitOf c = v := by
  constructor
  · rintro ⟨hv, hc⟩
    interval_cases v <;> obtain rfl | rfl := hc <;> decide
  · rintro ⟨hdigit, rfl⟩
    rw [Char.isDigit_iff_toNat] at hdigit
    have hlo : 48 ≤ c.toNat := hdigit.1
    have hhi : c.toNat ≤ 57 := hdigit.2
    have hv : digitOf c = c.toNat - 48 := rfl
    refine ⟨by omega, .inl ?_⟩
    rw [← Char.toNat_inj, Nat.toNat_digitChar_of_lt_ten (by omega)]
    omega

/-- **A decimal number is made of ASCII digits**, and core's `Nat.ofDigitChars` gives it. -/
theorem denotes_ten_iff :
    Denotes 10 cs n ↔ (∀ c ∈ cs, c.isDigit = true) ∧ Nat.ofDigitChars 10 cs 0 = n := by
  have hten : IsDigit 10 = fun c v => c.isDigit = true ∧ digitOf c = v := by
    funext c v
    exact propext isDigit_ten_iff
  have hvalues : ∀ values, List.Forall₂ (IsDigit 10) cs values
      ↔ (∀ c ∈ cs, c.isDigit = true) ∧ cs.map digitOf = values := by
    intro values
    rw [hten, List.forall₂_and_left, ← List.forall₂_eq_eq_eq, List.forall₂_map_left_iff]
  have hnumber : Nat.ofDigits 10 (cs.map digitOf).reverse = Nat.ofDigitChars 10 cs 0 := by
    rw [← foldl_eq_ofDigits, List.foldl_map, Nat.ofDigitChars_eq_foldl]
    simp only [Nat.mul_comm, digitOf]
  constructor
  · rintro ⟨values, hdigits, rfl⟩
    obtain ⟨hall, rfl⟩ := (hvalues values).1 hdigits
    exact ⟨hall, hnumber.symm⟩
  · rintro ⟨hall, rfl⟩
    exact ⟨_, (hvalues _).2 ⟨hall, rfl⟩, hnumber⟩

/-- What a number is written with in decimal. -/
theorem isDigit_of_mem_toDigits : ∀ c ∈ Nat.toDigits 10 n, c.isDigit = true := by
  intro c hc
  exact Nat.isDigit_of_mem_toDigits (by decide) (by decide) hc

/-- **What was written in decimal reads as itself.** -/
theorem writes_toDigits (h : n < bound) : Writes 10 bound (Nat.toDigits 10 n) n :=
  ⟨h, _, Nat.toDigits_ne_nil, denotes_toDigits (by decide) n, .inl rfl⟩

end AtaVolume.Text
