/-
AtaVolume.Proofs.Text.Words — what is left of a text that is trimmed and cut into words.

`TrimsTo` says what trimming is for: blanks are taken from both ends until there is none at
either. There is one text of this kind, and `trim` finds it (`trimsTo_iff`).

`Spaced` says what words are: a text is its words in order, with ASCII blanks before, between
and behind them. There is one list of words of this kind too, and `words` finds it
(`words_eq_iff`). The two classes of blanks are not the same, so that trimming can take away
a part of a word; it leaves the words alone if none of them has a blank of any kind
(`Spaced.words_trim`).
-/
import Mathlib.Data.List.DropRight
import AtaVolume.Text.Blank

namespace AtaVolume.Text

variable {cs text front back gap word rest : List Char}

/-- All characters are ASCII blanks. -/
def AsciiBlanks (cs : List Char) : Prop := ∀ c ∈ cs, isAsciiBlank c = true

/-- All characters are blanks. -/
def Blanks (cs : List Char) : Prop := ∀ c ∈ cs, isBlank c = true

theorem isBlank_of_isAsciiBlank {c : Char} (h : isAsciiBlank c = true) : isBlank c = true := by
  simp only [isAsciiBlank, Bool.or_eq_true, beq_iff_eq, or_assoc] at h
  obtain rfl | rfl | rfl | rfl | rfl := h <;> decide

theorem isAsciiBlank_eq_false {c : Char} (h : isBlank c = false) : isAsciiBlank c = false := by
  cases hc : isAsciiBlank c with
  | false => rfl
  | true =>
    rw [isBlank_of_isAsciiBlank hc] at h
    cases h

theorem isBlank_of_isDigit {c : Char} (h : c.isDigit = true) : isBlank c = false := by
  rw [Char.isDigit_iff_toNat] at h
  have hlo : 48 ≤ c.toNat := h.1
  have hhi : c.toNat ≤ 57 := h.2
  simp [isBlank]
  omega

/-! ## §1 Trimming -/

/-- The text has no blank at either end. -/
def Trimmed (text : List Char) : Prop :=
  (∀ c ∈ text.head?, isBlank c = false) ∧ ∀ c ∈ text.getLast?, isBlank c = false

/-- What is left without the blanks at both ends. -/
def TrimsTo (cs text : List Char) : Prop :=
  Trimmed text ∧ ∃ front back, cs = front ++ text ++ back ∧ Blanks front ∧ Blanks back

theorem trim_eq (cs : List Char) : trim cs = (cs.dropWhile isBlank).rdropWhile isBlank := rfl

theorem trimsTo_trim (cs : List Char) : TrimsTo cs (trim cs) := by
  have hfront : cs.takeWhile isBlank ++ cs.dropWhile isBlank = cs := List.takeWhile_append_dropWhile
  have hback : trim cs ++ (cs.dropWhile isBlank).rtakeWhile isBlank = cs.dropWhile isBlank := by
    rw [trim_eq, List.rdropWhile, List.rtakeWhile, ← List.reverse_append,
      List.takeWhile_append_dropWhile, List.reverse_reverse]
  refine ⟨⟨?_, ?_⟩, cs.takeWhile isBlank, (cs.dropWhile isBlank).rtakeWhile isBlank, ?_, ?_, ?_⟩
  · -- the first character that is left is the first one that is no blank
    intro c hc
    have hhead : c ∈ (cs.dropWhile isBlank).head? := by
      rw [← hback]
      exact List.mem_head?_append_of_mem_head? hc
    have hnot := List.head?_dropWhile_not isBlank cs
    rwa [Option.mem_def.1 hhead] at hnot
  · intro c hc
    have hne : trim cs ≠ [] := by
      intro hnil
      simp [hnil] at hc
    have hlast := List.rdropWhile_last_not isBlank (cs.dropWhile isBlank) hne
    rw [List.getLast?_eq_getLast_of_ne_nil hne, Option.mem_def, Option.some.injEq] at hc
    rw [← hc]
    exact eq_false_of_ne_true hlast
  · rw [List.append_assoc, hback, hfront]
  · intro c hc
    exact List.mem_takeWhile_imp hc
  · intro c hc
    exact List.mem_rtakeWhile_imp hc

/-- What is left has been taken from its ends only. -/
theorem trim_of_blanks (hfront : Blanks front) (hback : Blanks back) (htext : Trimmed text) :
    trim (front ++ text ++ back) = text := by
  obtain ⟨hfirst, hlast⟩ := htext
  -- the blanks behind go with those in front if nothing stands between
  cases text with
  | nil =>
    have hall : ∀ c ∈ front ++ back, isBlank c = true := by
      intro c hc
      exact (List.mem_append.1 hc).elim (hfront c) (hback c)
    rw [List.append_nil, trim_eq, List.dropWhile_eq_nil_iff.2 hall, List.rdropWhile_nil]
  | cons c text =>
    have hc : isBlank c = false := hfirst c rfl
    have hdrop : (front ++ (c :: text) ++ back).dropWhile isBlank = (c :: text) ++ back := by
      rw [List.append_assoc, List.dropWhile_append_of_pos hfront, List.cons_append,
        List.dropWhile_cons_of_neg (by simp [hc])]
    have hend : ∀ hne : (c :: text) ≠ [], ¬ isBlank ((c :: text).getLast hne) = true := by
      intro hne
      have hget := hlast _ (List.getLast?_eq_getLast_of_ne_nil hne)
      simp [hget]
    rw [trim_eq, hdrop, List.rdropWhile, List.reverse_append,
      List.dropWhile_append_of_pos (by simpa [Blanks] using hback), ← List.rdropWhile,
      List.rdropWhile_eq_self_iff.2 hend]

/-- **Trimming takes blanks from both ends**, as many as there are. -/
theorem trimsTo_iff : TrimsTo cs text ↔ trim cs = text := by
  constructor
  · rintro ⟨htext, front, back, rfl, hfront, hback⟩
    exact trim_of_blanks hfront hback htext
  · rintro rfl
    exact trimsTo_trim cs

/-! ## §2 Words -/

/-- The text is these words, in order, with ASCII blanks before, between and behind them:
at least one between two words. -/
inductive Spaced : List (List Char) → List Char → Prop
  | blanks {gap : List Char} (hgap : AsciiBlanks gap) : Spaced [] gap
  | word {gap word rest : List Char} {ws : List (List Char)}
      (hgap : AsciiBlanks gap) (hne : word ≠ []) (hword : ∀ c ∈ word, isAsciiBlank c = false)
      (hrest : ∀ c ∈ rest.head?, isAsciiBlank c = true) (tail : Spaced ws rest) :
      Spaced (word :: ws) (gap ++ word ++ rest)

variable {ws : List (List Char)} {c d : Char}

theorem words_of_blank (hc : isAsciiBlank c = true) (cs : List Char) :
    words (c :: cs) = words cs := by
  simp [words, hc]

/-- A word ends before a blank, and with the text. -/
theorem words_of_last (hc : isAsciiBlank c = false)
    (hrest : ∀ d ∈ rest.head?, isAsciiBlank d = true) : words (c :: rest) = [c] :: words rest := by
  cases rest with
  | nil => simp [words, hc]
  | cons d rest =>
    have hd : isAsciiBlank d = true := hrest d rfl
    simp [words, hc, hd]

/-- A word goes on with the word that starts behind its first character. -/
theorem words_of_word (hc : isAsciiBlank c = false) (hd : isAsciiBlank d = false)
    (h : words (d :: cs) = word :: ws) : words (c :: d :: cs) = (c :: word) :: ws := by
  rw [words]
  simp [hc, hd, h]

theorem words_blanks (h : AsciiBlanks gap) (cs : List Char) : words (gap ++ cs) = words cs := by
  induction gap with
  | nil => rfl
  | cons c gap ih =>
    have hc : isAsciiBlank c = true := h c (by simp)
    have hgap : AsciiBlanks gap := fun d hd => h d (by simp [hd])
    rw [List.cons_append, words_of_blank hc, ih hgap]

/-- A word ends at the first blank. -/
theorem words_append (hne : word ≠ []) (hword : ∀ c ∈ word, isAsciiBlank c = false)
    (hrest : ∀ c ∈ rest.head?, isAsciiBlank c = true) : words (word ++ rest) = word :: words rest := by
  induction word with
  | nil => exact absurd rfl hne
  | cons c word ih =>
    have hc : isAsciiBlank c = false := hword c (by simp)
    cases word with
    | nil => exact words_of_last hc hrest
    | cons d word =>
      have hd : isAsciiBlank d = false := hword d (by simp)
      exact words_of_word hc hd (ih (by simp) fun e he => hword e (by simp [he]))

namespace Spaced

/-- A text that is spaced words is cut into them. -/
theorem words_eq (h : Spaced ws text) : words text = ws := by
  induction h with
  | blanks hgap => simpa [words] using words_blanks hgap []
  | word hgap hne hword hrest _ ih =>
    rw [List.append_assoc, words_blanks hgap, words_append hne hword hrest, ih]

theorem cons_blank (h : Spaced ws text) (hc : isAsciiBlank c = true) : Spaced ws (c :: text) := by
  have hcons : ∀ {gap}, AsciiBlanks gap → AsciiBlanks (c :: gap) := by
    intro gap hgap
    simpa [AsciiBlanks, hc] using hgap
  cases h with
  | blanks hgap => exact .blanks (hcons hgap)
  | word hgap hne hword hrest tail => exact .word (hcons hgap) hne hword hrest tail

/-- A character before a word becomes part of it. -/
theorem cons_word (h : Spaced ws (d :: text)) (hc : isAsciiBlank c = false)
    (hd : isAsciiBlank d = false) : ∃ word rest, ws = word :: rest
      ∧ Spaced ((c :: word) :: rest) (c :: d :: text) := by
  generalize htext : d :: text = whole at h
  cases h with
  | blanks hgap =>
    subst htext
    have hblank : isAsciiBlank d = true := hgap d (by simp)
    rw [hd] at hblank
    cases hblank
  | @word gap word rest ws hgap hne hword hrest tail =>
    cases gap with
    | nil =>
      refine ⟨word, ws, rfl, ?_⟩
      have hword' : ∀ e ∈ c :: word, isAsciiBlank e = false := by simpa [hc] using hword
      simpa using @Spaced.word [] _ _ _ (by simp [AsciiBlanks]) (by simp) hword' hrest tail
    | cons e gap =>
      cases htext
      have hblank : isAsciiBlank d = true := hgap d (by simp)
      rw [hd] at hblank
      cases hblank

end Spaced

/-- A text is spaced words: those that it is cut into. -/
theorem spaced_words (cs : List Char) : Spaced (words cs) cs := by
  induction cs with
  | nil => exact .blanks (by simp [AsciiBlanks])
  | cons c cs ih =>
    by_cases hc : isAsciiBlank c = true
    · rw [words_of_blank hc]
      exact ih.cons_blank hc
    · rw [Bool.not_eq_true] at hc
      -- what follows `c` tells whether its word ends
      by_cases hlast : ∀ d ∈ cs.head?, isAsciiBlank d = true
      · rw [words_of_last hc hlast]
        exact @Spaced.word [] [c] _ _ (by simp [AsciiBlanks]) (by simp) (by simpa using hc) hlast ih
      · cases cs with
        | nil => simp at hlast
        | cons d cs =>
          have hd : isAsciiBlank d = false := by simpa using hlast
          obtain ⟨word, ws, hws, hspaced⟩ := ih.cons_word hc hd
          rw [words_of_word hc hd hws]
          exact hspaced

/-- **Words are what stands between ASCII blanks.** -/
theorem words_eq_iff : words text = ws ↔ Spaced ws text := by
  constructor
  · rintro rfl
    exact spaced_words text
  · exact Spaced.words_eq

namespace Spaced

theorem append_blanks (h : Spaced ws text) (hgap : AsciiBlanks gap) : Spaced ws (text ++ gap) := by
  induction h with
  | blanks hfront =>
    refine .blanks ?_
    intro c hc
    exact (List.mem_append.1 hc).elim (hfront c) (hgap c)
  | @word front word rest ws hfront hne hword hrest _ ih =>
    rw [List.append_assoc]
    refine .word hfront hne hword ?_ ih
    cases rest with
    | nil =>
      intro c hc
      exact hgap c (List.mem_of_mem_head? hc)
    | cons d rest => simpa using hrest

/-- If no word has a blank in it, all blanks are ASCII blanks. -/
theorem isAsciiBlank_of_isBlank (h : Spaced ws text) (hws : ∀ word ∈ ws, ∀ c ∈ word, isBlank c = false) :
    ∀ c ∈ text, isBlank c = true → isAsciiBlank c = true := by
  induction h with
  | blanks hgap =>
    intro c hc _
    exact hgap c hc
  | word hgap _ _ _ _ ih =>
    intro c hc hblank
    simp only [List.mem_append] at hc
    obtain (hc | hc) | hc := hc
    · exact hgap c hc
    · rw [hws _ (by simp) c hc] at hblank
      cases hblank
    · exact ih (fun word hword => hws word (by simp [hword])) c hc hblank

/-- Words can be written with one space before each of them. -/
theorem spaces (hws : ∀ word ∈ ws, word ≠ [] ∧ ∀ c ∈ word, isBlank c = false) :
    Spaced ws (ws.flatMap (' ' :: ·)) := by
  induction ws with
  | nil => exact .blanks (by simp [AsciiBlanks])
  | cons word ws ih =>
    obtain ⟨hne, hword⟩ := hws word (by simp)
    have hascii : ∀ c ∈ word, isAsciiBlank c = false := fun c hc => isAsciiBlank_eq_false (hword c hc)
    have hrest : ∀ c ∈ (ws.flatMap (' ' :: ·)).head?, isAsciiBlank c = true := by
      cases ws with
      | nil => simp
      | cons next ws => simp; decide
    have htail : Spaced ws (ws.flatMap (' ' :: ·)) := ih fun word hword => hws word (by simp [hword])
    have hgap : AsciiBlanks [' '] := by simp [AsciiBlanks, isAsciiBlank]
    exact Spaced.word hgap hne hascii hrest htail

/-- **Trimming leaves the words alone** if none of them has a blank in it. -/
theorem words_trim (h : Spaced ws text) (hws : ∀ word ∈ ws, ∀ c ∈ word, isBlank c = false) :
    words (trim text) = ws := by
  obtain ⟨-, front, back, htext, hfront, hback⟩ := trimsTo_trim text
  have hascii := h.isAsciiBlank_of_isBlank hws
  rw [htext] at hascii
  have hfront' : AsciiBlanks front := fun c hc => hascii c (by simp [hc]) (hfront c hc)
  have hback' : AsciiBlanks back := fun c hc => hascii c (by simp [hc]) (hback c hc)
  have hall : words (trim text) = words text := by
    conv_rhs => rw [htext, List.append_assoc, words_blanks hfront']
    exact ((spaced_words (trim text)).append_blanks hback').words_eq.symm
  rw [hall, h.words_eq]

end Spaced

end AtaVolume.Text
