/-
AtaVolume.Proofs.Bytes.HexDump — a dump can be read back.

The reader (`read`) takes a dump line by line. Of a line it takes what stands before the
first bar, cuts it into words, skips the first one, which is the offset, and reads the others
as bytes of two digits. The text between the bars may look like anything, bars and digits
included; the reader never gets there, because neither an offset nor a column has a bar in it
(`bar_not_mem_front`).

`Shows` says what a line looks like: where the offset is, where the text starts, and what is
in it. A column that has no byte is as wide as one that has, so the text starts at one place
in all lines (`length_cells`). With one lemma for each part, `shows_line` is about one line and
`read_hexDump` about all of them.

Offsets are sums of 64-bit numbers. `hexDump?` works a dump out with these sums checked.
-/
import Mathlib.Algebra.Order.Floor.Div
import AtaVolume.Bytes.HexDump
import AtaVolume.Proofs.Checks
import AtaVolume.Proofs.Text.Numeral
import AtaVolume.Proofs.Text.Words

namespace AtaVolume

namespace HexDump

open Text (hexDigits IsDigit IsHex)

variable {row : List UInt8} {cs rest : List Char} {ls : List (List Char)} {k : Nat} {bytes : Bytes}

/-! ## §1 Reading -/

/-- What stands before the ends of lines. -/
def linesOf (text : String) : List (List Char) := (text.toList.splitOn '\n').dropLast

/-- The field at the front of a line. -/
def offsetField (cs : List Char) : List Char := cs.takeWhile (· != ' ')

/-- The fields behind the offset, up to the text. -/
def byteFields (cs : List Char) : List (List Char) := (Text.words (cs.takeWhile (· != '|'))).tail

/-- The byte that two digits write. -/
def readField : List Char → Option UInt8
  | [high, low] => (Text.readNatural 16 [high, low]).map UInt8.ofNat
  | _ => none

/-- The bytes that the fields of a line write. -/
def readLine (cs : List Char) : Option (List UInt8) := (byteFields cs).mapM readField

/-- The bytes that the fields of all lines write, in order. -/
def read (text : String) : Option (List UInt8) :=
  ((linesOf text).mapM readLine).map List.flatten

/-- The character shows the byte: it is the byte's own if that is visible ASCII or a space, and
a full stop otherwise. -/
structure Prints (b : UInt8) (c : Char) : Prop where
  printable : 0x20 ≤ c.toNat ∧ c.toNat ≤ 0x7E
  own : 0x20 ≤ b.toNat ∧ b.toNat ≤ 0x7E → c.toNat = b.toNat
  stop : ¬ (0x20 ≤ b.toNat ∧ b.toNat ≤ 0x7E) → c = '.'

/-- The line shows these bytes, the first of which has the offset: it starts with the offset in
base 16, its fields are the bytes, and behind 52 more characters there is, between bars, one
character for each byte. -/
structure Shows (offset : Nat) (row : List UInt8) (cs : List Char) : Prop where
  starts : IsHex 8 (offsetField cs) offset
  bytes : readLine cs = some row
  text : ∃ columns shown, cs = offsetField cs ++ columns ++ '|' :: shown ++ ['|']
    ∧ columns.length = 52 ∧ List.Forall₂ Prints row shown

/-! ## §2 Columns -/

/-- The field of a byte. -/
abbrev field (b : UInt8) : List Char := hexDigits 2 b.toNat

/-- Column `k` of a line, with the second space if it is the eighth. -/
def column (row : List UInt8) (k : Nat) : List Char :=
  cell row[k]? ++ (if k = 7 then [' '] else [])

theorem cells_eq (row : List UInt8) : cells row = (List.range 16).flatMap (column row) := rfl

theorem length_field (b : UInt8) : (field b).length = 2 := by
  have hdigits : (Nat.toDigits 16 b.toNat).length ≤ 2 :=
    (Nat.length_toDigits_le_iff (by decide) (by decide)).2 b.toNat_lt
  rw [(Text.isHex_hexDigits 2 b.toNat).length_eq]
  omega

/-- **A field is read as its byte.** -/
theorem readField_field (b : UInt8) : readField (field b) = some b := by
  obtain ⟨high, low, hfield⟩ := List.length_eq_two.1 (length_field b)
  have hread : Text.readNatural 16 [high, low] = some b.toNat := by
    rw [Text.readNatural_eq_some_iff (by decide), ← hfield]
    exact ⟨by simp [hfield], (Text.isHex_hexDigits 2 b.toNat).denotes⟩
  simp [hfield, readField, hread]

/-- The characters before the text: digits and spaces. -/
def Plain (c : Char) : Prop := c = ' ' ∨ ∃ v, IsDigit 16 c v

theorem isAsciiBlank_of_isDigit {c : Char} {v : Nat} (h : IsDigit 16 c v) :
    Text.isAsciiBlank c = false := by
  rw [← Bool.not_eq_true]
  intro hblank
  simp only [Text.isAsciiBlank, Bool.or_eq_true, beq_iff_eq, or_assoc] at hblank
  obtain rfl | rfl | rfl | rfl | rfl := hblank <;> exact Text.not_isDigit (by decide) rfl h

theorem Plain.ne {c d : Char} (h : Plain c) (hspace : d ≠ ' ')
    (hdigit : Text.digitValue? 16 d = none) : c ≠ d := by
  rintro rfl
  obtain hc | ⟨v, hv⟩ := h
  · exact hspace hc
  · exact Text.not_isDigit (by decide) hdigit hv

theorem plain_hexDigits (width n : Nat) : ∀ c ∈ hexDigits width n, Plain c := by
  intro c hc
  exact .inr ((Text.isHex_hexDigits width n).denotes.isDigit c hc)

theorem plain_column (row : List UInt8) (k : Nat) : ∀ c ∈ column row k, Plain c := by
  have hspace : Plain ' ' := .inl rfl
  intro c hc
  rw [column, List.mem_append] at hc
  obtain hc | hc := hc
  · cases hb : row[k]? with
    | none =>
      obtain rfl : c = ' ' := by simpa [hb, cell] using hc
      exact hspace
    | some b =>
      obtain hc | rfl : c ∈ field b ∨ c = ' ' := by simpa [hb, cell] using hc
      · exact plain_hexDigits 2 b.toNat c hc
      · exact hspace
  · obtain ⟨-, rfl⟩ : k = 7 ∧ c = ' ' := by simpa using hc
    exact hspace

/-- A column without a byte is as wide as one with a byte. -/
theorem length_column (row : List UInt8) (k : Nat) :
    (column row k).length = 3 + if k = 7 then 1 else 0 := by
  have hcell : (cell row[k]?).length = 3 := by
    cases row[k]? with
    | none => rfl
    | some b => simp [cell, length_field]
  rw [column, List.length_append, hcell]
  split <;> rfl

/-- **The columns are as wide in a short line as in a full one.** -/
theorem length_cells (row : List UInt8) : (cells row).length = 49 := by
  have hwidths : (column row · |>.length) = fun k => 3 + if k = 7 then 1 else 0 :=
    funext (length_column row)
  rw [cells_eq, List.length_flatMap, hwidths]
  rfl

/-- A number is one word. -/
theorem words_hexDigits (width n : Nat) (hrest : ∀ c ∈ rest.head?, Text.isAsciiBlank c = true) :
    Text.words (hexDigits width n ++ rest) = hexDigits width n :: Text.words rest := by
  have hhex := Text.isHex_hexDigits width n
  have hne : hexDigits width n ≠ [] := by
    rw [← List.length_pos_iff, hhex.length_eq]
    exact lt_max_of_lt_right Nat.length_toDigits_pos
  refine Text.words_append hne ?_ hrest
  intro c hc
  obtain ⟨v, hv⟩ := hhex.denotes.isDigit c hc
  exact isAsciiBlank_of_isDigit hv

/-- A column is a word if it has a byte, and none if not. -/
theorem words_column (row : List UInt8) (k : Nat) (rest : List Char) :
    Text.words (column row k ++ rest) = (row[k]?.map field).toList ++ Text.words rest := by
  have hspaces : ∀ n, Text.AsciiBlanks (List.replicate n ' ') := by
    intro n c hc
    rw [List.eq_of_mem_replicate hc]
    rfl
  -- the second space behind the eighth column starts no word
  have hgap : ∀ text, Text.words ((if k = 7 then [' '] else []) ++ text) = Text.words text := by
    intro text
    split
    · exact Text.words_blanks (hspaces 1) text
    · rfl
  rw [column, List.append_assoc]
  cases row[k]? with
  | none =>
    rw [show cell none = List.replicate 3 ' ' from rfl, Text.words_blanks (hspaces 3), hgap]
    rfl
  | some b =>
    rw [show cell (some b) = field b ++ List.replicate 1 ' ' from rfl, List.append_assoc,
      words_hexDigits 2 b.toNat (by simp [Text.isAsciiBlank]), Text.words_blanks (hspaces 1), hgap]
    rfl

/-- The columns that have bytes are words, the others are not. -/
theorem words_columns (row : List UInt8) (ks : List Nat) (rest : List Char) :
    Text.words (ks.flatMap (column row) ++ rest)
      = (ks.filterMap (row[·]?)).map field ++ Text.words rest := by
  induction ks with
  | nil => rfl
  | cons k ks ih =>
    rw [List.flatMap_cons, List.append_assoc, words_column, ih]
    cases hb : row[k]? <;> simp [hb]

/-- The first columns have the first bytes. -/
theorem filterMap_range (row : List UInt8) (n : Nat) :
    (List.range n).filterMap (row[·]?) = row.take n := by
  induction n with
  | zero => rfl
  | succ n ih =>
    rw [List.range_succ, List.filterMap_append, ih, List.take_add_one]
    cases hb : row[n]? <;> simp [hb]

/-- **The columns are cut into the fields of all bytes of the line.** -/
theorem words_cells (h : row.length ≤ 16) (rest : List Char) :
    Text.words (cells row ++ rest) = row.map field ++ Text.words rest := by
  rw [cells_eq, words_columns, filterMap_range, List.take_of_length_le h]

/-! ## §3 Lines -/

/-- What stands in a line before the text. -/
def front (offset : Nat) (row : List UInt8) : List Char :=
  hexDigits 8 offset ++ ([' ', ' '] ++ cells row ++ [' '])

theorem line_eq (offset : Nat) (row : List UInt8) :
    line offset row = front offset row ++ '|' :: (row.map shown ++ ['|']) := by
  simp [line, front]

theorem plain_front (offset : Nat) (row : List UInt8) : ∀ c ∈ front offset row, Plain c := by
  have hspace : Plain ' ' := .inl rfl
  intro c hc
  simp only [front, cells_eq, List.mem_append, List.mem_flatMap, List.mem_cons, List.not_mem_nil,
    or_false, or_self] at hc
  obtain hc | (rfl | ⟨k, -, hc⟩) | rfl := hc
  · exact plain_hexDigits 8 offset c hc
  · exact hspace
  · exact plain_column row k c hc
  · exact hspace

/-- The first bar is the one before the text. -/
theorem bar_not_mem_front (offset : Nat) (row : List UInt8) : '|' ∉ front offset row := by
  intro hbar
  exact (plain_front offset row '|' hbar).ne (by decide) rfl rfl

/-- The first word of a line is its offset, and the others up to the first bar are its bytes. -/
theorem words_front (h : row.length ≤ 16) (offset : Nat) :
    Text.words (front offset row) = hexDigits 8 offset :: row.map field := by
  have hspaces : Text.AsciiBlanks [' ', ' '] := by simp [Text.AsciiBlanks, Text.isAsciiBlank]
  rw [front, words_hexDigits 8 offset (by simp [Text.isAsciiBlank]), List.append_assoc,
    Text.words_blanks hspaces, words_cells h]
  simp [Text.words, Text.isAsciiBlank]

/-- **The bytes of a line are read from it**, whatever its text looks like. -/
theorem readLine_line (h : row.length ≤ 16) (offset : Nat) :
    readLine (line offset row) = some row := by
  have hfront : (line offset row).takeWhile (· != '|') = front offset row := by
    have hall : ∀ c ∈ front offset row, (c != '|') = true := by
      intro c hc
      exact bne_iff_ne.2 (ne_of_mem_of_not_mem hc (bar_not_mem_front offset row))
    rw [line_eq, List.takeWhile_append_of_pos hall]
    simp
  have hfields : (row.map field).mapM readField = some (row.map id) := by
    rw [List.mapM_map]
    exact mapM_eq_some row fun b _ => readField_field b
  rw [readLine, byteFields, hfront, words_front h, List.tail_cons, hfields, List.map_id]

theorem offsetField_line (offset : Nat) (row : List UInt8) :
    offsetField (line offset row) = hexDigits 8 offset := by
  have hall : ∀ c ∈ hexDigits 8 offset, (c != ' ') = true := by
    intro c hc
    obtain ⟨v, hv⟩ := (Text.isHex_hexDigits 8 offset).denotes.isDigit c hc
    rw [bne_iff_ne]
    rintro rfl
    exact Text.not_isDigit (by decide) rfl hv
  rw [offsetField, line_eq, front, List.append_assoc, List.takeWhile_append_of_pos hall]
  simp

/-- A byte is shown by a character that does not end the line, whatever byte it is. -/
theorem prints_shown (b : UInt8) : Prints b (shown b) := by
  have hvisible : (0x20 ≤ b && b ≤ 0x7E) = true ↔ 0x20 ≤ b.toNat ∧ b.toNat ≤ 0x7E := by
    simp only [Bool.and_eq_true, decide_eq_true_eq, UInt8.le_iff_toNat_le]
    rfl
  unfold shown
  split
  case isTrue h =>
    have hb := hvisible.1 h
    have hascii : ∀ n < 0x7F, (Char.ofNat n).toNat = n := by decide
    have hown : (Char.ofNat b.toNat).toNat = b.toNat := hascii b.toNat (by omega)
    exact ⟨by rwa [hown], fun _ => hown, fun hstop => absurd hb hstop⟩
  case isFalse h =>
    rw [hvisible] at h
    exact ⟨by decide, fun hb => absurd hb h, fun _ => rfl⟩

/-- **What a line looks like.** -/
theorem shows_line (h : row.length ≤ 16) (offset : Nat) : Shows offset row (line offset row) where
  starts := by
    rw [offsetField_line]
    exact Text.isHex_hexDigits 8 offset
  bytes := readLine_line h offset
  text := by
    refine ⟨[' ', ' '] ++ cells row ++ [' '], row.map shown, ?_, ?_, ?_⟩
    · rw [offsetField_line]
      simp [line]
    · simp [length_cells]
    · rw [List.forall₂_map_right_iff, List.forall₂_same]
      intro b _
      exact prints_shown b

theorem newline_not_mem_line (offset : Nat) (row : List UInt8) : '\n' ∉ line offset row := by
  have hshown : ∀ b, '\n' ≠ shown b := by
    intro b heq
    have hprintable := (prints_shown b).printable.1
    rw [← heq] at hprintable
    exact absurd hprintable (by decide)
  intro hmem
  simp only [line_eq, List.mem_append, List.mem_cons, List.mem_map, List.not_mem_nil,
    or_false] at hmem
  obtain hmem | heq | ⟨b, -, hb⟩ | heq := hmem
  · exact (plain_front offset row _ hmem).ne (by decide) rfl rfl
  · cases heq
  · exact hshown b hb.symm
  · cases heq

/-! ## §4 Dumps -/

/-- Lines are found again behind each other, each with its end. -/
theorem linesOf_ofList (h : ∀ cs ∈ ls, '\n' ∉ cs) :
    linesOf (String.ofList (ls.flatMap (· ++ ['\n']))) = ls := by
  -- behind the last end there is one more piece, with nothing in it
  have hsplit : (ls.flatMap (· ++ ['\n'])).splitOn '\n' = ls ++ [[]] := by
    induction ls with
    | nil => rfl
    | cons cs ls ih =>
      rw [List.flatMap_cons, List.append_assoc, List.singleton_append,
        List.splitOn_append_cons_self, List.splitOn_eq_singleton (h cs List.mem_cons_self),
        ih fun cs hcs => h cs (List.mem_cons_of_mem _ hcs)]
      rfl
  rw [linesOf, String.toList_ofList, hsplit, List.dropLast_concat]

/-- The rows are the bytes, sixteen at a time. -/
theorem rows_eq (bytes : Bytes) :
    rows bytes = (List.range (bytes.size ⌈/⌉ 16)).map
      fun k => (bytes.toList.drop (k * 16)).take 16 := by
  have hrow : ∀ k, (bytes.extract (k * 16) ((k + 1) * 16)).toList
      = (bytes.toList.drop (k * 16)).take 16 := by
    intro k
    rw [Array.toList_extract, List.extract_eq_take_drop, Nat.succ_mul, Nat.add_sub_cancel_left]
  exact List.map_congr_left fun k _ => hrow k

theorem length_rows (bytes : Bytes) : (rows bytes).length = bytes.size ⌈/⌉ 16 := by
  rw [rows_eq, List.length_map, List.length_range]

theorem getElem?_rows (h : (rows bytes)[k]? = some row) :
    row = (bytes.toList.drop (k * 16)).take 16 := by
  rw [rows_eq, List.getElem?_map, Option.map_eq_some_iff] at h
  obtain ⟨i, hi, rfl⟩ := h
  obtain ⟨_, rfl⟩ := List.getElem?_eq_some_iff.1 hi
  rw [List.getElem_range]

theorem length_le_of_mem_rows : ∀ row ∈ rows bytes, row.length ≤ 16 := by
  intro row hrow
  rw [rows_eq, List.mem_map] at hrow
  obtain ⟨k, -, rfl⟩ := hrow
  exact List.length_take_le 16 _

/-- The first pieces of a run of bytes are what it starts with. -/
theorem flatten_pieces (bytes : List UInt8) (n : Nat) :
    ((List.range n).map fun k => (bytes.drop (k * 16)).take 16).flatten = bytes.take (n * 16) := by
  induction n with
  | zero => simp
  | succ n ih =>
    rw [List.range_succ, List.map_append, List.flatten_append, ih, Nat.succ_mul, List.take_add]
    simp

/-- **The rows are all of the bytes.** -/
theorem flatten_rows (bytes : Bytes) : (rows bytes).flatten = bytes.toList := by
  rw [rows_eq, flatten_pieces, Nat.ceilDiv_eq_add_pred_div]
  apply List.take_of_length_le
  rw [Array.length_toList]
  omega

/-- The lines of a dump are found again. -/
theorem linesOf_hexDump (bytes : Bytes) (base : Nat) :
    linesOf (hexDump bytes base) = lines base bytes := by
  apply linesOf_ofList
  intro cs hcs
  obtain ⟨⟨row, k⟩, -, rfl⟩ := List.mem_map.1 hcs
  exact newline_not_mem_line _ row

theorem getElem?_lines (bytes : Bytes) (base k : Nat) :
    (lines base bytes)[k]? = (rows bytes)[k]?.map (line (base + k * 16)) := by
  rw [lines, List.getElem?_map, List.getElem?_zipIdx, Option.map_map, Nat.zero_add]
  rfl

/-- **A dump is read back as its bytes.** -/
theorem read_hexDump (bytes : Bytes) (base : Nat) :
    read (hexDump bytes base) = some bytes.toList := by
  have hlines : (lines base bytes).mapM readLine = some ((rows bytes).zipIdx.map Prod.fst) := by
    rw [lines, List.mapM_map]
    apply mapM_eq_some
    rintro ⟨row, k⟩ hrow
    exact readLine_line (length_le_of_mem_rows row (List.fst_mem_of_mem_zipIdx hrow)) _
  rw [read, linesOf_hexDump, hlines, List.zipIdx_map_fst, Option.map_some, flatten_rows]

/-! ## §5 Offsets -/

/-- The offset of a line, if it is a 64-bit number. -/
def offset? (base : UInt64) (k : Nat) : Option UInt64 :=
  if base.toNat + k * 16 < UInt64.size then some (base + UInt64.ofNat (k * 16)) else none

/-- The lines of a dump, with the sum of each offset checked. -/
def lines? (base : UInt64) (bytes : Bytes) : Option (List (List Char)) :=
  (rows bytes).zipIdx.mapM fun (row, k) => do return line (← offset? base k).toNat row

/-- The offset of a line, as long as it does not leave the 64 bits. -/
theorem offset?_eq {base : UInt64} (h : base.toNat + k * 16 < 2 ^ 64) :
    ∃ offset, offset? base k = some offset ∧ offset.toNat = base.toNat + k * 16 := by
  refine ⟨base + UInt64.ofNat (k * 16), if_pos h, ?_⟩
  have hk : (UInt64.ofNat (k * 16)).toNat = k * 16 :=
    UInt64.toNat_ofNat_of_lt' (show k * 16 < 2 ^ 64 by omega)
  rw [UInt64.toNat_add, hk]
  exact Nat.mod_eq_of_lt h

/-- **No offset leaves the 64 bits** if the bytes end within them. -/
theorem lines?_eq {base : UInt64} {bytes : Bytes} (h : base.toNat + bytes.size < 2 ^ 64) :
    lines? base bytes = some (lines base.toNat bytes) := by
  apply mapM_eq_some
  rintro ⟨row, k⟩ hrow
  have hk : k < bytes.size ⌈/⌉ 16 := by
    rw [← length_rows]
    exact List.snd_lt_of_mem_zipIdx hrow
  rw [Nat.ceilDiv_eq_add_pred_div] at hk
  have hwithin : base.toNat + k * 16 < 2 ^ 64 := by omega
  obtain ⟨offset, hoffset, hnat⟩ := offset?_eq hwithin
  simp [hoffset, hnat]

end HexDump

/-- The dump of `bytes`, worked out with the sum of each offset checked. -/
def hexDump? (bytes : Bytes) (base : UInt64) : Option String := do
  return String.ofList ((← HexDump.lines? base bytes).flatMap (· ++ ['\n']))

namespace HexDump

/-- **A dump can be read back.** There is one if its bytes end within 64 bits, with a line for
each sixteen of them and one for what is left, each with its end. Every line shows its offset
and its bytes, in columns that do not depend on either. All of the bytes are read from the
lines, so different bytes have different dumps. -/
theorem hexDump_reads_back (bytes : Bytes) (base : UInt64)
    (h : base.toNat + bytes.size < 2 ^ 64) :
    hexDump? bytes base = some (hexDump bytes base.toNat)
      ∧ (linesOf (hexDump bytes base.toNat)).length = bytes.size ⌈/⌉ 16
      ∧ (linesOf (hexDump bytes base.toNat)).flatMap (· ++ ['\n'])
        = (hexDump bytes base.toNat).toList
      ∧ (∀ k cs, (linesOf (hexDump bytes base.toNat))[k]? = some cs →
        Shows (base.toNat + k * 16) ((bytes.toList.drop (k * 16)).take 16) cs)
      ∧ read (hexDump bytes base.toNat) = some bytes.toList
      ∧ ∀ other : Bytes, hexDump other base.toNat = hexDump bytes base.toNat → other = bytes := by
  rw [linesOf_hexDump]
  refine ⟨?_, ?_, ?_, ?_, read_hexDump bytes base.toNat, ?_⟩
  · rw [hexDump?, lines?_eq h]
    rfl
  · rw [lines, List.length_map, List.length_zipIdx, length_rows]
  · rw [hexDump, String.toList_ofList]
  · intro k cs hcs
    rw [getElem?_lines, Option.map_eq_some_iff] at hcs
    obtain ⟨row, hrow, rfl⟩ := hcs
    rw [← getElem?_rows hrow]
    exact shows_line (length_le_of_mem_rows row (List.mem_of_getElem? hrow)) _
  · intro other heq
    have hread := read_hexDump other base.toNat
    rw [heq, read_hexDump, Option.some.injEq] at hread
    exact (Array.toList_inj.1 hread).symm

/-- Bytes whose text looks like fields and bars, a line feed among them. -/
def barred : Bytes := #[0x7C, 0x37, 0x63, 0x7C, 0x20, 0x30, 0x61, 0x0A,
  0x7C, 0x32, 0x30, 0x20, 0x37, 0x63, 0x7C, 0xFF, 0x7C]

/-- The second line has a longer offset than the first one, and only one byte. -/
theorem hexDump_reads_back_barred :
    (0xFFFFFFF8 : UInt64).toNat + barred.size < 2 ^ 64
      ∧ hexDump barred 0xFFFFFFF8
        = "fffffff8  7c 37 63 7c 20 30 61 0a  7c 32 30 20 37 63 7c ff  ||7c| 0a.|20 7c|.|\n"
          ++ "100000008  7c                                                |||\n"
      ∧ hexDump? barred 0xFFFFFFF8 = some (hexDump barred 0xFFFFFFF8)
      ∧ (∃ cs, (linesOf (hexDump barred 0xFFFFFFF8))[1]? = some cs ∧ Shows 0x100000008 [0x7C] cs)
      ∧ read (hexDump barred 0xFFFFFFF8) = some barred.toList := by
  have hwithin : (0xFFFFFFF8 : UInt64).toNat + barred.size < 2 ^ 64 := by decide
  obtain ⟨hdump, -, -, hshows, hread, -⟩ := hexDump_reads_back barred 0xFFFFFFF8 hwithin
  have hsecond : (linesOf (hexDump barred 0xFFFFFFF8))[1]?
      = some (line 0x100000008 [0x7C]) := by
    rw [linesOf_hexDump]
    decide +kernel
  exact ⟨hwithin, by decide +kernel, hdump, ⟨_, hsecond, hshows 1 _ hsecond⟩, hread⟩

end HexDump

end AtaVolume
