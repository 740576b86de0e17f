/-
AtaVolume.Proofs.Volume.Codec — records are rows of numbers, written and read exactly.

A record is stored as a row of numbers of fixed widths, without gaps, each with its least
significant byte first. `writeRow` and `readRow` say what that means for any widths, and a
row that was written is read back by induction on the widths (`readRow_writeRow`).
Superblocks and index records are written and read in this way and no other
(`records_exact`): every record comes back, and every run of bytes that is long enough is
a record followed by bytes that do not matter.
-/
import AtaVolume.Proofs.Volume.Records

namespace AtaVolume

/-! ## §1 Numbers of any width -/

namespace LittleEndian

/-- The lowest `n` bytes of a number, the least significant one first. -/
def digits : (n : Nat) → (value : Nat) → List UInt8
  | 0, _ => []
  | n + 1, value => UInt8.ofNat (value % 256) :: digits n (value / 256)

/-- The number with these bytes. -/
def ofDigits : List UInt8 → Nat
  | [] => 0
  | b :: bytes => b.toNat + 256 * ofDigits bytes

@[simp] theorem length_digits (n value : Nat) : (digits n value).length = n := by
  induction n generalizing value with
  | zero => rfl
  | succ n ih => simp [digits, ih]

/-- A number that has no more bytes is read back from them. -/
theorem ofDigits_digits {n value : Nat} (h : value < 256 ^ n) :
    ofDigits (digits n value) = value := by
  induction n generalizing value with
  | zero =>
    have hzero : value = 0 := by simpa using h
    simp [digits, ofDigits, hzero]
  | succ n ih =>
    have hrest : value / 256 < 256 ^ n := by
      rw [Nat.pow_succ] at h
      omega
    have hbyte : (UInt8.ofNat (value % 256)).toNat = value % 256 := by simp
    simp only [digits, ofDigits, ih hrest, hbyte]
    omega

theorem le16_eq_digits (w : UInt16) : le16 w = digits 2 w.toNat := by
  have hw := w.toNat_lt
  simp only [le16, digits, List.cons.injEq, and_true]
  constructor <;> apply UInt8.toNat_inj.1
  · simp
  · rw [toNat_byte16]
    simp
    omega

theorem le32_eq_digits (w : UInt32) : le32 w = digits 4 w.toNat := by
  obtain ⟨h1, h2, h3⟩ := toNat_byte32 w
  simp only [le32, digits, List.cons.injEq, and_true, Nat.div_div_eq_div_mul]
  refine ⟨?_, ?_, ?_, ?_⟩ <;> apply UInt8.toNat_inj.1
  · simp
  · rw [h1]
    simp
  · rw [h2]
    simp
  · rw [h3]
    simp

theorem singleton_eq_digits (b : UInt8) : [b] = digits 1 b.toNat := by
  have hb := b.toNat_lt
  simp [digits, Nat.mod_eq_of_lt hb]

/-! ## §2 Rows of numbers -/

/-- Numbers of these widths, one behind the other. -/
def writeRow : (widths values : List Nat) → List UInt8
  | w :: widths, value :: values => digits w value ++ writeRow widths values
  | _, _ => []

/-- Reads numbers of these widths and gives them with the bytes behind them. There have to
be bytes enough for all of them. -/
def readRow : (widths : List Nat) → (bytes : List UInt8) → Option (List Nat × List UInt8)
  | [], bytes => some ([], bytes)
  | w :: widths, bytes => do
    if bytes.length < w then none
    let (values, rest) ← readRow widths (bytes.drop w)
    return (ofDigits (bytes.take w) :: values, rest)

/-- Each of the numbers has a width, and no more bytes than that. -/
abbrev Fit (widths values : List Nat) : Prop :=
  List.Forall₂ (fun w value => value < 256 ^ w) widths values

theorem readRow_cons {w : Nat} {bytes : List UInt8} (h : w ≤ bytes.length) (widths : List Nat) :
    readRow (w :: widths) bytes
      = (readRow widths (bytes.drop w)).map fun (values, rest) =>
          (ofDigits (bytes.take w) :: values, rest) := by
  simp only [readRow, if_neg (Nat.not_lt.2 h)]
  cases readRow widths (bytes.drop w) <;> rfl

theorem readRow_cons_short {w : Nat} {bytes : List UInt8} (h : bytes.length < w)
    (widths : List Nat) : readRow (w :: widths) bytes = none := by
  simp [readRow, h]

theorem length_writeRow {widths values : List Nat} (h : Fit widths values) :
    (writeRow widths values).length = widths.sum := by
  induction h with
  | nil => rfl
  | cons _ _ ih => simp [writeRow, ih]

/-- **A row that was written is read back**, whatever follows it. -/
theorem readRow_writeRow {widths values : List Nat} (h : Fit widths values) (rest : List UInt8) :
    readRow widths (writeRow widths values ++ rest) = some (values, rest) := by
  induction h with
  | nil => rfl
  | @cons w value widths values hvalue _ ih =>
    have hlength := length_digits w value
    rw [writeRow, List.append_assoc, readRow_cons (by simp), List.take_left' hlength,
      List.drop_left' hlength, ih, ofDigits_digits hvalue]
    rfl

/-- A row can be read exactly if there are bytes enough. -/
theorem readRow_eq_none_iff {widths : List Nat} {bytes : List UInt8} :
    readRow widths bytes = none ↔ bytes.length < widths.sum := by
  induction widths generalizing bytes with
  | nil => simp [readRow]
  | cons w widths ih =>
    by_cases hshort : bytes.length < w
    · rw [readRow_cons_short hshort, List.sum_cons]
      exact ⟨fun _ => by omega, fun _ => rfl⟩
    · rw [readRow_cons (Nat.not_lt.1 hshort), Option.map_eq_none_iff, ih, List.length_drop,
        List.sum_cons]
      omega

end LittleEndian

open LittleEndian

/-! ## §3 Exact codecs -/

theorem toList_extract_zero (bytes : Bytes) (n : Nat) :
    (bytes.extract 0 n).toList = bytes.toList.take n := by
  simp [List.extract]

/-- The front of a run of bytes, byte by byte. -/
theorem take_toList_eq_map {bytes : Bytes} {n : Nat} (h : n ≤ bytes.size) :
    bytes.toList.take n = (List.range n).map fun i => bytes.getD i 0 := by
  apply List.ext_getElem
  · simp [h]
  · intro i hi _
    have hlt : i < bytes.size := by
      simp at hi
      omega
    simp [Array.getD, hlt]

/-- Records are kept as rows of numbers at the start of a sector that is zero behind them.
They are read from whatever has `bytes`, if it has as many as a row takes. -/
structure ExactCodec {ρ ι : Type} (bytes : ι → Bytes) (length : Nat) (widths : List Nat)
    (values : ρ → List Nat) (encode : ρ → Sector) (decode : ι → Except VolumeError ρ) : Prop where
  length_eq : widths.sum = length
  fit : ∀ r, Fit widths (values r)
  layout : ∀ r,
    (encode r).toBytes = (writeRow widths (values r)).toArray ++ zeroes (512 - length)
  decode_encode : ∀ r x, bytes x = (encode r).toBytes → decode x = .ok r
  encode_decode : ∀ x r, decode x = .ok r →
    (encode r).toBytes = (bytes x).extract 0 length ++ zeroes (512 - length)
  decodes_iff : ∀ x, (∃ r, decode x = .ok r) ↔ length ≤ (bytes x).size
  /-- What is behind the record does not matter. -/
  decode_congr : ∀ x y, (bytes x).extract 0 length = (bytes y).extract 0 length →
    decode x = decode y
  /-- The numbers are read in their order, and the bytes behind them are left over. -/
  reads : ∀ x r, decode x = .ok r ↔
    readRow widths (bytes x).toList = some (values r, (bytes x).toList.drop length)

/-- Records that are written as rows of numbers, of which each comes back, and to which any
bytes are read as they are. -/
structure RowFormat {ρ : Type} (length : Nat) (widths : List Nat) (values : ρ → List Nat)
    (encode : ρ → Sector) (ofBytes : Bytes → ρ) : Prop where
  length_eq : widths.sum = length
  room : length ≤ 512
  fit : ∀ r, Fit widths (values r)
  encode_eq : ∀ r, encode r = Sector.ofBytes (writeRow widths (values r)).toArray
  ofBytes_encode : ∀ r, ofBytes (encode r).toBytes = r
  front : ∀ bytes : Bytes, length ≤ bytes.size →
    writeRow widths (values (ofBytes bytes)) = bytes.toList.take length

/-- A record shorter than a sector is padded with zeros. -/
theorem toBytes_ofBytes_record {record : List UInt8} (h : record.length ≤ 512) :
    (Sector.ofBytes record.toArray).toBytes = record.toArray ++ zeroes (512 - record.length) := by
  apply ext_getD
  · simp [h]
  · intro i hi
    rw [Sector.size_toBytes] at hi
    rw [Sector.getD_toBytes, Sector.byte_ofBytes _ hi, getD_append, getD_zeroes]
    by_cases hfront : i < record.toArray.size
    · rw [if_pos hfront]
    · rw [if_neg hfront, getD_eq_zero (Nat.not_lt.1 hfront)]

namespace RowFormat

variable {ρ ι : Type} {bytes : ι → Bytes} {length : Nat} {widths : List Nat}
  {values : ρ → List Nat} {encode : ρ → Sector} {ofBytes : Bytes → ρ}
  {decode : ι → Except VolumeError ρ}

theorem toBytes_encode (h : RowFormat length widths values encode ofBytes) (r : ρ) :
    (encode r).toBytes = (writeRow widths (values r)).toArray ++ zeroes (512 - length) := by
  have hlength := length_writeRow (h.fit r)
  rw [h.length_eq] at hlength
  rw [h.encode_eq, toBytes_ofBytes_record (by rw [hlength]; exact h.room), hlength]

/-- A record is known by its numbers. -/
theorem values_inj (h : RowFormat length widths values encode ofBytes) {r r' : ρ}
    (hvalues : values r = values r') : r = r' := by
  rw [← h.ofBytes_encode r, ← h.ofBytes_encode r', h.encode_eq, h.encode_eq, hvalues]

theorem readRow_eq (h : RowFormat length widths values encode ofBytes) {b : Bytes}
    (hsize : length ≤ b.size) :
    readRow widths b.toList = some (values (ofBytes b), b.toList.drop length) := by
  have hread := readRow_writeRow (h.fit (ofBytes b)) (b.toList.drop length)
  rwa [h.front b hsize, List.take_append_drop] at hread

/-- **A row format has an exact codec**, if too few bytes are refused and all others read. -/
theorem exactCodec (h : RowFormat length widths values encode ofBytes)
    (hdecode : ∀ x, decode x
      = if (bytes x).size < length then .error .shortRecord else .ok (ofBytes (bytes x))) :
    ExactCodec bytes length widths values encode decode := by
  have hlong : ∀ x, length ≤ (bytes x).size → decode x = .ok (ofBytes (bytes x)) := by
    intro x hsize
    rw [hdecode, if_neg (Nat.not_lt.2 hsize)]
  have hok : ∀ x r, decode x = .ok r → length ≤ (bytes x).size ∧ ofBytes (bytes x) = r := by
    intro x r hr
    rw [hdecode] at hr
    split at hr
    · cases hr
    · next hsize => exact ⟨Nat.not_lt.1 hsize, Except.ok.inj hr⟩
  refine
    { length_eq := h.length_eq, fit := h.fit, layout := h.toBytes_encode, decode_encode := ?_,
      encode_decode := ?_, decodes_iff := ?_, decode_congr := ?_, reads := ?_ }
  · intro r x hx
    have hroom := h.room
    rw [hlong x (by rw [hx, Sector.size_toBytes]; exact hroom), hx, h.ofBytes_encode]
  · intro x r hr
    obtain ⟨hsize, rfl⟩ := hok x r hr
    rw [h.toBytes_encode, h.front _ hsize, ← toList_extract_zero]
  · intro x
    exact ⟨fun ⟨r, hr⟩ => (hok x r hr).1, fun hsize => ⟨_, hlong x hsize⟩⟩
  · intro x y hsame
    have hsizes : min length (bytes x).size = min length (bytes y).size := by
      simpa using congrArg Array.size hsame
    by_cases hsize : length ≤ (bytes x).size
    · -- the records are read from the same bytes, so they are made of the same numbers
      have hsize' : length ≤ (bytes y).size := by omega
      have hlists := congrArg Array.toList hsame
      rw [toList_extract_zero, toList_extract_zero, ← h.front _ hsize, ← h.front _ hsize'] at hlists
      have hrow := readRow_writeRow (h.fit (ofBytes (bytes x))) []
      rw [hlists, readRow_writeRow (h.fit _)] at hrow
      have hvalues := (Prod.mk.inj (Option.some.inj hrow)).1
      rw [hlong x hsize, hlong y hsize', h.values_inj hvalues]
    · rw [hdecode x, hdecode y, if_pos (by omega), if_pos (by omega)]
  · intro x r
    constructor
    · intro hr
      obtain ⟨hsize, rfl⟩ := hok x r hr
      exact h.readRow_eq hsize
    · intro hread
      have hsize : length ≤ (bytes x).size := by
        by_contra hshort
        have hnone : readRow widths (bytes x).toList = none := by
          rw [readRow_eq_none_iff, h.length_eq, Array.length_toList]
          omega
        rw [hnone] at hread
        cases hread
      rw [h.readRow_eq hsize] at hread
      have hvalues := (Prod.mk.inj (Option.some.inj hread)).1
      rw [hlong x hsize, h.values_inj hvalues]

end RowFormat

/-! ## §4 The records of a volume -/

namespace Superblock

/-- Bytes of the fields, in the order in which they are stored. -/
def widths : List Nat := [2, 4, 2, 4, 4, 4, 4, 4, 4, 4, 1, 1]

/-- The fields as numbers. -/
def values (sb : Superblock) : List Nat :=
  [sb.magic.toNat, sb.freeBlocks.toNat, sb.blockSize.toNat, sb.totalBlocks.toNat,
    sb.freeInodes.toNat, sb.totalInodes.toNat, sb.bitmapStartLba.toNat, sb.bitmapBlocks.toNat,
    sb.inodeTableLba.toNat, sb.dataStartLba.toNat, sb.state.toNat, sb.errors.toNat]

theorem writeRow_values (sb : Superblock) : writeRow widths sb.values = sb.record := by
  simp [writeRow, widths, values, record, ← le16_eq_digits, ← le32_eq_digits,
    ← singleton_eq_digits]

theorem record_decode {bytes : Bytes} (h : 38 ≤ bytes.size) :
    (decode bytes).record = bytes.toList.take 38 := by
  rw [take_toList_eq_map h]
  simp [record, decode, word16, word32, le16_join16, le32_join32, List.range_succ]

theorem fit_values (sb : Superblock) : Fit widths sb.values := by
  have h16 : ∀ w : UInt16, w.toNat < 65536 := fun w => w.toNat_lt
  have h32 : ∀ w : UInt32, w.toNat < 4294967296 := fun w => w.toNat_lt
  have h8 : ∀ b : UInt8, b.toNat < 256 := fun b => b.toNat_lt
  simp [Fit, widths, values, h16, h32, h8]

theorem rowFormat : RowFormat 38 widths values encode decode where
  length_eq := rfl
  room := by decide
  fit := fit_values
  encode_eq sb := by rw [writeRow_values, encode]
  ofBytes_encode := decode_encode
  front bytes h := by rw [writeRow_values, record_decode h]

end Superblock

namespace Index

/-- Bytes of the fields, in the order in which they are stored. -/
def widths : List Nat := [1, 1, 4, 4]

/-- The fields as numbers. -/
def values (r : Index) : List Nat :=
  [r.timeStamp.toNat, r.kind.toNat, r.size.toNat, r.firstBlock.toNat]

theorem writeRow_values (r : Index) : writeRow widths r.values = r.record := by
  simp [writeRow, widths, values, record, ← le32_eq_digits, ← singleton_eq_digits]

theorem record_ofBytes {bytes : Bytes} (h : 10 ≤ bytes.size) :
    (ofBytes bytes).record = bytes.toList.take 10 := by
  rw [take_toList_eq_map h]
  simp [record, ofBytes, word32, le32_join32, List.range_succ]

theorem fit_values (r : Index) : Fit widths r.values := by
  have h32 : ∀ w : UInt32, w.toNat < 4294967296 := fun w => w.toNat_lt
  have h8 : ∀ b : UInt8, b.toNat < 256 := fun b => b.toNat_lt
  simp [Fit, widths, values, h32, h8]

theorem rowFormat : RowFormat 10 widths values encode ofBytes where
  length_eq := rfl
  room := by decide
  fit := fit_values
  encode_eq r := by rw [writeRow_values, encode]
  ofBytes_encode := ofBytes_encode
  front bytes h := by rw [writeRow_values, record_ofBytes h]

end Index

/-- **Records are written and read exactly.** -/
theorem records_exact :
    ExactCodec Sector.toBytes 38 [2, 4, 2, 4, 4, 4, 4, 4, 4, 4, 1, 1] Superblock.values
        Superblock.encode (fun sector => .ok (.decode sector.toBytes))
      ∧ ExactCodec id 10 [1, 1, 4, 4] Index.values Index.encode Index.decode := by
  constructor
  · refine Superblock.rowFormat.exactCodec fun sector => ?_
    rw [if_neg (by simp)]
  · exact Index.rowFormat.exactCodec fun bytes => rfl

end AtaVolume
