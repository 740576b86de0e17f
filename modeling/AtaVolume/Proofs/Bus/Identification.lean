/-
AtaVolume.Proofs.Bus.Identification — the driver reads what a disk tells about
itself.

A disk lays its identification data out as one sector, word by word, with the bytes
of its model's text swapped in pairs; the driver takes the sector apart again. It finds the
disk's size and what the disk can do. Spaces that pad the text are cut off with those that
the text itself ends in, so a model that has room comes back but for the spaces and NULs at
its end (`readModel_identification`).
-/
import Mathlib.Data.List.DropRight
import AtaVolume.Bus.Drive
import AtaVolume.Proofs.Bytes.Runs
import AtaVolume.Proofs.Bytes.Words
import AtaVolume.Proofs.Text.Utf8

namespace AtaVolume

open LittleEndian

/-! ## §1 Swapped pairs -/

theorem length_swapPairs (bytes : List UInt8) :
    (Identity.swapPairs bytes).length = bytes.length := by
  fun_induction Identity.swapPairs bytes with
  | case1 a b rest ih => simp [ih]
  | case2 rest h => rfl

/-- Swapped twice, the bytes are in order again. -/
theorem swapPairs_swapPairs (bytes : List UInt8) :
    Identity.swapPairs (Identity.swapPairs bytes) = bytes := by
  fun_induction Identity.swapPairs bytes with
  | case1 a b rest ih => rw [Identity.swapPairs, ih]
  | case2 rest h =>
    match rest with
    | [] => rfl
    | [a] => rfl
    | a :: b :: rest => exact absurd rfl (h a b rest)

/-! ## §2 Fields -/

namespace Sector

theorem byte_splice_of_not_mem (s : Sector) {i k : Nat} {bytes : Bytes} (hk : k < 512)
    (h : ¬ (i ≤ k ∧ k < i + bytes.size)) : (s.splice i bytes).byte k = s.byte k := by
  rw [byte_eq_getElem _ hk, splice, Vector.getElem_ofFn, if_neg h, byte_eq_getElem _ hk]
  rfl

/-- What was put into a sector is found there. -/
theorem extract_splice (s : Sector) (i : Nat) (bytes : Bytes) (h : i + bytes.size ≤ 512) :
    (s.splice i bytes).toBytes.extract i (i + bytes.size) = bytes := by
  apply ext_getD
  · rw [Array.size_extract, size_toBytes]
    omega
  intro k hk
  rw [Array.size_extract, size_toBytes] at hk
  have hbyte : (s.splice i bytes).byte (i + k) = bytes.getD k 0 := by
    rw [byte_eq_getElem _ (by omega), splice, Vector.getElem_ofFn, if_pos (by simp only; omega)]
    simp only [Nat.add_sub_cancel_left]
  rw [getD_extract, if_pos (by omega), getD_toBytes, hbyte]

end Sector

namespace Drive

theorem length_modelField (model : String) : (modelField model).length = 40 := by
  rw [modelField, length_swapPairs, List.length_append, List.length_replicate, List.length_take]
  show min 40 _ + (40 - min 40 _) = 40
  omega

theorem byte_identification (d : Drive) {k : Nat} (h : k < 54 ∨ 94 ≤ k) (hk : k < 512) :
    d.identification.byte k
      = ((((((Sector.zero.setWord 0 0x0040).setWord 98 0x0300).setWord 120
          d.reportedSectors.toUInt16).setWord 122 (d.reportedSectors >>> 16).toUInt16).setWord
          164 0x0020).setWord 166 0x4000).byte k :=
  Sector.byte_splice_of_not_mem _ hk (by
    rw [List.size_toArray, length_modelField]
    show ¬ (54 ≤ k ∧ k < 54 + 40)
    omega)

/-- **A disk tells the number of its sectors.** -/
theorem size_identification (d : Drive) :
    (Identity.ofBytes d.identification.toBytes).size = d.reportedSectors := by
  show word32 d.identification.toBytes 120 = d.reportedSectors
  -- one rewrite for each byte: to `simp` the sectors are numbers to compute
  rw [word32, Sector.getD_toBytes, Sector.getD_toBytes, Sector.getD_toBytes, Sector.getD_toBytes]
  rw [d.byte_identification (by decide) (by decide), d.byte_identification (by decide) (by decide),
    d.byte_identification (by decide) (by decide), d.byte_identification (by decide) (by decide)]
  simp only [Sector.byte_setWord, Nat.reduceAdd, Nat.reduceLT, Nat.reduceEqDiff, if_true, if_false]
  have hlt := d.reportedSectors.toNat_lt
  have hhigh : (d.reportedSectors >>> 16).toNat = d.reportedSectors.toNat / 2 ^ 16 := by
    rw [UInt32.toNat_shiftRight, Nat.shiftRight_eq_div_pow]
    rfl
  apply UInt32.toNat_inj.1
  rw [toNat_join32, toNat_byte16, toNat_byte16, UInt16.toNat_toUInt8, UInt16.toNat_toUInt8,
    UInt32.toNat_toUInt16, UInt32.toNat_toUInt16, hhigh]
  omega

/-- A disk tells that it takes sector numbers, of 28 bits. -/
theorem capabilities_identification (d : Drive) :
    (Identity.ofBytes d.identification.toBytes).supportsLba = true
      ∧ (Identity.ofBytes d.identification.toBytes).supportsLba48 = false := by
  have hcapabilities : word16 d.identification.toBytes 98 = 0x0300 := by
    rw [word16, Sector.getD_toBytes, Sector.getD_toBytes]
    rw [d.byte_identification (by decide) (by decide), d.byte_identification (by decide) (by decide)]
    simp only [Sector.byte_setWord, Nat.reduceAdd, Nat.reduceLT, Nat.reduceEqDiff, if_true, if_false]
    rfl
  have hcommandSets : word32 d.identification.toBytes 164 = 0x40000020 := by
    rw [word32, Sector.getD_toBytes, Sector.getD_toBytes, Sector.getD_toBytes, Sector.getD_toBytes]
    rw [d.byte_identification (by decide) (by decide), d.byte_identification (by decide) (by decide),
      d.byte_identification (by decide) (by decide), d.byte_identification (by decide) (by decide)]
    simp only [Sector.byte_setWord, Nat.reduceAdd, Nat.reduceLT, Nat.reduceEqDiff, if_true, if_false]
    rfl
  refine ⟨?_, ?_⟩
  · show (word16 d.identification.toBytes 98 &&& 0x0200 != 0) = true
    rw [hcapabilities]
    rfl
  · show (word32 d.identification.toBytes 164 &&& 0x04000000 != 0) = false
    rw [hcommandSets]
    rfl

/-! ## §3 The model -/

/-- A character that is cut off at the end of a model. -/
def isPadding (c : Char) : Bool := c == ' ' || c == '\x00'

/-- Cutting padding off again leaves nothing of it. -/
theorem rdropWhile_append_replicate (cs : List Char) (n : Nat) :
    (cs ++ List.replicate n ' ').rdropWhile isPadding = cs.rdropWhile isPadding := by
  induction n with
  | zero => rw [List.replicate_zero, List.append_nil]
  | succ n ih =>
    rw [List.replicate_succ', ← List.append_assoc, List.rdropWhile_concat_pos _ _ _ rfl, ih]

theorem replicate_space (n : Nat) :
    List.replicate n (0x20 : UInt8) = (List.replicate n ' ').flatMap String.utf8EncodeChar := by
  induction n with
  | zero => rfl
  | succ n ih => rw [List.replicate_succ, List.replicate_succ, List.flatMap_cons, ← ih]; rfl

/-- A text that has room stands in its field, followed by spaces. -/
theorem modelField_eq {model : String} (h : model.utf8ByteSize ≤ 40) :
    modelField model
      = Identity.swapPairs ((model.toList ++ List.replicate (40 - model.utf8ByteSize) ' ').flatMap
          String.utf8EncodeChar) := by
  have hlength : model.toUTF8.data.toList.length = model.utf8ByteSize := Array.length_toList
  have htake : model.toUTF8.data.toList.take 40 = model.toUTF8.data.toList :=
    List.take_of_length_le (by rw [hlength]; exact h)
  unfold modelField
  simp only [Identity.modelLength, htake, hlength]
  rw [Text.toList_toUTF8, replicate_space, ← List.flatMap_append]

/-- **A disk tells its model.** -/
theorem readModel_identification (d : Drive) (h : d.model.utf8ByteSize ≤ 40) :
    (Identity.ofBytes d.identification.toBytes).model.toList
      = d.model.toList.rdropWhile isPadding := by
  have hfield : (d.identification.toBytes.extract 54 (54 + 40)).toList = modelField d.model := by
    have hsize : (modelField d.model).toArray.size = 40 := by
      rw [List.size_toArray, length_modelField]
    have hextract := Sector.extract_splice ((((((Sector.zero.setWord 0 0x0040).setWord 98
      0x0300).setWord 120 d.reportedSectors.toUInt16).setWord 122
      (d.reportedSectors >>> 16).toUInt16).setWord 164 0x0020).setWord 166 0x4000) 54
      (modelField d.model).toArray (by omega)
    rw [hsize] at hextract
    exact congrArg Array.toList hextract
  show (String.ofList (Identity.trimModel (Text.decodeLossy (Identity.swapPairs
    (d.identification.toBytes.extract 54 (54 + 40)).toList)))).toList = _
  have hread := Text.decodeLossy_encode
    (d.model.toList ++ List.replicate (40 - d.model.utf8ByteSize) ' ') []
  rw [List.append_nil, Text.decodeLossy, List.append_nil] at hread
  rw [String.toList_ofList, hfield, modelField_eq h, swapPairs_swapPairs, hread]
  exact rdropWhile_append_replicate d.model.toList _

end Drive

end AtaVolume
