/-
AtaVolume.Proofs.Text.Utf8 — text that was encoded is read back.

An encoded character is a first byte that tells how many bytes follow, and these
bytes with six bits of the character each. `decodeStep_sequence` reads any such
sequence; that the encoding of a character is one, within the narrower bounds of
the second byte, is shown for each length (`decodeStep_encodeChar`). So
`decodeLossy` gives back the text whose bytes it reads, and goes on behind it.
-/
import AtaVolume.Text.Utf8

namespace AtaVolume.Text

/-! ## §1 Bytes as numbers -/

theorem payload_eq (b : UInt8) : payload b = b.toNat % 64 := by
  rw [payload, UInt8.toNat_and, show (0x3F : UInt8).toNat = 2 ^ 6 - 1 from rfl,
    Nat.and_two_pow_sub_one_eq_mod]

/-- The bits of the first byte of a sequence, as a remainder. -/
theorem leadBits_eq (b : UInt8) :
    leadBits b 1 = b.toNat % 32 ∧ leadBits b 2 = b.toNat % 16 ∧ leadBits b 3 = b.toNat % 8 := by
  have hmask (n k : Nat) : n &&& (2 ^ k - 1) = n % 2 ^ k := Nat.and_two_pow_sub_one_eq_mod n k
  refine ⟨?_, ?_, ?_⟩
  · exact (UInt8.toNat_and b 0x1F).trans (hmask b.toNat 5)
  · exact (UInt8.toNat_and b 0x0F).trans (hmask b.toNat 4)
  · exact (UInt8.toNat_and b 0x07).trans (hmask b.toNat 3)

theorem followers_eq (b : UInt8) :
    followers b
      = if b.toNat < 0x80 then some 0
        else if 0xC2 ≤ b.toNat ∧ b.toNat ≤ 0xDF then some 1
        else if 0xE0 ≤ b.toNat ∧ b.toNat ≤ 0xEF then some 2
        else if 0xF0 ≤ b.toNat ∧ b.toNat ≤ 0xF4 then some 3
        else none := by
  simp only [followers, Bool.and_eq_true, decide_eq_true_eq, UInt8.lt_iff_toNat_lt,
    UInt8.le_iff_toNat_le]
  rfl

theorem continues_iff {low high b : UInt8} :
    continues low high b = true ↔ low.toNat ≤ b.toNat ∧ b.toNat ≤ high.toNat := by
  simp only [continues, Bool.and_eq_true, decide_eq_true_eq, UInt8.le_iff_toNat_le]

/-- A continuation byte is in its bounds, also where they are narrower. -/
theorem continues_secondBounds {b x : UInt8} (h : 0x80 ≤ x.toNat) (h' : x.toNat ≤ 0xBF)
    (hE0 : b.toNat = 0xE0 → 0xA0 ≤ x.toNat) (hED : b.toNat = 0xED → x.toNat ≤ 0x9F)
    (hF0 : b.toNat = 0xF0 → 0x90 ≤ x.toNat) (hF4 : b.toNat = 0xF4 → x.toNat ≤ 0x8F) :
    continues (secondBounds b).1 (secondBounds b).2 x = true := by
  unfold secondBounds
  simp only [beq_iff_eq, ← UInt8.toNat_inj]
  split
  · next heq => exact continues_iff.2 ⟨hE0 heq, h'⟩
  split
  · next heq => exact continues_iff.2 ⟨h, hED heq⟩
  split
  · next heq => exact continues_iff.2 ⟨hF0 heq, h'⟩
  split
  · next heq => exact continues_iff.2 ⟨h, hF4 heq⟩
  · exact continues_iff.2 ⟨h, h'⟩

/-! ## §2 Sequences -/

theorem readContinuation_cons {n : Nat} {low high x : UInt8} (h : continues low high x = true)
    (acc : Nat) (bytes : List UInt8) :
    readContinuation (n + 1) (low, high) acc (x :: bytes)
      = ((readContinuation n (0x80, 0xBF) (acc * 64 + payload x) bytes).1,
         (readContinuation n (0x80, 0xBF) (acc * 64 + payload x) bytes).2 + 1) := by
  rw [readContinuation, if_pos h]

/-- Continuation bytes are read to their end. -/
theorem readContinuation_append (tail : List UInt8)
    (h : ∀ x ∈ tail, continues 0x80 0xBF x = true) (acc : Nat) (rest : List UInt8) :
    readContinuation tail.length (0x80, 0xBF) acc (tail ++ rest)
      = (some (tail.foldl (fun n x => n * 64 + payload x) acc), tail.length) := by
  induction tail generalizing acc with
  | nil => rw [List.length_nil, readContinuation, List.foldl_nil]
  | cons x tail ih =>
    rw [List.length_cons, List.cons_append, readContinuation_cons (h x List.mem_cons_self),
      ih fun y hy => h y (List.mem_cons_of_mem x hy)]
    rfl

/-- A sequence of several bytes is read as the character that its bits make. -/
theorem decodeStep_sequence (b x : UInt8) (tail : List UInt8)
    (hfollowers : followers b = some (tail.length + 1))
    (hsecond : continues (secondBounds b).1 (secondBounds b).2 x = true)
    (htail : ∀ y ∈ tail, continues 0x80 0xBF y = true) (rest : List UInt8) :
    decodeStep b (x :: tail ++ rest)
      = (Char.ofNat ((x :: tail).foldl (fun n y => n * 64 + payload y)
          (leadBits b (tail.length + 1))), tail.length + 1) := by
  unfold decodeStep
  rw [hfollowers]
  simp only [List.cons_append]
  rw [show secondBounds b = ((secondBounds b).1, (secondBounds b).2) from rfl,
    readContinuation_cons hsecond, readContinuation_append tail htail]
  rfl

/-! ## §3 Encoded characters -/

theorem toNat_ofNat_byte {n : Nat} (h : n < 256) : (UInt8.ofNat n).toNat = n :=
  UInt8.toNat_ofNat_of_lt' h

/-- A byte with six bits of a character. -/
theorem toNat_continuation (n : Nat) : (UInt8.ofNat (n % 64 + 128)).toNat = n % 64 + 128 :=
  toNat_ofNat_byte (by omega)

theorem payload_continuation (n : Nat) : payload (UInt8.ofNat (n % 64 + 128)) = n % 64 := by
  rw [payload_eq, toNat_continuation]
  omega

theorem continues_continuation (n : Nat) :
    continues 0x80 0xBF (UInt8.ofNat (n % 64 + 128)) = true := by
  rw [continues_iff, toNat_continuation]
  exact ⟨Nat.le_add_left 128 _, by show n % 64 + 128 ≤ 191; omega⟩

theorem decodeStep_one {v : Nat} (h : v ≤ 0x7F) (rest : List UInt8) :
    decodeStep (UInt8.ofNat v) rest = (Char.ofNat v, 0) := by
  have hlead : (UInt8.ofNat v).toNat = v := toNat_ofNat_byte (by omega)
  have hfollowers : followers (UInt8.ofNat v) = some 0 := by
    rw [followers_eq, hlead, if_pos (by omega)]
  unfold decodeStep
  rw [hfollowers]
  simp only [readContinuation, leadBits, hlead]

theorem decodeStep_two {v : Nat} (h : 0x7F < v) (h' : v ≤ 0x7FF) (rest : List UInt8) :
    decodeStep (UInt8.ofNat (v / 64 % 32 + 192)) (UInt8.ofNat (v % 64 + 128) :: rest)
      = (Char.ofNat v, 1) := by
  have hlead : (UInt8.ofNat (v / 64 % 32 + 192)).toNat = v / 64 + 192 := by
    rw [toNat_ofNat_byte (by omega)]
    omega
  have hsecond := toNat_continuation v
  have hread := decodeStep_sequence (UInt8.ofNat (v / 64 % 32 + 192))
    (UInt8.ofNat (v % 64 + 128)) []
    (by rw [followers_eq, hlead, if_neg (by omega), if_pos (by omega)]; rfl)
    (continues_secondBounds (by omega) (by omega) (by omega) (by omega) (by omega) (by omega))
    (fun y hy => nomatch hy) rest
  have hbits : v / 64 % 32 * 64 + v % 64 = v := by omega
  rw [List.length_nil, (leadBits_eq _).1, hlead, List.foldl_cons, List.foldl_nil,
    payload_continuation, show (v / 64 + 192) % 32 = v / 64 % 32 by omega, hbits] at hread
  exact hread

theorem decodeStep_three {v : Nat} (h : 0x7FF < v) (h' : v ≤ 0xFFFF)
    (hvalid : v < 0xD800 ∨ 0xDFFF < v) (rest : List UInt8) :
    decodeStep (UInt8.ofNat (v / 4096 % 16 + 224))
        (UInt8.ofNat (v / 64 % 64 + 128) :: UInt8.ofNat (v % 64 + 128) :: rest)
      = (Char.ofNat v, 2) := by
  have hlead : (UInt8.ofNat (v / 4096 % 16 + 224)).toNat = v / 4096 + 224 := by
    rw [toNat_ofNat_byte (by omega)]
    omega
  have hsecond := toNat_continuation (v / 64)
  have hread := decodeStep_sequence (UInt8.ofNat (v / 4096 % 16 + 224))
    (UInt8.ofNat (v / 64 % 64 + 128)) [UInt8.ofNat (v % 64 + 128)]
    (by rw [followers_eq, hlead, if_neg (by omega), if_neg (by omega), if_pos (by omega)]; rfl)
    (continues_secondBounds (by omega) (by omega) (by omega) (by omega) (by omega) (by omega))
    (fun y hy => by
      obtain rfl := List.mem_singleton.1 hy
      exact continues_continuation v) rest
  have hbits : (v / 4096 % 16 * 64 + v / 64 % 64) * 64 + v % 64 = v := by omega
  rw [List.length_singleton, (leadBits_eq _).2.1, hlead, List.foldl_cons, List.foldl_cons,
    List.foldl_nil, payload_continuation, payload_continuation,
    show (v / 4096 + 224) % 16 = v / 4096 % 16 by omega, hbits] at hread
  exact hread

theorem decodeStep_four {v : Nat} (h : 0xFFFF < v) (h' : v < 0x110000) (rest : List UInt8) :
    decodeStep (UInt8.ofNat (v / 262144 % 8 + 240))
        (UInt8.ofNat (v / 4096 % 64 + 128) :: UInt8.ofNat (v / 64 % 64 + 128)
          :: UInt8.ofNat (v % 64 + 128) :: rest)
      = (Char.ofNat v, 3) := by
  have hlead : (UInt8.ofNat (v / 262144 % 8 + 240)).toNat = v / 262144 + 240 := by
    rw [toNat_ofNat_byte (by omega)]
    omega
  have hsecond := toNat_continuation (v / 4096)
  have hread := decodeStep_sequence (UInt8.ofNat (v / 262144 % 8 + 240))
    (UInt8.ofNat (v / 4096 % 64 + 128))
    [UInt8.ofNat (v / 64 % 64 + 128), UInt8.ofNat (v % 64 + 128)]
    (by
      rw [followers_eq, hlead, if_neg (by omega), if_neg (by omega), if_neg (by omega),
        if_pos (by omega)]
      rfl)
    (continues_secondBounds (by omega) (by omega) (by omega) (by omega) (by omega) (by omega))
    (fun y hy => by
      rcases List.mem_cons.1 hy with rfl | hy
      · exact continues_continuation (v / 64)
      · obtain rfl := List.mem_singleton.1 hy
        exact continues_continuation v) rest
  have hbits : ((v / 262144 % 8 * 64 + v / 4096 % 64) * 64 + v / 64 % 64) * 64 + v % 64 = v := by
    omega
  rw [List.length_cons, List.length_singleton, (leadBits_eq _).2.2, hlead, List.foldl_cons, List.foldl_cons,
    List.foldl_cons, List.foldl_nil, payload_continuation, payload_continuation,
    payload_continuation, show (v / 262144 + 240) % 8 = v / 262144 % 8 by omega, hbits] at hread
  exact hread

/-- **An encoded character is read back**, and no byte behind it is touched. -/
theorem decodeStep_encodeChar (c : Char) :
    ∃ b bytes, String.utf8EncodeChar c = b :: bytes
      ∧ ∀ rest, decodeStep b (bytes ++ rest) = (c, bytes.length) := by
  have hvalid : c.val.toNat < 0xD800 ∨ (0xDFFF < c.val.toNat ∧ c.val.toNat < 0x110000) := c.valid
  have hnumber : Char.ofNat c.val.toNat = c := Char.ofNat_toNat c
  fun_cases String.utf8EncodeChar c with
  | case1 v h =>
    have hread := decodeStep_one h
    rw [hnumber] at hread
    exact ⟨_, _, rfl, hread⟩
  | case2 v h h' =>
    have hread := decodeStep_two (v := v) (by omega) h'
    rw [hnumber] at hread
    exact ⟨_, _, rfl, hread⟩
  | case3 v h _ h' =>
    have hread := decodeStep_three (v := v) (by omega) h' (by omega)
    rw [hnumber] at hread
    exact ⟨_, _, rfl, hread⟩
  | case4 v h _ h' =>
    have hread := decodeStep_four (v := v) (by omega) (by omega)
    rw [hnumber] at hread
    exact ⟨_, _, rfl, hread⟩

theorem decodeLossy_cons (b : UInt8) (rest : List UInt8) :
    decodeLossy (b :: rest)
      = (decodeStep b rest).1 :: decodeLossy (rest.drop (decodeStep b rest).2) := by
  rw [decodeLossy]

/-- **The bytes of a text are read as the text.** -/
theorem decodeLossy_encode (cs : List Char) (rest : List UInt8) :
    decodeLossy (cs.flatMap String.utf8EncodeChar ++ rest) = cs ++ decodeLossy rest := by
  induction cs with
  | nil => rfl
  | cons c cs ih =>
    obtain ⟨b, bytes, hencode, hread⟩ := decodeStep_encodeChar c
    rw [List.flatMap_cons, hencode, List.cons_append, List.cons_append, List.append_assoc,
      decodeLossy_cons, hread, List.drop_left, ih, List.cons_append]

/-- The bytes of a string are those of its characters. -/
theorem toList_toUTF8 (s : String) :
    s.toUTF8.data.toList = s.toList.flatMap String.utf8EncodeChar := by
  conv => lhs; rw [← String.ofList_toList (s := s)]
  exact List.toList_data_toByteArray

end AtaVolume.Text
