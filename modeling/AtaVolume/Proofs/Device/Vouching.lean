/-
AtaVolume.Proofs.Device.Vouching — reads that vouch for the writes that follow.

Nothing is said here of what a drive holds, only of what becomes of it. Of the sectors
in `good` it is known that they can be written (`Accepts`), and a read that ends well
has touched no others (`Vouches`), whatever else is wrong with the drive. So a caller
that has read the sectors it is about to write knows that its writes will not fail. Of
the commands on single pieces the second follows for reads of whole ranges
(`Vouches.readRange`), by induction on the sectors left.
-/
import AtaVolume.Proofs.Device.Serving

namespace AtaVolume.BlockDevice

open DriveView (Within)

variable {δ : Type} [BlockDevice δ]

/-- In a state in `J`, and as long as it is one, the sectors in `good` can be written. -/
structure Accepts (drive : UInt8) (good : Nat → Prop) (J : δ → Prop) : Prop where
  note : ∀ {s}, J s → ∀ report, J (BlockDevice.note report s)
  write : ∀ {s}, J s → ∀ {lba : UInt32} {data : Bytes} {n : Nat}, 1 ≤ n → data.size = n * 512 →
    Within good lba.toNat n → ∃ t, writeSectors drive lba data s = .ok () t ∧ J t

/-- Where no sector is in `good`, nothing is promised. -/
theorem Accepts.none {drive : UInt8} :
    Accepts drive (fun _ => False) (fun _ : δ => True) where
  note _ _ := trivial
  write _ lba data n hn _ hgood := (hgood lba.toNat (Nat.le_refl _) (by omega)).elim

/-- How a read ends that started in a state in `I`: it stays there, and if it ends well
the sectors that it touched are in `good`. -/
def VouchesFor (good : Nat → Prop) (I : δ → Prop) (lba n : Nat) (o : ReadOutcome δ) : Prop :=
  I o.device ∧ (o.result = .ok () → Within good lba n)

omit [BlockDevice δ] in
/-- A read that fails promises nothing. -/
theorem VouchesFor.of_error {good : Nat → Prop} {I : δ → Prop} {lba n : Nat} {o : ReadOutcome δ}
    (h : I o.device) {e : AtaError} (hresult : o.result = .error e) :
    VouchesFor good I lba n o := by
  refine ⟨h, fun hok => ?_⟩
  rw [hresult] at hok
  cases hok

/-- No read leaves `I`, and none ends well that touches a sector outside `good`. -/
structure Vouches (drive : UInt8) (good : Nat → Prop) (I : δ → Prop) : Prop where
  note : ∀ {s}, I s → ∀ report, I (BlockDevice.note report s)
  read : ∀ {s}, I s → ∀ {lba : UInt32} {count : Nat} {buffer : Bytes}, 1 ≤ count → count ≤ 256 →
    buffer.size = count * 512 →
    VouchesFor good I lba.toNat count (readSectors drive (UInt16.ofNat count) lba buffer s)

namespace Vouches

variable {drive : UInt8} {good : Nat → Prop} {I : δ → Prop}

/-- The pieces of a range vouch for the range. -/
theorem readPieces (hv : Vouches drive good I) {buffer : Bytes} {n : Nat} {s : δ} (hs : I s)
    (lba : UInt32) {i : Nat} (hsize : buffer.size = i + n * 512) (acc : Bytes) :
    VouchesFor good I lba.toNat n (BlockDevice.readPieces drive buffer lba n i acc s) := by
  induction n using Nat.strong_induction_on generalizing s lba i acc with
  | _ n ih =>
    by_cases hzero : n = 0
    · subst hzero
      rw [readPieces_zero]
      exact ⟨hs, fun _ j hj hj' => by omega⟩
    · have hroom : (buffer.extract i (i + min n 256 * 512)).size = min n 256 * 512 := by
        rw [Array.size_extract]
        omega
      have hpiece : VouchesFor good I lba.toNat (min n 256) _ :=
        hv.read hs (show 1 ≤ min n 256 by omega) (Nat.min_le_right n 256) hroom
      rw [BlockDevice.readPieces, if_neg hzero]
      simp only
      generalize readSectors drive (UInt16.ofNat (min n 256)) lba
        (buffer.extract i (i + min n 256 * 512)) s = o at hpiece ⊢
      obtain ⟨result, piece, t⟩ := o
      cases result with
      | error e => exact .of_error hpiece.1 rfl
      | ok _ =>
        have hfront := hpiece.2 rfl
        show VouchesFor good I lba.toNat n
          (if lba.toNat + min n 256 < 2 ^ 32 then _ else _)
        split
        case isFalse => exact .of_error hpiece.1 rfl
        case isTrue hlt =>
          have hnext := toNat_next_piece hlt
          have hrest := ih (n - min n 256) (by omega) hpiece.1 (lba + UInt32.ofNat (min n 256))
            (show buffer.size = i + min n 256 * 512 + (n - min n 256) * 512 by omega) (acc ++ piece)
          refine ⟨hrest.1, fun hok j hj hj' => ?_⟩
          have hback := hrest.2 hok
          rw [hnext] at hback
          by_cases hpart : j < lba.toNat + min n 256
          · exact hfront j hj hpart
          · exact hback j (by omega) (by omega)

/-- **A range that was read can be written.** -/
theorem readRange (hv : Vouches drive good I) {s : δ} (hs : I s) (lba : UInt32) {n : Nat}
    (hn : 1 ≤ n) {buffer : Bytes} (hsize : buffer.size = n * 512) :
    VouchesFor good I lba.toNat n (BlockDevice.readRange drive lba buffer s) := by
  rw [readRange_whole hn hsize]
  exact hv.readPieces hs lba (show buffer.size = 0 + n * 512 by omega) #[]

end Vouches

end AtaVolume.BlockDevice
