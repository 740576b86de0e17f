/-
AtaVolume.Proofs.Volume.Occupancy — a scan finds what is used.

By induction on the sectors left a scan reads all pieces of the drive, tells its progress after
each, and ends with the first one that fails (`scanFrom_calls`). What it has counted on the way
are the used ones among the sectors that it has read (`counts_piece`), which also keeps its
numbers in range (`scanFrom?_eq`). So a scan that ends well describes the drive (`scan_exact`).
-/
import AtaVolume.Proofs.Device.ReadCalls
import AtaVolume.Proofs.Exact.Layout
import AtaVolume.Proofs.Volume.Tally

namespace AtaVolume

namespace Occupancy

/-! ## §1 Every step checked -/

/-- Counts the last `n` sectors of a piece, from sector `i` on; the piece starts at `lba`. -/
def tally? (piece : Bytes) (lba : UInt32) : (n : Nat) → (i : Nat) → Tally → Option Tally
  | 0, _, t => return t
  | n + 1, i, t => do
    if isZeroed (sectorBytes piece i) then tally? piece lba n (i + 1) t
    else
      let used ← Exact.add t.used 1
      let last ← Exact.add lba (UInt32.ofNat i)
      tally? piece lba n (i + 1) { used, lastUsed := some last }

/-- The sector behind the last used one. -/
def nextFree? (total : UInt32) : Option UInt32 → Option (Option UInt32)
  | none => return some 0
  | some last => do
    let next ← Exact.add last 1
    return if total ≤ next then none else some next

/-- The result of a scan. -/
def ofTally? (total : UInt32) (t : Tally) : Option Occupancy := do
  let next ← nextFree? total t.lastUsed
  let free ← Exact.sub total t.used
  return { totalSectors := total, usedSectors := t.used, freeSectors := free,
           lastUsed := t.lastUsed, nextFreeLba := next }

/-- A piece can be counted as long as its end and the number found so far leave room. -/
theorem tally?_eq {piece : Bytes} {n i : Nat} {lba : UInt32} {t : Tally}
    (hused : t.used.toNat + n < 2 ^ 32) (hend : lba.toNat + i + n < 2 ^ 32) :
    tally? piece lba n i t = some (tally piece n i (lba + UInt32.ofNat i) t) := by
  induction n generalizing i t with
  | zero => rfl
  | succ n ih =>
    have hi : (UInt32.ofNat i).toNat = i := UInt32.toNat_ofNat_of_lt' (show i < 2 ^ 32 by omega)
    have hnext : lba + UInt32.ofNat i + 1 = lba + UInt32.ofNat (i + 1) := by
      rw [UInt32.ofNat_add, UInt32.add_assoc]
      rfl
    have hone : t.used.toNat + (1 : UInt32).toNat < 2 ^ 32 := by
      rw [UInt32.toNat_one]
      omega
    unfold tally? tally
    by_cases hzero : isZeroed (sectorBytes piece i) = true
    · rw [if_pos hzero, if_pos hzero, hnext]
      exact ih (by omega) (by omega)
    · rw [if_neg hzero, if_neg hzero, Exact.add_eq hone, Exact.add_eq (by omega), hnext]
      refine ih ?_ (by omega)
      rw [toNat_add_of_lt hone, UInt32.toNat_one]
      omega

theorem nextFree?_eq {total : UInt32} {last : Option UInt32} (h : ∀ b, last = some b → b < total) :
    nextFree? total last = some (nextFree total last) := by
  cases last with
  | none => rfl
  | some b =>
    have hb : b.toNat < total.toNat := UInt32.lt_iff_toNat_lt.1 (h b rfl)
    have htotal := total.toNat_lt
    have hadd : b.toNat + (1 : UInt32).toNat < 2 ^ 32 := by
      rw [UInt32.toNat_one]
      omega
    have hnext : (b + 1).toNat = b.toNat + 1 := toNat_add_of_lt hadd
    simp only [nextFree?, nextFree, Exact.add_eq hadd, Option.bind_eq_bind, Option.bind_some,
      UInt32.le_iff_toNat_le, hnext]
    rfl

theorem ofTally?_eq {bytes : Bytes} {total : UInt32} {t : Tally}
    (h : t.Counts (occupied bytes total.toNat)) : ofTally? total t = some (ofTally total t) := by
  have hlast : ∀ b, t.lastUsed = some b → b < total := by
    intro b hb
    exact UInt32.lt_iff_toNat_lt.2 (mem_occupied.1 (h.last b hb).1).1
  have hused : t.used.toNat ≤ total.toNat := by
    rw [h.used]
    exact card_occupied_le bytes total.toNat
  simp only [ofTally?, nextFree?_eq hlast, Exact.sub_eq hused, Option.bind_eq_bind,
    Option.bind_some]
  rfl

end Occupancy

namespace Volume

open Occupancy

variable {δ : Type} [BlockDevice δ]

/-- What is reported at the end of a scan. -/
def summary (drive : UInt8) (total : UInt32) (t : Tally) : Report :=
  let found := s!"{t.used} used / {total} sectors"
  .debug s!"scan of drive {drive}: {found}"

/-- Scans a drive of `total` sectors from `lba` on, with a buffer for 256 sectors. -/
def scanFrom? (drive : UInt8) (total lba : UInt32) (buffer : Bytes) (t : Tally)
    (progress : Array (UInt32 × UInt32)) (device : δ) : Option (ScanOutcome δ) :=
  if _h : lba < total then
    match _hleft : Exact.sub total lba with
    | none => none
    | some left =>
      let count := min left.toNat maxTransfer
      match Exact.slice buffer 0 (count * sectorSize) with
      | none => none
      | some piece =>
        match BlockDevice.readSectors drive (UInt16.ofNat count) lba piece device with
        | ⟨.error e, _, device⟩ => some ⟨.error (.io e), progress, device⟩
        | ⟨.ok _, piece, device⟩ =>
          match tally? piece lba count 0 t, _hdone : Exact.add lba (UInt32.ofNat count) with
          | some t, some done =>
            scanFrom? drive total done (overwriteFront piece buffer) t
              (progress.push (done, total)) device
          | _, _ => none
  else
    (ofTally? total t).map fun occupancy =>
      ⟨.ok occupancy, progress, BlockDevice.note (summary drive total t) device⟩
termination_by total.toNat - lba.toNat
decreasing_by
  have hlba : lba.toNat < total.toNat := UInt32.lt_iff_toNat_lt.1 _h
  have hleft := Exact.toNat_of_sub _hleft
  have hdone := Exact.toNat_of_add _hdone
  have hcount : (UInt32.ofNat (min left.toNat 256)).toNat = min left.toNat 256 :=
    UInt32.toNat_ofNat_of_lt' (show min left.toNat 256 < 2 ^ 32 by omega)
  rw [hcount] at hdone
  omega

/-- Scans a drive. -/
def scan? (drive : UInt8) (device : δ) : Option (ScanOutcome δ) :=
  match BlockDevice.totalSectors device drive with
  | .error e => some ⟨.error (.io e), #[], device⟩
  | .ok total => scanFrom? drive total 0 (zeroes (maxTransfer * sectorSize)) {} #[] device

/-- The tally after a piece that was read behind the bytes `acc`. -/
theorem counts_piece {acc : Bytes} {lba : UInt32} {t : Tally}
    (h : t.Counts (occupied acc lba.toNat)) (hacc : acc.size = lba.toNat * 512) {n : Nat}
    (hend : lba.toNat + n < 2 ^ 32) (piece : Bytes) :
    (tally piece n 0 lba t).Counts (occupied (acc ++ piece) (lba.toNat + n))
      ∧ tally? piece lba n 0 t = some (tally piece n 0 lba t) := by
  have hpiece : ∀ i < n, sectorBytes piece (0 + i) = sectorBytes (acc ++ piece) (lba.toNat + i) := by
    intro i _
    rw [Nat.zero_add, sectorBytes_append_right hacc]
  have hused : t.used.toNat + n < 2 ^ 32 := by
    have hcard := card_occupied_le acc lba.toNat
    rw [h.used]
    omega
  have hchecked : tally? piece lba n 0 t = some (tally piece n 0 (lba + UInt32.ofNat 0) t) :=
    tally?_eq hused hend
  rw [show lba + UInt32.ofNat 0 = lba from UInt32.add_zero lba] at hchecked
  rw [← occupied_append hacc piece] at h
  exact ⟨tally_counts h hend hpiece, hchecked⟩

theorem scanFrom_zero (drive : UInt8) (total lba : UInt32) (buffer : Bytes) (t : Tally)
    (progress : Array (UInt32 × UInt32)) (s : δ) :
    scanFrom drive total 0 lba buffer t progress s
      = ⟨.ok (ofTally total t), progress, BlockDevice.note (summary drive total t) s⟩ := by
  rw [scanFrom]
  rfl

theorem scanFrom_pos (drive : UInt8) (total : UInt32) {n : Nat} (hn : n ≠ 0) (lba : UInt32)
    (buffer : Bytes) (t : Tally) (progress : Array (UInt32 × UInt32)) (s : δ) :
    scanFrom drive total n lba buffer t progress s
      = match BlockDevice.readSectors drive (UInt16.ofNat (min n 256)) lba
          (buffer.extract 0 (min n 256 * 512)) s with
        | ⟨.error e, _, u⟩ => ⟨.error (.io e), progress, u⟩
        | ⟨.ok _, piece, u⟩ =>
          scanFrom drive total (n - min n 256) (lba + UInt32.ofNat (min n 256)) piece
            (tally piece (min n 256) 0 lba t)
            (progress.push (lba + UInt32.ofNat (min n 256), total)) u := by
  rewrite [scanFrom, if_neg hn]
  rfl

/-- One piece, if its sectors can be counted. -/
theorem scanFrom?_pos (drive : UInt8) {total lba : UInt32} {n : Nat} (hn : n ≠ 0)
    (hlba : lba.toNat + n = total.toNat) {buffer : Bytes} (hbuffer : buffer.size = 256 * 512)
    {t : Tally}
    (htally : ∀ piece, tally? piece lba (min n 256) 0 t = some (tally piece (min n 256) 0 lba t))
    (progress : Array (UInt32 × UInt32)) (s : δ) :
    scanFrom? drive total lba buffer t progress s
      = match BlockDevice.readSectors drive (UInt16.ofNat (min n 256)) lba
          (buffer.extract 0 (min n 256 * 512)) s with
        | ⟨.error e, _, u⟩ => some ⟨.error (.io e), progress, u⟩
        | ⟨.ok _, piece, u⟩ =>
          scanFrom? drive total (lba + UInt32.ofNat (min n 256)) (overwriteFront piece buffer)
            (tally piece (min n 256) 0 lba t)
            (progress.push (lba + UInt32.ofNat (min n 256), total)) u := by
  have htotal := total.toNat_lt
  have hlt : lba < total := by
    rw [UInt32.lt_iff_toNat_lt]
    omega
  have hslice : Exact.slice buffer 0 (min n 256 * 512)
      = some (buffer.extract 0 (min n 256 * 512)) := if_pos ⟨Nat.zero_le _, by omega⟩
  have hcount : (UInt32.ofNat (min n 256)).toNat = min n 256 :=
    UInt32.toNat_ofNat_of_lt' (show min n 256 < 2 ^ 32 by omega)
  have hadd : Exact.add lba (UInt32.ofNat (min n 256))
      = some (lba + UInt32.ofNat (min n 256)) := Exact.add_eq (by rw [hcount]; omega)
  rw [scanFrom?, dif_pos hlt]
  split
  case h_1 hsub =>
    rw [Exact.sub_eq (by omega)] at hsub
    cases hsub
  case h_2 left hsub =>
    have hleft := Exact.toNat_of_sub hsub
    obtain rfl : n = left.toNat := by omega
    simp only [hslice]
    rcases BlockDevice.readSectors drive (UInt16.ofNat (min left.toNat 256)) lba
      (buffer.extract 0 (min left.toNat 256 * 512)) s with ⟨_ | _, piece, u⟩
    · rfl
    · simp only
      split
      case h_1 t' done hcounted hdone =>
        cases (htally piece).symm.trans hcounted
        cases hadd.symm.trans hdone
        rfl
      case h_2 hno => exact absurd hadd (hno _ _ (htally piece))

/-- **No number of a scan leaves its range**, from any sector on. The scan with checks keeps its
whole buffer where the other one keeps the piece that was read last, which is the same as long
as there is more to read. -/
theorem scanFrom?_eq (drive : UInt8) {total lba : UInt32} {n : Nat}
    (hlba : lba.toNat + n = total.toNat) {buffer buffer' : Bytes}
    (hbuffer : buffer.size = 256 * 512) (hsame : n ≠ 0 → buffer' = buffer) {acc : Bytes}
    (hacc : acc.size = lba.toNat * 512) {t : Tally} (ht : t.Counts (occupied acc lba.toNat))
    (progress : Array (UInt32 × UInt32)) (s : δ) :
    scanFrom? drive total lba buffer t progress s
      = some (scanFrom drive total n lba buffer' t progress s) := by
  induction n using Nat.strong_induction_on generalizing lba buffer buffer' acc t progress s with
  | _ n ih =>
    have htotal := total.toNat_lt
    by_cases hzero : n = 0
    · subst hzero
      have hend : ¬ lba < total := by
        rw [UInt32.lt_iff_toNat_lt]
        omega
      rw [Nat.add_zero] at hlba
      rw [hlba] at ht
      rw [scanFrom?, dif_neg hend, ofTally?_eq ht, scanFrom_zero]
      rfl
    · obtain rfl := hsame hzero
      have hpiece := counts_piece ht hacc (show lba.toNat + min n 256 < 2 ^ 32 by omega)
      have hnext := BlockDevice.toNat_next_piece (show lba.toNat + min n 256 < 2 ^ 32 by omega)
      rw [scanFrom?_pos drive hzero hlba hbuffer (fun piece => (hpiece piece).2),
        scanFrom_pos drive total hzero]
      rcases hread : BlockDevice.readSectors drive (UInt16.ofNat (min n 256)) lba
        (buffer'.extract 0 (min n 256 * 512)) s with ⟨_ | _, piece, u⟩
      · rfl
      · have hcounts := (hpiece piece).1
        have hsize : piece.size = min n 256 * 512 := by
          rw [BlockDevice.size_of_read hread, Array.size_extract]
          omega
        rw [← hnext] at hcounts
        refine ih (n - min n 256) (by omega) (by omega) ?_ ?_ ?_ hcounts _ u
        · rw [size_overwriteFront, hbuffer]
        · intro hmore
          refine (overwriteFront_eq_left ?_).symm
          rw [hsize, hbuffer]
          omega
        · rw [Array.size_append, hacc, hnext, hsize, Nat.add_mul]

/-! ## §2 The calls of a scan -/

open BlockDevice (Runs pieces pieces_pos)

/-- The progress that is told after these pieces. -/
def told (total : UInt32) (done : List (Nat × Nat)) : Array (UInt32 × UInt32) :=
  (done.map fun p => (UInt32.ofNat (p.1 + p.2), total)).toArray

theorem push_told (before : Array (UInt32 × UInt32)) (total : UInt32) (p : Nat × Nat)
    (done : List (Nat × Nat)) :
    before.push (UInt32.ofNat (p.1 + p.2), total) ++ told total done
      = before ++ told total (p :: done) := by
  apply Array.ext'
  simp [told]

/-- The pieces of a drive, each with a buffer of its size. -/
def scanPlan (first n : Nat) : List ((Nat × Nat) × Nat) :=
  (pieces first n).map fun p => (p, p.2 * 512)

theorem scanPlan_pos (first : Nat) {n : Nat} (h : n ≠ 0) :
    scanPlan first n = ((first, min n 256), min n 256 * 512)
      :: scanPlan (first + min n 256) (n - min n 256) := by
  rw [scanPlan, pieces_pos first h]
  rfl

/-- How the scan of the last `n` sectors ends, when `acc` had been read and `before` been told:
with all of them counted, or with the first call that fails. -/
inductive Swept (total : UInt32) (first n : Nat) (acc : Bytes) (before : Array (UInt32 × UInt32))
    (calls : List ReadCall) (u : δ) : ScanOutcome δ → Prop
  | finished {t : Tally} {report : Report}
    (ends : UpToFailure ReadCall.sized (scanPlan first n) calls (.ok ()))
    (size : (acc ++ ReadCall.joined calls).size = total.toNat * 512)
    (counts : t.Counts (occupied (acc ++ ReadCall.joined calls) total.toNat)) :
    Swept total first n acc before calls u
      ⟨.ok (ofTally total t), before ++ told total (pieces first n), BlockDevice.note report u⟩
  | stopped {k : Nat} {e : AtaError}
    (ends : UpToFailure ReadCall.sized (scanPlan first n) calls (.error e))
    (length : calls.length = k + 1) :
    Swept total first n acc before calls u
      ⟨.error (.io e), before ++ told total ((pieces first n).take k), u⟩

/-- A scan that goes on behind a piece. -/
theorem Swept.next {total : UInt32} {first n : Nat} (hn : n ≠ 0) {acc : Bytes}
    {before : Array (UInt32 × UInt32)} {c : ReadCall} {calls : List ReadCall} {u : δ}
    {o : ScanOutcome δ} (hask : c.sized = ((first, min n 256), min n 256 * 512))
    (hok : c.result = .ok ())
    (h : Swept total (first + min n 256) (n - min n 256) (acc ++ c.buffer)
      (before.push (UInt32.ofNat (first + min n 256), total)) calls u o) :
    Swept total first n acc before (c :: calls) u o := by
  have hpush := push_told before total (first, min n 256)
  cases h with
  | finished ends size counts =>
    rw [Array.append_assoc, ← ReadCall.joined_cons] at size counts
    rw [hpush, ← pieces_pos first hn]
    exact .finished (by rw [scanPlan_pos first hn]; exact .next hask hok ends) size counts
  | @stopped k e ends length =>
    rw [hpush, ← List.take_succ_cons, ← pieces_pos first hn]
    exact .stopped (by rw [scanPlan_pos first hn]; exact .next hask hok ends) (by simp [length])

/-- **The calls of a scan**, from any sector on. -/
theorem scanFrom_calls (drive : UInt8) {total lba : UInt32} {n : Nat}
    (hlba : lba.toNat + n = total.toNat) {buffer : Bytes}
    (hbuffer : min n 256 * 512 ≤ buffer.size) {acc : Bytes}
    (hacc : acc.size = lba.toNat * 512) {t : Tally} (ht : t.Counts (occupied acc lba.toNat))
    (before : Array (UInt32 × UInt32)) (s : δ) :
    ∃ calls u, Runs drive calls s u ∧ Swept total lba.toNat n acc before calls u
      (scanFrom drive total n lba buffer t before s) := by
  induction n using Nat.strong_induction_on generalizing lba buffer acc t before s with
  | _ n ih =>
    have htotal := total.toNat_lt
    by_cases hzero : n = 0
    · subst hzero
      rw [Nat.add_zero] at hlba
      have hend : Swept total lba.toNat 0 acc before [] s
          ⟨.ok (ofTally total t), before ++ told total (pieces lba.toNat 0),
            BlockDevice.note (summary drive total t) s⟩ := by
        refine .finished .done ?_ ?_ <;> rw [ReadCall.joined_nil, Array.append_empty, ← hlba]
        · exact hacc
        · exact ht
      have htold : before ++ told total (pieces lba.toNat 0) = before := Array.append_empty
      rw [htold] at hend
      rw [scanFrom_zero]
      exact ⟨[], s, .nil s, hend⟩
    · have hnext := BlockDevice.toNat_next_piece (show lba.toNat + min n 256 < 2 ^ 32 by omega)
      have hgiven : (buffer.extract 0 (min n 256 * 512)).size = min n 256 * 512 := by
        rw [Array.size_extract]
        omega
      rw [scanFrom_pos drive total hzero]
      rcases hcall : BlockDevice.readSectors drive (UInt16.ofNat (min n 256)) lba
        (buffer.extract 0 (min n 256 * 512)) s with ⟨result, piece, u⟩
      have hask : ReadCall.sized ⟨lba, UInt16.ofNat (min n 256), buffer.extract 0 (min n 256 * 512),
          result, piece⟩ = ((lba.toNat, min n 256), min n 256 * 512) := by
        rw [ReadCall.sized, ReadCall.span, BlockDevice.toNat_count_piece, hgiven]
      have hsize : piece.size = min n 256 * 512 := by
        rw [BlockDevice.size_of_read hcall, hgiven]
      cases result with
      | error e =>
        have hend : Swept total lba.toNat n acc before [⟨lba, _, _, .error e, piece⟩] u
            ⟨.error (.io e), before ++ told total ((pieces lba.toNat n).take 0), u⟩ :=
          .stopped (by rw [scanPlan_pos _ hzero]; exact .failed hask rfl) rfl
        have htold : before ++ told total ((pieces lba.toNat n).take 0) = before :=
          Array.append_empty
        rw [htold] at hend
        exact ⟨_, u, .cons hcall (.nil u), hend⟩
      | ok _ =>
        obtain ⟨hcounts, -⟩ := counts_piece ht hacc (n := min n 256) (by omega) piece
        rw [← hnext] at hcounts
        have hrest : (lba + UInt32.ofNat (min n 256)).toNat + (n - min n 256) = total.toNat := by
          omega
        have hroom : min (n - min n 256) 256 * 512 ≤ piece.size := by
          rw [hsize]
          exact Nat.mul_le_mul_right 512 (by omega)
        have hread : (acc ++ piece).size = (lba + UInt32.ofNat (min n 256)).toNat * 512 := by
          rw [Array.size_append, hacc, hsize, hnext, Nat.add_mul]
        obtain ⟨calls, u', hruns, hswept⟩ := ih (n - min n 256) (by omega) hrest hroom hread hcounts
          (before.push (lba + UInt32.ofNat (min n 256), total)) u
        have hlba' : lba + UInt32.ofNat (min n 256) = UInt32.ofNat (lba.toNat + min n 256) := by
          rw [← hnext, UInt32.ofNat_toNat]
        refine ⟨_, u', .cons hcall hruns, .next hzero hask rfl ?_⟩
        rw [← hlba', ← hnext]
        exact hswept

/-- A scan reads from the first sector on with an empty buffer for the longest command. -/
theorem scan_of_total {drive : UInt8} {s : δ} {total : UInt32}
    (h : BlockDevice.totalSectors s drive = .ok total) :
    scan drive s = scanFrom drive total total.toNat 0 (zeroes (256 * 512)) {} #[] s := by
  rw [scan, h]

/-- **No number of a scan leaves its range**, whatever the drive holds and how many sectors it
has. -/
theorem scan?_eq (drive : UInt8) (s : δ) : scan? drive s = some (scan drive s) := by
  cases htotal : BlockDevice.totalSectors s drive with
  | error e => rw [scan?, scan, htotal]
  | ok total =>
    rw [scan_of_total htotal, scan?, htotal]
    have hstart : (0 : UInt32).toNat + total.toNat = total.toNat := Nat.zero_add _
    have hempty : (#[] : Bytes).size = (0 : UInt32).toNat * 512 := rfl
    exact scanFrom?_eq drive hstart (size_zeroes _) (fun _ => rfl) hempty Tally.counts_empty #[] s

/-- How the scan of a drive of `total` sectors went from state `s` on, if it ended as `o`. -/
structure ExactScan (drive : UInt8) (total : UInt32) (s : δ) (o : ScanOutcome (Recorder δ)) :
    Prop where
  /-- All pieces are read in order, or those up to the first one that fails. The progress is
  told after each that was read. No other call is made. -/
  calls : ∃ calls u, o.device.calls = calls.map (ReadCall.recorded drive) ∧ Runs drive calls s u
    ∧ ((UpToFailure ReadCall.sized (scanPlan 0 total.toNat) calls (.ok ())
        ∧ o.progress = told total (pieces 0 total.toNat)
        ∧ ∃ occupancy U, o.result = .ok occupancy ∧ occupancy.Describes total U
          ∧ ∀ j, j ∈ U ↔ j < total.toNat
            ∧ ∃ i < 512, (ReadCall.joined calls).getD (j * 512 + i) 0 ≠ 0)
      ∨ ∃ k e, UpToFailure ReadCall.sized (scanPlan 0 total.toNat) calls (.error e)
        ∧ calls.length = k + 1 ∧ o.progress = told total ((pieces 0 total.toNat).take k)
        ∧ o.result = .error (.io e))
  /-- Where reads bring what the drive holds, that is what is described. -/
  faithful : ∀ (Inv : δ → Prop) (m : Sectors),
    BlockDevice.ReadsWithin drive Inv False m 0 total.toNat → Inv s →
    ∃ occupancy, o.result = .ok occupancy ∧ occupancy.Describes total
      ((Finset.range total.toNat).filter fun j => m j ≠ Sector.zero)

theorem Swept.exact {drive : UInt8} {total : UInt32} {s : δ} {calls : List ReadCall}
    {u : Recorder δ} {o : ScanOutcome (Recorder δ)}
    (h : Swept total 0 total.toNat #[] #[] calls u o)
    (hruns : Runs drive calls (⟨s, []⟩ : Recorder δ) u) : ExactScan drive total s o := by
  obtain ⟨hmade, hplain⟩ := hruns.recorded
  rw [List.nil_append] at hmade
  cases h with
  | @finished t report ends size counts =>
    rw [Array.empty_append] at size counts
    have hinside : ∀ j ∈ occupied (ReadCall.joined calls) total.toNat, j < total.toNat :=
      fun j hj => (mem_occupied.1 hj).1
    refine ⟨⟨calls, u.device, hmade, hplain, .inl ⟨ends, Array.empty_append, _, _, rfl,
      counts.describes hinside, fun j => ?_⟩⟩, fun Inv m hread hs => ⟨_, rfl, ?_⟩⟩
    · rw [mem_occupied]
      exact and_congr_right fun hj => isZeroed_sectorBytes size hj
    · have hbytes := (hplain.reads hread hs ends (Nat.le_refl 0) (by omega)).2
      rw [hbytes] at counts hinside
      rw [← occupied_bytes]
      exact counts.describes hinside
  | stopped ends length =>
    refine ⟨⟨calls, u.device, hmade, hplain,
      .inr ⟨_, _, ends, length, Array.empty_append, rfl⟩⟩, fun Inv m hread hs => ?_⟩
    have hresult := (hplain.reads hread hs ends (Nat.le_refl 0) (by omega)).1
    cases hresult

/-- **A scan is exact.** -/
theorem scan_exact (drive : UInt8) (s : δ) :
    let o := scan drive (⟨s, []⟩ : Recorder δ)
    scan? drive s = some (scan drive s)
      ∧ scan drive s = ⟨o.result, o.progress, o.device.device⟩
      ∧ (∀ e, BlockDevice.totalSectors s drive = .error e →
        o = ⟨.error (.io e), #[], ⟨s, []⟩⟩)
      ∧ ∀ total, BlockDevice.totalSectors s drive = .ok total →
        BlockDevice.Cut (pieces 0 total.toNat) 0 total.toNat ∧ ExactScan drive total s o := by
  intro o
  have halike := scan_alike (Recorder.drivesAlike drive s).toReadsAlike
    (Recorder.follows_start drive s)
  refine ⟨scan?_eq drive s, ?_, fun e herror => ?_, fun total htotal => ⟨?_, ?_⟩⟩
  · obtain ⟨hresult, hprogress, hstates⟩ := halike
    rw [show o.result = _ from hresult, show o.progress = _ from hprogress,
      show o.device.device = _ from hstates.device]
  · have hrecorded : BlockDevice.totalSectors (⟨s, []⟩ : Recorder δ) drive = .error e := herror
    show scan drive (⟨s, []⟩ : Recorder δ) = _
    rw [scan, hrecorded]
  · exact BlockDevice.cut_pieces 0 total.toNat
  · have hrecorded : BlockDevice.totalSectors (⟨s, []⟩ : Recorder δ) drive = .ok total := htotal
    have hstart : (0 : UInt32).toNat + total.toNat = total.toNat := Nat.zero_add _
    have hbuffer : min total.toNat 256 * 512 ≤ (zeroes (256 * 512)).size := by
      rw [size_zeroes]
      exact Nat.mul_le_mul_right 512 (Nat.min_le_right _ _)
    have hempty : (#[] : Bytes).size = (0 : UInt32).toNat * 512 := rfl
    obtain ⟨calls, u, hruns, hswept⟩ := scanFrom_calls drive hstart hbuffer hempty
      Tally.counts_empty #[] (⟨s, []⟩ : Recorder δ)
    rw [← scan_of_total hrecorded] at hswept
    exact hswept.exact hruns

/-- A drive of 600 sectors of which the last one is used: there is none behind it. -/
theorem scan_exact_full_tail :
    let s : Flaky :=
      { size := 600, image := Function.update (fun _ => Sector.zero) 599 (.ofBytes #[7]) }
    ∃ occupancy, (scan 0 (⟨s, []⟩ : Recorder Flaky)).result = .ok occupancy
      ∧ occupancy.usedSectors.toNat = 1 ∧ occupancy.lastUsed = some 599
      ∧ occupancy.nextFreeLba = none := by
  intro s
  obtain ⟨-, -, -, hexact⟩ := scan_exact 0 s
  have hread : BlockDevice.ReadsWithin 0 ((Flaky.calm 600).Holds s.image) False s.image 0 600 :=
    (Flaky.calm_faultFree 600 0).serves.read _ fun j _ hj => hj
  obtain ⟨occupancy, hresult, hdescribes⟩ :=
    (hexact 600 rfl).2.faithful _ _ hread ⟨⟨rfl, rfl⟩, rfl⟩
  have hlone : ((Finset.range 600).filter fun j => s.image j ≠ Sector.zero) = {599} := by
    have hused : (Sector.ofBytes #[7]) ≠ Sector.zero := by
      intro hzero
      have hbyte := congrArg (Sector.byte · 0) hzero
      rw [Sector.byte_ofBytes _ (by decide), Sector.byte_zero] at hbyte
      cases hbyte
    ext j
    rw [Finset.mem_filter, Finset.mem_range, Finset.mem_singleton]
    by_cases hj : j = 599
    · subst hj
      simp [s, hused]
    · simp [s, hj]
  rw [show (600 : UInt32).toNat = 600 from rfl, hlone] at hdescribes
  refine ⟨occupancy, hresult, hdescribes.used, (hdescribes.last_some 599).2 ?_,
    hdescribes.next_full (by simp)⟩
  exact ⟨by simp, fun j hj => by simp_all⟩

end Volume

end AtaVolume
