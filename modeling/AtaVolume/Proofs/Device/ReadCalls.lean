/-
AtaVolume.Proofs.Device.ReadCalls — the commands that a long read is made of.

A read of a range, and a scan, go through sectors in `pieces` of at most 256, one behind the
other. What they ask of the device is told by the read calls that lead from one state of it
to another (`Runs`), and how far they come by `UpToFailure`: the calls follow a plan up to the
first one that fails, which ends them with its error. By induction on the sectors left a read
of a range is one of all its pieces (`readPieces_calls`), and where no call fails it brings
what reading its sectors one by one would (`readRange_plain`).

That no other call is made is said with a recorder: what it has written down are these calls.
-/
import AtaVolume.Proofs.Device.Flaky
import AtaVolume.Proofs.Device.Recorder
import AtaVolume.Proofs.Device.Serving

namespace AtaVolume

/-! ## §1 Read calls in a row -/

/-- A read, with the buffer it is given, how it ends, and the buffer then. -/
structure ReadCall where
  lba : UInt32
  count : UInt16
  given : Bytes
  result : Except AtaError Unit
  buffer : Bytes

namespace ReadCall

/-- The sectors that are asked for: the first one, and how many. -/
def span (c : ReadCall) : Nat × Nat := (c.lba.toNat, c.count.toNat)

/-- The sectors that are asked for, and the size of the buffer for them. -/
def sized (c : ReadCall) : (Nat × Nat) × Nat := (c.span, c.given.size)

/-- The sectors that are asked for, and the buffer for them. -/
def request (c : ReadCall) : (Nat × Nat) × Bytes := (c.span, c.given)

/-- As a recorder keeps it. -/
def recorded (drive : UInt8) (c : ReadCall) : DriveCall :=
  .read drive c.lba c.count c.buffer c.result

/-- The buffers, one behind the other. -/
def joined (calls : List ReadCall) : Bytes := calls.foldr (fun c bytes => c.buffer ++ bytes) #[]

@[simp] theorem joined_nil : joined [] = #[] := rfl

@[simp] theorem joined_cons (c : ReadCall) (calls : List ReadCall) :
    joined (c :: calls) = c.buffer ++ joined calls := rfl

end ReadCall

/-- Calls that follow a plan up to the first one that fails, which ends them with its error. -/
inductive UpToFailure {ρ : Type} (asks : ReadCall → ρ) :
    (plan : List ρ) → List ReadCall → Except AtaError Unit → Prop
  | done : UpToFailure asks [] [] (.ok ())
  | failed {p : ρ} {plan : List ρ} {c : ReadCall} {e : AtaError} (ask : asks c = p)
    (error : c.result = .error e) : UpToFailure asks (p :: plan) [c] (.error e)
  | next {p : ρ} {plan : List ρ} {c : ReadCall} {calls : List ReadCall}
    {result : Except AtaError Unit} (ask : asks c = p) (ok : c.result = .ok ())
    (rest : UpToFailure asks plan calls result) :
    UpToFailure asks (p :: plan) (c :: calls) result

namespace UpToFailure

variable {ρ : Type} {asks : ReadCall → ρ} {plan : List ρ} {calls : List ReadCall}

/-- They end well if all of the plan does. -/
theorem ok (h : UpToFailure asks plan calls (.ok ())) :
    calls.map asks = plan ∧ ∀ c ∈ calls, c.result = .ok () := by
  generalize hresult : Except.ok () = result at h
  induction h with
  | done => simp
  | failed ask error => cases hresult
  | next ask ok rest ih =>
    obtain ⟨hall, hok⟩ := ih hresult
    exact ⟨by simp [ask, hall], List.forall_mem_cons.2 ⟨ok.trans hresult, hok⟩⟩

/-- Otherwise all have gone well but the last one, and the rest of the plan was not begun. -/
theorem error {e : AtaError} (h : UpToFailure asks plan calls (.error e)) :
    calls.map asks <+: plan ∧ ∃ front last, calls = front ++ [last]
      ∧ (∀ c ∈ front, c.result = .ok ()) ∧ last.result = .error e := by
  generalize hresult : Except.error e = result at h
  induction h with
  | done => cases hresult
  | @failed p plan c e' ask error =>
    cases hresult
    exact ⟨by simp [ask], [], c, rfl, by simp, error⟩
  | @next p plan c calls result ask ok rest ih =>
    obtain ⟨hasked, front, last, rfl, hok, hlast⟩ := ih hresult
    exact ⟨by simpa [ask] using hasked, c :: front, last, rfl,
      List.forall_mem_cons.2 ⟨ok, hok⟩, hlast⟩

end UpToFailure

namespace BlockDevice

variable {δ : Type} [BlockDevice δ] {drive : UInt8} {s t u : δ} {calls : List ReadCall}

/-- The calls lead from one state of the device to another. -/
inductive Runs (drive : UInt8) : List ReadCall → δ → δ → Prop
  | nil (s : δ) : Runs drive [] s s
  | cons {c : ReadCall} {calls : List ReadCall} {s u t : δ}
    (first : readSectors drive c.count c.lba c.given s = ⟨c.result, c.buffer, u⟩)
    (rest : Runs drive calls u t) : Runs drive (c :: calls) s t

/-- A recorder has written them down, and the device was led the same way. -/
theorem Runs.recorded {r r' : Recorder δ} (h : Runs drive calls r r') :
    r'.calls = r.calls ++ calls.map (ReadCall.recorded drive)
      ∧ Runs drive calls r.device r'.device := by
  induction h with
  | nil r => exact ⟨by simp, .nil _⟩
  | @cons c calls r r'' r' first rest ih =>
    obtain ⟨hcalls, hruns⟩ := ih
    have houtcome : Recorder.afterRead drive c.lba c.count
        (readSectors drive c.count c.lba c.given r.device) r.calls
        = ⟨c.result, c.buffer, r''⟩ := first
    rcases hread : readSectors drive c.count c.lba c.given r.device with ⟨result, buffer, d⟩
    rw [hread] at houtcome
    cases houtcome
    exact ⟨by rw [hcalls]; simp [ReadCall.recorded], .cons hread hruns⟩

/-- A read keeps the size of its buffer, whatever it leaves in it. -/
theorem size_of_read {count : UInt16} {lba : UInt32} {buffer piece : Bytes}
    {result : Except AtaError Unit}
    (h : readSectors drive count lba buffer s = ⟨result, piece, u⟩) :
    piece.size = buffer.size := by
  have hsize := size_readSectors drive count lba buffer s
  rwa [h] at hsize

/-! ## §2 Pieces -/

/-- The `n` sectors from `first` on in pieces of 256, of which the last one may be shorter. Each
piece is given by its first sector and the number of its sectors. -/
def pieces (first n : Nat) : List (Nat × Nat) :=
  (List.range ((n + 255) / 256)).map fun k => (first + 256 * k, min 256 (n - 256 * k))

/-- The number of sectors of a piece can stand in a command. -/
theorem toNat_count_piece (n : Nat) : (UInt16.ofNat (min n 256)).toNat = min n 256 :=
  UInt16.toNat_ofNat_of_lt' (show min n 256 < 2 ^ 16 by omega)

@[simp] theorem pieces_zero (first : Nat) : pieces first 0 = [] := rfl

theorem pieces_pos (first : Nat) {n : Nat} (h : n ≠ 0) :
    pieces first n = (first, min n 256) :: pieces (first + min n 256) (n - min n 256) := by
  have hlength : (n + 255) / 256 = (n - min n 256 + 255) / 256 + 1 := by omega
  rw [pieces, hlength, List.range_succ_eq_map, List.map_cons, List.map_map, pieces]
  congr 1
  · simp [Nat.min_comm]
  · refine List.map_congr_left fun k hk => ?_
    -- a second piece is there only if the first one is whole
    have hwhole : min n 256 = 256 := by
      rw [List.mem_range] at hk
      omega
    simp only [Function.comp_apply, Nat.succ_eq_add_one, hwhole, Prod.mk.injEq]
    omega

/-- How sectors are cut into pieces: into the numbers that a command can have, without gaps, in
order. -/
structure Cut (plan : List (Nat × Nat)) (first n : Nat) : Prop where
  small : ∀ p ∈ plan, 1 ≤ p.2 ∧ p.2 ≤ 256
  cover : plan.flatMap (fun p => List.range' p.1 p.2) = List.range' first n

theorem cut_pieces (first n : Nat) : Cut (pieces first n) first n := by
  induction n using Nat.strong_induction_on generalizing first with
  | _ n ih =>
    by_cases hzero : n = 0
    · subst hzero
      exact ⟨by simp, by simp⟩
    · obtain ⟨hsmall, hcover⟩ := ih (n - min n 256) (by omega) (first + min n 256)
      rw [pieces_pos first hzero]
      refine ⟨List.forall_mem_cons.2 ⟨⟨?_, ?_⟩, hsmall⟩, ?_⟩
      · show 1 ≤ min n 256
        omega
      · exact Nat.min_le_right n 256
      · rw [List.flatMap_cons, hcover, List.range'_append_1, Nat.add_sub_cancel' (by omega)]

/-- Reading the pieces where reads bring what the drive holds: none fails, and together they
bring all of it. -/
theorem Runs.reads {Inv : δ → Prop} {m : Sectors} {lo hi : Nat}
    (hread : ReadsWithin drive Inv False m lo hi) (hruns : Runs drive calls s t) (hs : Inv s)
    {first n : Nat} {result : Except AtaError Unit}
    (hends : UpToFailure ReadCall.sized ((pieces first n).map fun p => (p, p.2 * 512)) calls result)
    (hlo : lo ≤ first) (hhi : first + n ≤ hi) :
    result = .ok () ∧ ReadCall.joined calls = m.bytes first n := by
  induction n using Nat.strong_induction_on generalizing first calls s with
  | _ n ih =>
    by_cases hzero : n = 0
    · subst hzero
      cases hends
      exact ⟨rfl, by rw [Sectors.bytes_zero]; rfl⟩
    · rw [pieces_pos first hzero, List.map_cons] at hends
      have hpiece : ∀ {c : ReadCall} {u : δ}, c.sized = ((first, min n 256), min n 256 * 512) →
          readSectors drive c.count c.lba c.given s = ⟨c.result, c.buffer, u⟩ →
          (⟨c.result, c.buffer, u⟩ : ReadOutcome δ).Reads Inv False (m.bytes first (min n 256)) := by
        intro c u hask hcall
        simp only [ReadCall.sized, ReadCall.span, Prod.mk.injEq] at hask
        obtain ⟨⟨hlba, hcount⟩, hsize⟩ := hask
        have hone := hread hs (show 1 ≤ min n 256 by omega) (Nat.min_le_right n 256)
          (show lo ≤ c.lba.toNat by omega) (by omega) hsize
        rwa [← hcount, UInt16.ofNat_toNat, hcall, hlba, hcount] at hone
      cases hends with
      | @failed _ _ c e ask error =>
        cases hruns with
        | cons first rest => exact ((hpiece ask first).error e error).elim
      | @next _ _ c calls _ ask ok rest =>
        cases hruns with
        | cons hcall hlater =>
          have hfirst := hpiece ask hcall
          obtain ⟨hresult, hjoined⟩ := ih (n - min n 256) (by omega) hlater hfirst.inv rest
            (by omega) (by omega)
          have hbuffer : c.buffer = m.bytes first (min n 256) := hfirst.ok ok
          refine ⟨hresult, ?_⟩
          rw [ReadCall.joined_cons, hjoined, hbuffer, ← Sectors.bytes_add,
            Nat.add_sub_cancel' (Nat.min_le_left n 256)]

/-! ## §3 A range -/

/-- The request for a piece of a range that starts at sector `start`: its sectors, and its own
part of the buffer. -/
def request (start : Nat) (buffer : Bytes) (p : Nat × Nat) : (Nat × Nat) × Bytes :=
  ((start + p.1, p.2), buffer.extract (p.1 * 512) ((p.1 + p.2) * 512))

theorem request_eq {start f n : Nat} {lba : UInt32} {count : UInt16} (hlba : lba.toNat = start + f)
    (hcount : count.toNat = n) (buffer : Bytes) (result : Except AtaError Unit) (piece : Bytes) :
    ReadCall.request ⟨lba, count, buffer.extract (f * 512) ((f + n) * 512), result, piece⟩
      = request start buffer (f, n) := by
  rw [ReadCall.request, ReadCall.span, request, hlba, hcount]

/-- Reading the pieces from sector `f` of the range on. -/
theorem readPieces_calls (drive : UInt8) {buffer : Bytes} {start f n : Nat} {lba : UInt32}
    (hlba : lba.toNat = start + f) (hend : start + f + n < 2 ^ 32)
    (hsize : buffer.size = (f + n) * 512) (acc : Bytes) (s : δ) :
    ∃ calls, Runs drive calls s (readPieces drive buffer lba n (f * 512) acc s).device
      ∧ UpToFailure ReadCall.request ((pieces f n).map (request start buffer)) calls
        (readPieces drive buffer lba n (f * 512) acc s).result
      ∧ (readPieces drive buffer lba n (f * 512) acc s).buffer
        = acc ++ ReadCall.joined calls
          ++ buffer.extract (f * 512 + (ReadCall.joined calls).size) buffer.size := by
  induction n using Nat.strong_induction_on generalizing f lba acc s with
  | _ n ih =>
    by_cases hzero : n = 0
    · subst hzero
      rw [readPieces_zero]
      exact ⟨[], .nil s, .done, by simp⟩
    · have hstop : f * 512 + min n 256 * 512 = (f + min n 256) * 512 := by omega
      have hrequest := request_eq hlba (toNat_count_piece n) buffer
      have hnext : (lba + UInt32.ofNat (min n 256)).toNat = start + (f + min n 256) := by
        rw [toNat_next_piece (by omega), hlba, Nat.add_assoc]
      have hsplit : f + min n 256 + (n - min n 256) = f + n := by omega
      rw [readPieces_pos drive buffer hzero (by omega), pieces_pos f hzero, List.map_cons, hstop]
      simp only
      rcases hread : readSectors drive (UInt16.ofNat (min n 256)) lba
        (buffer.extract (f * 512) ((f + min n 256) * 512)) s with ⟨result, piece, u⟩
      have hsize' : piece.size = min n 256 * 512 := by
        rw [size_of_read hread, Array.size_extract]
        omega
      cases result with
      | error e =>
        refine ⟨[⟨lba, _, _, .error e, piece⟩], .cons hread (.nil u), .failed (hrequest _ _) rfl, ?_⟩
        simp [hsize', hstop]
      | ok _ =>
        obtain ⟨calls, hruns, hends, hbuffer⟩ := ih (n - min n 256) (by omega)
          hnext (by omega) (by rw [hsplit]; exact hsize) (acc ++ piece) u
        refine ⟨⟨lba, _, _, .ok (), piece⟩ :: calls, .cons hread hruns,
          .next (hrequest _ _) rfl hends, ?_⟩
        rw [hbuffer]
        simp only [ReadCall.joined_cons, Array.size_append, hsize', Array.append_assoc,
          ← hstop, Nat.add_assoc]

/-- Where reads bring what the drive holds, the sectors of a range can be read one by one. -/
theorem readSingly_calls {Inv : δ → Prop} {m : Sectors} {lo hi : Nat}
    (hread : ReadsWithin drive Inv False m lo hi) (hhi : hi < 2 ^ 32) {buffer : Bytes}
    {start f n : Nat} (hlo : lo ≤ start + f) (hend : start + f + n ≤ hi)
    (hsize : buffer.size = (f + n) * 512) (hs : Inv s) :
    ∃ calls t, Runs drive calls s t
      ∧ UpToFailure ReadCall.request ((List.range' f n).map fun k => request start buffer (k, 1))
        calls (.ok ())
      ∧ ReadCall.joined calls = m.bytes (start + f) n := by
  induction n generalizing f s with
  | zero => exact ⟨[], s, .nil s, .done, by rw [Sectors.bytes_zero]; rfl⟩
  | succ n ih =>
    have hlba : (UInt32.ofNat (start + f)).toNat = start + f :=
      UInt32.toNat_ofNat_of_lt' (show start + f < 2 ^ 32 by omega)
    have hsector : (buffer.extract (f * 512) ((f + 1) * 512)).size = 1 * 512 := by
      rw [Array.size_extract]
      omega
    have hpiece := hread hs (Nat.le_refl 1) (by decide)
      (show lo ≤ (UInt32.ofNat (start + f)).toNat by omega) (by omega) hsector
    rcases hcall : readSectors drive (UInt16.ofNat 1) (UInt32.ofNat (start + f))
      (buffer.extract (f * 512) ((f + 1) * 512)) s with ⟨result, sector, u⟩
    rw [hcall, hlba] at hpiece
    cases result with
    | error e => exact (hpiece.error e rfl).elim
    | ok _ =>
      obtain ⟨calls, t, hruns, hends, hjoined⟩ := ih (f := f + 1) (by omega) (by omega)
        (by rw [hsize]; omega) hpiece.inv
      have hbytes : sector = m.bytes (start + f) 1 := hpiece.ok rfl
      refine ⟨⟨_, _, _, .ok (), sector⟩ :: calls, t, .cons hcall hruns, ?_, ?_⟩
      · rw [List.range'_succ, List.map_cons]
        exact .next (request_eq hlba rfl buffer _ sector) rfl hends
      · rw [ReadCall.joined_cons, hjoined, hbytes, ← Nat.add_assoc, ← Sectors.bytes_add,
          Nat.add_comm 1 n]

/-- How the `n` sectors from `lba` on were read into `buffer`, from state `s` on, if that ended
as `o`. -/
structure PlainRead (drive : UInt8) (lba : UInt32) (n : Nat) (buffer : Bytes) (s : δ)
    (o : ReadOutcome (Recorder δ)) : Prop where
  /-- The pieces are read in order up to the first failure, each into its own part of the
  buffer; the parts behind them are as they were. No other call is made. -/
  calls : ∃ calls, o.device.calls = calls.map (ReadCall.recorded drive)
    ∧ Runs drive calls s o.device.device
    ∧ UpToFailure ReadCall.request ((pieces 0 n).map (request lba.toNat buffer)) calls o.result
    ∧ o.buffer = ReadCall.joined calls
      ++ buffer.extract (ReadCall.joined calls).size buffer.size
  /-- Where reads bring what the drive holds, reading the sectors one by one brings the same. -/
  singly : ∀ (Inv : δ → Prop) (m : Sectors),
    ReadsWithin drive Inv False m lba.toNat (lba.toNat + n) → Inv s →
    o.result = .ok () ∧ o.buffer = m.bytes lba.toNat n ∧ ∃ singles t, Runs drive singles s t
      ∧ UpToFailure ReadCall.request
        ((List.range n).map fun k => request lba.toNat buffer (k, 1)) singles (.ok ())
      ∧ o.buffer = ReadCall.joined singles

/-- **A read of a range is a plain read of all of it**, in pieces that a command can have. A
buffer that is not for whole sectors, or for none, is refused without a call. -/
theorem readRange_plain (drive : UInt8) (lba : UInt32) (buffer : Bytes) (s : δ) :
    let o := readRange drive lba buffer (⟨s, []⟩ : Recorder δ)
    readRange drive lba buffer s = ⟨o.result, o.buffer, o.device.device⟩
      ∧ (buffer.size = 0 → o = ⟨.error .emptyTransfer, buffer, ⟨s, []⟩⟩)
      ∧ (buffer.size % 512 ≠ 0 →
        o = ⟨.error (.misalignedLength buffer.size), buffer, ⟨s, []⟩⟩)
      ∧ ∀ n, 1 ≤ n → buffer.size = n * 512 → lba.toNat + n < 2 ^ 32 →
        Cut (pieces 0 n) 0 n ∧ PlainRead drive lba n buffer s o := by
  intro o
  have halike := readRange_alike (Recorder.drivesAlike drive s).toReadsAlike lba buffer
    (Recorder.follows_start drive s)
  have hsame : readRange drive lba buffer s = ⟨o.result, o.buffer, o.device.device⟩ := by
    obtain ⟨hresult, hbuffer, hstates⟩ := halike
    rw [show o.result = _ from hresult, show o.buffer = _ from hbuffer,
      show o.device.device = _ from hstates.device]
  refine ⟨hsame, fun hempty => if_pos hempty, fun hsize => ?_, fun n hn hsize hend => ?_⟩
  · have hfilled : buffer.size ≠ 0 := by omega
    exact (if_neg hfilled).trans (if_pos hsize)
  · have hwhole : buffer.size = (0 + n) * 512 := by rw [hsize, Nat.zero_add]
    refine ⟨cut_pieces 0 n, ?_, fun Inv m hread hs => ?_⟩
    · obtain ⟨calls, hruns, hends, hbuffer⟩ := readPieces_calls drive
        (show lba.toNat = lba.toNat + 0 from rfl) hend hwhole #[] (⟨s, []⟩ : Recorder δ)
      rw [Nat.zero_mul, ← readRange_whole hn hsize] at hruns hends hbuffer
      obtain ⟨hcalls, hruns⟩ := hruns.recorded
      exact ⟨calls, by simpa using hcalls, hruns, hends, by simpa using hbuffer⟩
    · have hplain := readRange_reads hread hend hn hs (Nat.le_refl _) (Nat.le_refl _) hsize
      rw [hsame] at hplain
      have hok : o.result = .ok () := by
        cases hresult : o.result with
        | ok _ => rfl
        | error e => exact (hplain.error e hresult).elim
      obtain ⟨singles, t, hruns, hends, hjoined⟩ :=
        readSingly_calls hread hend (Nat.le_refl _) (Nat.le_refl _) hwhole hs
      rw [← List.range_eq_range'] at hends
      exact ⟨hok, hplain.ok hok, singles, t, hruns, hends, (hplain.ok hok).trans hjoined.symm⟩

/-- A range that was read was read in all its pieces. -/
theorem PlainRead.spans {lba : UInt32} {n : Nat} {buffer : Bytes} {o : ReadOutcome (Recorder δ)}
    (h : PlainRead drive lba n buffer s o) (hok : o.result = .ok ()) :
    ∃ calls : List ReadCall, o.device.calls = calls.map (ReadCall.recorded drive)
      ∧ calls.map ReadCall.span = (pieces 0 n).map fun p => (lba.toNat + p.1, p.2) := by
  obtain ⟨calls, hmade, -, hends, -⟩ := h.calls
  rw [hok] at hends
  have hspans := congrArg (List.map Prod.fst) hends.ok.1
  rw [List.map_map, List.map_map] at hspans
  exact ⟨calls, hmade, hspans⟩

/-- The last 600 sectors that there can be are read in three pieces. -/
theorem readRange_plain_last :
    let o := readRange 0 4294966695 (zeroes (600 * 512))
      (⟨Flaky.blank 0xFFFFFFFF [], []⟩ : Recorder Flaky)
    o.result = .ok () ∧ ∃ calls : List ReadCall, o.device.calls = calls.map (ReadCall.recorded 0)
      ∧ calls.map ReadCall.span
        = [(4294966695, 256), (4294966951, 256), (4294967207, 88)] := by
  have hread : ReadsWithin 0 ((Flaky.calm 0xFFFFFFFF).Holds fun _ => Sector.zero) False
      (fun _ => Sector.zero) 4294966695 4294967295 :=
    (Flaky.calm_faultFree 0xFFFFFFFF 0).serves.read _ fun j _ hj => hj
  have hplain := ((readRange_plain 0 4294966695 (zeroes (600 * 512))
    (Flaky.blank 0xFFFFFFFF [])).2.2.2 600 (by decide) (size_zeroes _) (by decide)).2
  obtain ⟨hok, -⟩ := hplain.singly _ _ hread ⟨⟨rfl, rfl⟩, rfl⟩
  exact ⟨hok, hplain.spans hok⟩

end BlockDevice

end AtaVolume
