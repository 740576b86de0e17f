/-
AtaVolume.Proofs.Ata.Conformance — the driver keeps to the protocol, whatever the
machine answers.

The accesses of each of the driver's calls are read off a traced machine. A call
makes a word of its part of the protocol, or it breaks off: then it has made the
start of a word, and has read the error register if that is what it reports
(`Conforms`). A transfer breaks off only after a poll, so the parts can be put one
after the other (`Conforms.next`, `Conforms.stop`); the results are `run_conforms`
for the calls; by `run_shadows` a machine runs as its traced copy does.
-/
import AtaVolume.Proofs.Ata.Protocol
import AtaVolume.Proofs.Ata.Simulation
import AtaVolume.Proofs.Bus.Reading
import AtaVolume.Proofs.Bus.Writing

namespace AtaVolume

open Protocol Wire

/-! ## §1 Guards -/

section Guards

variable {id : ChannelId} {u v : List Access}

theorem guarded_of_no_data (h : ∀ a ∈ u, a.isData = false) : Guarded id u := by
  intro before a after hu ha
  have hmem : a ∈ u := by simp [hu]
  rw [h a hmem] at ha
  cases ha

theorem Guarded.append (hu : Guarded id u) (hv : Guarded id v) : Guarded id (u ++ v) := by
  intro before a after heq ha
  rcases List.append_eq_append_iff.1 heq with ⟨between, rfl, hv'⟩ | ⟨between, rfl, hafter⟩
  · obtain ⟨earlier, status, burst, rfl, hserves, hlength, hdata⟩ := hv between a after hv' ha
    exact ⟨u ++ earlier, status, burst, by simp, hserves, hlength, hdata⟩
  · cases between with
    | nil =>
      obtain ⟨earlier, status, burst, hnil, -⟩ := hv [] a after (by simpa using hafter.symm) ha
      simp at hnil
    | cons x between =>
      simp only [List.cons_append, List.cons.injEq] at hafter
      obtain ⟨rfl, rfl⟩ := hafter
      exact hu before a between rfl ha

/-- A burst behind a status that asks for data. -/
theorem guarded_burst {status : Access} {burst : List Access} (hu : ∀ a ∈ u, a.isData = false)
    (hserves : status.Serves id) (hlength : burst.length ≤ 256)
    (hdata : ∀ a ∈ burst, a.isData = true) :
    Guarded id (u ++ [status] ++ burst) := by
  have hstatus : status.isData = false := by
    obtain ⟨bits, rfl, -⟩ := hserves
    rfl
  intro before a after heq ha
  rcases List.append_eq_append_iff.1 heq with ⟨between, rfl, hburst⟩ | ⟨between, hbefore, hafter⟩
  · refine ⟨u, status, between, by simp, hserves, ?_, fun x hx => ?_⟩
    · have := congrArg List.length hburst
      simp at this
      omega
    · exact hdata x (by simp [hburst, hx])
  · cases between with
    | nil =>
      rw [List.append_nil] at hbefore
      refine ⟨u, status, [], hbefore.symm, hserves, by decide, fun x hx => ?_⟩
      cases hx
    | cons x between =>
      simp only [List.cons_append, List.cons.injEq] at hafter
      obtain ⟨rfl, -⟩ := hafter
      have hmem : a ∈ u ++ [status] := by simp [hbefore]
      rcases List.mem_append.1 hmem with h | h
      · rw [hu a h] at ha
        cases ha
      · rw [List.mem_singleton.1 h, hstatus] at ha
        cases ha

end Guards

/-! ## §2 Conforming calls -/

/-- The read of the error register that tells a device's error. -/
def told (id : ChannelId) : Option AtaError → List Access
  | some (.deviceError bits) => [.readByte (Register.error.port id) bits]
  | _ => []

theorem told_none (id : ChannelId) : told id none = [] := rfl

/-- An error is told by at most one read of the error register. -/
theorem told_eq_readsOf (id : ChannelId) (e : Option AtaError) :
    ∃ errors, errors.length ≤ 1 ∧ told id e = readsOf id .error errors := by
  unfold told
  split
  case h_1 bits => exact ⟨[bits], Nat.le_refl 1, rfl⟩
  case h_2 => exact ⟨[], Nat.zero_le 1, rfl⟩

variable {σ : Type} {id : ChannelId} {p : Position} {L M : Language Access}
  {s t v : Traced σ}

/-- From `s` on a call that ended with `e` has made accesses as the protocol says, up
to `t`. -/
structure Conforms (id : ChannelId) (L : Language Access) (s : Traced σ) (e : Option AtaError)
    (t : Traced σ) (u : List Access) : Prop where
  trace : t.accesses.toList = s.accesses.toList ++ (u ++ told id e)
  begun : ∃ w ∈ L, u <+: w
  ended : e = none → u ∈ L
  guarded : Guarded id u

/-- A word of the protocol, whether the call reports an error behind it or not. -/
theorem Conforms.word {u : List Access} {e : Option AtaError}
    (htrace : t.accesses.toList = s.accesses.toList ++ (u ++ told id e)) (hu : u ∈ L)
    (hguarded : Guarded id u) : Conforms id L s e t u where
  trace := htrace
  begun := ⟨u, hu, List.prefix_refl u⟩
  ended _ := hu
  guarded := hguarded

/-- A part that goes well. -/
theorem Conforms.whole {u : List Access} (htrace : t.accesses.toList = s.accesses.toList ++ u)
    (hu : u ∈ L) (hguarded : Guarded id u) : Conforms id L s none t u :=
  .word (by rw [htrace, told_none, List.append_nil]) hu hguarded

/-- The next part of a protocol. -/
theorem Conforms.next {u w : List Access} {e : Option AtaError} (h : Conforms id L s none t u)
    (h' : Conforms id M t e v w) : Conforms id (L * M) s e v (u ++ w) where
  trace := by
    rw [h'.trace, h.trace, told_none, List.append_nil]
    simp only [List.append_assoc]
  begun := by
    obtain ⟨x, hx, hbegun⟩ := h'.begun
    exact ⟨u ++ x, Language.append_mem_mul (h.ended rfl) hx,
      (List.prefix_append_right_inj u).2 hbegun⟩
  ended he := Language.append_mem_mul (h.ended rfl) (h'.ended he)
  guarded := h.guarded.append h'.guarded

/-- A part that breaks off ends the whole. -/
theorem Conforms.stop {u : List Access} {e : AtaError} (h : Conforms id L s (some e) t u)
    (hM : ∃ w, w ∈ M) : Conforms id (L * M) s (some e) t u where
  trace := h.trace
  begun := by
    obtain ⟨x, hx, hbegun⟩ := h.begun
    obtain ⟨w, hw⟩ := hM
    exact ⟨x ++ w, Language.append_mem_mul hx hw, hbegun.trans (List.prefix_append x w)⟩
  ended he := nomatch he
  guarded := h.guarded

variable [PortSpace σ]

/-! ## §3 Polls -/

theorem readRegister_traced (id : ChannelId) (r : Register) (s : Traced σ) :
    (readRegister id r s).2.accesses.toList
      = s.accesses.toList ++ readsOf id r [(readRegister id r s).1] := by
  obtain ⟨machine, accesses⟩ := s
  exact Array.toList_push

theorem settle_traced (id : ChannelId) (n : Nat) (s : Traced σ) :
    ∃ bits : List UInt8, bits.length = n
      ∧ (settle id n s).accesses.toList = s.accesses.toList ++ readsOf id .control bits := by
  induction n generalizing s with
  | zero => exact ⟨[], rfl, (List.append_nil _).symm⟩
  | succ n ih =>
    obtain ⟨bits, hlength, hbits⟩ := ih (readRegister id .control s).2
    refine ⟨(readRegister id .control s).1 :: bits, by rw [List.length_cons, hlength], ?_⟩
    rw [readRegister_traced, List.append_assoc] at hbits
    exact hbits

/-- How the reads of the status end: with one that is not busy, or with the budget. -/
theorem waitNotBusy_traced (id : ChannelId) (reads : Nat) (s : Traced σ) :
    (∃ busy last t, waitNotBusy id reads s = .ok ⟨last⟩ t ∧ busy.length < reads
        ∧ (∀ bits ∈ busy, (Status.mk bits).busy = true) ∧ (Status.mk last).busy = false
        ∧ t.accesses.toList = s.accesses.toList ++ readsOf id .command (busy ++ [last]))
      ∨ ∃ busy t, waitNotBusy id reads s = .error .timeout t ∧ busy.length = reads
        ∧ (∀ bits ∈ busy, (Status.mk bits).busy = true)
        ∧ t.accesses.toList = s.accesses.toList ++ readsOf id .command busy := by
  induction reads generalizing s with
  | zero =>
    refine .inr ⟨[], s, waitNotBusy_zero id s, rfl, fun bits h => ?_, (List.append_nil _).symm⟩
    cases h
  | succ reads ih =>
    have hread := readRegister_traced id .command s
    rw [waitNotBusy_succ]
    cases hbusy : (Status.mk (readRegister id .command s).1).busy with
    | false =>
      refine .inl ⟨[], _, _, rfl, Nat.succ_pos reads, fun bits h => ?_, hbusy, hread⟩
      cases h
    | true =>
      simp only [if_true]
      obtain ⟨busy, last, t, ht, hlength, hall, hlast, htrace⟩
          | ⟨busy, t, ht, hlength, hall, htrace⟩ :=
        ih (readRegister id .command s).2
      · refine .inl ⟨(readRegister id .command s).1 :: busy, last, t, ht, ?_, ?_, hlast, ?_⟩
        · simpa using hlength
        · simpa [hbusy] using hall
        · rw [htrace, hread, List.append_assoc]
          rfl
      · refine .inr ⟨(readRegister id .command s).1 :: busy, t, ht, ?_, ?_, ?_⟩
        · simpa using hlength
        · simpa [hbusy] using hall
        · rw [htrace, hread, List.append_assoc]
          rfl

/-- A status that is not busy is judged; only an error makes the driver read on. -/
theorem judge_traced (id : ChannelId) (status : Status) (s : Traced σ) :
    ∃ e t, judge id status s = ended e t
      ∧ t.accesses.toList = s.accesses.toList ++ told id e
      ∧ (e = none → status.failed = false ∧ status.deviceFault = false
        ∧ status.dataRequest = true) := by
  unfold judge
  cases hfailed : status.failed with
  | true =>
    refine ⟨some (.deviceError (readRegister id .error s).1), (readRegister id .error s).2, rfl, ?_,
      fun h => nomatch h⟩
    exact readRegister_traced id .error s
  | false =>
    cases hfault : status.deviceFault with
    | true => exact ⟨some .deviceFault, s, rfl, (List.append_nil _).symm, fun h => nomatch h⟩
    | false =>
      cases hdue : status.dataRequest with
      | false => exact ⟨some .noDataRequest, s, rfl, (List.append_nil _).symm, fun h => nomatch h⟩
      | true => exact ⟨none, s, rfl, (List.append_nil _).symm, fun _ => ⟨rfl, rfl, rfl⟩⟩

theorem readsOf_append (id : ChannelId) (r : Register) (bits more : List UInt8) :
    readsOf id r (bits ++ more) = readsOf id r bits ++ readsOf id r more :=
  List.map_append

theorem isData_readsOf {r : Register} {bits : List UInt8} {a : Access}
    (h : a ∈ readsOf id r bits) : a.isData = false := by
  obtain ⟨b, -, rfl⟩ := List.mem_map.1 h
  rfl

theorem exists_last {bits : List UInt8} {n : Nat} (h : bits.length = n + 1) :
    ∃ front last, bits = front ++ [last] ∧ front.length = n := by
  have hne : bits ≠ [] := by
    rintro rfl
    cases h
  refine ⟨bits.dropLast, bits.getLast hne, (List.dropLast_append_getLast hne).symm, ?_⟩
  rw [List.length_dropLast, h, Nat.add_sub_cancel]

/-- **A poll is one of the protocol.** If it goes well and a transfer is due, its last
read of the status asks for data. -/
theorem pollStatus_conforms (id : ChannelId) (budget : UInt32) (transfer : Bool) (s : Traced σ) :
    ∃ e t u, pollStatus budget id transfer s = ended e t
      ∧ Conforms id (poll budget id) s e t u ∧ (∀ a ∈ u, a.isData = false)
      ∧ (e = none → transfer = true →
        ∃ earlier status, u = earlier ++ [status] ∧ status.Serves id) := by
  obtain ⟨settled, hsettled, hsettle⟩ := settle_traced id 4 s
  rw [pollStatus_eq]
  have hword : ∀ busy last, busy.length ≤ budget.toNat →
      (∀ bits ∈ busy, (Status.mk bits).busy = true) →
      readsOf id .control settled ++ readsOf id .command (busy ++ [last]) ∈ poll budget id := by
    intro busy last hlength hbusy
    exact Language.append_mem_mul ⟨settled, hsettled, rfl⟩ ⟨busy, last, hlength, hbusy, rfl⟩
  have hquiet : ∀ bits, ∀ a ∈ readsOf id .control settled ++ readsOf id .command bits,
      a.isData = false := by
    intro bits a ha
    rcases List.mem_append.1 ha with h | h <;> exact isData_readsOf h
  obtain ⟨busy, last, t, ht, hlength, hbusy, hlast, htrace⟩
      | ⟨busy, t, ht, hlength, hbusy, htrace⟩ :=
    waitNotBusy_traced id (budget.toNat + 1) (settle id 4 s)
  · rw [hsettle, List.append_assoc] at htrace
    have hmem := hword busy last (by omega) hbusy
    have hguarded :
        Guarded id (readsOf id .control settled ++ readsOf id .command (busy ++ [last])) :=
      guarded_of_no_data (hquiet _)
    rw [ht]
    cases transfer with
    | false => exact ⟨none, t, _, rfl, .whole htrace hmem hguarded, hquiet _, fun _ h => nomatch h⟩
    | true =>
      obtain ⟨e, t', hjudge, htold, hdue⟩ := judge_traced id ⟨last⟩ t
      refine ⟨e, t', _, hjudge, ⟨?_, ⟨_, hmem, List.prefix_refl _⟩, fun _ => hmem, hguarded⟩,
        hquiet _, fun he _ => ?_⟩
      · rw [htold, htrace, List.append_assoc]
      · obtain ⟨hfailed, hfault, hrequest⟩ := hdue he
        refine ⟨readsOf id .control settled ++ readsOf id .command busy,
          .readByte (Register.command.port id) last, ?_, last, rfl, hlast, hfailed, hfault,
          hrequest⟩
        rw [readsOf_append, List.append_assoc]
        rfl
  · -- the last busy answer is the last read of the word
    obtain ⟨front, last, rfl, hfront⟩ := exists_last hlength
    rw [hsettle, List.append_assoc] at htrace
    have hmem := hword front last (by omega) fun bits h => hbusy bits (List.mem_append_left _ h)
    rw [ht]
    refine ⟨some .timeout, t, _, rfl, ⟨?_, ⟨_, hmem, List.prefix_refl _⟩, fun _ => hmem,
      guarded_of_no_data (hquiet _)⟩, hquiet _, fun h => nomatch h⟩
    exact htrace.trans (congrArg _ (List.append_nil _).symm)

/-! ## §4 Sectors -/

/-- The words of a sector, as they are put behind what was received before. -/
theorem readWords_received (id : ChannelId) (n : Nat) (acc : Bytes) (s : Traced σ) :
    ∃ words : List UInt16, words.length = n
      ∧ (readWords (Register.data.port id) n acc s).1
        = acc ++ (words.flatMap LittleEndian.le16).toArray
      ∧ (readWords (Register.data.port id) n acc s).2.accesses.toList
        = s.accesses.toList ++ words.map (.readWord (Register.data.port id)) := by
  induction n generalizing acc s with
  | zero => exact ⟨[], rfl, Array.append_empty.symm, (List.append_nil _).symm⟩
  | succ n ih =>
    have hword : (PortSpace.readWord (Register.data.port id) s).2.accesses.toList
        = s.accesses.toList ++ [.readWord (Register.data.port id)
            (PortSpace.readWord (Register.data.port id) s).1] := by
      obtain ⟨machine, accesses⟩ := s
      exact Array.toList_push
    unfold readWords
    generalize PortSpace.readWord (Register.data.port id) s = r at hword
    obtain ⟨words, hlength, hbytes, htrace⟩ :=
      ih ((acc.push r.1.toUInt8).push (r.1 >>> 8).toUInt8) r.2
    refine ⟨r.1 :: words, by rw [List.length_cons, hlength], hbytes.trans ?_, ?_⟩
    · rw [← Array.toList_inj]
      simp [LittleEndian.le16]
    · rw [hword, List.append_assoc] at htrace
      exact htrace

theorem readWords_traced (id : ChannelId) (n : Nat) (acc : Bytes) (s : Traced σ) :
    ∃ words : List UInt16, words.length = n
      ∧ (readWords (Register.data.port id) n acc s).2.accesses.toList
        = s.accesses.toList ++ words.map (.readWord (Register.data.port id)) := by
  obtain ⟨words, hlength, -, htrace⟩ := readWords_received id n acc s
  exact ⟨words, hlength, htrace⟩

theorem writeWords_traced (id : ChannelId) (data : Bytes) (n i : Nat) (s : Traced σ) :
    (writeWords (Register.data.port id) data n i s).accesses.toList
      = s.accesses.toList ++ writesOf id data n i := by
  induction n generalizing i s with
  | zero => exact (List.append_nil _).symm
  | succ n ih =>
    have hword : (PortSpace.writeWord (Register.data.port id)
          (LittleEndian.word16 data i) s).accesses.toList
        = s.accesses.toList
          ++ [.writeWord (Register.data.port id) (LittleEndian.word16 data i)] := by
      obtain ⟨machine, accesses⟩ := s
      exact Array.toList_push
    have hnext : writesOf id data (n + 1) i
        = [.writeWord (Register.data.port id) (LittleEndian.word16 data i)]
          ++ writesOf id data n (i + 2) := by
      unfold writesOf
      rw [List.range_succ_eq_map, List.map_cons, List.map_map, List.singleton_append]
      congr 1
      refine List.map_congr_left fun k _ => ?_
      simp only [Function.comp, Nat.mul_succ, Nat.add_assoc, Nat.add_comm 2]
    unfold writeWords
    rw [ih, hword, List.append_assoc, hnext]

theorem isData_writesOf {data : Bytes} {n i : Nat} {a : Access} (h : a ∈ writesOf id data n i) :
    a.isData = true := by
  obtain ⟨k, -, rfl⟩ := List.mem_map.1 h
  rfl

theorem length_writesOf (id : ChannelId) (data : Bytes) (n i : Nat) :
    (writesOf id data n i).length = n := by
  rw [writesOf, List.length_map, List.length_range]

theorem mem_sent (id : ChannelId) (data : Bytes) (i : Nat) :
    writesOf id data 256 i ∈ sent id data i := rfl

omit [PortSpace σ] in
/-- A sector behind a poll that asks for it. -/
theorem Conforms.sector {budget : UInt32} {u burst : List Access}
    (h : Conforms id (poll budget id) s none t u) (hquiet : ∀ a ∈ u, a.isData = false)
    (hserves : ∃ earlier status, u = earlier ++ [status] ∧ status.Serves id)
    (htrace : v.accesses.toList = t.accesses.toList ++ burst) (hmem : burst ∈ L)
    (hlength : burst.length = 256) (hdata : ∀ a ∈ burst, a.isData = true) :
    Conforms id (poll budget id * L) s none v (u ++ burst) := by
  have htrace' := h.trace
  rw [told_none, List.append_nil] at htrace'
  refine .whole (by rw [htrace, htrace', List.append_assoc])
    (Language.append_mem_mul (h.ended rfl) hmem) ?_
  obtain ⟨earlier, status, rfl, hs⟩ := hserves
  exact guarded_burst (fun a ha => hquiet a (List.mem_append_left _ ha)) hs (by omega) hdata

theorem exists_mem_mul (hL : ∃ w, w ∈ L) (hM : ∃ w, w ∈ M) : ∃ w, w ∈ L * M := by
  obtain ⟨u, hu⟩ := hL
  obtain ⟨w, hw⟩ := hM
  exact ⟨u ++ w, Language.append_mem_mul hu hw⟩

theorem exists_mem_poll (budget : UInt32) (id : ChannelId) : ∃ w, w ∈ poll budget id :=
  exists_mem_mul ⟨_, [0, 0, 0, 0], rfl, rfl⟩
    ⟨_, [], 0, Nat.zero_le _, fun _ h => (List.not_mem_nil h).elim, rfl⟩

theorem exists_mem_received (id : ChannelId) : ∃ w, w ∈ received id :=
  ⟨_, List.replicate 256 0, List.length_replicate, rfl⟩

theorem exists_mem_receiving (budget : UInt32) (id : ChannelId) (n : Nat) :
    ∃ w, w ∈ (poll budget id * received id) ^ n := by
  induction n with
  | zero => exact ⟨[], rfl⟩
  | succ n ih =>
    rw [pow_succ]
    exact exists_mem_mul ih (exists_mem_mul (exists_mem_poll budget id) (exists_mem_received id))

theorem exists_mem_sending (budget : UInt32) (id : ChannelId) (data : Bytes) (n i : Nat) :
    ∃ w, w ∈ sending budget id data n i := by
  induction n generalizing i with
  | zero => exact ⟨[], rfl⟩
  | succ n ih =>
    exact exists_mem_mul (exists_mem_mul (exists_mem_poll budget id) ⟨_, mem_sent id data i⟩) (ih _)

theorem mem_storing (id : ChannelId) :
    [.writeByte (Register.command.port id) cmdFlushCache] ∈ storing id := rfl

theorem exists_mem_flush (budget : UInt32) (id : ChannelId) : ∃ w, w ∈ flush budget id := by
  have hlooking : ∃ w, w ∈ looking id := ⟨_, 0, rfl⟩
  exact exists_mem_mul (exists_mem_mul ⟨_, mem_storing id⟩ (exists_mem_poll budget id)) hlooking

/-- The sectors of a read. -/
theorem receive_conforms (budget : UInt32) (id : ChannelId) (n : Nat) (acc : Bytes)
    (s : Traced σ) :
    ∃ e t u, (receive budget id n acc s).2.2 = t
      ∧ (receive budget id n acc s).1 = (match e with | none => .ok () | some e => .error e)
      ∧ Conforms id ((poll budget id * received id) ^ n) s e t u := by
  induction n generalizing acc s with
  | zero =>
    exact ⟨none, s, [], rfl, rfl, .whole (List.append_nil _).symm rfl
      (guarded_of_no_data fun a h => (List.not_mem_nil h).elim)⟩
  | succ n ih =>
    obtain ⟨e, t, u, hpoll, hconforms, hquiet, hserves⟩ := pollStatus_conforms id budget true s
    rw [receive_succ, hpoll, pow_succ']
    cases e with
    | some e =>
      exact ⟨some e, t, u, rfl, rfl, (hconforms.stop (exists_mem_received id)).stop
        (exists_mem_receiving budget id n)⟩
    | none =>
      obtain ⟨words, hlength, htrace⟩ := readWords_traced id 256 acc t
      have hmem : words.map (.readWord (Register.data.port id)) ∈ received id :=
        ⟨words, hlength, rfl⟩
      have hdata : ∀ a ∈ words.map (Access.readWord (Register.data.port id)), a.isData = true := by
        intro a ha
        obtain ⟨x, -, rfl⟩ := List.mem_map.1 ha
        rfl
      have hsector := hconforms.sector (v := (readSectorData id acc t).2) hquiet (hserves rfl rfl)
        htrace hmem (by rw [List.length_map, hlength]) hdata
      obtain ⟨e, t', u', ht', he, hrest⟩ :=
        ih (readSectorData id acc t).1 (readSectorData id acc t).2
      simp only [ended]
      exact ⟨e, t', _, ht', he, hsector.next hrest⟩

/-- The sectors of a write command. -/
theorem send_conforms (budget : UInt32) (id : ChannelId) (data : Bytes) (n i : Nat)
    (s : Traced σ) :
    ∃ e t u, send budget id data n i s = ended e t
      ∧ Conforms id (sending budget id data n i) s e t u := by
  induction n generalizing i s with
  | zero =>
    exact ⟨none, s, [], rfl, .whole (List.append_nil _).symm rfl
      (guarded_of_no_data fun a h => (List.not_mem_nil h).elim)⟩
  | succ n ih =>
    obtain ⟨e, t, u, hpoll, hconforms, hquiet, hserves⟩ := pollStatus_conforms id budget true s
    rw [send_succ, hpoll]
    cases e with
    | some e =>
      exact ⟨some e, t, u, rfl, (hconforms.stop ⟨_, mem_sent id data i⟩).stop
        (exists_mem_sending budget id data n _)⟩
    | none =>
      have htrace : (writeSectorData id data i t).accesses.toList
          = t.accesses.toList ++ writesOf id data 256 i := by
        unfold writeSectorData
        exact writeWords_traced id data sectorWords i t
      have hsector := hconforms.sector hquiet (hserves rfl rfl) htrace (mem_sent id data i)
        (length_writesOf id data 256 i) fun a => isData_writesOf
      obtain ⟨e, t', u', ht', hrest⟩ := ih (i + 512) (writeSectorData id data i t)
      exact ⟨e, t', _, ht', hsector.next hrest⟩

/-! ## §5 Commands -/

theorem writeRegister_traced (id : ChannelId) (r : Register) (value : UInt8) (s : Traced σ) :
    (writeRegister id r value s).accesses.toList
      = s.accesses.toList ++ [.writeByte (r.port id) value] := by
  obtain ⟨machine, accesses⟩ := s
  exact Array.toList_push

/-- A flush is one of the protocol, also one that reports an error. -/
theorem flushCache_conforms (budget : UInt32) (id : ChannelId) (s : Traced σ) :
    ∃ e t u, flushCache budget id s = ended e t ∧ Conforms id (flush budget id) s e t u := by
  have hstoring : Conforms id (storing id) s none (writeRegister id .command cmdFlushCache s)
      [.writeByte (Register.command.port id) cmdFlushCache] := by
    refine .whole (writeRegister_traced id .command cmdFlushCache s) (mem_storing id)
      (guarded_of_no_data fun a ha => ?_)
    rw [List.mem_singleton.1 ha]
    rfl
  obtain ⟨e, t, u, hpoll, hconforms, -, -⟩ := pollStatus_conforms id budget false
    (writeRegister id .command cmdFlushCache s)
  rw [flushCache_eq, hpoll]
  have hlooking : ∀ bits, readsOf id .command [bits] ∈ looking id := fun bits => ⟨bits, rfl⟩
  cases e with
  | some e => exact ⟨some e, t, _, rfl, (hstoring.next hconforms).stop ⟨_, hlooking 0⟩⟩
  | none =>
    have hread := readRegister_traced id .command t
    have hquiet : Guarded id (readsOf id .command [(readRegister id .command t).1]) :=
      guarded_of_no_data fun a => isData_readsOf
    simp only [ended]
    -- the status after the poll decides how the flush ends
    cases hfailed : (Status.mk (readRegister id .command t).1).failed with
    | true =>
      have herror := readRegister_traced id .error (readRegister id .command t).2
      rw [if_pos rfl, throwDeviceError_eq]
      refine ⟨some _, _, _, rfl, (hstoring.next hconforms).next (.word ?_ (hlooking _) hquiet)⟩
      rw [herror, hread, List.append_assoc]
      rfl
    | false =>
      rw [if_neg (by decide)]
      cases hfault : (Status.mk (readRegister id .command t).1).deviceFault with
      | true =>
        rw [if_pos rfl]
        refine ⟨some .deviceFault, _, _, rfl,
          (hstoring.next hconforms).next (.word ?_ (hlooking _) hquiet)⟩
        exact hread.trans (congrArg _ (List.append_nil _).symm)
      | false =>
        rw [if_neg (by decide)]
        exact ⟨none, _, _, rfl, (hstoring.next hconforms).next (.whole hread (hlooking _) hquiet)⟩

/-- The registers of a command, as a device reads them. -/
theorem select_head (p : Position) {head : UInt8} (h : head.toNat < 16) :
    (selectLba ||| (p.number <<< 4) ||| head) &&& 0xE0 = selectLba := by
  have hall : ∀ k : Fin 16, ∀ p : Position,
      (selectLba ||| (p.number <<< 4) ||| UInt8.ofNat k.val) &&& 0xE0 = selectLba := by
    intro k p
    cases p <;> revert k <;> decide
  have := hall ⟨head.toNat, h⟩ p
  rwa [UInt8.ofNat_toNat] at this

/-- The accesses that issue a command. -/
def issued (id : ChannelId) (p : Position) (lba : UInt32) (n : Nat) (value : UInt8) : List Access :=
  [.writeByte (Register.deviceSelect.port id) (selectLba ||| (p.number <<< 4) ||| lbaHead lba),
    .wait 1, .writeByte (Register.sectorCount.port id) (UInt8.ofNat n),
    .writeByte (Register.lbaLow.port id) lba.toUInt8,
    .writeByte (Register.lbaMid.port id) (lba >>> 8).toUInt8,
    .writeByte (Register.lbaHigh.port id) (lba >>> 16).toUInt8,
    .writeByte (Register.command.port id) value]

/-- **They name the device, its first sector and the count.** -/
theorem issued_mem_command (id : ChannelId) (p : Position) {lba : UInt32} {n : Nat}
    (hlimit : inLba28 lba n = true) (hpos : 1 ≤ n) (hn : n ≤ 256) (value : UInt8) :
    issued id p lba n value ∈ command id p lba n value := by
  have hlba : lba.toNat < 2 ^ 28 := by
    have hend : lba.toNat + n ≤ 2 ^ 28 := of_decide_eq_true hlimit
    omega
  exact ⟨TaskFile.addressed {} p lba n, TaskFile.targetLba_addressed {} p hlba n,
    TaskFile.targetCount_addressed {} p lba hpos hn, select_head p (TaskFile.lbaHead_lt lba),
    (TaskFile.select_bits p (TaskFile.lbaHead_lt lba)).2, rfl⟩

theorem issue_conforms (id : ChannelId) (p : Position) {lba : UInt32} {n : Nat}
    (hlimit : inLba28 lba n = true) (hpos : 1 ≤ n) (hn : n ≤ 256) (value : UInt8)
    {s t : Traced σ} (hs : t.accesses = s.accesses) :
    Conforms id (command id p lba n value) s none (issue id p lba n value t)
      (issued id p lba n value) := by
  refine .whole ?_ (issued_mem_command id p hlimit hpos hn value)
    (guarded_of_no_data fun a ha => ?_)
  · rw [← hs]
    obtain ⟨machine, accesses⟩ := t
    simp only [issue, select, writeRegister, PortSpace.writeByte, PortSpace.wait,
      Array.toList_push, List.append_assoc]
    rfl
  · simp only [issued, List.mem_cons, List.not_mem_nil, or_false] at ha
    rcases ha with rfl | rfl | rfl | rfl | rfl | rfl | rfl <;> rfl

/-- One command of a write. -/
theorem writeCommand_conforms (budget : UInt32) (id : ChannelId) (p : Position) (drive : UInt8)
    (data : Bytes) {lba : UInt32} {n : Nat} (hlimit : inLba28 lba n = true) (hpos : 1 ≤ n)
    (hn : n ≤ 256) (i : Nat) (s : Traced σ) :
    ∃ e t u, writeCommand budget id p drive data lba n i s = ended e t
      ∧ Conforms id (writingOnce budget id p data lba n i) s e t u := by
  have hissue := issue_conforms id p hlimit hpos hn cmdWriteSectors (s := s)
    (t := PortSpace.note (.trace s!"write drive {drive} lba {lba} count {n}") s) rfl
  rw [writeCommand_eq, if_pos hlimit]
  obtain ⟨e, t, u, hsend, hsent⟩ := send_conforms budget id data n i
    (issue id p lba n cmdWriteSectors
      (PortSpace.note (.trace s!"write drive {drive} lba {lba} count {n}") s))
  rw [hsend]
  cases e with
  | some e => exact ⟨some e, t, _, rfl, (hissue.next hsent).stop (exists_mem_flush budget id)⟩
  | none =>
    obtain ⟨e, t', u', hflush, hflushed⟩ := flushCache_conforms budget id t
    exact ⟨e, t', _, hflush, (hissue.next hsent).next hflushed⟩

theorem exists_mem_writing (budget : UInt32) (id : ChannelId) (p : Position) (data : Bytes)
    (lba : UInt32) (n i : Nat) :
    ∃ w, w ∈ writing budget id p data (addressable (chunks lba n i)) := by
  induction n using Nat.strongRecOn generalizing lba i with
  | ind n ih =>
    by_cases hzero : n = 0
    · subst hzero
      rw [chunks_zero]
      exact ⟨[], rfl⟩
    · have hfewer : n - min n 256 < n := by omega
      rw [chunks_pos lba hzero, addressable_cons]
      cases hlimit : inLba28 lba (min n 256) with
      | false =>
        rw [if_neg (by simp)]
        exact ⟨[], rfl⟩
      | true =>
        rw [if_pos rfl]
        have hissued := issued_mem_command id p hlimit (show 1 ≤ min n 256 by omega)
          (Nat.min_le_right n 256) cmdWriteSectors
        exact exists_mem_mul (exists_mem_mul (exists_mem_mul ⟨_, hissued⟩
          (exists_mem_sending budget id data _ i)) (exists_mem_flush budget id)) (ih _ hfewer _ _)

/-- **A write makes its commands**, as far as 28 bits address them, and all of them if
it goes well. -/
theorem writeCommands_conforms (budget : UInt32) (id : ChannelId) (p : Position) (drive : UInt8)
    (data : Bytes) (lba : UInt32) (n i : Nat) (s : Traced σ) :
    ∃ e t u, writeCommands budget id p drive data lba n i s = ended e t
      ∧ Conforms id (writing budget id p data (addressable (chunks lba n i))) s e t u
      ∧ (e = none → u ∈ writing budget id p data (chunks lba n i)) := by
  induction n using Nat.strongRecOn generalizing lba i s with
  | ind n ih =>
    have hnothing : ∀ e, told id e = [] → Conforms id 1 s e s [] := by
      intro e he
      refine .word (by rw [he, List.append_nil, List.append_nil]) rfl
        (guarded_of_no_data fun a h => ?_)
      cases h
    by_cases hzero : n = 0
    · subst hzero
      rw [chunks_zero]
      exact ⟨none, s, [], writeCommands_zero .., hnothing none rfl, fun _ => rfl⟩
    · have hfewer : n - min n 256 < n := by omega
      rw [chunks_pos lba hzero, addressable_cons, writeCommands_pos _ _ _ _ _ _ hzero]
      cases hlimit : inLba28 lba (min n 256) with
      | false =>
        rw [if_neg (by simp)]
        refine ⟨some (.lba28Limit lba), s, [], ?_, hnothing _ rfl, fun h => nomatch h⟩
        rw [writeCommand_eq, hlimit]
        rfl
      | true =>
        rw [if_pos rfl]
        obtain ⟨e, t, u, hfirst, hconforms⟩ := writeCommand_conforms budget id p drive data hlimit
          (show 1 ≤ min n 256 by omega) (Nat.min_le_right n 256) i s
        rw [hfirst]
        cases e with
        | some e =>
          exact ⟨some e, t, _, rfl, hconforms.stop (exists_mem_writing budget id p data _ _ _),
            fun h => nomatch h⟩
        | none =>
          obtain ⟨e, t', u', hrest, hconforms', hall⟩ := ih _ hfewer
            (lba + UInt32.ofNat (min n 256)) (i + min n 256 * 512) t
          exact ⟨e, t', _, hrest, hconforms.next hconforms',
            fun he => Language.append_mem_mul (hconforms.ended rfl) (hall he)⟩

/-! ## §6 Transfers -/

/-- A call of the driver on sectors. -/
inductive Transfer
  | read (count : UInt16) (lba : UInt32) (buffer : Bytes)
  | write (lba : UInt32) (data : Bytes)

namespace Transfer

/-- Where the transfer goes, if it passes the checks of its arguments. -/
def route (c : Controller) (drive : UInt8) : Transfer → Except AtaError (ChannelId × Position)
  | .read count lba buffer => c.routeRead drive count.toNat lba buffer.size
  | .write _ data => c.routeWrite drive data.size

/-- The protocol of the whole transfer. -/
def protocol (budget : UInt32) (id : ChannelId) (p : Position) : Transfer → Language Access
  | .read count lba _ => reading budget id p lba count.toNat
  | .write lba data => writing budget id p data (chunks lba (data.size / sectorSize) 0)

/-- The protocol of the part of it that 28 bits address. -/
def reachable (budget : UInt32) (id : ChannelId) (p : Position) : Transfer → Language Access
  | .read count lba _ => reading budget id p lba count.toNat
  | .write lba data =>
    writing budget id p data (addressable (chunks lba (data.size / sectorSize) 0))

/-- Makes the transfer: the error that it ends with, and the machine after it. -/
def run {σ : Type} [PortSpace σ] (c : Controller) (drive : UInt8) :
    Transfer → σ → Option AtaError × σ
  | .read count lba buffer, s =>
    match c.readSectors drive count lba buffer s with
    | ⟨.ok _, _, s⟩ => (none, s)
    | ⟨.error e, _, s⟩ => (some e, s)
  | .write lba data, s =>
    match c.writeSectors drive lba data s with
    | .ok _ s => (none, s)
    | .error e s => (some e, s)

end Transfer

/-- A machine and its traced copy. -/
def Shadows (s : σ) (t : Traced σ) : Prop := t.machine = s

/-- Tracing a machine does not change what the driver does. -/
theorem shadows_commands (id : ChannelId) (p : Position) :
    CommandsAlike id p (Shadows (σ := σ)) Shadows Shadows where
  note := by rintro report s t rfl; rfl
  startRead := by rintro lba n s t - - - rfl; rfl
  reads := by rintro r - s t rfl; exact ⟨rfl, rfl⟩
  words := by rintro s t rfl; exact ⟨rfl, rfl⟩
  endRead _ _ h := h
  startWrite := by rintro lba n s t - - - rfl; rfl
  writes := by rintro r - s t rfl; exact ⟨rfl, rfl⟩
  sent := by rintro w s t rfl; rfl
  flush := by rintro s t rfl; rfl
  endWrite _ _ h := h

namespace Transfer

variable {c : Controller} {drive : UInt8}

theorem run_shadows (transfer : Transfer) (h : transfer.route c drive = .ok (id, p)) {s : σ}
    {t : Traced σ} (hs : Shadows s t) :
    (transfer.run c drive s).1 = (transfer.run c drive t).1
      ∧ Shadows (transfer.run c drive s).2 (transfer.run c drive t).2 := by
  cases transfer with
  | read count lba buffer =>
    obtain ⟨⟨identity, hfind⟩, -⟩ := Controller.routeRead_ok h
    obtain ⟨result, bytes, s', t', hs', ht', states⟩ := (Controller.readSectors_alike hfind
      (shadows_commands id p).toReadCommandsAlike count lba buffer hs).cases_eq
    simp only [run, hs', ht']
    cases result with
    | ok _ => exact ⟨rfl, states⟩
    | error e => exact ⟨rfl, states⟩
  | write lba data =>
    obtain ⟨⟨identity, hfind⟩, -⟩ := Controller.routeWrite_ok h
    obtain ⟨_, s', t', hs', ht', states⟩ | ⟨e, s', t', hs', ht', states⟩ :=
      (Controller.writeSectors_alike hfind (shadows_commands id p) lba data s t hs).cases_eq
    · simp only [run, hs', ht', states, and_self]
    · simp only [run, hs', ht', states, and_self]

theorem run_traced (transfer : Transfer) (h : transfer.route c drive = .ok (id, p))
    (s : Traced σ) :
    ∃ e t u, transfer.run c drive s = (e, t)
      ∧ Conforms id (transfer.reachable c.pollBudget id p) s e t u
      ∧ (e = none → u ∈ transfer.protocol c.pollBudget id p) := by
  cases transfer with
  | read count lba buffer =>
    obtain ⟨-, hpos, hcount, -, hlimit⟩ := Controller.routeRead_ok h
    have hroute : c.routeRead drive count.toNat lba buffer.size = .ok (id, p) := h
    have hissue := issue_conforms id p hlimit hpos hcount cmdReadSectors (s := s)
      (t := PortSpace.note (.trace s!"read drive {drive} lba {lba} count {count.toNat}") s) rfl
    obtain ⟨e, t, u, ht, he, hreceived⟩ := receive_conforms c.pollBudget id count.toNat
      (Array.emptyWithCapacity (count.toNat * sectorSize))
      (issue id p lba count.toNat cmdReadSectors
        (PortSpace.note (.trace s!"read drive {drive} lba {lba} count {count.toNat}") s))
    have hrun := hissue.next hreceived
    refine ⟨e, t, _, ?_, hrun, hrun.ended⟩
    simp only [run, Controller.readSectors, hroute, he, ht]
    cases e <;> rfl
  | write lba data =>
    have hroute : c.routeWrite drive data.size = .ok (id, p) := h
    obtain ⟨⟨identity, hfind⟩, hpos, hsize⟩ := Controller.routeWrite_ok h
    obtain ⟨e, t, u, hresult, hconforms, hall⟩ := writeCommands_conforms c.pollBudget id p drive
      data lba (data.size / sectorSize) 0 s
    simp only [run, Controller.writeSectors_eq hfind hpos hsize]
    have hresult' : writeCommands c.pollBudget id p drive data lba (data.size / 512) 0 s
      = ended e t := hresult
    rw [hresult']
    cases e with
    | some e => exact ⟨some e, t, u, rfl, hconforms, hall⟩
    | none => exact ⟨none, _, u, rfl, ⟨hconforms.trace, hconforms.begun, hconforms.ended,
        hconforms.guarded⟩, hall⟩

theorem stays_reachable (transfer : Transfer) (budget : UInt32) (id : ChannelId) (p : Position) :
    Stays id (transfer.reachable budget id p) := by
  cases transfer with
  | read count lba buffer => exact stays_reading budget p lba count.toNat
  | write lba data => exact stays_writing budget p data _

/-- **The driver keeps to the protocol, whatever the machine answers.** A transfer that
passes the checks of its arguments makes the accesses of a part of the protocol, all
of it if it goes well, and reads the error register behind that exactly if it reports
what is there. Data go over the port only where the device asks for them, and no
access leaves the drive's channel. -/
theorem run_conforms (transfer : Transfer) (h : transfer.route c drive = .ok (id, p)) (s : σ)
    (before : Array Access) :
    ∃ e m u, transfer.run c drive s = (e, m)
      ∧ transfer.run c drive (⟨s, before⟩ : Traced σ)
        = (e, ⟨m, before ++ (u ++ told id e).toArray⟩)
      ∧ (∃ w ∈ transfer.reachable c.pollBudget id p, u <+: w)
      ∧ (e = none → u ∈ transfer.protocol c.pollBudget id p)
      ∧ Guarded id u
      ∧ ∀ a ∈ u ++ told id e, a.On id := by
  have hshadows : Shadows s (⟨s, before⟩ : Traced σ) := rfl
  obtain ⟨hsame, hmachine⟩ := run_shadows transfer h hshadows
  obtain ⟨e, ⟨m, accesses⟩, u, hrun, hconforms, hall⟩ := run_traced transfer h ⟨s, before⟩
  rw [hrun] at hsame hmachine
  have htrace : accesses = before ++ (u ++ told id e).toArray := by
    rw [← Array.toList_inj, Array.toList_append]
    exact hconforms.trace
  refine ⟨e, m, u, Prod.ext hsame hmachine.symm, by rw [hrun, htrace], hconforms.begun, hall,
    hconforms.guarded, fun a ha => ?_⟩
  rcases List.mem_append.1 ha with hu | he
  · obtain ⟨w, hw, hbegun⟩ := hconforms.begun
    exact stays_reachable transfer c.pollBudget id p w hw a (hbegun.subset hu)
  · unfold told at he
    split at he
    · rw [List.mem_singleton.1 he]
      exact ⟨.error, rfl⟩
    · cases he

/-- Also on a machine on which nothing answers: all its ports read as ones. -/
theorem run_conforms_silent :
    (read 1 0 (zeroes 512)).route (.single 8) 0 = .ok (.primary, .master)
      ∧ ∃ e m u, (read 1 0 (zeroes 512)).run (.single 8) 0 (⟨[], [], .closed⟩ : Scripted) = (e, m)
        ∧ (read 1 0 (zeroes 512)).run (.single 8) 0 (⟨⟨[], [], .closed⟩, #[]⟩ : Traced Scripted)
          = (e, ⟨m, #[] ++ (u ++ told .primary e).toArray⟩)
        ∧ (∃ w ∈ (read 1 0 (zeroes 512)).reachable (Controller.single 8).pollBudget .primary .master,
          u <+: w)
        ∧ (e = none →
          u ∈ (read 1 0 (zeroes 512)).protocol (Controller.single 8).pollBudget .primary .master)
        ∧ Guarded .primary u
        ∧ ∀ a ∈ u ++ told .primary e, a.On .primary := by
  have hroute : (read 1 0 (zeroes 512)).route (.single 8) 0 = .ok (.primary, .master) :=
    Controller.routeRead_sectors rfl (by decide) (by decide) (by decide)
      (by rw [size_zeroes]; decide)
  have hrun := run_conforms (read 1 0 (zeroes 512)) hroute (⟨[], [], .closed⟩ : Scripted) #[]
  exact ⟨hroute, hrun⟩

end Transfer

end AtaVolume
