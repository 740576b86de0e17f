/-
AtaVolume.Proofs.Ata.Identify — what is found in a slot, whatever the machine answers.

The ways in which a probe can end are those of its three stages, each with the answers that
lead there and the accesses made until then: `Probing` up to a status that is not busy,
`Signed` for the signature, `Received` for the data. `probe_traced` says that there are no
others. It follows that a slot counts as a disk only if the machine has gone through all of
an `Identification`, that no word is moved otherwise, and that nothing but the request is
written (`Probing.probed`). `enumerate_identifies` puts four probes one behind the other.
-/
import AtaVolume.Proofs.Ata.Conformance

namespace AtaVolume

open Protocol

/-! ## §1 What a disk has told -/

/-- A register or a data port is written. -/
def Access.isWrite : Access → Bool
  | .writeByte .. | .writeWord .. => true
  | _ => false

/-- The status asks for data, and reports nothing that is wrong. -/
def AsksForData (bits : UInt8) : Prop :=
  (Status.mk bits).busy = false ∧ (Status.mk bits).failed = false
    ∧ (Status.mk bits).deviceFault = false ∧ (Status.mk bits).dataRequest = true

namespace Protocol

/-- A device is selected, and let settle. -/
def chosen (id : ChannelId) (p : Position) : List Access :=
  [.writeByte (Register.deviceSelect.port id) (selectChs ||| (p.number <<< 4)), .wait 1]

/-- The device is told to identify itself, and given the time to. -/
def asked (id : ChannelId) : List Access :=
  [.writeByte (Register.sectorCount.port id) 0, .writeByte (Register.lbaLow.port id) 0,
    .writeByte (Register.lbaMid.port id) 0, .writeByte (Register.lbaHigh.port id) 0,
    .writeByte (Register.command.port id) cmdIdentify, .wait 1]

/-- All that a probe writes. -/
def requests (id : ChannelId) (p : Position) : List Access :=
  [.writeByte (Register.deviceSelect.port id) (selectChs ||| (p.number <<< 4)),
    .writeByte (Register.sectorCount.port id) 0, .writeByte (Register.lbaLow.port id) 0,
    .writeByte (Register.lbaMid.port id) 0, .writeByte (Register.lbaHigh.port id) 0,
    .writeByte (Register.command.port id) cmdIdentify]

/-- A poll for data, up to the last status that it reads. -/
def polled (id : ChannelId) (settled earlier : List UInt8) (last : UInt8) : List Access :=
  readsOf id .control settled ++ readsOf id .command (earlier ++ [last])

/-- Words are read from the data port. -/
def fetched (id : ChannelId) (words : List UInt16) : List Access :=
  words.map (.readWord (Register.data.port id))

end Protocol

/-- The answers of a disk, from the status before it is asked to the last word of its
identification data. -/
structure Identification where
  /-- The status before the command. -/
  status : UInt8
  /-- The status right behind the command. -/
  reply : UInt8
  busy : List UInt8
  /-- The first status that is not busy. -/
  ready : UInt8
  settled : List UInt8
  stillBusy : List UInt8
  /-- The last status before the data. -/
  serving : UInt8
  words : List UInt16
  present : status ≠ 0x00 ∧ status ≠ 0xFF
  answered : reply ≠ 0x00
  done : (Status.mk ready).busy = false
  serves : AsksForData serving
  complete : words.length = 256

namespace Identification

/-- The words as bytes, the low one first. -/
def bytes (r : Identification) : Bytes := (r.words.flatMap LittleEndian.le16).toArray

/-- The accesses in which the disk has told this: its signature is that of a disk. -/
def accesses (r : Identification) (id : ChannelId) (p : Position) : List Access :=
  chosen id p ++ readsOf id .command [r.status] ++ asked id
    ++ (readsOf id .command (r.reply :: (r.busy ++ [r.ready]))
      ++ (readsOf id .lbaMid [0x00] ++ readsOf id .lbaHigh [0x00]
        ++ (polled id r.settled r.stillBusy r.serving ++ fetched id r.words)))

end Identification

namespace Wire

/-! ## §2 How a probe can end -/

/-- With the signature of a disk: its data are received, or it does not ask for them to be
read. -/
inductive Received (id : ChannelId) (p : Position) : Device → List Access → Prop
  | refused {settled earlier : List UInt8} {last : UInt8} {e : AtaError}
    (unfit : ¬ AsksForData last) :
    Received id p .absent (polled id settled earlier last ++ told id (some e))
  | delivered {settled earlier : List UInt8} {last : UInt8} {words : List UInt16}
    (serves : AsksForData last) (complete : words.length = 256) :
    Received id p (.disk id p (Identity.ofBytes (words.flatMap LittleEndian.le16).toArray))
      (polled id settled earlier last ++ fetched id words)

/-- With a device that is not busy any more: what it is depends on its signature. -/
inductive Signed (id : ChannelId) (p : Position) : Device → List Access → Prop
  | disk {device : Device} {u : List Access} (received : Received id p device u) :
    Signed id p device (readsOf id .lbaMid [0x00] ++ readsOf id .lbaHigh [0x00] ++ u)
  | packet {mid high : UInt8} {kind : PacketKind}
    (signature : Signature.classify mid high = .packet kind) :
    Signed id p (.unsupported id p kind) (readsOf id .lbaMid [mid] ++ readsOf id .lbaHigh [high])
  | unknown {mid high : UInt8} (signature : Signature.classify mid high = .unknown) :
    Signed id p .absent (readsOf id .lbaMid [mid] ++ readsOf id .lbaHigh [high])

/-- From the start: nothing is there, or nothing that answers, or it stays busy for all the
reads of a wait. -/
inductive Probing (budget : UInt32) (id : ChannelId) (p : Position) : Device → List Access → Prop
  | vacant {status : UInt8} (none : status = 0x00 ∨ status = 0xFF) :
    Probing budget id p .absent (chosen id p ++ readsOf id .command [status])
  | silent {status : UInt8} (present : status ≠ 0x00 ∧ status ≠ 0xFF) :
    Probing budget id p .absent
      (chosen id p ++ readsOf id .command [status] ++ asked id ++ readsOf id .command [0x00])
  | stuck {status reply : UInt8} {busy : List UInt8} (present : status ≠ 0x00 ∧ status ≠ 0xFF)
    (answered : reply ≠ 0x00) (exhausted : busy.length = budget.toNat + 1)
    (still : ∀ bits ∈ busy, (Status.mk bits).busy = true) :
    Probing budget id p .absent
      (chosen id p ++ readsOf id .command [status] ++ asked id ++ readsOf id .command (reply :: busy))
  | signed {status reply ready : UInt8} {busy : List UInt8} {device : Device} {u : List Access}
    (present : status ≠ 0x00 ∧ status ≠ 0xFF) (answered : reply ≠ 0x00)
    (done : (Status.mk ready).busy = false) (signed : Signed id p device u) :
    Probing budget id p device
      (chosen id p ++ readsOf id .command [status] ++ asked id
        ++ (readsOf id .command (reply :: (busy ++ [ready])) ++ u))

/-! ## §3 What is read and written -/

variable {budget : UInt32} {id : ChannelId} {p : Position} {device : Device} {u v : List Access}

/-- These accesses are of the channel, and write nothing. -/
def Reads (id : ChannelId) (u : List Access) : Prop := ∀ a ∈ u, a.isWrite = false ∧ a.On id

namespace Reads

theorem append (hu : Reads id u) (hv : Reads id v) : Reads id (u ++ v) :=
  List.forall_mem_append.2 ⟨hu, hv⟩

theorem readsOf {r : Register} {bits : List UInt8} : Reads id (readsOf id r bits) := by
  intro a ha
  obtain ⟨b, -, rfl⟩ := List.mem_map.1 ha
  exact ⟨rfl, r, rfl⟩

theorem polled {settled earlier : List UInt8} {last : UInt8} :
    Reads id (polled id settled earlier last) :=
  .append .readsOf .readsOf

theorem fetched {words : List UInt16} : Reads id (fetched id words) := by
  intro a ha
  obtain ⟨w, -, rfl⟩ := List.mem_map.1 ha
  exact ⟨rfl, .data, rfl⟩

theorem told {e : Option AtaError} : Reads id (told id e) := by
  obtain ⟨errors, -, hreads⟩ := told_eq_readsOf id e
  rw [hreads]
  exact .readsOf

theorem filter_isWrite (h : Reads id u) : u.filter Access.isWrite = [] := by
  refine List.filter_eq_nil_iff.2 fun a ha => ?_
  rw [(h a ha).1]
  exact Bool.false_ne_true

theorem near (h : Reads id u) : ∀ a ∈ u, a.On id := fun a ha => (h a ha).2

end Reads

theorem Received.reads (h : Received id p device u) : Reads id u := by
  cases h with
  | refused _ => exact .append .polled .told
  | delivered _ _ => exact .append .polled .fetched

theorem Signed.reads (h : Signed id p device u) : Reads id u := by
  cases h with
  | disk received => exact .append (.append .readsOf .readsOf) received.reads
  | packet _ => exact .append .readsOf .readsOf
  | unknown _ => exact .append .readsOf .readsOf

/-- No word is moved. -/
def Quiet (u : List Access) : Prop := ∀ a ∈ u, a.isData = false

namespace Quiet

theorem append (hu : Quiet u) (hv : Quiet v) : Quiet (u ++ v) :=
  List.forall_mem_append.2 ⟨hu, hv⟩

theorem readsOf {r : Register} {bits : List UInt8} : Quiet (readsOf id r bits) :=
  fun _ => isData_readsOf

theorem told {e : Option AtaError} : Quiet (told id e) := by
  obtain ⟨errors, -, hreads⟩ := told_eq_readsOf id e
  rw [hreads]
  exact .readsOf

theorem chosen : Quiet (chosen id p) := by
  simp [Quiet, Protocol.chosen, Access.isData]

theorem asked : Quiet (asked id) := by
  simp [Quiet, Protocol.asked, Access.isData]

end Quiet

theorem Received.quiet (h : Received id p device u) (hdevice : device.isUsable = false) :
    Quiet u := by
  cases h with
  | refused _ => exact .append (.append .readsOf .readsOf) .told
  | delivered _ _ => cases hdevice

theorem Signed.quiet (h : Signed id p device u) (hdevice : device.isUsable = false) :
    Quiet u := by
  cases h with
  | disk received => exact .append (.append .readsOf .readsOf) (received.quiet hdevice)
  | packet _ => exact .append .readsOf .readsOf
  | unknown _ => exact .append .readsOf .readsOf

/-- What a probe has made of the answers that it got. -/
structure Probed (budget : UInt32) (id : ChannelId) (p : Position) (device : Device)
    (u : List Access) : Prop where
  ended : Probing budget id p device u
  /-- A disk that can be used has identified itself to the end. -/
  usable : device.isUsable = true → ∃ r : Identification,
    device = .disk id p (Identity.ofBytes r.bytes) ∧ device.kindName = "ATA"
      ∧ u = r.accesses id p
  /-- Of anything else no word was read. -/
  unusable : device.isUsable = false → ∀ a ∈ u, a.isData = false
  /-- Nothing but the request is written, in this order and as far as it went. -/
  writes : u.filter Access.isWrite <+: requests id p
  near : ∀ a ∈ u, a.On id

theorem on_chosen (id : ChannelId) (p : Position) : ∀ a ∈ chosen id p, a.On id := by
  intro a ha
  simp only [chosen, List.mem_cons, List.not_mem_nil, or_false] at ha
  rcases ha with rfl | rfl
  · exact ⟨.deviceSelect, rfl⟩
  · trivial

theorem on_asked (id : ChannelId) : ∀ a ∈ asked id, a.On id := by
  intro a ha
  simp only [asked, List.mem_cons, List.not_mem_nil, or_false] at ha
  rcases ha with rfl | rfl | rfl | rfl | rfl | rfl
  · exact ⟨.sectorCount, rfl⟩
  · exact ⟨.lbaLow, rfl⟩
  · exact ⟨.lbaMid, rfl⟩
  · exact ⟨.lbaHigh, rfl⟩
  · exact ⟨.command, rfl⟩
  · trivial

/-- A probe that has made the request, and then only read. -/
theorem Probing.asked_probed (h : Probing budget id p device (chosen id p ++ u ++ asked id ++ v))
    (husable : device.isUsable = true → ∃ r : Identification,
      device = .disk id p (Identity.ofBytes r.bytes) ∧ device.kindName = "ATA"
        ∧ chosen id p ++ u ++ asked id ++ v = r.accesses id p)
    (hquiet : Quiet u) (hu : Reads id u) (hv : Reads id v)
    (hunusable : device.isUsable = false → Quiet v) :
    Probed budget id p device (chosen id p ++ u ++ asked id ++ v) where
  ended := h
  usable := husable
  unusable hdevice := ((Quiet.chosen.append hquiet).append .asked).append (hunusable hdevice)
  writes := by
    simp only [List.filter_append, hu.filter_isWrite, hv.filter_isWrite, List.append_nil]
    exact List.prefix_refl _
  near := by
    simp only [List.forall_mem_append]
    exact ⟨⟨⟨on_chosen id p, hu.near⟩, on_asked id⟩, hv.near⟩

/-- **A disk is found only by a whole identification**, and no word is moved otherwise. -/
theorem Probing.probed (h : Probing budget id p device u) : Probed budget id p device u := by
  have hended := h
  cases h with
  | vacant none =>
    refine ⟨hended, (fun h => nomatch h), fun _ => Quiet.append .chosen .readsOf, ?_,
      List.forall_mem_append.2 ⟨on_chosen id p, Reads.readsOf.near⟩⟩
    rw [List.filter_append, Reads.readsOf.filter_isWrite, List.append_nil]
    exact ⟨_, rfl⟩
  | silent present =>
    exact hended.asked_probed (fun h => nomatch h) .readsOf .readsOf .readsOf fun _ => .readsOf
  | stuck present answered exhausted still =>
    exact hended.asked_probed (fun h => nomatch h) .readsOf .readsOf .readsOf fun _ => .readsOf
  | @signed status reply ready busy device u present answered done signed =>
    refine hended.asked_probed (fun husable => ?_) .readsOf .readsOf
      (.append .readsOf signed.reads) fun hdevice => .append .readsOf (signed.quiet hdevice)
    cases signed with
    | packet _ => cases husable
    | unknown _ => cases husable
    | disk received =>
      cases received with
      | refused _ => cases husable
      | @delivered settled stillBusy serving words serves complete =>
        exact ⟨{ status, reply, busy, ready, settled, stillBusy, serving, words, present,
                 answered, done, serves, complete }, rfl, rfl, rfl⟩

/-! ## §4 The stages of a probe -/

variable {σ : Type} [PortSpace σ]

/-- A poll for data goes well exactly if its last status asks for them. -/
theorem pollStatus_looks (budget : UInt32) (id : ChannelId) (s : Traced σ) :
    ∃ e t settled earlier last, pollStatus budget id true s = ended e t
      ∧ t.accesses.toList
        = s.accesses.toList ++ (polled id settled earlier last ++ told id e)
      ∧ (e = none ↔ AsksForData last) := by
  obtain ⟨settled, -, hsettle⟩ := settle_traced id 4 s
  rw [pollStatus_eq]
  obtain ⟨busy, last, t, hwait, -, -, hready, htrace⟩ | ⟨busy, t, hwait, hlength, hbusy, htrace⟩ :=
    waitNotBusy_traced id (budget.toNat + 1) (settle id 4 s)
  · obtain ⟨e, t', hjudge, htold, hserves⟩ := judge_traced id ⟨last⟩ t
    rw [hwait]
    refine ⟨e, t', settled, busy, last, hjudge, ?_, fun he => ⟨hready, hserves he⟩, ?_⟩
    · rw [htold, htrace, hsettle]
      simp only [polled, List.append_assoc]
    · rintro ⟨-, hfailed, hfault, hrequest⟩
      simp only [judge, hfailed, hfault, hrequest] at hjudge
      cases e with
      | none => rfl
      | some e => cases hjudge
  · -- the last busy answer is the last that is read
    obtain ⟨earlier, last, rfl, -⟩ := exists_last hlength
    rw [hwait]
    refine ⟨some .timeout, t, settled, earlier, last, rfl, ?_,
      fun he => absurd he (Option.some_ne_none _), ?_⟩
    · rw [htrace, hsettle]
      simp only [polled, told, List.append_assoc, List.append_nil]
    · rintro ⟨hidle, -⟩
      rw [hbusy last (List.mem_append_right _ (List.mem_singleton_self last))] at hidle
      cases hidle

theorem receiveIdentity_traced (budget : UInt32) (id : ChannelId) (p : Position) (s : Traced σ) :
    ∃ u, (receiveIdentity budget id p s).2.accesses.toList = s.accesses.toList ++ u
      ∧ Received id p (receiveIdentity budget id p s).1 u := by
  unfold receiveIdentity
  obtain ⟨e, t, settled, earlier, last, hpoll, htrace, hasks⟩ := pollStatus_looks budget id s
  rw [hpoll]
  cases e with
  | some e => exact ⟨_, htrace, .refused (mt hasks.2 (Option.some_ne_none e))⟩
  | none =>
    obtain ⟨words, hlength, hbytes, hwords⟩ :=
      readWords_received id 256 (Array.emptyWithCapacity sectorSize) t
    have hdata : (readSectorData id (Array.emptyWithCapacity sectorSize) t).1
        = (words.flatMap LittleEndian.le16).toArray :=
      hbytes.trans Array.empty_append
    have hreceived : Received id p
        (.disk id p (Identity.ofBytes (words.flatMap LittleEndian.le16).toArray))
        (polled id settled earlier last ++ fetched id words) := .delivered (hasks.1 rfl) hlength
    rw [htrace, told_none, List.append_nil, List.append_assoc] at hwords
    refine ⟨_, hwords, ?_⟩
    simp only [ended, hdata]
    exact hreceived

theorem readSignature_traced (budget : UInt32) (id : ChannelId) (p : Position) (s : Traced σ) :
    ∃ u, (readSignature budget id p s).2.accesses.toList = s.accesses.toList ++ u
      ∧ Signed id p (readSignature budget id p s).1 u := by
  unfold readSignature
  have hmid := readRegister_traced id .lbaMid s
  generalize readRegister id .lbaMid s = m at hmid ⊢
  obtain ⟨mid, s₁⟩ := m
  have hhigh := readRegister_traced id .lbaHigh s₁
  simp only at hmid ⊢
  generalize readRegister id .lbaHigh s₁ = h at hhigh ⊢
  obtain ⟨high, s₂⟩ := h
  simp only at hhigh ⊢
  rw [hmid, List.append_assoc] at hhigh
  split
  case h_1 hata =>
    -- no other bytes are the signature of a disk
    obtain ⟨rfl, rfl⟩ : mid = 0x00 ∧ high = 0x00 := by
      unfold Signature.classify at hata
      split at hata
      case isTrue hzero => exact hzero
      case isFalse => repeat' split at hata <;> try cases hata
    generalize hnoted : PortSpace.note (_ : Report) s₂ = s₃
    obtain ⟨u, htrace, hreceived⟩ := receiveIdentity_traced budget id p s₃
    have hquiet : s₃.accesses = s₂.accesses := by
      rw [← hnoted]
      rfl
    rw [hquiet, hhigh, List.append_assoc] at htrace
    exact ⟨_, htrace, .disk hreceived⟩
  case h_2 kind hkind => exact ⟨_, hhigh, .packet hkind⟩
  case h_3 hunknown => exact ⟨_, hhigh, .unknown hunknown⟩

theorem select_traced (id : ChannelId) (value : UInt8) (s : Traced σ) :
    (select id value s).accesses.toList = s.accesses.toList
      ++ [.writeByte (Register.deviceSelect.port id) value, .wait 1] := by
  obtain ⟨machine, accesses⟩ := s
  simp only [select, writeRegister, PortSpace.writeByte, PortSpace.wait, Array.toList_push,
    List.append_assoc, List.singleton_append]

theorem requestIdentity_traced (id : ChannelId) (s : Traced σ) :
    (requestIdentity id s).accesses.toList = s.accesses.toList ++ asked id := by
  obtain ⟨machine, accesses⟩ := s
  simp only [requestIdentity, writeRegister, PortSpace.writeByte, PortSpace.wait,
    Array.toList_push, List.append_assoc, List.cons_append, List.nil_append, asked]

/-- **There are no other ways to end a probe.** -/
theorem probe_traced (budget : UInt32) (id : ChannelId) (p : Position) (s : Traced σ) :
    ∃ u, (probe budget id p s).2.accesses.toList = s.accesses.toList ++ u
      ∧ Probing budget id p (probe budget id p s).1 u := by
  unfold probe
  have hchosen := select_traced id (selectChs ||| (p.number <<< 4)) s
  generalize select id (selectChs ||| (p.number <<< 4)) s = s₁ at hchosen ⊢
  have hstatus := readRegister_traced id .command s₁
  simp only
  generalize readRegister id .command s₁ = r at hstatus ⊢
  obtain ⟨status, s₂⟩ := r
  simp only at hstatus ⊢
  rw [hchosen, List.append_assoc] at hstatus
  split
  case isTrue hvacant => exact ⟨_, hstatus, .vacant hvacant⟩
  case isFalse hstands =>
    have hpresent := not_or.1 hstands
    have hasked := requestIdentity_traced id s₂
    generalize requestIdentity id s₂ = s₃ at hasked ⊢
    have hbehind : ∀ {t : Traced σ} {v : List Access},
        t.accesses.toList = s₃.accesses.toList ++ v → t.accesses.toList = s.accesses.toList
          ++ (chosen id p ++ readsOf id .command [status] ++ asked id ++ v) := by
      intro t v htrace
      rw [htrace, hasked, hstatus]
      simp only [chosen, List.append_assoc]
    have hreply := readRegister_traced id .command s₃
    generalize readRegister id .command s₃ = r at hreply ⊢
    obtain ⟨reply, s₄⟩ := r
    simp only at hreply ⊢
    split
    case isTrue hsilent =>
      obtain rfl : reply = 0x00 := hsilent
      exact ⟨_, hbehind hreply, .silent hpresent⟩
    case isFalse hanswered =>
      obtain ⟨busy, ready, t, hwait, -, -, hready, htrace⟩
          | ⟨busy, t, hwait, hlength, hbusy, htrace⟩ :=
        waitNotBusy_traced id (budget.toNat + 1) s₄
      · obtain ⟨u, hsignature, hsigned⟩ := readSignature_traced budget id p t
        rw [htrace, hreply, List.append_assoc, List.append_assoc] at hsignature
        simp only [hwait]
        exact ⟨_, hbehind hsignature, .signed hpresent hanswered hready hsigned⟩
      · rw [hreply, List.append_assoc] at htrace
        simp only [hwait]
        exact ⟨_, hbehind htrace, .stuck hpresent hanswered hlength hbusy⟩

/-! ## §5 The slots one after the other -/

/-- Tracing a machine does not change what is found on it. -/
theorem receiveIdentity_shadows (budget : UInt32) (id : ChannelId) (p : Position) {s : σ}
    {t : Traced σ} (h : Shadows s t) :
    (receiveIdentity budget id p s).1 = (receiveIdentity budget id p t).1
      ∧ Shadows (receiveIdentity budget id p s).2 (receiveIdentity budget id p t).2 := by
  have halike := shadows_commands (σ := σ) id p
  unfold receiveIdentity
  obtain ⟨_, s', t', hs, ht, states⟩ | ⟨e, s', t', hs, ht, states⟩ :=
    (pollStatus_alike halike.reads budget true s t h).cases_eq
  · obtain ⟨hdata, hnext⟩ := readWords_alike halike.words sectorWords
      (Array.emptyWithCapacity sectorSize) states
    simp only [hs, ht, readSectorData, hdata]
    exact ⟨trivial, hnext⟩
  · simp only [hs, ht]
    exact ⟨trivial, halike.note _ _ _ states⟩

theorem readRegister_shadows (id : ChannelId) (r : Register) {s : σ} {t : Traced σ}
    (h : Shadows s t) :
    (readRegister id r s).1 = (readRegister id r t).1
      ∧ Shadows (readRegister id r s).2 (readRegister id r t).2 := by
  subst h
  exact ⟨rfl, rfl⟩

theorem select_shadows (id : ChannelId) (value : UInt8) {s : σ} {t : Traced σ}
    (h : Shadows s t) : Shadows (select id value s) (select id value t) := by
  subst h
  rfl

theorem requestIdentity_shadows (id : ChannelId) {s : σ} {t : Traced σ} (h : Shadows s t) :
    Shadows (requestIdentity id s) (requestIdentity id t) := by
  subst h
  rfl

theorem readSignature_shadows (budget : UInt32) (id : ChannelId) (p : Position) {s : σ}
    {t : Traced σ} (h : Shadows s t) :
    (readSignature budget id p s).1 = (readSignature budget id p t).1
      ∧ Shadows (readSignature budget id p s).2 (readSignature budget id p t).2 := by
  obtain ⟨hmid, h₁⟩ := readRegister_shadows id .lbaMid h
  obtain ⟨hhigh, h₂⟩ := readRegister_shadows id .lbaHigh h₁
  unfold readSignature
  simp only [hmid, hhigh]
  have hnoted := fun report => (shadows_commands (σ := σ) id p).note report _ _ h₂
  split
  · exact receiveIdentity_shadows budget id p (hnoted _)
  · exact ⟨rfl, hnoted _⟩
  · exact ⟨rfl, hnoted _⟩

theorem probe_shadows (budget : UInt32) (id : ChannelId) (p : Position) {s : σ}
    {t : Traced σ} (h : Shadows s t) :
    (probe budget id p s).1 = (probe budget id p t).1
      ∧ Shadows (probe budget id p s).2 (probe budget id p t).2 := by
  have halike := shadows_commands (σ := σ) id p
  have hchosen := select_shadows id (selectChs ||| (p.number <<< 4)) h
  obtain ⟨hstatus, h₁⟩ := readRegister_shadows id .command hchosen
  unfold probe
  simp only [hstatus]
  split
  · exact ⟨rfl, h₁⟩
  · have hasked := requestIdentity_shadows id h₁
    obtain ⟨hreply, h₂⟩ := readRegister_shadows id .command hasked
    simp only [hreply]
    split
    · exact ⟨rfl, h₂⟩
    · obtain ⟨_, s', t', hs, ht, states⟩ | ⟨e, s', t', hs, ht, states⟩ :=
        (waitNotBusy_alike halike.reads (budget.toNat + 1) _ _ h₂).cases_eq
      · simp only [hs, ht]
        exact readSignature_shadows budget id p states
      · simp only [hs, ht]
        exact ⟨trivial, halike.note _ _ _ states⟩

/-- A probe on a machine, with and without a trace. -/
theorem probeSlot_traced (budget : UInt32) (slot : Slot) {s : σ} {t : Traced σ}
    (h : Shadows s t) :
    ∃ device s' t' u, probeSlot budget slot s = (device, s') ∧ probeSlot budget slot t = (device, t')
      ∧ Shadows s' t' ∧ t'.accesses.toList = t.accesses.toList ++ u
      ∧ Probed budget (channelOf slot) (positionOf slot) device u := by
  obtain ⟨u, htrace, hended⟩ := probe_traced budget (channelOf slot) (positionOf slot) t
  have hprobed := hended.probed
  obtain ⟨hdevice, hmachine⟩ := probe_shadows budget (channelOf slot) (positionOf slot) h
  unfold probeSlot
  generalize probe budget (channelOf slot) (positionOf slot) s = r at hdevice hmachine ⊢
  generalize probe budget (channelOf slot) (positionOf slot) t = q
    at htrace hprobed hdevice hmachine ⊢
  obtain ⟨device, s'⟩ := r
  obtain ⟨_, t'⟩ := q
  obtain rfl : device = _ := hdevice
  exact ⟨device, _, _, u, rfl, rfl,
    (shadows_commands (channelOf slot) (positionOf slot)).note _ s' t' hmachine, htrace, hprobed⟩

end Wire

open Wire

variable {σ : Type} [PortSpace σ]

/-- The interrupts of both channels are turned off. -/
def Protocol.silenced : List Access :=
  [.writeByte (Register.control.port .primary) controlNoInterrupts,
    .writeByte (Register.control.port .secondary) controlNoInterrupts]

/-- **Starting is safe on any machine.** It ends, with a device for each slot; it turns the
interrupts off and then asks one slot after the other. A slot whose device can be used has
identified itself to the end, and from a slot of any other no word was read. -/
theorem Controller.enumerate_identifies (budget : UInt32) (s : σ) (before : Array Access) :
    ∃ (devices : Slot → Device) (m : σ) (w : Slot → List Access),
      enumerate budget s = (⟨.ofFn devices, budget⟩, m)
      ∧ enumerate budget (⟨s, before⟩ : Traced σ) = (⟨.ofFn devices, budget⟩,
        ⟨m, before ++ (silenced ++ (w 0 ++ w 1 ++ w 2 ++ w 3)).toArray⟩)
      ∧ ∀ slot, (channelOf slot).number.toNat = slot.val / 2
        ∧ (positionOf slot).number.toNat = slot.val % 2
        ∧ Probed budget (channelOf slot) (positionOf slot) (devices slot) (w slot) := by
  unfold enumerate
  simp only
  have hsilenced : Shadows
      (writeRegister .secondary .control controlNoInterrupts
        (writeRegister .primary .control controlNoInterrupts
          (PortSpace.note (.info "Initializing IDE driver") s)))
      (writeRegister .secondary .control controlNoInterrupts
        (writeRegister .primary .control controlNoInterrupts
          (PortSpace.note (.info "Initializing IDE driver") (⟨s, before⟩ : Traced σ)))) := rfl
  have htrace : (writeRegister .secondary .control controlNoInterrupts
      (writeRegister .primary .control controlNoInterrupts
        (PortSpace.note (.info "Initializing IDE driver") (⟨s, before⟩ : Traced σ)))).accesses.toList
      = before.toList ++ silenced := by
    simp only [writeRegister, PortSpace.writeByte, PortSpace.note, Array.toList_push,
      List.append_assoc, silenced, List.singleton_append]
  obtain ⟨d₀, s₀, t₀, u₀, hs₀, ht₀, h₀, htrace₀, hprobed₀⟩ := probeSlot_traced budget 0 hsilenced
  obtain ⟨d₁, s₁, t₁, u₁, hs₁, ht₁, h₁, htrace₁, hprobed₁⟩ := probeSlot_traced budget 1 h₀
  obtain ⟨d₂, s₂, t₂, u₂, hs₂, ht₂, h₂, htrace₂, hprobed₂⟩ := probeSlot_traced budget 2 h₁
  obtain ⟨d₃, s₃, t₃, u₃, hs₃, ht₃, h₃, htrace₃, hprobed₃⟩ := probeSlot_traced budget 3 h₂
  rw [hs₀, ht₀]
  simp only
  rw [hs₁, ht₁]
  simp only
  rw [hs₂, ht₂]
  simp only
  rw [hs₃, ht₃]
  refine ⟨#v[d₀, d₁, d₂, d₃].get, s₃, #v[u₀, u₁, u₂, u₃].get, rfl, ?_, fun slot => ?_⟩
  · obtain ⟨m, accesses⟩ := t₃
    obtain rfl : m = s₃ := h₃
    have haccesses : accesses = before ++ (silenced ++ (u₀ ++ u₁ ++ u₂ ++ u₃)).toArray := by
      rw [← Array.toList_inj, Array.toList_append, htrace₃, htrace₂, htrace₁, htrace₀, htrace]
      simp only [List.append_assoc]
    rw [haccesses]
    rfl
  · refine ⟨(number_place slot).1, (number_place slot).2, ?_⟩
    revert slot
    exact forall_slot hprobed₀ hprobed₁ hprobed₂ hprobed₃

end AtaVolume
