/-
AtaVolume.Proofs.Ata.PollBudget — how long a poll waits.

What the wait of a poll does is told by what the machine would answer if its status were
read again and again (`statuses`). The wait ends behind the first answer that is not
busy, having read no further, and with a timeout if there is none among as many answers
as it may read (`ReadyAfter`, `AllBusy`). A budget of `n` allows `n + 1` of them: the read
that the budget does not cover can still find the device ready
(`pollStatus_outlasts_budget`).
-/
import AtaVolume.Proofs.Ata.Conformance

namespace AtaVolume.Wire

open Protocol (readsOf)

variable {σ : Type} [PortSpace σ] {id : ChannelId}

/-! ## §1 The answers of a machine -/

/-- What `n` reads of the status in a row answer, and the machine after them. -/
def statuses (id : ChannelId) : (n : Nat) → σ → List UInt8 × σ
  | 0, s => ([], s)
  | n + 1, s =>
    let (bits, s) := readRegister id .command s
    let (more, s) := statuses id n s
    (bits :: more, s)

/-- All these answers are busy. -/
def AllBusy (answers : List UInt8) : Prop := ∀ bits ∈ answers, (Status.mk bits).busy = true

/-- After `k` busy answers comes one that is not, and then the machine is `t`. -/
structure ReadyAfter (id : ChannelId) (s : σ) (k : Nat) (last : UInt8) (t : σ) : Prop where
  busy : AllBusy (statuses id k s).1
  next : statuses id (k + 1) s = ((statuses id k s).1 ++ [last], t)
  ready : (Status.mk last).busy = false

theorem length_statuses (id : ChannelId) (n : Nat) (s : σ) : (statuses id n s).1.length = n := by
  induction n generalizing s with
  | zero => rfl
  | succ n ih => exact congrArg Nat.succ (ih _)

/-- Tracing a machine does not change its answers, and records each of the reads. -/
theorem statuses_traced (id : ChannelId) (n : Nat) (s : σ) (before : Array Access) :
    statuses id n (⟨s, before⟩ : Traced σ)
      = ((statuses id n s).1,
          ⟨(statuses id n s).2, before ++ (readsOf id .command (statuses id n s).1).toArray⟩) := by
  induction n generalizing s before with
  | zero => rw [statuses, statuses, readsOf, List.map_nil, Array.append_empty]
  | succ n ih =>
    have hread : readRegister id .command (⟨s, before⟩ : Traced σ)
        = ((readRegister id .command s).1, ⟨(readRegister id .command s).2,
            before.push (.readByte (Register.command.port id) (readRegister id .command s).1)⟩) :=
      rfl
    simp only [statuses, hread, ih, readsOf, List.map_cons]
    congr 2
    rw [← Array.toList_inj]
    simp

/-! ## §2 Waiting -/

theorem AllBusy.nil : AllBusy [] := fun _ h => (List.not_mem_nil h).elim

theorem allBusy_statuses_succ {n : Nat} {s : σ} :
    AllBusy (statuses id (n + 1) s).1
      ↔ (Status.mk (readRegister id .command s).1).busy = true
        ∧ AllBusy (statuses id n (readRegister id .command s).2).1 :=
  List.forall_mem_cons

/-- A machine that is not busy is ready at once. -/
theorem ReadyAfter.now {s : σ} (h : (Status.mk (readRegister id .command s).1).busy = false) :
    ReadyAfter id s 0 (readRegister id .command s).1 (readRegister id .command s).2 :=
  ⟨.nil, rfl, h⟩

/-- One more busy answer before those. -/
theorem ReadyAfter.later {s t : σ} {k : Nat} {last : UInt8}
    (hbusy : (Status.mk (readRegister id .command s).1).busy = true)
    (h : ReadyAfter id (readRegister id .command s).2 k last t) :
    ReadyAfter id s (k + 1) last t where
  busy := allBusy_statuses_succ.2 ⟨hbusy, h.busy⟩
  next := by
    rw [statuses]
    simp only [h.next]
    rfl
  ready := h.ready

/-- A wait for a machine that stays busy uses all its reads. -/
theorem waitNotBusy_of_allBusy {reads : Nat} {s : σ} (h : AllBusy (statuses id reads s).1) :
    waitNotBusy id reads s = .error .timeout (statuses id reads s).2 := by
  induction reads generalizing s with
  | zero => rfl
  | succ reads ih =>
    obtain ⟨hbusy, hmore⟩ := allBusy_statuses_succ.1 h
    rw [waitNotBusy_succ, if_pos hbusy, ih hmore]
    rfl

/-- A machine that gets ready in time is not kept waiting. -/
theorem waitNotBusy_of_ready {reads k : Nat} {s t : σ} {last : UInt8} (hk : k < reads)
    (h : ReadyAfter id s k last t) : waitNotBusy id reads s = .ok ⟨last⟩ t := by
  induction k generalizing reads s with
  | zero =>
    obtain ⟨reads, rfl⟩ := Nat.exists_eq_succ_of_ne_zero (Nat.ne_of_gt hk)
    have hnext := h.next
    simp only [statuses, List.nil_append, Prod.mk.injEq, List.cons.injEq, and_true] at hnext
    obtain ⟨rfl, rfl⟩ := hnext
    rw [waitNotBusy_succ, if_neg (by rw [h.ready]; decide)]
  | succ k ih =>
    obtain ⟨reads, rfl⟩ := Nat.exists_eq_succ_of_ne_zero (Nat.ne_of_gt (Nat.zero_lt_of_lt hk))
    obtain ⟨hbusy, hmore⟩ := allBusy_statuses_succ.1 h.busy
    have hnext := h.next
    rw [statuses, Prod.mk.injEq] at hnext
    obtain ⟨hanswers, hmachine⟩ := hnext
    rw [waitNotBusy_succ, if_pos hbusy]
    exact ih (Nat.lt_of_succ_lt_succ hk)
      ⟨hmore, Prod.ext (List.cons.inj hanswers).2 hmachine, h.ready⟩

/-- **A wait ends in one of two ways.** -/
theorem waitNotBusy_ends (id : ChannelId) (reads : Nat) (s : σ) :
    AllBusy (statuses id reads s).1 ∨ ∃ k last t, k < reads ∧ ReadyAfter id s k last t := by
  induction reads generalizing s with
  | zero => exact .inl .nil
  | succ reads ih =>
    cases hbusy : (Status.mk (readRegister id .command s).1).busy with
    | false => exact .inr ⟨0, _, _, Nat.succ_pos reads, .now hbusy⟩
    | true =>
      obtain hmore | ⟨k, last, t, hk, hready⟩ := ih (readRegister id .command s).2
      · exact .inl (allBusy_statuses_succ.2 ⟨hbusy, hmore⟩)
      · exact .inr ⟨k + 1, last, t, Nat.succ_lt_succ hk, .later hbusy hready⟩

theorem waitNotBusy_eq_error_iff {reads : Nat} {s t : σ} {e : AtaError} :
    waitNotBusy id reads s = .error e t
      ↔ e = .timeout ∧ AllBusy (statuses id reads s).1 ∧ t = (statuses id reads s).2 := by
  constructor
  · intro h
    obtain hbusy | ⟨k, last, t', hk, hready⟩ := waitNotBusy_ends id reads s
    · rw [waitNotBusy_of_allBusy hbusy] at h
      cases h
      exact ⟨rfl, hbusy, rfl⟩
    · rw [waitNotBusy_of_ready hk hready] at h
      cases h
  · rintro ⟨rfl, hbusy, rfl⟩
    exact waitNotBusy_of_allBusy hbusy

theorem waitNotBusy_eq_ok_iff {reads : Nat} {s t : σ} {last : UInt8} :
    waitNotBusy id reads s = .ok ⟨last⟩ t ↔ ∃ k < reads, ReadyAfter id s k last t := by
  constructor
  · intro h
    obtain hbusy | ⟨k, last', t', hk, hready⟩ := waitNotBusy_ends id reads s
    · rw [waitNotBusy_of_allBusy hbusy] at h
      cases h
    · rw [waitNotBusy_of_ready hk hready] at h
      cases h
      exact ⟨k, hk, hready⟩
  · rintro ⟨k, hk, hready⟩
    exact waitNotBusy_of_ready hk hready

/-! ## §3 Polling -/

/-- The reads of one poll: of the alternate status, of the status, and of the error
register. -/
theorem pollStatus_reads (budget : UInt32) (id : ChannelId) (transfer : Bool) (s : σ)
    (before : Array Access) :
    ∃ e t settled bits errors, settled.length = 4 ∧ bits.length ≤ budget.toNat + 1
      ∧ errors.length ≤ 1 ∧ pollStatus budget id transfer (⟨s, before⟩ : Traced σ) = ended e t
      ∧ t.accesses = before ++ (readsOf id .control settled ++ readsOf id .command bits
          ++ readsOf id .error errors).toArray := by
  obtain ⟨settled, hsettled, hsettle⟩ := settle_traced id 4 (⟨s, before⟩ : Traced σ)
  rw [pollStatus_eq]
  generalize settle id 4 (⟨s, before⟩ : Traced σ) = m at hsettle
  obtain ⟨machine, accesses⟩ := m
  have hsettle' : accesses.toList = before.toList ++ readsOf id .control settled := hsettle
  have htrace : ∀ (errors bits : List UInt8) (t : Traced σ),
      t.accesses.toList = (accesses ++ (readsOf id .command bits).toArray).toList
        ++ readsOf id .error errors →
      t.accesses = before ++ (readsOf id .control settled ++ readsOf id .command bits
        ++ readsOf id .error errors).toArray := by
    intro errors bits t ht
    rw [← Array.toList_inj, ht]
    simp [hsettle']
  obtain hbusy | ⟨k, last, t, hk, hready⟩ :=
    waitNotBusy_ends id (budget.toNat + 1) (⟨machine, accesses⟩ : Traced σ)
  · rw [waitNotBusy_of_allBusy hbusy, statuses_traced]
    exact ⟨some .timeout, _, settled, _, [], hsettled, (length_statuses id _ machine).le,
      Nat.zero_le 1, rfl, htrace [] _ _ (List.append_nil _).symm⟩
  · rw [waitNotBusy_of_ready hk hready]
    have hlast := hready.next
    rw [statuses_traced, Prod.mk.injEq] at hlast
    obtain rfl := hlast.2
    have hlength : (statuses id (k + 1) machine).1.length ≤ budget.toNat + 1 := by
      rw [length_statuses]
      exact hk
    cases transfer with
    | false =>
      exact ⟨none, _, settled, _, [], hsettled, hlength, Nat.zero_le 1, rfl,
        htrace [] _ _ (List.append_nil _).symm⟩
    | true =>
      obtain ⟨e, t, hjudge, htold, -⟩ := judge_traced id ⟨last⟩ (⟨(statuses id (k + 1) machine).2,
        accesses ++ (readsOf id .command (statuses id (k + 1) machine).1).toArray⟩ : Traced σ)
      obtain ⟨errors, herrors, hreads⟩ := told_eq_readsOf id e
      rw [hreads] at htold
      exact ⟨e, t, settled, _, errors, hsettled, hlength, herrors, hjudge,
        htrace errors _ t htold⟩

/-- **The poll budget bounds every wait.** On every machine a wait ends with a timeout
exactly if as many answers as it reads are busy, and otherwise with the first one that is
not, having read no further. It reads at most one status more than the budget says, and a
poll adds four reads of the alternate status and at most one of the error register. -/
theorem wait_bounded (budget : UInt32) (id : ChannelId) (s : σ) (before : Array Access) :
    (∀ e t, waitNotBusy id (budget.toNat + 1) s = .error e t
        ↔ e = .timeout ∧ AllBusy (statuses id (budget.toNat + 1) s).1
          ∧ t = (statuses id (budget.toNat + 1) s).2)
      ∧ (∀ last t, waitNotBusy id (budget.toNat + 1) s = .ok ⟨last⟩ t
        ↔ ∃ k ≤ budget.toNat, ReadyAfter id s k last t)
      ∧ (∀ n, statuses id n (⟨s, before⟩ : Traced σ)
        = ((statuses id n s).1, ⟨(statuses id n s).2,
            before ++ (readsOf id .command (statuses id n s).1).toArray⟩))
      ∧ ∀ transfer, ∃ e t settled bits errors, settled.length = 4
        ∧ bits.length ≤ budget.toNat + 1 ∧ errors.length ≤ 1
        ∧ pollStatus budget id transfer (⟨s, before⟩ : Traced σ) = ended e t
        ∧ t.accesses = before ++ (readsOf id .control settled ++ readsOf id .command bits
            ++ readsOf id .error errors).toArray := by
  refine ⟨fun e t => waitNotBusy_eq_error_iff, fun last t => ?_,
    fun n => statuses_traced id n s before,
    fun transfer => pollStatus_reads budget id transfer s before⟩
  rw [waitNotBusy_eq_ok_iff]
  simp only [Nat.lt_succ_iff]

/-- **The budget is exceeded by one.** A device that is busy for a whole budget, and ready
then, is not given up. -/
theorem pollStatus_outlasts_budget :
    ¬ ∀ (budget : UInt32) (id : ChannelId) (s : Scripted), 1 ≤ budget.toNat →
      AllBusy (statuses id budget.toNat (settle id 4 s)).1 →
      ∃ t, pollStatus budget id false s = .error .timeout t := by
  intro hall
  let s : Scripted := ⟨[⟨Register.command.port .primary, [0x80, 0x50]⟩], [], .closed⟩
  have hbusy : AllBusy (statuses .primary (1 : UInt32).toNat (settle .primary 4 s)).1 := by
    intro bits hbits
    rw [List.mem_singleton.1 hbits]
    rfl
  obtain ⟨t, ht⟩ := hall 1 .primary s (Nat.le_refl 1) hbusy
  cases ht

end AtaVolume.Wire
