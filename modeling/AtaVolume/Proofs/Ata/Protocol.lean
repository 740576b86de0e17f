/-
AtaVolume.Proofs.Ata.Protocol — the protocol of programmed transfers, as a
language of port accesses.

A word of the language is a transfer that goes to its end: commands that name a
device, its first sector and a number of sectors; before each sector a poll, then
the words of the sector; after a write a flush. A poll is four reads of the
alternate status and one or more of the status, all but the last of them busy.
What the words do not say is when data may go over the port: `Guarded` is said of
all accesses, also of those of a transfer that breaks off.
-/
import Mathlib.Computability.Language
import AtaVolume.Ata.PortSpace
import AtaVolume.Ata.Transfer
import AtaVolume.Bus.TaskFile

namespace AtaVolume

namespace Access

/-- The access is to a register of the channel, or no access to a port at all. -/
def On (id : ChannelId) : Access → Prop
  | .readByte port _ | .writeByte port _ | .readWord port _ | .writeWord port _ =>
    ∃ r : Register, port = r.port id
  | .wait _ => True

/-- A word goes over a port. -/
def isData : Access → Bool
  | .readWord .. | .writeWord .. => true
  | _ => false

/-- A status was read that asks for data. -/
def Serves (id : ChannelId) (a : Access) : Prop :=
  ∃ bits, a = .readByte (Register.command.port id) bits ∧ (Status.mk bits).busy = false
    ∧ (Status.mk bits).failed = false ∧ (Status.mk bits).deviceFault = false
    ∧ (Status.mk bits).dataRequest = true

end Access

/-- Each word that goes over a port belongs to a burst of at most a sector, and right
before the burst a status was read that asks for data. -/
def Guarded (id : ChannelId) (accesses : List Access) : Prop :=
  ∀ before a after, accesses = before ++ a :: after → a.isData = true →
    ∃ earlier status burst, before = earlier ++ status :: burst ∧ status.Serves id
      ∧ burst.length < 256 ∧ ∀ x ∈ burst, x.isData = true

/-! ## §1 The words of a transfer -/

namespace Protocol

variable (budget : UInt32) (id : ChannelId) (p : Position)

/-- Reads of a byte register, with what they gave. -/
def readsOf (r : Register) (bits : List UInt8) : List Access :=
  bits.map (.readByte (r.port id))

/-- The device has time to settle. -/
def settling : Language Access :=
  {w | ∃ bits : List UInt8, bits.length = 4 ∧ w = readsOf id .control bits}

/-- The status is read until it is not busy, or the budget is used up. -/
def waiting : Language Access :=
  {w | ∃ busy last, busy.length ≤ budget.toNat ∧ (∀ bits ∈ busy, (Status.mk bits).busy = true)
    ∧ w = readsOf id .command (busy ++ [last])}

/-- One poll. -/
def poll : Language Access := settling id * waiting budget id

/-- A sector is read. -/
def received : Language Access :=
  {w | ∃ words : List UInt16, words.length = 256
    ∧ w = words.map (.readWord (Register.data.port id))}

/-- Writes of `n` words, from offset `i` of `data` on. -/
def writesOf (data : Bytes) (n i : Nat) : List Access :=
  (List.range n).map fun k =>
    .writeWord (Register.data.port id) (LittleEndian.word16 data (i + 2 * k))

/-- The sector at offset `i` of `data` is written. -/
def sent (data : Bytes) (i : Nat) : Language Access := {writesOf id data 256 i}

/-- A command on `n` sectors from `lba` on to the device at position `p`. The
registers are told apart by what a device makes of them. -/
def command (lba : UInt32) (n : Nat) (value : UInt8) : Language Access :=
  {w | ∃ t : TaskFile, t.targetLba = lba ∧ t.targetCount = n
    ∧ t.deviceSelect &&& 0xE0 = selectLba ∧ (t.deviceSelect &&& 0x10 = 0 ↔ p = .master)
    ∧ w = [.writeByte (Register.deviceSelect.port id) t.deviceSelect, .wait 1,
        .writeByte (Register.sectorCount.port id) t.sectorCount,
        .writeByte (Register.lbaLow.port id) t.lbaLow,
        .writeByte (Register.lbaMid.port id) t.lbaMid,
        .writeByte (Register.lbaHigh.port id) t.lbaHigh,
        .writeByte (Register.command.port id) value]}

/-- The command to store what was written. -/
def storing : Language Access := {[.writeByte (Register.command.port id) cmdFlushCache]}

/-- One more look at the status. -/
def looking : Language Access := {w | ∃ bits, w = readsOf id .command [bits]}

/-- What was written is stored. -/
def flush : Language Access := storing id * poll budget id * looking id

/-- A read of `n` sectors. -/
def reading (lba : UInt32) (n : Nat) : Language Access :=
  command id p lba n cmdReadSectors * (poll budget id * received id) ^ n

/-- `n` sectors from offset `i` of `data` on are sent. -/
def sending (data : Bytes) : (n : Nat) → (i : Nat) → Language Access
  | 0, _ => 1
  | n + 1, i => poll budget id * sent id data i * sending data n (i + sectorSize)

/-- One command of a write. -/
def writingOnce (data : Bytes) (lba : UInt32) (n i : Nat) : Language Access :=
  command id p lba n cmdWriteSectors * sending budget id data n i * flush budget id

/-- The part of a write that is one command: its first sector, the number of its
sectors, and where their bytes are. -/
structure Chunk where
  lba : UInt32
  count : Nat
  offset : Nat

/-- A write of `n` sectors is cut into commands of at most 256. -/
def chunks (lba : UInt32) (n i : Nat) : List Chunk :=
  if n = 0 then []
  else
    let count := min n maxTransfer
    ⟨lba, count, i⟩ :: chunks (lba + UInt32.ofNat count) (n - count) (i + count * sectorSize)
termination_by n
decreasing_by show n - min n 256 < n; omega

/-- The commands that come before the first one beyond 28 bits. -/
def addressable (cs : List Chunk) : List Chunk := cs.takeWhile fun c => inLba28 c.lba c.count

theorem chunks_zero (lba : UInt32) (i : Nat) : chunks lba 0 i = [] := by
  rw [chunks, if_pos rfl]

theorem chunks_pos (lba : UInt32) {n : Nat} (hn : n ≠ 0) (i : Nat) :
    chunks lba n i = ⟨lba, min n 256, i⟩
      :: chunks (lba + UInt32.ofNat (min n 256)) (n - min n 256) (i + min n 256 * 512) := by
  rw [chunks, if_neg hn]

theorem addressable_cons (c : Chunk) (cs : List Chunk) :
    addressable (c :: cs) = if inLba28 c.lba c.count then c :: addressable cs else [] := by
  unfold addressable
  rw [List.takeWhile_cons]

/-- The commands of a write. -/
def writing (data : Bytes) : List Chunk → Language Access
  | [] => 1
  | c :: cs => writingOnce budget id p data c.lba c.count c.offset * writing data cs

/-! ## §2 Words on one channel -/

/-- All words of a language stay on the channel. -/
def Stays (L : Language Access) : Prop := ∀ w ∈ L, ∀ a ∈ w, a.On id

variable {id}

theorem stays_one : Stays id 1 := by
  intro w hw a ha
  rw [Language.mem_one] at hw
  rw [hw] at ha
  cases ha

theorem Stays.mul {L M : Language Access} (hL : Stays id L) (hM : Stays id M) :
    Stays id (L * M) := by
  intro w hw a ha
  obtain ⟨u, hu, v, hv, rfl⟩ := Language.mem_mul.1 hw
  rcases List.mem_append.1 ha with h | h
  · exact hL u hu a h
  · exact hM v hv a h

theorem Stays.pow {L : Language Access} (hL : Stays id L) (n : Nat) : Stays id (L ^ n) := by
  induction n with
  | zero => exact stays_one
  | succ n ih =>
    rw [pow_succ]
    exact ih.mul hL

theorem on_readsOf {r : Register} {bits : List UInt8} {a : Access} (h : a ∈ readsOf id r bits) :
    a.On id := by
  obtain ⟨b, -, rfl⟩ := List.mem_map.1 h
  exact ⟨r, rfl⟩

theorem stays_poll : Stays id (poll budget id) := by
  refine Stays.mul ?_ ?_
  · rintro w ⟨bits, -, rfl⟩ a ha
    exact on_readsOf ha
  · rintro w ⟨busy, last, -, -, rfl⟩ a ha
    exact on_readsOf ha

theorem stays_command (lba : UInt32) (n : Nat) (value : UInt8) :
    Stays id (command id p lba n value) := by
  rintro w ⟨t, -, -, -, -, rfl⟩ a ha
  simp only [List.mem_cons, List.not_mem_nil, or_false] at ha
  rcases ha with rfl | rfl | rfl | rfl | rfl | rfl | rfl
  all_goals first | exact ⟨_, rfl⟩ | trivial

theorem stays_received : Stays id (received id) := by
  rintro w ⟨words, -, rfl⟩ a ha
  obtain ⟨x, -, rfl⟩ := List.mem_map.1 ha
  exact ⟨.data, rfl⟩

theorem stays_sent (data : Bytes) (i : Nat) : Stays id (sent id data i) := by
  rintro w rfl a ha
  obtain ⟨x, -, rfl⟩ := List.mem_map.1 ha
  exact ⟨.data, rfl⟩

theorem stays_flush : Stays id (flush budget id) := by
  refine Stays.mul (Stays.mul ?_ (stays_poll budget)) ?_
  · rintro w rfl a ha
    rw [List.mem_singleton.1 ha]
    exact ⟨.command, rfl⟩
  · rintro w ⟨bits, rfl⟩ a ha
    exact on_readsOf ha

theorem stays_reading (lba : UInt32) (n : Nat) : Stays id (reading budget id p lba n) :=
  (stays_command p lba n _).mul (((stays_poll budget).mul stays_received).pow n)

theorem stays_sending (data : Bytes) (n i : Nat) : Stays id (sending budget id data n i) := by
  induction n generalizing i with
  | zero => exact stays_one
  | succ n ih => exact ((stays_poll budget).mul (stays_sent data i)).mul (ih _)

theorem stays_writing (data : Bytes) (cs : List Chunk) :
    Stays id (writing budget id p data cs) := by
  induction cs with
  | nil => exact stays_one
  | cons c cs ih =>
    refine Stays.mul (((stays_command p c.lba c.count _).mul ?_).mul (stays_flush budget)) ih
    exact stays_sending budget data c.count c.offset

end Protocol

end AtaVolume
