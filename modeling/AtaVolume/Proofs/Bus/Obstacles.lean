/-
AtaVolume.Proofs.Bus.Obstacles — where a write stops, and what it has done by
then.

A write is cut into commands of at most 256 sectors. `Drive.obstacle` says why
it does not get past one of its sectors, `Drive.StopsAt` singles out the first
such sector, and `Drive.Wrote` says what becomes of the drive. The write of the
sectors behind the first command is again a write, with the obstacles shifted
(`obstacle_add`); so the effect of a write is put together from that of its
first command and that of the rest (`Grown.wrote`, `Grown.wrote_rest`).
-/
import Mathlib.Data.List.Range
import AtaVolume.Proofs.Bus.Storing

namespace AtaVolume

/-! ## §1 One drive at a time -/

/-- `b'` is `b` with `d'` as the drive at a position of a channel; the other
drives are what they were. -/
structure Bus.Served (b : Bus) (id : ChannelId) (p : Position) (d' : Drive) (b' : Bus) : Prop where
  drive : (b'.channel id).drive? p = some d'
  others : ∀ id' p', (id', p') ≠ (id, p) → (b'.channel id').drive? p' = (b.channel id').drive? p'
  latency : b'.latency = b.latency

theorem Bus.Served.trans {b b' b'' : Bus} {id : ChannelId} {p : Position} {d' d'' : Drive}
    (h : b.Served id p d' b') (h' : b'.Served id p d'' b'') : b.Served id p d'' b'' where
  drive := h'.drive
  others id' p' ne := (h'.others id' p' ne).trans (h.others id' p' ne)
  latency := h'.latency.trans h.latency

theorem Bus.Served.refl {b : Bus} {id : ChannelId} {p : Position} {d : Drive}
    (h : (b.channel id).drive? p = some d) : b.Served id p d b :=
  ⟨h, fun _ _ _ => rfl, rfl⟩

theorem Bus.Served.noted {b b' : Bus} {id : ChannelId} {p : Position} {d' : Drive}
    (h : b.Served id p d' b') (report : Report) : b.Served id p d' (PortSpace.note report b') where
  drive := by rw [(b'.turned_note id report).channel, h.drive]
  others id' p' ne := by rw [(b'.turned_note id' report).channel, h.others id' p' ne]
  latency := h.latency

theorem Bus.Turned.served {b b' : Bus} {id : ChannelId} {p : Position} {t : TaskFile} {d' : Drive}
    (h : b.Turned id ((b.channel id).engaged p t d') b') : b.Served id p d' b' where
  drive := by rw [h.channel, BusChannel.drive?_engaged]
  others id' p' ne := by
    by_cases hid : id' = id
    · subst hid
      rw [h.channel, BusChannel.drive?_engaged_of_ne]
      intro hp
      exact ne (by rw [hp])
    · rw [h.rest id' hid]
  latency := h.latency

namespace Drive

variable {d : Drive}

theorem grown_writeCommand (d : Drive) (lba : UInt32) (n : Nat) :
    d.Grown d.medium.content [(lba, n)] 0
      { d with writeCommands := d.writeCommands.push (lba, n) } where
  kind := rfl
  model := rfl
  faults := rfl
  sectorCount := rfl
  file := rfl
  content := rfl
  writeCommands := rfl
  flushes := rfl

theorem grown_flush (d : Drive) :
    d.Grown d.medium.content [] 1 { d with flushes := d.flushes + 1 } where
  kind := rfl
  model := rfl
  faults := rfl
  sectorCount := rfl
  file := rfl
  content := rfl
  writeCommands := Array.append_empty.symm
  flushes := rfl

/-! ## §2 Where a write stops -/

/-- Why a write of `n` sectors from `lba` on does not get past sector `j` of
them: the command that starts there goes beyond 28 bits or beyond the drive, or
the sector is bad. -/
def obstacle (d : Drive) (lba n j : Nat) : Option AtaError :=
  if j % 256 = 0 ∧ 2 ^ 28 < lba + min n (j + 256) then some (.lba28Limit (UInt32.ofNat (lba + j)))
  else if j % 256 = 0 ∧ d.medium.capacity < lba + min n (j + 256) then
    some (.deviceError errNotFound)
  else if d.isBad (UInt32.ofNat (lba + j)) then some (.deviceError errUncorrectable)
  else none

/-- The sector at which a write stops, with the error; all `n` of them without
one when nothing is in the way. -/
inductive StopsAt (d : Drive) (lba n : Nat) : Nat → Option AtaError → Prop
  | never (clear : ∀ j < n, d.obstacle lba n j = none) : StopsAt d lba n n none
  | first {k : Nat} {e : AtaError} (lt : k < n) (clear : ∀ j < k, d.obstacle lba n j = none)
      (stop : d.obstacle lba n k = some e) : StopsAt d lba n k (some e)

/-- Sectors that have gone to the drive: a bad one goes there in vain. -/
def sentSectors (k : Nat) (e : Option AtaError) : Nat :=
  if e = some (.deviceError errUncorrectable) then k + 1 else k

/-- The write commands that the first `sent` of `n` sectors take. -/
def commandsFor (lba n sent : Nat) : List (UInt32 × Nat) :=
  (List.range ((sent + 255) / 256)).map fun i =>
    (UInt32.ofNat (lba + i * 256), min 256 (n - i * 256))

/-- The flushes that come with the first `sent` of `n` sectors: one behind each
command that was sent to its end. -/
def flushesFor (n sent : Nat) : Nat := if sent = n then (n + 255) / 256 else sent / 256

theorem obstacle_of_limit {lba n : Nat} (h : 2 ^ 28 < lba + min n 256) :
    d.obstacle lba n 0 = some (.lba28Limit (UInt32.ofNat lba)) :=
  if_pos ⟨rfl, h⟩

theorem obstacle_of_end {lba n : Nat} (h : lba + min n 256 ≤ 2 ^ 28)
    (hend : d.medium.capacity < lba + min n 256) :
    d.obstacle lba n 0 = some (.deviceError errNotFound) := by
  rw [obstacle, if_neg (by omega), if_pos (by omega)]

/-- Within the first command, only bad sectors are in the way. -/
theorem obstacle_of_within {lba n j : Nat} (h : lba + min n 256 ≤ 2 ^ 28)
    (hend : lba + min n 256 ≤ d.medium.capacity) (hj : j < 256) :
    d.obstacle lba n j
      = if d.isBad (UInt32.ofNat (lba + j)) then some (.deviceError errUncorrectable) else none := by
  rw [obstacle, if_neg (by omega), if_neg (by omega)]

/-- The sectors behind the first command meet the obstacles of their own
write. -/
theorem obstacle_add {n : Nat} (h : 256 ≤ n) (lba j : Nat) :
    d.obstacle lba n (256 + j) = d.obstacle (lba + 256) (n - 256) j := by
  have hstop : lba + min n (256 + j + 256) = lba + 256 + min (n - 256) (j + 256) := by omega
  rw [obstacle, obstacle, hstop, Nat.add_mod_left, Nat.add_assoc lba 256 j]

theorem StopsAt.of_goodRun {lba n : Nat} (hn : n ≤ 256) (h : lba + n ≤ 2 ^ 28)
    (hend : lba + n ≤ d.medium.capacity) :
    d.StopsAt lba n (d.goodRun lba n)
      (if d.goodRun lba n < n then some (.deviceError errUncorrectable) else none) := by
  have hle := d.goodRun_le lba n
  have hclear : ∀ j < d.goodRun lba n, d.obstacle lba n j = none := by
    intro j hj
    rw [obstacle_of_within (by omega) (by omega) (by omega), isBad_of_lt_goodRun hj]
    rfl
  by_cases hlt : d.goodRun lba n < n
  · rw [if_pos hlt]
    refine .first hlt hclear ?_
    rw [obstacle_of_within (by omega) (by omega) (by omega), isBad_goodRun hlt]
    rfl
  · have hall : d.goodRun lba n = n := by omega
    rw [if_neg hlt]
    rw [hall] at hclear ⊢
    exact .never hclear

/-- A write whose first command stops early stops there. -/
theorem StopsAt.of_first {lba n : Nat} (hn : 256 < n) (h : lba + 256 ≤ 2 ^ 28)
    (hend : lba + 256 ≤ d.medium.capacity) (hlt : d.goodRun lba 256 < 256) :
    d.StopsAt lba n (d.goodRun lba 256) (some (.deviceError errUncorrectable)) := by
  refine .first (by omega) ?_ ?_
  · intro j hj
    rw [obstacle_of_within (by omega) (by omega) (by omega), isBad_of_lt_goodRun hj]
    rfl
  · rw [obstacle_of_within (by omega) (by omega) (by omega), isBad_goodRun hlt]
    rfl

/-- A write whose first command goes well stops where the rest of it does. -/
theorem StopsAt.of_rest {lba n k : Nat} {e : Option AtaError} (hn : 256 < n)
    (h : lba + 256 ≤ 2 ^ 28) (hend : lba + 256 ≤ d.medium.capacity)
    (hall : d.goodRun lba 256 = 256) (hrest : d.StopsAt (lba + 256) (n - 256) k e) :
    d.StopsAt lba n (256 + k) e := by
  have hclear : ∀ {m}, (∀ j < m, d.obstacle (lba + 256) (n - 256) j = none) →
      ∀ j < 256 + m, d.obstacle lba n j = none := by
    intro m hm j hj
    by_cases hfirst : j < 256
    · rw [obstacle_of_within (by omega) (by omega) hfirst,
        isBad_of_lt_goodRun (n := 256) (by omega)]
      rfl
    · obtain ⟨i, rfl⟩ : ∃ i, j = 256 + i := ⟨j - 256, by omega⟩
      rw [obstacle_add (by omega)]
      exact hm i (by omega)
  cases hrest with
  | never clear =>
    have hn' : 256 + (n - 256) = n := by omega
    have := hclear clear
    rw [hn'] at this ⊢
    exact .never this
  | first lt clear stop =>
    exact .first (by omega) (hclear clear) (by rw [obstacle_add (by omega)]; exact stop)

/-! ## §3 Commands and flushes of a write -/

theorem commandsFor_zero (lba n : Nat) : commandsFor lba n 0 = [] := rfl

/-- One command takes up to 256 sectors. -/
theorem commandsFor_one {n sent : Nat} (lba : Nat) (hpos : 0 < sent) (hsent : sent ≤ 256) :
    commandsFor lba n sent = [(UInt32.ofNat lba, min 256 n)] := by
  have hcount : (sent + 255) / 256 = 1 := by omega
  rw [commandsFor, hcount]
  rfl

theorem commandsFor_add (lba n sent : Nat) :
    commandsFor lba n (256 + sent)
      = (UInt32.ofNat lba, min 256 n) :: commandsFor (lba + 256) (n - 256) sent := by
  have hcount : (256 + sent + 255) / 256 = (sent + 255) / 256 + 1 := by omega
  rw [commandsFor, hcount, List.range_succ_eq_map, List.map_cons, List.map_map, commandsFor]
  congr 1
  apply List.map_congr_left
  intro i _
  have hlba : lba + (i + 1) * 256 = lba + 256 + i * 256 := by omega
  have hn : n - (i + 1) * 256 = n - 256 - i * 256 := by omega
  simp only [Function.comp_apply, Nat.succ_eq_add_one, hlba, hn]

theorem flushesFor_add {n : Nat} (h : 256 ≤ n) (sent : Nat) :
    flushesFor n (256 + sent) = 1 + flushesFor (n - 256) sent := by
  rw [flushesFor, flushesFor]
  split <;> split <;> omega

theorem sentSectors_add (k : Nat) (e : Option AtaError) :
    sentSectors (256 + k) e = 256 + sentSectors k e := by
  rw [sentSectors, sentSectors]
  split <;> omega

/-! ## §4 The effect of a write -/

/-- `d'` is what a write of the first `n` sectors of `source` to the sectors
from `lba` on makes of `d`, when it ends with `e`: the sectors up to the one at
which the write stops are stored, as the drive stores them. -/
def Wrote (d : Drive) (lba n : Nat) (source : Sectors) (e : Option AtaError) (d' : Drive) : Prop :=
  ∃ k, d.StopsAt lba n k e
    ∧ d.Grown (d.medium.content.overlay lba k fun i => d.stored (source i))
        (commandsFor lba n (sentSectors k e)) (flushesFor n (sentSectors k e)) d'

theorem Grown.obstacle {d' : Drive} {m : Sectors} {commands : List (UInt32 × Nat)} {flushes : Nat}
    (h : d.Grown m commands flushes d') (lba n j : Nat) :
    d'.obstacle lba n j = d.obstacle lba n j := by
  rw [Drive.obstacle, h.capacity, h.isBad, Drive.obstacle]

theorem Grown.stopsAt {d' : Drive} {m : Sectors} {commands : List (UInt32 × Nat)} {flushes : Nat}
    (h : d.Grown m commands flushes d') {lba n k : Nat} {e : Option AtaError}
    (hstop : d'.StopsAt lba n k e) : d.StopsAt lba n k e := by
  cases hstop with
  | never clear => exact .never fun j hj => by rw [← h.obstacle, clear j hj]
  | first lt clear stop =>
    exact .first lt (fun j hj => by rw [← h.obstacle, clear j hj]) (by rw [← h.obstacle, stop])

theorem wrote_nothing (d : Drive) (lba : Nat) (source : Sectors) : d.Wrote lba 0 source none d := by
  refine ⟨0, .never fun j hj => absurd hj (Nat.not_lt_zero j), ?_⟩
  rw [Sectors.overlay_zero]
  exact .refl d

/-- A write whose first command is refused does nothing. -/
theorem wrote_refused {lba n : Nat} {e : AtaError} (hn : n ≠ 0)
    (hobstacle : d.obstacle lba n 0 = some e) (he : e ≠ .deviceError errUncorrectable)
    (source : Sectors) : d.Wrote lba n source (some e) d := by
  have hsent : sentSectors 0 (some e) = 0 := if_neg (by simpa using he)
  refine ⟨0, .first (by omega) (fun j hj => absurd hj (Nat.not_lt_zero j)) hobstacle, ?_⟩
  rw [hsent, Sectors.overlay_zero, commandsFor_zero, flushesFor, if_neg (by omega)]
  exact .refl d

/-- A write that is over with its first command. -/
theorem Grown.wrote {lba n : Nat} (source : Sectors) {d' : Drive} (hn : n ≠ 0)
    (hlimit : lba + min n 256 ≤ 2 ^ 28) (hend : lba + min n 256 ≤ d.medium.capacity)
    (hlast : n ≤ 256 ∨ d.goodRun lba 256 < 256)
    (h : d.Grown
      (d.medium.content.overlay lba (d.goodRun lba (min n 256)) fun i => d.stored (source i))
      [(UInt32.ofNat lba, min n 256)] (if d.goodRun lba (min n 256) + 1 < min n 256 then 0 else 1) d') :
    d.Wrote lba n source
      (if d.goodRun lba (min n 256) < min n 256 then some (.deviceError errUncorrectable) else none)
      d' := by
  have hle := d.goodRun_le lba (min n 256)
  refine ⟨d.goodRun lba (min n 256), ?_, ?_⟩
  · by_cases hsmall : n ≤ 256
    · rw [Nat.min_eq_left hsmall] at hlimit hend ⊢
      exact .of_goodRun hsmall hlimit hend
    · have hrun := hlast.resolve_left hsmall
      rw [Nat.min_eq_right (by omega)] at hlimit hend ⊢
      rw [if_pos hrun]
      exact .of_first (by omega) hlimit hend hrun
  · have hsent : sentSectors (d.goodRun lba (min n 256))
        (if d.goodRun lba (min n 256) < min n 256 then some (.deviceError errUncorrectable) else none)
        = min (d.goodRun lba (min n 256) + 1) (min n 256) := by
      split
      · rw [sentSectors, if_pos rfl]
        omega
      · rw [sentSectors, if_neg (by simp)]
        omega
    have hflushes : flushesFor n (min (d.goodRun lba (min n 256) + 1) (min n 256))
        = if d.goodRun lba (min n 256) + 1 < min n 256 then 0 else 1 := by
      rw [flushesFor]
      by_cases hsmall : n ≤ 256
      · rw [Nat.min_eq_left hsmall]
        split <;> split <;> omega
      · have hrun := hlast.resolve_left hsmall
        rw [Nat.min_eq_right (show 256 ≤ n by omega)]
        split <;> split <;> omega
    rw [hsent, hflushes, commandsFor_one lba (by omega) (by omega), Nat.min_comm 256 n]
    exact h

/-- A write that goes on behind its first command. -/
theorem Grown.wrote_rest {lba n : Nat} {source : Sectors} {e : Option AtaError} {d₁ d' : Drive}
    (hn : 256 < n) (hlimit : lba + 256 ≤ 2 ^ 28) (hend : lba + 256 ≤ d.medium.capacity)
    (hall : d.goodRun lba 256 = 256)
    (h : d.Grown (d.medium.content.overlay lba 256 fun i => d.stored (source i))
      [(UInt32.ofNat lba, 256)] 1 d₁)
    (hrest : d₁.Wrote (lba + 256) (n - 256) (fun i => source (256 + i)) e d') :
    d.Wrote lba n source e d' := by
  obtain ⟨k, hstop, hgrown⟩ := hrest
  refine ⟨256 + k, .of_rest hn hlimit hend hall (h.stopsAt hstop), ?_⟩
  have hoverlay := Sectors.overlay_add d.medium.content lba 256 k fun i => d.stored (source i)
  have hboth := h.trans hgrown
  simp only [h.content, h.stored, hoverlay] at hboth
  rw [sentSectors_add, commandsFor_add, flushesFor_add (by omega), Nat.min_eq_left (by omega)]
  exact hboth

end Drive

end AtaVolume
