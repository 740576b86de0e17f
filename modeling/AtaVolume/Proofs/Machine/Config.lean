/-
AtaVolume.Proofs.Machine.Config — what an accepted configuration looks like.

The text of a variable is taken apart in a few ways, and each of them checks what it
takes: an image has a path and a size that 28 bits address, a poll budget is positive.
`MachineConfig.ofLookup_eq_ok` turns the sequence of reads into one fact a variable,
and `MachineConfig.Proper` is what all accepted configurations have in common.
-/
import AtaVolume.Machine.Config
import AtaVolume.Proofs.Checks

namespace AtaVolume

/-! ## §1 Images -/

/-- An image that can back a drive: it has a path, and a size that 28 bits address. -/
structure DiskSpec.Proper (spec : DiskSpec) : Prop where
  path : spec.path ≠ ""
  pos : 1 ≤ spec.sectors.toNat
  bounded : spec.sectors.toNat ≤ lba28Max

namespace DiskSpec

variable {name value : String} {spec : DiskSpec} {sectors : UInt32}

theorem proper_default : default.Proper where
  path := by simp [default]
  pos := by decide
  bounded := by decide

theorem bounds_readSectors {digits : List Char} (h : readSectors name digits = .ok sectors) :
    1 ≤ sectors.toNat ∧ sectors.toNat ≤ lba28Max := by
  unfold readSectors at h
  cases hread : Text.readNatural 10 digits with
  | none => simp [hread] at h
  | some n =>
    simp only [hread] at h
    split at h
    case isTrue hn =>
      cases h
      have hlt : n < 2 ^ 32 := Nat.lt_of_le_of_lt hn.2 (by decide)
      rw [UInt32.toNat_ofNat_of_lt' hlt]
      exact ⟨hn.1, hn.2⟩
    case isFalse => cases h

theorem proper_withPath {path : List Char} (h : withPath name path sectors = .ok spec)
    (hpos : 1 ≤ sectors.toNat) (hbounded : sectors.toNat ≤ lba28Max) : spec.Proper := by
  unfold withPath at h
  split at h
  case isTrue => cases h
  case isFalse hpath =>
    cases h
    exact ⟨by simpa using hpath, hpos, hbounded⟩

/-- **An image that is accepted is proper.** -/
theorem proper_parse (h : parse name value = .ok spec) : spec.Proper := by
  -- a text without a size gets the default one
  have hwhole : ∀ {path}, withPath name path defaultSectors = .ok spec → spec.Proper :=
    fun hpath => proper_withPath hpath (by decide) (by decide)
  unfold parse at h
  simp only at h
  split at h
  case h_1 path digits _ =>
    split at h
    case isTrue =>
      obtain ⟨sectors, hsectors, hpath⟩ := bind_eq_ok.1 h
      obtain ⟨hpos, hbounded⟩ := bounds_readSectors hsectors
      exact proper_withPath hpath hpos hbounded
    case isFalse => exact hwhole h
  case h_2 => exact hwhole h

end DiskSpec

namespace MachineConfig

variable {lookup : String → Option String} {slot : Slot} {config : MachineConfig}

/-! ## §2 Variables -/

/-- What a slot's variable says: nothing if it is not set, and a proper image if it is. -/
theorem readDisk_eq_ok {disk : Option DiskSpec} (h : readDisk lookup slot = .ok disk) :
    disk.isSome = (lookup (diskVariable slot)).isSome ∧ ∀ spec, disk = some spec → spec.Proper := by
  unfold readDisk at h
  cases hvalue : lookup (diskVariable slot) with
  | none =>
    simp only [hvalue] at h
    cases h
    simp
  | some value =>
    simp only [hvalue] at h
    cases hparse : DiskSpec.parse (diskVariable slot) value with
    | error e => simp [hparse, Except.map] at h
    | ok spec =>
      simp only [hparse, Except.map] at h
      cases h
      refine ⟨rfl, ?_⟩
      rintro _ ⟨⟩
      exact DiskSpec.proper_parse hparse

theorem pos_readPollBudget {budget : UInt32} (h : readPollBudget lookup = .ok budget) :
    1 ≤ budget.toNat := by
  unfold readPollBudget at h
  cases hvalue : lookup pollBudgetVariable with
  | none =>
    simp only [hvalue] at h
    cases h
    decide
  | some value =>
    simp only [hvalue] at h
    cases hread : Text.readWord (Text.trim value.toList) with
    | none => simp [hread] at h
    | some n =>
      simp only [hread] at h
      split at h
      case isTrue hpos =>
        cases h
        exact hpos
      case isFalse => cases h

/-! ## §3 Configurations -/

/-- A configuration is accepted if every variable that is read is. Its images are those
that are read, or the default one in slot 0 if there are none. -/
theorem ofLookup_eq_ok (h : ofLookup lookup = .ok config) :
    ∃ read : Slot → Option DiskSpec, (∀ slot, readDisk lookup slot = .ok (read slot))
      ∧ (∀ slot, config.disks.get slot
          = if ∀ slot, read slot = none then if slot = 0 then some DiskSpec.default else none
            else read slot)
      ∧ readPollBudget lookup = .ok config.pollBudget := by
  simp only [ofLookup, bind_eq_ok, pure, Except.pure, Except.ok.injEq] at h
  obtain ⟨d₀, h₀, d₁, h₁, d₂, h₂, d₃, h₃, budget, hbudget, rfl⟩ := h
  refine ⟨#v[d₀, d₁, d₂, d₃].get, forall_slot h₀ h₁ h₂ h₃, fun slot => ?_, hbudget⟩
  have hall : (∀ slot, #v[d₀, d₁, d₂, d₃].get slot = none)
      ↔ d₀.isNone && d₁.isNone && d₂.isNone && d₃.isNone := by
    simp [Fin.forall_fin_succ, and_assoc, Vector.get]
  simp only [hall]
  split
  · revert slot
    exact forall_slot rfl rfl rfl rfl
  · rfl

/-- What every configuration that is accepted for the variables of `lookup` has. -/
structure Proper (lookup : String → Option String) (config : MachineConfig) : Prop where
  image : ∀ slot spec, config.disks.get slot = some spec → spec.Proper
  /-- If an image is configured at all, the images are those that are configured. -/
  configured : (∃ slot, (lookup (diskVariable slot)).isSome) →
    ∀ slot, (config.disks.get slot).isSome = (lookup (diskVariable slot)).isSome
  default : (∀ slot, lookup (diskVariable slot) = none) →
    ∀ slot, config.disks.get slot = if slot = 0 then some DiskSpec.default else none
  pollBudget : 1 ≤ config.pollBudget.toNat

/-- **A configuration that is accepted is proper.** -/
theorem proper_ofLookup (h : ofLookup lookup = .ok config) : config.Proper lookup := by
  obtain ⟨read, hread, hdisks, hbudget⟩ := ofLookup_eq_ok h
  have hset : ∀ slot, (read slot).isSome = (lookup (diskVariable slot)).isSome :=
    fun slot => (readDisk_eq_ok (hread slot)).1
  constructor
  case image =>
    intro slot spec hspec
    rw [hdisks] at hspec
    split at hspec
    case isFalse => exact (readDisk_eq_ok (hread slot)).2 spec hspec
    case isTrue =>
      split at hspec
      case isTrue =>
        cases hspec
        exact DiskSpec.proper_default
      case isFalse => cases hspec
  case configured =>
    rintro ⟨other, hother⟩ slot
    have hsome : ¬∀ slot, read slot = none := by
      intro hnone
      simp [← hset, hnone] at hother
    rw [hdisks, if_neg hsome, hset]
  case default =>
    intro hunset slot
    have hnone : ∀ slot, read slot = none := by
      intro slot
      simpa [hunset slot] using hset slot
    rw [hdisks, if_pos hnone]
  case pollBudget => exact pos_readPollBudget hbudget

end MachineConfig

end AtaVolume
