/-
AtaVolume.Proofs.Volume.Performs — calls on a volume as lists of edits.

`Runs` is a Hoare triple over what the drive tells. A call `Performs` a list of
edits if it makes all of them when it ends well, and the first ones of them
when a device call failed; a sequence of calls performs the edits of the first
and then those of the second (`Performs.bind`). A call that `Refuses` changes
nothing.
-/
import AtaVolume.Proofs.Device.Stores
import AtaVolume.Proofs.Volume.Contents
import AtaVolume.Volume.Basic

namespace AtaVolume

namespace DriveView

variable {δ α β : Type} (v : DriveView δ)

/-- What the drive tells as a volume. -/
def contents (s : δ) : Contents := .of v.size (v.image s)

/-- The device is in order, and the call ended with what is allowed. -/
def Ends (Q : α → Contents → Prop) (E : VolumeError → Contents → Prop) :
    EStateM.Result VolumeError δ α → Prop
  | .ok a s => v.Sound s ∧ Q a (v.contents s)
  | .error e s => v.Sound s ∧ E e (v.contents s)

/-- A call on a drive that tells `κ` ends so. -/
structure Runs (κ : Contents) (x : VolumeAction δ α) (Q : α → Contents → Prop)
    (E : VolumeError → Contents → Prop) : Prop where
  ends : ∀ s, v.Sound s → v.contents s = κ → v.Ends Q E (x s)

/-- The call makes the edits and gives a result in `R`, or fails after the
first ones of them. -/
def Performs (fails : Prop) (κ : Contents) (x : VolumeAction δ α) (edits : List Edit)
    (R : α → Prop) : Prop :=
  v.Runs κ x (fun a κ' => R a ∧ κ' = κ.apply edits)
    (fun _ κ' => fails ∧ ∃ made, made <+: edits ∧ κ' = κ.apply made)

/-- The call changes nothing and fails with `e`, or because the device does. -/
def Refuses (fails : Prop) (κ : Contents) (x : VolumeAction δ α) (e : VolumeError) : Prop :=
  v.Runs κ x (fun _ _ => False) (fun e' κ' => (fails ∨ e' = e) ∧ κ' = κ)

variable {v} {κ : Contents} {x : VolumeAction δ α} {f : α → VolumeAction δ β}

/-! ## §1 Triples -/

theorem Ends.mono {Q Q' : α → Contents → Prop} {E E' : VolumeError → Contents → Prop}
    {r : EStateM.Result VolumeError δ α} (h : v.Ends Q E r) (hQ : ∀ a κ, Q a κ → Q' a κ)
    (hE : ∀ e κ, E e κ → E' e κ) : v.Ends Q' E' r := by
  cases r with
  | ok a s => exact ⟨h.1, hQ _ _ h.2⟩
  | error e s => exact ⟨h.1, hE _ _ h.2⟩

theorem Runs.mono {Q Q' : α → Contents → Prop} {E E' : VolumeError → Contents → Prop}
    (h : v.Runs κ x Q E) (hQ : ∀ a κ, Q a κ → Q' a κ) (hE : ∀ e κ, E e κ → E' e κ) :
    v.Runs κ x Q' E' := by
  constructor
  intro s hs hκ
  exact (h.ends s hs hκ).mono hQ hE

theorem Runs.pure {Q : α → Contents → Prop} {E : VolumeError → Contents → Prop} {a : α}
    (h : Q a κ) : v.Runs κ (Pure.pure a) Q E := by
  constructor
  rintro s hs rfl
  exact ⟨hs, h⟩

theorem Runs.throw {Q : α → Contents → Prop} {E : VolumeError → Contents → Prop} {e : VolumeError}
    (h : E e κ) : v.Runs κ (throw e : VolumeAction δ α) Q E := by
  constructor
  rintro s hs rfl
  exact ⟨hs, h⟩

/-- One call after the other. -/
theorem Runs.bind {Q : α → Contents → Prop} {Q' : β → Contents → Prop}
    {E : VolumeError → Contents → Prop} (hx : v.Runs κ x Q E)
    (hf : ∀ a κ', Q a κ' → v.Runs κ' (f a) Q' E) : v.Runs κ (x >>= f) Q' E := by
  constructor
  intro s hs hκ
  have hrun := hx.ends s hs hκ
  simp only [Bind.bind, EStateM.bind]
  cases hresult : x s with
  | ok a s' =>
    rw [hresult] at hrun
    exact (hf a _ hrun.2).ends s' hrun.1 rfl
  | error e s' =>
    rw [hresult] at hrun
    exact hrun

/-! ## §2 Edits -/

variable {fails : Prop} {edits more : List Edit} {R : α → Prop} {R' : β → Prop}

theorem Performs.pure {a : α} (h : R a) : v.Performs fails κ (Pure.pure a) [] R :=
  Runs.pure ⟨h, rfl⟩

/-- **The edits of a sequence are those of its calls.** -/
theorem Performs.bind (hx : v.Performs fails κ x edits R)
    (hf : ∀ a, R a → v.Performs fails (κ.apply edits) (f a) more R') :
    v.Performs fails κ (x >>= f) (edits ++ more) R' := by
  refine Runs.bind (Runs.mono hx (fun _ _ h => h) ?_) ?_
  · rintro e κ' ⟨hfails, made, hmade, rfl⟩
    exact ⟨hfails, made, hmade.trans (List.prefix_append edits more), rfl⟩
  · rintro a κ' ⟨ha, rfl⟩
    refine Runs.mono (hf a ha) ?_ ?_
    · rintro b κ' ⟨hb, rfl⟩
      exact ⟨hb, (κ.apply_append edits more).symm⟩
    · rintro e κ' ⟨hfails, made, hmade, rfl⟩
      exact ⟨hfails, edits ++ made, (List.prefix_append_right_inj edits).2 hmade,
        (κ.apply_append edits made).symm⟩

/-- A call that only reads leaves the edits to what follows. -/
theorem Performs.then (hx : v.Performs fails κ x [] R)
    (hf : ∀ a, R a → v.Performs fails κ (f a) more R') : v.Performs fails κ (x >>= f) more R' :=
  hx.bind hf

theorem Performs.map (hx : v.Performs fails κ x edits R) {g : α → β} {R' : β → Prop}
    (hg : ∀ a, R a → R' (g a)) :
    v.Performs fails κ (x >>= fun a => Pure.pure (g a)) edits R' := by
  have hbind : v.Performs fails κ (x >>= fun a => Pure.pure (g a)) (edits ++ []) R' :=
    hx.bind fun a ha => .pure (hg a ha)
  rwa [List.append_nil] at hbind

/-- A refusal after a call that only reads. -/
theorem Performs.refuses (hx : v.Performs fails κ x [] R) {e : VolumeError}
    (hf : ∀ a, R a → v.Refuses fails κ (f a) e) : v.Refuses fails κ (x >>= f) e := by
  refine Runs.bind (Runs.mono hx (fun _ _ h => h) ?_) ?_
  · rintro e' κ' ⟨hfails, made, hmade, rfl⟩
    rw [List.prefix_nil.1 hmade]
    exact ⟨.inl hfails, rfl⟩
  · rintro a κ' ⟨ha, rfl⟩
    exact hf a ha

theorem Refuses.throw {e : VolumeError} : v.Refuses fails κ (throw e : VolumeAction δ α) e :=
  Runs.throw ⟨.inr rfl, rfl⟩

/-- A call that refuses ends what would follow it. -/
theorem Refuses.bind {e : VolumeError} (hx : v.Refuses fails κ x e) :
    v.Refuses fails κ (x >>= f) e :=
  Runs.bind hx fun _ _ h => h.elim

/-- Edits before a call of which only the end matters. -/
theorem Performs.runs (hx : v.Performs fails κ x edits R) {Q : β → Contents → Prop}
    (hf : ∀ a, R a → v.Runs (κ.apply edits) (f a) Q (fun _ _ => fails)) :
    v.Runs κ (x >>= f) Q (fun _ _ => fails) := by
  refine Runs.bind (Runs.mono hx (fun _ _ h => h) fun _ _ he => he.1) ?_
  rintro a κ' ⟨ha, rfl⟩
  exact hf a ha

/-- What the edits establish holds when the call ends well, and what all parts of them
establish when it fails. -/
theorem Performs.holds {Q Q' : Contents → Prop} (hx : v.Performs fails κ x edits R)
    (h : Q (κ.apply edits) ∧ ∀ made, made <+: edits → Q' (κ.apply made)) :
    v.Runs κ x (fun _ κ' => Q κ') (fun _ κ' => Q' κ') := by
  refine Runs.mono hx ?_ ?_
  · rintro _ _ ⟨-, rfl⟩
    exact h.1
  · rintro _ _ ⟨-, made, hmade, rfl⟩
    exact h.2 made hmade

theorem Performs.always {Q : Contents → Prop} (hx : v.Performs fails κ x edits R)
    (hQ : ∀ made, made <+: edits → Q (κ.apply made)) :
    v.Runs κ x (fun _ κ' => Q κ') (fun _ κ' => Q κ') :=
  hx.holds ⟨hQ edits (List.prefix_refl edits), hQ⟩

/-- A call that refuses leaves what there was. -/
theorem Refuses.holds {Q Q' : Contents → Prop} {e : VolumeError} (hx : v.Refuses fails κ x e)
    (hQ : Q' κ) : v.Runs κ x (fun _ κ' => Q κ') (fun _ κ' => Q' κ') := by
  refine Runs.mono hx (fun _ _ h => h.elim) ?_
  rintro _ _ ⟨-, rfl⟩
  exact hQ

/-! ## §3 Devices that do not fail -/

theorem Performs.ok {s : δ} (h : v.Performs False κ x edits R) (hs : v.Sound s)
    (hκ : v.contents s = κ) :
    ∃ a s', x s = .ok a s' ∧ R a ∧ v.Sound s' ∧ v.contents s' = κ.apply edits := by
  have hend := h.ends s hs hκ
  cases hresult : x s with
  | ok a s' =>
    rw [hresult] at hend
    exact ⟨a, s', rfl, hend.2.1, hend.1, hend.2.2⟩
  | error e s' =>
    rw [hresult] at hend
    exact hend.2.1.elim

theorem Refuses.error {s : δ} {e : VolumeError} (h : v.Refuses False κ x e) (hs : v.Sound s)
    (hκ : v.contents s = κ) : ∃ s', x s = .error e s' ∧ v.Sound s' ∧ v.contents s' = κ := by
  have hend := h.ends s hs hκ
  cases hresult : x s with
  | ok a s' =>
    rw [hresult] at hend
    exact hend.2.elim
  | error e' s' =>
    rw [hresult] at hend
    obtain ⟨hsound, hreason, hsame⟩ := hend
    obtain rfl := hreason.resolve_left id
    exact ⟨s', rfl, hsound, hsame⟩

end DriveView

end AtaVolume
