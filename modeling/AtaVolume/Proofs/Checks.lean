/-
AtaVolume.Proofs.Checks — calls that check before they act.

A call that refuses its arguments one check after the other ends well only if it
passed them all. With these lemmas `simp` turns such a call that ended well into
the list of its checks. Calls on a list of arguments, all of which pass, give the
list of their values (`mapM_eq_some`).
-/

namespace AtaVolume

variable {ε α β : Type}

theorem bind_eq_ok {x : Except ε α} {f : α → Except ε β} {b : β} :
    (x >>= f) = .ok b ↔ ∃ a, x = .ok a ∧ f a = .ok b := by
  cases x <;> simp [bind, Except.bind]

theorem throw_ne_ok {e : ε} {a : α} : (throw e : Except ε α) ≠ .ok a := by
  simp [throw, throwThe, MonadExceptOf.throw]

/-- The last check of a call. -/
theorem refuse_eq_ok {p : Prop} [Decidable p] {e : ε} {x : Except ε α} {a : α} :
    (if p then throw e else x) = .ok a ↔ ¬ p ∧ x = .ok a := by
  by_cases h : p <;> simp [h, throw_ne_ok]

/-- A check before others. -/
theorem refused_eq_ok {p : Prop} [Decidable p] {e : ε} {f : β → Except ε α} {x : Except ε α}
    {a : α} : (if p then throw e >>= f else x) = .ok a ↔ ¬ p ∧ x = .ok a := by
  have hthrow : (throw e >>= f : Except ε α) = throw e := rfl
  rw [hthrow, refuse_eq_ok]

/-- Calls that all end well give all their values. -/
theorem mapM_eq_some {f : α → Option β} {g : α → β} (as : List α)
    (h : ∀ a ∈ as, f a = some (g a)) : as.mapM f = some (as.map g) := by
  induction as with
  | nil => rfl
  | cons a as ih =>
    have htail := ih fun b hb => h b (List.mem_cons_of_mem a hb)
    rw [List.mapM_cons, h a List.mem_cons_self, htail]
    rfl

end AtaVolume
