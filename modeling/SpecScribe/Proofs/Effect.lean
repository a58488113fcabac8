import Mathlib

/-!
Running a computation that may fail and that works on a state. What happened before a failure
stays, and the failure skips what follows until it is caught.
-/

namespace SpecScribe.Effect

variable {ε σ α β : Type} {x : ExceptT ε (StateM σ) α} {f : α → ExceptT ε (StateM σ) β}
  {s s' : σ} {a : α} {b : β} {e : ε}

lemma run_bind_ok (f : α → ExceptT ε (StateM σ) β) (h : x.run s = (.ok a, s')) :
    (x >>= f).run s = (f a).run s' := by
  change StateT.run x.run s = _ at h
  change StateT.run (x >>= f).run s = _
  rw [ExceptT.run_bind, StateT.run_bind, h]
  rfl

lemma run_bind_error (f : α → ExceptT ε (StateM σ) β) (h : x.run s = (.error e, s')) :
    (x >>= f).run s = (.error e, s') := by
  change StateT.run x.run s = _ at h
  change StateT.run (x >>= f).run s = _
  rw [ExceptT.run_bind, StateT.run_bind, h]
  rfl

lemma run_bind_eq_ok :
    (x >>= f).run s = (.ok b, s') ↔
      ∃ a s₁, x.run s = (.ok a, s₁) ∧ (f a).run s₁ = (.ok b, s') := by
  rcases h : x.run s with ⟨e | a, s₁⟩
  · rw [run_bind_error f h]
    exact ⟨nofun, by rintro ⟨a, s₂, hx, -⟩; cases hx⟩
  · rw [run_bind_ok f h]
    exact ⟨fun hb => ⟨a, s₁, rfl, hb⟩, by rintro ⟨a, s₂, hx, hb⟩; cases hx; exact hb⟩

lemma run_tryCatch_ok (handler : ε → ExceptT ε (StateM σ) α) (h : x.run s = (.ok a, s')) :
    (tryCatch x handler).run s = (.ok a, s') := by
  change StateT.run x s = _ at h
  change StateT.run (ExceptT.tryCatch x handler) s = _
  unfold ExceptT.tryCatch ExceptT.mk
  rw [StateT.run_bind, h]
  rfl

lemma run_tryCatch_error (handler : ε → ExceptT ε (StateM σ) α) (h : x.run s = (.error e, s')) :
    (tryCatch x handler).run s = (handler e).run s' := by
  change StateT.run x s = _ at h
  change StateT.run (ExceptT.tryCatch x handler) s = _
  unfold ExceptT.tryCatch ExceptT.mk
  rw [StateT.run_bind, h]
  rfl

/-- A handler that never succeeds adds no success. -/
lemma run_tryCatch_eq_ok {handler : ε → ExceptT ε (StateM σ) α}
    (hhandler : ∀ e s₁, (handler e).run s₁ ≠ (.ok a, s')) :
    (tryCatch x handler).run s = (.ok a, s') ↔ x.run s = (.ok a, s') := by
  rcases h : x.run s with ⟨e | a', s₁⟩
  · rw [run_tryCatch_error handler h]
    exact ⟨fun he => absurd he (hhandler e s₁), nofun⟩
  · rw [run_tryCatch_ok handler h]

end SpecScribe.Effect
