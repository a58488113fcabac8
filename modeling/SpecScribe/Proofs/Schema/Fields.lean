import Mathlib
import SpecScribe.Schema.Rule

/-!
When the fields of a record are read, and as what. A given field is read by its rule, whether it is
required or has a default; a default is taken as it is, and no condition on the field is tested for
it.
-/

namespace SpecScribe.Schema

variable {α : Type} {a default : α} {ms : Members} {name : String} {rule : Rule α}

lemma under_eq_ok {step : Step} {c : Checked α} : Checked.under step c = .ok a ↔ c = .ok a := by
  cases c <;> simp [Checked.under]

lemma ensure_eq_ok {c : Checked α} {check : α → Option Reason} :
    Checked.ensure c check = .ok a ↔ c = .ok a ∧ check a = none := by
  cases c with
  | error es => simp [Checked.ensure]
  | ok b =>
    rw [Except.ok.injEq]
    cases hcheck : check b with
    | none =>
      simp only [Checked.ensure, hcheck, Except.ok.injEq]
      exact ⟨fun h => ⟨h, h ▸ hcheck⟩, fun h => h.1⟩
    | some r =>
      simp only [Checked.ensure, hcheck, refuse, reduceCtorEq, false_iff, not_and]
      rintro rfl
      simp [hcheck]

lemma atLeast_eq_ok {limit n : ℤ} {rule : Rule ℤ} {d : Datum} :
    atLeast limit rule d = .ok n ↔ rule d = .ok n ∧ limit ≤ n := by
  rw [atLeast, ensure_eq_ok, ite_eq_left_iff]
  simp

lemma required_eq_ok :
    required ms name rule = .ok a ↔ ∃ d, ms.get? name = some d ∧ rule d = .ok a := by
  rw [required, under_eq_ok]
  cases ms.get? name <;> simp [refuse]

/-- A field that is not given has its default. -/
lemma withDefault_eq_ok :
    withDefault ms name rule default = .ok a ↔
      ms.get? name = none ∧ a = default ∨ ∃ d, ms.get? name = some d ∧ rule d = .ok a := by
  rw [withDefault]
  cases ms.get? name with
  | none => simp [eq_comm]
  | some d => simp [under_eq_ok]

/-- A condition on a field says nothing of its default. -/
lemma ensureGiven_eq_ok {c : Checked α} {check : α → Option String} :
    ensureGiven ms name c check = .ok a ↔
      c = .ok a ∧ (ms.get? name ≠ none → check a = none) := by
  unfold ensureGiven
  cases ms.get? name with
  | none => simp
  | some d =>
    cases c with
    | error es => simp
    | ok b =>
      rw [Except.ok.injEq]
      cases hcheck : check b with
      | none =>
        simp only [hcheck, Except.ok.injEq]
        exact ⟨fun h => ⟨h, fun _ => h ▸ hcheck⟩, fun h => h.1⟩
      | some m =>
        simp only [hcheck, reduceCtorEq, false_iff, not_and]
        rintro rfl
        simp [hcheck]

end SpecScribe.Schema
