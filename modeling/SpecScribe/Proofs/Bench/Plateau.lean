import Mathlib
import SpecScribe.Proofs.Bench.Printing
import SpecScribe.Proofs.Workspace.Places

/-!
A plateau is measured from the first of the least counts. One more count either is less than all
before it and is the first of its kind, or it follows the first least one as the others do. The
counts are those of the notes of earlier rounds, up to one that cannot be read.
-/

namespace SpecScribe.Bench

open Shell Workspace

/-! ### Counts -/

variable {counts history : List ℤ} {n : ℤ} {p : Plateau}

/-- How many counts follow the first of the least ones. -/
def countsSinceLeast (counts : List ℤ) : ℕ :=
  match counts.min? with
  | none => 0
  | some least => (counts.drop (counts.idxOf least + 1)).length

/-- The counts fall to the best one, do not fall below it any more, and as many follow it as the
plateau says. -/
inductive Plateau.Describes (p : Plateau) (counts : List ℤ) : Prop
  | intro (before after : List ℤ) (split : counts = before ++ p.best :: after)
      (above : ∀ x ∈ before, p.best < x) (notBelow : ∀ x ∈ after, p.best ≤ x)
      (since_eq : p.since = after.length)

namespace Plateau.Describes

lemma best_le (h : p.Describes counts) : ∀ x ∈ counts, p.best ≤ x := by
  obtain ⟨before, after, rfl, above, notBelow, -⟩ := h
  simp only [List.forall_mem_append, List.forall_mem_cons]
  exact ⟨fun x hx => (above x hx).le, le_rfl, notBelow⟩

lemma min?_eq (h : p.Describes counts) : counts.min? = some p.best := by
  rw [List.min?_eq_some_iff]
  refine ⟨?_, h.best_le⟩
  obtain ⟨before, after, rfl, -, -, -⟩ := h
  simp

lemma since_eq (h : p.Describes counts) : p.since = countsSinceLeast counts := by
  have hmin := h.min?_eq
  obtain ⟨before, after, rfl, above, -, since_eq⟩ := h
  have hfirst : p.best ∉ before := fun hmem => (above _ hmem).false
  rw [countsSinceLeast, hmin, since_eq]
  dsimp only
  rw [List.idxOf_append_of_notMem hfirst, List.idxOf_cons_self]
  simp

lemma single (n : ℤ) : (⟨n, 0⟩ : Plateau).Describes [n] :=
  .intro [] [] rfl (by simp) (by simp) rfl

/-- One more count. -/
lemma step (h : p.Describes counts) (n : ℤ) : (p.step n).Describes (counts ++ [n]) := by
  have hleast := h.best_le
  unfold Plateau.step
  split_ifs with hn
  · -- the count is below all before it
    exact .intro counts [] rfl (fun x hx => hn.trans_le (hleast x hx)) (by simp) rfl
  · obtain ⟨before, after, rfl, above, notBelow, since_eq⟩ := h
    refine .intro before (after ++ [n]) (by simp) above ?_ ?_
    · rw [List.forall_mem_append, List.forall_mem_singleton]
      exact ⟨notBelow, not_lt.mp hn⟩
    · rw [since_eq, List.length_append, List.length_singleton]

lemma foldl (h : p.Describes counts) (more : List ℤ) :
    (more.foldl Plateau.step p).Describes (counts ++ more) := by
  induction more generalizing p counts with
  | nil => simpa using h
  | cons n more ih => simpa using ih (h.step n)

end Plateau.Describes

namespace History

end History

/-! ### The line that says to stop -/

lemma prefix_append {start : List Char} {a b : String} (h : start <+: a.toList) :
    start <+: (a ++ b).toList := by
  rw [String.toList_append]
  exact h.trans (List.prefix_append _ _)

namespace Round

variable {r : Round}

end Round

end SpecScribe.Bench
