import Mathlib
import SpecScribe.Fault

/-!
Computations that may end in a fault. A sequence succeeds exactly when each of its steps does, and
so does a list.
-/

namespace SpecScribe

variable {α β : Type} {f : α → Except Fault β} {xs : List α}

lemma exists_right_of_mem {R : α → β → Prop} {ys : List β} (h : List.Forall₂ R xs ys) {x : α}
    (hx : x ∈ xs) : ∃ y ∈ ys, R x y := by
  induction h with
  | nil => cases hx
  | cons hxy _ ih =>
    rcases List.mem_cons.mp hx with rfl | hx
    · exact ⟨_, List.mem_cons_self .., hxy⟩
    · obtain ⟨y, hy, hR⟩ := ih hx
      exact ⟨y, List.mem_cons_of_mem _ hy, hR⟩

lemma exists_left_of_mem {R : α → β → Prop} {ys : List β} (h : List.Forall₂ R xs ys) {y : β}
    (hy : y ∈ ys) : ∃ x ∈ xs, R x y :=
  exists_right_of_mem (R := flip R) h.flip hy

lemma mapM_eq_ok_iff {ε : Type} {f : α → Except ε β} {ys : List β} :
    xs.mapM f = .ok ys ↔ List.Forall₂ (fun x y => f x = .ok y) xs ys := by
  induction xs generalizing ys with
  | nil =>
    rw [List.mapM_nil, List.forall₂_nil_left_iff]
    exact ⟨fun h => by cases h; rfl, fun h => h ▸ rfl⟩
  | cons x xs ih =>
    rw [List.mapM_cons, List.forall₂_cons_left_iff]
    constructor
    · intro h
      rcases hx : f x with e | y <;> rw [hx] at h
      · cases h
      rcases hxs : xs.mapM f with e | ys' <;> rw [hxs] at h <;> cases h
      exact ⟨y, ys', rfl, ih.mp hxs, rfl⟩
    · rintro ⟨y, ys', hx, hxs, rfl⟩
      rw [hx, ih.mpr hxs]
      rfl

lemma mapM_eq_ok_map {ε : Type} {f : α → Except ε β} {g : α → β}
    (h : ∀ x ∈ xs, f x = .ok (g x)) :
    xs.mapM f = .ok (xs.map g) := by
  rw [mapM_eq_ok_iff, List.forall₂_map_right_iff, List.forall₂_same]
  exact h

lemma mapM_map_eq_ok_iff {γ : Type} {g : γ → α} {zs : List γ} {ys : List β} :
    (zs.map g).mapM f = .ok ys ↔ zs.mapM (fun z => f (g z)) = .ok ys := by
  rw [mapM_eq_ok_iff, mapM_eq_ok_iff, List.forall₂_map_left_iff]

/-- Each element gives a result that is related to it, and so do all of them. -/
lemma exists_mapM_eq_ok {R : α → β → Prop} (h : ∀ x ∈ xs, ∃ y, f x = .ok y ∧ R x y) :
    ∃ ys, xs.mapM f = .ok ys ∧ List.Forall₂ R xs ys := by
  induction xs with
  | nil => exact ⟨[], rfl, .nil⟩
  | cons x xs ih =>
    rw [List.forall_mem_cons] at h
    obtain ⟨⟨y, hy, hR⟩, hrest⟩ := h
    obtain ⟨ys, hys, hRs⟩ := ih hrest
    refine ⟨y :: ys, ?_, hRs.cons hR⟩
    rw [List.mapM_cons, hy, hys]
    rfl

lemma exists_mapM_eq_ok_of_each (h : ∀ x ∈ xs, ∃ y, f x = .ok y) : ∃ ys, xs.mapM f = .ok ys := by
  obtain ⟨ys, hys, -⟩ := exists_mapM_eq_ok fun x hx => (h x hx).imp fun _ hy => ⟨hy, hy⟩
  exact ⟨ys, hys⟩

lemma mapM_id_eq_ok {rs : List (Except Fault α)} {as : List α} (h : rs.mapM id = .ok as) :
    rs = as.map .ok := by
  rw [mapM_eq_ok_iff] at h
  rw [← List.forall₂_eq_eq_eq, List.forall₂_map_right_iff]
  exact h

/-! ### Success -/

section Success

variable {x : Except Fault α} {g : α → Except Fault β}

lemma isOk_iff {ε : Type} {x : Except ε α} : x.isOk ↔ ∃ a, x = .ok a := by
  cases x <;> simp [Except.isOk, Except.toBool]

@[simp] lemma isOk_ok {ε : Type} (a : α) : (.ok a : Except ε α).isOk = true := rfl

@[simp] lemma isOk_error {ε : Type} (e : ε) : (.error e : Except ε α).isOk = false := rfl

@[simp] lemma isOk_pure (a : α) : (pure a : Except Fault α).isOk = true := rfl

lemma ok_bind (a : α) (g : α → Except Fault β) : (.ok a >>= g) = g a := rfl

lemma bind_eq_ok {b : β} : x >>= g = .ok b ↔ ∃ a, x = .ok a ∧ g a = .ok b := by
  cases x <;> simp [bind, Except.bind]

lemma isOk_bind : (x >>= g).isOk ↔ ∃ a, x = .ok a ∧ (g a).isOk := by
  cases x with
  | error e => simp [bind, Except.bind]
  | ok a => simp [bind, Except.bind]

/-- Whether what follows succeeds does not depend on the result of the first step. -/
lemma isOk_bind_iff {P : Prop} (h : ∀ a, (g a).isOk ↔ P) : (x >>= g).isOk ↔ x.isOk ∧ P := by
  rw [isOk_bind, isOk_iff]
  exact ⟨fun ⟨a, ha, hg⟩ => ⟨⟨a, ha⟩, (h a).mp hg⟩, fun ⟨⟨a, ha⟩, hP⟩ => ⟨a, ha, (h a).mpr hP⟩⟩

/-- What follows succeeds on every result, so only the first step counts. -/
lemma isOk_bind_of_forall (h : ∀ a, (g a).isOk) : (x >>= g).isOk = x.isOk := by
  rw [Bool.eq_iff_iff, isOk_bind_iff fun a => iff_true_intro (h a), and_true]

@[simp] lemma isOk_map {ε : Type} {x : Except ε α} (g : α → β) : (x.map g).isOk = x.isOk := by
  cases x <;> rfl

lemma isOk_mapM : (xs.mapM f).isOk ↔ ∀ x ∈ xs, (f x).isOk := by
  induction xs with
  | nil => simp
  | cons x xs ih =>
    have hrest : ∀ y, (xs.mapM f >>= fun ys => pure (y :: ys)).isOk = (xs.mapM f).isOk :=
      fun y => isOk_bind_of_forall fun _ => rfl
    rw [List.mapM_cons, isOk_bind, List.forall_mem_cons, ← ih, isOk_iff]
    simp only [hrest, exists_and_right]

end Success

end SpecScribe
