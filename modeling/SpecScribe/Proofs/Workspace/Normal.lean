import Mathlib
import SpecScribe.Proofs.Text.Splitting
import SpecScribe.Workspace.Path

/-!
The normal form of paths. Whatever text a path is read from, it comes out in normal form, and a path
in normal form is read back from the text that it is written as.
-/

namespace SpecScribe.Workspace.Path

/-- At most two slashes. -/
inductive IsRoot : String → Prop
  | none : IsRoot ""
  | one : IsRoot "/"
  | two : IsRoot "//"

/-- Steps that go somewhere, behind a root. -/
structure Normal (p : Path) : Prop where
  root : IsRoot p.root
  steps : ∀ x ∈ p.steps, x ≠ "" ∧ x ≠ "." ∧ '/' ∉ x.toList

variable {p : Path} {root : String} {b : List Char}

lemma isRoot_rootOf (s : List Char) : IsRoot (rootOf s) := by
  unfold rootOf
  split <;> constructor

lemma stepsOf_eq (s : List Char) :
    stepsOf s = ((s.splitOn '/').map String.ofList).filter fun x => x != "" && x != "." := by
  rw [stepsOf, Text.splitOn_singleton]

lemma normal_ofString (s : String) : (ofString s).Normal where
  root := isRoot_rootOf s.toList
  steps x hx := by
    rw [ofString, stepsOf_eq, List.mem_filter, List.mem_map] at hx
    obtain ⟨⟨piece, hpiece, rfl⟩, hkept⟩ := hx
    rw [Bool.and_eq_true, bne_iff_ne, bne_iff_ne] at hkept
    refine ⟨hkept.1, hkept.2, ?_⟩
    rw [String.toList_ofList]
    exact Text.notMem_of_mem_splitOn hpiece

/-! ### Reading a written path -/

/-- The steps of a path, written out. -/
def body (steps : List String) : List Char := ['/'].intercalate (steps.map String.toList)

lemma toString_eq (p : Path) :
    p.toString = if p.root = "" ∧ p.steps = [] then "."
      else String.ofList (p.root.toList ++ body p.steps) := by
  have hbody : ("/".intercalate p.steps).toList = body p.steps := String.toList_intercalate
  simp only [toString, Bool.and_eq_true, beq_iff_eq, List.isEmpty_iff]
  split_ifs
  · rfl
  · rw [← hbody, ← String.toList_append, String.ofList_toList]

lemma stepsOf_slash (b : List Char) : stepsOf ('/' :: b) = stepsOf b := by
  rw [stepsOf_eq, stepsOf_eq, List.splitOn_cons_eq_if_modifyHead]
  rfl

lemma stepsOf_body (hp : p.Normal) : stepsOf (body p.steps) = p.steps := by
  rcases hsteps : p.steps with _ | ⟨x, rest⟩
  · rfl
  have hslash : ∀ piece ∈ p.steps.map String.toList, '/' ∉ piece :=
    List.forall_mem_map.mpr fun y hy => (hp.steps y hy).2.2
  rw [← hsteps, stepsOf_eq, body, List.splitOn_intercalate '/' hslash (by simp [hsteps]),
    List.map_map, List.filter_eq_self.mpr]
  · simp [Function.comp_def]
  · intro y hy
    simp only [List.mem_map, Function.comp_apply, String.ofList_toList, exists_eq_right] at hy
    obtain ⟨hempty, hdot, -⟩ := hp.steps y hy
    simp [hempty, hdot]

lemma head?_body (hp : p.Normal) : (body p.steps).head? ≠ some '/' := by
  rcases hsteps : p.steps with _ | ⟨x, rest⟩
  · simp [body]
  obtain ⟨hempty, -, hslash⟩ := hp.steps x (hsteps ▸ List.mem_cons_self ..)
  obtain ⟨c, r, hx⟩ := List.exists_cons_of_ne_nil (mt String.toList_eq_nil_iff.mp hempty)
  have hc : c ≠ '/' := fun h => hslash (by simp [hx, h])
  cases rest <;> simp [body, hx, hc]

/-- The root is seen, as the steps do not begin with a slash. -/
lemma rootOf_append (hroot : IsRoot root) (hb : b.head? ≠ some '/') :
    rootOf (root.toList ++ b) = root := by
  rcases b with _ | ⟨c, r⟩
  · cases hroot <;> rfl
  have hc : c ≠ '/' := fun h => hb (congrArg some h)
  cases hroot <;> simp [rootOf, hc]

lemma stepsOf_append (hroot : IsRoot root) (b : List Char) :
    stepsOf (root.toList ++ b) = stepsOf b := by
  cases hroot with
  | none => rfl
  | one => exact stepsOf_slash b
  | two => exact (stepsOf_slash _).trans (stepsOf_slash b)

/-- A path in normal form is read back as it was. -/
lemma ofString_toString (hp : p.Normal) : ofString p.toString = p := by
  rw [toString_eq]
  split_ifs with h
  · obtain ⟨root, steps⟩ := p
    obtain ⟨rfl, rfl⟩ := h
    rfl
  · rw [ofString, String.toList_ofList, rootOf_append hp.root (head?_body hp),
      stepsOf_append hp.root, stepsOf_body hp]

end SpecScribe.Workspace.Path
