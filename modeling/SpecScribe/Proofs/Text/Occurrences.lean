import Mathlib
import SpecScribe.Text.Search

/-!
Where a pattern occurs in a text. The search from the end finds the last place of all. In a list of
names that is joined by a separator, the separator occurs between the names and nowhere else, if no
name is empty or has a character of it: a piece of a separator is never followed by the rest of
another one.
-/

namespace SpecScribe.Text

variable {pat sep s a b : List Char} {names : List (List Char)} {i k n : ℕ}

/-- The pattern stands in the text, `i` characters from its start. -/
def OccursAt (pat s : List Char) (i : ℕ) : Prop := pat <+: s.drop i

lemma not_occursAt_nil (hpat : pat ≠ []) (i : ℕ) : ¬ OccursAt pat [] i := by
  rw [OccursAt, List.drop_nil, List.prefix_nil]
  exact hpat

/-! ### The last place -/

lemma findLast?_eq_none (hpat : pat ≠ []) : findLast? pat s = none ↔ ∀ i, ¬ OccursAt pat s i := by
  induction s with
  | nil => simp [findLast?, hpat, not_occursAt_nil hpat]
  | cons c s ih =>
    rw [findLast?]
    rcases hs : findLast? pat s with _ | j
    · have hlater : ∀ i, ¬ OccursAt pat (c :: s) (i + 1) := ih.mp hs
      rw [← Nat.and_forall_add_one, and_iff_left hlater]
      simp [OccursAt]
    · have hlater : ∃ i, OccursAt pat s i := by
        by_contra hnone
        rw [ih.mpr (not_exists.mp hnone)] at hs
        cases hs
      obtain ⟨i, hi⟩ := hlater
      exact iff_of_false nofun fun hnone => hnone (i + 1) hi

lemma findLast?_eq_some (hpat : pat ≠ []) :
    findLast? pat s = some i ↔ IsGreatest {j | OccursAt pat s j} i := by
  have hfound : ∀ j, findLast? pat s = some j → IsGreatest {j | OccursAt pat s j} j := by
    induction s with
    | nil => simp [findLast?, hpat]
    | cons c s ih =>
      intro j h
      rw [findLast?] at h
      rcases hs : findLast? pat s with _ | l <;> rw [hs] at h
      · -- there is no place behind the first character
        have hnone := (findLast?_eq_none hpat).mp hs
        split_ifs at h with hfirst
        cases h
        refine ⟨List.isPrefixOf_iff_prefix.mp hfirst, fun m hm => ?_⟩
        cases m with
        | zero => exact le_rfl
        | succ m => exact absurd hm (hnone m)
      · cases h
        obtain ⟨hl, hlast⟩ := ih l hs
        refine ⟨hl, fun m hm => ?_⟩
        cases m with
        | zero => exact Nat.zero_le _
        | succ m => exact Nat.succ_le_succ (hlast hm)
  refine ⟨hfound i, fun h => ?_⟩
  rcases hs : findLast? pat s with _ | j
  · exact absurd h.1 ((findLast?_eq_none hpat).mp hs i)
  · rw [(hfound j hs).unique h]

/-! ### Places in a part of a text -/

/-- The start of a text has the places whose pattern ends in it. -/
lemma occursAt_take (hpat : pat ≠ []) :
    OccursAt pat (s.take n) i ↔ OccursAt pat s i ∧ i + pat.length ≤ n := by
  have hlength := List.length_pos_iff.mpr hpat
  rw [OccursAt, OccursAt, List.drop_take, List.prefix_take_iff]
  exact and_congr_right fun _ => by omega

lemma occursAt_append_right (a b : List Char) :
    OccursAt pat (a ++ b) (a.length + i) ↔ OccursAt pat b i := by
  rw [OccursAt, OccursAt, List.drop_length_add_append]

/-- No place begins in a text that shares no character with the pattern. -/
lemma occursAt_append_of_disjoint (hpat : pat ≠ []) (ha : a.Disjoint pat) :
    OccursAt pat (a ++ b) i ↔ ∃ j, i = a.length + j ∧ OccursAt pat b j := by
  constructor
  · intro h
    rcases lt_or_ge i a.length with hi | hi
    · -- the first character of the pattern would be one of `a`
      obtain ⟨c, r, rfl⟩ := List.exists_cons_of_ne_nil hpat
      rw [OccursAt, List.drop_append_of_le_length hi.le, List.drop_eq_getElem_cons hi,
        List.cons_append, List.cons_prefix_cons] at h
      exact absurd (h.1 ▸ List.mem_cons_self) (ha (List.getElem_mem hi))
    · refine ⟨i - a.length, by omega, (occursAt_append_right a b).mp ?_⟩
      rwa [Nat.add_sub_cancel' hi]
  · rintro ⟨j, rfl, hj⟩
    exact (occursAt_append_right a b).mpr hj

/-- Behind a pattern that is followed by a character of another kind, places do not overlap with
it. -/
lemma occursAt_self_append {c : Char} (hc : c ∉ pat) :
    OccursAt pat (pat ++ c :: b) i ↔ i = 0 ∨ ∃ j, i = pat.length + j ∧ OccursAt pat (c :: b) j := by
  constructor
  · intro h
    rcases Nat.eq_zero_or_pos i with hi | hi
    · exact .inl hi
    rcases lt_or_ge i pat.length with hlt | hge
    · -- the pattern would reach over `c`
      rw [OccursAt, List.drop_append_of_le_length hlt.le] at h
      have hshort : (pat.drop i).length < pat.length := by
        rw [List.length_drop]
        omega
      have hreach : pat.drop i ++ [c] <+: pat :=
        List.prefix_of_prefix_length_le ⟨b, by simp⟩ h (by simpa using hshort)
      exact absurd (hreach.subset (by simp)) hc
    · refine .inr ⟨i - pat.length, by omega, (occursAt_append_right pat _).mp ?_⟩
      rwa [Nat.add_sub_cancel' hge]
  · rintro (rfl | ⟨j, rfl, hj⟩)
    · exact List.prefix_append _ _
    · exact (occursAt_append_right pat _).mpr hj

/-! ### Joined names -/

/-- A name that can be told apart from the separator. -/
structure Separable (sep name : List Char) : Prop where
  ne_nil : name ≠ []
  disjoint : name.Disjoint sep

lemma separable_iff {name : List Char} :
    Separable sep name ↔ name ≠ [] ∧ name.all fun c => decide (c ∉ sep) := by
  rw [List.all_eq_true]
  simp only [decide_eq_true_eq]
  exact ⟨fun h => ⟨h.ne_nil, fun _ hc => h.disjoint hc⟩, fun h => ⟨h.1, fun c hc => h.2 c hc⟩⟩

instance (sep name : List Char) : Decidable (Separable sep name) :=
  decidable_of_iff _ separable_iff.symm

/-- How long the first `k` names are when they are joined. -/
def joinedLength (sep : List Char) (names : List (List Char)) (k : ℕ) : ℕ :=
  (sep.intercalate (names.take k)).length

lemma intercalate_append {as bs : List (List Char)} (has : as ≠ []) (hbs : bs ≠ []) :
    sep.intercalate (as ++ bs) = sep.intercalate as ++ (sep ++ sep.intercalate bs) := by
  induction as with
  | nil => exact absurd rfl has
  | cons x as ih =>
    rcases eq_or_ne as [] with rfl | hne
    · rw [List.singleton_append, List.intercalate_cons_of_ne_nil hbs, List.intercalate_singleton,
        List.append_assoc]
    · rw [List.cons_append, List.intercalate_cons_of_ne_nil (by simp [hne]), ih hne,
        List.intercalate_cons_of_ne_nil hne]
      simp only [List.append_assoc]

lemma take_ne_nil (hk : 1 ≤ k) (hlt : k < names.length) : names.take k ≠ [] := by
  rw [← List.length_pos_iff, List.length_take]
  omega

/-- What is behind the first names begins with a separator. -/
lemma intercalate_take_drop (sep : List Char) (hk : 1 ≤ k) (hlt : k < names.length) :
    sep.intercalate names =
      sep.intercalate (names.take k) ++ (sep ++ sep.intercalate (names.drop k)) := by
  have hdrop : names.drop k ≠ [] := by
    rw [← List.length_pos_iff, List.length_drop]
    omega
  rw [← intercalate_append (take_ne_nil hk hlt) hdrop, List.take_append_drop]

lemma joinedLength_lt (hsep : sep ≠ []) (hk : 1 ≤ k) (hlt : k < n) (hn : n ≤ names.length) :
    joinedLength sep names k < joinedLength sep names n := by
  have hlength : k < (names.take n).length := by
    rw [List.length_take]
    omega
  have hsplit := intercalate_take_drop sep hk hlength
  rw [List.take_take, min_eq_left hlt.le] at hsplit
  have hpos := List.length_pos_iff.mpr hsep
  rw [joinedLength, joinedLength, hsplit, List.length_append, List.length_append]
  omega

/-- Joined names begin with the first character of a name. -/
lemma exists_cons_intercalate (hnames : ∀ x ∈ names, Separable sep x) (hne : names ≠ []) :
    ∃ c r, sep.intercalate names = c :: r ∧ c ∉ sep := by
  obtain ⟨x, rest, rfl⟩ := List.exists_cons_of_ne_nil hne
  have hx := hnames x List.mem_cons_self
  obtain ⟨c, r, rfl⟩ := List.exists_cons_of_ne_nil hx.ne_nil
  refine ⟨c, ?_⟩
  cases rest with
  | nil => exact ⟨r, List.intercalate_singleton, hx.disjoint List.mem_cons_self⟩
  | cons y rest => exact ⟨_, List.intercalate_cons_cons, hx.disjoint List.mem_cons_self⟩

lemma joinedLength_pos (hnames : ∀ x ∈ names, Separable sep x) (hk : 1 ≤ k)
    (hlt : k < names.length) : 0 < joinedLength sep names k := by
  obtain ⟨c, r, hcr, -⟩ := exists_cons_intercalate
    (fun x hx => hnames x (List.mem_of_mem_take hx)) (take_ne_nil hk hlt)
  rw [joinedLength, hcr]
  exact Nat.succ_pos _

/-- **A separator occurs between two names and nowhere else.** -/
lemma occursAt_intercalate (hsep : sep ≠ []) (hnames : ∀ x ∈ names, Separable sep x) :
    OccursAt sep (sep.intercalate names) i ↔
      ∃ k, 1 ≤ k ∧ k < names.length ∧ i = joinedLength sep names k := by
  constructor
  · intro h
    induction names generalizing i with
    | nil => exact absurd h (not_occursAt_nil hsep i)
    | cons x names ih =>
      rw [List.forall_mem_cons] at hnames
      obtain ⟨hx, hrest⟩ := hnames
      rcases eq_or_ne names [] with rfl | hne
      · rw [List.intercalate_singleton, ← List.append_nil x,
          occursAt_append_of_disjoint hsep hx.disjoint] at h
        obtain ⟨j, -, hj⟩ := h
        exact absurd hj (not_occursAt_nil hsep j)
      · rw [List.intercalate_cons_of_ne_nil hne, List.append_assoc,
          occursAt_append_of_disjoint hsep hx.disjoint] at h
        obtain ⟨j, rfl, hj⟩ := h
        obtain ⟨c, r, hcr, hc⟩ := exists_cons_intercalate hrest hne
        rw [hcr, occursAt_self_append hc, ← hcr] at hj
        rcases hj with rfl | ⟨l, rfl, hl⟩
        · exact ⟨1, le_rfl, by simpa [List.length_pos_iff] using hne, by simp [joinedLength]⟩
        · obtain ⟨k, hk, hlt, rfl⟩ := ih hrest hl
          refine ⟨k + 1, by omega, by simpa using hlt, ?_⟩
          rw [joinedLength, joinedLength, List.take_succ_cons,
            List.intercalate_cons_of_ne_nil (take_ne_nil hk hlt)]
          simp only [List.length_append]
          omega
  · rintro ⟨k, hk, hlt, rfl⟩
    rw [intercalate_take_drop sep hk hlt, joinedLength, ← Nat.add_zero (List.length _),
      occursAt_append_right]
    exact List.prefix_append _ _

end SpecScribe.Text
