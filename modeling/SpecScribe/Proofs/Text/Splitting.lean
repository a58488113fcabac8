import Mathlib
import SpecScribe.Text.Blank
import SpecScribe.Text.Search

/-!
Splitting, replacing and stripping. Splitting at a single character is the splitting of lists of the
library. At a longer separator the text is cut at the first occurrence, and the search goes on
behind it; for a word between blanks, that is wherever the word stands alone.
-/

namespace SpecScribe.Text

lemma splitOn_singleton (c : Char) (s : List Char) : splitOn [c] s = s.splitOn c := by
  induction s with
  | nil => rfl
  | cons x r ih =>
    rw [List.splitOn_cons_eq_if_modifyHead, ← ih, splitOn, splitOn, splitParts]
    by_cases h : x = c
    · simp [h]
    · simp [h, Ne.symm h]

/-- The separator is in no piece. -/
lemma notMem_of_mem_splitOn {c : Char} {s piece : List Char} (h : piece ∈ s.splitOn c) :
    c ∉ piece := by
  induction s generalizing piece with
  | nil => simp_all
  | cons x r ih =>
    obtain ⟨first, rest, hr⟩ := List.exists_cons_of_ne_nil (List.splitOn_ne_nil c r)
    rw [hr] at ih
    rw [List.splitOn_cons_eq_if_modifyHead, hr] at h
    split_ifs at h with hx
    · rcases List.mem_cons.mp h with rfl | h
      · exact List.not_mem_nil
      · exact ih h
    · rcases List.mem_cons.mp h with rfl | h
      · rw [List.mem_cons, not_or]
        exact ⟨fun hc => hx (beq_iff_eq.mpr hc.symm), ih (List.mem_cons_self ..)⟩
      · exact ih (List.mem_cons_of_mem _ h)

/-! ### Longer separators -/

variable {sep new s a b : List Char} {c : Char}

lemma splitOn_eq (sep s : List Char) :
    splitOn sep s = (splitParts sep 0 s).1 :: (splitParts sep 0 s).2 := rfl

lemma splitParts_drop (sep s : List Char) (k : ℕ) :
    splitParts sep k s = splitParts sep 0 (s.drop k) := by
  induction s generalizing k with
  | nil => cases k <;> rfl
  | cons c s ih =>
    cases k with
    | zero => rfl
    | succ k => exact ih k

/-- The text is cut at an occurrence in front. -/
lemma splitOn_append_self (hsep : sep ≠ []) (s : List Char) :
    splitOn sep (sep ++ s) = [] :: splitOn sep s := by
  obtain ⟨x, r, rfl⟩ := List.exists_cons_of_ne_nil hsep
  have hfirst : (x :: r).isPrefixOf (x :: (r ++ s)) := by
    rw [List.isPrefixOf_iff_prefix, ← List.cons_append]
    exact List.prefix_append _ _
  rw [splitOn_eq, splitOn_eq, List.cons_append, splitParts, if_pos hfirst, splitParts_drop]
  simp

lemma splitOn_cons (h : ¬ sep <+: c :: s) :
    splitOn sep (c :: s) = (splitOn sep s).modifyHead (c :: ·) := by
  rw [splitOn_eq, splitOn_eq, splitParts, if_neg (by rwa [List.isPrefixOf_iff_prefix])]
  rfl

/-- Where the separator does not occur, the text is one piece. -/
lemma splitOn_of_not_infix (h : ¬ sep <:+: s) : splitOn sep s = [s] := by
  induction s with
  | nil => rfl
  | cons c s ih =>
    rw [splitOn_cons fun hpre => h hpre.isInfix, ih fun hinf => h (List.infix_cons hinf)]
    rfl

/-! ### Words between blanks -/

variable {word : List Char}

/-- A text is cut at a word that stands alone, unless the word is before in the text or ends it. -/
lemma splitOn_append_word (hword : ' ' ∉ word) (hin : ¬ ' ' :: word ++ [' '] <:+: a)
    (hend : ¬ ' ' :: word <:+ a) (b : List Char) :
    splitOn (' ' :: word ++ [' ']) (a ++ (' ' :: word ++ [' '] ++ b)) =
      a :: splitOn (' ' :: word ++ [' ']) b := by
  induction a with
  | nil => exact splitOn_append_self (by simp) b
  | cons c a ih =>
    have hfirst : ¬ ' ' :: word ++ [' '] <+: c :: (a ++ (' ' :: word ++ [' '] ++ b)) := by
      rintro ⟨t, ht⟩
      simp only [List.cons_append, List.append_assoc, List.cons.injEq, List.nil_append] at ht
      obtain ⟨rfl, ht⟩ := ht
      -- the two blanks behind the word are the same one, or one of them is too early
      rcases List.append_eq_append_iff.mp ht with ⟨k, rfl, hk⟩ | ⟨k, rfl, hk⟩
      · rcases k with _ | ⟨x, k⟩
        · exact hend (by simp)
        · obtain ⟨rfl, -⟩ := List.cons.inj hk
          exact hin ⟨[], k, by simp⟩
      · rcases k with _ | ⟨x, k⟩
        · exact hend (by simp)
        · obtain ⟨rfl, -⟩ := List.cons.inj hk
          exact hword (by simp)
    have hrest := ih (fun h => hin (List.infix_cons h))
      fun h => hend (h.trans (List.suffix_cons c a))
    exact (splitOn_cons hfirst).trans (congrArg (List.modifyHead (c :: ·)) hrest)

/-- A word that stands alone is one of the pieces between blanks. -/
lemma mem_splitOn_of_alone (hword : ' ' ∉ word) (h : ' ' :: word ++ [' '] <:+: s) :
    word ∈ s.splitOn ' ' := by
  obtain ⟨a, b, rfl⟩ := h
  have hpieces : (a ++ (' ' :: word ++ [' ']) ++ b).splitOn ' ' =
      a.splitOn ' ' ++ ([word] ++ b.splitOn ' ') := by
    rw [List.append_assoc, List.cons_append, List.cons_append, List.splitOn_append_cons_self,
      List.append_assoc, List.singleton_append, List.splitOn_append_cons_self,
      List.splitOn_eq_singleton hword]
  rw [hpieces]
  simp

lemma mem_splitOn_of_last (hword : ' ' ∉ word) (h : ' ' :: word <:+ s) :
    word ∈ s.splitOn ' ' := by
  obtain ⟨a, rfl⟩ := h
  rw [List.splitOn_append_cons_self, List.splitOn_eq_singleton hword]
  simp

/-! ### Lines -/

variable {l : List Char} {ls : List (List Char)}

lemma notMem_of_mem_lines (h : l ∈ lines s) : '\n' ∉ l := by
  rw [lines, splitOn_singleton] at h
  exact notMem_of_mem_splitOn h

lemma lines_unlines (h : ∀ l ∈ ls, '\n' ∉ l) (hne : ls ≠ []) : lines (unlines ls) = ls := by
  rw [lines, splitOn_singleton, unlines, List.splitOn_intercalate _ h hne]

/-! ### Finding -/

variable {pat t r : List Char} {x : Char}

lemma after?_eq_some : after? pat t = some r ↔ t = pat ++ r := by
  fun_induction after? pat t with
  | case1 t => simp
  | case2 => simp
  | case3 p ps c cs h ih =>
    rw [ih]
    simp [beq_iff_eq.mp h]
  | case4 p ps c cs h =>
    have hne : p ≠ c := by simpa using h
    simp [hne.symm]

lemma contains_iff (hn : pat ≠ []) : contains pat t ↔ pat <:+: t := by
  unfold contains
  induction t with
  | nil => simp [find?, hn]
  | cons c r ih =>
    rw [find?, List.infix_cons_iff, ← ih, ← List.isPrefixOf_iff_prefix]
    split <;> simp_all

lemma takeWhile_append_of_notMem (h : x ∉ a) (b : List Char) :
    (a ++ b).takeWhile (· != x) = a ++ b.takeWhile (· != x) :=
  List.takeWhile_append_of_pos fun c hc => by simpa using ne_of_mem_of_not_mem hc h

lemma takeWhile_append_cons (h : x ∉ a) (b : List Char) :
    (a ++ x :: b).takeWhile (· != x) = a := by
  rw [takeWhile_append_of_notMem h]
  simp

/-- A text is cut where the last character of the pattern stands for the first time. -/
lemma cut?_append (ha : x ∉ a) (hpat : x ∉ pat) (b : List Char) :
    cut? (pat ++ [x]) (a ++ (pat ++ [x] ++ b)) = some (a, b) := by
  induction a with
  | nil =>
    obtain ⟨c, t, ht⟩ := List.exists_cons_of_ne_nil (show pat ++ [x] ++ b ≠ [] by simp)
    have hfirst : after? (pat ++ [x]) (c :: t) = some b := after?_eq_some.mpr ht.symm
    rw [List.nil_append, ht, cut?, hfirst]
  | cons c a ih =>
    have hnone : after? (pat ++ [x]) (c :: (a ++ (pat ++ [x] ++ b))) = none := by
      rw [Option.eq_none_iff_forall_ne_some]
      intro r hr
      have htext : (c :: a ++ pat) ++ x :: b = pat ++ x :: r := by
        simpa using after?_eq_some.mp hr
      have hlength := congrArg (fun s => (s.takeWhile (· != x)).length) htext
      simp only [takeWhile_append_cons (List.not_mem_append ha hpat), takeWhile_append_cons hpat,
        List.length_append, List.length_cons] at hlength
      omega
    rw [List.cons_append, cut?, hnone, ih (List.not_mem_of_not_mem_cons ha)]
    rfl

lemma cut?_eq_none (hpat : pat ≠ []) (h : ¬ pat <:+: s) : cut? pat s = none := by
  induction s with
  | nil => simp [cut?, hpat]
  | cons c s ih =>
    have hnone : after? pat (c :: s) = none := by
      rw [Option.eq_none_iff_forall_ne_some]
      rintro r hr
      exact h (after?_eq_some.mp hr ▸ (List.prefix_append pat r).isInfix)
    rw [cut?, hnone, ih fun hinf => h (List.infix_cons hinf)]
    rfl

/-! ### Ends of a text -/

/-- Neither the first character nor the last one is to be stripped. -/
def Tight (p : Char → Bool) (s : List Char) : Prop :=
  ¬ s.head?.any p ∧ ¬ s.getLast?.any p

variable {p : Char → Bool}

instance : Decidable (Tight p s) := inferInstanceAs (Decidable (_ ∧ _))

lemma tight_of_forall (h : ∀ c ∈ s, ¬ p c) : Tight p s := by
  constructor
  all_goals
    rw [Option.any_eq_true]
    rintro ⟨c, hc, hp⟩
  · exact h c (List.mem_of_head? hc) hp
  · exact h c (List.mem_of_getLast? hc) hp

lemma Tight.dropWhile_eq (h : Tight p s) (hs : s ≠ []) (b : List Char) :
    (s ++ b).dropWhile p = s ++ b := by
  obtain ⟨c, r, rfl⟩ := List.exists_cons_of_ne_nil hs
  exact List.dropWhile_cons_of_neg h.1

lemma Tight.reverse (h : Tight p s) : Tight p s.reverse := by
  rw [Tight, List.head?_reverse, List.getLast?_reverse]
  exact h.symm

lemma Tight.append (ha : Tight p a) (hb : Tight p b) (ha0 : a ≠ []) (hb0 : b ≠ [])
    (m : List Char) : Tight p (a ++ m ++ b) := by
  obtain ⟨c, a, rfl⟩ := List.exists_cons_of_ne_nil ha0
  refine ⟨ha.1, ?_⟩
  rw [List.getLast?_append_of_ne_nil _ hb0]
  exact hb.2

lemma stripWhile_padded (ha : ∀ c ∈ a, p c) (hb : ∀ c ∈ b, p c) (h : Tight p s) :
    stripWhile p (a ++ s ++ b) = s := by
  rcases eq_or_ne s [] with rfl | hs
  · have hall : ∀ c ∈ a ++ [] ++ b, p c := fun c hc => by
      rw [List.append_nil, List.mem_append] at hc
      exact hc.elim (ha c) (hb c)
    rw [stripWhile, List.dropWhile_eq_nil_iff.mpr hall]
    rfl
  · rw [stripWhile, List.append_assoc, List.dropWhile_append_of_pos ha, h.dropWhile_eq hs,
      dropEndWhile, List.reverse_append,
      List.dropWhile_append_of_pos fun c hc => hb c (List.mem_reverse.mp hc),
      ← List.append_nil s.reverse, h.reverse.dropWhile_eq (by simpa using hs), List.append_nil,
      List.reverse_reverse]

lemma stripWhile_eq_self (h : Tight p s) : stripWhile p s = s := by
  simpa using stripWhile_padded (a := []) (b := []) (by simp) (by simp) h

lemma not_any_head?_dropWhile (p : Char → Bool) (s : List Char) :
    ¬ (s.dropWhile p).head?.any p := by
  rw [Option.any_eq_true]
  rintro ⟨c, hc, hp⟩
  have hfirst := List.head?_dropWhile_not p s
  rw [hc] at hfirst
  exact Bool.false_ne_true (hfirst.symm.trans hp)

/-- Every text is a tight one with padding on both sides. -/
lemma exists_padding (p : Char → Bool) (s : List Char) :
    ∃ a m b, s = a ++ m ++ b ∧ (∀ c ∈ a, p c) ∧ (∀ c ∈ b, p c) ∧ Tight p m := by
  obtain ⟨m, b, hrest, hb, hlast⟩ : ∃ m b, s.dropWhile p = m ++ b ∧ (∀ c ∈ b, p c) ∧
      ¬ m.getLast?.any p := by
    set t := (s.dropWhile p).reverse with ht
    refine ⟨(t.dropWhile p).reverse, (t.takeWhile p).reverse, ?_, fun c hc => ?_, ?_⟩
    · rw [← List.reverse_append, List.takeWhile_append_dropWhile, ht, List.reverse_reverse]
    · exact List.mem_takeWhile_imp (List.mem_reverse.mp hc)
    · rw [List.getLast?_reverse]
      exact not_any_head?_dropWhile p t
  refine ⟨s.takeWhile p, m, b, ?_, fun c => List.mem_takeWhile_imp, hb, ?_, hlast⟩
  · rw [List.append_assoc, ← hrest, List.takeWhile_append_dropWhile]
  · -- the tight part begins where the first cut ended
    have hfirst := not_any_head?_dropWhile p s
    rw [hrest] at hfirst
    rcases m with _ | ⟨c, m⟩
    · exact nofun
    · exact hfirst

/-! ### Replacing -/

lemma replace_append_self (hold : sep ≠ []) (s : List Char) :
    replace sep new (sep ++ s) = new ++ replace sep new s := by
  rw [replace, replace, splitOn_append_self hold, splitOn_eq]
  simp [List.intercalate]

lemma replace_cons (h : ¬ sep <+: c :: s) : replace sep new (c :: s) = c :: replace sep new s := by
  rw [replace, replace, splitOn_cons h, splitOn_eq]
  cases (splitParts sep 0 s).2 <;> simp [List.intercalate]

/-- Unifying line breaks is replacing first the double ones, then the carriage returns that are
left. -/
lemma unifyBreaks_eq_replace (s : List Char) :
    unifyBreaks s = replace ['\r'] ['\n'] (replace ['\r', '\n'] ['\n'] s) := by
  have hother : ∀ {c : Char} (r : List Char), c ≠ '\r' →
      replace ['\r'] ['\n'] (c :: r) = c :: replace ['\r'] ['\n'] r := fun r hc =>
    replace_cons (by simpa using Ne.symm hc)
  fun_induction unifyBreaks s with
  | case1 => rfl
  | case2 r ih =>
    have hdouble : replace ['\r', '\n'] ['\n'] ('\r' :: '\n' :: r) =
        '\n' :: replace ['\r', '\n'] ['\n'] r := replace_append_self (by simp) r
    rw [hdouble, hother _ (by decide), ih]
  | case3 r hr ih =>
    have hsingle : ¬ ['\r', '\n'] <+: '\r' :: r := by
      rintro ⟨t, ht⟩
      exact hr t (by simpa using ht.symm)
    have hplain : ∀ t, replace ['\r'] ['\n'] ('\r' :: t) = '\n' :: replace ['\r'] ['\n'] t :=
      replace_append_self (by simp)
    rw [replace_cons hsingle, hplain, ih]
  | case4 c r hdouble hplain ih =>
    have hc : c ≠ '\r' := fun hc => hplain hc
    rw [replace_cons (by simp [List.cons_prefix_cons, Ne.symm hc]), hother _ hc, ih]

/-- A text without carriage returns stays as it is. -/
lemma unifyBreaks_eq_self (h : '\r' ∉ s) : unifyBreaks s = s := by
  fun_induction unifyBreaks s with
  | case1 => rfl
  | case2 => simp at h
  | case3 => simp at h
  | case4 c r _ _ ih => rw [ih (List.not_mem_of_not_mem_cons h)]

end SpecScribe.Text
