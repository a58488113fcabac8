import Mathlib
import SpecScribe.Document.Truncate
import SpecScribe.Proofs.Text.Occurrences

/-!
What is left of a text that is too long for its cell. A list of names loses whole names from its end
as long as one name can be kept. Running text ends with a suffix, behind its last sentence mark in
reach or in the middle of a sentence; it fits then, and is not cut again.
-/

namespace SpecScribe.Document

open Settings Text

/-! ### Lists of names -/

section Names

variable {sep r : List Char} {names : List (List Char)} {limit : ℤ}

/-- How many names can be kept if not all are: there is room for them and a separator behind. -/
def keepable (sep : List Char) (names : List (List Char)) (limit : ℤ) : Set ℕ :=
  {k | 1 ≤ k ∧ k < names.length ∧
    ((sep.intercalate (names.take k)).length : ℤ) + sep.length ≤ limit}

/-- All names are kept if they fit, and otherwise as many as can be. If that is none, the first
characters are. -/
inductive KeepsNames (sep : List Char) (names : List (List Char)) (limit : ℤ) (r : List Char) :
    Prop
  | all (fits : (sep.intercalate names).length ≤ limit) (r_eq : r = sep.intercalate names)
  | first (long : limit < (sep.intercalate names).length) (k : ℕ)
      (most : IsGreatest (keepable sep names limit) k) (r_eq : r = sep.intercalate (names.take k))
  | cut (long : limit < (sep.intercalate names).length) (nothing : keepable sep names limit = ∅)
      (r_eq : r = (sep.intercalate names).take limit.toNat)

lemma exists_keepsNames (sep : List Char) (names : List (List Char)) (limit : ℤ) :
    ∃ r, KeepsNames sep names limit r := by
  rcases le_or_gt ((sep.intercalate names).length : ℤ) limit with hfits | hlong
  · exact ⟨_, .all hfits rfl⟩
  rcases Set.eq_empty_or_nonempty (keepable sep names limit) with hnone | hsome
  · exact ⟨_, .cut hlong hnone rfl⟩
  · have hbounded : BddAbove (keepable sep names limit) :=
      ⟨names.length, fun k hk => hk.2.1.le⟩
    obtain ⟨k, hk⟩ := hbounded.exists_isGreatest_of_nonempty hsome
    exact ⟨_, .first hlong k hk rfl⟩

lemma monotoneOn_joinedLength (hsep : sep ≠ []) :
    MonotoneOn (joinedLength sep names) (keepable sep names limit) := by
  intro k hk n hn hle
  rcases hle.eq_or_lt with rfl | hlt
  · exact le_rfl
  · exact (joinedLength_lt hsep hk.1 hlt hn.2.1.le).le

/-- The separators in reach stand behind the names that can be kept. -/
lemma separators_in_reach (hsep : sep ≠ []) (hnames : ∀ x ∈ names, Separable sep x)
    (hlimit : 0 ≤ limit) :
    {i | OccursAt sep ((sep.intercalate names).take limit.toNat) i} =
      Set.image (joinedLength sep names) (keepable sep names limit) := by
  ext i
  have hreach : ∀ n : ℕ, n + sep.length ≤ limit.toNat ↔ (n : ℤ) + sep.length ≤ limit := by omega
  rw [Set.mem_ofPred_eq, occursAt_take hsep, occursAt_intercalate hsep hnames, hreach]
  constructor
  · rintro ⟨⟨k, hk, hlt, rfl⟩, hfits⟩
    exact ⟨k, ⟨hk, hlt, hfits⟩, rfl⟩
  · rintro ⟨k, ⟨hk, hlt, hfits⟩, rfl⟩
    exact ⟨⟨k, hk, hlt, rfl⟩, hfits⟩

lemma takeTo_of_nonneg (hlimit : 0 ≤ limit) (s : List Char) :
    takeTo limit s = s.take limit.toNat := by
  rw [takeTo, prefixLength, if_neg hlimit.not_gt, List.take_eq_take_iff]
  omega

/-- A list that is too long is cut in front of the last separator in what fits, unless it begins
with that one. -/
lemma truncateAtSeparator_of_long {t : TableSettings} {s : List Char}
    (hsep : t.separator.toList ≠ []) (hlimit : 0 ≤ t.maxCell - t.suffix.length)
    (hlong : t.maxCell - t.suffix.length < s.length)
    (hinner : findLast? t.separator.toList (s.take (t.maxCell - t.suffix.length).toNat) ≠ some 0) :
    truncateAtSeparator t s =
      (findLast? t.separator.toList (s.take (t.maxCell - t.suffix.length).toNat)).elim
        (s.take (t.maxCell - t.suffix.length).toNat) s.take := by
  have hempty : t.separator.toList.isEmpty = false := List.isEmpty_eq_false_iff.mpr hsep
  simp only [truncateAtSeparator, hlong.not_ge, hempty, takeTo_of_nonneg hlimit,
    Bool.false_eq_true, if_false]
  rcases hfound : findLast? t.separator.toList (s.take _) with _ | _ | i
  · rfl
  · exact absurd hfound hinner
  · rfl

lemma truncateAtSeparator_eq {t : TableSettings} (hsep : t.separator.toList ≠ [])
    (hnames : ∀ x ∈ names, Separable t.separator.toList x)
    (hlimit : 0 ≤ t.maxCell - t.suffix.length)
    (h : KeepsNames t.separator.toList names (t.maxCell - t.suffix.length) r) :
    truncateAtSeparator t (t.separator.toList.intercalate names) = r := by
  have hplaces := separators_in_reach hsep hnames hlimit
  cases h with
  | all fits r_eq => rw [truncateAtSeparator, if_pos fits, r_eq]
  | first long k most r_eq =>
    obtain ⟨hk, hlt, -⟩ := most.1
    have hlast := (monotoneOn_joinedLength hsep).map_isGreatest most
    rw [← hplaces, ← findLast?_eq_some hsep] at hlast
    have hpos := joinedLength_pos hnames hk hlt
    have hinner : some (joinedLength t.separator.toList names k) ≠ some 0 := by simp [hpos.ne']
    rw [truncateAtSeparator_of_long hsep hlimit long (hlast ▸ hinner), hlast, Option.elim_some,
      joinedLength, intercalate_take_drop _ hk hlt, List.take_left, r_eq]
  | cut long nothing r_eq =>
    rw [nothing, Set.image_empty] at hplaces
    have hnowhere := (findLast?_eq_none hsep).mpr (Set.eq_empty_iff_forall_notMem.mp hplaces)
    have hinner : none ≠ some 0 := (Option.some_ne_none 0).symm
    rw [truncateAtSeparator_of_long hsep hlimit long (hnowhere ▸ hinner), hnowhere,
      Option.elim_none, r_eq]

/-- **Names are not cut where that can be avoided.** Of a list of names with a separator between
them, what is left is the whole list if it fits, and otherwise the longest list of first names with
room for a separator behind it. Only if not even one name can be kept so, characters are counted. -/
theorem truncateAtSeparator_joined (t : TableSettings) (names : List (List Char))
    (hsep : t.separator ≠ "") (hnames : ∀ x ∈ names, Separable t.separator.toList x)
    (hlimit : 0 ≤ t.maxCell - t.suffix.length) (r : List Char) :
    truncateAtSeparator t (t.separator.toList.intercalate names) = r ↔
      KeepsNames t.separator.toList names (t.maxCell - t.suffix.length) r := by
  have hne : t.separator.toList ≠ [] := by rwa [Ne, String.toList_eq_nil_iff]
  refine ⟨?_, truncateAtSeparator_eq hne hnames hlimit⟩
  rintro rfl
  obtain ⟨r, hr⟩ := exists_keepsNames t.separator.toList names (t.maxCell - t.suffix.length)
  rwa [truncateAtSeparator_eq hne hnames hlimit hr]

/-- A separator that is only half in reach does not count, even if the half looks like the start of
one. -/
theorem truncateAtSeparator_joined_straddling :
    let t : TableSettings := { maxCell := 10, separator := "--" }
    let names := [['a', 'b'], ['c', 'd'], ['e', 'f']]
    t.separator ≠ "" ∧ (∀ x ∈ names, Separable t.separator.toList x) ∧
      0 ≤ t.maxCell - t.suffix.length ∧
      KeepsNames t.separator.toList names (t.maxCell - t.suffix.length) ['a', 'b'] := by
  intro t names
  have hsep : t.separator ≠ "" := by decide
  have hnames : ∀ x ∈ names, Separable t.separator.toList x := by decide
  have hlimit : 0 ≤ t.maxCell - t.suffix.length := by decide
  exact ⟨hsep, hnames, hlimit, (truncateAtSeparator_joined t names hsep hnames hlimit _).mp
    (by decide)⟩

end Names

/-! ### Running text -/

section Sentences

variable {t : TableSettings} {limit : ℤ} {keep : Bool} {s r c w v : List Char}

/-- The marks behind which running text may be cut. -/
def sentenceMarks : List Char := ['。', '、', '！', '？']

lemma isSentenceMark_iff {x : Char} : isSentenceMark x ↔ x ∈ sentenceMarks := by
  simp [isSentenceMark, sentenceMarks, or_assoc]

/-- The text ends with a mark. -/
def EndsWithMark (w : List Char) : Prop := ∃ x ∈ w.getLast?, x ∈ sentenceMarks

/-- The longest start of a text that ends with a mark. -/
structure LongestToMark (c w : List Char) : Prop where
  start : w <+: c
  ends : EndsWithMark w
  longest : ∀ v, v <+: c → EndsWithMark v → v.length ≤ w.length

/-- What is kept of the start of a text for which there is room: all up to the last mark if there is
one and it is to be kept, and otherwise all. -/
inductive Kept (keep : Bool) (c w : List Char) : Prop
  | sentences (wanted : keep = true) (marked : ∃ x ∈ c, x ∈ sentenceMarks) (last : LongestToMark c w)
  | all (plain : keep = true → ∀ x ∈ c, x ∉ sentenceMarks) (w_eq : w = c)

/-- Running text stays as it is if it fits. Otherwise the suffix stands behind what is kept, or
alone if there is no room for more. -/
inductive Truncated (t : TableSettings) (limit : ℤ) (s r : List Char) : Prop
  | whole (fits : s.length ≤ limit) (r_eq : r = s)
  | alone (long : limit < s.length) (full : limit ≤ t.suffix.length) (r_eq : r = t.suffix.toList)
  | cut (long : limit < s.length) (room : t.suffix.length < limit) (w : List Char)
      (kept : Kept t.keepSentences (s.take (limit - t.suffix.length).toNat) w)
      (r_eq : r = w ++ t.suffix.toList)

lemma LongestToMark.unique (hw : LongestToMark c w) (hv : LongestToMark c v) : w = v :=
  have hlength := le_antisymm (hv.longest w hw.start hw.ends) (hw.longest v hv.start hv.ends)
  (List.prefix_of_prefix_length_le hw.start hv.start hlength.le).eq_of_length hlength

/-- The text without what follows its last mark. -/
def upToMark (c : List Char) : List Char := c.rdropWhile (!isSentenceMark ·)

lemma upToMark_eq_nil : upToMark c = [] ↔ ∀ x ∈ c, x ∉ sentenceMarks := by
  simp [upToMark, List.rdropWhile_eq_nil_iff, ← isSentenceMark_iff]

lemma longestToMark_upToMark (h : upToMark c ≠ []) : LongestToMark c (upToMark c) where
  start := List.rdropWhile_prefix _ c
  ends := by
    have hmark := List.rdropWhile_last_not _ c h
    rw [Bool.not_eq_true, Bool.not_eq_false'] at hmark
    exact ⟨_, List.getLast?_eq_some_getLast h, isSentenceMark_iff.mp hmark⟩
  longest v hv hends := by
    by_contra hlonger
    have hstart : upToMark c <+: v := List.prefix_of_prefix_length_le
      (List.rdropWhile_prefix _ c) hv (not_le.mp hlonger).le
    obtain ⟨u, rfl⟩ := hstart
    -- what stands behind the last mark has no mark, so `u` cannot end with one
    have hu : u ≠ [] := by
      rintro rfl
      simp at hlonger
    have hbehind : u <+: c.rtakeWhile (!isSentenceMark ·) := by
      rwa [← List.prefix_append_right_inj (upToMark c), upToMark, List.rdropWhile_append_rtakeWhile]
    obtain ⟨x, hx, hmark⟩ := hends
    rw [List.getLast?_append_of_ne_nil _ hu] at hx
    have hplain := List.mem_rtakeWhile_imp (hbehind.subset (List.mem_of_getLast? hx))
    simp [isSentenceMark_iff.mpr hmark] at hplain

lemma Kept.isPrefix (h : Kept keep c w) : w <+: c := by
  cases h with
  | sentences _ _ last => exact last.start
  | all _ w_eq => exact w_eq ▸ List.prefix_refl c

lemma exists_kept (keep : Bool) (c : List Char) : ∃ w, Kept keep c w := by
  by_cases hplain : keep = true → ∀ x ∈ c, x ∉ sentenceMarks
  · exact ⟨c, .all hplain rfl⟩
  · rw [Classical.not_imp] at hplain
    obtain ⟨hkeep, hmarked⟩ := hplain
    refine ⟨_, .sentences hkeep (by simpa using hmarked) (longestToMark_upToMark ?_)⟩
    rwa [Ne, upToMark_eq_nil]

lemma exists_truncated (t : TableSettings) (limit : ℤ) (s : List Char) :
    ∃ r, Truncated t limit s r := by
  rcases le_or_gt (s.length : ℤ) limit with hfits | hlong
  · exact ⟨s, .whole hfits rfl⟩
  rcases le_or_gt limit t.suffix.length with hfull | hroom
  · exact ⟨_, .alone hlong hfull rfl⟩
  · obtain ⟨w, hw⟩ := exists_kept t.keepSentences (s.take (limit - t.suffix.length).toNat)
    exact ⟨_, .cut hlong hroom w hw rfl⟩

/-- Cutting behind a mark and cutting anywhere agree where the mark is the last character that
fits. -/
lemma Kept.append_eq (h : Kept keep c w) (suffix : List Char) :
    (if keep && !(upToMark c).isEmpty && decide ((upToMark c).length < c.length) then
      upToMark c ++ suffix else c ++ suffix) = w ++ suffix := by
  cases h with
  | sentences wanted marked last =>
    have hne : upToMark c ≠ [] := by
      rw [Ne, upToMark_eq_nil]
      simpa using marked
    have hw := (longestToMark_upToMark hne).unique last
    rw [hw]
    split_ifs with hshort
    · rfl
    · have hlength : c.length ≤ w.length := by
        simpa [wanted, hw ▸ hne] using hshort
      rw [last.start.eq_of_length_le hlength]
  | all plain w_eq =>
    rw [if_neg, w_eq]
    intro hshort
    simp only [Bool.and_eq_true, Bool.not_eq_true', List.isEmpty_eq_false_iff] at hshort
    exact hshort.1.2 (upToMark_eq_nil.mpr (plain hshort.1.1))

lemma truncateSentence_eq (h : Truncated t limit s r) : truncateSentence t limit s = r := by
  unfold truncateSentence
  cases h with
  | whole fits r_eq => rw [if_pos fits, r_eq]
  | alone long full r_eq =>
    rw [if_neg long.not_ge, r_eq]
    dsimp only
    rw [if_pos (by rw [String.length_toList]; omega)]
  | cut long room w kept r_eq =>
    rw [if_neg long.not_ge, r_eq]
    dsimp only
    rw [String.length_toList, if_neg (by omega)]
    exact kept.append_eq t.suffix.toList

/-- What is left fits, or it is the suffix and there is no room for it. -/
lemma Truncated.fits_or_alone (h : Truncated t limit s r) :
    (r.length : ℤ) ≤ limit ∨ r = t.suffix.toList ∧ limit ≤ t.suffix.length := by
  cases h with
  | whole fits r_eq => exact .inl (r_eq ▸ fits)
  | alone _ full r_eq => exact .inr ⟨r_eq, full⟩
  | cut _ room w kept r_eq =>
    have hw := kept.isPrefix.length_le
    rw [List.length_take] at hw
    rw [r_eq, List.length_append, String.length_toList]
    omega

lemma Truncated.again (h : Truncated t limit s r) : Truncated t limit r r := by
  rcases h.fits_or_alone with hfits | ⟨rfl, hfull⟩
  · exact .whole hfits rfl
  rcases le_or_gt (t.suffix.toList.length : ℤ) limit with hfits | hlong
  · exact .whole hfits rfl
  · exact .alone hlong hfull rfl

/-- **Running text is cut once, to a known length.** What is left of a text is the text if it fits,
the suffix if there is no room for more, and otherwise the suffix behind the longest start that ends
with a mark, or behind all that fits. It is longer than the limit only if the suffix alone is, and
stays as it is when it is cut again. -/
theorem truncateSentence_closed (t : TableSettings) (limit : ℤ) (s : List Char) :
    (∀ r, truncateSentence t limit s = r ↔ Truncated t limit s r) ∧
    ((truncateSentence t limit s).length : ℤ) ≤ max limit t.suffix.length ∧
    truncateSentence t limit (truncateSentence t limit s) = truncateSentence t limit s := by
  obtain ⟨r, hr⟩ := exists_truncated t limit s
  rw [truncateSentence_eq hr]
  refine ⟨fun r' => ⟨fun h => h ▸ hr, fun h => ?_⟩, ?_, truncateSentence_eq hr.again⟩
  · exact (truncateSentence_eq hr).symm.trans (truncateSentence_eq h)
  · rcases hr.fits_or_alone with hfits | ⟨rfl, -⟩
    · exact le_max_of_le_left hfits
    · rw [String.length_toList]
      exact le_max_right _ _

end Sentences

end SpecScribe.Document
