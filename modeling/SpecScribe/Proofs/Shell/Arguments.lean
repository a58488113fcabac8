import Mathlib
import SpecScribe.Shell.Arguments

/-!
What a command line that can be read consists of. Every value in it is one that its option takes,
and where one of several options has to be given, one of them was.
-/

namespace SpecScribe.Shell

variable {u : Usage} {f g : Flag} {a : Arguments}

/-- The option is among what was read: its value, or the option itself if it takes none. -/
def Arguments.Gives (a : Arguments) (f : Flag) : Prop :=
  match f.effect with
  | .choice _ => (a.value? f.name).isSome
  | _ => a.has f.name

/-- If the word is an option, it is one of the usage. -/
def Word.From (u : Usage) : Word → Prop
  | .flag f _ _ => f ∈ u.flags
  | _ => True

namespace Usage

variable {p p' : Progress} {k : Word} {ks : List Word} {fs : List Flag}

/-! ### Words -/

lemma mem_of_flag? {spelling : String} (h : u.flag? spelling = some f) : f ∈ u.flags :=
  List.mem_of_find?_eq_some h

lemma mem_of_mem_spellings {n : String} (h : (n, f) ∈ u.spellings) : f ∈ u.flags := by
  obtain ⟨g, hg, hn⟩ := List.mem_flatMap.mp h
  obtain ⟨n', -, heq⟩ := List.mem_map.mp hn
  cases heq
  exact hg

lemma from_candidates {s : List Char} (h : k ∈ u.candidates s) : k.From u := by
  unfold candidates at h
  split at h
  all_goals
    obtain ⟨⟨n, f⟩, hf, hk⟩ := List.mem_filterMap.mp h
    dsimp only at hk
    split_ifs at hk
    all_goals
      obtain rfl := Option.some.inj hk
      exact mem_of_mem_spellings hf

lemma from_word {w : String} (h : u.word? w = some k) : k.From u := by
  unfold word? at h
  split at h
  · dsimp only at h
    split at h
    · rename_i hf
      obtain rfl := Option.some.inj h
      exact mem_of_flag? hf
    · split at h
      · -- an option with its value behind an equals sign
        rename_i hknown
        obtain rfl := Option.some.inj h
        obtain ⟨⟨x, y⟩, -, hmap⟩ := Option.bind_eq_some_iff.mp hknown
        obtain ⟨f, hflag, rfl⟩ := Option.map_eq_some_iff.mp hmap
        exact mem_of_flag? hflag
      · split at h
        · rename_i hone
          obtain rfl := Option.some.inj h
          exact from_candidates (hone ▸ List.mem_singleton_self _)
        · cases h
        · obtain rfl := Option.some.inj h
          split_ifs <;> trivial
  · obtain rfl := Option.some.inj h
    trivial

lemma from_words {argv : List String} (h : u.words? argv = some ks) : ∀ k ∈ ks, k.From u := by
  fun_induction words? u argv generalizing ks with
  | case1 =>
    cases h
    exact nofun
  | case2 r =>
    obtain rfl := Option.some.inj h
    intro k hk
    rcases List.mem_cons.mp hk with rfl | hk
    · trivial
    · obtain ⟨s, -, rfl⟩ := List.mem_map.mp hk
      trivial
  | case3 w r hw ih =>
    simp only [Option.bind_eq_bind, Option.bind_eq_some_iff, Option.pure_def,
      Option.some.injEq] at h
    obtain ⟨k, hk, ks', hks, rfl⟩ := h
    exact List.forall_mem_cons.mpr ⟨from_word hk, ih hks⟩

lemma from_attach (h : ∀ k ∈ ks, k.From u) : ∀ k ∈ attach ks, k.From u := by
  fun_induction attach ks with
  | case1 => exact h
  | case2 ns vs m spelling v r ih =>
    simp only [List.forall_mem_cons] at h
    exact List.forall_mem_cons.mpr ⟨h.1, ih h.2.2⟩
  | case3 w r hw ih =>
    rw [List.forall_mem_cons] at h
    exact List.forall_mem_cons.mpr ⟨h.1, ih h.2⟩

lemma mem_of_cluster {cs : List Char} (h : u.cluster cs = some fs) : ∀ f ∈ fs, f ∈ u.flags := by
  induction cs generalizing fs with
  | nil =>
    cases h
    exact nofun
  | cons c r ih =>
    simp only [cluster, Option.bind_eq_bind, Option.bind_eq_some_iff] at h
    obtain ⟨f, hf, h⟩ := h
    split at h
    · cases h
    · obtain ⟨fs', hfs, h⟩ := Option.bind_eq_some_iff.mp h
      cases h
      exact List.forall_mem_cons.mpr ⟨mem_of_flag? hf, ih hfs⟩

/-! ### Reading -/

/-- What noting an option does: its value or the option itself is put in front, and it may become
the one that was chosen. -/
lemma note_cases {value : Option String} (h : note p f value = some p') :
    ((∃ vs v, f.effect = .choice vs ∧ v ∈ vs ∧
        p'.arguments = { p.arguments with values := (f.name, v) :: p.arguments.values }) ∨
      (∀ vs, f.effect ≠ .choice vs) ∧
        p'.arguments = { p.arguments with switches := f.name :: p.arguments.switches }) ∧
    (p'.mode = p.mode ∨ p'.mode = some f ∧ f.mode) := by
  unfold note at h
  dsimp only at h
  split at h
  · cases h
  rename_i a ha
  have hnoted : p'.arguments = a ∧ (p'.mode = p.mode ∨ p'.mode = some f ∧ f.mode) := by
    split_ifs at h with hmode
    · cases h
      exact ⟨rfl, .inl rfl⟩
    · split at h
      · split_ifs at h
        cases h
        exact ⟨rfl, .inl rfl⟩
      · cases h
        exact ⟨rfl, .inr ⟨rfl, by simpa using hmode⟩⟩
  refine ⟨?_, hnoted.2⟩
  rw [hnoted.1]
  rcases heffect : f.effect with _ | vs | _ <;> simp only [heffect] at ha
  · cases ha
    exact .inr ⟨nofun, rfl⟩
  · rcases value with _ | v <;> simp only at ha
    · cases ha
    · split_ifs at ha with hv
      cases ha
      exact .inl ⟨vs, v, rfl, by simpa using hv, rfl⟩
  · cases ha
    exact .inr ⟨nofun, rfl⟩

/-- The option is given by what was noted of it. -/
lemma gives_of_note {value : Option String} (h : note p f value = some p') :
    p'.arguments.Gives f := by
  obtain ⟨⟨vs, v, hchoice, -, harguments⟩ | ⟨hother, harguments⟩, -⟩ := note_cases h
  · rw [Arguments.Gives, hchoice, harguments]
    simp [Arguments.value?]
  · unfold Arguments.Gives
    split
    · exact absurd ‹_› (hother _)
    · rw [harguments]
      simp [Arguments.has]

/-- What was given stays given. -/
lemma gives_note {value : Option String} (h : note p f value = some p')
    (hg : p.arguments.Gives g) : p'.arguments.Gives g := by
  unfold Arguments.Gives at hg ⊢
  obtain ⟨⟨vs, v, -, -, harguments⟩ | ⟨-, harguments⟩, -⟩ := note_cases h
  · rw [harguments]
    split at hg
    · rw [Arguments.value?, List.lookup_cons]
      split
      · rfl
      · exact hg
    · exact hg
  · rw [harguments]
    split at hg
    · exact hg
    · simp only [Arguments.has, List.contains_cons, Bool.or_eq_true] at hg ⊢
      exact .inr hg

/-- The values are such as their options take, and the option that was chosen was given. -/
structure Sound (u : Usage) (p : Progress) : Prop where
  values : ∀ e ∈ p.arguments.values, ∃ f ∈ u.flags, ∃ vs,
    f.effect = .choice vs ∧ f.name = e.1 ∧ e.2 ∈ vs
  mode : ∀ f ∈ p.mode, f ∈ u.flags ∧ f.mode ∧ p.arguments.Gives f

lemma sound_start (u : Usage) : Sound u {} := ⟨nofun, nofun⟩

lemma Sound.note {value : Option String} (h : Sound u p) (hf : f ∈ u.flags)
    (hnote : Usage.note p f value = some p') : Sound u p' := by
  obtain ⟨harguments, hmode⟩ := note_cases hnote
  constructor
  · rcases harguments with ⟨vs, v, hchoice, hv, harguments⟩ | ⟨-, harguments⟩ <;> rw [harguments]
    · exact List.forall_mem_cons.mpr ⟨⟨f, hf, vs, hchoice, rfl, hv⟩, h.values⟩
    · exact h.values
  · rcases hmode with hmode | ⟨hmode, hchosen⟩ <;> rw [hmode]
    · exact fun g hg => ⟨(h.mode g hg).1, (h.mode g hg).2.1, gives_note hnote (h.mode g hg).2.2⟩
    · rintro _ ⟨⟩
      exact ⟨hf, hchosen, gives_of_note hnote⟩

lemma Sound.noteAll (h : Sound u p) (hfs : ∀ f ∈ fs, f ∈ u.flags)
    (hnote : Usage.noteAll p fs = some (.inl p')) : Sound u p' := by
  induction fs generalizing p with
  | nil =>
    cases hnote
    exact h
  | cons f r ih =>
    rw [List.forall_mem_cons] at hfs
    rw [Usage.noteAll] at hnote
    split at hnote
    · cases hnote
    · split at hnote
      · rename_i p₁ hp₁
        exact ih (h.note hfs.1 hp₁) hfs.2 hnote
      · cases hnote

/-- What is read in the end was noted option by option, and an option was chosen if one has to be.
-/
lemma exists_of_go {inRow : Bool} (h : Sound u p) (hks : ∀ k ∈ ks, k.From u)
    (hread : u.go inRow p ks = .read a) :
    ∃ p', Sound u p' ∧ p'.arguments = a ∧ (u.flags.any (·.mode) → p'.mode.isSome) := by
  fun_induction Usage.go u inRow p ks with
  | case1 _ p =>
    unfold finish at hread
    split_ifs at hread with hleft hmode
    obtain rfl := Reading.read.inj hread
    refine ⟨p, h, rfl, fun hany => ?_⟩
    simpa [hany, Option.isNone_iff_eq_none, Option.isSome_iff_ne_none] using hmode
  -- words that are no options change neither the options nor their values
  | case2 p s r ih => exact ih ⟨h.values, h.mode⟩ (List.forall_mem_cons.mp hks).2 hread
  | case3 inRow p s r hrow hoperands ih =>
    exact ih ⟨h.values, h.mode⟩ (List.forall_mem_cons.mp hks).2 hread
  | case4 inRow p s r hrow hoperands ih =>
    exact ih ⟨h.values, h.mode⟩ (List.forall_mem_cons.mp hks).2 hread
  | case5 p r ih => exact ih h (List.forall_mem_cons.mp hks).2 hread
  | case6 inRow p r hrow hoperands ih =>
    exact ih ⟨h.values, h.mode⟩ (List.forall_mem_cons.mp hks).2 hread
  | case7 inRow p r hrow hoperands ih =>
    exact ih ⟨h.values, h.mode⟩ (List.forall_mem_cons.mp hks).2 hread
  | case8 inRow p r ih => exact ih ⟨h.values, h.mode⟩ (List.forall_mem_cons.mp hks).2 hread
  | case9 inRow p f spelling v r vs hchoice p' hnote ih =>
    rw [List.forall_mem_cons] at hks
    exact ih (h.note hks.1 hnote) hks.2 hread
  | case15 inRow p f spelling v r hv fs hcluster p' hnote hchoice ih =>
    rw [List.forall_mem_cons] at hks
    refine ih (h.noteAll ?_ hnote) hks.2 hread
    exact List.forall_mem_cons.mpr ⟨hks.1, mem_of_cluster hcluster⟩
  | case17 inRow p f spelling r p' hnote hhelp ih =>
    rw [List.forall_mem_cons] at hks
    exact ih (h.note hks.1 hnote) hks.2 hread
  | _ => cases hread

/-- **What a command line gives.** Every value that is read is one its option takes. If there are
options of which one has to be given, one of them is. -/
lemma given_of_parse {argv : List String} (h : u.parse argv = .read a) :
    (∀ name v, a.value? name = some v →
      ∃ f ∈ u.flags, ∃ vs, f.effect = .choice vs ∧ f.name = name ∧ v ∈ vs) ∧
    (u.flags.any (·.mode) → ∃ f ∈ u.flags, f.mode ∧ a.Gives f) := by
  unfold parse at h
  split at h
  · cases h
  rename_i ks hks
  obtain ⟨p, hsound, rfl, hmode⟩ := exists_of_go (sound_start u) (from_attach (from_words hks)) h
  constructor
  · intro name v hv
    obtain ⟨before, after, hvalues, -⟩ := List.lookup_eq_some_iff.mp hv
    exact hsound.values (name, v) (by simp [hvalues])
  · intro hany
    obtain ⟨f, hf⟩ := Option.isSome_iff_exists.mp (hmode hany)
    exact ⟨f, hsound.mode f hf⟩

end Usage

end SpecScribe.Shell
