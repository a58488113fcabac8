import Mathlib
import SpecScribe.Proofs.Workspace.Filtering
import SpecScribe.Proofs.Workspace.Normal

/-!
What the standard patterns match. Each of them is an ending, a name, or everything below a
directory. Endings and names match wherever they occur in a path. A pattern for everything below a
directory is compared with the path from its start, so it matches below that directory only where
a relative path begins with it.
-/

namespace SpecScribe.Workspace

/-! ### Patterns of a simple form -/

namespace Glob

variable {s t : List Char} {ps : List GlobPart}

/-- A text that stands for itself in a pattern. -/
def Plain (s : List Char) : Prop := ∀ c ∈ s, c ≠ '*' ∧ c ≠ '?' ∧ c ≠ '['

instance : DecidablePred Plain := fun s =>
  List.decidableBAll (fun c => c ≠ '*' ∧ c ≠ '?' ∧ c ≠ '[') s

lemma read_append (hs : Plain s) (r : List Char) : read 0 (s ++ r) = s.map .char ++ read 0 r := by
  induction s with
  | nil => rfl
  | cons c s ih =>
    obtain ⟨⟨hstar, hany, hset⟩, hs⟩ := List.forall_mem_cons.mp hs
    simp [read, hstar, hany, hset, ih hs]

lemma read_of_plain (hs : Plain s) : read 0 s = s.map .char := by
  simpa [read] using read_append hs []

lemma covers_chars (s : List Char) :
    covers (s.map .char ++ ps) t = true ↔ ∃ r, t = s ++ r ∧ covers ps r = true := by
  induction s generalizing t with
  | nil => simp
  | cons c s ih =>
    cases t with
    | nil => simp [covers]
    | cons d t => simp [covers, GlobPart.accepts, ih, and_assoc]

lemma covers_text (s : List Char) : covers (s.map .char) t = true ↔ t = s := by
  rw [← List.append_nil (List.map _ _), covers_chars]
  simp [covers]

lemma anySuffix_iff {p : List Char → Bool} :
    anySuffix p t = true ↔ ∃ r, r <:+ t ∧ p r = true := by
  induction t with
  | nil => simp [anySuffix]
  | cons c t ih => simp [anySuffix, ih, List.suffix_cons_iff, or_and_right, exists_or]

end Glob

section Forms

variable {pattern text : String} {e n : List Char}

lemma globMatch_ending (he : Glob.Plain e) (h : pattern.toList = '*' :: e) :
    globMatch pattern text = true ↔ e <:+ text.toList := by
  have hread : Glob.read 0 ('*' :: e) = .star :: e.map .char := by
    rw [← Glob.read_of_plain he]
    rfl
  rw [globMatch, h, hread, Glob.covers, Glob.anySuffix_iff]
  simp [Glob.covers_text]

lemma globMatch_name (h : Glob.Plain pattern.toList) :
    globMatch pattern text = true ↔ text = pattern := by
  rw [globMatch, Glob.read_of_plain h, Glob.covers_text, String.toList_inj]

lemma globMatch_below (hn : Glob.Plain n) (h : pattern.toList = n ++ ['/', '*']) :
    globMatch pattern text = true ↔ n ++ ['/'] <+: text.toList := by
  have hplain : Glob.Plain (n ++ ['/']) := by
    intro c hc
    rcases List.mem_append.mp hc with hc | hc
    · exact hn c hc
    · rw [List.mem_singleton.mp hc]
      decide
  have hread : Glob.read 0 (n ++ ['/', '*']) = (n ++ ['/']).map .char ++ [.star] := by
    rw [← List.singleton_append (x := '/'), ← List.append_assoc, Glob.read_append hplain]
    rfl
  rw [globMatch, h, hread, Glob.covers_chars]
  have hstar : ∀ r, Glob.covers [.star] r = true := fun r =>
    Glob.anySuffix_iff.mpr ⟨[], List.nil_suffix, rfl⟩
  simp [hstar, List.IsPrefix, eq_comm]

end Forms

/-! ### The standard patterns -/

/-- A text that stands for itself and can be a step of a path. -/
def Segment (s : List Char) : Prop := Glob.Plain s ∧ '/' ∉ s ∧ s ≠ [] ∧ s ≠ ['.']

instance : DecidablePred Segment := fun s =>
  inferInstanceAs (Decidable (Glob.Plain s ∧ '/' ∉ s ∧ s ≠ [] ∧ s ≠ ['.']))

/-- The forms of the standard patterns: an ending, a name, or everything below a directory. -/
inductive StandardForm (pattern : String) : Prop
  | ending (e : List Char) (he : Segment e) (h : pattern.toList = '*' :: e)
  | name (h : Segment pattern.toList)
  | below (n : List Char) (hn : Segment n) (h : pattern.toList = n ++ ['/', '*'])

lemma standardForm {pattern : String} (h : pattern ∈ standardPatterns) : StandardForm pattern := by
  have hforms : ∀ pattern ∈ standardPatterns, let s := pattern.toList
      (s = '*' :: s.tail ∧ Segment s.tail) ∨ Segment s ∨
        (s = s.dropLast.dropLast ++ ['/', '*'] ∧ Segment s.dropLast.dropLast) := by
    decide +kernel
  rcases hforms pattern h with ⟨hs, he⟩ | hn | ⟨hs, hn⟩
  · exact .ending _ he hs
  · exact .name hn
  · exact .below _ hn hs

/-- Of a pattern for everything below a directory, the directory is a single step. -/
lemma segment_of_below {n : String} (h : n ++ "/*" ∈ standardPatterns) : Segment n.toList := by
  have htext : (n ++ "/*").toList = n.toList ++ ['/', '*'] := String.toList_append
  rcases standardForm h with ⟨e, he, heq⟩ | hname | ⟨m, hm, heq⟩
  · rw [htext] at heq
    have hslash : '/' ∈ '*' :: e := by
      rw [← heq]
      simp
    exact absurd hslash (by simpa using he.2.1)
  · rw [htext] at hname
    exact absurd (show '/' ∈ n.toList ++ ['/', '*'] by simp) hname.2.1
  · rw [htext] at heq
    rwa [List.append_cancel_right heq]

/-! ### Texts of paths -/

/-- A text without a slash at the end of a path is at the end of its last step. -/
lemma suffix_of_suffix_slash {e r n : List Char} (he : '/' ∉ e) (h : e <:+ r ++ '/' :: n) :
    e <:+ n := by
  rcases List.suffix_or_suffix_of_suffix h (List.suffix_append r ('/' :: n)) with h | h
  · rcases List.suffix_cons_iff.mp h with rfl | h
    · simp at he
    · exact h
  · exact absurd (h.subset (List.mem_cons_self ..)) he

/-- What stands in front of the first slash. -/
lemma eq_of_prefix_slash {m x b : List Char} (hm : '/' ∉ m) (hx : '/' ∉ x)
    (h : m ++ ['/'] <+: x ++ '/' :: b) : m = x := by
  obtain ⟨t, ht⟩ := h
  have hfront := congrArg (List.takeWhile (· != '/')) ht
  have hout : ∀ {y : List Char}, '/' ∉ y → ∀ c ∈ y, (c != '/') = true := fun hy c hc => by
    simpa using fun h : c = '/' => hy (h ▸ hc)
  rw [List.append_assoc, List.takeWhile_append_of_pos (hout hm),
    List.takeWhile_append_of_pos (hout hx)] at hfront
  simpa using hfront

namespace Path

variable {p d : Path} {n : String}

lemma body_cons {rest : List String} (x : String) (h : rest ≠ []) :
    body (x :: rest) = x.toList ++ '/' :: body rest := by
  cases rest with
  | nil => exact absurd rfl h
  | cons y rest => simp [body]

lemma body_concat {l : List String} (h : l ≠ []) (n : String) :
    body (l ++ [n]) = body l ++ '/' :: n.toList := by
  induction l with
  | nil => exact absurd rfl h
  | cons x l ih =>
    cases l with
    | nil => simp [body]
    | cons y l =>
      rw [List.cons_append, body_cons x (by simp), ih (by simp), body_cons x (by simp)]
      simp

lemma toList_toString (h : p.steps ≠ []) : p.toString.toList = p.root.toList ++ body p.steps := by
  rw [toString_eq, if_neg (fun hp => h hp.2), String.toList_ofList]

lemma Normal.of_child (h : (d.child n).Normal) : d.Normal where
  root := h.root
  steps x hx := h.steps x (List.mem_append_left _ hx)

/-- The last step of a path, behind nothing or behind a slash. -/
lemma toList_toString_child (hd : d.Normal) (n : String) :
    (d.child n).toString = n ∨ ∃ r, (d.child n).toString.toList = r ++ '/' :: n.toList := by
  have htext : (d.child n).toString.toList = d.root.toList ++ body (d.steps ++ [n]) :=
    toList_toString (by simp [child])
  by_cases hsteps : d.steps = []
  · have hbody : body (d.steps ++ [n]) = n.toList := by simp [hsteps, body]
    rw [hbody] at htext
    have hroot := hd.root
    generalize d.root = root at htext hroot
    cases hroot with
    | none => exact .inl (String.toList_inj.mp htext)
    | one => exact .inr ⟨[], htext⟩
    | two => exact .inr ⟨['/'], htext⟩
  · rw [body_concat hsteps, ← List.append_assoc] at htext
    exact .inr ⟨_, htext⟩

/-- A relative path below a directory that a standard pattern excludes with everything in it. -/
def Swept (p : Path) : Prop :=
  p.root = "" ∧ ∃ n m rest, p.steps = n :: m :: rest ∧ n ++ "/*" ∈ standardPatterns

/-- A path whose text begins with a step and a slash is relative and has a second step. -/
lemma steps_of_prefix_slash (hp : p.Normal) (hsteps : p.steps ≠ []) {m : List Char}
    (hm : Segment m) (h : m ++ ['/'] <+: p.toString.toList) :
    p.root = "" ∧ ∃ y rest, p.steps = String.ofList m :: y :: rest := by
  obtain ⟨-, hslash, hempty, -⟩ := hm
  rw [toList_toString hsteps] at h
  have hrelative : p.root = "" := by
    obtain ⟨c, r, rfl⟩ := List.exists_cons_of_ne_nil hempty
    have hc : c ≠ '/' := fun heq => hslash (by simp [heq])
    have hroot := hp.root
    generalize p.root = root at h hroot
    cases hroot with
    | none => rfl
    | one => exact absurd (List.cons_prefix_cons.mp h).1 hc
    | two => exact absurd (List.cons_prefix_cons.mp h).1 hc
  refine ⟨hrelative, ?_⟩
  rw [hrelative, show "".toList = [] from rfl, List.nil_append] at h
  obtain ⟨x, rest, hx⟩ := List.exists_cons_of_ne_nil hsteps
  have hxslash : '/' ∉ x.toList := (hp.steps x (by simp [hx])).2.2
  cases rest with
  | nil =>
    have hbody : body p.steps = x.toList := by simp [hx, body]
    rw [hbody] at h
    exact absurd (h.subset (by simp)) hxslash
  | cons y rest =>
    rw [hx, body_cons x (by simp)] at h
    rw [eq_of_prefix_slash hslash hxslash h, String.ofList_toList]
    exact ⟨y, rest, hx⟩

end Path

/-! ### What they match -/

namespace Filter

variable {p d : Path} {n : String}

lemma hits_root {root : String} (h : Path.IsRoot root) :
    hits standardPatterns (spellings ⟨root, []⟩) = false := by
  cases h <;> decide +kernel

/-- A standard pattern that matches the text of a path matches its last step, or excludes everything
below the first one. -/
lemma matches_child (hp : (d.child n).Normal) {pattern : String}
    (hpattern : pattern ∈ standardPatterns)
    (hmatch : globMatch pattern (d.child n).toString = true) :
    globMatch pattern n = true ∨ (d.child n).Swept := by
  rcases Path.toList_toString_child hp.of_child n with htext | ⟨r, htext⟩
  · exact .inl (htext ▸ hmatch)
  rcases standardForm hpattern with ⟨e, he, hform⟩ | hform | ⟨m, hm, hform⟩
  · -- an ending has no slash, so it ends the last step
    have hend := (globMatch_ending he.1 hform).mp hmatch
    rw [htext] at hend
    exact .inl ((globMatch_ending he.1 hform).mpr (suffix_of_suffix_slash he.2.1 hend))
  · -- a name has no slash, but the text has one
    have heq := (globMatch_name hform.1).mp hmatch
    have hslash : '/' ∈ pattern.toList := by
      rw [← heq, htext]
      simp
    exact absurd hslash hform.2.1
  · have hstart := (globMatch_below hm.1 hform).mp hmatch
    obtain ⟨hroot, y, rest, hsteps⟩ :=
      Path.steps_of_prefix_slash hp (by simp [Path.child]) hm hstart
    have hpat : pattern = String.ofList m ++ "/*" := by
      rw [← String.toList_inj, hform, String.toList_append, String.toList_ofList]
      rfl
    exact .inr ⟨hroot, String.ofList m, y, rest, hsteps, hpat ▸ hpattern⟩

lemma hits_of_swept (hp : p.Swept) : hits standardPatterns (spellings p) = true := by
  obtain ⟨hroot, x, m, rest, hsteps, hpattern⟩ := hp
  refine hits_iff.mpr ⟨_, hpattern, p.toString, by simp [spellings], ?_⟩
  rw [globMatch_below (segment_of_below hpattern).1 String.toList_append,
    Path.toList_toString (by simp [hsteps]), hroot, hsteps, Path.body_cons x (by simp)]
  exact ⟨Path.body (m :: rest), by simp⟩

lemma hits_spellings_child (hp : (d.child n).Normal) :
    hits standardPatterns (spellings (d.child n)) = true ↔
      hits standardPatterns [n] = true ∨ (d.child n).Swept := by
  have hspellings : spellings (d.child n) = [(d.child n).toString, n] := by
    simp [spellings, Path.name, Path.child]
  constructor
  · intro h
    obtain ⟨pattern, hpattern, text, htext, hmatch⟩ := hits_iff.mp h
    have hlast : globMatch pattern n = true ∨ (d.child n).Swept := by
      rw [hspellings, List.mem_pair] at htext
      rcases htext with rfl | rfl
      · exact matches_child hp hpattern hmatch
      · exact .inl hmatch
    exact hlast.imp_left fun hn => hits_iff.mpr ⟨pattern, hpattern, n, by simp, hn⟩
  · rintro (h | h)
    · exact hits_mono (List.Subset.refl _) (by simp [hspellings]) h
    · exact hits_of_swept h

lemma swept_child (hd : d.Swept) (n : String) : (d.child n).Swept := by
  obtain ⟨hroot, x, m, rest, hsteps, hpattern⟩ := hd
  exact ⟨hroot, x, m, rest ++ [n], by simp [Path.child, hsteps], hpattern⟩

/-- The standard patterns match a file or a directory above it exactly if one of the steps matches
by itself, or if the path begins in a directory that a pattern excludes with everything in it. -/
lemma hits_traces_iff (hp : p.Normal) :
    hits standardPatterns (traces p) = true ↔
      (∃ n ∈ p.steps, hits standardPatterns [n] = true) ∨ p.Swept := by
  obtain ⟨root, steps⟩ := p
  induction steps using List.reverseRecOn with
  | nil =>
    have hnone : hits standardPatterns (traces ⟨root, []⟩) = false := hits_root hp.root
    simp [hnone, Path.Swept]
  | append_singleton steps n ih =>
    set d : Path := ⟨root, steps⟩ with hd
    have hchild : (⟨root, steps ++ [n]⟩ : Path) = d.child n := rfl
    rw [hchild] at hp ⊢
    rw [traces_child, hits_append_texts, Bool.or_eq_true, hits_spellings_child hp, ih hp.of_child]
    have hsteps : (d.child n).steps = d.steps ++ [n] := rfl
    simp only [hsteps, List.mem_append, List.mem_singleton, or_and_right, exists_or, exists_eq_left]
    constructor
    · rintro ((hn | hswept) | (habove | hswept))
      · exact .inl (.inr hn)
      · exact .inr hswept
      · exact .inl (.inl habove)
      · exact .inr (swept_child hswept n)
    · rintro ((habove | hn) | hswept)
      · exact .inr (.inl habove)
      · exact .inl (.inl hn)
      · exact .inl (.inr hswept)

/-- **What leaving out a directory hides.** A directory that matches a pattern holds no file that
passes. A directory hides a file that passes exactly if it has a skipped name and the file is not
too large and matches no pattern, neither itself nor with a directory above it. Where no further
patterns are given, the latter means that no step of its path matches a standard pattern and that
it is not a relative path that begins in a directory which such a pattern excludes. -/
theorem excludesDir_hides_iff {f : Filter} {s : Store} {ps q : List String} {c : Content}
    (hps : f.exclude = .list (ps.map .text)) (hfile : s.stat (d.along q) = .ok (.file c)) :
    (hits (standardPatterns ++ ps) (spellings d) = true →
      f.excludesDir d = .ok true ∧ f.excludesFile s (d.along q) = .ok true) ∧
    (f.excludesDir d = .ok true ∧ f.excludesFile s (d.along q) = .ok false ↔
      d.name ∈ skippedDirs ∧ f.maxBytes.lt (.int c.size) = false ∧
        hits (standardPatterns ++ ps) (traces (d.along q)) = false) ∧
    ((d.along q).Normal → (hits standardPatterns (traces (d.along q)) = false ↔
      (∀ n ∈ (d.along q).steps, hits standardPatterns [n] = false) ∧ ¬ (d.along q).Swept)) := by
  have hdir := excludesDir_of_texts hps d
  have hpath := excludesFile_of_stat hps hfile
  have habove : hits (standardPatterns ++ ps) (spellings d) = true →
      hits (standardPatterns ++ ps) (traces (d.along q)) = true :=
    hits_mono (List.Subset.refl _) (spellings_subset_traces d q)
  refine ⟨fun hd => ?_, ?_, fun hp => ?_⟩
  · rw [hdir, hpath, habove hd]
    simp [keeps, hd]
  · have hlarge : f.tooLarge (.file c) = f.maxBytes.lt (.int c.size) := rfl
    rw [hdir, hpath, hlarge, Except.ok.injEq, Except.ok.injEq, Bool.or_eq_false_iff]
    refine and_congr_left fun hpass => ?_
    have hd : hits (standardPatterns ++ ps) (spellings d) = false := by
      rw [← Bool.not_eq_true]
      exact mt habove (by simp [hpass.2])
    simp [keeps, hd]
  · rw [← Bool.not_eq_true, hits_traces_iff hp]
    simp [not_or]

/-- A pattern for everything below a directory is tried from the start of the path, so it does not
match further down. -/
theorem excludesDir_hides_iff_deeper :
    let s : Store :=
      { root := .dir [("a", .dir [("venv", .dir [("lib", .dir [("x.py", .file ⟨[], 0⟩)])])])] }
    let f : Filter := { exclude := .list [.text "lib/*"] }
    let d : Path := ⟨"", ["a", "venv"]⟩
    f.exclude = .list (["lib/*"].map .text) ∧
      s.stat (d.along ["lib", "x.py"]) = .ok (.file ⟨[], 0⟩) ∧ d.name ∈ skippedDirs ∧
      f.excludesDir d = .ok true ∧ f.excludesFile s (d.along ["lib", "x.py"]) = .ok false := by
  intro s f d
  have hps : f.exclude = .list (["lib/*"].map .text) := rfl
  have hfile : s.stat (d.along ["lib", "x.py"]) = .ok (.file ⟨[], 0⟩) :=
    Store.stat_along (Store.stat_self rfl) (show s.root.Plain by simp [s]) (by decide)
  have hname : d.name ∈ skippedDirs := by decide +kernel
  exact ⟨hps, hfile, hname, (excludesDir_hides_iff hps hfile).2.1.mpr
    ⟨hname, by decide +kernel, by decide +kernel⟩⟩

/-- A directory that is left out below another one, and one for which there is no pattern: each
hides a file that passes. -/
theorem skipped_dirs_hide_files :
    let s : Store := { root := .dir [(".tox", .dir [("y.py", .file ⟨[], 0⟩)]),
      ("a", .dir [("venv", .dir [("x.py", .file ⟨[], 0⟩)])])] }
    let f : Filter := {}
    (f.excludesDir ⟨"", ["a", "venv"]⟩ = .ok true ∧
      f.excludesFile s ⟨"", ["a", "venv", "x.py"]⟩ = .ok false) ∧
    (f.excludesDir ⟨"", [".tox"]⟩ = .ok true ∧
      f.excludesFile s ⟨"", [".tox", "y.py"]⟩ = .ok false) := by
  intro s f
  have hps : f.exclude = .list (([] : List String).map .text) := rfl
  have hplain : s.root.Plain := by simp [s]
  have hx : s.stat ⟨"", ["a", "venv", "x.py"]⟩ = .ok (.file ⟨[], 0⟩) :=
    Store.stat_along (Store.stat_self rfl) hplain (by decide)
  have hy : s.stat ⟨"", [".tox", "y.py"]⟩ = .ok (.file ⟨[], 0⟩) :=
    Store.stat_along (Store.stat_self rfl) hplain (by decide)
  refine ⟨⟨by decide +kernel, ?_⟩, by decide +kernel, ?_⟩
  · exact (passes_iff hps).mpr ⟨⟨_, hx, by decide +kernel⟩, by decide +kernel⟩
  · exact (passes_iff hps).mpr ⟨⟨_, hy, by decide +kernel⟩, by decide +kernel⟩

end Filter

end SpecScribe.Workspace
