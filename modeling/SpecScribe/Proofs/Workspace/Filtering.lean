import Mathlib
import SpecScribe.Proofs.Workspace.Places
import SpecScribe.Proofs.Workspace.Pruning

/-!
The test on directories and the test on files try the same patterns: the one on a directory, the
other on a file and all directories above it. So a directory that matches a pattern holds no file
that passes the test on files, and of the directories that a scan leaves out only those with a
skipped name matter. What a scan finds depends on the patterns through its files alone.
-/

namespace SpecScribe.Workspace

namespace Path

variable (p : Path) {q : List String}

@[simp] lemma along_nil : p.along [] = p := by simp [along]

lemma along_append (q r : List String) : p.along (q ++ r) = (p.along q).along r := by
  simp [along]

lemma along_concat (q : List String) (n : String) : p.along (q ++ [n]) = (p.along q).child n := by
  simp [along, child]

/-- A directory between a path and what steps from it lead to is reached by some of the steps. -/
lemma mem_between {top d : Path} (h : d ∈ top.between q) :
    ∃ q₁ q₂, q = q₁ ++ q₂ ∧ q₁ ≠ [] ∧ q₂ ≠ [] ∧ d = top.along q₁ := by
  induction q generalizing top with
  | nil => cases h
  | cons n rest ih =>
    cases rest with
    | nil => cases h
    | cons m rest =>
      rcases List.mem_cons.mp h with rfl | h
      · exact ⟨[n], m :: rest, rfl, by simp, by simp, rfl⟩
      · obtain ⟨q₁, q₂, hq, -, h₂, rfl⟩ := ih h
        exact ⟨n :: q₁, q₂, by rw [hq]; rfl, by simp, h₂, top.child_along n q₁⟩

end Path

/-! ### The two tests -/

namespace Filter

variable {f : Filter} {s : Store} {p d : Path} {q : List String} {ps ps' texts texts' : List String}

lemma hits_iff : hits ps texts = true ↔
    ∃ pattern ∈ ps, ∃ text ∈ texts, globMatch pattern text = true := by
  simp [hits]

lemma hits_mono (hps : ps ⊆ ps') (htexts : texts ⊆ texts') (h : hits ps texts = true) :
    hits ps' texts' = true := by
  obtain ⟨pattern, hpattern, text, htext, hmatch⟩ := hits_iff.mp h
  exact hits_iff.mpr ⟨pattern, hps hpattern, text, htexts htext, hmatch⟩

lemma hits_append (ps ps' texts : List String) :
    hits (ps ++ ps') texts = (hits ps texts || hits ps' texts) := List.any_append

lemma hits_append_texts (ps texts texts' : List String) :
    hits ps (texts ++ texts') = (hits ps texts || hits ps texts') := by
  rw [Bool.eq_iff_iff, Bool.or_eq_true, hits_iff, hits_iff, hits_iff]
  simp only [List.mem_append, or_and_right, exists_or, and_or_left]

/-- The texts by which a file can match: those of itself and of all directories above it. -/
def traces (p : Path) : List String := (p :: parents p).flatMap spellings

lemma parents_child (d : Path) (n : String) : parents (d.child n) = d :: parents d := by
  have hlength : (d.child n).steps.length = d.steps.length + 1 := by simp [Path.child]
  unfold parents
  rw [hlength, List.range_succ_eq_map, List.map_cons, List.map_map]
  congr 1
  · simp [Path.child]
  · refine List.map_congr_left fun i hi => ?_
    rw [List.mem_range] at hi
    have htake : d.steps.length + 1 - 1 - (i + 1) = d.steps.length - 1 - i := by omega
    simp only [Function.comp_apply, Nat.succ_eq_add_one, htake, Path.child,
      List.take_append_of_le_length (show d.steps.length - 1 - i ≤ d.steps.length by omega)]

lemma traces_child (d : Path) (n : String) :
    traces (d.child n) = spellings (d.child n) ++ traces d := by
  rw [traces, parents_child, List.flatMap_cons, traces]

/-- What matches a directory matches every file below it. -/
lemma spellings_subset_traces (d : Path) (q : List String) : spellings d ⊆ traces (d.along q) := by
  induction q using List.reverseRecOn with
  | nil =>
    rw [Path.along_nil, traces, List.flatMap_cons]
    exact List.subset_append_left ..
  | append_singleton q n ih =>
    rw [Path.along_concat, traces_child]
    exact List.Subset.trans ih (List.subset_append_right ..)

/-- The size that the test on files sees: a directory has a fixed one. -/
def sizeOf : Entry → ℕ
  | .file c => c.size
  | _ => 4096

/-- Whether what a path leads to is too large. -/
def tooLarge (f : Filter) (e : Entry) : Bool := f.maxBytes.lt (.int (sizeOf e))

lemma excludesFile_of_stat {e : Entry} (h : f.exclude = .list (ps.map .text))
    (hstat : s.stat p = .ok e) :
    f.excludesFile s p = .ok (f.tooLarge e || hits (standardPatterns ++ ps) (traces p)) := by
  have hopen : f.excludesFile s p =
      if f.tooLarge e then .ok true else f.patterns >>= anyMatch (traces p) := by
    unfold excludesFile
    rw [hstat]
    cases e <;> rfl
  have hmatch : f.patterns >>= anyMatch (traces p) =
      .ok (hits (standardPatterns ++ ps) (traces p)) := by
    rw [patterns_of_texts h]
    exact anyMatch_texts ..
  rw [hopen, hmatch]
  cases f.tooLarge e <;> rfl

/-- A file passes if it can be reached, is not too large and no pattern matches it or a directory
above it. -/
lemma passes_iff (h : f.exclude = .list (ps.map .text)) :
    f.excludesFile s p = .ok false ↔
      (∃ e, s.stat p = .ok e ∧ f.tooLarge e = false) ∧
        hits (standardPatterns ++ ps) (traces p) = false := by
  rcases hstat : s.stat p with fault | e
  · have hfault : f.excludesFile s p ≠ .ok false := by
      unfold excludesFile
      rw [hstat]
      cases fault <;> simp
    simp [hfault]
  · rw [excludesFile_of_stat h hstat]
    simp

/-- Whether the name of a directory is none of those that are never entered. -/
def unskipped (d : Path) : Bool := !skippedDirs.contains d.name

/-- Patterns leave out no directory above a file that passes. -/
lemma keeps_eq_unskipped (h : f.exclude = .list (ps.map .text)) (q : List String)
    (hpass : f.excludesFile s (d.along q) = .ok false) : keeps ps d = unskipped d := by
  have hnone : hits (standardPatterns ++ ps) (spellings d) = false := by
    by_contra hhit
    rw [Bool.not_eq_false] at hhit
    have habove := hits_mono (List.Subset.refl _) (spellings_subset_traces d q) hhit
    rw [((passes_iff h).mp hpass).2] at habove
    cases habove
  rw [keeps, hnone, Bool.or_false, unskipped]

end Filter

/-! ### What a scan finds -/

open scoped List

/-- What a scan for some languages finds at a path that passes. -/
def Store.found? (s : Store) (ls : List Language) (p : Path) : Option FoundFile :=
  (s.language? p).bind fun l => if l ∈ ls then some ⟨p, l, (s.fileSize? p).getD 0⟩ else none

/-- The files of a list that pass and have one of the languages. -/
def Filter.finds (f : Filter) (s : Store) (ls : List Language) (paths : List Path) :
    List FoundFile :=
  (paths.filter fun p => f.excludesFile s p = .ok false).filterMap (s.found? ls)

namespace Scanner

variable {sc : Scanner} {filter : Filter} {s : Store} {top p : Path} {ls : List Language}
  {ps P Q : List String}

lemma path_of_found? {f : FoundFile} (h : s.found? ls p = some f) : f.path = p := by
  obtain ⟨l, -, hl⟩ := Option.bind_eq_some_iff.mp h
  split_ifs at hl
  rw [← Option.some.inj hl]

lemma file?_judge (filter : Filter) (s : Store) (ls : List Language) (p : Path) :
    (judge filter s (oneOf ls) p).file? =
      if filter.excludesFile s p = .ok false then s.found? ls p else none := by
  unfold judge Store.found? Store.fileSize? oneOf
  rcases filter.excludesFile s p with fault | (_ | _)
  · simp [Verdict.file?]
  · rcases s.language? p with _ | l
    · simp [Verdict.file?]
    · by_cases hl : l ∈ ls
      · rcases s.read p with fault | c <;> simp [Verdict.file?, hl]
      · simp [Verdict.file?, hl]
  · simp [Verdict.file?]

lemma finds_eq_filterMap (filter : Filter) (s : Store) (ls : List Language) (paths : List Path) :
    filter.finds s ls paths = paths.filterMap fun p => (judge filter s (oneOf ls) p).file? := by
  rw [Filter.finds, List.filterMap_filter]
  exact List.filterMap_congr fun p _ => by simp [file?_judge]

/-- A scan without a limit finds what passes among the files that are reached. -/
lemma scan_finds (s : Store) (top : Path) (ls : List Language)
    (hps : sc.filter.exclude = .list (ps.map .text)) :
    (sc.scan s top (oneOf ls)).1 =
      .ok (sc.filter.finds s ls
        ((s.listing top).filter (Store.reached (Filter.keeps ps) top))) := by
  rw [scan_eq_scanFiles s top ls 0 hps, finds_eq_filterMap]
  exact congrArg Except.ok (scanFiles_unlimited ..).1

/-- For what is found it is enough to leave out the directories with a skipped name. -/
lemma scan_unskipped (s : Store) (top : Path) (ls : List Language)
    (hps : sc.filter.exclude = .list (ps.map .text)) :
    (sc.scan s top (oneOf ls)).1 =
      .ok (sc.filter.finds s ls ((s.listing top).filter (Store.reached Filter.unskipped top))) := by
  rw [scan_finds s top ls hps, Filter.finds, Filter.finds, List.filter_filter, List.filter_filter]
  congr 2
  refine List.filter_congr fun p hp => ?_
  by_cases hpass : sc.filter.excludesFile s p = .ok false
  · obtain ⟨-, q, -, -, rfl⟩ := s.mem_listing hp
    have hdirs : ∀ d ∈ top.between q, Filter.keeps ps d = Filter.unskipped d := by
      intro d hd
      obtain ⟨q₁, q₂, rfl, -, -, rfl⟩ := Path.mem_between hd
      rw [Path.along_append] at hpass
      exact Filter.keeps_eq_unskipped hps q₂ hpass
    rw [Store.reached, Store.reached, Path.stepsTo_along, Bool.eq_iff_iff, Bool.and_eq_true,
      Bool.and_eq_true, List.all_eq_true, List.all_eq_true]
    exact and_congr_right fun _ => forall₂_congr fun d hd => by rw [hdirs d hd]
  · simp [hpass]

/-- The scanner with other patterns. -/
def excluding (sc : Scanner) (ps : List String) : Scanner :=
  { sc with filter := { sc.filter with exclude := .list (ps.map .text) } }

lemma exclude_excluding (sc : Scanner) (ps : List String) :
    (sc.excluding ps).filter.exclude = .list (ps.map .text) := rfl

/-- Of small files below a directory without links, a scan finds those that no pattern matches. -/
lemma scan_of_plain {e : Entry} {qs : List (List String)} (sc : Scanner) (ps : List String)
    (ls : List Language) (htop : s.stat top = .ok e) (he : e.Plain)
    (hreached : (s.listing top).filter (Store.reached Filter.unskipped top) = qs.map top.along)
    (hsmall : ∀ q ∈ qs, (∀ n ∈ q, IsName n) ∧
      (e.into q).toOption.any (!sc.filter.tooLarge ·) = true) :
    ((sc.excluding ps).scan s top (oneOf ls)).1 =
      .ok (((qs.map top.along).filter fun p =>
        !Filter.hits (standardPatterns ++ ps) (Filter.traces p)).filterMap (s.found? ls)) := by
  have hpass : (qs.map top.along).filter
        (fun p => (sc.excluding ps).filter.excludesFile s p = .ok false) =
      (qs.map top.along).filter fun p =>
        !Filter.hits (standardPatterns ++ ps) (Filter.traces p) := by
    refine List.filter_congr fun p hp => ?_
    obtain ⟨q, hq, rfl⟩ := List.mem_map.mp hp
    obtain ⟨hnames, hany⟩ := hsmall q hq
    have hstat := Store.stat_along htop he hnames
    rw [Bool.eq_iff_iff, decide_eq_true_eq, Filter.passes_iff (exclude_excluding sc ps),
      Bool.not_eq_true', hstat]
    refine and_iff_right ?_
    rcases hinto : e.into q with fault | e' <;> rw [hinto] at hany
    · cases hany
    · have hlarge : sc.filter.tooLarge e' = false := by simpa [Except.toOption] using hany
      exact ⟨e', rfl, hlarge⟩
  rw [scan_unskipped s top ls (exclude_excluding sc ps), hreached, Filter.finds, hpass]

lemma passes_of_more (sc : Scanner) (s : Store) (p : Path) (hPQ : P ⊆ Q) :
    (sc.excluding Q).filter.excludesFile s p = .ok false ↔
      (sc.excluding P).filter.excludesFile s p = .ok false ∧
        Filter.hits Q (Filter.traces p) = false := by
  have hsize : (sc.excluding Q).filter.tooLarge = (sc.excluding P).filter.tooLarge := rfl
  have hless : Filter.hits Q (Filter.traces p) = false → Filter.hits P (Filter.traces p) = false :=
    fun h => by
      by_contra hP
      rw [Bool.not_eq_false] at hP
      rw [Filter.hits_mono hPQ (List.Subset.refl _) hP] at h
      cases h
  rw [Filter.passes_iff (exclude_excluding sc Q), Filter.passes_iff (exclude_excluding sc P), hsize,
    Filter.hits_append, Filter.hits_append, Bool.or_eq_false_iff, Bool.or_eq_false_iff]
  tauto

/-- The files that are found with more patterns, among those that are found with fewer. -/
lemma finds_of_more (sc : Scanner) (s : Store) (ls : List Language) (hPQ : P ⊆ Q)
    (paths : List Path) :
    (sc.excluding Q).filter.finds s ls paths =
      ((sc.excluding P).filter.finds s ls paths).filter
        fun f => !Filter.hits Q (Filter.traces f.path) := by
  rw [Filter.finds, Filter.finds, List.filterMap_filter, List.filterMap_filter,
    List.filter_filterMap]
  refine List.filterMap_congr fun p _ => ?_
  simp only [decide_eq_true_eq, passes_of_more sc s p hPQ]
  by_cases hpass : (sc.excluding P).filter.excludesFile s p = .ok false
  · rcases hfound : s.found? ls p with _ | f
    · simp
    · obtain rfl := path_of_found? hfound
      cases hhit : Filter.hits Q (Filter.traces f.path) <;> simp [hpass, hhit, Option.filter]
  · simp [hpass]

/-- **More patterns, fewer files.** With patterns among which all of `P` are, a scan finds of the
files that it finds with `P`, in the same order, those that no pattern matches, neither themselves
nor a directory above them. Order and repetition of the patterns do not matter. -/
theorem scan_sublist_of_patterns (sc : Scanner) (s : Store) (top : Path) (ls : List Language)
    (hPQ : P ⊆ Q) :
    ∃ many few, ((sc.excluding P).scan s top (oneOf ls)).1 = .ok many ∧
      ((sc.excluding Q).scan s top (oneOf ls)).1 = .ok few ∧
      few <+ many ∧
      few = many.filter (fun f => !Filter.hits Q (Filter.traces f.path)) ∧
      (Q ⊆ P → few = many) := by
  set paths := (s.listing top).filter (Store.reached Filter.unskipped top) with hpaths
  have hP := scan_unskipped s top ls (exclude_excluding sc P)
  have hQ := scan_unskipped s top ls (exclude_excluding sc Q)
  rw [← hpaths] at hP hQ
  have hfew := finds_of_more sc s ls hPQ paths
  have hsub : (sc.excluding Q).filter.finds s ls paths <+
      (sc.excluding P).filter.finds s ls paths := by
    rw [hfew]
    exact List.filter_sublist
  refine ⟨_, _, hP, hQ, hsub, hfew, fun hQP => hsub.antisymm ?_⟩
  rw [finds_of_more sc s ls hQP paths]
  exact List.filter_sublist

/-- A second pattern, given twice, takes away a directory that the first one left. -/
theorem scan_sublist_of_patterns_removed :
    let s : Store :=
      { root := .dir [("a.py", .file ⟨[], 0⟩), ("old", .dir [("c.py", .file ⟨[], 0⟩)])] }
    let P := ["*.txt"]
    let Q := ["old", "*.txt", "old"]
    P ⊆ Q ∧ ∃ many few, ((excluding {} P).scan s {} (oneOf [.python])).1 = .ok many ∧
      ((excluding {} Q).scan s {} (oneOf [.python])).1 = .ok few ∧ few <+ many ∧
      many.map FoundFile.path = [⟨"", ["a.py"]⟩, ⟨"", ["old", "c.py"]⟩] ∧
      few.map FoundFile.path = [⟨"", ["a.py"]⟩] := by
  intro s P Q
  have hPQ : P ⊆ Q := by decide
  have hreached : (s.listing {}).filter (Store.reached Filter.unskipped {}) =
      [["a.py"], ["old", "c.py"]].map (Path.along {}) := by cbv
  obtain ⟨many, few, hmany, hfew, hsub, heq, -⟩ :=
    scan_sublist_of_patterns {} s {} [.python] hPQ
  have hpaths : many.map FoundFile.path = [⟨"", ["a.py"]⟩, ⟨"", ["old", "c.py"]⟩] := by
    rw [scan_of_plain {} P [.python] (Store.stat_self rfl) (by simp [s]) hreached (by decide +kernel),
      Except.ok.injEq] at hmany
    rw [← hmany]
    decide +kernel
  refine ⟨hPQ, many, few, hmany, hfew, hsub, hpaths, ?_⟩
  have hfilter : (fun f : FoundFile => !Filter.hits Q (Filter.traces f.path)) =
      (fun p => !Filter.hits Q (Filter.traces p)) ∘ FoundFile.path := rfl
  rw [heq, hfilter, ← List.filter_map, hpaths]
  decide +kernel

end Scanner

end SpecScribe.Workspace
