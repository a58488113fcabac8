import Mathlib
import SpecScribe.Proofs.Workspace.Scan
import SpecScribe.Proofs.Workspace.Walk

/-!
A scan leaves directories out while it walks. What it finds is settled without the walk: the files
of the plain listing that are below no excluded directory, are not excluded themselves and have a
wanted language.
-/

namespace SpecScribe.Workspace

/-! ### Patterns that are texts -/

namespace Filter

variable {f : Filter} {ps : List String}

/-- Whether one of the patterns matches one of the texts. -/
def hits (ps texts : List String) : Bool := ps.any fun p => texts.any (globMatch p)

lemma patterns_of_texts (h : f.exclude = .list (ps.map .text)) :
    f.patterns = .ok ((standardPatterns ++ ps).map .text) := by
  unfold patterns
  rw [h]
  cases ps with
  | nil => simp [Datum.isTruthy]
  | cons p ps => simp [Datum.isTruthy]

lemma anyMatch_texts (ps texts : List String) :
    anyMatch texts (ps.map .text) = .ok (hits ps texts) := by
  induction ps with
  | nil => rfl
  | cons p ps ih =>
    have hstep : anyMatch texts ((p :: ps).map .text) =
        if texts.any (globMatch p) then .ok true else anyMatch texts (ps.map .text) := rfl
    have hcons : hits (p :: ps) texts = (texts.any (globMatch p) || hits ps texts) := rfl
    rw [hstep, ih, hcons]
    cases texts.any (globMatch p) <;> rfl

/-- Whether a directory is entered, where the patterns are texts. -/
def keeps (ps : List String) (d : Path) : Bool :=
  !(skippedDirs.contains d.name || hits (standardPatterns ++ ps) (spellings d))

/-- The test on directories does not fail. -/
lemma excludesDir_of_texts (h : f.exclude = .list (ps.map .text)) (d : Path) :
    f.excludesDir d = .ok (!keeps ps d) := by
  unfold excludesDir keeps
  rw [patterns_of_texts h, Bool.not_not]
  split
  case isTrue hskip => rw [hskip, Bool.true_or]
  case isFalse hskip =>
    rw [Bool.not_eq_true] at hskip
    rw [hskip, Bool.false_or, ← anyMatch_texts]
    rfl

end Filter

/-! ### The scan -/

namespace Scanner

/-- A file below `top` that a scan for the languages `ls` has to find. -/
def Admitted (filter : Filter) (s : Store) (ls : List Language) (top p : Path) : Prop :=
  (∀ d ∈ top.between (top.stepsTo p), filter.excludesDir d = .ok false) ∧
    filter.excludesFile s p = .ok false ∧ ∃ l ∈ ls, s.language? p = some l

instance (filter : Filter) (s : Store) (ls : List Language) (top : Path) :
    DecidablePred (Admitted filter s ls top) :=
  fun _ => inferInstanceAs (Decidable (_ ∧ _ ∧ _))

variable {sc : Scanner} {s : Store} {top : Path} {ls : List Language} {ps : List String}

/-- The paths that a scan finds among the given ones. -/
lemma paths_of_scanFiles (filter : Filter) (s : Store) (ls : List Language) (c : ScanCounts)
    (paths : List Path) :
    (scanFiles filter s (oneOf ls) 0 0 c paths).1.map FoundFile.path =
      paths.filter fun p =>
        filter.excludesFile s p = .ok false ∧ ∃ l ∈ ls, s.language? p = some l := by
  rw [(scanFiles_unlimited ..).1, List.map_filterMap, ← List.filterMap_eq_filter]
  refine List.filterMap_congr fun p _ => Option.ext fun q => ?_
  rw [judge_path_iff, Option.guard_eq_some_iff, decide_eq_true_eq]
  simp [oneOf, eq_comm, and_comm]

/-- A scan never fails: it judges the files of the walk that enters what the patterns keep. -/
lemma scan_eq_scanFiles (s : Store) (top : Path) (ls : List Language) (limit : Int)
    (hps : sc.filter.exclude = .list (ps.map .text)) :
    sc.scan s top (oneOf ls) limit =
      let (found, counts, _) := scanFiles sc.filter s (oneOf ls) limit 0 sc.counts
        ((s.listing top).filter (Store.reached (Filter.keeps ps) top))
      (.ok found, { sc with counts }) := by
  by_cases htop : s.isDir top
  · have htest : (fun d => (sc.filter.excludesDir d).map (!·)) =
        fun d => .ok (Filter.keeps ps d) := by
      funext d
      rw [Filter.excludesDir_of_texts hps]
      simp [Except.map]
    obtain ⟨hfault, hfiles⟩ := s.walk_pruned (Filter.keeps ps) htop
    rw [← hfiles]
    unfold scan
    simp only [htop, htest, hfault]
    rfl
  · rw [Bool.not_eq_true] at htop
    rw [s.listing_of_not_isDir htop]
    unfold scan
    simp [htop, scanFiles]

/-- Below the directories that are entered, a file is judged on its own. -/
lemma filter_admitted (hps : sc.filter.exclude = .list (ps.map .text)) (paths : List Path) :
    paths.filter (Admitted sc.filter s ls top) =
      (paths.filter (Store.reached (Filter.keeps ps) top)).filter fun p =>
        sc.filter.excludesFile s p = .ok false ∧ ∃ l ∈ ls, s.language? p = some l := by
  rw [List.filter_filter]
  refine List.filter_congr fun p _ => ?_
  rw [Bool.eq_iff_iff]
  simp only [Admitted, Store.reached, Filter.excludesDir_of_texts hps, decide_eq_true_eq,
    Bool.and_eq_true, List.all_eq_true, Except.ok.injEq, Bool.not_eq_false']
  exact and_comm

/-- **A scan finds what the plain listing holds.** The walk without pruning visits the plain
listing. A scan without a limit ends without a fault and finds, in the order of the listing, the
files that are below no excluded directory, are not excluded and have one of the languages; in a
store where names are distinct it finds each of them once. -/
theorem scan_eq_filtered_listing (s : Store) (top : Path) (ls : List Language)
    (hps : sc.filter.exclude = .list (ps.map .text)) :
    (s.walk (fun _ => .ok true) top).files = s.listing top ∧
    ∃ found, (sc.scan s top (oneOf ls)).1 = .ok found ∧
      found.map FoundFile.path = (s.listing top).filter (Admitted sc.filter s ls top) ∧
      (∀ f ∈ found, s.language? f.path = some f.language) ∧
      (s.root.Distinct → (found.map FoundFile.path).Nodup) := by
  have hscan := congrArg Prod.fst (scan_eq_scanFiles s top ls 0 hps)
  have hpaths := paths_of_scanFiles sc.filter s ls sc.counts
    ((s.listing top).filter (Store.reached (Filter.keeps ps) top))
  rw [← filter_admitted hps] at hpaths
  refine ⟨s.files_walk_all top, _, hscan, hpaths, fun f hf => (scan_fits hscan f hf).language,
    fun hs => ?_⟩
  rw [hpaths]
  exact (s.listing_nodup hs top).filter _

/-- A directory is left out by its name, another by a pattern, and a file two levels below the top
is found. -/
theorem scan_eq_filtered_listing_pruned :
    let s : Store := { root := .dir [("build", .dir [("a.py", .file ⟨[], 0⟩)]),
      ("old", .dir [("b.py", .file ⟨[], 0⟩)]),
      ("src", .dir [("pkg", .dir [("c.py", .file ⟨[], 0⟩)])])] }
    let sc : Scanner := { filter := { exclude := .list [.text "o*"] } }
    sc.filter.exclude = .list (["o*"].map .text) ∧ s.root.Distinct ∧
      s.listing {} =
        [⟨"", ["build", "a.py"]⟩, ⟨"", ["old", "b.py"]⟩, ⟨"", ["src", "pkg", "c.py"]⟩] ∧
      ∃ found, (sc.scan s {} (oneOf [.python])).1 = .ok found ∧
        found.map FoundFile.path = [⟨"", ["src", "pkg", "c.py"]⟩] ∧
        (found.map FoundFile.path).Nodup := by
  intro s sc
  have hps : sc.filter.exclude = .list (["o*"].map .text) := rfl
  have hs : s.root.Distinct := by
    refine .dir (by decide) ?_
    simp only [List.forall_mem_cons, List.not_mem_nil, false_implies, implies_true, and_true]
    refine ⟨.dir (by simp) ?_, .dir (by simp) ?_, .dir (by simp) ?_⟩
    · simpa using .file _
    · simpa using .file _
    · simpa using .dir (by simp) (by simpa using .file _)
  have hlisting : s.listing {} =
      [⟨"", ["build", "a.py"]⟩, ⟨"", ["old", "b.py"]⟩, ⟨"", ["src", "pkg", "c.py"]⟩] := by
    cbv
  have hbuild : ¬ Admitted sc.filter s [.python] {} ⟨"", ["build", "a.py"]⟩ := by
    rintro ⟨hdirs, -⟩
    exact absurd (hdirs ⟨"", ["build"]⟩ (by decide)) (by decide +kernel)
  have hold : ¬ Admitted sc.filter s [.python] {} ⟨"", ["old", "b.py"]⟩ := by
    rintro ⟨hdirs, -⟩
    exact absurd (hdirs ⟨"", ["old"]⟩ (by decide)) (by decide +kernel)
  have hsrc : Admitted sc.filter s [.python] {} ⟨"", ["src", "pkg", "c.py"]⟩ := by
    have hstat : s.stat ⟨"", ["src", "pkg", "c.py"]⟩ = .ok (.file ⟨[], 0⟩) := by cbv
    refine ⟨by decide +kernel, ?_, .python, by simp, by decide +kernel⟩
    rw [Filter.excludesFile, hstat]
    decide +kernel
  obtain ⟨-, found, hscan, hpaths, -, hnodup⟩ :=
    scan_eq_filtered_listing s {} [.python] hps
  refine ⟨hps, hs, hlisting, found, hscan, ?_, hnodup hs⟩
  rw [hpaths, hlisting]
  simp [hbuild, hold, hsrc]

end Scanner

end SpecScribe.Workspace
