import Mathlib
import SpecScribe.Proofs.Workspace.Copies
import SpecScribe.Proofs.Workspace.Standard

/-!
Scans of the same content at two places. The names below the directory that is scanned decide alike
at both places, but patterns are also compared with the way to that directory: a scan of a directory
on whose way there is a match finds nothing. Two scans for which this is not so find the same files.
-/

namespace SpecScribe.Workspace

/-! ### What is seen below a directory -/

namespace Path

variable {r : Path} {q : List String}

/-- A directory below which every file matches a standard pattern: one of its steps matches by
itself, or it is relative and begins with a directory that is excluded with everything in it. -/
def Shut (r : Path) : Prop :=
  (∃ n ∈ r.steps, Filter.hits standardPatterns [n] = true) ∨
    r.root = "" ∧ ∃ n ∈ r.steps.take 1, n ++ "/*" ∈ standardPatterns

instance : DecidablePred Shut := fun _ => inferInstanceAs (Decidable (_ ∨ _))

/-- Names that no scan leaves out. -/
def Clean (q : List String) : Prop :=
  (∀ n ∈ q.dropLast, n ∉ skippedDirs) ∧ ∀ n ∈ q, Filter.hits standardPatterns [n] = false

lemma map_name_between (r : Path) (q : List String) : (r.between q).map name = q.dropLast := by
  induction q generalizing r with
  | nil => rfl
  | cons n q ih =>
    cases q with
    | nil => rfl
    | cons m rest =>
      rw [between, List.map_cons, ih (r.child n), List.dropLast_cons_cons]
      simp [name, child]

lemma reached_unskipped_iff :
    Store.reached Filter.unskipped r (r.along q) = true ↔ ∀ n ∈ q.dropLast, n ∉ skippedDirs := by
  rw [Store.reached, stepsTo_along, List.all_eq_true, ← map_name_between r q, List.forall_mem_map]
  simp [Filter.unskipped]

/-- A directory that is excluded with everything in it is not entered either. -/
lemma skipped_of_below {n : String} (h : n ++ "/*" ∈ standardPatterns) : n ∈ skippedDirs := by
  have hall : ∀ pattern ∈ standardPatterns,
      pattern.toList.dropLast.dropLast ++ ['/', '*'] = pattern.toList →
        String.ofList pattern.toList.dropLast.dropLast ∈ skippedDirs := by
    decide +kernel
  have htext : (n ++ "/*").toList = n.toList ++ ['/', '*'] := String.toList_append
  have hdrop : (n.toList ++ ['/', '*']).dropLast.dropLast = n.toList := by simp
  have hn := hall _ h
  rw [htext, hdrop] at hn
  simpa using hn rfl

/-- A path is swept because of where it begins, be this above the directory or below it. -/
lemma swept_along (h : (r.along q).Swept) :
    r.Shut ∨ ∃ n ∈ q.dropLast, n ∈ skippedDirs := by
  obtain ⟨hroot, n, m, rest, hsteps, hpattern⟩ := h
  rcases hr : r.steps with _ | ⟨x, steps⟩
  · rw [along, hr, List.nil_append] at hsteps
    have hn : n ∈ q.dropLast := by
      rw [show q = n :: m :: rest from hsteps, List.dropLast_cons_cons]
      exact List.mem_cons_self ..
    exact .inr ⟨n, hn, skipped_of_below hpattern⟩
  · rw [along, hr, List.cons_append, List.cons.injEq] at hsteps
    refine .inl (.inr ⟨hroot, x, by simp [hr], ?_⟩)
    rwa [hsteps.1]

lemma swept_of_shut (hq : q ≠ []) (hroot : r.root = "")
    (h : ∃ n ∈ r.steps.take 1, n ++ "/*" ∈ standardPatterns) : (r.along q).Swept := by
  obtain ⟨n, hn, hpattern⟩ := h
  obtain ⟨m, rest, rfl⟩ := List.exists_cons_of_ne_nil hq
  rcases hr : r.steps with _ | ⟨x, steps⟩
  · simp [hr] at hn
  · obtain rfl : n = x := by simpa [hr] using hn
    rcases steps with _ | ⟨y, steps⟩
    · exact ⟨hroot, n, m, rest, by simp [along, hr], hpattern⟩
    · exact ⟨hroot, n, y, steps ++ m :: rest, by simp [along, hr], hpattern⟩

end Path

namespace Filter

variable {f : Filter} {s s₁ s₂ : Store} {r r₁ r₂ : Path} {q : List String} {qs : List (List String)}

lemma hits_traces_along (hp : (r.along q).Normal) (hq : q ≠ [])
    (hskip : ∀ n ∈ q.dropLast, n ∉ skippedDirs) :
    hits standardPatterns (traces (r.along q)) = true ↔
      r.Shut ∨ ∃ n ∈ q, hits standardPatterns [n] = true := by
  rw [hits_traces_iff hp]
  constructor
  · rintro (⟨n, hn, hhit⟩ | hswept)
    · rcases List.mem_append.mp hn with hn | hn
      · exact .inl (.inl ⟨n, hn, hhit⟩)
      · exact .inr ⟨n, hn, hhit⟩
    · -- below the current directory itself, what would be swept is not entered
      rcases Path.swept_along hswept with hshut | ⟨n, hn, hmem⟩
      · exact .inl hshut
      · exact absurd hmem (hskip n hn)
  · rintro ((⟨n, hn, hhit⟩ | ⟨hroot, hfirst⟩) | ⟨n, hn, hhit⟩)
    · exact .inl ⟨n, List.mem_append_left _ hn, hhit⟩
    · exact .inr (Path.swept_of_shut hq hroot hfirst)
    · exact .inl ⟨n, List.mem_append_right _ hn, hhit⟩

/-- Whether a scan gets to a file below the directory and the file passes. -/
def Sees (f : Filter) (s : Store) (r : Path) (q : List String) : Prop :=
  Store.reached unskipped r (r.along q) = true ∧ f.excludesFile s (r.along q) = .ok false

instance : DecidablePred (Sees f s r) := fun _ => inferInstanceAs (Decidable (_ ∧ _))

/-- If no patterns are given, it depends on whether the directory is shut, on the names below it and
on what they lead to. -/
lemma sees_iff (hps : f.exclude = .list (([] : List String).map .text)) (hr : r.Normal)
    (hq : q ≠ [] ∧ ∀ n ∈ q, IsName n) :
    f.Sees s r q ↔
      ¬ r.Shut ∧ Path.Clean q ∧ ∃ e, s.stat (r.along q) = .ok e ∧ f.tooLarge e = false := by
  obtain ⟨hne, hnames⟩ := hq
  have hp : (r.along q).Normal :=
    ⟨hr.root, List.forall_mem_append.mpr ⟨hr.steps, fun n hn => (hnames n hn).step⟩⟩
  rw [Sees, Path.reached_unskipped_iff, passes_iff hps, List.append_nil, Path.Clean]
  constructor
  · rintro ⟨hskip, hsmall, hnone⟩
    rw [← Bool.not_eq_true, hits_traces_along hp hne hskip, not_or] at hnone
    exact ⟨hnone.1, ⟨hskip, by simpa using hnone.2⟩, hsmall⟩
  · rintro ⟨hshut, ⟨hskip, hnone⟩, hsmall⟩
    refine ⟨hskip, hsmall, ?_⟩
    rw [← Bool.not_eq_true, hits_traces_along hp hne hskip, not_or]
    exact ⟨hshut, by simpa using hnone⟩

lemma filter_sees_of_shut (hps : f.exclude = .list (([] : List String).map .text)) (hr : r.Normal)
    (hqs : ∀ q ∈ qs, q ≠ [] ∧ ∀ n ∈ q, IsName n) (hshut : r.Shut) :
    qs.filter (f.Sees s r ·) = [] := by
  refine List.filter_eq_nil_iff.mpr fun q hq => ?_
  rw [decide_eq_true_eq, sees_iff hps hr (hqs q hq)]
  exact fun hsees => hsees.1 hshut

/-- Both stores have at the place something that is not too large, or neither has. -/
lemma exists_small_iff (f : Filter) {found₁ found₂ : Except FileFault Entry}
    (h : Store.Agree found₁ found₂) :
    (∃ e, found₁ = .ok e ∧ f.tooLarge e = false) ↔ ∃ e, found₂ = .ok e ∧ f.tooLarge e = false := by
  cases h with
  | ok alike => simp [tooLarge, alike.sizeOf]
  | error _ _ => simp

/-- Of the same content, the same is seen at all places that are not shut. -/
lemma filter_sees_eq (hps : f.exclude = .list (([] : List String).map .text)) (hr₁ : r₁.Normal)
    (hr₂ : r₂.Normal) (h : SameContent s₁ r₁ s₂ r₂)
    (hqs : ∀ q ∈ qs, q ≠ [] ∧ ∀ n ∈ q, IsName n) (hopen₁ : ¬ r₁.Shut) (hopen₂ : ¬ r₂.Shut) :
    qs.filter (f.Sees s₁ r₁ ·) = qs.filter (f.Sees s₂ r₂ ·) := by
  refine List.filter_congr fun q hq => decide_eq_decide.mpr ?_
  rw [sees_iff hps hr₁ (hqs q hq), sees_iff hps hr₂ (hqs q hq), and_iff_right hopen₁,
    and_iff_right hopen₂, f.exists_small_iff (h q (hqs q hq).2)]

end Filter

/-! ### Scans of the same content -/

/-- What a file is, seen from the directory that was scanned. -/
def FoundFile.seenFrom (r : Path) (f : FoundFile) : List String × Language × ℕ :=
  (r.stepsTo f.path, f.language, f.size)

namespace Scanner

variable {sc : Scanner} {s s₁ s₂ : Store} {r r₁ r₂ : Path} {q : List String}
  {qs : List (List String)}

/-- Up to order, a scan finds what is seen of the files that are listed. -/
lemma scan_along {ps : List String} (hps : sc.filter.exclude = .list (ps.map .text))
    (ls : List Language) (hlisting : (s.listing r).Perm (qs.map r.along)) :
    ∃ found, (sc.scan s r (oneOf ls)).1 = .ok found ∧
      found.Perm ((qs.filter (sc.filter.Sees s r ·)).filterMap fun q =>
        s.found? ls (r.along q)) := by
  refine ⟨_, scan_unskipped s r ls hps, ?_⟩
  have hsees : qs.filter (sc.filter.Sees s r ·) = qs.filter fun q =>
      decide (sc.filter.excludesFile s (r.along q) = .ok false) &&
        Store.reached Filter.unskipped r (r.along q) := by
    refine List.filter_congr fun q _ => ?_
    rw [Bool.eq_iff_iff, decide_eq_true_eq, Bool.and_eq_true, decide_eq_true_eq, and_comm]
    rfl
  have hfinds : (qs.filter (sc.filter.Sees s r ·)).filterMap (fun q => s.found? ls (r.along q)) =
      sc.filter.finds s ls ((qs.map r.along).filter (Store.reached Filter.unskipped r)) := by
    rw [hsees, Filter.finds, List.filter_filter, List.filter_map, List.filterMap_map]
    simp only [Function.comp_def]
  rw [hfinds]
  exact ((hlisting.filter _).filter _).filterMap _

lemma toOption_read {p₁ p₂ : Path} (h : Store.Agree (s₁.stat p₁) (s₂.stat p₂)) :
    (s₁.read p₁).toOption = (s₂.read p₂).toOption := by
  unfold Store.read
  generalize s₁.stat p₁ = found₁, s₂.stat p₂ = found₂ at h
  cases h with
  | error _ _ => rfl
  | ok alike =>
    induction alike with
    | perm _ _ ih => exact ih
    | _ => rfl

lemma language?_eq {p₁ p₂ : Path} (hname : p₁.name = p₂.name)
    (hread : (s₁.read p₁).toOption = (s₂.read p₂).toOption) :
    s₁.language? p₁ = s₂.language? p₂ := by
  unfold Store.language? Path.suffix
  rw [hname]
  rcases h₁ : s₁.read p₁ with _ | _ <;> rcases h₂ : s₂.read p₂ with _ | _ <;>
    simp_all [Except.toOption]

lemma fileSize?_eq {p₁ p₂ : Path} (hread : (s₁.read p₁).toOption = (s₂.read p₂).toOption) :
    s₁.fileSize? p₁ = s₂.fileSize? p₂ := by
  unfold Store.fileSize?
  rcases h₁ : s₁.read p₁ with _ | _ <;> rcases h₂ : s₂.read p₂ with _ | _ <;>
    simp_all [Except.toOption]

/-- At both places the names below have the same language and size. -/
lemma seenFrom_found? (ls : List Language) (hq : q ≠ [])
    (hstat : Store.Agree (s₁.stat (r₁.along q)) (s₂.stat (r₂.along q))) :
    (s₁.found? ls (r₁.along q)).map (FoundFile.seenFrom r₁) =
      (s₂.found? ls (r₂.along q)).map (FoundFile.seenFrom r₂) := by
  have hread := toOption_read hstat
  have hname : (r₁.along q).name = (r₂.along q).name := by
    simp [Path.name, Path.along, List.getLast?_append_of_ne_nil _ hq]
  rw [Store.found?, Store.found?, language?_eq hname hread, fileSize?_eq hread, Option.map_bind,
    Option.map_bind]
  refine congrArg (Option.bind _) (funext fun l => ?_)
  simp only [Function.comp_apply, apply_ite (Option.map _), Option.map_some, Option.map_none,
    FoundFile.seenFrom, Path.stepsTo_along]

/-- **Where the scanned directory is.** If no patterns are given, a scan of a directory on whose way
a standard pattern matches finds nothing. Scans of the same content at places for which this is
not so find the same files below it, each as often, with the same languages and sizes. -/
theorem scan_relocated (sc : Scanner) (ls : List Language) (hs : s₁.root.Named) (hr₁ : r₁.Normal)
    (hr₂ : r₂.Normal) (h : SameContent s₁ r₁ s₂ r₂) :
    ∃ found₁ found₂, ((sc.excluding []).scan s₁ r₁ (oneOf ls)).1 = .ok found₁ ∧
      ((sc.excluding []).scan s₂ r₂ (oneOf ls)).1 = .ok found₂ ∧
      (r₁.Shut → found₁ = []) ∧ (r₂.Shut → found₂ = []) ∧
      (¬ r₁.Shut → ¬ r₂.Shut →
        (found₁.map (FoundFile.seenFrom r₁)).Perm (found₂.map (FoundFile.seenFrom r₂))) := by
  obtain ⟨qs, hqs, h₁, h₂⟩ := h.listing hs
  have hnone := exclude_excluding sc []
  obtain ⟨found₁, hscan₁, hfound₁⟩ := scan_along hnone ls h₁
  obtain ⟨found₂, hscan₂, hfound₂⟩ := scan_along hnone ls h₂
  refine ⟨found₁, found₂, hscan₁, hscan₂, fun hshut => ?_, fun hshut => ?_,
    fun hopen₁ hopen₂ => ?_⟩
  · rw [Filter.filter_sees_of_shut hnone hr₁ hqs hshut] at hfound₁
    exact hfound₁.eq_nil
  · rw [Filter.filter_sees_of_shut hnone hr₂ hqs hshut] at hfound₂
    exact hfound₂.eq_nil
  · rw [Filter.filter_sees_eq hnone hr₁ hr₂ h hqs hopen₁ hopen₂] at hfound₁
    have hseen : ((qs.filter ((sc.excluding []).filter.Sees s₂ r₂ ·)).filterMap fun q =>
          s₁.found? ls (r₁.along q)).map (FoundFile.seenFrom r₁) =
        ((qs.filter ((sc.excluding []).filter.Sees s₂ r₂ ·)).filterMap fun q =>
          s₂.found? ls (r₂.along q)).map (FoundFile.seenFrom r₂) := by
      rw [List.map_filterMap, List.map_filterMap]
      refine List.filterMap_congr fun q hq => ?_
      obtain ⟨hne, hnames⟩ := hqs q (List.mem_of_mem_filter hq)
      exact seenFrom_found? ls hne (h q hnames)
    exact (hfound₁.map _).trans (hseen ▸ (hfound₂.map _).symm)

/-- What is found in the current directory is found in a copy of it that lists its names in another
order, given by the path from the root: the way from the current directory would be shut. -/
theorem scan_relocated_absolute :
    let lib : Entry := .dir [("b.py", .file ⟨[], 0⟩)]
    let e : Entry := .dir [("a.py", .file ⟨[], 0⟩), ("lib", lib)]
    let copy : Entry := .dir [("lib", lib), ("a.py", .file ⟨[], 0⟩)]
    let s₁ : Store := { root := e }
    let s₂ : Store := { root := .dir [("x", .dir [("build", copy)])], cwd := ["x"] }
    let r : Path := ⟨"/", ["x", "build"]⟩
    s₁.root.Named ∧ Path.Normal {} ∧ r.Normal ∧ SameContent s₁ {} s₂ r ∧
      ¬ Path.Shut {} ∧ ¬ r.Shut ∧ Path.Shut ⟨"", ["build"]⟩ ∧
      ∃ found₁ found₂, ((excluding {} []).scan s₁ {} (oneOf [.python])).1 = .ok found₁ ∧
        ((excluding {} []).scan s₂ r (oneOf [.python])).1 = .ok found₂ ∧
        (found₁.map (FoundFile.seenFrom {})).Perm (found₂.map (FoundFile.seenFrom r)) ∧
        found₁.map FoundFile.path = [⟨"", ["a.py"]⟩, ⟨"", ["lib", "b.py"]⟩] := by
  intro lib e copy s₁ s₂ r
  have hs : s₁.root.Named := by
    simp only [s₁, e, lib, Entry.named_dir, Entry.named_file, List.forall_mem_cons,
      List.not_mem_nil, false_implies, implies_true, and_true]
    decide
  have hr₁ : Path.Normal {} := ⟨.none, by simp⟩
  have hr₂ : r.Normal := ⟨.one, by decide⟩
  have he : s₁.root.Plain := by simp [s₁, e, lib]
  have hcopy : copy.Plain := by simp [copy, lib]
  have hstat : s₂.stat r = .ok copy :=
    Store.stat_along (p := ⟨"/", []⟩) (Store.stat_start rfl rfl)
      (show s₂.root.Plain by simp [s₂, hcopy]) (by decide)
  have hdistinct : copy.Distinct := by
    refine .dir (by decide) ?_
    simp only [List.forall_mem_cons, List.not_mem_nil, false_implies, implies_true, and_true]
    exact ⟨.dir (by decide) (by simp [Entry.Distinct.file]), .file _⟩
  have hcontent : SameContent s₁ {} s₂ r :=
    .of_plain (Store.stat_self rfl) hstat he hcopy (.perm (.refl e) (.swap ..)) hdistinct
  have hopen₁ : ¬ Path.Shut {} := by decide +kernel
  have hopen₂ : ¬ r.Shut := by decide +kernel
  obtain ⟨found₁, found₂, h₁, h₂, -, -, hsame⟩ := scan_relocated {} [.python] hs hr₁ hr₂ hcontent
  refine ⟨hs, hr₁, hr₂, hcontent, hopen₁, hopen₂, by decide +kernel, found₁, found₂, h₁, h₂,
    hsame hopen₁ hopen₂, ?_⟩
  have hreached : (s₁.listing {}).filter (Store.reached Filter.unskipped {}) =
      [["a.py"], ["lib", "b.py"]].map (Path.along {}) := by cbv
  rw [scan_of_plain {} [] [.python] (Store.stat_self rfl) he hreached (by decide +kernel),
    Except.ok.injEq] at h₁
  rw [← h₁]
  decide +kernel

/-- Of a directory and its copy, one is shut; and the way to it can be written so that it is not. -/
theorem scans_of_copies_differ :
    let e : Entry := .dir [("a.py", .file ⟨[], 0⟩)]
    let s : Store := { root := .dir [("build", e), ("src", e)] }
    let paths := fun r => (((excluding {} []).scan s r (oneOf [.python])).1).map
      (List.map FoundFile.path)
    SameContent s ⟨"", ["src"]⟩ s ⟨"", ["build"]⟩ ∧
      paths ⟨"", ["src"]⟩ = .ok [⟨"", ["src", "a.py"]⟩] ∧
      paths ⟨"", ["build"]⟩ = .ok [] ∧
      paths ⟨"", ["src", "..", "build"]⟩ = .ok [⟨"", ["src", "..", "build", "a.py"]⟩] := by
  intro e s paths
  have he : e.Plain := by simp [e]
  have hs : s.root.Plain := by simp [s, he]
  have hsrc : s.stat ⟨"", ["src"]⟩ = .ok e :=
    Store.stat_along (Store.stat_self rfl) hs (by decide)
  have hbuild : s.stat ⟨"", ["build"]⟩ = .ok e :=
    Store.stat_along (Store.stat_self rfl) hs (by decide)
  have haround : s.stat ⟨"", ["src", "..", "build"]⟩ = .ok e := by
    have hresolve : s.resolve ⟨"", ["src", "..", "build"]⟩ = .ok ["build"] := by
      rw [Store.resolve, Store.resolveBy, if_neg (by decide)]
      simp [Store.follow, Store.start, Entry.at?, Entry.entries, List.lookup, s, e]
    exact Store.stat_of_resolve hresolve rfl
  have hpaths : ∀ r, s.stat r = .ok e → paths r =
      .ok ((([["a.py"]].map r.along).filter fun p =>
        !Filter.hits (standardPatterns ++ []) (Filter.traces p)).filterMap
          (s.found? [.python]) |>.map FoundFile.path) := by
    intro r hr
    have hlisting : s.listing r = [r.child "a.py"] := by
      rw [Store.listing, hr]
      rfl
    have hreached : (s.listing r).filter (Store.reached Filter.unskipped r) =
        [["a.py"]].map r.along := by
      rw [hlisting, List.filter_eq_self.mpr (by simp [Store.reached_child])]
      rfl
    simp only [paths]
    rw [scan_of_plain {} [] [.python] hr he hreached (by decide +kernel)]
    rfl
  have hdistinct : e.Distinct := .dir (by decide) (by simp [Entry.Distinct.file])
  refine ⟨.of_plain hsrc hbuild he he (.refl e) hdistinct, ?_, ?_, ?_⟩
  · rw [hpaths _ hsrc]
    decide +kernel
  · rw [hpaths _ hbuild]
    decide +kernel
  · rw [hpaths _ haround]
    decide +kernel

end Scanner

end SpecScribe.Workspace
