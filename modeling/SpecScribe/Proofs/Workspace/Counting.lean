import Mathlib
import SpecScribe.Proofs.Workspace.Filtering

/-!
Scans with a limit and the counters that go on from scan to scan. A scan visits files one after the
other until it is full, and each visited file is excluded, of no wanted language, or found. What a
limited scan finds is the beginning of what it would find without the limit.
-/

namespace SpecScribe.Workspace

open scoped List

lemma Filter.finds_append (filter : Filter) (s : Store) (ls : List Language) (a b : List Path) :
    filter.finds s ls (a ++ b) = filter.finds s ls a ++ filter.finds s ls b := by
  simp [finds]

namespace Scanner

variable {filter : Filter} {s : Store} {ls : List Language} {paths visited : List Path} {p : Path}

/-! ### Which files are visited -/

/-- Whether a scan with a limit ends once so many files are found. A limit of zero is none, and
whatever the limit, a scan ends only when it has found a file. -/
def Full (limit : ℤ) (n : ℕ) : Prop := limit ≠ 0 ∧ 0 < n ∧ limit ≤ n

/-- The files of a list that a scan visits if it goes on until it has found so many files that it
is full. -/
structure Visits (filter : Filter) (s : Store) (ls : List Language) (full : ℕ → Prop)
    (paths visited : List Path) : Prop where
  initial : visited <+: paths
  unfilled : ∀ earlier, earlier <+: visited → earlier ≠ visited →
    ¬ full (filter.finds s ls earlier).length
  ended : visited = paths ∨ full (filter.finds s ls visited).length

/-- What comes out of a scan that starts from the given counters: what is found among the visited
files, and the counters after each of them is counted. -/
structure Outcome (filter : Filter) (s : Store) (ls : List Language) (full : ℕ → Prop)
    (c : ScanCounts) (paths visited : List Path) (out : List FoundFile × ScanCounts × Bool) : Prop
    extends Visits filter s ls full paths visited where
  found : out.1 = filter.finds s ls visited
  counts : out.2.1 = visited.foldl (fun c p => (judge filter s (oneOf ls) p).count c) c

variable {full : ℕ → Prop} {c : ScanCounts} {v : Verdict}
  {out : List FoundFile × ScanCounts × Bool}

lemma finds_cons (hv : judge filter s (oneOf ls) p = v) (paths : List Path) :
    filter.finds s ls (p :: paths) = v.file?.toList ++ filter.finds s ls paths := by
  rw [finds_eq_filterMap, finds_eq_filterMap, List.filterMap_cons, hv]
  cases v.file? <;> rfl

lemma Outcome.nil (c : ScanCounts) : Outcome filter s ls full c [] [] ([], c, false) where
  initial := List.prefix_rfl
  unfilled _ h hne := absurd (List.prefix_nil.mp h) hne
  ended := .inl rfl
  found := rfl
  counts := rfl

/-- A file that is found fills the scan. -/
lemma Outcome.single {f : FoundFile} (hv : judge filter s (oneOf ls) p = .found f) (h₀ : ¬ full 0)
    (h₁ : full 1) (stopped : Bool) :
    Outcome filter s ls full c (p :: paths) [p] ([f], (Verdict.found f).count c, stopped) where
  initial := ⟨paths, rfl⟩
  unfilled earlier hearlier hne := by
    rcases List.prefix_cons_iff.mp hearlier with rfl | ⟨t, rfl, ht⟩
    · exact h₀
    · rw [List.prefix_nil.mp ht] at hne
      exact absurd rfl hne
  ended := by
    rw [finds_cons hv]
    exact .inr h₁
  found := by
    rw [finds_cons hv]
    rfl
  counts := by
    rw [List.foldl_cons, hv]
    rfl

/-- The scan goes on after a file. -/
lemma Outcome.cons (hv : judge filter s (oneOf ls) p = v) (h₀ : ¬ full 0)
    (h : Outcome filter s ls (fun n => full (v.file?.toList.length + n)) (v.count c) paths visited
      out) :
    Outcome filter s ls full c (p :: paths) (p :: visited) (v.file?.toList ++ out.1, out.2) where
  initial := List.cons_prefix_cons.mpr ⟨rfl, h.initial⟩
  unfilled earlier hearlier hne := by
    cases earlier with
    | nil => exact h₀
    | cons p' earlier =>
      obtain ⟨rfl, hrest⟩ := List.cons_prefix_cons.mp hearlier
      rw [finds_cons hv, List.length_append]
      exact h.unfilled earlier hrest fun heq => hne (by rw [heq])
  ended := by
    rw [finds_cons hv, List.length_append]
    exact h.ended.imp_left fun heq => by rw [heq]
  found := by rw [finds_cons hv, h.found]
  counts := by rw [List.foldl_cons, hv, h.counts]

lemma full_succ {limit : ℤ} {n : ℕ} :
    Full limit (n + 1) ↔ (limit != 0 && decide (limit ≤ n + 1)) = true := by
  simp [Full]

/-- A scan that is not full visits files in order until it is. -/
lemma scanFiles_outcome (filter : Filter) (s : Store) (ls : List Language) (limit : ℤ) (n : ℕ)
    (c : ScanCounts) (paths : List Path) (hn : ¬ Full limit n) :
    ∃ visited, Outcome filter s ls (fun k => Full limit (n + k)) c paths visited
      (scanFiles filter s (oneOf ls) limit n c paths) := by
  induction paths generalizing n c with
  | nil => exact ⟨[], .nil c⟩
  | cons p paths ih =>
    rw [scanFiles]
    cases hv : judge filter s (oneOf ls) p with
    | found f =>
      dsimp only
      split
      case isTrue hfull =>
        refine ⟨[p], .single hv hn ?_ true⟩
        exact full_succ.mpr hfull
      case isFalse hfull =>
        obtain ⟨visited, h⟩ := ih (n + 1) ((Verdict.found f).count c) (mt full_succ.mp hfull)
        exact ⟨p :: visited, .cons hv hn (by simpa [Verdict.file?, Nat.add_assoc] using h)⟩
    | excluded =>
      obtain ⟨visited, h⟩ := ih n (Verdict.excluded.count c) hn
      exact ⟨p :: visited, .cons hv hn (by simpa [Verdict.file?] using h)⟩
    | failed =>
      obtain ⟨visited, h⟩ := ih n (Verdict.failed.count c) hn
      exact ⟨p :: visited, .cons hv hn (by simpa [Verdict.file?] using h)⟩
    | foreign =>
      obtain ⟨visited, h⟩ := ih n (Verdict.foreign.count c) hn
      exact ⟨p :: visited, .cons hv hn (by simpa [Verdict.file?] using h)⟩

lemma scanFiles_visits (filter : Filter) (s : Store) (ls : List Language) (limit : ℤ)
    (c : ScanCounts) (paths : List Path) :
    ∃ visited, Outcome filter s ls (Full limit) c paths visited
      (scanFiles filter s (oneOf ls) limit 0 c paths) := by
  simpa using scanFiles_outcome filter s ls limit 0 c paths (by simp [Full])

/-- A limited scan finds the first files that it would find without the limit. -/
lemma Visits.finds_eq_take {k : ℕ} (hk : 0 < k)
    (h : Visits filter s ls (Full k) paths visited) :
    filter.finds s ls visited = (filter.finds s ls paths).take k := by
  have hfull : ∀ n, Full k n ↔ k ≤ n := by
    intro n
    simp only [Full, Nat.cast_le]
    omega
  have hle : (filter.finds s ls visited).length ≤ k := by
    rcases List.eq_nil_or_concat visited with rfl | ⟨earlier, p, rfl⟩
    · exact Nat.zero_le k
    · -- before the last file the scan is not full, and one file more is found at most
      rw [List.concat_eq_append] at h ⊢
      have hearlier := h.unfilled earlier (List.prefix_append ..) (by simp)
      have hlast : (filter.finds s ls [p]).length ≤ 1 := by
        rw [finds_cons rfl]
        cases (judge filter s (oneOf ls) p).file? <;> simp [Filter.finds]
      rw [hfull] at hearlier
      rw [Filter.finds_append, List.length_append]
      omega
  rcases h.ended with heq | hvisited
  · rw [← heq, List.take_of_length_le hle]
  · obtain ⟨rest, hrest⟩ := h.initial
    rw [← hrest, Filter.finds_append, List.take_append_of_le_length ((hfull _).mp hvisited),
      List.take_of_length_le hle]

/-! ### What is counted -/

/-- A file that passes but has none of the wanted languages. -/
def Foreign (filter : Filter) (s : Store) (ls : List Language) (p : Path) : Prop :=
  filter.excludesFile s p = .ok false ∧ ∀ l ∈ ls, s.language? p ≠ some l

instance : DecidablePred (Foreign filter s ls) := fun _ => inferInstanceAs (Decidable (_ ∧ _))

/-- A file that can be tested is excluded, foreign or found, and only one of them. -/
lemma judge_cases {b : Bool} (h : filter.excludesFile s p = .ok b) (ls : List Language) :
    (filter.excludesFile s p = .ok true ∧ ¬ Foreign filter s ls p ∧
      judge filter s (oneOf ls) p = .excluded) ∨
    (filter.excludesFile s p ≠ .ok true ∧ Foreign filter s ls p ∧
      judge filter s (oneOf ls) p = .foreign) ∨
    (filter.excludesFile s p ≠ .ok true ∧ ¬ Foreign filter s ls p ∧
      ∃ f, judge filter s (oneOf ls) p = .found f) := by
  unfold judge Foreign oneOf
  rw [h]
  cases b with
  | true => simp
  | false =>
    rcases s.language? p with _ | l
    · simp
    · by_cases hl : l ∈ ls
      · rcases s.read p with fault | content <;> simp [hl]
      · have hother : ∀ l' ∈ ls, ¬ l = l' := fun l' hl' heq => hl (heq ▸ hl')
        simpa [hl] using hother

/-- What became of the files that a scan visited. -/
structure Account where
  visited : List Path
  excluded : List Path
  foreign : List Path
  found : List FoundFile

namespace Account

/-- The account of files that were visited. -/
def of (filter : Filter) (s : Store) (ls : List Language) (visited : List Path) : Account where
  visited := visited
  excluded := visited.filter fun p => filter.excludesFile s p = .ok true
  foreign := visited.filter (Foreign filter s ls ·)
  found := filter.finds s ls visited

/-- The counters after an account. -/
def addTo (a : Account) (c : ScanCounts) : ScanCounts :=
  { c with
    total := c.total + a.visited.length
    supported := c.supported + a.found.length
    excluded := c.excluded + a.excluded.length }

/-- Each visited file is in one of the parts. -/
def Balanced (a : Account) : Prop :=
  a.visited.length = a.excluded.length + a.found.length + a.foreign.length

/-- Files that can all be tested are counted as their account says. -/
lemma of_visited (h : ∀ p ∈ visited, ∃ b, filter.excludesFile s p = .ok b) (ls : List Language)
    (c : ScanCounts) :
    visited.foldl (fun c p => (judge filter s (oneOf ls) p).count c) c =
      (of filter s ls visited).addTo c ∧ (of filter s ls visited).Balanced := by
  induction visited generalizing c with
  | nil => exact ⟨rfl, rfl⟩
  | cons p visited ih =>
    obtain ⟨⟨b, hb⟩, hrest⟩ := List.forall_mem_cons.mp h
    obtain ⟨hcounts, hparts⟩ := ih hrest ((judge filter s (oneOf ls) p).count c)
    rw [List.foldl_cons, hcounts]
    simp only [Balanced, of, addTo, List.filter_cons] at hparts ⊢
    rcases judge_cases hb ls with ⟨hexcluded, hforeign, hv⟩ | ⟨hexcluded, hforeign, hv⟩ |
        ⟨hexcluded, hforeign, f, hv⟩
    all_goals
      rw [finds_cons hv, hv]
      simp only [hexcluded, hforeign, decide_true, decide_false, if_true, Bool.false_eq_true,
        if_false, Verdict.count, Verdict.file?, Option.toList_none, Option.toList_some,
        List.nil_append, List.cons_append, List.length_cons, ScanCounts.mk.injEq, and_true,
        true_and] at hparts ⊢
      omega

/-- The counters after accounts that follow one another. -/
lemma foldl_addTo (accounts : List Account) (c : ScanCounts) :
    accounts.foldl (fun c a => a.addTo c) c =
      { c with
        total := c.total + (accounts.flatMap Account.visited).length
        supported := c.supported + (accounts.flatMap Account.found).length
        excluded := c.excluded + (accounts.flatMap Account.excluded).length } := by
  induction accounts generalizing c with
  | nil => rfl
  | cons a accounts ih =>
    rw [List.foldl_cons, ih]
    simp [addTo, List.flatMap_cons, Nat.add_assoc]

/-- Accounts that are balanced are balanced together. -/
lemma length_flatMap_visited {accounts : List Account} (h : ∀ a ∈ accounts, a.Balanced) :
    (accounts.flatMap Account.visited).length = (accounts.flatMap Account.excluded).length +
      (accounts.flatMap Account.found).length + (accounts.flatMap Account.foreign).length := by
  induction accounts with
  | nil => rfl
  | cons a accounts ih =>
    obtain ⟨ha, hrest⟩ := List.forall_mem_cons.mp h
    have hparts := ih hrest
    rw [Balanced] at ha
    simp only [List.flatMap_cons, List.length_append]
    omega

end Account

/-! ### Scans one after the other -/

/-- What is asked of a scanner. -/
structure Request where
  directory : Path
  languages : List Language
  limit : ℤ := 0

/-- Scans one after the other. -/
def scanEach (s : Store) : Scanner → List Request →
    List (Except Fault (List FoundFile)) × Scanner
  | sc, [] => ([], sc)
  | sc, r :: rs =>
    let (result, sc') := sc.scan s r.directory (oneOf r.languages) r.limit
    let (results, sc'') := scanEach s sc' rs
    (result :: results, sc'')

/-- The files that a scan of a directory can visit: those below no directory that is left out. -/
def reachable (filter : Filter) (s : Store) (top : Path) : List Path :=
  (s.listing top).filter fun p =>
    ∀ d ∈ top.between (top.stepsTo p), filter.excludesDir d = .ok false

/-- The account of a scan. -/
def Accounts (filter : Filter) (s : Store) (r : Request) (a : Account) : Prop :=
  ∃ visited, Visits filter s r.languages (Full r.limit) (reachable filter s r.directory) visited ∧
    a = .of filter s r.languages visited

variable {sc : Scanner} {ps : List String}

lemma reachable_eq (s : Store) (top : Path) (hps : filter.exclude = .list (ps.map .text)) :
    reachable filter s top = (s.listing top).filter (Store.reached (Filter.keeps ps) top) := by
  refine List.filter_congr fun p _ => ?_
  rw [Bool.eq_iff_iff, Store.reached, List.all_eq_true, decide_eq_true_eq]
  simp [Filter.excludesDir_of_texts hps]

/-- Every file of a listing can be tested. -/
lemma exists_excludesFile {top : Path} (hps : filter.exclude = .list (ps.map .text))
    (hs : s.root.Named) (hp : p ∈ s.listing top) : ∃ b, filter.excludesFile s p = .ok b := by
  have hzero : s.stat p ≠ .error .zeroInName :=
    Store.stat_ne_zeroInName (Store.zero_notMem_of_mem_listing hs hp)
  rcases hstat : s.stat p with fault | e
  · refine ⟨true, ?_⟩
    unfold Filter.excludesFile
    rw [hstat] at hzero ⊢
    cases fault <;> simp_all
  · exact ⟨_, Filter.excludesFile_of_stat hps hstat⟩

/-- A scan finds what its account says, and is counted so. -/
lemma scan_account (hps : sc.filter.exclude = .list (ps.map .text)) (hs : s.root.Named)
    (r : Request) :
    ∃ a, Accounts sc.filter s r a ∧ a.Balanced ∧
      sc.scan s r.directory (oneOf r.languages) r.limit =
        (.ok a.found, { sc with counts := a.addTo sc.counts }) := by
  have hscan := scan_eq_scanFiles s r.directory r.languages r.limit hps
  rw [← reachable_eq s r.directory hps] at hscan
  obtain ⟨visited, h⟩ := scanFiles_visits sc.filter s r.languages r.limit sc.counts
    (reachable sc.filter s r.directory)
  have htested : ∀ p ∈ visited, ∃ b, sc.filter.excludesFile s p = .ok b := fun p hp =>
    exists_excludesFile hps hs (List.mem_of_mem_filter (h.initial.subset hp))
  obtain ⟨hcounts, hbalanced⟩ := Account.of_visited htested r.languages sc.counts
  refine ⟨.of sc.filter s r.languages visited, ⟨visited, h.toVisits, rfl⟩, hbalanced, ?_⟩
  rw [hscan, ← hcounts]
  rcases hout : scanFiles sc.filter s (oneOf r.languages) r.limit 0 sc.counts
    (reachable sc.filter s r.directory) with ⟨found, counts, stopped⟩
  rw [hout] at h
  rw [← h.counts]
  exact congrArg (fun found => (Except.ok found, _)) h.found

/-- The accounts of scans that follow one another, and what the counters have grown by. -/
lemma scanEach_accounts (hps : sc.filter.exclude = .list (ps.map .text)) (hs : s.root.Named)
    (rs : List Request) :
    ∃ accounts, List.Forall₂ (Accounts sc.filter s) rs accounts ∧
      (∀ a ∈ accounts, a.Balanced) ∧
      (sc.scanEach s rs).1 = accounts.map (.ok ·.found) ∧
      (sc.scanEach s rs).2.counts = accounts.foldl (fun c a => a.addTo c) sc.counts := by
  induction rs generalizing sc with
  | nil => exact ⟨[], .nil, by simp, rfl, rfl⟩
  | cons r rs ih =>
    obtain ⟨a, ha, hbalanced, hscan⟩ := scan_account hps hs r
    obtain ⟨accounts, hall, hbalance, hresults, hcounts⟩ :=
      @ih { sc with counts := a.addTo sc.counts } hps
    refine ⟨a :: accounts, .cons ha hall, List.forall_mem_cons.mpr ⟨hbalanced, hbalance⟩, ?_, ?_⟩
    · rw [scanEach, hscan]
      exact congrArg (.ok a.found :: ·) hresults
    · rw [scanEach, hscan]
      exact hcounts

/-- What a limited scan finds. -/
lemma scan_eq_take {k : ℕ} (hps : sc.filter.exclude = .list (ps.map .text)) (s : Store) (top : Path)
    (ls : List Language) (hk : 0 < k) :
    (sc.scan s top (oneOf ls) k).1 = (sc.scan s top (oneOf ls)).1.map (·.take k) := by
  obtain ⟨visited, h⟩ := scanFiles_visits sc.filter s ls k sc.counts
    ((s.listing top).filter (Store.reached (Filter.keeps ps) top))
  rw [scan_finds s top ls hps, scan_eq_scanFiles s top ls k hps]
  exact congrArg Except.ok (h.found.trans (h.finds_eq_take hk))

/-- **Limits and counters.** A scan that is limited to `k` files finds the first `k` files that it
finds without the limit, or all. When scans follow one another after a reset, each of them visits
files until it is full and none of them fails. The supported files are those that were found, and
every visited file is excluded, found or of no wanted language. -/
theorem limited_scans_balance (sc : Scanner) (s : Store) (ps : List String) (hs : s.root.Named) :
    (∀ (top : Path) (ls : List Language) (k : ℕ), 1 ≤ k →
      ∃ all, ((sc.excluding ps).scan s top (oneOf ls)).1 = .ok all ∧
        ((sc.excluding ps).scan s top (oneOf ls) k).1 = .ok (all.take k)) ∧
    ∀ rs : List Request, ∃ accounts,
      List.Forall₂ (Accounts (sc.excluding ps).filter s) rs accounts ∧
      let (results, after) := (sc.excluding ps).reset.scanEach s rs
      results = accounts.map (.ok ·.found) ∧
      after.counts.supported = (accounts.flatMap Account.found).length ∧
      after.counts.errors = 0 ∧
      after.counts.total = (accounts.flatMap Account.visited).length ∧
      after.counts.excluded = (accounts.flatMap Account.excluded).length ∧
      after.counts.total = after.counts.excluded + after.counts.supported +
        (accounts.flatMap Account.foreign).length := by
  refine ⟨fun top ls k hk => ?_, fun rs => ?_⟩
  · have hall := scan_finds s top ls (exclude_excluding sc ps)
    refine ⟨_, hall, ?_⟩
    rw [scan_eq_take (exclude_excluding sc ps) s top ls hk, hall]
    rfl
  · obtain ⟨accounts, hrs, hbalanced, hresults, hcounts⟩ :=
      scanEach_accounts (exclude_excluding sc.reset ps) hs rs
    have hvisited := Account.length_flatMap_visited hbalanced
    rw [Account.foldl_addTo] at hcounts
    refine ⟨accounts, hrs, hresults, ?_⟩
    rw [show (sc.excluding ps).reset = sc.reset.excluding ps from rfl, hcounts]
    simpa [reset, excluding] using hvisited

/-- A scan for one file and then one for all: of the four files, two are found. -/
theorem limited_scans_balance_twice :
    let s : Store := { root := .dir [("a.py", .file ⟨[], 0⟩), ("b.map", .file ⟨[], 0⟩),
      ("c.py", .file ⟨[], 0⟩), ("d.js", .file ⟨[], 0⟩)] }
    let sc := excluding {} []
    let rs : List Request := [⟨{}, [.python], 1⟩, ⟨{}, [.python], 0⟩]
    s.root.Named ∧
    (∃ all, (sc.scan s {} (oneOf [.python])).1 = .ok all ∧
      (sc.scan s {} (oneOf [.python]) 1).1 = .ok (all.take 1) ∧
      all.map FoundFile.path = [⟨"", ["a.py"]⟩, ⟨"", ["c.py"]⟩]) ∧
    ∃ accounts, List.Forall₂ (Accounts sc.filter s) rs accounts ∧
      let (results, after) := sc.reset.scanEach s rs
      results = accounts.map (.ok ·.found) ∧
      after.counts.supported = (accounts.flatMap Account.found).length ∧
      after.counts.errors = 0 ∧
      after.counts.total = after.counts.excluded + after.counts.supported +
        (accounts.flatMap Account.foreign).length := by
  intro s sc rs
  have hs : s.root.Named := by
    rw [Entry.named_dir]
    simp only [List.forall_mem_cons, List.not_mem_nil, false_implies, implies_true, and_true,
      Entry.named_file]
    decide
  obtain ⟨hlimited, hscans⟩ := limited_scans_balance {} s [] hs
  obtain ⟨accounts, hrs, hresults, hsupported, herrors, -, -, htotal⟩ := hscans rs
  obtain ⟨all, hall, htake⟩ := hlimited {} [.python] 1 le_rfl
  refine ⟨hs, ⟨all, hall, htake, ?_⟩, accounts, hrs, hresults, hsupported, herrors, htotal⟩
  have hreached : (s.listing {}).filter (Store.reached Filter.unskipped {}) =
      [["a.py"], ["b.map"], ["c.py"], ["d.js"]].map (Path.along {}) := by cbv
  rw [scan_of_plain {} [] [.python] (Store.stat_self rfl) (by simp [s]) hreached (by decide +kernel),
    Except.ok.injEq] at hall
  rw [← hall]
  decide +kernel

end Scanner

end SpecScribe.Workspace
