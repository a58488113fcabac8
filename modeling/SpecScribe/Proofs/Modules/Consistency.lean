import Mathlib
import SpecScribe.Modules.Analyzer
import SpecScribe.Proofs.Fault
import SpecScribe.Proofs.Datum.Keys

/-!
The state of the analyzer over any run of calls. Each module is kept under its own path, the graph
joins modules that are kept, and both of its readings agree. An analysis of one file touches the
entry of that file only, and an analysis of a directory makes the graph that the recorded
dependencies ask for.
-/

namespace SpecScribe.Modules

open Workspace Syntax

/-! ### Calls -/

/-- What the analyzer can be asked. -/
inductive Question where
  | dependencies (key : String)
  | dependents (key : String)
  | report
  | chunks

/-- What a question is answered with. -/
inductive Answer where
  | keys (ks : List String)
  | report (r : Option Analyzer.Report)
  | chunks (r : Except Fault (List Chunk.CodeChunk))

/-- A call, with the parsers and the files that it finds. Files may change between two calls. -/
inductive Call where
  | file (ps : Parsers) (s : Store) (p : Path) (l : Language)
  | directory (ps : Parsers) (s : Store) (p : Path) (ls : List Language) (exclude : Datum)
  | ask (q : Question)

/-- What a call gives back. -/
inductive Reply where
  | file (m : Option ModuleInfo)
  | directory (r : Except Fault (List String))
  | answer (a : Answer)

namespace Analyzer

def answer (a : Analyzer) : Question → Answer
  | .dependencies key => .keys (a.dependenciesOf key)
  | .dependents key => .keys (a.dependentsOf key)
  | .report => .report a.report
  | .chunks => .chunks a.chunks

/-- One call: what it gives back, and the analyzer after it. -/
def perform (a : Analyzer) : Call → Reply × Analyzer
  | .file ps s p l => ((a.analyzeFile ps s p l).map .file id)
  | .directory ps s p ls exclude => ((a.analyzeDirectory ps s p ls exclude).map .directory id)
  | .ask q => (.answer (a.answer q), a)

/-- The analyzer after a run of calls that begins with a new one. -/
def after (calls : List Call) : Analyzer := calls.foldl (fun a c => (a.perform c).2) {}

@[simp] lemma after_nil : after [] = {} := rfl

lemma after_snoc (calls : List Call) (c : Call) :
    after (calls ++ [c]) = ((after calls).perform c).2 := by
  simp [after]

/-! ### The modules -/

/-- The edges of a graph join the given keys, and each source stands in it once. -/
structure Joins (keys : List String) (g : List (String × List String)) : Prop where
  once : (keysOf g).Nodup
  sources : ∀ source ∈ keysOf g, source ∈ keys
  targets : ∀ source ts, (source, ts) ∈ g → ∀ t ∈ ts, t ∈ keys

lemma Joins.nil {keys : List String} : Joins keys [] :=
  ⟨List.nodup_nil, by simp [keysOf], by simp⟩

lemma Joins.mono {keys keys' : List String} {g : List (String × List String)} (h : Joins keys g)
    (hsub : keys ⊆ keys') : Joins keys' g :=
  ⟨h.once, fun x hx => hsub (h.sources x hx), fun x ts hts t ht => hsub (h.targets x ts hts t ht)⟩

/-- Each module is kept once, under its own path, and the graph joins such modules only. -/
structure Consistent (a : Analyzer) : Prop where
  once : (keysOf a.modules).Nodup
  paths : ∀ key m, (key, m) ∈ a.modules → key = m.path.toString
  graph : Joins (keysOf a.modules) a.graph

variable {a : Analyzer} {ps : Parsers} {s : Store} {p : Path} {l : Language} {m : ModuleInfo}

lemma path_of_readModule (h : readModule ps s p l = .ok m) : m.path = p ∧ m.language = l := by
  obtain ⟨elements, -, h⟩ := bind_eq_ok.mp h
  split at h <;> cases h <;> exact ⟨rfl, rfl⟩

/-- What an analysis of a file that succeeds does to the analyzer: it sets the entry of the file, in
its old place or behind all others, and leaves everything else as it is. -/
structure Sets (a a' : Analyzer) (p : Path) (l : Language) (m : ModuleInfo) : Prop where
  path : m.path = p
  language : m.language = l
  entry : a'.modules.lookup p.toString = some m
  keys : keysOf a'.modules =
    if p.toString ∈ keysOf a.modules then keysOf a.modules else keysOf a.modules ++ [p.toString]
  others : a'.modules.filter (·.1 != p.toString) = a.modules.filter (·.1 != p.toString)
  graph : a'.graph = a.graph

/-- An analysis of a file fails and changes nothing, or it sets the entry of the file. -/
lemma analyzeFile_cases (a : Analyzer) (ps : Parsers) (s : Store) (p : Path) (l : Language) :
    a.analyzeFile ps s p l = (none, a) ∨
      ∃ m, a.analyzeFile ps s p l = (some m, { a with modules := setKey p.toString m a.modules }) ∧
        Sets a { a with modules := setKey p.toString m a.modules } p l m := by
  rw [analyzeFile]
  cases h : readModule ps s p l with
  | error f => exact .inl rfl
  | ok m =>
    obtain ⟨hpath, hlanguage⟩ := path_of_readModule h
    refine .inr ⟨m, rfl, hpath, hlanguage, ?_, keysOf_setKey .., filter_setKey .., rfl⟩
    rw [lookup_setKey, if_pos rfl]

lemma Consistent.setEntry (h : a.Consistent) (hpath : m.path = p) :
    Consistent { a with modules := setKey p.toString m a.modules } where
  once := nodup_setKey h.once
  paths := by
    intro key m' hmem
    rcases (mem_setKey h.once).mp hmem with ⟨rfl, rfl⟩ | ⟨-, hold⟩
    · rw [hpath]
    · exact h.paths key m' hold
  graph := h.graph.mono fun _ hkey => mem_keysOf_setKey.mpr (.inr hkey)

lemma Consistent.analyzeFile (h : a.Consistent) (ps : Parsers) (s : Store) (p : Path)
    (l : Language) : (a.analyzeFile ps s p l).2.Consistent := by
  obtain heq | ⟨m, heq, hsets⟩ := analyzeFile_cases a ps s p l
  · rwa [heq]
  · rw [heq]
    exact h.setEntry hsets.path

lemma Consistent.analyzeAll (h : a.Consistent) (ps : Parsers) (s : Store) (patterns : List Datum)
    (files : List (Path × Language)) (found : List String) :
    (analyzeAll ps s patterns files found a).2.Consistent := by
  induction files generalizing found a with
  | nil => exact h
  | cons f files ih =>
    obtain ⟨p, l⟩ := f
    have hfile := h.analyzeFile ps s p l
    rw [Analyzer.analyzeAll]
    split
    · exact h
    · exact ih h found
    · split
      · rename_i heq
        rw [heq] at hfile
        exact ih hfile _
      · rename_i heq
        rw [heq] at hfile
        exact ih hfile _

/-! ### The graph -/

section Graph

variable {keys : List String} {g : List (String × List String)} {source target key t : String}

/-- The targets of the edges from a key. -/
def targetsOf (g : List (String × List String)) (key : String) : List String :=
  (g.lookup key).getD []

lemma mem_targetsOf (hg : (keysOf g).Nodup) :
    t ∈ targetsOf g key ↔ ∃ ts, (key, ts) ∈ g ∧ t ∈ ts := by
  simp only [mem_iff_lookup hg, targetsOf]
  cases g.lookup key <;> simp

lemma mem_targetsOf_addEdge :
    t ∈ targetsOf (addEdge source target g) key ↔
      t ∈ targetsOf g key ∨ key = source ∧ t = target := by
  rw [targetsOf, addEdge, lookup_setKey]
  by_cases hkey : key = source
  · subst hkey
    by_cases hold : target ∈ (g.lookup key).getD []
    · simp only [if_true, List.contains_iff_mem, hold, Option.getD_some, targetsOf, true_and]
      exact ⟨.inl, fun h => h.elim id fun h => h ▸ hold⟩
    · simp [hold, targetsOf]
  · simp [hkey, targetsOf]

lemma Joins.addEdge (h : Joins keys g) (hsource : source ∈ keys) (htarget : target ∈ keys) :
    Joins keys (addEdge source target g) where
  once := nodup_setKey h.once
  sources := by
    intro key hkey
    rcases mem_keysOf_setKey.mp hkey with rfl | hold
    · exact hsource
    · exact h.sources key hold
  targets := by
    intro key ts hts t ht
    have hedge := (mem_targetsOf (nodup_setKey h.once)).mpr ⟨ts, hts, ht⟩
    rcases mem_targetsOf_addEdge.mp hedge with hold | ⟨-, rfl⟩
    · obtain ⟨ts', hts', ht'⟩ := (mem_targetsOf h.once).mp hold
      exact h.targets key ts' hts' t ht'
    · exact htarget

/-- Adds the edges that the dependencies of one module ask for. -/
def addEdges (target? : Dependency → Option String) (g : List (String × List String))
    (key : String) (ds : List Dependency) : List (String × List String) :=
  ds.foldl (fun g d =>
    match target? d with
    | some t => addEdge key t g
    | none => g) g

variable {resolve : Dependency → Option String}

lemma mem_targetsOf_addEdges (ds : List Dependency) :
    t ∈ targetsOf (addEdges resolve g source ds) key ↔
      t ∈ targetsOf g key ∨ key = source ∧ ∃ d ∈ ds, resolve d = some t := by
  induction ds generalizing g with
  | nil => simp [addEdges]
  | cons d ds ih =>
    rw [addEdges, List.foldl_cons, ← addEdges, ih, List.exists_mem_cons_iff]
    cases resolve d with
    | none => simp
    | some t' =>
      simp only [mem_targetsOf_addEdge, Option.some.injEq]
      grind

lemma Joins.addEdges (h : Joins keys g) (hsource : source ∈ keys)
    (hresolve : ∀ d t, resolve d = some t → t ∈ keys) (ds : List Dependency) :
    Joins keys (addEdges resolve g source ds) := by
  induction ds generalizing g with
  | nil => exact h
  | cons d ds ih =>
    rw [Analyzer.addEdges, List.foldl_cons, ← Analyzer.addEdges]
    cases hd : resolve d with
    | none => exact ih h
    | some t => exact ih (h.addEdge hsource (hresolve d t hd))

/-- The edges of all modules. -/
lemma mem_targetsOf_foldl (ms : List (String × ModuleInfo)) :
    t ∈ targetsOf (ms.foldl (fun g e => addEdges resolve g e.1 e.2.dependencies) g) key ↔
      t ∈ targetsOf g key ∨ ∃ m, (key, m) ∈ ms ∧ ∃ d ∈ m.dependencies, resolve d = some t := by
  induction ms generalizing g with
  | nil => simp
  | cons e ms ih =>
    obtain ⟨k, m⟩ := e
    rw [List.foldl_cons, ih, mem_targetsOf_addEdges]
    simp only [List.mem_cons, Prod.mk.injEq]
    grind

lemma Joins.foldl (h : Joins keys g) (hresolve : ∀ d t, resolve d = some t → t ∈ keys)
    {ms : List (String × ModuleInfo)} (hms : ∀ e ∈ ms, e.1 ∈ keys) :
    Joins keys (ms.foldl (fun g e => Analyzer.addEdges resolve g e.1 e.2.dependencies) g) := by
  induction ms generalizing g with
  | nil => exact h
  | cons e ms ih =>
    rw [List.forall_mem_cons] at hms
    exact ih (h.addEdges hms.1 hresolve e.2.dependencies) hms.2

end Graph

/-- A file is called like a dependency or its source. -/
def CalledLike (key : String) (d : Dependency) : Prop :=
  d.name = (Path.ofString key).stem ∨ d.source = some (Path.ofString key).stem

/-- The first module, in the order in which they came, whose file is called like the dependency. -/
def Resolves (a : Analyzer) (d : Dependency) (key : String) : Prop :=
  ∃ before m after, a.modules = before ++ (key, m) :: after ∧ CalledLike key d ∧
    ∀ e ∈ before, ¬ CalledLike e.1 d

lemma target?_eq_some {d : Dependency} {key : String} :
    a.target? d = some key ↔ a.Resolves d key := by
  rw [target?, Option.map_eq_some_iff]
  simp only [List.find?_eq_some_iff_append, Resolves, CalledLike, Bool.or_eq_true, beq_iff_eq,
    Bool.not_eq_true', Bool.or_eq_false_iff, beq_eq_false_iff_ne, not_or]
  constructor
  · rintro ⟨⟨key', m⟩, ⟨hcalled, before, after, hms, hnot⟩, rfl⟩
    exact ⟨before, m, after, hms, hcalled, hnot⟩
  · rintro ⟨before, m, after, hms, hcalled, hnot⟩
    exact ⟨(key, m), ⟨hcalled, before, after, hms, hnot⟩, rfl⟩

lemma Resolves.mem {d : Dependency} {key : String} (h : a.Resolves d key) :
    key ∈ keysOf a.modules := by
  obtain ⟨before, m, after, hms, -⟩ := h
  rw [hms]
  exact mem_keysOf_of_mem (v := m) (by simp)

lemma buildGraph_graph (a : Analyzer) :
    a.buildGraph.graph =
      a.modules.foldl (fun g e => addEdges a.target? g e.1 e.2.dependencies) [] := rfl

lemma Consistent.buildGraph (h : a.Consistent) : a.buildGraph.Consistent where
  once := h.once
  paths := h.paths
  graph := by
    rw [buildGraph_graph]
    exact Joins.nil.foldl (fun d t ht => (target?_eq_some.mp ht).mem)
      fun e he => List.mem_map_of_mem he

/-- The graph that the recorded dependencies ask for. -/
def Resolved (a : Analyzer) : Prop :=
  ∀ x y, y ∈ a.dependenciesOf x ↔
    ∃ m, a.modules.lookup x = some m ∧ ∃ d ∈ m.dependencies, a.Resolves d y

lemma Consistent.resolved_buildGraph (h : a.Consistent) : a.buildGraph.Resolved := by
  intro x y
  have hedges : y ∈ a.buildGraph.dependenciesOf x ↔
      y ∈ targetsOf [] x ∨ ∃ m, (x, m) ∈ a.modules ∧ ∃ d ∈ m.dependencies, a.target? d = some y :=
    mem_targetsOf_foldl a.modules
  simp only [mem_iff_lookup h.once, target?_eq_some] at hedges
  rw [hedges, or_iff_right (by simp [targetsOf])]
  rfl

/-- Both readings of the graph agree. -/
lemma Consistent.mem_dependentsOf (h : a.Consistent) (x y : String) :
    y ∈ a.dependenciesOf x ↔ x ∈ a.dependentsOf y := by
  have hdependencies : y ∈ a.dependenciesOf x ↔ ∃ ts, (x, ts) ∈ a.graph ∧ y ∈ ts :=
    mem_targetsOf h.graph.once
  rw [hdependencies, dependentsOf]
  simp

/-! ### Directories -/

/-- The patterns that a directory is analysed with: none, or texts. -/
def Patterns (exclude : Datum) : Prop :=
  exclude = .null ∨ ∃ texts : List String, exclude = .list (texts.map .text)

lemma isOk_excludes (texts : List String) (p : Path) : (excludes (texts.map .text) p).isOk := by
  induction texts with
  | nil => rfl
  | cons pattern texts ih =>
    rw [List.map_cons, excludes]
    split_ifs
    · rfl
    · exact ih

lemma isOk_analyzeAll (a : Analyzer) (ps : Parsers) (s : Store) (texts : List String)
    (files : List (Path × Language)) (found : List String) :
    (analyzeAll ps s (texts.map .text) files found a).1.isOk := by
  induction files generalizing found a with
  | nil => rfl
  | cons f files ih =>
    obtain ⟨p, l⟩ := f
    have hok := isOk_excludes texts p
    rw [analyzeAll]
    split
    · rename_i heq
      rw [heq] at hok
      exact hok
    · exact ih a found
    · split <;> exact ih _ _

lemma isOk_analyzeDirectory {exclude : Datum} (h : Patterns exclude) (ls : List Language) :
    (a.analyzeDirectory ps s p ls exclude).1.isOk := by
  have hpatterns : ∃ texts : List String,
      (if exclude.isTruthy then exclude.items else .ok []) = .ok (texts.map .text) := by
    rcases h with rfl | ⟨texts, rfl⟩
    · exact ⟨[], rfl⟩
    · split_ifs
      · exact ⟨texts, rfl⟩
      · exact ⟨[], rfl⟩
  obtain ⟨texts, htexts⟩ := hpatterns
  have hall := isOk_analyzeAll a ps s texts (candidates s p ls) []
  rw [analyzeDirectory, htexts]
  dsimp only
  split
  · rfl
  · rename_i heq
    rw [heq] at hall
    exact hall

/-- An analysis of a directory ends with the graph made anew, or in a fault. -/
lemma Consistent.analyzeDirectory (h : a.Consistent) (ps : Parsers) (s : Store) (p : Path)
    (ls : List Language) (exclude : Datum) :
    (a.analyzeDirectory ps s p ls exclude).2.Consistent ∧
      ((a.analyzeDirectory ps s p ls exclude).1.isOk →
        (a.analyzeDirectory ps s p ls exclude).2.Resolved) := by
  rw [Analyzer.analyzeDirectory]
  split
  · split_ifs
    · exact ⟨h.buildGraph, fun _ => h.resolved_buildGraph⟩
    · exact ⟨h, nofun⟩
  · rename_i patterns _
    have hall := h.analyzeAll ps s patterns (candidates s p ls) []
    split
    · rename_i heq
      rw [heq] at hall
      exact ⟨hall.buildGraph, fun _ => hall.resolved_buildGraph⟩
    · rename_i heq
      rw [heq] at hall
      exact ⟨hall, nofun⟩

/-! ### Runs -/

lemma Consistent.perform (h : a.Consistent) (c : Call) : (a.perform c).2.Consistent := by
  cases c with
  | file ps s p l => exact h.analyzeFile ps s p l
  | directory ps s p ls exclude => exact (h.analyzeDirectory ps s p ls exclude).1
  | ask q => exact h

lemma consistent_after (calls : List Call) : (after calls).Consistent := by
  induction calls using List.reverseRecOn with
  | nil => exact ⟨List.nodup_nil, by simp, .nil⟩
  | append_singleton calls c ih =>
    rw [after_snoc]
    exact ih.perform c

/-- **The analyzer stays consistent over every run of calls, whatever files and parsers each call
finds.** Modules stand under their own paths, the graph joins modules that are kept, and its two
readings agree. A question changes nothing. An analysis of a file changes nothing or the entry of
that file only. An analysis of a directory that gives back modules, as each does whose patterns are
texts, leaves the graph that the recorded dependencies ask for. -/
theorem after_calls_consistent (calls : List Call) :
    (after calls).Consistent ∧
      (∀ x y, y ∈ (after calls).dependenciesOf x ↔ x ∈ (after calls).dependentsOf y) ∧
      (∀ q, after (calls ++ [.ask q]) = after calls) ∧
      (∀ ps s p l, match ((after calls).analyzeFile ps s p l).1 with
        | none => after (calls ++ [.file ps s p l]) = after calls
        | some m => Sets (after calls) (after (calls ++ [.file ps s p l])) p l m) ∧
      ∀ ps s p ls exclude,
        (((after calls).analyzeDirectory ps s p ls exclude).1.isOk →
          (after (calls ++ [.directory ps s p ls exclude])).Resolved) ∧
        (Patterns exclude → ((after calls).analyzeDirectory ps s p ls exclude).1.isOk) := by
  have h := consistent_after calls
  refine ⟨h, h.mem_dependentsOf, fun q => ?_, fun ps s p l => ?_, fun ps s p ls exclude => ⟨?_, ?_⟩⟩
  · rw [after_snoc]
    rfl
  · rw [after_snoc]
    obtain heq | ⟨m, heq, hsets⟩ := analyzeFile_cases (after calls) ps s p l
    · simp [Analyzer.perform, heq]
    · simpa [Analyzer.perform, heq] using hsets
  · rw [after_snoc]
    exact (h.analyzeDirectory ps s p ls exclude).2
  · exact fun hexclude => isOk_analyzeDirectory hexclude ls

end Analyzer

end SpecScribe.Modules
