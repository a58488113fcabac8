import Mathlib
import SpecScribe.Chunk.Splitting
import SpecScribe.Proofs.Chunk.Classes
import SpecScribe.Proofs.Modules.Consistency
import SpecScribe.Proofs.Workspace.Normal
import SpecScribe.Proofs.Workspace.Writing

/-!
The chunks of the modules that the analyzer keeps. A run of calls comes down to analyses of single
files, and what is kept of a file is the module of the last analysis of it that succeeded. The lines
of an element are in order and counted from one, so every element of every module gives a chunk. As
long as the files are what they were when they were analysed, the chunks of a module are those that
its file is cut into.
-/

namespace SpecScribe

/-! ### Lines -/

namespace Syntax

/-- The lines of an element are in order, counted from one. -/
structure Ordered (e : Element) : Prop where
  first : 1 ≤ e.startLine
  lines : e.startLine ≤ e.endLine

/-- The rows of what is found are counted from zero. -/
def Finder.FromZero (find : Finder) : Prop := ∀ q r, ∀ l ∈ find q r, 0 ≤ l.node.start.row

/-- Whatever is parsed, rows are counted from zero. -/
def Parsers.FromZero (ps : Parsers) : Prop :=
  ∀ l bytes find, ps.parse l bytes = .ok find → find.FromZero

lemma fromZero_matchFinder {root : Node} (h : root.Each fun n => 0 ≤ n.start.row) :
    (matchFinder root).FromZero :=
  fun _ _ l hl => h l (Query.mem_captures.mp hl).1

namespace Dialect

variable {d : Dialect} {find : Finder} {n : Node} {e : Element} {es : List Element}

lemma Outlines.ordered (h : Outlines n e) (hrow : 0 ≤ n.start.row)
    (hlines : n.startLine ≤ n.endLine) : Ordered e := by
  obtain ⟨hstart, hstop, -⟩ := h
  rw [Node.startLine, Node.endLine] at hlines
  exact ⟨by omega, by omega⟩

/-- The lines of all elements of a tree are in order: an element with other lines is not made, and
then none is. -/
lemma ordered_of_extractAll (hfind : find.FromZero) (h : d.extractAll find = .ok es) :
    ∀ e ∈ es, Ordered e := by
  obtain ⟨functions, hfunctions, h⟩ := bind_eq_ok.mp h
  obtain ⟨classes, hclasses, h⟩ := bind_eq_ok.mp h
  cases h
  intro e he
  rcases List.mem_append.mp he with he | he
  · obtain ⟨l, hl, hmade⟩ := exists_left_of_mem (mapM_eq_ok_iff.mp hfunctions) he
    exact (functionElement_made hmade).outlines.ordered (hfind _ _ l hl)
      (lines_of_functionElement hmade)
  · obtain ⟨l, hl, hmade⟩ := exists_left_of_mem (mapM_eq_ok_iff.mp hclasses) he
    exact (classElement_made hmade).outlines.ordered (hfind _ _ l hl)
      (lines_of_classElement hmade)

end Dialect

end Syntax

namespace Modules

open Workspace Syntax Chunk

variable {ps : Parsers} {s s' : Store} {p : Path} {l : Language} {m : ModuleInfo}

lemma elements_of_readModule (h : readModule ps s p l = .ok m) :
    ps.fileElements s p l = .ok m.elements := by
  obtain ⟨elements, helements, h⟩ := bind_eq_ok.mp h
  split at h <;> cases h <;> exact helements

/-- The elements of a file come from a tree, or there are none. -/
lemma fileElements_cases {es : List Element} (h : ps.fileElements s p l = .ok es) :
    es = [] ∨ ∃ bytes find, ps.parse l bytes = .ok find ∧
      (Dialect.ofLanguage l).extractAll find = .ok es := by
  unfold Parsers.fileElements Parsers.elementsOf at h
  split_ifs at h
  split at h
  · rename_i c _
    rcases hparse : ps.parse l c.toBytes with f | find
    · simp only [hparse, Except.ok.injEq] at h
      exact .inl h.symm
    rcases hall : (Dialect.ofLanguage l).extractAll find with f | es'
    · simp only [hparse, ok_bind, hall, Except.ok.injEq] at h
      exact .inl h.symm
    · simp only [hparse, ok_bind, hall, Except.ok.injEq] at h
      exact .inr ⟨c.toBytes, find, hparse, h ▸ hall⟩
  · cases h
  · exact .inl (Except.ok.inj h).symm

lemma ordered_of_readModule (hps : ps.FromZero) (h : readModule ps s p l = .ok m) :
    ∀ e ∈ m.elements, Ordered e := by
  rcases fileElements_cases (elements_of_readModule h) with hnone | ⟨bytes, find, hparse, hall⟩
  · simp [hnone]
  · exact Dialect.ordered_of_extractAll (hps l bytes find hparse) hall

/-! ### Unchanged files -/

/-- A path leads to the same bytes in both stores, or to the same failure. -/
def SameFile (s s' : Store) (p : Path) : Prop :=
  (s.read p).map Content.toBytes = (s'.read p).map Content.toBytes

/-- The module of a file depends on its bytes only. -/
lemma readModule_congr (h : SameFile s s' p) : readModule ps s p l = readModule ps s' p l := by
  have hread : (∃ f, s.read p = .error f ∧ s'.read p = .error f) ∨
      ∃ c c', s.read p = .ok c ∧ s'.read p = .ok c' ∧ c.toBytes = c'.toBytes := by
    rw [SameFile] at h
    rcases hs : s.read p with f | c <;> rcases hs' : s'.read p with f' | c' <;>
      rw [hs, hs'] at h <;> simp only [Except.map, reduceCtorEq, Except.error.injEq,
        Except.ok.injEq] at h
    · exact .inl ⟨f, rfl, by rw [h]⟩
    · exact .inr ⟨c, c', rfl, rfl, h⟩
  have helements : ps.fileElements s p l = ps.fileElements s' p l := by
    unfold Parsers.fileElements
    rcases hread with ⟨f, hs, hs'⟩ | ⟨c, c', hs, hs', hbytes⟩
    · rw [hs, hs']
    · simp only [hs, hs', hbytes]
  have htext : s.readUtf8 p = s'.readUtf8 p := by
    unfold Store.readUtf8
    rcases hread with ⟨f, hs, hs'⟩ | ⟨c, c', hs, hs', hbytes⟩
    · rw [hs, hs']
    · simp only [hs, hs', Store.failing, ok_bind, hbytes]
  rw [readModule, readModule, helements, htext]

/-! ### The analyses of a run -/

/-- One analysis of a file, with the parsers and the files that it finds. -/
structure Analysis where
  parsers : Parsers
  store : Store
  path : Path
  language : Language

namespace Analysis

def result (x : Analysis) : Except Fault ModuleInfo :=
  readModule x.parsers x.store x.path x.language

/-- The modules that are kept after an analysis. -/
def keep (ms : List (String × ModuleInfo)) (x : Analysis) : List (String × ModuleInfo) :=
  match x.result with
  | .ok m => setKey x.path.toString m ms
  | .error _ => ms

lemma nodup_keep {ms : List (String × ModuleInfo)} (h : (keysOf ms).Nodup) (x : Analysis) :
    (keysOf (keep ms x)).Nodup := by
  unfold keep
  split
  · exact nodup_setKey h
  · exact h

lemma nodup_foldl_keep (xs : List Analysis) : (keysOf (xs.foldl keep [])).Nodup := by
  induction xs using List.reverseRecOn with
  | nil => exact List.nodup_nil
  | append_singleton xs x ih =>
    rw [List.foldl_append]
    exact nodup_keep ih x

/-- Among the given analyses, this one is the last of its file that succeeded. -/
def Latest (xs : List Analysis) (x : Analysis) : Prop :=
  x.result.isOk ∧ ∃ before later, xs = before ++ x :: later ∧
    ∀ y ∈ later, y.path.toString = x.path.toString → ¬ y.result.isOk

lemma Latest.mem {xs : List Analysis} {x : Analysis} (h : Latest xs x) : x ∈ xs := by
  obtain ⟨-, before, later, rfl, -⟩ := h
  simp

/-- A module that is kept comes from the last analysis of its file that succeeded. -/
lemma exists_latest {xs : List Analysis} {key : String} {m : ModuleInfo}
    (h : (key, m) ∈ xs.foldl keep []) :
    ∃ x, Latest xs x ∧ x.path.toString = key ∧ x.result = .ok m := by
  induction xs using List.reverseRecOn with
  | nil => cases h
  | append_singleton xs x ih =>
    rw [List.foldl_append, List.foldl_cons, List.foldl_nil, keep] at h
    -- what was kept before stays the latest if the new analysis fails or is of another file
    have hold : (x.path.toString = key → ¬ x.result.isOk) → (key, m) ∈ xs.foldl keep [] →
        ∃ y, Latest (xs ++ [x]) y ∧ y.path.toString = key ∧ y.result = .ok m := by
      intro hx hmem
      obtain ⟨y, ⟨hok, before, later, rfl, hlater⟩, rfl, hy⟩ := ih hmem
      refine ⟨y, ⟨hok, before, later ++ [x], by simp, ?_⟩, rfl, hy⟩
      intro z hz
      rcases List.mem_append.mp hz with hz | hz
      · exact hlater z hz
      · rw [List.mem_singleton.mp hz]
        exact hx
    split at h
    · rename_i m' hm'
      rcases (mem_setKey (nodup_foldl_keep xs)).mp h with ⟨rfl, rfl⟩ | ⟨hne, hmem⟩
      · exact ⟨x, ⟨by rw [hm']; rfl, xs, [], rfl, by simp⟩, rfl, hm'⟩
      · exact hold (fun heq => absurd heq.symm hne) hmem
    · rename_i f hf
      exact hold (fun _ => by rw [hf]; simp) h

end Analysis

/-- The files that a directory is analysed for: those that no pattern excludes, up to a fault in a
pattern. -/
def analysedFiles (patterns : List Datum) : List (Path × Language) → List (Path × Language)
  | [] => []
  | (p, l) :: r =>
    match Analyzer.excludes patterns p with
    | .error _ => []
    | .ok true => analysedFiles patterns r
    | .ok false => (p, l) :: analysedFiles patterns r

/-- The analyses of single files that a call makes, in order. -/
def Call.analyses : Call → List Analysis
  | .file ps s p l => [⟨ps, s, p, l⟩]
  | .directory ps s p ls exclude =>
    match (if exclude.isTruthy then exclude.items else .ok []) with
    | .error _ => []
    | .ok patterns =>
      (analysedFiles patterns (Analyzer.candidates s p ls)).map fun f => ⟨ps, s, f.1, f.2⟩
  | .ask _ => []

namespace Analyzer

lemma modules_analyzeFile (a : Analyzer) (ps : Parsers) (s : Store) (p : Path) (l : Language) :
    (a.analyzeFile ps s p l).2.modules = Analysis.keep a.modules ⟨ps, s, p, l⟩ := by
  rw [analyzeFile, Analysis.keep, Analysis.result]
  cases readModule ps s p l <;> rfl

lemma modules_analyzeAll (a : Analyzer) (ps : Parsers) (s : Store) (patterns : List Datum)
    (files : List (Path × Language)) (found : List String) :
    (analyzeAll ps s patterns files found a).2.modules =
      ((analysedFiles patterns files).map fun f => (⟨ps, s, f.1, f.2⟩ : Analysis)).foldl
        Analysis.keep a.modules := by
  induction files generalizing found a with
  | nil => rfl
  | cons f files ih =>
    obtain ⟨p, l⟩ := f
    have hfile := a.modules_analyzeFile ps s p l
    rw [analyzeAll, analysedFiles]
    rcases excludes patterns p with f | _ | _
    · rfl
    · rw [List.map_cons, List.foldl_cons, ← hfile]
      rcases a.analyzeFile ps s p l with ⟨_ | m, a'⟩ <;> exact ih a' _
    · exact ih a found

/-- A call does to the modules what its analyses do, one after another. -/
lemma modules_perform (a : Analyzer) (c : Call) :
    (a.perform c).2.modules = c.analyses.foldl Analysis.keep a.modules := by
  cases c with
  | file ps s p l => exact a.modules_analyzeFile ps s p l
  | ask q => rfl
  | directory ps s p ls exclude =>
    change (a.analyzeDirectory ps s p ls exclude).2.modules = _
    rw [analyzeDirectory, Call.analyses]
    rcases (if exclude.isTruthy then exclude.items else .ok []) with f | patterns
    · dsimp only
      split_ifs <;> rfl
    · have hall := a.modules_analyzeAll ps s patterns (candidates s p ls) []
      dsimp only
      rw [← hall]
      rcases analyzeAll ps s patterns (candidates s p ls) [] a with ⟨f | found, a'⟩ <;> rfl

lemma modules_after (calls : List Call) :
    (after calls).modules = (calls.flatMap Call.analyses).foldl Analysis.keep [] := by
  induction calls using List.reverseRecOn with
  | nil => rfl
  | append_singleton calls c ih =>
    rw [after_snoc, modules_perform, ih, List.flatMap_append, List.foldl_append]
    simp

/-- The files of the modules are what they were when they were last analysed with success. -/
def Unchanged (calls : List Call) (s : Store) : Prop :=
  ∀ x, Analysis.Latest (calls.flatMap Call.analyses) x → SameFile x.store s x.path

variable {a : Analyzer} {calls : List Call}

/-- A module that is kept was read by the last analysis of its file that succeeded. -/
lemma exists_analysis {key : String} (h : (key, m) ∈ (after calls).modules) :
    ∃ x, Analysis.Latest (calls.flatMap Call.analyses) x ∧ x.path = m.path ∧
      readModule x.parsers x.store m.path m.language = .ok m := by
  rw [modules_after] at h
  obtain ⟨x, hx, -, hm⟩ := Analysis.exists_latest h
  obtain ⟨hpath, hlanguage⟩ := path_of_readModule hm
  exact ⟨x, hx, hpath.symm, by rw [hpath, hlanguage]; exact hm⟩

/-! ### Chunks -/

/-- The elements of all modules in order, each with its module. -/
def parts (a : Analyzer) : List (ModuleInfo × Element) :=
  a.modules.flatMap fun x => x.2.elements.map fun e => (x.2, e)

lemma mem_parts {e : Element} (h : (m, e) ∈ a.parts) :
    e ∈ m.elements ∧ ∃ key, (key, m) ∈ a.modules := by
  obtain ⟨⟨key, m'⟩, hm, h⟩ := List.mem_flatMap.mp h
  obtain ⟨e', he, h⟩ := List.mem_map.mp h
  cases h
  exact ⟨he, key, hm⟩

/-- The chunk of an element of a module. -/
def chunkOf (m : ModuleInfo) (e : Element) : CodeChunk :=
  ⟨e.content, .ofString m.path.toString, m.language, e.startLine, e.endLine, e.kind⟩

lemma make_of_ordered (m : ModuleInfo) {e : Element} (he : Ordered e) :
    CodeChunk.make e.content m.path m.language e.startLine e.endLine e.kind =
      .ok (chunkOf m e) :=
  make_of_lines e.content m.path m.language e.kind he.first he.lines

lemma chunks_of_ordered (h : ∀ x ∈ a.parts, Ordered x.2) :
    a.chunks = .ok (a.parts.map fun x => chunkOf x.1 x.2) := by
  have hmake : a.parts.mapM (fun x => CodeChunk.make x.2.content x.1.path x.1.language
      x.2.startLine x.2.endLine x.2.kind) = .ok (a.parts.map fun x => chunkOf x.1 x.2) :=
    mapM_eq_ok_map fun x hx => make_of_ordered x.1 (h x hx)
  unfold chunks
  exact hmake ▸ rfl

lemma ofModule_of_ordered (h : ∀ e ∈ m.elements, Ordered e) :
    ofModule m.path m.language m = m.elements.map (chunkOf m) := by
  rw [ofModule, mapM_eq_ok_map fun e he => make_of_ordered m (h e he)]

/-- A file that still gives the module is cut into the chunks of its elements. -/
lemma ofElements_of_ordered (a : Analyzer) (hm : readModule ps s m.path m.language = .ok m)
    (h : ∀ e ∈ m.elements, Ordered e) :
    (ofElements a ps s m.path m.language).1 = m.elements.map (chunkOf m) := by
  rw [ofElements, analyzeFile, hm]
  exact ofModule_of_ordered h

/-- A chunk is that of an element of a module. Its lines are in order, counted from one. -/
structure Outlines (x : ModuleInfo × Element) (c : CodeChunk) : Prop where
  content : c.content = x.2.content
  path : x.1.path.Normal → c.path = x.1.path
  language : c.language = x.1.language
  startLine : c.startLine = x.2.startLine
  endLine : c.endLine = x.2.endLine
  kind : c.kind = x.2.kind
  first : 1 ≤ c.startLine
  lines : c.startLine ≤ c.endLine

lemma outlines_chunkOf (m : ModuleInfo) {e : Element} (he : Ordered e) :
    Outlines (m, e) (chunkOf m e) :=
  ⟨rfl, Path.ofString_toString, rfl, rfl, rfl, rfl, he.first, he.lines⟩

/-- **The modules of every run give their chunks.** With parsers that count rows from zero, there is
one chunk for each element, module by module and element by element, with its lines in order. If the
files have not changed since they were analysed, the chunks of a module are those that its file is
cut into, whatever analyzer is used for that. -/
theorem chunks_after_calls (calls : List Call) (ps : Parsers) (s : Store)
    (hps : ∀ x ∈ calls.flatMap Call.analyses, x.parsers = ps) (hrows : ps.FromZero) :
    ∃ cs, (after calls).chunks = .ok cs ∧ List.Forall₂ Outlines (after calls).parts cs ∧
      (Unchanged calls s → ∀ a : Analyzer, cs = (after calls).modules.flatMap fun x =>
        (ofElements a ps s x.2.path x.2.language).1) := by
  have hread : ∀ key m, (key, m) ∈ (after calls).modules →
      ∃ x, Analysis.Latest (calls.flatMap Call.analyses) x ∧ x.path = m.path ∧
        readModule ps x.store m.path m.language = .ok m := by
    intro key m hm
    obtain ⟨x, hx, hpath, hresult⟩ := exists_analysis hm
    rw [hps x hx.mem] at hresult
    exact ⟨x, hx, hpath, hresult⟩
  have hordered : ∀ key m, (key, m) ∈ (after calls).modules → ∀ e ∈ m.elements, Ordered e := by
    intro key m hm
    obtain ⟨x, -, -, hresult⟩ := hread key m hm
    exact ordered_of_readModule hrows hresult
  have hparts : ∀ x ∈ (after calls).parts, Ordered x.2 := by
    rintro ⟨m, e⟩ hx
    obtain ⟨he, key, hm⟩ := mem_parts hx
    exact hordered key m hm e he
  refine ⟨_, chunks_of_ordered hparts, ?_, fun hsame a => ?_⟩
  · rw [List.forall₂_map_right_iff, List.forall₂_same]
    exact fun x hx => outlines_chunkOf x.1 (hparts x hx)
  · rw [parts, List.map_flatMap]
    refine List.flatMap_congr fun x hm => ?_
    obtain ⟨key, m⟩ := x
    obtain ⟨x, hx, hpath, hresult⟩ := hread key m hm
    rw [readModule_congr (hpath ▸ hsame x hx)] at hresult
    rw [ofElements_of_ordered a hresult (hordered key m hm), List.map_map]
    rfl

/-! ### A file that changed between two analyses -/

/-- A function on the first line. -/
def functionTree : Node :=
  .mk "module" ⟨0, 0⟩ ⟨1, 0⟩ none none
    [.mk "function_definition" ⟨0, 0⟩ ⟨0, 13⟩ (some (.ok "def f(): pass")) none
      [.mk "identifier" ⟨0, 4⟩ ⟨0, 5⟩ (some (.ok "f")) (some "name") [],
       .mk "block" ⟨0, 9⟩ ⟨0, 13⟩ none (some "body") []]]

def theFunction : Element :=
  { name := "f", kind := "function", startLine := 1, endLine := 1, content := "def f(): pass" }

lemma fromZero_functionTree : (parsersFor functionTree).FromZero := by
  intro l bytes find h
  cases h
  exact fromZero_matchFinder (by decide)

/-- A store of one file with the given bytes. -/
def fileOf (bytes : List UInt8) : Store := { root := .dir [("a.py", .file ⟨bytes, 0⟩)] }

lemma read_fileOf (bytes : List UInt8) : (fileOf bytes).read ⟨"", ["a.py"]⟩ = .ok ⟨bytes, 0⟩ :=
  Store.read_of_stat (Store.stat_name rfl (by decide) (by decide) rfl)

lemma exists_functionModule (bytes : List UInt8) :
    ∃ m, readModule (parsersFor functionTree) (fileOf bytes) ⟨"", ["a.py"]⟩ .python = .ok m ∧
      m.path = ⟨"", ["a.py"]⟩ ∧ m.language = .python ∧ m.elements = [theFunction] := by
  have helements : (parsersFor functionTree).fileElements (fileOf bytes) ⟨"", ["a.py"]⟩ .python =
      .ok [theFunction] := by
    have hl : (parsersFor functionTree).supports .python := rfl
    rw [Parsers.fileElements, if_pos hl, read_fileOf]
    simp only [Parsers.elementsOf, if_pos hl]
    rfl
  rw [readModule, helements, ok_bind]
  split <;> exact ⟨_, rfl, rfl, rfl, rfl⟩

/-- The file was changed and analysed again, and has been left since then. -/
theorem chunks_after_calls_twice :
    let ps := parsersFor functionTree
    let calls : List Call := [.file ps (fileOf [35]) ⟨"", ["a.py"]⟩ .python,
      .file ps (fileOf []) ⟨"", ["a.py"]⟩ .python]
    let c : CodeChunk := ⟨"def f(): pass", ⟨"", ["a.py"]⟩, .python, 1, 1, "function"⟩
    ps.FromZero ∧ Unchanged calls (fileOf []) ∧
      ¬ SameFile (fileOf [35]) (fileOf []) ⟨"", ["a.py"]⟩ ∧
      (after calls).chunks = .ok [c] ∧
      ∀ a, (ofElements a ps (fileOf []) ⟨"", ["a.py"]⟩ .python).1 = [c] := by
  intro ps calls c
  obtain ⟨m₀, hm₀, -⟩ := exists_functionModule [35]
  obtain ⟨m, hm, hpath, hlanguage, helements⟩ := exists_functionModule []
  have hmodules : (after calls).modules = [("a.py", m)] := by
    rw [modules_after]
    change Analysis.keep (Analysis.keep [] ⟨ps, fileOf [35], ⟨"", ["a.py"]⟩, .python⟩)
      ⟨ps, fileOf [], ⟨"", ["a.py"]⟩, .python⟩ = _
    rw [Analysis.keep, Analysis.keep, Analysis.result, Analysis.result, hm₀, hm]
    rfl
  have hsame : Unchanged calls (fileOf []) := by
    rintro x ⟨-, before, later, hxs, hlater⟩
    have hxs : [⟨ps, fileOf [35], ⟨"", ["a.py"]⟩, .python⟩,
      ⟨ps, fileOf [], ⟨"", ["a.py"]⟩, .python⟩] = before ++ x :: later := hxs
    rcases before with _ | ⟨b, _ | ⟨b', before⟩⟩
    · -- the first analysis is not the latest
      obtain ⟨rfl, rfl⟩ := List.cons.inj hxs
      refine absurd ?_ (hlater _ (List.mem_singleton_self _) rfl)
      rw [Analysis.result, hm]
      rfl
    · obtain ⟨-, hxs⟩ := List.cons.inj hxs
      obtain ⟨rfl, -⟩ := List.cons.inj hxs
      rfl
    · simp at hxs
  have hchanged : ¬ SameFile (fileOf [35]) (fileOf []) ⟨"", ["a.py"]⟩ := by
    rw [SameFile, read_fileOf, read_fileOf]
    simp [Except.map, Content.toBytes]
  obtain ⟨cs, hcs, hparts, hagree⟩ := chunks_after_calls calls ps (fileOf [])
    (by simp [calls, Call.analyses]) fromZero_functionTree
  have hone : ∀ a, cs = (ofElements a ps (fileOf []) ⟨"", ["a.py"]⟩ .python).1 := by
    intro a
    rw [hagree hsame a, hmodules]
    simp [hpath, hlanguage]
  have hc : cs = [c] := by
    rw [hone {}, ofElements, analyzeFile, hm]
    dsimp only
    rw [ofModule, helements]
    rfl
  exact ⟨fromZero_functionTree, hsame, hchanged, hc ▸ hcs, fun a => (hone a).symm.trans hc⟩

end Analyzer

end Modules

end SpecScribe
