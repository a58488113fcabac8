import Mathlib
import SpecScribe.Processing.Basic
import SpecScribe.Proofs.Fault
import SpecScribe.Proofs.Generation.Batches
import SpecScribe.Proofs.Workspace.Scan

/-!
The tasks of a batch run side by side and share the processor and the progress. A task hands its
text over to be split and may then have to wait before it notes the result; what it will note is
settled by the text. So the tasks overlap, in any order. Whatever the order is, and however large
the batches are, the chunks of a directory are those of its files, one file after another.
-/

namespace SpecScribe.Processing

open Workspace Modules Chunk Processor

variable {s : Store} {mode : Mode}

/-! ### The tasks of a batch -/

/-- The task of a file: not begun, settled but not noted, or done. -/
inductive Task where
  | waiting (r : FileRequest)
  | settled (o : FileOutcome)
  | done (o : FileOutcome)

def Task.outcome? : Task → Option FileOutcome
  | .done o => some o
  | _ => none

/-- A batch at work: its tasks in order, and what they share. -/
structure Round where
  tasks : List Task
  progress : Progress
  processor : Processor

def Round.outcomes (r : Round) : List FileOutcome := r.tasks.filterMap Task.outcome?

/-- One of the tasks goes on. -/
inductive Step (s : Store) (mode : Mode) : Round → Round → Prop
  | settle (before after : List Task) (r : FileRequest) (progress : Progress) (p : Processor) :
    Step s mode ⟨before ++ .waiting r :: after, progress, p⟩
      ⟨before ++ .settled (p.processRequest s mode r).1 :: after, progress,
        (p.processRequest s mode r).2⟩
  | note (before after : List Task) (o : FileOutcome) (progress : Progress) (p : Processor) :
    Step s mode ⟨before ++ .settled o :: after, progress, p⟩
      ⟨before ++ .done o :: after, o.note progress, p⟩

/-- The tasks of a batch go on, in some order, until none can. -/
structure Completes (s : Store) (mode : Mode) (b : List FileRequest) (progress : Progress)
    (p : Processor) (r : Round) : Prop where
  run : Relation.ReflTransGen (Step s mode) ⟨b.map .waiting, progress, p⟩ r
  ended : ∀ r', ¬ Step s mode r r'

/-- Batch after batch, each with its tasks in some order. -/
inductive Runs (s : Store) (mode : Mode) : List (List FileRequest) → Progress → Processor →
    List CodeChunk → Progress → Processor → Prop
  | nil (progress : Progress) (p : Processor) : Runs s mode [] progress p [] progress p
  | cons {b : List FileRequest} {rest : List (List FileRequest)} {progress progress' : Progress}
      {p p' : Processor} {r : Round} {cs : List CodeChunk} (first : Completes s mode b progress p r)
      (others : Runs s mode rest (r.outcomes.foldl FileOutcome.noteLate r.progress) r.processor
        cs progress' p') :
    Runs s mode (b :: rest) progress p (r.outcomes.flatMap FileOutcome.chunks ++ cs) progress' p'

/-- What a directory may give: the tasks of each batch run in some order. -/
def Streams (p : Processor) (s : Store) (mode : Mode) (directory : Path)
    (result : Except Fault (List CodeChunk)) : Prop :=
  match p.scanner.scan s directory fun l => p.isWanted (some l) with
  | (.error f, _) => result = .error f
  | (.ok found, sc) => ∃ cs progress p', result = .ok cs ∧
      Runs s mode
        (Generation.batches p.batchSize.toNat
          (found.map fun (f : FoundFile) => .ok (f.path, f.language)))
        {} { p with scanner := sc } cs progress p'

/-- The chunks of the files that a scan finds, each file on its own. -/
def fileByFile (p : Processor) (s : Store) (mode : Mode) (directory : Path) :
    Except Fault (List CodeChunk) := do
  let found ← (p.scanner.scan s directory fun l => p.isWanted (some l)).1
  let chunks ← found.mapM fun f => (p.processSingle s mode f.path).1
  return chunks.flatten

/-! ### What becomes of a file does not depend on the others -/

/-- Two processors that differ at most in what they have seen and in the size of a batch. -/
structure SameTools (p q : Processor) : Prop where
  splitters : q.splitters = p.splitters
  parsers : q.parsers = p.parsers

lemma SameTools.refl (p : Processor) : SameTools p p := ⟨rfl, rfl⟩

lemma SameTools.trans {p q r : Processor} (h : SameTools p q) (h' : SameTools q r) :
    SameTools p r :=
  ⟨h'.splitters.trans h.splitters, h'.parsers.trans h.parsers⟩

lemma ofElements_chunks (a a' : Analyzer) (ps : Syntax.Parsers) (s : Store) (path : Path)
    (l : Language) : (ofElements a ps s path l).1 = (ofElements a' ps s path l).1 := by
  unfold ofElements Analyzer.analyzeFile
  rcases readModule ps s path l with f | m <;> rfl

lemma processFile_sameTools (p : Processor) (s : Store) (mode : Mode) (path : Path)
    (l : Language) : SameTools p (p.processFile s mode path l).2 := by
  unfold processFile
  dsimp only
  split
  · exact .refl p
  · split
    · exact .refl p
    split
    · exact ⟨rfl, rfl⟩
    · exact .refl p
  · exact .refl p

lemma processFile_outcome {p q : Processor} (h : SameTools p q) (s : Store) (mode : Mode)
    (path : Path) (l : Language) :
    (q.processFile s mode path l).1 = (p.processFile s mode path l).1 := by
  unfold processFile
  dsimp only
  split
  · rfl
  · split
    · rfl
    split
    · simp only [h.parsers, ofElements_chunks q.analyzer p.analyzer]
    · rw [h.splitters]
  · rfl

lemma processRequest_sameTools (p : Processor) (s : Store) (mode : Mode) (r : FileRequest) :
    SameTools p (p.processRequest s mode r).2 := by
  rcases r with f | ⟨path, l⟩
  · exact .refl p
  · exact processFile_sameTools p s mode path l

lemma processRequest_outcome {p q : Processor} (h : SameTools p q) (s : Store) (mode : Mode)
    (r : FileRequest) : (q.processRequest s mode r).1 = (p.processRequest s mode r).1 := by
  rcases r with f | ⟨path, l⟩
  · rfl
  · exact processFile_outcome h s mode path l

/-! ### Every order gives the same outcomes -/

/-- How far the task of a request may have come. -/
inductive Follows (p : Processor) (s : Store) (mode : Mode) (r : FileRequest) : Task → Prop
  | waiting : Follows p s mode r (.waiting r)
  | settled : Follows p s mode r (.settled (p.processRequest s mode r).1)
  | done : Follows p s mode r (.done (p.processRequest s mode r).1)

/-- The tasks are those of the batch, in its order, and only what was seen has changed. -/
structure Keeps (p : Processor) (s : Store) (mode : Mode) (b : List FileRequest) (r : Round) :
    Prop where
  tasks : List.Forall₂ (Follows p s mode) b r.tasks
  tools : SameTools p r.processor

lemma forall₂_replace {α β : Type} {R : α → β → Prop} {t t' : β} (h : ∀ a, R a t → R a t')
    {as : List α} {before after : List β} (hall : List.Forall₂ R as (before ++ t :: after)) :
    List.Forall₂ R as (before ++ t' :: after) := by
  induction before generalizing as with
  | nil =>
    obtain ⟨a, as, ha, hrest, rfl⟩ := List.forall₂_cons_right_iff.mp hall
    exact .cons (h a ha) hrest
  | cons b before ih =>
    obtain ⟨a, as, ha, hrest, rfl⟩ := List.forall₂_cons_right_iff.mp hall
    exact .cons ha (ih hrest)

lemma Keeps.step {p : Processor} {b : List FileRequest} {r r' : Round} (h : Keeps p s mode b r)
    (hstep : Step s mode r r') : Keeps p s mode b r' := by
  cases hstep with
  | settle before after request progress q =>
    refine ⟨forall₂_replace ?_ h.tasks, h.tools.trans (processRequest_sameTools q s mode request)⟩
    -- the outcome is that of the processor at the start, whatever this one has seen
    rw [processRequest_outcome h.tools]
    rintro _ ⟨⟩
    exact .settled
  | note before after o progress q =>
    refine ⟨forall₂_replace ?_ h.tasks, h.tools⟩
    rintro _ ⟨⟩
    exact .done

lemma Keeps.run {p : Processor} {b : List FileRequest} {r r' : Round} (h : Keeps p s mode b r)
    (hrun : Relation.ReflTransGen (Step s mode) r r') : Keeps p s mode b r' := by
  induction hrun with
  | refl => exact h
  | tail _ hstep ih => exact ih.step hstep

lemma keeps_start {p q : Processor} (h : SameTools p q) (b : List FileRequest)
    (progress : Progress) : Keeps p s mode b ⟨b.map .waiting, progress, q⟩ := by
  refine ⟨?_, h⟩
  induction b with
  | nil => exact .nil
  | cons r b ih => exact .cons .waiting ih

/-- Nothing can go on exactly when all tasks are done. -/
lemma ended_iff {r : Round} :
    (∀ r', ¬ Step s mode r r') ↔ ∀ t ∈ r.tasks, ∃ o, t = .done o := by
  obtain ⟨tasks, progress, p⟩ := r
  constructor
  · intro hend t ht
    obtain ⟨before, after, rfl⟩ := List.append_of_mem ht
    cases t with
    | waiting request => exact absurd (.settle before after request progress p) (hend _)
    | settled o => exact absurd (.note before after o progress p) (hend _)
    | done o => exact ⟨o, rfl⟩
  · rintro hdone r' (⟨before, after, request⟩ | ⟨before, after, o⟩)
    · obtain ⟨o, ho⟩ := hdone (.waiting request) (by simp)
      cases ho
    · obtain ⟨o', ho⟩ := hdone (.settled o) (by simp)
      cases ho

lemma Keeps.outcomes {p : Processor} {b : List FileRequest} {r : Round}
    (h : Keeps p s mode b r) (hdone : ∀ t ∈ r.tasks, ∃ o, t = .done o) :
    r.outcomes = b.map fun request => (p.processRequest s mode request).1 := by
  obtain ⟨tasks, progress, q⟩ := r
  have htasks : List.Forall₂ (Follows p s mode) b tasks := h.tasks
  clear h
  induction htasks with
  | nil => rfl
  | @cons request t b tasks hfirst _ ih =>
    obtain ⟨o, rfl⟩ := hdone t List.mem_cons_self
    cases hfirst
    have hrest := ih fun t ht => hdone t (List.mem_cons_of_mem _ ht)
    simpa [Round.outcomes, Task.outcome?] using hrest

lemma Completes.outcomes {p q : Processor} {b : List FileRequest} {progress : Progress}
    {r : Round} (h : Completes s mode b progress q r) (htools : SameTools p q) :
    SameTools p r.processor ∧
      r.outcomes = b.map fun request => (p.processRequest s mode request).1 := by
  have hkeeps := (keeps_start htools b progress).run h.run
  exact ⟨hkeeps.tools, hkeeps.outcomes (ended_iff.mp h.ended)⟩

/-- Over all batches: by induction on the run, batch by batch. -/
lemma Runs.chunks {p q q' : Processor} {bs : List (List FileRequest)}
    {progress progress' : Progress} {cs : List CodeChunk}
    (h : Runs s mode bs progress q cs progress' q') (htools : SameTools p q) :
    cs = bs.flatten.flatMap fun request => (p.processRequest s mode request).1.chunks := by
  induction h with
  | nil => rfl
  | cons first others ih =>
    obtain ⟨htools', houtcomes⟩ := first.outcomes htools
    rw [ih htools', houtcomes, List.flatten_cons, List.flatMap_append, List.flatMap_map]

/-! ### The tasks one after another -/

/-- The tasks of a batch may run in its order: by induction on the tasks that have not begun,
behind those that are done. -/
lemma processBatch_run (b : List FileRequest) (ds : List FileOutcome) (progress : Progress)
    (p : Processor) :
    Relation.ReflTransGen (Step s mode) ⟨ds.map .done ++ b.map .waiting, progress, p⟩
      ⟨(ds ++ (processBatch s mode b p).1).map .done,
        (processBatch s mode b p).1.foldl FileOutcome.note progress,
        (processBatch s mode b p).2⟩ := by
  induction b generalizing ds progress p with
  | nil => simpa [processBatch] using Relation.ReflTransGen.refl
  | cons request b ih =>
    set o := (p.processRequest s mode request).1 with ho
    set p' := (p.processRequest s mode request).2 with hp'
    have hfirst : Step s mode _ _ := .settle (ds.map .done) (b.map .waiting) request progress p
    have hsecond : Step s mode _ _ := .note (ds.map .done) (b.map .waiting) o progress p'
    have hrest := ih (ds ++ [o]) (o.note progress) p'
    simp only [List.map_append, List.map_cons, List.map_nil, List.append_assoc,
      List.cons_append, List.nil_append] at hrest
    refine .head hfirst (.head hsecond ?_)
    simpa [processBatch, ← ho, ← hp'] using hrest

lemma processBatch_completes (b : List FileRequest) (progress : Progress) (p : Processor) :
    Completes s mode b progress p
      ⟨(processBatch s mode b p).1.map .done,
        (processBatch s mode b p).1.foldl FileOutcome.note progress,
        (processBatch s mode b p).2⟩ where
  run := by simpa using processBatch_run b [] progress p
  ended := by
    rw [ended_iff]
    intro t ht
    obtain ⟨o, -, rfl⟩ := List.mem_map.mp ht
    exact ⟨o, rfl⟩

lemma processBatches_runs (bs : List (List FileRequest)) (progress : Progress) (p : Processor) :
    Runs s mode bs progress p (processBatches s mode bs progress p).1
      (processBatches s mode bs progress p).2.1 (processBatches s mode bs progress p).2.2 := by
  induction bs generalizing progress p with
  | nil => exact .nil progress p
  | cons b bs ih =>
    have hfirst : Completes s mode b progress p _ := processBatch_completes b progress p
    have houtcomes : ∀ os : List FileOutcome, (os.map Task.done).filterMap Task.outcome? = os := by
      intro os
      rw [List.filterMap_map]
      exact List.filterMap_some
    have hrun := Runs.cons hfirst (ih _ _)
    simp only [Round.outcomes, houtcomes] at hrun
    exact hrun

/-- The program's own run is one of those that may be. -/
lemma processRepository_streams (p : Processor) (s : Store) (mode : Mode) (directory : Path) :
    Streams p s mode directory (p.processRepository s mode directory).1 := by
  unfold Streams processRepository
  rcases p.scanner.scan s directory fun l => p.isWanted (some l) with ⟨f | found, sc⟩
  · rfl
  · exact ⟨_, _, _, rfl, processBatches_runs _ _ _⟩

/-! ### File by file -/

/-- A found file is processed on its own as in the run over its directory. -/
lemma processSingle_of_fits {p : Processor} {f : FoundFile}
    (h : Scanner.Fits s (fun l => p.isWanted (some l)) f) :
    (p.processSingle s mode f.path).1 = .ok (p.processFile s mode f.path f.language).1.chunks := by
  have hlanguage : p.fileLanguage? s f.path = .ok (some f.language) := by
    unfold fileLanguage?
    simp only [h.language, h.wanted]
    rfl
  unfold processSingle
  rw [hlanguage]

lemma fileByFile_of_fault {p : Processor} {directory : Path} {f : Fault}
    (h : (p.scanner.scan s directory fun l => p.isWanted (some l)).1 = .error f) :
    fileByFile p s mode directory = .error f := by
  rw [fileByFile, h]
  rfl

lemma fileByFile_of_scan {p : Processor} {directory : Path} {found : List FoundFile}
    (h : (p.scanner.scan s directory fun l => p.isWanted (some l)).1 = .ok found) :
    fileByFile p s mode directory =
      .ok (found.flatMap fun f => (p.processFile s mode f.path f.language).1.chunks) := by
  have hmap : found.mapM (fun f => (p.processSingle s mode f.path).1) =
      .ok (found.map fun f => (p.processFile s mode f.path f.language).1.chunks) :=
    mapM_eq_ok_map fun f hf => processSingle_of_fits (Scanner.scan_fits h f hf)
  have hbind : fileByFile p s mode directory =
      (found.mapM fun f => (p.processSingle s mode f.path).1).map List.flatten := by
    rw [fileByFile, h]
    rfl
  rw [hbind, hmap, List.flatMap_def]
  rfl

lemma Streams.eq_fileByFile {p : Processor} {directory : Path}
    {result : Except Fault (List CodeChunk)} (h : Streams p s mode directory result) :
    result = fileByFile p s mode directory := by
  rw [Streams] at h
  rcases hscan : p.scanner.scan s directory fun l => p.isWanted (some l) with ⟨f | found, sc⟩ <;>
    rw [hscan] at h
  · rw [h, fileByFile_of_fault (congrArg Prod.fst hscan)]
  · obtain ⟨cs, progress, p', rfl, hruns⟩ := h
    have htools : SameTools p { p with scanner := sc } := ⟨rfl, rfl⟩
    rw [fileByFile_of_scan (congrArg Prod.fst hscan), hruns.chunks htools,
      Generation.flatten_batches, List.flatMap_map]
    rfl

/-- The size of a batch plays no part for a file on its own. -/
lemma fileByFile_batchSize (p : Processor) (s : Store) (mode : Mode) (directory : Path) (n : ℤ) :
    fileByFile { p with batchSize := n } s mode directory = fileByFile p s mode directory := by
  have htools : SameTools p { p with batchSize := n } := ⟨rfl, rfl⟩
  rcases hscan : (p.scanner.scan s directory fun l => p.isWanted (some l)).1 with f | found
  · rw [fileByFile_of_fault hscan, fileByFile_of_fault (p := { p with batchSize := n }) hscan]
  · rw [fileByFile_of_scan hscan, fileByFile_of_scan (p := { p with batchSize := n }) hscan]
    simp only [processFile_outcome htools]

/-- **The chunks of a directory are those of its files, one file after another**, in the order of
the scan. Neither the order in which the tasks of a batch go on nor the number of tasks that run
side by side changes them. -/
theorem stream_eq_fileByFile (p : Processor) (s : Store) (mode : Mode) (directory : Path)
    (parallel : ℤ) :
    let q := { p with batchSize := batchSizeOf parallel }
    (q.processRepository s mode directory).1 = fileByFile p s mode directory ∧
      ∀ result, Streams q s mode directory result ↔ result = fileByFile p s mode directory := by
  intro q
  have hsize : fileByFile q s mode directory = fileByFile p s mode directory :=
    fileByFile_batchSize p s mode directory _
  have hown : Streams q s mode directory (q.processRepository s mode directory).1 :=
    processRepository_streams q s mode directory
  have hvalue := hown.eq_fileByFile.trans hsize
  refine ⟨hvalue, fun result => ⟨fun h => h.eq_fileByFile.trans hsize, ?_⟩⟩
  rintro rfl
  exact hvalue ▸ hown

end SpecScribe.Processing
