import Mathlib
import SpecScribe.Proofs.Processing.Interleaving
import SpecScribe.Proofs.Workspace.Reading

/-!
What is counted while files are processed. The tasks of a batch note their results in any order, and
the splitters may answer differently from one moment to the next. Whatever happens, the counts are
those of the files: in the end each file is processed, has failed or is too large, and the totals
are sums over the processed ones.
-/

namespace SpecScribe.Processing

open Workspace Chunk Processor

variable {s : Store} {mode : Mode}

/-! ### Working files off -/

/-- One of the tasks goes on, or the splitters change what they answer. -/
inductive Move (s : Store) (mode : Mode) : Round → Round → Prop
  | task {r r' : Round} (step : Step s mode r r') : Move s mode r r'
  | splitters (r : Round) (sp : Splitters) :
    Move s mode r { r with processor := { r.processor with splitters := sp } }

/-- Batch after batch, each until none of its tasks can go on. -/
inductive WorksOff (s : Store) (mode : Mode) : List (List FileRequest) → Progress → Processor →
    List CodeChunk → Progress → Prop
  | nil (progress : Progress) (p : Processor) : WorksOff s mode [] progress p [] progress
  | cons {b : List FileRequest} {rest : List (List FileRequest)} {progress progress' : Progress}
      {p : Processor} {r : Round} {cs : List CodeChunk}
      (run : Relation.ReflTransGen (Move s mode) ⟨b.map .waiting, progress, p⟩ r)
      (ended : ∀ r', ¬ Step s mode r r')
      (others : WorksOff s mode rest (r.outcomes.foldl FileOutcome.noteLate r.progress)
        r.processor cs progress') :
    WorksOff s mode (b :: rest) progress p (r.outcomes.flatMap FileOutcome.chunks ++ cs) progress'

/-- With splitters that do not change, files are worked off as well. -/
lemma Runs.worksOff {bs : List (List FileRequest)} {progress progress' : Progress}
    {p p' : Processor} {cs : List CodeChunk} (h : Runs s mode bs progress p cs progress' p') :
    WorksOff s mode bs progress p cs progress' := by
  induction h with
  | nil progress p => exact .nil progress p
  | cons first _ ih =>
    have hrun := Relation.ReflTransGen.mono (fun _ _ => Move.task) _ _ first.run
    exact .cons hrun first.ended ih

/-! ### What becomes of a file -/

/-- The file is larger than those that are processed. -/
def TooLarge (s : Store) (path : Path) : Prop :=
  ∃ c, s.stat path = .ok (.file c) ∧ 50 * 1024 * 1024 < c.size

/-- The file is there and not too large. -/
def Workable (s : Store) (path : Path) : Prop :=
  ∃ c, s.stat path = .ok (.file c) ∧ c.size ≤ 50 * 1024 * 1024

/-- The number of lines of a file: one more than it has line breaks. -/
def lineCount (s : Store) (path : Path) : ℕ :=
  match s.readText path with
  | .ok text => text.count '\n' + 1
  | .error _ => 0

/-- What may become of a file. Neither the splitters nor other files decide between the cases. -/
inductive Becomes (s : Store) (f : Path × Language) : FileOutcome → Prop
  | skipped (large : TooLarge s f.1) : Becomes s f .skipped
  | processed (cs : List CodeChunk) (workable : Workable s f.1) :
    Becomes s f (.processed f.1.toString (lineCount s f.1) cs)
  | failed (message : String) (other : ¬ Workable s f.1) (small : ¬ TooLarge s f.1) :
    Becomes s f (.failed f.1.toString message)

lemma Workable.not_tooLarge {path : Path} (h : Workable s path) : ¬ TooLarge s path := by
  obtain ⟨c, hc, hsize⟩ := h
  rintro ⟨c', hc', hlarge⟩
  cases hc.symm.trans hc'
  omega

lemma lineCount_eq {path : Path} {c : Content} (h : s.stat path = .ok (.file c)) :
    lineCount s path = (Text.unifyBreaks (decodeAny c.toBytes)).count '\n' + 1 := by
  rw [lineCount, Store.readText_of_read (Store.read_of_stat h)]
  split_ifs with hcut
  · -- a cut mark is lost, but there is no line break in it
    obtain ⟨-, hbreaks⟩ := Encoding.decodeAny_of_isCutMark hcut
    have hnone : '\n' ∉ decodeAny c.toBytes := fun hmem => (hbreaks _ hmem).1 rfl
    rw [Text.unifyBreaks_eq_self fun hmem => (hbreaks _ hmem).2 rfl,
      List.count_eq_zero_of_not_mem hnone]
    rfl
  · rfl

lemma becomes_of_noFile {f : Path × Language} (h : ∀ c, s.stat f.1 ≠ .ok (.file c))
    (message : String) : Becomes s f (.failed f.1.toString message) :=
  .failed message (fun ⟨c, hc, _⟩ => h c hc) fun ⟨c, hc, _⟩ => h c hc

lemma processFile_becomes (p : Processor) (s : Store) (mode : Mode) (f : Path × Language) :
    Becomes s f (p.processFile s mode f.1 f.2).1 := by
  unfold processFile
  dsimp only
  split
  · rename_i fault hstat
    exact becomes_of_noFile (by simp [hstat]) _
  · rename_i c hstat
    split
    · rename_i hlarge
      exact .skipped ⟨c, hstat, hlarge⟩
    · rename_i hsmall
      have hworkable : Workable s f.1 := ⟨c, hstat, not_lt.mp hsmall⟩
      rw [← lineCount_eq hstat]
      split <;> exact .processed _ hworkable
  · rename_i e hfile hstat
    exact becomes_of_noFile (fun c hc => hfile c (Except.ok.inj (hstat.symm.trans hc))) _

/-! ### What is noted -/

namespace FileOutcome

/-- The name of a file that was processed. -/
def processedName : FileOutcome → List String
  | .processed name _ _ => [name]
  | _ => []

/-- The name of a file that failed. -/
def failedName : FileOutcome → List String
  | .failed name _ => [name]
  | _ => []

/-- The lines of a file that was processed. -/
def lines : FileOutcome → ℕ
  | .processed _ n _ => n
  | _ => 0

end FileOutcome

/-- What some outcomes add to a progress. -/
structure Adds (before : Progress) (os : List FileOutcome) (after : Progress) : Prop where
  files : after.stats.files = before.stats.files + (os.flatMap FileOutcome.processedName).length
  lines : after.stats.lines = before.stats.lines + (os.map FileOutcome.lines).sum
  chunks : after.stats.chunks = before.stats.chunks + (os.flatMap FileOutcome.chunks).length
  processed : after.processed = before.processed ++ os.flatMap FileOutcome.processedName
  failed : after.failed = before.failed ++ os.flatMap FileOutcome.failedName

lemma addName_of_notMem {name : String} {names : List String} (h : name ∉ names) :
    Progress.addName name names = names ++ [name] := by
  simp [Progress.addName, h]

lemma Adds.trans {p q r : Progress} {os os' : List FileOutcome} (h : Adds p os q)
    (h' : Adds q os' r) : Adds p (os ++ os') r where
  files := by rw [h'.files, h.files, List.flatMap_append, List.length_append]; push_cast; ring
  lines := by rw [h'.lines, h.lines, List.map_append, List.sum_append]; push_cast; ring
  chunks := by rw [h'.chunks, h.chunks, List.flatMap_append, List.length_append]; push_cast; ring
  processed := by rw [h'.processed, h.processed, List.flatMap_append, List.append_assoc]
  failed := by rw [h'.failed, h.failed, List.flatMap_append, List.append_assoc]

/-- A name that is not there yet is added. -/
lemma adds_note {p : Progress} {o : FileOutcome}
    (hprocessed : ∀ n ∈ o.processedName, n ∉ p.processed)
    (hfailed : ∀ n ∈ o.failedName, n ∉ p.failed) : Adds p [o] (o.note p) := by
  cases o with
  | skipped | rejected _ =>
    constructor <;> simp [FileOutcome.note, FileOutcome.processedName, FileOutcome.failedName,
      FileOutcome.lines, FileOutcome.chunks]
  | processed name n cs =>
    have hname := addName_of_notMem (hprocessed name (List.mem_singleton_self _))
    constructor <;> simp [FileOutcome.note, Progress.update, FileOutcome.processedName,
      FileOutcome.failedName, FileOutcome.lines, FileOutcome.chunks, hname]
  | failed name message =>
    have hname := addName_of_notMem (hfailed name (List.mem_singleton_self _))
    constructor <;> simp [FileOutcome.note, Progress.update, FileOutcome.processedName,
      FileOutcome.failedName, FileOutcome.lines, FileOutcome.chunks, hname]

/-- Where no name comes twice, all names are added. -/
lemma adds_foldl_note {p : Progress} {os : List FileOutcome}
    (hprocessed : (p.processed ++ os.flatMap FileOutcome.processedName).Nodup)
    (hfailed : (p.failed ++ os.flatMap FileOutcome.failedName).Nodup) :
    Adds p os (os.foldl FileOutcome.note p) := by
  induction os generalizing p with
  | nil => constructor <;> simp
  | cons o os ih =>
    rw [List.flatMap_cons, ← List.append_assoc] at hprocessed hfailed
    have hfirst : Adds p [o] (o.note p) := by
      refine adds_note (fun n hn hmem => ?_) fun n hn hmem => ?_
      · exact List.disjoint_of_nodup_append hprocessed.of_append_left hmem hn
      · exact List.disjoint_of_nodup_append hfailed.of_append_left hmem hn
    have hrest : Adds (o.note p) os (os.foldl FileOutcome.note (o.note p)) := by
      refine ih ?_ ?_
      · simpa [hfirst.processed] using hprocessed
      · simpa [hfirst.failed] using hfailed
    exact hfirst.trans hrest

/-! ### The tasks of a batch -/

/-- The task of a file, whatever has become of it. -/
inductive TaskOf (s : Store) (f : Path × Language) : Task → Prop
  | waiting : TaskOf s f (.waiting (.ok f))
  | settled {o : FileOutcome} (becomes : Becomes s f o) : TaskOf s f (.settled o)
  | done {o : FileOutcome} (becomes : Becomes s f o) : TaskOf s f (.done o)

/-- The tasks are those of the files, and what the finished ones gave was noted in some order. -/
structure Booked (s : Store) (fs : List (Path × Language)) (before : Progress) (r : Round) :
    Prop where
  tasks : List.Forall₂ (TaskOf s) fs r.tasks
  noted : ∃ os : List FileOutcome,
    os.Perm r.outcomes ∧ r.progress = os.foldl FileOutcome.note before

variable {fs : List (Path × Language)} {before : Progress} {r r' : Round}

lemma booked_start (fs : List (Path × Language)) (before : Progress) (p : Processor) :
    Booked s fs before ⟨(fs.map .ok).map .waiting, before, p⟩ := by
  refine ⟨?_, [], ?_, rfl⟩
  · rw [List.forall₂_map_right_iff, List.forall₂_map_right_iff, List.forall₂_same]
    exact fun _ _ => .waiting
  · simp [Round.outcomes, Task.outcome?]

/-- A task that is not done has no outcome yet. -/
lemma filterMap_unfinished {t : Task} (ht : t.outcome? = none) (left right : List Task) :
    (left ++ t :: right).filterMap Task.outcome? = (left ++ right).filterMap Task.outcome? := by
  rw [List.filterMap_append, List.filterMap_cons_none ht, List.filterMap_append]

lemma filterMap_finished (o : FileOutcome) (left right : List Task) :
    (left ++ .done o :: right).filterMap Task.outcome? =
      left.filterMap Task.outcome? ++ o :: right.filterMap Task.outcome? := by
  rw [List.filterMap_append]
  rfl

lemma Booked.step (h : Booked s fs before r) (hstep : Step s mode r r') :
    Booked s fs before r' := by
  obtain ⟨htasks, os, hperm, hprogress⟩ := h
  cases hstep with
  | settle left right request progress p =>
    refine ⟨forall₂_replace ?_ htasks, os, ?_, hprogress⟩
    · rintro f ⟨⟩
      exact .settled (processFile_becomes p s mode f)
    · rw [Round.outcomes, filterMap_unfinished rfl] at hperm ⊢
      exact hperm
  | note left right o progress p =>
    refine ⟨forall₂_replace ?_ htasks, os ++ [o], ?_, ?_⟩
    · rintro f (_ | hf)
      exact .done hf
    · -- the outcome stands in the middle of the others, but was noted last
      rw [Round.outcomes, filterMap_unfinished rfl, List.filterMap_append] at hperm
      rw [Round.outcomes, filterMap_finished]
      refine (hperm.append_right [o]).trans ?_
      rw [List.append_assoc]
      exact (List.perm_append_singleton o _).append_left _
    · rw [List.foldl_append, ← hprogress]
      rfl

lemma Booked.move (h : Booked s fs before r) (hmove : Move s mode r r') :
    Booked s fs before r' := by
  cases hmove with
  | task hstep => exact h.step hstep
  | splitters => exact ⟨h.tasks, h.noted⟩

lemma Booked.run (h : Booked s fs before r) (hrun : Relation.ReflTransGen (Move s mode) r r') :
    Booked s fs before r' := by
  induction hrun with
  | refl => exact h
  | tail _ hmove ih => exact ih.move hmove

/-- When all tasks are done, there is one outcome for each file. -/
lemma Booked.outcomes (h : Booked s fs before r) (hdone : ∀ t ∈ r.tasks, ∃ o, t = .done o) :
    List.Forall₂ (Becomes s) fs r.outcomes := by
  obtain ⟨tasks, progress, p⟩ := r
  have htasks : List.Forall₂ (TaskOf s) fs tasks := h.tasks
  clear h
  induction htasks with
  | nil => exact .nil
  | @cons f t fs tasks hfirst _ ih =>
    obtain ⟨o, rfl⟩ := hdone t List.mem_cons_self
    obtain _ | _ | hbecomes := hfirst
    exact .cons hbecomes (ih fun t ht => hdone t (List.mem_cons_of_mem _ ht))

/-- Nothing is left to note when the batch is done. -/
lemma foldl_noteLate {os : List FileOutcome} (h : List.Forall₂ (Becomes s) fs os) (p : Progress) :
    os.foldl FileOutcome.noteLate p = p := by
  induction h with
  | nil => rfl
  | cons hfirst _ ih => cases hfirst <;> exact ih

/-- Over all batches: by induction on the run, batch by batch. -/
lemma WorksOff.booked {bs : List (List FileRequest)} {p : Processor} {after : Progress}
    {cs : List CodeChunk} (h : WorksOff s mode bs before p cs after)
    (hfs : bs.flatten = fs.map .ok) :
    ∃ outcomes noted : List FileOutcome, List.Forall₂ (Becomes s) fs outcomes ∧
      noted.Perm outcomes ∧ cs = outcomes.flatMap FileOutcome.chunks ∧
      after = noted.foldl FileOutcome.note before := by
  induction h generalizing fs with
  | nil =>
    obtain rfl : fs = [] := by simpa using hfs.symm
    exact ⟨[], [], .nil, .refl _, rfl, rfl⟩
  | @cons b rest before after p r cs hrun hended _ ih =>
    rw [List.flatten_cons] at hfs
    obtain ⟨fs₁, fs₂, rfl, hb, hrest⟩ := List.map_eq_append_iff.mp hfs.symm
    subst hb
    have hbooked := (booked_start fs₁ before p).run hrun
    have hfirst := hbooked.outcomes (ended_iff.mp hended)
    obtain ⟨noted₁, hperm₁, hprogress⟩ := hbooked.noted
    obtain ⟨outcomes₂, noted₂, hsecond, hperm₂, rfl, rfl⟩ := ih hrest.symm
    refine ⟨r.outcomes ++ outcomes₂, noted₁ ++ noted₂, List.rel_append hfirst hsecond,
      hperm₁.append hperm₂, by rw [List.flatMap_append], ?_⟩
    rw [foldl_noteLate hfirst, hprogress, List.foldl_append]

/-! ### The totals -/

/-- The name under which a file is noted. -/
def fileName (f : Path × Language) : String := f.1.toString

/-- The progress of a run accounts for the files that it was given and the chunks that it gave. -/
structure AddsUp (s : Store) (fs : List (Path × Language)) (cs : List CodeChunk)
    (progress : Progress) : Prop where
  chunks : progress.stats.chunks = cs.length
  files : progress.stats.files = progress.processed.toFinset.card
  known : progress.processed ⊆ fs.map fileName
  lines : progress.stats.lines =
    ((fs.filter (fileName · ∈ progress.processed)).map fun f => lineCount s f.1).sum
  disjoint : progress.processed.Disjoint progress.failed
  processed : ∀ f ∈ fs, fileName f ∈ progress.processed ↔ Workable s f.1
  neither : ∀ f ∈ fs,
    (fileName f ∉ progress.processed ∧ fileName f ∉ progress.failed) ↔ TooLarge s f.1

/-- The files of one kind, and no others, have their name picked. -/
def Picks (s : Store) (pick : FileOutcome → List String) (kind : Path → Prop) : Prop :=
  ∀ f o, Becomes s f o → kind f.1 ∧ pick o = [fileName f] ∨ ¬ kind f.1 ∧ pick o = []

lemma picks_processedName : Picks s FileOutcome.processedName (Workable s) := by
  intro f o hbecomes
  cases hbecomes with
  | skipped hlarge => exact .inr ⟨fun hf => hf.not_tooLarge hlarge, rfl⟩
  | processed cs hworkable => exact .inl ⟨hworkable, rfl⟩
  | failed message hother => exact .inr ⟨hother, rfl⟩

lemma picks_failedName :
    Picks s FileOutcome.failedName fun path => ¬ Workable s path ∧ ¬ TooLarge s path := by
  intro f o hbecomes
  cases hbecomes with
  | skipped hlarge => exact .inr ⟨fun hf => hf.2 hlarge, rfl⟩
  | processed cs hworkable => exact .inr ⟨fun hf => hf.1 hworkable, rfl⟩
  | failed message hother hsmall => exact .inl ⟨⟨hother, hsmall⟩, rfl⟩

section Totals

variable {os : List FileOutcome} {pick : FileOutcome → List String} {kind : Path → Prop}

lemma Picks.sublist (hpick : Picks s pick kind) (h : List.Forall₂ (Becomes s) fs os) :
    (os.flatMap pick).Sublist (fs.map fileName) := by
  induction h with
  | nil => exact .slnil
  | cons hfirst _ ih =>
    rw [List.flatMap_cons]
    rcases hpick _ _ hfirst with ⟨-, hname⟩ | ⟨-, hname⟩ <;> rw [hname]
    · exact ih.cons_cons _
    · exact ih.cons _

/-- The names are different, so a name stands for one file. -/
lemma Picks.mem_iff (hpick : Picks s pick kind) (h : List.Forall₂ (Becomes s) fs os)
    (hdistinct : (fs.map fileName).Nodup) {f : Path × Language} (hf : f ∈ fs) :
    fileName f ∈ os.flatMap pick ↔ kind f.1 := by
  rw [List.mem_flatMap]
  constructor
  · rintro ⟨o, ho, hname⟩
    obtain ⟨g, hg, hbecomes⟩ := exists_left_of_mem h ho
    rcases hpick g o hbecomes with ⟨hkind, hpicked⟩ | ⟨-, hpicked⟩ <;> rw [hpicked] at hname
    · have hsame := List.inj_on_of_nodup_map hdistinct hf hg (List.mem_singleton.mp hname)
      exact hsame ▸ hkind
    · cases hname
  · intro hkind
    obtain ⟨o, ho, hbecomes⟩ := exists_right_of_mem h hf
    rcases hpick f o hbecomes with ⟨-, hpicked⟩ | ⟨hnot, -⟩
    · exact ⟨o, ho, hpicked ▸ List.mem_singleton_self _⟩
    · exact absurd hkind hnot

/-- Only the files that can be processed have lines that count. -/
lemma sum_lines (h : List.Forall₂ (Becomes s) fs os) {names : List String}
    (hnames : ∀ f ∈ fs, fileName f ∈ names ↔ Workable s f.1) :
    (os.map FileOutcome.lines).sum =
      ((fs.filter (fileName · ∈ names)).map fun f => lineCount s f.1).sum := by
  induction h with
  | nil => rfl
  | cons hfirst _ ih =>
    rw [List.forall_mem_cons] at hnames
    obtain ⟨hname, hrest⟩ := hnames
    rw [List.map_cons, List.sum_cons, ih hrest, List.filter_cons]
    cases hfirst with
    | processed cs hworkable =>
      rw [if_pos (by simpa using hname.mpr hworkable)]
      rfl
    | skipped hlarge =>
      have hnot := fun hmem => (hname.mp hmem).not_tooLarge hlarge
      rw [if_neg (by simpa using hnot)]
      exact zero_add _
    | failed message hother =>
      have hnot := fun hmem => hother (hname.mp hmem)
      rw [if_neg (by simpa using hnot)]
      exact zero_add _

/-- The outcomes of files with different names, noted in any order, add up. -/
lemma addsUp_of_noted (h : List.Forall₂ (Becomes s) fs os) (hdistinct : (fs.map fileName).Nodup)
    {noted : List FileOutcome} (hperm : noted.Perm os) :
    AddsUp s fs (os.flatMap FileOutcome.chunks) (noted.foldl FileOutcome.note {}) := by
  have hprocessed := hperm.flatMap_right FileOutcome.processedName
  have hfailed := hperm.flatMap_right FileOutcome.failedName
  have hnodup : (noted.flatMap FileOutcome.processedName).Nodup :=
    hprocessed.nodup_iff.mpr ((picks_processedName.sublist h).nodup hdistinct)
  have hadds : Adds {} noted (noted.foldl FileOutcome.note {}) :=
    adds_foldl_note hnodup (hfailed.nodup_iff.mpr ((picks_failedName.sublist h).nodup hdistinct))
  set progress := noted.foldl FileOutcome.note {}
  have hworkable : ∀ f ∈ fs, fileName f ∈ progress.processed ↔ Workable s f.1 := by
    intro f hf
    rw [hadds.processed, List.nil_append, hprocessed.mem_iff,
      picks_processedName.mem_iff h hdistinct hf]
  have hbroken : ∀ f ∈ fs, fileName f ∈ progress.failed ↔ ¬ Workable s f.1 ∧ ¬ TooLarge s f.1 := by
    intro f hf
    rw [hadds.failed, List.nil_append, hfailed.mem_iff, picks_failedName.mem_iff h hdistinct hf]
  have hknown : progress.processed ⊆ fs.map fileName := by
    rw [hadds.processed, List.nil_append]
    exact List.Subset.trans hprocessed.subset (picks_processedName.sublist h).subset
  constructor
  case chunks =>
    rw [hadds.chunks, (hperm.flatMap_right FileOutcome.chunks).length_eq]
    exact zero_add _
  case files =>
    rw [hadds.files, hadds.processed, List.nil_append, List.toFinset_card_of_nodup hnodup]
    exact zero_add _
  case known => exact hknown
  case lines =>
    rw [hadds.lines, (hperm.map _).sum_eq, sum_lines h hworkable]
    exact zero_add _
  case disjoint =>
    intro name hname hname'
    obtain ⟨f, hf, rfl⟩ := List.mem_map.mp (hknown hname)
    exact ((hbroken f hf).mp hname').1 ((hworkable f hf).mp hname)
  case processed => exact hworkable
  case neither =>
    intro f hf
    rw [hworkable f hf, hbroken f hf]
    constructor
    · tauto
    · exact fun hlarge => ⟨fun hf' => hf'.not_tooLarge hlarge, fun hf' => hf'.2 hlarge⟩

end Totals

/-- **The counts add up.** Files with different names are worked off in batches of any size, with
the tasks of a batch in any order and splitters that answer as they like. In the end the chunks are
counted, the files and lines are those of the processed files, no processed file has failed, and
only the files that are too large are neither processed nor failed. -/
theorem stats_add_up (p : Processor) (s : Store) (mode : Mode) (n : ℕ)
    (files : List (Path × Language)) (hdistinct : (files.map fileName).Nodup) :
    (∀ cs progress, WorksOff s mode (Generation.batches n (files.map .ok)) {} p cs progress →
      AddsUp s files cs progress) ∧
    AddsUp s files (p.processAll s mode (files.map .ok)).1
      (p.processAll s mode (files.map .ok)).2.1 := by
  have hall : ∀ n cs progress,
      WorksOff s mode (Generation.batches n (files.map .ok)) {} p cs progress →
        AddsUp s files cs progress := by
    intro n cs progress hruns
    obtain ⟨outcomes, noted, houtcomes, hperm, rfl, rfl⟩ :=
      hruns.booked (Generation.flatten_batches n _)
    exact addsUp_of_noted houtcomes hdistinct hperm
  exact ⟨hall n, hall _ _ _ (processBatches_runs _ {} p).worksOff⟩

/-- A file of two lines, and one that is too large. -/
def smallAndLarge : Store where
  root := .dir [("a.py", .file ⟨[120, 10, 121], 0⟩), ("large.py", .file ⟨[], 60000000⟩)]

/-- These two, and one that is not there. -/
def threeFiles : List (Path × Language) :=
  [(⟨"", ["a.py"]⟩, .python), (⟨"", ["gone.py"]⟩, .python), (⟨"", ["large.py"]⟩, .python)]

/-- A processor whose semantic splitter gives no answer. -/
def unanswered : Processor where
  scanner := { filter := { exclude := .list [] } }
  languages := .these [.python]
  chunkSize := .int 4000
  batchSize := 2
  splitters := ⟨fun _ => .ok [], some fun _ => .error (.timedOut "")⟩
  parsers := ⟨[], fun _ _ => .ok (Syntax.matchFinder default)⟩

/-- The second task of the first batch runs ahead of the first, whose splitter then answers. -/
theorem stats_add_up_overlapping :
    (threeFiles.map fileName).Nodup ∧ ∃ cs progress,
      WorksOff smallAndLarge ⟨true, false⟩ (Generation.batches 2 (threeFiles.map .ok)) {} unanswered
        cs progress ∧
      "a.py" ∈ progress.processed ∧ "large.py" ∉ progress.failed ∧
      AddsUp smallAndLarge threeFiles cs progress := by
  have hdistinct : (threeFiles.map fileName).Nodup := by decide
  let mode : Mode := ⟨true, false⟩
  let a : FileRequest := .ok (⟨"", ["a.py"]⟩, .python)
  let gone : FileRequest := .ok (⟨"", ["gone.py"]⟩, .python)
  let large : FileRequest := .ok (⟨"", ["large.py"]⟩, .python)
  let answering : Splitters := ⟨fun _ => .ok [], some fun _ => .ok [.text "x", .text "y"]⟩
  let ogone := (unanswered.processRequest smallAndLarge mode gone).1
  let p₁ := (unanswered.processRequest smallAndLarge mode gone).2
  let p₂ : Processor := { p₁ with splitters := answering }
  let oa := (p₂.processRequest smallAndLarge mode a).1
  let p₃ := (p₂.processRequest smallAndLarge mode a).2
  let olarge := (p₃.processRequest smallAndLarge mode large).1
  let p₄ := (p₃.processRequest smallAndLarge mode large).2
  have hfirst : Relation.ReflTransGen (Move smallAndLarge mode)
      ⟨[.waiting a, .waiting gone], {}, unanswered⟩
      ⟨[.done oa, .done ogone], ogone.note (oa.note {}), p₃⟩ :=
    .head (.task (.settle [.waiting a] [] gone {} unanswered)) <|
    .head (.splitters _ answering) <|
    .head (.task (.settle [] [.settled ogone] a {} p₂)) <|
    .head (.task (.note [] [.settled ogone] oa {} p₃)) <|
    .single (.task (.note [.done oa] [] ogone (oa.note {}) p₃))
  have hsecond (progress : Progress) : Relation.ReflTransGen (Move smallAndLarge mode)
      ⟨[.waiting large], progress, p₃⟩ ⟨[.done olarge], olarge.note progress, p₄⟩ :=
    .head (.task (.settle [] [] large progress p₃)) <|
    .single (.task (.note [] [] olarge progress p₄))
  have hruns : WorksOff smallAndLarge mode [[a, gone], [large]] {} unanswered _ _ :=
    .cons hfirst (ended_iff.mpr (by simp)) <|
    .cons (hsecond _) (ended_iff.mpr (by simp)) <|
    .nil _ _
  have hadds := (stats_add_up unanswered smallAndLarge mode 2 threeFiles hdistinct).1 _ _ hruns
  have hworkable : Workable smallAndLarge ⟨"", ["a.py"]⟩ :=
    ⟨_, Store.stat_name rfl (by decide) (by decide) rfl, by decide⟩
  have hlarge : TooLarge smallAndLarge ⟨"", ["large.py"]⟩ :=
    ⟨_, Store.stat_name rfl (by decide) (by decide) rfl, by decide⟩
  exact ⟨hdistinct, _, _, hruns, (hadds.processed (_, .python) (.head _)).mpr hworkable,
    ((hadds.neither (_, .python) (.tail _ (.tail _ (.head _)))).mpr hlarge).2, hadds⟩

end SpecScribe.Processing
