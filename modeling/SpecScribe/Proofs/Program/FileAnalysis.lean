import Mathlib
import SpecScribe.Program.Basic
import SpecScribe.Proofs.Analysis.Agreement
import SpecScribe.Proofs.Effect
import SpecScribe.Proofs.Generation.Alignment
import SpecScribe.Proofs.Generation.Totality

/-!
The program analyses the chunks of a file in a loop of its own, which ends with the first batch that
fails and does not count the chunks. No batch ever fails, so it asks the model the same as the loop
of the generator and finds the same analyses. The count does not matter to the document, so the same
document is written and saved.
-/

namespace SpecScribe.Program

open Analysis Chunk Document Generation Model Settings Workspace

variable {p : Performance} {cs : List CodeChunk}

/-- Whatever the model does, a batch has analyses. -/
lemma analyzeChunks_run (p : Performance) (b : List CodeChunk) (s : Session) :
    ∃ ds s', (analyzeChunks p b).run s = (.ok ds, s') := by
  obtain ⟨-, ds, hds, -⟩ := analyzeChunks_analysed p b s
  exact ⟨ds, _, Prod.ext hds rfl⟩

/-- Batch after batch both loops find the same and leave the same session. -/
lemma analyzeStrictly_run (p : Performance) (number : ℕ) (bs : List (List CodeChunk))
    (s : Session) :
    ∃ ds s', (analyzeStrictly p bs).run s = (.ok ds, s') ∧
      (analyzeBatches p number bs).run s = (.ok (ds, []), s') := by
  induction bs generalizing number s with
  | nil => exact ⟨[], s, rfl, rfl⟩
  | cons b bs ih =>
    obtain ⟨found, s₁, hfound⟩ := analyzeChunks_run p b s
    obtain ⟨others, s₂, hstrict, hbatches⟩ := ih (number + 1) s₁
    refine ⟨found ++ others, s₂, ?_, ?_⟩
    · rw [analyzeStrictly, Ask.run_bind_ok _ hfound, Ask.run_bind_ok _ hstrict]
      rfl
    · -- the batch does not fail, so the handler around it is not reached
      have hpair : Ask.run (do return (← analyzeChunks p b, ([] : List String))) s =
          (.ok (found, []), s₁) := Ask.run_bind_ok _ hfound
      rw [analyzeBatches, Ask.run_bind_ok _ (Ask.run_tryCatch_ok _ hpair),
        Ask.run_bind_ok _ hbatches]
      rfl

lemma analyzeFile_run (p : Performance) (hcs : cs ≠ []) (s : Session) :
    ∃ ds s', (analyzeFile p cs).run s = (.ok (ds, []), s') ∧
      (analyzeAll p cs).run s = (.ok (ds, []), s') := by
  set bs := batches (batchSize p.batchSize cs.length).toNat cs
  have hempty : cs.isEmpty = false := by simpa using hcs
  have hfile : analyzeFile p cs = do return (← analyzeStrictly p bs, []) := by
    rw [analyzeFile, hempty]
    rfl
  obtain ⟨ds, s', hstrict, hbatches⟩ := analyzeStrictly_run p 1 bs s
  refine ⟨ds, s', ?_, hbatches⟩
  rw [hfile, Ask.run_bind_ok _ hstrict]
  rfl

lemma analyzeFile_eq (p : Performance) (hcs : cs ≠ []) : analyzeFile p cs = analyzeAll p cs := by
  funext s
  obtain ⟨ds, s', hfile, hall⟩ := analyzeFile_run p hcs s
  exact hfile.trans hall.symm

/-! ### The document -/

section Document

variable {α : Type} {analyze analyze' : List CodeChunk → Ask (List Datum × List String)}

/-- Both ask the same and end with the same content or the same fault. -/
def SameText (x y : Ask Output) : Prop :=
  ∀ s, (x.run s).2 = (y.run s).2 ∧
    (x.run s).1.map Output.content = (y.run s).1.map Output.content

lemma SameText.bind (x : Ask α) {f f' : α → Ask Output} (h : ∀ a, SameText (f a) (f' a)) :
    SameText (x >>= f) (x >>= f') := by
  intro s
  rcases hx : x.run s with ⟨fault | a, s'⟩
  · rw [Ask.run_bind_error _ hx, Ask.run_bind_error _ hx]
    exact ⟨rfl, rfl⟩
  · rw [Ask.run_bind_ok _ hx, Ask.run_bind_ok _ hx]
    exact h a s'

lemma sameText_produceBy (g : Generator) (h : analyze cs = analyze' cs)
    (counted counted' : List Datum → ℕ) (project : String) :
    SameText (g.produceBy analyze counted cs project)
      (g.produceBy analyze' counted' cs project) := by
  unfold Generator.produceBy
  rw [h]
  refine .bind _ fun start => .bind _ fun found => .bind _ fun combined => .bind _ fun content =>
    .bind _ fun s s' => ?_
  dsimp only
  have hcontent : ∀ n n' seconds,
      (g.output project cs n found.2 seconds content).map Output.content =
        (g.output project cs n' found.2 seconds content).map Output.content := by
    intro n n' seconds
    rw [content_output, content_output]
  specialize hcontent (counted found.1) (counted' found.1) (s.now.sub start.now).toFloat
  generalize g.output project cs (counted found.1) _ _ _ = r,
    g.output project cs (counted' found.1) _ _ _ = r' at hcontent ⊢
  cases r <;> cases r' <;> simp only [Except.map, Except.error.injEq, Except.ok.injEq,
    reduceCtorEq] at hcontent
  · subst hcontent
    exact ⟨rfl, rfl⟩
  · exact ⟨rfl, congrArg Except.ok hcontent⟩

/-- Nothing but the content of an output is saved. -/
lemma save_congr {o o' : Output} (h : o.content = o'.content) (output : Path) :
    save o output = save o' output := by
  unfold save Generation.save
  rw [h]

lemma run_ask {x : Ask α} {r : Except Fault α} {w : World} {s : Session}
    (h : x.run w.session = (r, s)) :
    (ask x).run w = (r.mapError .fault, { w with session := s }) := by
  have hask : (ask x).run w =
      (orStop (x.run w.session).1).run { w with session := (x.run w.session).2 } := rfl
  rw [hask, h]
  cases r <;> rfl

lemma ask_save_congr {x y : Ask Output} (h : SameText x y) (output : Path) (rest : Command α) :
    (do let o ← ask x; save o output; rest) = (do let o ← ask y; save o output; rest) := by
  refine ExceptT.ext (funext fun w => ?_)
  obtain ⟨hsession, hcontent⟩ := h w.session
  rcases hx : x.run w.session with ⟨f | o, s⟩ <;> rcases hy : y.run w.session with ⟨f' | o', s'⟩ <;>
    rw [hx, hy] at hsession hcontent <;> cases hsession <;>
    simp only [Except.map, Except.error.injEq, Except.ok.injEq, reduceCtorEq] at hcontent
  · subst hcontent
    exact (Effect.run_bind_error _ (run_ask hx)).trans (Effect.run_bind_error _ (run_ask hy)).symm
  · calc _ = _ := Effect.run_bind_ok _ (run_ask hx)
      _ = _ := by rw [save_congr hcontent]
      _ = _ := (Effect.run_bind_ok _ (run_ask hy)).symm

/-- A file without chunks is not analysed, so only the others matter. -/
lemma specifyFileBy_congr (h : ∀ cs, cs ≠ [] → analyze cs = analyze' cs)
    (counted counted' : List Datum → ℕ) (c : Config) (file output : Path) (semantic : Bool) :
    specifyFileBy analyze counted c file output semantic =
      specifyFileBy analyze' counted' c file output semantic := by
  unfold specifyFileBy
  refine bind_congr fun w => ?_
  rcases (processor w c).processSingle w.store ⟨semantic, true⟩ file with ⟨r, _⟩
  refine bind_congr fun cs => ?_
  split
  · rfl
  · rename_i hcs
    have hcs : cs ≠ [] := by simpa using hcs
    refine bind_congr fun k => ?_
    exact ask_save_congr (sameText_produceBy _ (h cs hcs) counted counted' file.stem) output _

end Document

/-- **Both loops do the same.** For chunks, of which there are some, the loop of the program and
that of the generator make the same calls and find the same analyses, whatever the model does. So
the document is the same after the same calls, though only one of the loops counts the chunks, and
writing the specification of a file leaves the same world, with the same text saved in it. -/
theorem analyzeFile_agrees (g : Generator) (hcs : cs ≠ []) (project : String) (s : Session) :
    (∃ ds s', (analyzeFile g.performance cs).run s = (.ok (ds, []), s') ∧
      (analyzeAll g.performance cs).run s = (.ok (ds, []), s')) ∧
    ((g.produceBy (analyzeFile g.performance) (fun _ => 0) cs project).run s).2 =
      ((g.produce cs project).run s).2 ∧
    ((g.produceBy (analyzeFile g.performance) (fun _ => 0) cs project).run s).1.map Output.content =
      ((g.produce cs project).run s).1.map Output.content ∧
    ∀ (file output : Path) (semantic : Bool) (w : World),
      (specifyFile g.config file output semantic).run w =
        (specifyFileBy (analyzeAll g.performance) List.length g.config file output
          semantic).run w := by
  have hproduce : SameText (g.produceBy (analyzeFile g.performance) (fun _ => 0) cs project)
      (g.produce cs project) :=
    sameText_produceBy g (analyzeFile_eq g.performance hcs) _ _ project
  refine ⟨analyzeFile_run g.performance hcs s, (hproduce s).1, (hproduce s).2, ?_⟩
  intro file output semantic w
  rw [specifyFile, specifyFileBy_congr (fun cs hcs => analyzeFile_eq _ hcs) _ List.length]
  rfl

/-- Two chunks whose batch is refused, so that they are asked about one by one. -/
theorem analyzeFile_agrees_refused :
    let g : Generator := { config := {}, connection := ⟨.openai, "gpt-4", []⟩, date := "2024" }
    let c : CodeChunk := ⟨"x = 1", ⟨"", ["a.py"]⟩, .python, 1, 1, "text_chunk"⟩
    let c' : CodeChunk := ⟨"y = 2", ⟨"", ["b.py"]⟩, .python, 1, 1, "text_chunk"⟩
    let s : Session := { script := [
      { outcome := .failure (.outside "APIError" "refused") },
      { outcome := .single (.ok (.message (.text "\x7b\x7d"))) }] }
    [c, c'] ≠ [] ∧
      (callsMade s ((analyzeFile g.performance [c, c']).run s).2).map Call.size = [2, 1, 1] ∧
      ∃ ds s', (analyzeFile g.performance [c, c']).run s = (.ok (ds, []), s') ∧
        (analyzeAll g.performance [c, c']).run s = (.ok (ds, []), s') := by
  intro g c c' s
  have hcs : [c, c'] ≠ [] := by simp
  exact ⟨hcs, by decide +kernel, (analyzeFile_agrees g hcs "P" s).1⟩

/-- Without chunks one loop fails and the other does nothing. -/
example (p : Performance) (s : Session) :
    (analyzeFile p []).run s = (.error (.badValue "range() arg 3 must not be zero"), s) ∧
      (analyzeAll p []).run s = (.ok ([], []), s) :=
  ⟨rfl, rfl⟩

end SpecScribe.Program
