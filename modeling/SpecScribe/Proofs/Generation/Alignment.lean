import Mathlib
import SpecScribe.Proofs.Generation.Batches
import SpecScribe.Proofs.Model.Exchange

/-!
One analysis for each chunk, at its place. A batch may succeed, or fail and be asked about chunk by
chunk; in the end each chunk has what the model said about it, or an analysis that says that there
is none.
-/

namespace SpecScribe.Analysis

open Chunk Model Settings

/-- An analysis that stands for a failure: an object without functions, classes and
dependencies. -/
structure Placeholder (d : Datum) : Prop where
  failed : ∃ overview, d = failed overview
  functions : d.get? "functions" = some (.list [])
  classes : d.get? "classes" = some (.list [])
  dependencies : d.get? "dependencies" = some (.list [])

lemma failed_placeholder (overview : String) : Placeholder (failed overview) :=
  ⟨⟨overview, rfl⟩, rfl, rfl, rfl⟩

/-- The analysis is read from a reply to the prompt of the chunk. -/
def Answered (es : List Exchange) (c : CodeChunk) (d : Datum) : Prop :=
  ∃ prompt reply, chunkPrompt c = .ok prompt ∧ Heard es prompt reply ∧ parseResponse reply = .ok d

/-- The analysis of a chunk: an answer, or a sign that there is none. -/
def Analysed (es : List Exchange) (c : CodeChunk) (d : Datum) : Prop :=
  Answered es c d ∨ Placeholder d

lemma Analysed.mono {es es' : List Exchange} {c : CodeChunk} {d : Datum} (h : Analysed es c d)
    (hsub : es ⊆ es') : Analysed es' c d := by
  refine h.imp_left ?_
  rintro ⟨prompt, reply, hprompt, hheard, hparse⟩
  exact ⟨prompt, reply, hprompt, hheard.mono hsub, hparse⟩

/-! ### One chunk -/

lemma askChunk_answered (p : Performance) (c : CodeChunk) :
    Ensures (askChunk p c) fun es r => ∀ d, r = .ok d → Answered es c d := by
  refine .ofExcept_bind (fun prompt hprompt => ?_) (by simp)
  refine (generate_heard p prompt).bind_ofExcept (fun reply es hheard d hd => ?_) (by simp)
  exact ⟨prompt, reply, hprompt, hheard reply rfl, hd⟩

lemma analyzeChunk_analysed (p : Performance) (c : CodeChunk) :
    Ensures (analyzeChunk p c) fun es r => ∃ d, r = .ok d ∧ Analysed es c d := by
  refine (askChunk_answered p c).tryCatch
    (Q := fun _ _ r => ∃ overview, r = .ok (failed overview)) ?_ ?_ ?_
  · exact fun f => .pure ⟨_, rfl⟩
  · exact fun d es h => ⟨d, rfl, .inl (h d rfl)⟩
  · rintro f es es' r - ⟨overview, rfl⟩
    exact ⟨_, rfl, .inr (failed_placeholder overview)⟩

/-! ### Several chunks -/

/-- One chunk after another. -/
lemma analyzeEach_analysed (p : Performance) (cs : List CodeChunk) :
    Ensures (cs.mapM (analyzeChunk p)) fun es r =>
      ∃ ds, r = .ok ds ∧ List.Forall₂ (Analysed es) cs ds :=
  Ensures.mapM (f := analyzeChunk p) (R := Analysed) (fun h hsub => h.mono hsub)
    (fun c => analyzeChunk_analysed p c) cs

lemma parseAnswer_analysed {es : List Exchange} {c : CodeChunk} {prompt : String} {answer : Datum}
    (hprompt : chunkPrompt c = .ok prompt) (hheard : Heard es prompt answer) :
    Analysed es c (parseAnswer answer) := by
  unfold parseAnswer
  split
  case h_1 d hparse => exact .inl ⟨prompt, answer, hprompt, hheard, hparse⟩
  case h_2 f _ => exact .inr (failed_placeholder _)

lemma askChunks_analysed (p : Performance) (cs : List CodeChunk) :
    Ensures (askChunks p cs) fun es r => ∀ ds, r = .ok ds → Complete es →
      List.Forall₂ (Analysed es) cs ds := by
  refine .ofExcept_bind (fun prompts hprompts => ?_) (by simp)
  refine (generateBatch_heard p prompts).map (fun answers es hheard ds hds hcomplete => ?_) (by simp)
  cases hds
  rw [List.forall₂_map_right_iff]
  have hpairs := mapM_eq_ok_iff.mp hprompts
  have hanswers := hheard answers rfl hcomplete
  clear hheard hprompts
  -- prompts and answers are at the places of their chunks
  induction hpairs generalizing answers with
  | nil => cases hanswers; exact .nil
  | cons hprompt _ ih =>
    rcases hanswers with _ | ⟨hfirst, hothers⟩
    exact .cons (parseAnswer_analysed hprompt hfirst) (ih _ hothers)

lemma analyzeChunks_analysed (p : Performance) (cs : List CodeChunk) :
    Ensures (analyzeChunks p cs) fun es r => ∃ ds, r = .ok ds ∧
      (Complete es → List.Forall₂ (Analysed es) cs ds) := by
  unfold analyzeChunks
  split
  case isTrue hempty =>
    rw [List.isEmpty_iff] at hempty
    subst hempty
    exact .pure ⟨[], rfl, fun _ => .nil⟩
  case isFalse =>
    refine (askChunks_analysed p cs).tryCatch (fun _ => analyzeEach_analysed p cs) ?_ ?_
    · exact fun ds es h => ⟨ds, rfl, h ds rfl⟩
    · rintro f es es' r - ⟨ds, rfl, hall⟩
      exact ⟨ds, rfl, fun _ => hall.imp fun _ _ h => h.mono (List.subset_append_right _ _)⟩

end SpecScribe.Analysis

namespace SpecScribe.Generation

open Analysis Chunk Model Settings

/-! ### All batches -/

/-- Batch after batch, none of which fails. What holds of the analyses of each batch holds of all,
if it is kept when more is heard and when analyses are put together. -/
lemma analyzeBatches_ensures {p : Performance}
    {T : List Exchange → List CodeChunk → List Datum → Prop} (hnil : T [] [] [])
    (hmono : ∀ {es es' cs ds}, T es cs ds → es ⊆ es' → T es' cs ds)
    (happend : ∀ {es cs cs' ds ds'}, T es cs ds → T es cs' ds' → T es (cs ++ cs') (ds ++ ds'))
    (hchunks : ∀ b, Ensures (analyzeChunks p b) fun es r => ∃ ds, r = .ok ds ∧ T es b ds)
    (number : ℕ) (bs : List (List CodeChunk)) :
    Ensures (analyzeBatches p number bs) fun es r => ∃ ds, r = .ok (ds, []) ∧
      T es bs.flatten ds := by
  induction bs generalizing number with
  | nil => exact .pure ⟨[], rfl, hnil⟩
  | cons b bs ih =>
    refine (hchunks b).map_ok.tryCatch_ok.bind_ok
      (Q := fun ds es r => ∃ ds', r = .ok (ds ++ ds', []) ∧ T es bs.flatten ds')
      (fun ds => (ih (number + 1)).map_ok) ?_
    rintro ds es es' _ hds ⟨ds', rfl, hds'⟩
    exact ⟨ds ++ ds', rfl, happend (hmono hds (List.subset_append_left _ _))
      (hmono hds' (List.subset_append_right _ _))⟩

lemma analyzeBatches_analysed (p : Performance) (number : ℕ) (bs : List (List CodeChunk)) :
    Ensures (analyzeBatches p number bs) fun es r => ∃ ds, r = .ok (ds, []) ∧
      (Complete es → List.Forall₂ (Analysed es) bs.flatten ds) := by
  refine analyzeBatches_ensures
    (T := fun es cs ds => Complete es → List.Forall₂ (Analysed es) cs ds)
    (fun _ => .nil) ?_ ?_ (analyzeChunks_analysed p) number bs
  · exact fun h hsub hcomplete =>
      (h (hcomplete.mono hsub)).imp fun _ _ hanalysed => hanalysed.mono hsub
  · exact fun h h' hcomplete => List.rel_append (h hcomplete) (h' hcomplete)

lemma batchSize_pos {configured : ℤ} {total : ℕ} (hc : 1 ≤ configured) (ht : 0 < total) :
    0 < (batchSize configured total).toNat := by
  unfold batchSize
  split
  · omega
  split <;> omega

lemma batchSize_le {configured : ℤ} {total : ℕ} :
    batchSize configured total ≤ max 5 configured := by
  unfold batchSize
  split
  · omega
  split <;> omega

/-- **One analysis for each chunk, at its place.** The batches are not empty, not too large, and
together the chunks; whatever the model does, the analysis ends without a fault. If every batch
that succeeds has one reply for each prompt, there are as many analyses as chunks, and each one
is read from a reply to the prompt of its chunk or stands for a failure. -/
theorem analyzeAll_aligned {p : Performance} {cs : List CodeChunk} (hcs : cs ≠ [])
    (hsize : 1 ≤ p.batchSize) (s : Session) :
    (∃ bs, analyzeAll p cs = analyzeBatches p 1 bs ∧ bs.flatten = cs ∧
      ∀ b ∈ bs, b ≠ [] ∧ (b.length : ℤ) ≤ max 5 p.batchSize) ∧
    ∃ ds, ((analyzeAll p cs).run s).1 = .ok (ds, []) ∧
      (Complete (exchanges s ((analyzeAll p cs).run s).2) → ds.length = cs.length ∧
        List.Forall₂ (Analysed (exchanges s ((analyzeAll p cs).run s).2)) cs ds) := by
  have hpos : 0 < (batchSize p.batchSize cs.length).toNat :=
    batchSize_pos hsize (List.length_pos_iff.mpr hcs)
  constructor
  · refine ⟨_, rfl, flatten_batches _ cs, fun b hb => ⟨ne_nil_of_mem_batches hpos hb, ?_⟩⟩
    have hlength := length_le_of_mem_batches hpos hb
    have hle : batchSize p.batchSize cs.length ≤ max 5 p.batchSize := batchSize_le
    omega
  · obtain ⟨ds, hrun, hall⟩ := (analyzeBatches_analysed p 1 _ s).2
    refine ⟨ds, hrun, fun hcomplete => ?_⟩
    have haligned := hall hcomplete
    rw [flatten_batches] at haligned
    exact ⟨haligned.length_eq.symm, haligned⟩

/-- Two chunks in one batch, which is answered at the second try. -/
theorem analyzeAll_aligned_second_try :
    let c : CodeChunk := ⟨"x = 1", ⟨"", ["a.py"]⟩, .python, 1, 1, "text_chunk"⟩
    let c' : CodeChunk := ⟨"y = 2", ⟨"", ["b.py"]⟩, .python, 1, 1, "text_chunk"⟩
    let s : Session := { script := [
      { outcome := .failure (.outside "TimeoutError" "") },
      { outcome := .several [.ok (.message (.text "\x7b\x7d")), .ok (.bare (.int 1))] }] }
    [c, c'] ≠ [] ∧ 1 ≤ ({} : Performance).batchSize ∧
      Complete (exchanges s ((analyzeAll {} [c, c']).run s).2) ∧
      ∃ ds, ((analyzeAll {} [c, c']).run s).1 = .ok (ds, []) ∧ ds.length = 2 ∧
        List.Forall₂ (Analysed (exchanges s ((analyzeAll {} [c, c']).run s).2)) [c, c'] ds := by
  intro c c' s
  have hcs : [c, c'] ≠ [] := by simp
  have hsize : 1 ≤ ({} : Performance).batchSize := by decide
  have hcomplete : Complete (exchanges s ((analyzeAll {} [c, c']).run s).2) := by
    have hsizes : (exchanges s ((analyzeAll {} [c, c']).run s).2).map (fun e => e.1.size) =
        [2, 2] := by decide +kernel
    intro prompts rs hmem _
    have hprompts := List.mem_map_of_mem (f := fun e : Exchange => e.1.size) hmem
    have hreplies : Outcome.several rs ∈ s.script.map Event.outcome := (List.of_mem_zip hmem).2
    rw [hsizes] at hprompts
    obtain rfl : rs = [.ok (.message (.text "\x7b\x7d")), .ok (.bare (.int 1))] := by
      simpa [s] using hreplies
    simpa [Call.size, eq_comm] using hprompts
  obtain ⟨-, ds, hrun, hall⟩ := analyzeAll_aligned hcs hsize s
  exact ⟨hcs, hsize, hcomplete, ds, hrun, hall hcomplete⟩

end SpecScribe.Generation
