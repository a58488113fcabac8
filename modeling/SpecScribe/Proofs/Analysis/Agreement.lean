import Mathlib
import SpecScribe.Proofs.Generation.Alignment

/-!
A batch is analysed as its chunks are one by one, for a model whose reply is settled by the prompt.
The batch may be answered at once, or fail at every try and be asked about chunk by chunk.
-/

namespace SpecScribe.Model

open Settings

variable {reply : String → String} {s s' s'' : Session} {p : Performance}

/-- What a model that replies by `reply` does when it is called. One prompt is always answered;
several are answered in their order, or the call fails. -/
def Behaves (reply : String → String) : Call → Option Outcome → Prop
  | .invoke prompt, o => singleOutcome o = .ok (.message (.text (reply prompt)))
  | .batch prompts, o =>
    severalOutcome o = .ok (prompts.map fun q => .message (.text (reply q))) ∨
      ∃ f, severalOutcome o = .error f

/-- The calls made between two states of a session. -/
def callsMade (s s' : Session) : List Call := (s'.sent.map Sent.call).drop s.sent.length

/-- Every call between two states met an event by which the model behaves. -/
def Follows (reply : String → String) (s s' : Session) : Prop :=
  ∀ (i : ℕ) call, (callsMade s s')[i]? = some call →
    Behaves reply call (s.script[i]?.map Event.outcome)

lemma callsMade_eq {calls : List Call}
    (h : s'.sent.map Sent.call = s.sent.map Sent.call ++ calls) : callsMade s s' = calls := by
  have hlength : s.sent.length = (s.sent.map Sent.call).length := (List.length_map _).symm
  rw [callsMade, h, hlength, List.drop_left]

/-- A model that behaves all the time behaves before and after any moment in between. -/
lemma Follows.split (h : Later s s') (h' : Later s' s'') (hall : Follows reply s s'') :
    Follows reply s s' ∧ Follows reply s' s'' := by
  obtain ⟨calls, hsent, hscript⟩ := h
  obtain ⟨calls', hsent', hscript'⟩ := h'
  have hcalls : callsMade s s'' = calls ++ calls' :=
    callsMade_eq (by rw [hsent', hsent, List.append_assoc])
  constructor
  · intro i call hi
    rw [callsMade_eq hsent] at hi
    refine hall i call ?_
    rw [hcalls, List.getElem?_append_left (List.getElem?_eq_some_iff.mp hi).1, hi]
  · intro i call hi
    rw [callsMade_eq hsent'] at hi
    have hat := hall (calls.length + i) call (by
      rw [hcalls, List.getElem?_append_right (by omega), Nat.add_sub_cancel_left, hi])
    rwa [hscript, List.getElem?_drop]

/-! ### Requests -/

/-- The last try of a request met an event by which the model behaves, and the request ends as that
event says. -/
lemma withRetry_follows {α : Type} {call : Call} {operation : Ask α}
    {read : Option Outcome → Except Fault α} (h : MakesCall call operation read)
    (hs : Follows reply s ((withRetry p operation).run s).2) :
    ∃ o, Behaves reply call o ∧ ((withRetry p operation).run s).1 = read o := by
  obtain ⟨k, -, -, -, hends⟩ := withRetry_endsAt (p := p) h s
  refine ⟨_, hs k call ?_, hends.value⟩
  rw [callsMade_eq hends.calls]
  simp

lemma generate_follows {prompt : String} (hs : Follows reply s ((generate p prompt).run s).2) :
    ((generate p prompt).run s).1 = .ok (.text (reply prompt)) := by
  obtain ⟨operation, hcall, heq⟩ := generate_eq p prompt
  rw [heq] at hs ⊢
  obtain ⟨o, ho, hrun⟩ := withRetry_follows hcall hs
  rw [hrun, singleAnswer, ho]
  rfl

lemma generateBatch_follows {prompts : List String} (hne : prompts ≠ [])
    (hs : Follows reply s ((generateBatch p prompts).run s).2) :
    ((generateBatch p prompts).run s).1 = .ok (prompts.map fun q => .text (reply q)) ∨
      ∃ f, ((generateBatch p prompts).run s).1 = .error f := by
  obtain ⟨operation, hcall, heq⟩ := generateBatch_eq p hne
  rw [heq] at hs ⊢
  obtain ⟨o, ho, hrun⟩ := withRetry_follows hcall hs
  rw [hrun, severalAnswers]
  rcases ho with ho | ⟨f, ho⟩ <;> rw [ho]
  · left
    simp [Except.map, Reply.valueInBatch]
  · exact .inr ⟨f, rfl⟩

end SpecScribe.Model

namespace SpecScribe.Analysis

open Chunk Model Settings

variable {reply : String → String} {s : Session} {p : Performance} {c : CodeChunk}
  {cs : List CodeChunk} {prompt : String} {d : Datum}

/-- The prompt of a chunk, which always has one, and what is read from the reply to it. -/
def Reads (reply : String → String) (c : CodeChunk) (d : Datum) : Prop :=
  ∃ prompt, chunkPrompt c = .ok prompt ∧ parseResponse (.text (reply prompt)) = .ok d

lemma chunkPrompt_ok (c : CodeChunk) : ∃ prompt, chunkPrompt c = .ok prompt :=
  ⟨_, rfl⟩

/-! ### One chunk -/

lemma askChunk_run (hprompt : chunkPrompt c = .ok prompt) (s : Session) :
    (askChunk p c).run s =
      match (generate p prompt).run s with
      | (.ok answer, s') => (parseResponse answer, s')
      | (.error e, s') => (.error e, s') := by
  have hask : (askChunk p c).run s = Ask.run (do
      let answer ← generate p prompt
      MonadExcept.ofExcept (parseResponse answer)) s := by
    rw [askChunk, Ask.run_bind, Ask.run_ofExcept, hprompt]
  rw [hask, Ask.run_bind]
  rcases (generate p prompt).run s with ⟨_ | _, _⟩
  · rfl
  · exact Ask.run_ofExcept _ _

/-- An analysis of one chunk has made the calls of its request and no others. -/
lemma analyzeChunk_session (hprompt : chunkPrompt c = .ok prompt) (s : Session) :
    ((analyzeChunk p c).run s).2 = ((generate p prompt).run s).2 := by
  rw [analyzeChunk, Ask.run_tryCatch, askChunk_run hprompt]
  rcases (generate p prompt).run s with ⟨_ | answer, s'⟩
  · rfl
  · simp only
    rcases parseResponse answer with _ | _ <;> rfl

lemma analyzeChunk_follows (hd : Reads reply c d)
    (hs : Follows reply s ((analyzeChunk p c).run s).2) :
    ((analyzeChunk p c).run s).1 = .ok d := by
  obtain ⟨prompt, hprompt, hparse⟩ := hd
  rw [analyzeChunk_session hprompt] at hs
  have hanswer := generate_follows hs
  rw [analyzeChunk, Ask.run_tryCatch, askChunk_run hprompt]
  rcases hrun : (generate p prompt).run s with ⟨_ | answer, s'⟩ <;> rw [hrun] at hanswer
  · cases hanswer
  · cases hanswer
    simp only [hparse]

/-! ### Several chunks -/

lemma analyzeEach_later (p : Performance) (cs : List CodeChunk) (s : Session) :
    Later s ((cs.mapM (analyzeChunk p)).run s).2 :=
  (analyzeEach_analysed p cs s).1

/-- Chunk after chunk; each one is asked about while the model still behaves. -/
lemma analyzeEach_follows {ds : List Datum} (hds : List.Forall₂ (Reads reply) cs ds)
    (hs : Follows reply s ((cs.mapM (analyzeChunk p)).run s).2) :
    ((cs.mapM (analyzeChunk p)).run s).1 = .ok ds := by
  induction hds generalizing s with
  | nil => rfl
  | @cons c d cs ds hd _ ih =>
    obtain ⟨hlater, d', hd', -⟩ := analyzeChunk_analysed p c s
    obtain ⟨s', hrun⟩ : ∃ s', (analyzeChunk p c).run s = (.ok d', s') := ⟨_, Prod.ext hd' rfl⟩
    have hrest := analyzeEach_later p cs s'
    rw [hrun] at hlater
    -- what follows the first chunk leaves the session as its own calls do
    have hmore : Ask.run (do let ds ← cs.mapM (analyzeChunk p); pure (d' :: ds)) s' =
        (((cs.mapM (analyzeChunk p)).run s').1.map (d' :: ·),
          ((cs.mapM (analyzeChunk p)).run s').2) := by
      rw [Ask.run_bind]
      rcases (cs.mapM (analyzeChunk p)).run s' with ⟨_ | _, _⟩ <;> rfl
    rw [List.mapM_cons, Ask.run_bind_ok _ hrun, hmore] at hs ⊢
    obtain ⟨hfirst, hothers⟩ := Follows.split hlater hrest hs
    have hvalue : ((analyzeChunk p c).run s).1 = .ok d :=
      analyzeChunk_follows hd (by rwa [hrun])
    obtain rfl : d' = d := by simpa [hrun] using hvalue
    rw [ih hothers]
    rfl

lemma askChunks_run {prompts : List String} (hprompts : cs.mapM chunkPrompt = .ok prompts)
    (s : Session) :
    (askChunks p cs).run s =
      match (generateBatch p prompts).run s with
      | (.ok answers, s') => (.ok (answers.map parseAnswer), s')
      | (.error e, s') => (.error e, s') := by
  have hask : (askChunks p cs).run s = Ask.run (do
      let answers ← generateBatch p prompts
      return answers.map parseAnswer) s := by
    rw [askChunks, Ask.run_bind, Ask.run_ofExcept, hprompts]
  rw [hask, Ask.run_bind]
  rcases (generateBatch p prompts).run s with ⟨_ | _, _⟩ <;> rfl

/-- The prompts of chunks, with the analyses that are read from the replies to them. -/
lemma prompts_of_reads {ds : List Datum} (hds : List.Forall₂ (Reads reply) cs ds) :
    ∃ prompts, cs.mapM chunkPrompt = .ok prompts ∧ prompts.length = cs.length ∧
      prompts.map (fun q => parseAnswer (.text (reply q))) = ds := by
  induction hds with
  | nil => exact ⟨[], rfl, rfl, rfl⟩
  | cons hd _ ih =>
    obtain ⟨prompt, hprompt, hparse⟩ := hd
    obtain ⟨prompts, hprompts, hlength, hmap⟩ := ih
    refine ⟨prompt :: prompts, ?_, by simp [hlength], ?_⟩
    · rw [List.mapM_cons, hprompt, hprompts]
      rfl
    · rw [List.map_cons, hmap, parseAnswer, hparse]

/-- The batch is answered with the analyses of its chunks, or it fails. -/
lemma askChunks_follows {ds : List Datum} (hne : cs ≠ [])
    (hds : List.Forall₂ (Reads reply) cs ds)
    (hs : Follows reply s ((askChunks p cs).run s).2) :
    ((askChunks p cs).run s).1 = .ok ds ∨ ∃ f, ((askChunks p cs).run s).1 = .error f := by
  obtain ⟨prompts, hprompts, hlength, hmap⟩ := prompts_of_reads hds
  have hprompts_ne : prompts ≠ [] := by
    rintro rfl
    exact hne (List.length_eq_zero_iff.mp hlength.symm)
  rw [askChunks_run hprompts] at hs ⊢
  have hbatch : Follows reply s ((generateBatch p prompts).run s).2 → _ :=
    generateBatch_follows hprompts_ne
  rcases hrun : (generateBatch p prompts).run s with ⟨f | answers, s'⟩ <;>
    rw [hrun] at hs hbatch
  · exact .inr ⟨f, rfl⟩
  · rcases hbatch hs with h | ⟨f, h⟩
    · cases h
      left
      simp only [List.map_map, ← hmap]
      rfl
    · cases h

/-- Where each chunk's reply can be read, the chunks have their analyses. -/
lemma exists_reads
    (hreply : ∀ c ∈ cs, ∀ prompt, chunkPrompt c = .ok prompt →
      ∃ d, parseResponse (.text (reply prompt)) = .ok d) :
    ∃ ds, List.Forall₂ (Reads reply) cs ds := by
  induction cs with
  | nil => exact ⟨[], .nil⟩
  | cons c cs ih =>
    obtain ⟨prompt, hprompt⟩ := chunkPrompt_ok c
    obtain ⟨d, hparse⟩ := hreply c (List.mem_cons_self ..) prompt hprompt
    obtain ⟨ds, hds⟩ := ih fun c' hc' => hreply c' (List.mem_cons_of_mem _ hc')
    exact ⟨d :: ds, .cons ⟨prompt, hprompt, hparse⟩ hds⟩

/-- Answered or failed, the batch ends with the analyses of its chunks. -/
lemma analyzeChunks_follows {ds : List Datum} (hds : List.Forall₂ (Reads reply) cs ds)
    (hs : Follows reply s ((analyzeChunks p cs).run s).2) :
    ((analyzeChunks p cs).run s).1 = .ok ds := by
  unfold analyzeChunks at hs ⊢
  split at hs
  case isTrue hempty =>
    rw [List.isEmpty_iff] at hempty
    subst hempty
    cases hds
    rfl
  case isFalse hne =>
    rw [List.isEmpty_iff] at hne
    rw [if_neg (by simpa using hne)]
    have hlater := (askChunks_analysed p cs s).1
    have hask := askChunks_follows (p := p) (s := s) hne hds
    rcases hrun : (askChunks p cs).run s with ⟨f | ds', s'⟩
    · -- the batch failed, and its calls come before those for the chunks
      rw [Ask.run_tryCatch_error _ hrun] at hs ⊢
      rw [hrun] at hlater
      exact analyzeEach_follows hds (Follows.split hlater (analyzeEach_later p cs s') hs).2
    · rw [Ask.run_tryCatch_ok _ hrun] at hs ⊢
      rw [hrun] at hask
      rcases hask hs with h | ⟨f, h⟩
      · exact h
      · cases h

/-- **A batch is analysed as its chunks are one by one.** Let the model's reply be settled by the
prompt, and let an analysis be read from each reply. Whether the batch is answered or fails and is
asked about chunk by chunk, its analyses are those of its chunks, each asked about alone or one
after the other. -/
theorem analyzeChunks_eq_each
    (hreply : ∀ c ∈ cs, ∀ prompt, chunkPrompt c = .ok prompt →
      ∃ d, parseResponse (.text (reply prompt)) = .ok d)
    (hs : Follows reply s ((analyzeChunks p cs).run s).2) :
    ∃ ds, ((analyzeChunks p cs).run s).1 = .ok ds ∧
      List.Forall₂ (fun c d => Reads reply c d ∧
        ∀ t, Follows reply t ((analyzeChunk p c).run t).2 →
          ((analyzeChunk p c).run t).1 = .ok d) cs ds ∧
      ∀ t, Follows reply t ((cs.mapM (analyzeChunk p)).run t).2 →
        ((cs.mapM (analyzeChunk p)).run t).1 = .ok ds := by
  obtain ⟨ds, hds⟩ := exists_reads hreply
  exact ⟨ds, analyzeChunks_follows hds hs,
    hds.imp fun _ _ hd => ⟨hd, fun _ => analyzeChunk_follows hd⟩, fun _ => analyzeEach_follows hds⟩

/-- Two chunks whose batch is refused, so that they are asked about one by one. -/
theorem analyzeChunks_eq_each_refused :
    let c : CodeChunk := ⟨"x = 1", ⟨"", ["a.py"]⟩, .python, 1, 1, "text_chunk"⟩
    let c' : CodeChunk := ⟨"y = 2", ⟨"", ["b.py"]⟩, .python, 1, 1, "text_chunk"⟩
    let reply : String → String := fun _ => "\x7b\x7d"
    let answer : Event := { outcome := .single (.ok (.message (.text "\x7b\x7d"))) }
    let s : Session :=
      { script := [{ outcome := .failure (.outside "APIError" "refused") }, answer, answer] }
    Follows reply s ((analyzeChunks {} [c, c']).run s).2 ∧
      ∃ ds, ((analyzeChunks {} [c, c']).run s).1 = .ok ds ∧
        List.Forall₂ (Reads reply) [c, c'] ds := by
  intro c c' reply answer s
  have hsizes : (callsMade s ((analyzeChunks {} [c, c']).run s).2).map Call.size = [2, 1, 1] := by
    decide +kernel
  have hs : Follows reply s ((analyzeChunks {} [c, c']).run s).2 := by
    intro i call hi
    have hsize : ([2, 1, 1] : List ℕ)[i]? = some call.size := by
      rw [← hsizes, List.getElem?_map, hi]
      rfl
    rcases i with _ | _ | _ | i
    · rcases call with q | qs
      · simp [Call.size] at hsize
      · exact .inr ⟨_, rfl⟩
    · rcases call with q | qs
      · rfl
      · exact .inr ⟨_, rfl⟩
    · rcases call with q | qs
      · rfl
      · exact .inr ⟨_, rfl⟩
    · simp at hsize
  have hparse : parseResponse (.text "\x7b\x7d") = .ok (.record []) := by cbv
  obtain ⟨ds, hrun, hall, -⟩ := analyzeChunks_eq_each (fun _ _ _ _ => ⟨_, hparse⟩) hs
  exact ⟨hs, ds, hrun, hall.imp fun _ _ h => h.1⟩

end SpecScribe.Analysis
