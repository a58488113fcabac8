import Mathlib
import SpecScribe.Generation.Basic
import SpecScribe.Proofs.Analysis.Agreement
import SpecScribe.Proofs.Document.Sections
import SpecScribe.Proofs.Generation.Alignment

/-!
When generation returns a document. The analysis of the chunks never fails, whatever the model does;
the shape of what it replied decides whether the analyses can be combined, whether a document can be
written without the model, and whether its own document is a text.
-/

namespace SpecScribe.Schema

/-- Data that a text is read from: neither null nor a list nor a record. -/
def readsAsText : Datum → Bool
  | .null => false
  | .list _ => false
  | .record _ => false
  | _ => true

@[simp] lemma isOk_under {α : Type} (step : Step) (c : Checked α) :
    (Checked.under step c).isOk = c.isOk := by
  cases c <;> rfl

section Reading

variable {α : Type} {rule : Rule α}

lemma isOk_readItems {xs : List Datum} (h : ∀ x ∈ xs, (rule x).isOk) (i : ℕ) :
    (readItems rule i xs).isOk := by
  induction xs generalizing i with
  | nil => rfl
  | cons x xs ih =>
    rw [List.forall_mem_cons] at h
    obtain ⟨y, hy⟩ := isOk_iff.mp h.1
    obtain ⟨ys, hys⟩ := isOk_iff.mp (ih h.2 (i + 1))
    rw [readItems, hy, hys]
    rfl

lemma isOk_readEntries {es : List (Datum × Datum)}
    (h : ∀ e ∈ es, (text e.1).isOk ∧ (rule e.2).isOk) : (readEntries rule es).isOk := by
  induction es with
  | nil => rfl
  | cons e es ih =>
    rw [List.forall_mem_cons] at h
    obtain ⟨k, hk⟩ := isOk_iff.mp h.1.1
    obtain ⟨v, hv⟩ := isOk_iff.mp h.1.2
    obtain ⟨ys, hys⟩ := isOk_iff.mp (ih h.2)
    rw [readEntries, hk, hys]
    simp only [Checked.under, hv]
    rfl

end Reading

end SpecScribe.Schema

namespace SpecScribe.Model

open Settings

/-- What the replies of an outcome stand for. -/
def Outcome.values : Outcome → List Datum
  | .single (.ok r) => [r.value]
  | .single (.error _) => []
  | .several rs => rs.filterMap fun r => r.toOption.map Reply.valueInBatch
  | .failure _ => []

/-- What the replies of a script stand for. -/
def Session.values (s : Session) : List Datum := s.script.flatMap fun e => e.outcome.values

lemma mem_values_of_exchange {s s' : Session} {e : Exchange} {v : Datum} (he : e ∈ exchanges s s')
    (hv : v ∈ e.2.values) : v ∈ s.values := by
  obtain ⟨ev, hev, heq⟩ := List.mem_map.mp (List.of_mem_zip he).2
  exact List.mem_flatMap.mpr ⟨ev, hev, by rwa [heq]⟩

lemma Later.values_subset {s s' : Session} (h : Later s s') : s'.values ⊆ s.values := by
  obtain ⟨calls, -, hscript⟩ := h
  intro v hv
  obtain ⟨e, he, hmem⟩ := List.mem_flatMap.mp hv
  rw [hscript] at he
  exact List.mem_flatMap.mpr ⟨e, List.mem_of_mem_drop he, hmem⟩

lemma Heard.mem_values {es : List Exchange} {prompt : String} {v : Datum} (h : Heard es prompt v) :
    ∃ e ∈ es, v ∈ e.2.values := by
  cases h with
  | alone h => exact ⟨_, h, List.mem_singleton_self _⟩
  | @inBatch prompts rs j r h hprompt hreply =>
    refine ⟨_, h, List.mem_filterMap.mpr ⟨.ok r, List.mem_of_getElem? hreply, rfl⟩⟩

lemma generateBatch_values (p : Performance) (prompts : List String) :
    Ensures (generateBatch p prompts) fun es r => ∀ vs, r = .ok vs → ∀ v ∈ vs,
      ∃ e ∈ es, v ∈ e.2.values := by
  by_cases hne : prompts = []
  · subst hne
    refine .pure fun vs hvs => ?_
    cases hvs
    exact List.forall_mem_nil _
  obtain ⟨operation, hcall, heq⟩ := generateBatch_eq p hne
  rw [heq]
  refine (withRetry_heard hcall (fun a ha => by cases ha)).weaken fun es r h vs hvs v hv => ?_
  obtain ⟨o, hmem, ho⟩ := h vs hvs
  obtain ⟨rs, ho', rfl⟩ := severalAnswers_ok ho
  cases ho'
  obtain ⟨r, hr, rfl⟩ := List.mem_map.mp hv
  exact ⟨_, hmem, List.mem_filterMap.mpr ⟨.ok r, List.mem_map_of_mem hr, rfl⟩⟩

/-- A batch that is answered at the first try. -/
lemma generateBatch_answered {p : Performance} {prompts : List String} (hne : prompts ≠ [])
    {s : Session} {rs : List Reply}
    (h : s.script[0]?.map Event.outcome = some (.several (rs.map .ok))) :
    ((generateBatch p prompts).run s).1 = .ok (rs.map Reply.valueInBatch) := by
  obtain ⟨operation, hcall, heq⟩ := generateBatch_eq p hne
  rw [heq]
  obtain ⟨k, -, -, hbefore, hends⟩ := withRetry_endsAt (p := p) hcall s
  have hfirst : outcomeAt severalAnswers s.script 0 = .ok (rs.map Reply.valueInBatch) := by
    have hread : (rs.map (.ok : Reply → Except Fault Reply)).mapM id = .ok rs := by
      rw [mapM_map_eq_ok_iff, mapM_eq_ok_iff, List.forall₂_same]
      exact fun _ _ => rfl
    rw [outcomeAt, h, severalAnswers, severalOutcome, hread]
    rfl
  -- the answer is final, so there is no further try
  obtain rfl : k = 0 := by
    by_contra hk
    refine hbefore 0 (Nat.pos_of_ne_zero hk) fun f hf => ?_
    rw [hfirst] at hf
    cases hf
  rw [hends.value, hfirst]

end SpecScribe.Model

namespace SpecScribe.Analysis

open Chunk Model Settings

/-- Every analysis that can be read from what was heard satisfies a condition. -/
def Promises (P : Datum → Prop) (es : List Exchange) : Prop :=
  ∀ e ∈ es, ∀ v ∈ e.2.values, ∀ d, parseResponse v = .ok d → P d

section Promises

variable {P : Datum → Prop}

lemma Promises.mono {es es' : List Exchange} (h : Promises P es') (hsub : es ⊆ es') :
    Promises P es :=
  fun e he => h e (hsub he)

variable (hfailed : ∀ overview, P (failed overview))
include hfailed

lemma Analysed.of_promises {es : List Exchange} {c : CodeChunk} {d : Datum} (h : Analysed es c d)
    (hes : Promises P es) : P d := by
  rcases h with ⟨prompt, reply, -, hheard, hparse⟩ | h
  · obtain ⟨e, he, hv⟩ := hheard.mem_values
    exact hes e he reply hv d hparse
  · obtain ⟨overview, rfl⟩ := h.failed
    exact hfailed overview

lemma askChunks_promised (p : Performance) (cs : List CodeChunk) :
    Ensures (askChunks p cs) fun es r => ∀ ds, r = .ok ds → Promises P es → ∀ d ∈ ds, P d := by
  refine .ofExcept_bind (fun prompts _ => ?_) (by simp)
  refine (generateBatch_values p prompts).map (fun answers es hvalues ds hds hes => ?_) (by simp)
  cases hds
  refine List.forall_mem_map.mpr fun v hv => ?_
  obtain ⟨e, he, hmem⟩ := hvalues answers rfl v hv
  unfold parseAnswer
  split
  case h_1 d hparse => exact hes e he v hmem d hparse
  case h_2 f _ => exact hfailed _

lemma analyzeChunks_promised (p : Performance) (cs : List CodeChunk) :
    Ensures (analyzeChunks p cs) fun es r => ∃ ds, r = .ok ds ∧
      (Promises P es → ∀ d ∈ ds, P d) := by
  unfold analyzeChunks
  split
  case isTrue => exact .pure ⟨[], rfl, fun _ => List.forall_mem_nil _⟩
  case isFalse hne =>
    refine (askChunks_promised hfailed p cs).tryCatch (fun _ => analyzeEach_analysed p cs) ?_ ?_
    · exact fun ds es h => ⟨ds, rfl, h ds rfl⟩
    · rintro f es es' r - ⟨ds, rfl, hall⟩
      refine ⟨ds, rfl, fun hes => ?_⟩
      have hes' := hes.mono (List.subset_append_right es es')
      clear hne
      induction hall with
      | nil => exact List.forall_mem_nil _
      | cons h _ ih => exact List.forall_mem_cons.mpr ⟨h.of_promises hfailed hes', ih⟩

end Promises

end SpecScribe.Analysis

namespace SpecScribe.Generation

open Analysis Chunk Document Model Schema Settings Workspace

/-! ### All analyses -/

lemma analyzeBatches_promised {P : Datum → Prop} (hfailed : ∀ overview, P (failed overview))
    (p : Performance) (number : ℕ) (bs : List (List CodeChunk)) :
    Ensures (analyzeBatches p number bs) fun es r => ∃ ds, r = .ok (ds, []) ∧
      (Promises P es → ∀ d ∈ ds, P d) := by
  refine analyzeBatches_ensures (T := fun es _ ds => Promises P es → ∀ d ∈ ds, P d)
    (fun _ => List.forall_mem_nil _) ?_ ?_ (analyzeChunks_promised hfailed p) number bs
  · exact fun h hsub hes => h (hes.mono hsub)
  · exact fun h h' hes => List.forall_mem_append.mpr ⟨h hes, h' hes⟩

/-- One chunk, answered at the first try. -/
lemma analyzeAll_answered {p : Performance} {s : Session} {r : Reply} (c : CodeChunk)
    (h : s.script[0]?.map Event.outcome = some (.several [.ok r])) :
    ((analyzeAll p [c]).run s).1 = .ok ([parseAnswer r.valueInBatch], []) := by
  obtain ⟨prompt, hprompt⟩ := chunkPrompt_ok c
  have hprompts : [c].mapM chunkPrompt = .ok [prompt] := by
    rw [List.mapM_cons, hprompt]
    rfl
  have hreplies : s.script[0]?.map Event.outcome = some (.several ([r].map .ok)) := h
  obtain ⟨s', hbatch⟩ : ∃ s', (generateBatch p [prompt]).run s = (.ok [r.valueInBatch], s') :=
    ⟨_, Prod.ext (generateBatch_answered (by simp) hreplies) rfl⟩
  have hask : (askChunks p [c]).run s = (.ok [parseAnswer r.valueInBatch], s') := by
    rw [askChunks_run hprompts, hbatch]
    rfl
  have hchunks : (analyzeChunks p [c]).run s = (.ok [parseAnswer r.valueInBatch], s') :=
    Ask.run_tryCatch_ok _ hask
  have hall : analyzeAll p [c] = analyzeBatches p 1 [[c]] := rfl
  have hpair : Ask.run (do let ds ← analyzeChunks p [c]; pure (ds, ([] : List String))) s =
      (.ok ([parseAnswer r.valueInBatch], []), s') :=
    Ask.run_bind_ok _ hchunks
  rw [hall, analyzeBatches, Ask.run_bind_ok _ (Ask.run_tryCatch_ok _ hpair)]
  rfl

/-! ### The document without the model -/

lemma fillable_fallbackData {m : Combined} {c : Datum} (h : m.toDatum = .ok c) :
    ∃ data, fallbackData c = .ok data ∧ Fillable data m.modules := by
  obtain ⟨overview, hoverview⟩ := isOk_iff.mp (show m.overview.isOk from rfl)
  rw [Combined.toDatum, hoverview] at h
  cases h
  exact ⟨_, rfl, rfl, rfl, rfl, rfl, rfl⟩

/-- It can be written exactly when the parts of all analyses can. -/
lemma isOk_fallbackDocument {ds : List Datum} {c : Datum} (h : combine ds = .ok c)
    (date project : String) :
    (fallbackDocument date project c).isOk ↔ ∀ d ∈ ds, Writable (partsOf d) := by
  obtain ⟨m, hm, heach⟩ := combine_eq_ok h
  obtain ⟨data, hdata, hfill⟩ := fillable_fallbackData hm
  rw [fallbackDocument, hdata, ok_bind, isOk_specification hfill]
  exact heach WritableFunction WritableClass fun d => d.isRecord

/-! ### The output -/

/-- Everything but the content can be read, so the content decides. -/
lemma content_read {ms : Members} (htitle : (required ms "title" text).isOk)
    (hlanguage : (withDefault ms "language" text "ja").isOk)
    (hcreated : (required ms "created_at" text).isOk)
    (hsources : (required ms "source_files" (list Path.rule)).isOk)
    (hstats : (required ms "processing_stats" (record Stats.read)).isOk)
    (hmetadata : (withDefault ms "metadata" (table scalarText) []).isOk)
    (hcounts : (withDefault ms "language_distribution" (table integer) []).isOk) :
    (Output.read ms).map Output.content = required ms "content" text := by
  obtain ⟨a, ha⟩ := isOk_iff.mp htitle
  obtain ⟨c, hc⟩ := isOk_iff.mp hlanguage
  obtain ⟨d, hd⟩ := isOk_iff.mp hcreated
  obtain ⟨e, he⟩ := isOk_iff.mp hsources
  obtain ⟨f, hf⟩ := isOk_iff.mp hstats
  obtain ⟨g, hg⟩ := isOk_iff.mp hmetadata
  obtain ⟨h, hh⟩ := isOk_iff.mp hcounts
  rw [Output.read, ha, hc, hd, he, hf, hg, hh]
  rcases required ms "content" text with es | b
  · simp [Except.map, Checked.errors]
  · rfl

lemma isOk_statsRead {ms : Members} (hfiles : (withDefault ms "files_processed" integer 0).isOk)
    (hlines : (withDefault ms "lines_processed" integer 0).isOk)
    (hchunks : (withDefault ms "chunks_created" integer 0).isOk)
    (hseconds : (withDefault ms "processing_time_seconds" float 0.0).isOk)
    (herrors : (withDefault ms "errors_encountered" (list text) []).isOk) :
    (Stats.read ms).isOk := by
  obtain ⟨a, ha⟩ := isOk_iff.mp hfiles
  obtain ⟨b, hb⟩ := isOk_iff.mp hlines
  obtain ⟨c, hc⟩ := isOk_iff.mp hchunks
  obtain ⟨d, hd⟩ := isOk_iff.mp hseconds
  obtain ⟨e, he⟩ := isOk_iff.mp herrors
  rw [Stats.read, ha, hb, hc, hd, he]
  rfl

lemma isOk_languageCounts (cs : List CodeChunk) :
    (readEntries integer (((Generator.languageCounts cs).map
      fun (n, k) => (n, .int k)).map fun (k, v) => (.text k, v))).isOk :=
  isOk_readEntries (List.forall_mem_map.mpr (List.forall_mem_map.mpr fun _ _ => ⟨rfl, rfl⟩))

/-- What is counted does not matter to the content. -/
lemma content_output (g : Generator) (project : String) (cs : List CodeChunk) (created : ℕ)
    (notes : List String) (seconds : Float) (content : Datum) :
    (g.output project cs created notes seconds content).map Output.content =
      Checked.under (.name "content") (text content) := by
  have hsources : (readItems Path.rule 0
      ((Generator.sourcePaths cs).map fun p => .text p.toString)).isOk :=
    isOk_readItems (List.forall_mem_map.mpr fun p _ => rfl) 0
  have herrors : (readItems text 0 (notes.map .text)).isOk :=
    isOk_readItems (List.forall_mem_map.mpr fun s _ => rfl) 0
  rw [Generator.output, content_read rfl rfl rfl ?_ ?_ rfl ?_]
  · rfl
  · exact (isOk_under _ _).trans hsources
  · exact (isOk_under _ _).trans
      (isOk_statsRead rfl rfl rfl rfl ((isOk_under _ _).trans herrors))
  · exact (isOk_under _ _).trans (isOk_languageCounts cs)

lemma isOk_output (g : Generator) (project : String) (cs : List CodeChunk) (created : ℕ)
    (notes : List String) (seconds : Float) (content : Datum) :
    (g.output project cs created notes seconds content).isOk = readsAsText content := by
  have hcontent := content_output g project cs created notes seconds content
  rw [← isOk_map Output.content, hcontent, isOk_under]
  cases content <;> rfl

/-! ### The run -/

namespace Generator

variable {g : Generator} {project : String} {cs : List CodeChunk} {ds : List Datum}
  {notes : List String} {s s' : Session}

/-- Asks the model for the document. -/
def askDocument (g : Generator) (project : String) (analysis : Datum) : Ask Datum := do
  let prompt ← MonadExcept.ofExcept (documentPrompt project analysis)
  generate g.performance prompt

/-- The model's document, or the one written without it. -/
lemma run_writeDocument (g : Generator) (project : String) (c : Datum) (s : Session) :
    (g.writeDocument project c).run s =
      match (g.askDocument project c).run s with
      | (.ok d, s') => (.ok d, s')
      | (.error _, s') => ((fallbackDocument g.date project c).map .text, s') := by
  have hcatch : g.writeDocument project c = tryCatch (g.askDocument project c) fun _ => do
      let text ← MonadExcept.ofExcept (fallbackDocument g.date project c)
      return .text text := rfl
  rw [hcatch, Ask.run_tryCatch]
  rcases (g.askDocument project c).run s with ⟨f | d, s'⟩
  · rcases hfallback : fallbackDocument g.date project c with e | text <;> rfl
  · rfl

/-- The document can be put into the output: the model's if it is read as a text, the other one if
it can be written. -/
def Documented (g : Generator) (project : String) (c : Datum) : Except Fault Datum → Prop
  | .ok content => readsAsText content
  | .error _ => (fallbackDocument g.date project c).isOk

lemma documented_iff {c : Datum} (h : combine ds = .ok c) (r : Except Fault Datum) :
    Documented g project c r ↔
      match r with
      | .ok content => readsAsText content
      | .error _ => ∀ d ∈ ds, Writable (partsOf d) := by
  cases r with
  | ok content => exact Iff.rfl
  | error f => exact isOk_fallbackDocument h g.date project

lemma isOk_delivered (r : Checked Output) (s : Session) :
    (Ask.run (match r with
      | .ok o => pure o
      | .error es => throw (.invalid "SpecificationOutput" es)) s).1.isOk = r.isOk := by
  cases r <;> rfl

/-- An analysis that cannot be combined is the end of the run. -/
lemma run_produce_of_fault {f : Fault}
    (h : (analyzeAll g.performance cs).run s = (.ok (ds, notes), s')) (hf : combine ds = .error f) :
    (g.produce cs project).run s = (.error f, s') := by
  have hget : Ask.run get s = (.ok s, s) := rfl
  rw [produce, produceBy, Ask.run_bind_ok _ hget, Ask.run_bind_ok _ h]
  dsimp only
  rw [hf, Ask.run_bind_error _ (Ask.run_ofExcept _ _)]

/-- Once the chunks are analysed, the output depends on the analyses and the document only. -/
lemma isOk_produce (h : (analyzeAll g.performance cs).run s = (.ok (ds, notes), s')) :
    ((g.produce cs project).run s).1.isOk ↔
      ∃ c, combine ds = .ok c ∧ Documented g project c ((g.askDocument project c).run s').1 := by
  have hget : ∀ s : Session, Ask.run get s = (.ok s, s) := fun _ => rfl
  rcases hcombine : combine ds with f | c
  · rw [run_produce_of_fault h hcombine]
    simp
  rw [produce, produceBy, Ask.run_bind_ok _ (hget s), Ask.run_bind_ok _ h]
  dsimp only
  rw [hcombine, Ask.run_bind_ok _ (Ask.run_ofExcept _ _)]
  simp only [Except.ok.injEq, exists_eq_left']
  have hwrite := run_writeDocument g project c s'
  rcases hask : (g.askDocument project c).run s' with ⟨f | d, s''⟩ <;> rw [hask] at hwrite
  · rw [Documented]
    rcases hfallback : fallbackDocument g.date project c with e | text <;>
      rw [hfallback] at hwrite
    · rw [Ask.run_bind_error _ hwrite]
      rfl
    · rw [Ask.run_bind_ok _ hwrite, Ask.run_bind_ok _ (hget s'')]
      exact Bool.eq_iff_iff.mp ((isOk_delivered _ s'').trans (isOk_output ..))
  · rw [Ask.run_bind_ok _ hwrite, Ask.run_bind_ok _ (hget s'')]
    exact Bool.eq_iff_iff.mp ((isOk_delivered _ s'').trans (isOk_output ..))

lemma askDocument_values (g : Generator) (project : String) (c : Datum) :
    Ensures (g.askDocument project c) fun es r => ∀ d, r = .ok d → ∃ e ∈ es, d ∈ e.2.values := by
  refine .ofExcept_bind (fun prompt _ => ?_) (by simp)
  exact (generate_heard g.performance prompt).weaken fun es r hheard d hd =>
    (hheard d hd).mem_values

end Generator

/-- An analysis of the shape that was asked for: it can be combined with others, and its parts can
be written about. -/
structure Shaped (d : Datum) : Prop where
  combinable : Combinable d
  writable : Writable (partsOf d)

lemma shaped_empty : Shaped (.record []) := by
  refine ⟨⟨rfl, ?_, ?_, ?_, ?_⟩, ?_, ?_, ?_⟩ <;> intro v hv <;> cases hv

lemma failed_shaped (overview : String) : Shaped (failed overview) := by
  have hitems : ∀ key, (failed overview).get? key = some (.list []) →
      HasItems (failed overview) key := by
    intro key hkey v hv
    rw [Option.mem_def, hkey, Option.some.injEq] at hv
    subst hv
    rfl
  refine ⟨⟨rfl, fun v hv => ?_, hitems _ rfl, hitems _ rfl, hitems _ rfl⟩, Parts.each_empty⟩
  obtain rfl : Datum.text overview = v := Option.some.inj hv
  rfl

namespace Generator

/-- **When generation returns a document.** The analysis of the chunks never fails. The output is
then returned exactly when each analysis can be combined and either the model's document is read as
a text or, where there is none, the parts of each analysis can be written about. So it is returned
whenever the replies of the script are texts from which analyses of that shape are read, whatever
else the model does. -/
theorem produce_isOk_iff (g : Generator) (cs : List CodeChunk) (project : String) (s : Session) :
    (∃ ds s', (analyzeAll g.performance cs).run s = (.ok (ds, []), s') ∧
      (((g.produce cs project).run s).1.isOk ↔
        (∀ d ∈ ds, Combinable d) ∧ ∀ c, combine ds = .ok c →
          match ((g.askDocument project c).run s').1 with
          | .ok content => readsAsText content
          | .error _ => ∀ d ∈ ds, Writable (partsOf d))) ∧
    ((∀ v ∈ s.values, readsAsText v ∧
        ∀ d, parseResponse v = .ok d → Shaped d) →
      ∃ o, ((g.produce cs project).run s).1 = .ok o) := by
  obtain ⟨hlater, ds, hrun, hshaped⟩ := analyzeBatches_promised failed_shaped g.performance 1
    (batches (batchSize g.performance.batchSize cs.length).toNat cs) s
  set s' := ((analyzeAll g.performance cs).run s).2
  have hanalysed : (analyzeAll g.performance cs).run s = (.ok (ds, []), s') := Prod.ext hrun rfl
  have hiff : ((g.produce cs project).run s).1.isOk ↔
      (∀ d ∈ ds, Combinable d) ∧ ∀ c, combine ds = .ok c →
        match ((g.askDocument project c).run s').1 with
        | .ok content => readsAsText content
        | .error _ => ∀ d ∈ ds, Writable (partsOf d) := by
    rw [isOk_produce hanalysed, ← isOk_combine, isOk_iff]
    constructor
    · rintro ⟨c, hc, hdocument⟩
      refine ⟨⟨c, hc⟩, fun c' hc' => ?_⟩
      obtain rfl : c = c' := Except.ok.inj (hc.symm.trans hc')
      exact (documented_iff hc _).mp hdocument
    · rintro ⟨⟨c, hc⟩, hdocument⟩
      exact ⟨c, hc, (documented_iff hc _).mpr (hdocument c hc)⟩
  refine ⟨⟨ds, s', hanalysed, hiff⟩, fun hs => ?_⟩
  have hall := hshaped fun e he v hv => (hs v (mem_values_of_exchange he hv)).2
  rw [← isOk_iff, hiff]
  refine ⟨fun d hd => (hall d hd).combinable, fun c hc => ?_⟩
  rcases hask : ((g.askDocument project c).run s').1 with f | content
  · exact fun d hd => (hall d hd).writable
  · obtain ⟨-, hvalues⟩ := askDocument_values g project c s'
    obtain ⟨e, he, hv⟩ := hvalues content hask
    exact (hs content (hlater.values_subset (mem_values_of_exchange he hv))).1

/-- The only reply is an empty object, and the model is not there when the document is asked for. -/
theorem produce_isOk_iff_unanswered :
    let g : Generator := { config := {}, connection := ⟨.openai, "gpt-4", []⟩, date := "2024" }
    let c : CodeChunk := ⟨"x = 1", ⟨"", ["a.py"]⟩, .python, 1, 1, "text_chunk"⟩
    let s : Session := { script := [
      { outcome := .several [.ok (.message (.text "\x7b\x7d"))] },
      { outcome := .failure (.outside "TimeoutError" "") }] }
    (∀ v ∈ s.values, readsAsText v ∧ ∀ d, parseResponse v = .ok d → Shaped d) ∧
      ∃ o, ((g.produce [c] "P").run s).1 = .ok o := by
  intro g c s
  have hs : ∀ v ∈ s.values, readsAsText v ∧ ∀ d, parseResponse v = .ok d → Shaped d := by
    have hvalues : s.values = [.text "\x7b\x7d"] := rfl
    have hparse : parseResponse (.text "\x7b\x7d") = .ok (.record []) := by cbv
    intro v hv
    rw [hvalues, List.mem_singleton] at hv
    subst hv
    refine ⟨rfl, fun d hd => ?_⟩
    obtain rfl : .record [] = d := Except.ok.inj (hparse.symm.trans hd)
    exact shaped_empty
  exact ⟨hs, (produce_isOk_iff g [c] "P" s).2 hs⟩

/-- **Generation can fail.** The overview of the one reply is a number: the analysis is not
combined, and neither the model's document nor the one without it is used. -/
theorem produce_number_overview (g : Generator) (c : CodeChunk) (project : String) :
    ((g.produce [c] project).run { script := [
      { outcome := .several [.ok (.message (.text "\x7b\"overview\": 5\x7d"))] },
      { outcome := .single (.ok (.message (.text "# doc"))) }] }).1 =
      .error (.noMember "int" "lower") := by
  set s : Session := { script := [
    { outcome := .several [.ok (.message (.text "\x7b\"overview\": 5\x7d"))] },
    { outcome := .single (.ok (.message (.text "# doc"))) }] }
  have hparse : parseAnswer (.text "\x7b\"overview\": 5\x7d") = .record [("overview", .int 5)] := by
    cbv
  obtain ⟨s', hrun⟩ : ∃ s', (analyzeAll g.performance [c]).run s =
      (.ok ([.record [("overview", .int 5)]], []), s') := by
    refine ⟨_, Prod.ext ((analyzeAll_answered c rfl).trans ?_) rfl⟩
    rw [Reply.valueInBatch, hparse]
  rw [run_produce_of_fault hrun rfl]
  rfl

end Generator

end SpecScribe.Generation
