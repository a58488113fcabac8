import Mathlib
import SpecScribe.Program.Basic
import SpecScribe.Proofs.Chunk.Classes
import SpecScribe.Proofs.Effect
import SpecScribe.Proofs.Processing.Interleaving
import SpecScribe.Proofs.Workspace.Writing

/-!
What the exit code of the command that writes a specification says. Every fault on the way ends the
command with another code than zero, so that a document that was saved stands in the file. But a
file without chunks is no fault: nothing is written for it, and the exit code is zero as well.
-/

namespace SpecScribe.Program

open Workspace Settings Model Generation Document Chunk Syntax Processing Effect

/-! ### Running commands -/

section Commands

variable {α : Type} {a : α} {w w' : World}

lemma run_orStop_eq_ok {r : Except Fault α} :
    (orStop r).run w = (.ok a, w') ↔ r = .ok a ∧ w' = w := by
  cases r with
  | error f => exact ⟨nofun, nofun⟩
  | ok b =>
    constructor
    · intro h
      cases h
      exact ⟨rfl, rfl⟩
    · rintro ⟨h, rfl⟩
      cases h
      rfl

/-- The world after something was printed. -/
def World.saying (w : World) (text : String) : World :=
  { w with printed := w.printed ++ [.line text] }

@[simp] lemma World.saying_store (w : World) (text : String) :
    (w.saying text).store = w.store := rfl

@[simp] lemma World.saying_session (w : World) (text : String) :
    (w.saying text).session = w.session := rfl

lemma run_get_bind (f : World → Command α) (w : World) :
    (get >>= f).run w = (f w).run w := rfl

lemma run_say_bind (text : String) (x : Command α) (w : World) :
    (say text >>= fun _ => x).run w = x.run (w.saying text) := rfl

end Commands

/-! ### The specification of a file -/

section File

variable {α : Type} {a : α} {c : Config} {file output : Path} {semantic : Bool} {w w' : World}

/-- A part of the world that goes on whether or not there is a result. -/
lemma run_orStop_fst_eq_ok {σ : Type} {r : Except Fault α × σ} (update : σ → World) :
    (orStop r.1).run (update r.2) = (.ok a, w') ↔ ∃ t, r = (.ok a, t) ∧ w' = update t := by
  rw [run_orStop_eq_ok]
  constructor
  · rintro ⟨hr, rfl⟩
    exact ⟨r.2, Prod.ext hr rfl, rfl⟩
  · rintro ⟨t, rfl, rfl⟩
    exact ⟨rfl, rfl⟩

lemma run_ask_eq_ok {x : Ask α} :
    (ask x).run w = (.ok a, w') ↔
      ∃ session, x.run w.session = (.ok a, session) ∧ w' = { w with session := session } :=
  run_orStop_fst_eq_ok fun session => { w with session := session }

lemma run_save_eq_ok {o : Output} :
    (save o output).run w = (.ok (), w') ↔
      ∃ store, w.store.writeText output o.content = (.ok (), store) ∧
        w' = { w with store := store } :=
  run_orStop_fst_eq_ok fun store => { w with store := store }

/-- The chunks of a file. -/
def fileChunks (w : World) (c : Config) (file : Path) (semantic : Bool) :
    Except Fault (List CodeChunk) :=
  ((processor w c).processSingle w.store ⟨semantic, true⟩ file).1

/-- The generator of the documents. -/
def generatorFor (w : World) (c : Config) (k : Connection) : Generator :=
  { config := c, connection := k, date := w.date }

/-- The document for chunks of a file is produced in a session. -/
def Produces (w : World) (c : Config) (file : Path) (cs : List CodeChunk) (o : Output)
    (session : Session) : Prop :=
  ∃ k, connect c = .ok k ∧
    ((generatorFor w c k).produceBy (analyzeFile c.performance) (fun _ => 0) cs file.stem).run
      w.session = (.ok o, session)

lemma Produces.unique {cs : List CodeChunk} {o o' : Output} {session session' : Session}
    (h : Produces w c file cs o session) (h' : Produces w c file cs o' session') : o = o' := by
  obtain ⟨k, hk, hrun⟩ := h
  obtain ⟨k', hk', hrun'⟩ := h'
  cases hk.symm.trans hk'
  cases hrun.symm.trans hrun'
  rfl

/-- What the world is after a file was specified: nothing but a word was said, or the document was
produced and saved. -/
inductive Specified (c : Config) (file output : Path) (semantic : Bool) (w : World) :
    World → Prop
  | nothing (chunks : fileChunks w c file semantic = .ok []) :
    Specified c file output semantic w (w.saying "[red]No chunks generated from file[/red]")
  | saved {cs : List CodeChunk} {o : Output} {session : Session} {store : Store}
      (chunks : fileChunks w c file semantic = .ok cs) (some : cs ≠ [])
      (produced : Produces w c file cs o session)
      (written : w.store.writeText output o.content = (.ok (), store)) :
    Specified c file output semantic w
      (({ w with session := session.sleep finalPause, store := store }.saying
        ("[green]✓[/green] Specification saved to [green]" ++ output.toString ++ "[/green]")).saying
        ("[dim]Processed " ++ toString cs.length ++ " code chunks successfully[/dim]"))

lemma run_specifyFile_eq_ok :
    (specifyFile c file output semantic).run w = (.ok (), w') ↔
      Specified c file output semantic w w' := by
  rcases hsingle : (processor w c).processSingle w.store ⟨semantic, true⟩ file with ⟨r, p⟩
  have hr : fileChunks w c file semantic = r := congrArg Prod.fst hsingle
  rw [specifyFile, specifyFileBy, run_get_bind]
  simp only [hsingle]
  rw [← hr]
  constructor
  · intro h
    obtain ⟨cs, w₁, hstep, h⟩ := run_bind_eq_ok.mp h
    obtain ⟨hchunks, rfl⟩ := run_orStop_eq_ok.mp hstep
    split_ifs at h with hempty
    · cases h
      rw [List.isEmpty_iff.mp hempty] at hchunks
      exact .nothing hchunks
    · obtain ⟨k, w₂, hconnect, h⟩ := run_bind_eq_ok.mp h
      obtain ⟨hk, rfl⟩ := run_orStop_eq_ok.mp hconnect
      obtain ⟨o, w₃, hask, h⟩ := run_bind_eq_ok.mp h
      obtain ⟨session, ho, rfl⟩ := run_ask_eq_ok.mp hask
      obtain ⟨⟨⟩, w₄, hsave, h⟩ := run_bind_eq_ok.mp h
      obtain ⟨store, hstore, rfl⟩ := run_save_eq_ok.mp hsave
      cases h
      exact .saved hchunks (mt List.isEmpty_iff.mpr hempty) ⟨k, hk, ho⟩ hstore
  · intro h
    cases h with
    | nothing hchunks =>
      rw [hchunks]
      rfl
    | saved hchunks hsome hproduced hwritten =>
      obtain ⟨k, hk, ho⟩ := hproduced
      refine run_bind_eq_ok.mpr ⟨_, _, run_orStop_eq_ok.mpr ⟨hchunks, rfl⟩, ?_⟩
      rw [if_neg (mt List.isEmpty_iff.mp hsome)]
      refine run_bind_eq_ok.mpr ⟨_, _, run_orStop_eq_ok.mpr ⟨hk, rfl⟩, ?_⟩
      refine run_bind_eq_ok.mpr ⟨_, _, run_ask_eq_ok.mpr ⟨_, ho, rfl⟩, ?_⟩
      refine run_bind_eq_ok.mpr ⟨_, _, run_save_eq_ok.mpr ⟨_, hwritten, rfl⟩, ?_⟩
      rfl

end File

/-! ### The command -/

section Generate

variable {c : Config} {file output : Path} {semantic : Bool} {seconds : ℤ} {w w' : World}

lemma run_within_eq_ok {x : Command Unit} :
    (within seconds x).run w = (.ok (), w') ↔
      0 < seconds ∧ ¬ (Number.toFloat (.int seconds)).isInf ∧ x.run w = (.ok (), w') := by
  unfold within
  split_ifs with hpos hinf
  · exact ⟨nofun, fun h => absurd h.1 hpos.not_gt⟩
  · exact ⟨nofun, fun h => absurd hinf h.2.1⟩
  · exact ⟨fun h => ⟨not_le.mp hpos, hinf, h⟩, fun h => h.2.2⟩

/-- Reporting does not turn a stop into a success. -/
lemma run_reporting_eq_ok {x : Command Unit} :
    (reporting x).run w = (.ok (), w') ↔ x.run w = (.ok (), w') :=
  run_tryCatch_eq_ok fun _ _ => nofun

lemma exit_of_reporting {x : Command Unit} {s : Stop} (h : (reporting x).run w = (.error s, w')) :
    s = .exit 1 := by
  rcases hx : x.run w with ⟨s' | a, w₁⟩
  · rw [reporting, run_tryCatch_error _ hx] at h
    cases h
    rfl
  · rw [reporting, run_tryCatch_ok _ hx] at h
    cases h

/-- The world after the command has said what it is about to do. -/
def World.greeted (w : World) (file output : Path) (seconds : ℤ) : World :=
  (((w.saying "[bold blue]Specification Generation[/bold blue]").saying
    ("File: [green]" ++ file.toString ++ "[/green]")).saying
    ("Output: [green]" ++ output.toString ++ "[/green]")).saying
    ("Timeout: [yellow]" ++ toString seconds ++ "s[/yellow]")

@[simp] lemma World.greeted_store : (w.greeted file output seconds).store = w.store := rfl

@[simp] lemma World.greeted_session : (w.greeted file output seconds).session = w.session := rfl

/-- Nothing that was said changes the chunks. -/
lemma fileChunks_greeted (w : World) (c : Config) (file file' output : Path) (semantic : Bool)
    (seconds : ℤ) :
    fileChunks (w.greeted file' output seconds) c file semantic = fileChunks w c file semantic :=
  rfl

lemma produces_greeted {file' : Path} {cs : List CodeChunk} {o : Output} {session : Session} :
    Produces (w.greeted file' output seconds) c file cs o session ↔
      Produces w c file cs o session := Iff.rfl

/-- The command succeeds exactly if it has a configuration and time, and the file is specified. -/
lemma run_generate_eq_ok :
    (generate file output semantic seconds).run w = (.ok (), w') ↔
      ∃ c, Config.ofEnvironment w.environment = .ok c ∧ c.validate = .ok () ∧ 0 < seconds ∧
        ¬ (Number.toFloat (.int seconds)).isInf ∧
        Specified c file output semantic (w.greeted file output seconds) w' := by
  rw [generate, run_reporting_eq_ok, run_say_bind, run_say_bind, run_say_bind, run_say_bind,
    run_get_bind]
  simp only [run_bind_eq_ok, run_orStop_eq_ok]
  constructor
  · rintro ⟨c, _, ⟨hc, rfl⟩, ⟨⟩, _, ⟨hvalid, rfl⟩, h⟩
    rw [run_tryCatch_eq_ok (by rintro (_ | _ | _) w₁ <;> nofun), run_within_eq_ok,
      run_specifyFile_eq_ok] at h
    exact ⟨c, hc, hvalid, h⟩
  · rintro ⟨c, hc, hvalid, hpos, hfinite, hspecified⟩
    refine ⟨c, _, ⟨hc, rfl⟩, (), _, ⟨hvalid, rfl⟩, run_tryCatch_ok _ ?_⟩
    exact run_within_eq_ok.mpr ⟨hpos, hfinite, run_specifyFile_eq_ok.mpr hspecified⟩

end Generate

/-! ### The command line -/

section CommandLine

variable {args : List String} {w w' : World}

/-- What the command is asked to do. -/
structure Request where
  file : Path
  output : Path
  semantic : Bool
  seconds : ℤ

/-- The options of the command. -/
def generateSwitches : List Switch :=
  [{ names := ["--output", "-o"], takesValue := true }, { names := ["--semantic-chunking"] },
   { names := ["--timeout", "-t"], takesValue := true }] ++ [{ names := ["--help"] }]

/-- The request that a command line makes; none if it only calls for help. -/
inductive Asked (w : World) (args : List String) : Option Request → Prop
  | help {l : Line} (read : readLine generateSwitches true none {} args = some l)
      (called : l.has "--help") : Asked w args none
  | file {l : Line} {name : String} {seconds : ℤ}
      (read : readLine generateSwitches true none {} args = some l) (noHelp : ¬ l.has "--help")
      (words : l.words = [name])
      (time : Number.readInt? ((l.value? "--timeout").getD "600").toList = some seconds)
      (present : name ≠ "" ∧ w.store.isFile (.ofString name)) :
    Asked w args (some ⟨.ofString name, .ofString ((l.value? "--output").getD "./specification.md"),
      l.has "--semantic-chunking", seconds⟩)

lemma Asked.unique {r r' : Option Request} (h : Asked w args r) (h' : Asked w args r') :
    r = r' := by
  cases h with
  | help hread hcalled =>
    cases h' with
    | help => rfl
    | file hread' hnoHelp =>
      cases hread.symm.trans hread'
      exact absurd hcalled hnoHelp
  | file hread hnoHelp hwords htime =>
    cases h' with
    | help hread' hcalled =>
      cases hread.symm.trans hread'
      exact absurd hcalled hnoHelp
    | file hread' _ hwords' htime' =>
      cases hread.symm.trans hread'
      cases hwords.symm.trans hwords'
      cases htime.symm.trans htime'
      rfl

lemma runGenerate_of_help (h : Asked w args none) :
    (runGenerate args).run w = (.error (.exit 0), w) := by
  cases h with
  | help hread hcalled =>
    refine run_bind_error _ ?_
    rw [generateSwitches] at hread
    simp only [readOptions, hread]
    rw [if_pos hcalled]
    rfl

lemma runGenerate_of_asked {r : Request} (h : Asked w args (some r)) :
    (runGenerate args).run w = (generate r.file r.output r.semantic r.seconds).run w := by
  cases h with
  | file hread hnoHelp hwords htime hpresent =>
    rw [generateSwitches] at hread
    simp only [runGenerate, readOptions, hread]
    rw [if_neg hnoHelp, pure_bind, hwords, htime]
    dsimp only
    rw [run_get_bind, if_pos (by simpa using hpresent)]

lemma runGenerate_cases (w : World) (args : List String) :
    (∃ r, Asked w args r) ∨ (runGenerate args).run w = (.error (.exit 2), w) := by
  rw [runGenerate, readOptions, ← generateSwitches]
  rcases hread : readLine generateSwitches true none {} args with _ | l
  · exact .inr rfl
  by_cases hhelp : l.has "--help"
  · exact .inl ⟨none, .help hread hhelp⟩
  dsimp only
  rw [if_neg hhelp, pure_bind]
  split
  · rename_i name seconds hwords htime
    rw [run_get_bind]
    split_ifs with hpresent
    · refine .inl ⟨_, .file hread hhelp hwords htime (by simpa using hpresent)⟩
    · exact .inr rfl
  · exact .inr rfl

lemma run_generate (args : List String) : run ("generate" :: args) = runGenerate args := rfl

/-- A file that is specified lets the command end with exit code zero. -/
lemma runToEnd_of_specified {r : Request} {c : Config} (hasked : Asked w args (some r))
    (hc : Config.ofEnvironment w.environment = .ok c) (hvalid : c.validate = .ok ())
    (htime : 0 < r.seconds) (hfinite : ¬ (Number.toFloat (.int r.seconds)).isInf)
    (hspecified : Specified c r.file r.output r.semantic
      (w.greeted r.file r.output r.seconds) w') :
    runToEnd ("generate" :: args) w = (0, w') := by
  rw [runToEnd, run_generate, runGenerate_of_asked hasked,
    run_generate_eq_ok.mpr ⟨c, hc, hvalid, htime, hfinite, hspecified⟩]

/-- **What exit code zero means.** The command was called for help, and nothing was done; or the
configuration was accepted and the file was cut into chunks. If there are some, the document was
produced from them in this run, and the output file holds its content. If there are none, nothing
was asked and nothing written. -/
theorem generate_exit_zero (h : runToEnd ("generate" :: args) w = (0, w')) :
    Asked w args none ∧ w' = w ∨
    ∃ r c cs, Asked w args (some r) ∧ Config.ofEnvironment w.environment = .ok c ∧
      c.validate = .ok () ∧ fileChunks w c r.file r.semantic = .ok cs ∧
      (cs = [] → w'.store = w.store ∧ w'.session = w.session) ∧
      (cs ≠ [] → ∃ o session, Produces w c r.file cs o session ∧
        w'.session = session.sleep finalPause ∧
        w'.store.read r.output = .ok ⟨Text.encodeUtf8 o.content.toList, 0⟩) := by
  rw [runToEnd, run_generate] at h
  rcases runGenerate_cases w args with ⟨_ | r, hasked⟩ | husage
  · rw [runGenerate_of_help hasked] at h
    cases h
    exact .inl ⟨hasked, rfl⟩
  · rw [runGenerate_of_asked hasked] at h
    rcases hrun : (generate r.file r.output r.semantic r.seconds).run w with ⟨s | _, w₁⟩
    · obtain rfl := exit_of_reporting hrun
      rw [hrun] at h
      cases h
    · rw [hrun] at h
      cases h
      obtain ⟨c, hc, hvalid, -, -, hspecified⟩ := run_generate_eq_ok.mp hrun
      refine .inr ⟨r, c, ?_⟩
      cases hspecified with
      | nothing hchunks =>
        rw [fileChunks_greeted] at hchunks
        exact ⟨[], hasked, hc, hvalid, hchunks, fun _ => by simp, fun h => absurd rfl h⟩
      | saved hchunks hsome hproduced hwritten =>
        rw [fileChunks_greeted] at hchunks
        exact ⟨_, hasked, hc, hvalid, hchunks, fun h => absurd h hsome, fun _ =>
          ⟨_, _, produces_greeted.mp hproduced, rfl, Store.read_of_writeText hwritten⟩⟩
  · rw [husage] at h
    cases h

/-! ### Files with and without chunks -/

/-- The chunks of a file are those of its elements. -/
lemma fileChunks_eq {c : Config} {file : Path} {semantic : Bool} {content : Content} {l : Language}
    {es : List Element} {cs : List CodeChunk} (hstat : w.store.stat file = .ok (.file content))
    (hsize : content.size ≤ maxFileMb * 1024 * 1024) (hl : w.store.language? file = some l)
    (hwanted : c.languages.contains l)
    (hes : w.parsers.fileElements w.store file l = .ok es)
    (hcs : (es.mapM fun e => CodeChunk.make e.content file l e.startLine e.endLine e.kind) =
      .ok cs) :
    fileChunks w c file semantic = .ok cs := by
  have hmodule : ∃ m, Modules.readModule w.parsers w.store file l = .ok m ∧ m.elements = es := by
    unfold Modules.readModule
    rw [hes, ok_bind]
    split <;> exact ⟨_, rfl, rfl⟩
  obtain ⟨m, hm, rfl⟩ := hmodule
  have hchunks : (ofElements {} w.parsers w.store file l).1 = cs := by
    rw [ofElements, Modules.Analyzer.analyzeFile, hm]
    simp only [ofModule, hcs]
  have hfits : Scanner.Fits w.store (fun l => (processor w c).isWanted (some l))
      ⟨file, l, content.size⟩ := ⟨hl, congrArg Except.ok hwanted⟩
  have houtcome : ((processor w c).processFile w.store ⟨semantic, true⟩ file l).1.chunks = cs := by
    rw [Processor.processFile, hstat]
    simp only [hsize.not_gt, if_false]
    exact hchunks
  rw [fileChunks, processSingle_of_fits hfits, houtcome]

/-- A world with a key and one file, for which the parser gives a tree. -/
def keyedWorld (source : String) (tree : Node) (script : List Event) : World where
  environment := [("OPENAI_API_KEY", "k")]
  store := { root := .dir [("a.py", .file ⟨Text.encodeUtf8 source.toList, 0⟩)] }
  parsers := parsersFor tree
  splitters := ⟨fun _ => .ok [], fun _ => .ok [], true⟩
  session := { script := script }

def keyed : Config := { openaiKey := some "k" }

lemma ofEnvironment_key : Config.ofEnvironment [("OPENAI_API_KEY", "k")] = .ok keyed := by
  unfold keyed
  cbv

/-- The file is asked for by its name alone. -/
def plainRequest : Request := ⟨⟨"", ["a.py"]⟩, ⟨"", ["specification.md"]⟩, false, 600⟩

section KeyedWorld

variable (source : String) (tree : Node) (script : List Event)

lemma stat_keyedWorld : (keyedWorld source tree script).store.stat ⟨"", ["a.py"]⟩ =
    .ok (.file ⟨Text.encodeUtf8 source.toList, 0⟩) :=
  Store.stat_name rfl (by decide) (by decide) rfl

lemma asked_plain : Asked (keyedWorld source tree script) ["a.py"] (some plainRequest) := by
  have htime : Number.readInt? "600".toList = some 600 := by cbv
  have hfile : (keyedWorld source tree script).store.isFile ⟨"", ["a.py"]⟩ := by
    rw [Store.isFile, stat_keyedWorld]
  exact .file (l := ⟨[], ["a.py"]⟩) rfl (by decide) rfl htime ⟨by decide, hfile⟩

lemma fileElements_keyedWorld {es : List Element}
    (hes : Dialect.python.extractAll (matchFinder tree) = .ok es) :
    (keyedWorld source tree script).parsers.fileElements (keyedWorld source tree script).store
      ⟨"", ["a.py"]⟩ .python = .ok es := by
  have hsupports : (parsersFor tree).supports .python := rfl
  change (parsersFor tree).fileElements _ _ _ = _
  rw [Parsers.fileElements, if_pos hsupports,
    Store.read_of_stat (stat_keyedWorld source tree script)]
  simp only [Parsers.elementsOf, if_pos hsupports]
  change Except.ok (Parsers.orNone (Dialect.python.extractAll (matchFinder tree))) = _
  rw [hes]
  rfl

variable {source tree script}

lemma runToEnd_keyedWorld
    (hspecified : Specified keyed ⟨"", ["a.py"]⟩ ⟨"", ["specification.md"]⟩ false
      ((keyedWorld source tree script).greeted ⟨"", ["a.py"]⟩ ⟨"", ["specification.md"]⟩ 600) w') :
    runToEnd ["generate", "a.py"] (keyedWorld source tree script) = (0, w') := by
  have hvalid : keyed.validate = .ok () := by
    unfold keyed
    cbv
  have hfinite : ¬ (Number.toFloat (.int 600)).isInf := by decide +kernel
  exact runToEnd_of_specified (asked_plain ..) ofEnvironment_key hvalid (by decide) hfinite
    hspecified

end KeyedWorld

/-- A function, and a model that writes a short document about it. -/
def functionWorld : World :=
  keyedWorld "def f(): pass"
    (.mk "module" ⟨0, 0⟩ ⟨1, 0⟩ none none
      [.mk "function_definition" ⟨0, 0⟩ ⟨0, 13⟩ (some (.ok "def f(): pass")) none
        [.mk "identifier" ⟨0, 4⟩ ⟨0, 5⟩ (some (.ok "f")) (some "name") [],
         .mk "block" ⟨0, 9⟩ ⟨0, 13⟩ none (some "body") []]])
    [{ outcome := .several [.ok (.message (.text "\x7b\x7d"))] },
     { outcome := .single (.ok (.message (.text "# f"))) }]

def functionChunk : CodeChunk := ⟨"def f(): pass", ⟨"", ["a.py"]⟩, .python, 1, 1, "function"⟩

lemma fileChunks_functionWorld (semantic : Bool) :
    fileChunks functionWorld keyed ⟨"", ["a.py"]⟩ semantic = .ok [functionChunk] :=
  fileChunks_eq (stat_keyedWorld ..) (by decide +kernel) rfl rfl
    (fileElements_keyedWorld _ _ _ rfl) rfl

/-- The document about the function, if one is produced. -/
def functionDocument : Option String := do
  let k ← (connect keyed).toOption
  let g := generatorFor functionWorld keyed k
  let (r, _) := (g.produceBy (analyzeFile keyed.performance) (fun _ => 0) [functionChunk] "a").run
    functionWorld.session
  r.toOption.map Output.content

lemma exists_functionDocument :
    ∃ o session, Produces functionWorld keyed ⟨"", ["a.py"]⟩ [functionChunk] o session ∧
      o.content = "# f" := by
  have hdocument : functionDocument = some "# f" := by decide +kernel
  obtain ⟨k, hk⟩ : ∃ k, connect keyed = .ok k := ⟨_, rfl⟩
  rw [functionDocument, hk] at hdocument
  rcases hrun : ((generatorFor functionWorld keyed k).produceBy (analyzeFile keyed.performance)
    (fun _ => 0) [functionChunk] "a").run functionWorld.session with ⟨f | o, session⟩
  · simp only [Except.toOption, Option.bind_eq_bind, Option.bind_some, hrun] at hdocument
    cases hdocument
  · simp only [Except.toOption, Option.bind_eq_bind, Option.bind_some, hrun] at hdocument
    exact ⟨o, session, ⟨k, hk, hrun⟩, Option.some.inj hdocument⟩

/-- The document about the function is saved. -/
theorem generate_exit_zero_written :
    ∃ w', runToEnd ["generate", "a.py"] functionWorld = (0, w') ∧
      w'.store.read ⟨"", ["specification.md"]⟩ = .ok ⟨Text.encodeUtf8 "# f".toList, 0⟩ := by
  obtain ⟨o, session, hproduced, hcontent⟩ := exists_functionDocument
  obtain ⟨store, hwritten⟩ : ∃ store, functionWorld.store.writeText plainRequest.output o.content =
      (.ok (), store) := Store.writeText_name rfl (by decide) (by decide) rfl o.content
  have hrun : runToEnd ["generate", "a.py"] functionWorld = (0, _) := runToEnd_keyedWorld
    (.saved (fileChunks_functionWorld false) (List.cons_ne_nil _ _) hproduced hwritten)
  obtain ⟨hhelp, -⟩ | ⟨r, c, cs, hasked, hc, -, hcs, -, hsaved⟩ := generate_exit_zero hrun
  · cases hhelp.unique (asked_plain ..)
  · cases hasked.unique (asked_plain ..)
    cases hc.symm.trans ofEnvironment_key
    cases hcs.symm.trans (fileChunks_functionWorld false)
    obtain ⟨o', session', hproduced', -, hread⟩ := hsaved (List.cons_ne_nil _ _)
    obtain rfl := hproduced.unique hproduced'
    exact ⟨_, hrun, hcontent ▸ hread⟩

/-- An assignment alone. -/
def assignmentWorld : World :=
  keyedWorld "x = 1"
    (.mk "module" ⟨0, 0⟩ ⟨1, 0⟩ none none
      [.mk "expression_statement" ⟨0, 0⟩ ⟨0, 5⟩ (some (.ok "x = 1")) none []])
    []

/-- **Exit code zero without a document.** An assignment alone makes no chunks: the command ends
with exit code zero, and there is no output file. -/
theorem generate_exit_zero_unwritten :
    ∃ w', runToEnd ["generate", "a.py"] assignmentWorld = (0, w') ∧
      w'.store = assignmentWorld.store ∧ w'.session = assignmentWorld.session ∧
      ¬ w'.store.isFile ⟨"", ["specification.md"]⟩ := by
  have hchunks : fileChunks assignmentWorld keyed ⟨"", ["a.py"]⟩ false = .ok [] :=
    fileChunks_eq (stat_keyedWorld ..) (by decide +kernel) rfl rfl
      (fileElements_keyedWorld _ _ _ rfl) rfl
  refine ⟨_, runToEnd_keyedWorld (.nothing hchunks), rfl, rfl, ?_⟩
  change ¬ assignmentWorld.store.isFile _
  rw [Store.isFile, assignmentWorld, keyedWorld, Store.stat_name_new rfl (by decide) (by decide) rfl]
  decide

end CommandLine

end SpecScribe.Program
