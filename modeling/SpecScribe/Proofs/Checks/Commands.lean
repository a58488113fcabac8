import Mathlib
import SpecScribe.Checks.Command
import SpecScribe.Proofs.Datum.Keys
import SpecScribe.Proofs.Shell.Running

/-!
What checks do to the terminal. Each check runs one command; with which success the checks end, and
what is noted of them, follows from the list of commands and the outcomes that are left for them.
-/

namespace SpecScribe.Checks

open Shell Effect

/-! ### Commands and their outcomes -/

/-- A command that is run for a check, with the name under which the check is noted. The packages
are installed without a name. -/
structure Planned where
  words : List String
  name : Option String

/-- A command with what became of it. -/
structure Executed where
  words : List String
  result : Except Fault Finished

/-- The command could be run. -/
def Executed.ended (e : Executed) : Bool := e.result.isOk

def Executed.endedWell (e : Executed) : Bool := endsWell e.result

/-- Every command takes the next outcome. -/
def perform : List Outcome → List (List String) → List Executed
  | _, [] => []
  | os, words :: rest => ⟨words, upcoming os⟩ :: perform os.tail rest

/-- What is noted of a command: its success, if it has a name and came to an end. -/
def Planned.note (p : Planned) (verdicts : List (String × Bool)) (os : List Outcome) :
    List (String × Bool) :=
  match p.name, upcoming os with
  | some n, .ok r => setKey n (r.code == 0) verdicts
  | _, _ => verdicts

/-- What is noted of all commands. -/
def notes : List (String × Bool) → List Outcome → List Planned → List (String × Bool)
  | verdicts, _, [] => verdicts
  | verdicts, os, p :: ps => notes (p.note verdicts os) os.tail ps

lemma perform_append (os : List Outcome) (ws vs : List (List String)) :
    perform os (ws ++ vs) = perform os ws ++ perform (os.drop ws.length) vs := by
  induction ws generalizing os with
  | nil => rfl
  | cons words ws ih =>
    rw [List.cons_append, perform, perform, ih, List.length_cons, List.cons_append,
      List.drop_tail]

lemma notes_append (verdicts : List (String × Bool)) (os : List Outcome) (ps qs : List Planned) :
    notes verdicts os (ps ++ qs) = notes (notes verdicts os ps) (os.drop ps.length) qs := by
  induction ps generalizing verdicts os with
  | nil => rfl
  | cons p ps ih => rw [List.cons_append, notes, notes, ih, List.length_cons, List.drop_tail]

/-- The names of all checks that were noted, with their successes. -/
def Runner.verdicts (r : Runner) : List (String × Bool) := r.results.map fun e => (e.1, e.2.success)

lemma Runner.verdicts_note (r : Runner) (name : String) (c : CheckResult) :
    (r.note name c).verdicts = setKey name c.success r.verdicts := by
  obtain ⟨results⟩ := r
  exact map_setKey CheckResult.success name c results

/-! ### One run -/

/-- The commands were run, one after another: each took an outcome, all of them decide about the
success, and what is noted of them is. -/
structure Performed (r : Runner) (s : Terminal) (ps : List Planned) (success : Bool) (r' : Runner)
    (s' : Terminal) : Prop where
  outcomes : s'.outcomes = s.outcomes.drop ps.length
  commands : s'.commands = s.commands ++ ps.map (·.words)
  interpreter : s'.interpreter = s.interpreter
  success : success = (perform s.outcomes (ps.map (·.words))).all Executed.endedWell
  verdicts : r'.verdicts = notes r.verdicts s.outcomes ps

namespace Performed

variable {r r₁ r' : Runner} {s s₁ s' : Terminal} {ps qs : List Planned} {b b' : Bool}

lemma nil (r : Runner) (s : Terminal) : Performed r s [] true r s :=
  ⟨rfl, (List.append_nil _).symm, rfl, rfl, rfl⟩

lemma append (h : Performed r s ps b r₁ s₁) (h' : Performed r₁ s₁ qs b' r' s') :
    Performed r s (ps ++ qs) (b && b') r' s' where
  outcomes := by rw [h'.outcomes, h.outcomes, List.drop_drop, List.length_append]
  commands := by rw [h'.commands, h.commands, List.map_append, List.append_assoc]
  interpreter := h'.interpreter.trans h.interpreter
  success := by
    rw [h.success, h'.success, h.outcomes, List.map_append, perform_append, List.all_append,
      List.length_map]
  verdicts := by rw [h'.verdicts, h.verdicts, h.outcomes, notes_append]

/-- A single command leaves the next outcomes behind it. -/
lemma single {p : Planned} (houtcomes : s'.outcomes = s.outcomes.tail)
    (hcommands : s'.commands = s.commands ++ [p.words]) (hinterpreter : s'.interpreter = s.interpreter)
    (hsuccess : b = endsWell (upcoming s.outcomes))
    (hverdicts : r'.verdicts = p.note r.verdicts s.outcomes) : Performed r s [p] b r' s' where
  outcomes := by rw [houtcomes, List.length_singleton, List.drop_one]
  commands := hcommands
  interpreter := hinterpreter
  success := by
    rw [hsuccess, List.map_singleton, perform, perform, List.all_cons, List.all_nil, Bool.and_true,
      Executed.endedWell]
  verdicts := hverdicts

/-- A command that cannot be run fails, and nothing is noted. -/
lemma unrunnable {p : Planned} {f : Fault} (hnext : upcoming s.outcomes = .error f)
    (houtcomes : s'.outcomes = s.outcomes.tail) (hcommands : s'.commands = s.commands ++ [p.words])
    (hinterpreter : s'.interpreter = s.interpreter) : Performed r s [p] false r s' := by
  refine .single houtcomes hcommands hinterpreter (by rw [hnext]; rfl) ?_
  rw [Planned.note, hnext]
  cases p.name <;> rfl

/-- A command that comes to an end is noted with its success. -/
lemma finished {words : List String} {name : String} {f : Finished} {c : CheckResult}
    (hnext : upcoming s.outcomes = .ok f) (hc : c.success = (f.code == 0))
    (houtcomes : s'.outcomes = s.outcomes.tail) (hcommands : s'.commands = s.commands ++ [words])
    (hinterpreter : s'.interpreter = s.interpreter) :
    Performed r s [⟨words, some name⟩] (f.code == 0) (r.note name c) s' := by
  refine .single houtcomes hcommands hinterpreter (by rw [hnext]; rfl) ?_
  rw [Runner.verdicts_note, Planned.note, hnext, hc]

/-- What is printed before does not count. -/
lemma of_told {text : String} (h : Performed r (told s text) ps b r' s') : Performed r s ps b r' s' :=
  ⟨h.outcomes, h.commands, h.interpreter, h.success, h.verdicts⟩

lemma then_told (h : Performed r s ps b r' s') (text : String) :
    Performed r s ps b r' (told s' text) :=
  ⟨h.outcomes, h.commands, h.interpreter, h.success, h.verdicts⟩

end Performed

/-- From every state, the commands are run. -/
def Performs (interpreter : String) (ps : List Planned) (x : Runner → Run (Bool × Runner)) : Prop :=
  ∀ r s, s.interpreter = interpreter →
    ∃ b r' s', (x r).run s = (.ok (b, r'), s') ∧ Performed r s ps b r' s'

section Single

lemma run_sayVerdict (description : String) (success : Bool) (duration : Number) (s : Terminal) :
    ∃ text, (sayVerdict description success duration).run s = (.ok (), told s text) := by
  cases success <;> exact ⟨_, rfl⟩

lemma run_timed (words : List String) (s : Terminal) :
    (timed words).run s =
      ((upcoming s.outcomes).map fun f => (f, (advanced s words).now.sub s.now),
        advanced s words) := by
  have hclock : clock.run s = (.ok s.now, s) := rfl
  have hcommand := run_command words s
  rw [timed, run_bind_ok _ hclock]
  rcases hnext : upcoming s.outcomes with f | r <;> rw [hnext] at hcommand
  · exact run_bind_error _ hcommand
  · exact run_bind_ok _ hcommand

/-- The command of a linter. -/
def Tool.words (t : Tool) (fix : Bool) : List String :=
  match fix, t.repair with
  | true, some words => words
  | _, _ => t.check

def Tool.planned (t : Tool) (fix : Bool) : Planned := ⟨t.words fix, some ("lint_" ++ t.name)⟩

def Category.planned (c : Category) (o : TestOptions) : Planned := ⟨c.command o, some c.name⟩

def installation (interpreter : String) : Planned :=
  ⟨[interpreter, "-m", "pip", "install"] ++ dependencies, none⟩

variable (interpreter : String)

lemma performs_runCategory (c : Category) (o : TestOptions) :
    Performs interpreter [c.planned o] fun r => r.runCategory c o := by
  intro r s _
  dsimp only [Runner.runCategory]
  rw [run_bind_ok _ (run_say _ _), run_bind_ok _ (run_say _ _),
    run_bind_ok _ (run_attempt (run_timed _ _))]
  simp only [told_outcomes]
  rcases hnext : upcoming s.outcomes with f | f <;> dsimp only [Except.map]
  · split_ifs <;> exact ⟨_, _, _, rfl, .unrunnable hnext rfl rfl rfl⟩
  · obtain ⟨text, hsay⟩ := run_sayVerdict c.description (f.code == 0) _ _
    rw [run_bind_ok _ hsay]
    exact ⟨_, _, _, rfl, .finished hnext rfl rfl rfl rfl⟩

lemma performs_runTool (t : Tool) (fix verbose : Bool) :
    Performs interpreter [t.planned fix] fun r => r.runTool t fix verbose := by
  intro r s _
  obtain ⟨name, description, check, repair⟩ := t
  -- the cases differ in the words of the command and in what is printed first
  rcases fix with _ | _ <;> rcases repair with _ | repair <;> rcases verbose with _ | _
  all_goals
    dsimp only [Runner.runTool]
    simp only [Bool.false_eq_true, if_false, if_true]
    repeat rw [run_bind_ok _ (run_say _ _)]
    rw [run_bind_ok _ (run_attempt (run_timed _ _))]
    simp only [told_outcomes]
    rcases hnext : upcoming s.outcomes with f | f <;> dsimp only [Except.map]
    · split_ifs <;> exact ⟨_, _, _, rfl, .unrunnable hnext rfl rfl rfl⟩
    · obtain ⟨text, hsay⟩ := run_sayVerdict description (f.code == 0) _ _
      rw [run_bind_ok _ hsay]
      split_ifs <;> exact ⟨_, _, _, rfl, .finished hnext rfl rfl rfl rfl⟩

lemma performs_install :
    Performs interpreter [installation interpreter]
      fun r => do return (← installDependencies, r) := by
  intro r s hs
  subst hs
  have hget : ∀ t : Terminal, (get : Run Terminal).run t = (.ok t, t) := fun t => rfl
  have hinstall : ∃ s', installDependencies.run s = (.ok (endsWell (upcoming s.outcomes)), s') ∧
      s'.outcomes = s.outcomes.tail ∧
      s'.commands = s.commands ++ [(installation s.interpreter).words] ∧
      s'.interpreter = s.interpreter := by
    rw [installDependencies, run_bind_ok _ (run_say _ _), run_bind_ok _ (hget _),
      run_bind_ok _ (run_attempt (run_command _ _)), told_outcomes]
    rcases upcoming s.outcomes with f | f
    · exact ⟨_, rfl, rfl, rfl, rfl⟩
    · dsimp only [endsWell]
      rcases hcode : f.code == 0 with _ | _ <;> exact ⟨_, rfl, rfl, rfl, rfl⟩
  obtain ⟨s', hrun, houtcomes, hcommands, hinterpreter⟩ := hinstall
  refine ⟨_, r, s', run_bind_ok _ hrun, .single houtcomes hcommands hinterpreter rfl ?_⟩
  rfl

/-- The group of tests that a name stands for. -/
def grouped (name : String) : List Category := (categories.find? (·.name == name)).toList

lemma performs_runTests {name : String} (h : grouped name ≠ []) (o : TestOptions) :
    Performs interpreter ((grouped name).map (·.planned o)) fun r => r.runTests (.text name) o := by
  intro r s hs
  have hkey : (keyOf (.text name) : Run (Option String)).run s = (.ok (some name), s) := rfl
  dsimp only
  rw [Runner.runTests, run_bind_ok _ hkey, Option.bind_some]
  unfold grouped at h ⊢
  rcases hfind : categories.find? (·.name == name) with _ | c
  · rw [hfind] at h
    exact absurd rfl h
  · rw [hfind]
    exact performs_runCategory interpreter c o r s hs

/-- Linters decide together, with what was known before. -/
lemma run_runTools (fix verbose : Bool) (ts : List Tool) (passed : Bool) (r : Runner)
    (s : Terminal) :
    ∃ b r' s', (Runner.runTools fix verbose ts passed r).run s = (.ok (passed && b, r'), s') ∧
      Performed r s (ts.map (·.planned fix)) b r' s' := by
  induction ts generalizing passed r s with
  | nil => exact ⟨true, r, s, by rw [Bool.and_true]; rfl, .nil r s⟩
  | cons t ts ih =>
    obtain ⟨b, r₁, s₁, hrun, hfirst⟩ := performs_runTool s.interpreter t fix verbose r s rfl
    obtain ⟨b', r', s', hrest, hperformed⟩ := ih (passed && b) r₁ s₁
    refine ⟨b && b', r', s', ?_, hfirst.append hperformed⟩
    rw [Runner.runTools, run_bind_ok _ hrun]
    rw [Bool.and_assoc] at hrest
    exact hrest

/-- The linters that a name stands for. -/
def named (name : String) : List Tool :=
  if name = "all" then tools else (tools.find? (·.name == name)).toList

lemma performs_runLinting {name : String} (h : named name ≠ []) (fix verbose : Bool) :
    Performs interpreter ((named name).map (·.planned fix))
      fun r => r.runLinting (.text name) fix verbose := by
  intro r s _
  obtain ⟨b, r', s', hrun, hperformed⟩ := run_runTools fix verbose (named name) true r s
  refine ⟨b, r', s', ?_, hperformed⟩
  have hkey : (keyOf (.text name) : Run (Option String)).run s = (.ok (some name), s) := rfl
  dsimp only
  rw [Runner.runLinting, run_bind_ok _ hkey]
  unfold named at h hrun
  split_ifs at h hrun with hall
  · subst hall
    exact hrun
  · have hother : (some name == some "all") = false := by simpa using hall
    rcases hfind : tools.find? (·.name == name) with _ | t
    · rw [hfind] at h
      exact absurd rfl h
    · rw [hfind] at hrun
      rw [hother, Option.bind_some, hfind]
      exact hrun

end Single

/-! ### Steps -/

variable {interpreter : String} {plans : List (List Planned)}

lemma run_runAllSteps {steps : List Runner.Step}
    (h : List.Forall₂ (fun st ps => Performs interpreter ps st.run) steps plans) (passed : Bool)
    (r : Runner) (s : Terminal) (hs : s.interpreter = interpreter) :
    ∃ b r' s', (Runner.runAllSteps steps passed r).run s = (.ok (passed && b, r'), s') ∧
      Performed r s plans.flatten b r' s' := by
  induction h generalizing passed r s with
  | nil => exact ⟨true, r, s, by rw [Bool.and_true]; rfl, .nil r s⟩
  | @cons st ps steps plans hstep _ ih =>
    rw [Runner.runAllSteps]
    dsimp only
    rw [run_bind_ok _ (run_say _ _)]
    generalize hbefore : told s _ = s₀
    obtain ⟨b, r₁, s₁, hrun, hfirst⟩ := hstep r s₀ (hbefore ▸ hs)
    rw [run_bind_ok _ hrun]
    dsimp only
    rw [run_bind_ok _ (run_say _ _)]
    generalize hafter : told s₁ _ = s₂
    have hstep' : Performed r s ps b r₁ s₂ := by
      subst hbefore hafter
      exact hfirst.of_told.then_told _
    obtain ⟨b', r', s', hrest, hperformed⟩ := ih (passed && b) r₁ s₂ (hstep'.interpreter.trans hs)
    refine ⟨b && b', r', s', ?_, hstep'.append hperformed⟩
    rw [← Bool.and_assoc]
    exact hrest

/-- Steps that stop at the first failure run the commands of the first of them, at least of one. -/
lemma run_runUntilFailure {steps : List Runner.Step}
    (h : List.Forall₂ (fun st ps => Performs interpreter ps st.run) steps plans) (r : Runner)
    (s : Terminal) (hs : s.interpreter = interpreter) :
    ∃ n b r' s', (Runner.runUntilFailure steps r).run s = (.ok (b, r'), s') ∧
      Performed r s (plans.take n).flatten b r' s' ∧ (steps ≠ [] → n ≠ 0) := by
  induction h generalizing r s with
  | nil => exact ⟨0, true, r, s, rfl, .nil r s, fun hne => absurd rfl hne⟩
  | @cons st ps steps plans hstep _ ih =>
    rw [Runner.runUntilFailure, run_bind_ok _ (run_say _ _)]
    generalize hbefore : told s _ = s₀
    obtain ⟨b, r₁, s₁, hrun, hfirst⟩ := hstep r s₀ (hbefore ▸ hs)
    rw [run_bind_ok _ hrun]
    have hstep' : ∀ text, Performed r s ps b r₁ (told s₁ text) := by
      subst hbefore
      exact hfirst.of_told.then_told
    cases b with
    | false =>
      refine ⟨1, false, r₁, _, rfl, ?_, fun _ => one_ne_zero⟩
      rw [List.take_succ_cons, List.take_zero, List.flatten_singleton]
      exact hstep' _
    | true =>
      obtain ⟨n, b', r', s', hrest, hperformed, -⟩ := ih r₁ (told s₁ _)
        ((hstep' _).interpreter.trans hs)
      refine ⟨n + 1, b', r', s', hrest, ?_, fun _ => n.succ_ne_zero⟩
      rw [List.take_succ_cons, List.flatten_cons]
      exact (hstep' _).append hperformed

end SpecScribe.Checks
