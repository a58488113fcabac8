import Mathlib
import SpecScribe.Proofs.Checks.Commands
import SpecScribe.Proofs.Shell.Arguments
import SpecScribe.Proofs.Shell.Running
import SpecScribe.Proofs.Workspace.Writing

/-!
What the report says and with which code the checks exit. The report counts the checks that came to
an end; the exit code looks at every command. So a command that cannot be run, and an installation
that fails, make the exit code one without being reported.
-/

namespace SpecScribe.Checks

open Shell Effect Workspace

/-! ### The commands of each mode -/

/-- The command installs the packages that the checks need. -/
def isInstallation (words : List String) : Bool :=
  words.tail == ["-m", "pip", "install"] ++ dependencies

/-- Commands for checks: there is one, no name stands twice, and only the installation has none. -/
structure Proper (ps : List Planned) : Prop where
  ne_nil : ps ≠ []
  nodup : (ps.filterMap (·.name)).Nodup
  unnamed : ∀ p ∈ ps, p.name = none ↔ isInstallation p.words

lemma named_sublist (name : String) : (named name).Sublist tools := by
  unfold named
  split_ifs
  · exact List.Sublist.refl _
  · rcases hfind : tools.find? (·.name == name) with _ | t <;> rw [hfind]
    · exact List.nil_sublist _
    · exact List.singleton_sublist.mpr (List.mem_of_find?_eq_some hfind)

namespace Proper

variable {ps qs : List Planned}

lemma sublist (h : Proper ps) (hsub : qs.Sublist ps) (hne : qs ≠ []) : Proper qs :=
  ⟨hne, h.nodup.sublist (hsub.filterMap _), fun p hp => h.unnamed p (hsub.subset hp)⟩

lemma installation_cons (interpreter : String) (h : Proper ps) :
    Proper (installation interpreter :: ps) :=
  ⟨List.cons_ne_nil _ _, h.nodup, List.forall_mem_cons.mpr ⟨⟨fun _ => rfl, fun _ => rfl⟩, h.unnamed⟩⟩

lemma installation (interpreter : String) : Proper [installation interpreter] :=
  ⟨List.cons_ne_nil _ _, List.nodup_nil,
    List.forall_mem_singleton.mpr ⟨fun _ => rfl, fun _ => rfl⟩⟩

lemma grouped {name : String} (h : grouped name ≠ []) (o : TestOptions) :
    Proper ((grouped name).map (·.planned o)) := by
  unfold Checks.grouped at h ⊢
  rcases hfind : categories.find? (·.name == name) with _ | c
  · rw [hfind] at h
    exact absurd rfl h
  · rw [hfind]
    refine ⟨List.cons_ne_nil _ _, List.nodup_singleton _, List.forall_mem_singleton.mpr ?_⟩
    simp [Category.planned, Category.command, isInstallation]

lemma tools (fix : Bool) : Proper (tools.map (·.planned fix)) := by
  refine ⟨nofun, ?_, ?_⟩ <;> cases fix <;> decide

lemma named {name : String} (h : named name ≠ []) (fix : Bool) :
    Proper ((named name).map (·.planned fix)) :=
  (Proper.tools fix).sublist ((named_sublist name).map _) (by simpa using h)

end Proper

def quickPlans : List (List Planned) :=
  [(named "ruff").map (·.planned false), (named "black").map (·.planned false),
   (grouped "unit").map (·.planned { failFast := true })]

/-- The commands of the full validation, behind the installation. -/
def fullPlans : List (List Planned) :=
  [(named "ruff").map (·.planned false), (named "black").map (·.planned false),
   (named "mypy").map (·.planned false), (grouped "unit").map (·.planned { coverage := true }),
   (grouped "cli").map (·.planned {}), (grouped "integration").map (·.planned {})]

lemma proper_quickPlans : Proper quickPlans.flatten := ⟨nofun, by decide, by decide⟩

lemma proper_fullPlans : Proper fullPlans.flatten := ⟨nofun, by decide, by decide⟩

lemma performs_quickSteps (interpreter : String) :
    List.Forall₂ (fun st ps => Performs interpreter ps st.run) Runner.quickSteps quickPlans :=
  .cons (performs_runLinting interpreter (by nofun) false false) <|
    .cons (performs_runLinting interpreter (by nofun) false false) <|
    .cons (performs_runTests interpreter (by nofun) _) .nil

lemma performs_fullSteps (interpreter : String) :
    List.Forall₂ (fun st ps => Performs interpreter ps st.run) Runner.fullSteps
      ([installation interpreter] :: fullPlans) :=
  .cons (performs_install interpreter) <|
    .cons (performs_runLinting interpreter (by nofun) false false) <|
    .cons (performs_runLinting interpreter (by nofun) false false) <|
    .cons (performs_runLinting interpreter (by nofun) false false) <|
    .cons (performs_runTests interpreter (by nofun) _) <|
    .cons (performs_runTests interpreter (by nofun) _) <|
    .cons (performs_runTests interpreter (by nofun) _) .nil

/-! ### What the arguments choose -/

section Chosen

variable {argv : List String} {a : Arguments}

/-- The value of an option is one of its choices. -/
lemma mem_choice (h : usage.parse argv = .read a) {option value : String} {vs : List String}
    (heffect : ∀ f ∈ usage.flags, f.name = option → f.effect = .choice vs)
    (hvalue : a.value? option = some value) : value ∈ vs := by
  obtain ⟨f, hf, ws, hchoice, hflag, hmem⟩ := (Usage.given_of_parse h).1 _ _ hvalue
  rw [heffect f hf hflag] at hchoice
  obtain rfl := Shell.Effect.choice.inj hchoice
  exact hmem

lemma find?_ne_nil {α : Type} {name : α → String} {xs : List α} {key : String}
    (h : key ∈ xs.map name) : (xs.find? (name · == key)).toList ≠ [] := by
  obtain ⟨x, hx, rfl⟩ := List.mem_map.mp h
  have hfound : (xs.find? (name · == name x)).isSome :=
    List.find?_isSome.mpr ⟨x, hx, beq_self_eq_true _⟩
  obtain ⟨y, hy⟩ := Option.isSome_iff_exists.mp hfound
  rw [hy]
  exact List.cons_ne_nil _ _

lemma grouped_ne_nil (h : usage.parse argv = .read a) {name : String}
    (hname : a.value? "--test" = some name) : grouped name ≠ [] :=
  find?_ne_nil (mem_choice h (by decide) hname)

lemma named_ne_nil (h : usage.parse argv = .read a) {name : String}
    (hname : a.value? "--lint" = some name) : named name ≠ [] := by
  have hmem : name ∈ tools.map (·.name) ++ ["all"] := mem_choice h (by decide) hname
  unfold named
  split_ifs with hall
  · nofun
  · rw [List.mem_append, List.mem_singleton, or_iff_left hall] at hmem
    exact find?_ne_nil hmem

lemma mode_given (h : usage.parse argv = .read a) :
    a.has "--install" ∨ a.has "--quick" ∨ a.has "--full" ∨ (a.value? "--test").isSome ∨
      (a.value? "--lint").isSome := by
  obtain ⟨f, hf, hmode, hgives⟩ := (Usage.given_of_parse h).2 rfl
  simp only [usage, List.mem_cons, List.not_mem_nil, or_false] at hf
  rcases hf with rfl | rfl | rfl | rfl | rfl | rfl | rfl | rfl | rfl | rfl | rfl
  · cases hmode
  · exact .inr (.inl hgives)
  · exact .inr (.inr (.inl hgives))
  · exact .inr (.inr (.inr (.inl hgives)))
  · exact .inr (.inr (.inr (.inr hgives)))
  · exact .inl hgives
  all_goals cases hmode

/-- Whatever is chosen, commands are run for it. -/
lemma run_chosen (h : usage.parse argv = .read a) (r : Runner) (s : Terminal) :
    ∃ ps b r' s', (chosen a r).run s = (.ok (b, r'), s') ∧ Performed r s ps b r' s' ∧ Proper ps := by
  unfold chosen
  split_ifs with hinstall hquick hfull
  · obtain ⟨b, r', s', hrun, hperformed⟩ := performs_install s.interpreter r s rfl
    exact ⟨_, b, r', s', hrun, hperformed, .installation _⟩
  · rw [Runner.quick, run_bind_ok _ (run_say _ _)]
    generalize hbefore : told s _ = s₀
    obtain ⟨n, b, r', s', hrun, hperformed, hn⟩ :=
      run_runUntilFailure (performs_quickSteps s₀.interpreter) r s₀ rfl
    subst hbefore
    refine ⟨_, b, r', s', hrun, hperformed.of_told, proper_quickPlans.sublist ?_ ?_⟩
    · exact (List.take_sublist n quickPlans).flatten
    · obtain ⟨m, rfl⟩ := Nat.exists_eq_succ_of_ne_zero (hn nofun)
      nofun
  · rw [Runner.full, run_bind_ok _ (run_say _ _)]
    generalize hbefore : told s _ = s₀
    obtain ⟨b, r', s', hrun, hperformed⟩ :=
      run_runAllSteps (performs_fullSteps s₀.interpreter) true r s₀ rfl
    subst hbefore
    exact ⟨_, b, r', s', hrun, hperformed.of_told, proper_fullPlans.installation_cons _⟩
  · rcases htest : a.value? "--test" with _ | c
    · rcases hlint : a.value? "--lint" with _ | t
      · -- one of the modes is given
        have := mode_given h
        simp_all
      · have hne := named_ne_nil h hlint
        obtain ⟨b, r', s', hrun, hperformed⟩ :=
          performs_runLinting s.interpreter hne (a.has "--fix") (a.has "--verbose") r s rfl
        exact ⟨_, b, r', s', hrun, hperformed, .named hne _⟩
    · have hne := grouped_ne_nil h htest
      obtain ⟨b, r', s', hrun, hperformed⟩ := performs_runTests s.interpreter hne _ r s rfl
      exact ⟨_, b, r', s', hrun, hperformed, .grouped hne _⟩

end Chosen

/-! ### What is announced -/

/-- The last line of a report. -/
inductive Announcement where
  | nothing
  | passed
  | failed (n : ℕ)
  deriving DecidableEq

namespace Announcement

def line : Announcement → String
  | nothing => "No test results to report."
  | passed => "\n🎉 All tests and checks passed!"
  | failed n => "\n❌ " ++ toString n ++ " test(s) or check(s) failed."

/-- What follows from the successes of the checks. -/
def of (successes : List Bool) : Announcement :=
  if successes = [] then nothing
  else if successes.count false = 0 then passed
  else failed (successes.count false)

/-- How the line begins. -/
def mark : Announcement → List Char
  | nothing => ['N', 'o']
  | passed => ['\n', '🎉']
  | failed _ => ['\n', '❌']

lemma take_line (a : Announcement) : a.line.toList.take 2 = a.mark := by
  cases a with
  | nothing => rfl
  | passed => rfl
  | failed n => simp [line, mark, String.toList_append]

lemma mark_eq_of_line {a b : Announcement} (h : a.line = b.line) : a.mark = b.mark := by
  rw [← take_line, h, take_line]

lemma eq_passed_of_line {a : Announcement} (h : a.line = passed.line) : a = passed := by
  have hmark := mark_eq_of_line h
  cases a with
  | nothing => simp [mark] at hmark
  | passed => rfl
  | failed n => simp [mark] at hmark

lemma eq_failed_of_line {a : Announcement} {n : ℕ} (h : a.line = (failed n).line) :
    ∃ m, a = failed m := by
  have hmark := mark_eq_of_line h
  cases a with
  | nothing => simp [mark] at hmark
  | passed => simp [mark] at hmark
  | failed m => exact ⟨m, rfl⟩

end Announcement

/-- The announcement is the last that was printed. -/
def Announces (s : Terminal) (a : Announcement) : Prop := s.printed.getLast? = some (a.line ++ "\n")

lemma Announces.line_eq {s : Terminal} {a b : Announcement} (ha : Announces s a)
    (hb : Announces s b) : a.line = b.line :=
  (String.append_left_inj _).mp (Option.some.inj (ha.symm.trans hb))

lemma not_announces_noProject (s : Terminal) (a : Announcement) :
    ¬ Announces (told s (noProject ++ "\n")) a := by
  intro h
  have hline : noProject = a.line := by
    simpa [Announces, told] using h
  have hmark : ['E', 'r'] = a.mark := by
    rw [← Announcement.take_line, ← hline]
    decide
  cases a <;> simp [Announcement.mark] at hmark

/-- A check that is reported: it came to an end, and it is not the installation. -/
def Executed.reported (e : Executed) : Bool := e.ended && !isInstallation e.words

/-- The successes that a report counts. -/
def successes (ran : List Executed) : List Bool := (ran.filter (·.reported)).map (·.endedWell)

/-- What the report announces of the commands that were run. -/
def announced (ran : List Executed) : Announcement := .of (successes ran)

lemma successes_cons (e : Executed) (ran : List Executed) :
    successes (e :: ran) = successes [e] ++ successes ran := by
  rw [successes, ← List.singleton_append, List.filter_append, List.map_append, ← successes,
    ← successes]

/-- A new name is noted behind all others, if its check is reported. -/
lemma note_of_fresh {p : Planned} {verdicts : List (String × Bool)} (os : List Outcome)
    (hfresh : ∀ n ∈ p.name, n ∉ keysOf verdicts) (hp : p.name = none ↔ isInstallation p.words) :
    ∃ new, p.note verdicts os = verdicts ++ new ∧
      new.map Prod.snd = successes [⟨p.words, upcoming os⟩] ∧ ∀ k ∈ keysOf new, p.name = some k := by
  obtain ⟨words, name⟩ := p
  have hnone : ∀ k ∈ keysOf ([] : List (String × Bool)), name = some k :=
    fun k hk => absurd hk List.not_mem_nil
  rw [Planned.note]
  cases name with
  | none =>
    refine ⟨[], (List.append_nil _).symm, ?_, hnone⟩
    simp [successes, Executed.reported, hp.mp rfl]
  | some n =>
    have hcheck : isInstallation words = false := by simpa using hp
    cases upcoming os with
    | error f => exact ⟨[], (List.append_nil _).symm, rfl, hnone⟩
    | ok f =>
      have hreported : Executed.reported ⟨words, .ok f⟩ := by
        rw [Executed.reported, hcheck]
        rfl
      refine ⟨_, setKey_of_notMem (hfresh n rfl), ?_, by simp [keysOf]⟩
      rw [successes, List.filter_cons_of_pos hreported]
      rfl

/-- The successes that are noted are those of the checks that are reported. -/
lemma snd_notes {ps : List Planned} {verdicts : List (String × Bool)} (os : List Outcome)
    (hfresh : ∀ n ∈ ps.filterMap (·.name), n ∉ keysOf verdicts)
    (hnodup : (ps.filterMap (·.name)).Nodup)
    (hunnamed : ∀ p ∈ ps, p.name = none ↔ isInstallation p.words) :
    (notes verdicts os ps).map Prod.snd =
      verdicts.map Prod.snd ++ successes (perform os (ps.map (·.words))) := by
  induction ps generalizing verdicts os with
  | nil => exact (List.append_nil _).symm
  | cons p ps ih =>
    rw [List.forall_mem_cons] at hunnamed
    have hhead : ∀ n ∈ p.name, n ∉ keysOf verdicts := fun n hn =>
      hfresh n (List.mem_filterMap.mpr ⟨p, List.mem_cons_self, hn⟩)
    obtain ⟨new, hnote, hsuccess, hkeys⟩ := note_of_fresh os hhead hunnamed.1
    have htail : ∀ n ∈ ps.filterMap (·.name), n ∉ keysOf (verdicts ++ new) := by
      intro n hn hmem
      rw [keysOf, List.map_append, List.mem_append] at hmem
      rcases hmem with hold | hnew
      · obtain ⟨q, hq, hqn⟩ := List.mem_filterMap.mp hn
        exact hfresh n (List.mem_filterMap.mpr ⟨q, List.mem_cons_of_mem p hq, hqn⟩) hold
      · -- no name stands twice
        rw [List.filterMap_cons_some (hkeys n hnew), List.nodup_cons] at hnodup
        exact hnodup.1 hn
    have hrest : (ps.filterMap (·.name)).Nodup :=
      hnodup.sublist ((List.sublist_cons_self p ps).filterMap _)
    rw [notes, hnote, ih os.tail htail hrest hunnamed.2, List.map_append, hsuccess,
      List.append_assoc, List.map_cons, perform, successes_cons _ (perform _ _)]

/-! ### The report -/

lemma Runner.failed_eq (r : Runner) : r.failed = (r.verdicts.map Prod.snd).count false := by
  rw [Runner.failed, Runner.verdicts, List.map_map, List.count, List.countP_map,
    List.countP_eq_length_filter]
  congr 2
  funext e
  obtain ⟨-, success, -, -⟩ := e
  cases success <;> rfl

/-- The report runs no command and ends with the announcement. -/
lemma run_report (r : Runner) (s : Terminal) :
    ∃ s', r.report.run s = (.ok (), s') ∧ s'.commands = s.commands ∧
      Announces s' (.of (r.verdicts.map Prod.snd)) := by
  have hlast : ∀ (t : Terminal) (a : Announcement), Announces (told t (a.line ++ "\n")) a :=
    fun t a => List.getLast?_concat
  rw [Runner.report]
  rcases hresults : r.results with _ | ⟨e, results⟩
  · refine ⟨_, rfl, rfl, ?_⟩
    rw [Runner.verdicts, hresults]
    exact hlast s .nothing
  · have hne : r.verdicts.map Prod.snd ≠ [] := by
      rw [Runner.verdicts, hresults]
      nofun
    rw [Announcement.of, if_neg hne, ← Runner.failed_eq]
    dsimp only [List.isEmpty_cons]
    rw [if_neg Bool.false_ne_true]
    iterate 3 rw [run_bind_ok _ (run_say _ _)]
    generalize hbefore : told _ _ = s₁
    have hloop := run_sayEach (fun x => Runner.resultLine x.1 x.2) (e :: results) s₁
    generalize hafter : Terminal.mk .. = s₂ at hloop
    have hcommands : s₂.commands = s₁.commands := by rw [← hafter]
    rw [run_bind_ok _ hloop]
    iterate 5 rw [run_bind_ok _ (run_say _ _)]
    subst hbefore
    by_cases hfailed : r.failed = 0
    · rw [if_pos (beq_iff_eq.mpr hfailed), if_pos hfailed]
      exact ⟨_, rfl, hcommands, hlast _ .passed⟩
    · rw [if_neg (by simpa using hfailed), if_neg hfailed]
      exact ⟨_, rfl, hcommands, hlast _ (.failed r.failed)⟩

/-! ### The exit code -/

/-- The commands that were run between two states of the terminal. -/
def executed (s s' : Terminal) : List Executed :=
  perform s.outcomes (s'.commands.drop s.commands.length)

lemma words_perform (os : List Outcome) (ws : List (List String)) :
    (perform os ws).map (·.words) = ws := by
  induction ws generalizing os with
  | nil => rfl
  | cons words ws ih => rw [perform, List.map_cons, ih]

lemma count_successes_eq_zero {ran : List Executed} :
    (successes ran).count false = 0 ↔ ∀ e ∈ ran, e.reported → e.endedWell := by
  simp [successes, List.count_eq_zero]

lemma announced_eq_passed {ran : List Executed} (h : announced ran = .passed) :
    ∀ e ∈ ran, e.reported → e.endedWell := by
  rw [announced, Announcement.of] at h
  split_ifs at h with hnone hcount
  exact count_successes_eq_zero.mp hcount

lemma announced_eq_failed {ran : List Executed} {n : ℕ} (h : announced ran = .failed n) :
    ¬ ran.all (·.endedWell) := by
  rw [announced, Announcement.of] at h
  split_ifs at h with hnone hcount
  intro hall
  rw [List.all_eq_true] at hall
  exact hcount (count_successes_eq_zero.mpr fun e he _ => hall e he)

lemma Executed.ended_of_endedWell {e : Executed} (h : e.endedWell) : e.ended := by
  obtain ⟨words, f | f⟩ := e
  · cases h
  · rfl

/-- If all is announced to have passed, the installations and the commands that could not be run are
all that is left to ask about. -/
lemma all_endedWell_iff {ran : List Executed} (h : announced ran = .passed) :
    ran.all (·.endedWell) = true ↔ ∀ e ∈ ran, e.ended ∧ (isInstallation e.words → e.endedWell) := by
  rw [List.all_eq_true]
  constructor
  · exact fun hall e he => ⟨Executed.ended_of_endedWell (hall e he), fun _ => hall e he⟩
  · intro hall e he
    obtain ⟨hended, hinstalled⟩ := hall e he
    by_cases hinstall : isInstallation e.words
    · exact hinstalled hinstall
    · exact announced_eq_passed h e he (by simp [Executed.reported, hended, hinstall])

/-- **The report and the exit code.** In every mode, in the directory of a project, at least one
command is run, and the exit code is zero if all commands end well and one otherwise. The report
announces what follows from the checks that came to an end. If it announces failures, the exit code
is one. If it announces that all passed, the exit code is zero exactly if every command could be run
and no installation failed. In any other directory nothing is run or announced, and the exit code is
one. -/
theorem exitCode_of_report {argv : List String} {a : Arguments}
    (h : usage.parse argv = .read a) (directory : Store) (s : Terminal) :
    (directory.has projectFile = true →
      ∃ code s', (runCommand directory argv).run s = (.ok code, s') ∧
        let ran := executed s s'
        ran ≠ [] ∧ s'.commands = s.commands ++ ran.map (·.words) ∧
        code = (if ran.all (·.endedWell) then 0 else 1) ∧
        Announces s' (announced ran) ∧
        (∀ n, Announces s' (.failed n) → code = 1) ∧
        (Announces s' .passed →
          (code = 0 ↔ ∀ e ∈ ran, e.ended ∧ (isInstallation e.words → e.endedWell)))) ∧
    (directory.has projectFile = false →
      (runCommand directory argv).run s = (.ok 1, told s (noProject ++ "\n")) ∧
        ∀ a, ¬ Announces (told s (noProject ++ "\n")) a) := by
  refine ⟨fun hproject => ?_, fun hproject => ⟨?_, not_announces_noProject s⟩⟩
  swap
  · rw [runCommand, h]
    dsimp only
    rw [hproject]
    rfl
  obtain ⟨ps, b, r, s₁, hchosen, hperformed, hproper⟩ := run_chosen h {} s
  obtain ⟨s', hreport, hcommands, hannounces⟩ := run_report r s₁
  have hran : executed s s' = perform s.outcomes (ps.map (·.words)) := by
    rw [executed, hcommands, hperformed.commands, List.drop_left]
  have hsuccesses : r.verdicts.map Prod.snd = successes (executed s s') := by
    rw [hperformed.verdicts, hran]
    exact snd_notes s.outcomes (fun _ _ => List.not_mem_nil) hproper.nodup hproper.unnamed
  rw [hsuccesses, ← announced] at hannounces
  have hcode : ∀ b : Bool, (if b then 0 else 1 : ℤ) = 0 ↔ b = true := by decide
  refine ⟨if b then 0 else 1, s', ?_, ?_, ?_, ?_, hannounces, ?_, ?_⟩
  · rw [runCommand, h]
    dsimp only
    rw [hproject, Bool.not_true, if_neg (by decide), run_bind_ok _ hchosen, run_bind_ok _ hreport]
    rfl
  · rw [hran]
    obtain ⟨p, ps, rfl⟩ := List.exists_cons_of_ne_nil hproper.ne_nil
    exact List.cons_ne_nil _ _
  · rw [hran, words_perform, hcommands, hperformed.commands]
  · rw [hperformed.success, hran]
  · intro n hn
    obtain ⟨m, hm⟩ := Announcement.eq_failed_of_line (hannounces.line_eq hn)
    have hb : ¬ b = true := by
      rw [hperformed.success, ← hran]
      exact announced_eq_failed hm
    rw [if_neg hb]
  · intro hpassed
    rw [hcode, hperformed.success, ← hran]
    exact all_endedWell_iff (Announcement.eq_passed_of_line (hannounces.line_eq hpassed))

/-- The directory of a project. -/
def project : Store := { root := .dir [("pyproject.toml", .file ⟨[], 0⟩)] }

lemma has_project : project.has projectFile = true := by
  have hstat : project.stat projectFile = .ok (.file ⟨[], 0⟩) :=
    Store.stat_name rfl (by decide) (by decide) rfl
  rw [Store.has, hstat]
  rfl

/-- A command that does not exist. -/
def missing : Outcome := { result := .error (.file .notFound "black") }

def failing : Outcome := { result := .ok { code := 1 } }

/-- The second of three linters is not there and the third one fails. -/
theorem exitCode_of_report_mixed :
    usage.parse ["--lint", "all", "-v"] = .read ⟨["--verbose"], [("--lint", "all")], []⟩ ∧
    project.has projectFile = true ∧
    ∃ code s', (runCommand project ["--lint", "all", "-v"]).run
        { outcomes := [{}, missing, failing] } = (.ok code, s') ∧
      Announces s' (.failed 1) ∧ code = 1 := by
  have hparse : usage.parse ["--lint", "all", "-v"] =
      .read ⟨["--verbose"], [("--lint", "all")], []⟩ := by rfl
  obtain ⟨code, s', hrun, -, -, -, hannounces, hfailed, -⟩ :=
    (exitCode_of_report hparse project { outcomes := [{}, missing, failing] }).1 has_project
  have hstate : s' = ((runCommand project ["--lint", "all", "-v"]).run
      { outcomes := [{}, missing, failing] }).2 := by rw [hrun]
  have hone : announced (executed { outcomes := [{}, missing, failing] } s') = .failed 1 := by
    rw [hstate]
    simp only [runCommand, has_project]
    decide
  rw [hone] at hannounces
  exact ⟨hparse, has_project, code, s', hrun, hannounces, hfailed 1 hannounces⟩

/-- **The report can announce that all passed with exit code one.** The second of three linters is
not there, or the installation in front of the full validation fails. -/
theorem report_passed_with_code_one :
    (((runCommand project ["--lint", "all"]).run { outcomes := [{}, missing] }).1.toOption =
        some 1 ∧
      Announces ((runCommand project ["--lint", "all"]).run { outcomes := [{}, missing] }).2
        .passed) ∧
    ((runCommand project ["--full"]).run { outcomes := [failing] }).1.toOption = some 1 ∧
      Announces ((runCommand project ["--full"]).run { outcomes := [failing] }).2 .passed := by
  simp only [Announces, runCommand, has_project]
  decide +kernel

end SpecScribe.Checks
