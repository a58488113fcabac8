import Mathlib
import SpecScribe.Install.Installer
import SpecScribe.Proofs.Datum.Keys
import SpecScribe.Proofs.Fault
import SpecScribe.Proofs.Shell.Running

/-!
What the answer of the installer says. Every name that is asked for is tried once and has its own
success, but the notes keep one success for each language. So the answer speaks of the last try of
each language, and of no name that belongs to none.
-/

namespace SpecScribe.Install

open Shell Effect

/-! ### Running commands -/

/-- What the question for the fast manager gives: whether it is there, or a fault of another kind.
-/
def managerAnswer : Except Fault Finished → Except Fault Bool
  | .ok r => .ok (r.code == 0)
  | .error (.commandFailed _) => .ok false
  | .error f => if f.family == "FileNotFoundError" then .ok false else .error f

/-- Whether an installation succeeds: the question for the manager has an answer, and the command of
the manager ends well. -/
def installs (os : List Outcome) : Bool :=
  (managerAnswer (upcoming os)).isOk && endsWell (upcoming os.tail)

/-- The command of the package manager. -/
def managerWords (interpreter : String) (fast force : Bool) (package : String) : List String :=
  if fast then ["uv", "add", package]
  else [interpreter, "-m", "pip", "install", package] ++
    if force then ["--force-reinstall", "--no-deps"] else []

/-- The terminal after an installation. -/
def afterInstall (force : Bool) (package : String) (s : Terminal) : Terminal :=
  match managerAnswer (upcoming s.outcomes) with
  | .ok fast => advanced (advanced s ["uv", "--version"])
      (managerWords s.interpreter fast force package)
  | .error _ => advanced s ["uv", "--version"]

section Commands

lemma run_hasFastManager (s : Terminal) :
    hasFastManager.run s =
      (managerAnswer (upcoming s.outcomes), advanced s ["uv", "--version"]) := by
  have hmust := run_mustCommand ["uv", "--version"] s
  rw [hasFastManager, run_bind_ok _ (run_attempt hmust)]
  rcases upcoming s.outcomes with f | r
  · rw [demanded]
    cases f <;> first | rfl | (simp only [managerAnswer]; split_ifs <;> rfl)
  · rw [demanded, managerAnswer]
    by_cases hcode : r.code = 0
    · rw [if_pos hcode, beq_iff_eq.mpr hcode]
      rfl
    · rw [if_neg hcode, beq_eq_false_iff_ne.mpr hcode]
      rfl

/-- The command of whichever manager is there. -/
lemma run_runManager (force : Bool) (package : String) (s : Terminal) :
    ∃ r, (runManager force package).run s = (r, afterInstall force package s) ∧
      endsWell r = installs s.outcomes := by
  have hmanager := run_hasFastManager s
  rw [installs, afterInstall]
  rcases hanswer : managerAnswer (upcoming s.outcomes) with f | fast <;> rw [hanswer] at hmanager
  · exact ⟨_, by rw [runManager, run_bind_error _ hmanager], rfl⟩
  · refine ⟨upcoming s.outcomes.tail, ?_, rfl⟩
    rw [runManager, run_bind_ok _ hmanager]
    cases fast <;> exact run_command _ _

lemma run_installPackage (force : Bool) (package : String) (s : Terminal) :
    ∃ message, (installPackage force package).run s =
      (.ok (installs s.outcomes, message), afterInstall force package s) := by
  obtain ⟨r, hrun, hwell⟩ := run_runManager force package s
  rw [installPackage, run_bind_ok _ (run_attempt hrun), ← hwell]
  rcases r with f | r
  · cases f <;> exact ⟨_, rfl⟩
  · rw [endsWell]
    by_cases hcode : (r.code == 0) = true
    · exact ⟨_, by simp only [hcode, if_true]; rfl⟩
    · exact ⟨_, by simp only [hcode]; rfl⟩

end Commands

/-! ### What was tried -/

/-- What became of a name that was asked for: it is the name of no language, or the parser of its
language is there in the end or not. -/
inductive Attempt where
  | unknown
  | tried (l : Language) (success : Bool)
  deriving DecidableEq

/-- The terminal after the pause between two installations. -/
def paused (s : Terminal) : Terminal :=
  { s with sleeps := s.sleeps ++ [Installer.pause], now := s.now.add Installer.pause }

namespace Attempt

def succeeded : Attempt → Bool
  | unknown => false
  | tried _ success => success

/-- The language that was tried. -/
def language? : Attempt → Option Language
  | unknown => none
  | tried l _ => some l

/-- The success of a try for the given language. -/
def successOf? (l : Language) : Attempt → Option Bool
  | unknown => none
  | tried l' success => if l' = l then some success else none

/-- Tries one name. A parser that is there is not installed, unless that is forced. -/
def make (site : Site) (force : Bool) (s : Terminal) (name : String) : Attempt × Terminal :=
  match normalize name with
  | none => (unknown, s)
  | some l =>
    if !force && site.finds s.commands l.name then (tried l true, s)
    else (tried l (installs s.outcomes), afterInstall force (packageName l) s)

/-- Tries all names in turn, with a pause behind each. -/
def all (site : Site) (force : Bool) : Terminal → List String → List Attempt
  | _, [] => []
  | s, name :: rest =>
    (make site force s name).1 :: all site force (paused (make site force s name).2) rest

/-- The success of the last try for a language. -/
def last? (l : Language) (as : List Attempt) : Option Bool := (as.filterMap (successOf? l)).getLast?

/-- What is noted of an attempt. -/
def note (tried : List (String × Bool)) : Attempt → List (String × Bool)
  | .unknown => tried
  | .tried l success => setKey l.name success tried

lemma last?_append (l : Language) (as : List Attempt) (a : Attempt) :
    last? l (as ++ [a]) = (successOf? l a).or (last? l as) := by
  rw [last?, last?, List.filterMap_append, List.getLast?_append]
  rcases h : successOf? l a with _ | b <;> simp [h]

end Attempt

section Noted

lemma name_injective {l l' : Language} (h : l.name = l'.name) : l = l' := by
  cases l <;> cases l' <;> first | rfl | exact absurd h (by decide)

/-- The notes after some attempts: one for each language that was tried, with its last success. -/
structure Noted (as : List Attempt) (tried : List (String × Bool)) : Prop where
  nodup : (keysOf tried).Nodup
  named : ∀ e ∈ tried, ∃ l : Language, e.1 = l.name
  last : ∀ l : Language, tried.lookup l.name = Attempt.last? l as

variable {as : List Attempt} {tried : List (String × Bool)}

lemma Noted.step (h : Noted as tried) (a : Attempt) : Noted (as ++ [a]) (Attempt.note tried a) := by
  cases a with
  | unknown =>
    refine ⟨h.nodup, h.named, fun l => ?_⟩
    rw [Attempt.last?_append]
    exact h.last l
  | tried l success =>
    rw [Attempt.note]
    refine ⟨nodup_setKey h.nodup, ?_, fun l' => ?_⟩
    · rintro ⟨k, b⟩ he
      rcases (mem_setKey h.nodup).mp he with ⟨rfl, -⟩ | ⟨-, he⟩
      · exact ⟨l, rfl⟩
      · exact h.named _ he
    · rw [lookup_setKey, Attempt.last?_append, Attempt.successOf?, h.last]
      by_cases hl : l' = l
      · simp [hl]
      · rw [if_neg fun hname => hl (name_injective hname), if_neg (Ne.symm hl)]
        rfl

lemma noted_foldl (as : List Attempt) : Noted as (as.foldl Attempt.note []) := by
  induction as using List.reverseRecOn with
  | nil => exact ⟨List.nodup_nil, nofun, fun _ => rfl⟩
  | append_singleton as a ih =>
    rw [List.foldl_append]
    exact ih.step a

/-- No failure is noted if no last try failed. -/
lemma Noted.failures_eq_zero {i : Installer} (h : Noted as i.tried) :
    i.failures = 0 ↔ ∀ l, Attempt.last? l as ≠ some false := by
  rw [Installer.failures, List.length_eq_zero_iff, List.filter_eq_nil_iff]
  constructor
  · intro hall l hlast
    rw [← h.last, ← mem_iff_lookup h.nodup] at hlast
    exact hall _ hlast rfl
  · rintro hlast ⟨k, b⟩ he hfailed
    obtain ⟨l, rfl⟩ := h.named _ he
    have hlookup := (mem_iff_lookup h.nodup).mp he
    rw [h.last] at hlookup
    obtain rfl : b = false := by simpa using hfailed
    exact hlast l hlookup

end Noted

/-! ### Installing -/

section Installing

lemma run_installLanguage (site : Site) (i : Installer) (name : String) (s : Terminal) :
    ∃ success i', (i.installLanguage site (.text name)).run s =
        (.ok (success, i'), (Attempt.make site i.force s name).2) ∧
      i'.force = i.force ∧
      i'.tried = Attempt.note i.tried (Attempt.make site i.force s name).1 := by
  have hname : (normalizeDatum (.text name) : Run (Option Language)).run s =
      (.ok (normalize name), s) := rfl
  have hget : (get : Run Terminal).run s = (.ok s, s) := rfl
  rw [Installer.installLanguage, run_bind_ok _ hname, Attempt.make]
  rcases normalize name with _ | l
  · exact ⟨_, _, rfl, rfl, rfl⟩
  · dsimp only
    rw [run_bind_ok _ hget]
    split_ifs with hthere
    · exact ⟨_, _, rfl, rfl, rfl⟩
    · obtain ⟨message, hrun⟩ := run_installPackage i.force (packageName l) s
      rw [run_bind_ok _ hrun]
      refine ⟨_, _, rfl, ?_, ?_⟩
      · split_ifs <;> rfl
      · split_ifs <;> rfl

/-- Each name is tried once, on the terminal that the earlier ones left. -/
lemma run_installAll (site : Site) (names : List String) (i : Installer)
    (results : List (String × Bool)) (s : Terminal) :
    ∃ results' i' s',
      (Installer.installAll site i results (names.map .text)).run s = (.ok (results', i'), s') ∧
      i'.tried = (Attempt.all site i.force s names).foldl Attempt.note i.tried := by
  induction names generalizing i results s with
  | nil => exact ⟨_, _, _, rfl, rfl⟩
  | cons name rest ih =>
    obtain ⟨success, i₁, hrun, hforce, htried⟩ := run_installLanguage site i name s
    obtain ⟨results', i', s', hrest, htried'⟩ := ih i₁ (setKey name success results)
      (paused (Attempt.make site i.force s name).2)
    refine ⟨results', i', s', ?_, ?_⟩
    · rw [List.map_cons, Installer.installAll, run_bind_ok _ (run_attempt hrun)]
      exact hrest
    · rw [htried', hforce, htried, Attempt.all, List.foldl_cons]

lemma isOk_verify (site : Site) (done : List (List String)) (results : List (String × Bool))
    (names : List String) : (Installer.verify site done results (names.map .text)).isOk := by
  induction names generalizing results with
  | nil => rfl
  | cons name rest ih =>
    rw [List.map_cons, Installer.verify, normalizeDatum, ok_bind]
    rcases normalize name with _ | l <;> exact ih _

/-- With the library there, an answer is given, whatever the outcomes of the commands are. -/
lemma run_installFor {site : Site} (hready : site.isReady) (names : List String)
    (force verified : Bool) (s : Terminal) :
    ∃ answer s', (installFor site (toDatum names) force verified).run s = (.ok answer, s') ∧
      (answer = true ↔
        ∀ l, Attempt.last? l (Attempt.all site force s names) ≠ some false) := by
  obtain ⟨results, i, s', hrun, htried⟩ :=
    run_installAll site names { force := force } [] s
  have hnoted : Noted (Attempt.all site force s names) i.tried := by
    rw [htried]
    exact noted_foldl _
  refine ⟨i.failures == 0, s', ?_, by rw [beq_iff_eq, hnoted.failures_eq_zero]⟩
  have hlisted : (listed (toDatum names) : Run (List Datum)).run s =
      (.ok (names.map .text), s) := rfl
  rw [installFor, hready, Bool.not_true, if_neg (by decide), run_bind_ok _ hlisted,
    run_bind_ok _ hrun]
  cases verified with
  | false => rfl
  | true =>
    obtain ⟨checked, hchecked⟩ := isOk_iff.mp (isOk_verify site s'.commands [] names)
    have hget : (get : Run Terminal).run s' = (.ok s', s') := rfl
    have hverify : (Installer.verify site s'.commands [] (names.map .text) :
        Run (List (String × Bool))).run s' = (.ok checked, s') := by
      rw [hchecked]
      rfl
    dsimp only
    rw [if_pos rfl, run_bind_ok _ hget, run_bind_ok _ hverify]
    rfl

end Installing

/-! ### The answer -/

namespace Attempt

lemma last?_ne_of_succeeded {as : List Attempt} (h : ∀ a ∈ as, a.succeeded) (l : Language) :
    last? l as ≠ some false := by
  intro hlast
  obtain ⟨a, ha, hsuccess⟩ := List.mem_filterMap.mp (List.mem_of_getLast? hlast)
  have hsucceeded := h a ha
  cases a with
  | unknown => cases hsucceeded
  | tried l' success =>
    obtain rfl : success = true := hsucceeded
    rw [successOf?] at hsuccess
    split_ifs at hsuccess
    cases hsuccess

lemma languages_all (site : Site) (force : Bool) (s : Terminal) (names : List String) :
    (all site force s names).map language? = names.map normalize := by
  induction names generalizing s with
  | nil => rfl
  | cons name rest ih =>
    rw [all, List.map_cons, List.map_cons, ih, make]
    rcases normalize name with _ | l
    · rfl
    · dsimp only
      split_ifs <;> rfl

/-- If each language is tried once, its only try is its last. -/
lemma last?_of_nodup {as : List Attempt} {l : Language} {success : Bool}
    (hnodup : (as.map language?).Nodup) (h : tried l success ∈ as) :
    last? l as = some success := by
  obtain ⟨before, after, rfl⟩ := List.append_of_mem h
  have hafter : after.filterMap (successOf? l) = [] := by
    rw [List.filterMap_eq_nil_iff]
    rintro a ha
    cases a with
    | unknown => rfl
    | tried l' b =>
      rw [successOf?, if_neg]
      rintro rfl
      rw [List.map_append, List.map_cons, List.nodup_append', List.nodup_cons] at hnodup
      exact hnodup.2.1.1 (List.mem_map.mpr ⟨_, ha, rfl⟩)
  rw [last?, List.filterMap_append, List.filterMap_cons]
  simp [successOf?, hafter]

end Attempt

/-- **The answer of the installer.** Let the parser library be there. For all names, with or without
force and checking, and whatever the outcomes of the commands, an answer is given, and it is yes
exactly when no language failed at its last try. It is yes if all names succeed; it says so, yes or
no, if the names stand for languages that are known and different. -/
theorem installFor_answer (site : Site) (hready : site.isReady) (names : List String)
    (force verified : Bool) (s : Terminal) :
    let as := Attempt.all site force s names
    ∃ answer s', (installFor site (toDatum names) force verified).run s = (.ok answer, s') ∧
      (answer = true ↔ ∀ l, Attempt.last? l as ≠ some false) ∧
      ((∀ a ∈ as, a.succeeded) → answer = true) ∧
      ((∀ n ∈ names, (normalize n).isSome) → (names.map normalize).Nodup →
        (answer = true ↔ ∀ a ∈ as, a.succeeded)) := by
  intro as
  obtain ⟨answer, s', hrun, hanswer⟩ := run_installFor hready names force verified s
  have hall : (∀ a ∈ as, a.succeeded) → answer = true :=
    fun h => hanswer.mpr (Attempt.last?_ne_of_succeeded h)
  refine ⟨answer, s', hrun, hanswer, hall, fun hknown hnodup => ⟨fun hyes a ha => ?_, hall⟩⟩
  have hlanguages := Attempt.languages_all site force s names
  rw [← hlanguages] at hnodup
  cases a with
  | unknown =>
    -- every name is that of a language
    have hmem : none ∈ names.map normalize := hlanguages ▸ List.mem_map.mpr ⟨_, ha, rfl⟩
    obtain ⟨n, hn, hnone⟩ := List.mem_map.mp hmem
    have := hknown n hn
    rw [hnone] at this
    cases this
  | tried l success =>
    have hlast := Attempt.last?_of_nodup hnodup ha
    cases success with
    | true => rfl
    | false => exact absurd hlast (hanswer.mp hyes l)

/-- No parser is there yet. -/
def bareSite : Site := ⟨fun _ _ => .ok false, .ok ()⟩

/-- A terminal whose commands end with the given codes. -/
def terminalOf (codes : List Int) : Terminal :=
  { outcomes := codes.map fun code => { result := .ok { code := code } } }

/-- Two languages, of which the second one fails. -/
theorem installFor_answer_failed :
    bareSite.isReady ∧
    Attempt.all bareSite true (terminalOf [0, 0, 0, 1]) ["py", " C++ "] =
      [.tried .python true, .tried .cpp false] ∧
    ∃ s', (installFor bareSite (toDatum ["py", " C++ "]) true true).run (terminalOf [0, 0, 0, 1]) =
      (.ok false, s') := by
  have hready : bareSite.isReady := by decide
  have hattempts : Attempt.all bareSite true (terminalOf [0, 0, 0, 1]) ["py", " C++ "] =
      [.tried .python true, .tried .cpp false] := by decide
  obtain ⟨answer, s', hrun, -, -, hanswer⟩ :=
    installFor_answer bareSite hready ["py", " C++ "] true true (terminalOf [0, 0, 0, 1])
  have hno : ¬ answer = true := by
    rw [hanswer (by decide) (by decide), hattempts]
    decide
  rw [Bool.eq_false_of_not_eq_true hno] at hrun
  exact ⟨hready, hattempts, s', hrun⟩

/-- **The answer can be yes though a name did not succeed.** A name that is that of no language does
not count, and a failure is forgotten when the same language succeeds later. -/
theorem installFor_overlooks :
    (Attempt.all bareSite false (terminalOf []) ["cobol"] = [.unknown] ∧
      ((installFor bareSite (toDatum ["cobol"])).run (terminalOf [])).1.toOption = some true) ∧
    (Attempt.all bareSite false (terminalOf [0, 1]) ["py", "python"] =
        [.tried .python false, .tried .python true] ∧
      ((installFor bareSite (toDatum ["py", "python"])).run (terminalOf [0, 1])).1.toOption =
        some true) := by
  refine ⟨⟨by decide, by decide⟩, by decide, by decide⟩

end SpecScribe.Install
