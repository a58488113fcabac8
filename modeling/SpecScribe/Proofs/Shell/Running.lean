import Mathlib
import SpecScribe.Proofs.Effect
import SpecScribe.Shell.Basic

/-!
Running commands, and what computations print. Every command takes the next outcome. Running
commands and giving warnings is silent, and a computation whose steps are silent is silent itself.
-/

namespace SpecScribe.Shell

open SpecScribe.Effect

variable {α β : Type} {x : Run α} {f : α → Run β}

/-! ### Commands -/

/-- What the next command does. -/
def upcoming (os : List Outcome) : Except Fault Finished := (os.head?.getD {}).result

/-- The command ended, and ended well. -/
def endsWell : Except Fault Finished → Bool
  | .ok r => r.code == 0
  | .error _ => false

/-- What a command gives that has to end well. -/
def demanded : Except Fault Finished → Except Fault Finished
  | .ok r => if r.code = 0 then .ok r else .error (.commandFailed r.code)
  | .error f => .error f

/-- The terminal after a command. -/
def advanced (s : Terminal) (words : List String) : Terminal :=
  { s with
    outcomes := s.outcomes.tail, commands := s.commands ++ [words]
    now := s.now.add (s.outcomes.head?.getD {}).advance }

/-- The terminal after a text was printed. -/
def told (s : Terminal) (text : String) : Terminal := { s with printed := s.printed ++ [text] }

@[simp] lemma told_outcomes (s : Terminal) (text : String) :
    (told s text).outcomes = s.outcomes := rfl

lemma run_say (line : String) (s : Terminal) :
    (say line).run s = (.ok (), told s (line ++ "\n")) := rfl

lemma run_attempt {r : Except Fault α} {s s' : Terminal} (h : x.run s = (r, s')) :
    (attempt x).run s = (.ok r, s') := by
  change StateT.run x.run s = _ at h
  change StateT.run (attempt x).run s = _
  rw [attempt, ExceptT.run_mk, StateT.run_bind, h]
  rfl

lemma run_command (words : List String) (s : Terminal) :
    (command words).run s = (upcoming s.outcomes, advanced s words) := by
  obtain ⟨outcomes, now, interpreter, commands, sleeps, printed, warned⟩ := s
  rcases outcomes with _ | ⟨⟨advance, f | r⟩, rest⟩ <;> rfl

lemma run_mustCommand (words : List String) (s : Terminal) :
    (mustCommand words).run s = (demanded (upcoming s.outcomes), advanced s words) := by
  have hcommand := run_command words s
  rcases hnext : upcoming s.outcomes with f | r <;> rw [hnext] at hcommand
  · rw [mustCommand, run_bind_error _ hcommand, demanded]
  · rw [mustCommand, run_bind_ok _ hcommand, demanded]
    by_cases hcode : r.code = 0
    · simp only [hcode, bne_self_eq_false, Bool.false_eq_true, if_false, if_true]
      rfl
    · simp only [bne_iff_ne.mpr hcode, if_true, hcode, if_false]
      rfl

/-! ### Printing -/

/-- The computation prints nothing, however it ends; warnings do not count. -/
def Silent (x : Run α) : Prop := ∀ s, (x.run s).2.printed = s.printed

namespace Silent

lemma printed_eq {r : Except Fault α} {s s' : Terminal} (hx : Silent x) (h : x.run s = (r, s')) :
    s'.printed = s.printed := by
  rw [← hx s, h]

lemma bind (hx : Silent x) (hf : ∀ a, Silent (f a)) : Silent (x >>= f) := by
  intro s
  rcases h : x.run s with ⟨e | a, s₁⟩
  · rw [run_bind_error f h]
    exact hx.printed_eq h
  · rw [run_bind_ok f h, hf a s₁]
    exact hx.printed_eq h

lemma pure (a : α) : Silent (Pure.pure a : Run α) := fun _ => rfl

lemma get : Silent (MonadState.get : Run Terminal) := fun _ => rfl

lemma warn (text : String) : Silent (Shell.warn text) := fun _ => rfl

lemma command (words : List String) : Silent (Shell.command words) := by
  intro s
  rw [run_command]
  rfl

lemma attempt (hx : Silent x) : Silent (Shell.attempt x) := fun s => hx s

end Silent

/-- Printing line by line. -/
lemma run_sayEach (line : α → String) (xs : List α) (s : Terminal) :
    (forIn xs PUnit.unit fun x _ => do
        say (line x)
        return ForInStep.yield PUnit.unit : Run PUnit).run s =
      (.ok (), { s with printed := s.printed ++ xs.map fun x => line x ++ "\n" }) := by
  induction xs generalizing s with
  | nil => simp; rfl
  | cons x xs ih =>
    rw [List.forIn_cons]
    refine (ih { s with printed := s.printed ++ [line x ++ "\n"] }).trans ?_
    simp

end SpecScribe.Shell
