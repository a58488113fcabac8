import Mathlib
import SpecScribe.Model.Request
import SpecScribe.Proofs.Effect

/-!
Running a computation in a session, construct by construct, and what a single call does: it is
noted, it takes the next event, and what the event means is the outcome of the call.
-/

namespace SpecScribe.Model

namespace Ask

variable {α β : Type} {s s' : Session} {x : Ask α} {a : α} {e : Fault}

@[simp] lemma run_pure (a : α) (s : Session) : Ask.run (pure a) s = (.ok a, s) := rfl

@[simp] lemma run_modify (g : Session → Session) (s : Session) :
    Ask.run (modify g : Ask Unit) s = (.ok (), g s) := rfl

@[simp] lemma run_ofExcept (r : Except Fault α) (s : Session) :
    Ask.run (MonadExcept.ofExcept r : Ask α) s = (r, s) := by
  cases r <;> rfl

lemma run_bind_ok (f : α → Ask β) (h : x.run s = (.ok a, s')) :
    Ask.run (x >>= f) s = (f a).run s' :=
  Effect.run_bind_ok f h

lemma run_bind_error (f : α → Ask β) (h : x.run s = (.error e, s')) :
    Ask.run (x >>= f) s = (.error e, s') :=
  Effect.run_bind_error f h

/-- A fault skips what follows; what happened before it stays. -/
lemma run_bind (x : Ask α) (f : α → Ask β) (s : Session) :
    Ask.run (x >>= f) s =
      match x.run s with
      | (.ok a, s') => (f a).run s'
      | (.error e, s') => (.error e, s') := by
  rcases h : x.run s with ⟨_ | a, s'⟩
  · exact run_bind_error f h
  · exact run_bind_ok f h

lemma run_tryCatch_ok (h : Fault → Ask α) (hx : x.run s = (.ok a, s')) :
    Ask.run (tryCatch x h) s = (.ok a, s') :=
  Effect.run_tryCatch_ok h hx

lemma run_tryCatch_error (h : Fault → Ask α) (hx : x.run s = (.error e, s')) :
    Ask.run (tryCatch x h) s = (h e).run s' :=
  Effect.run_tryCatch_error h hx

lemma run_tryCatch (x : Ask α) (h : Fault → Ask α) (s : Session) :
    Ask.run (tryCatch x h) s =
      match x.run s with
      | (.ok a, s') => (.ok a, s')
      | (.error e, s') => (h e).run s' := by
  rcases hx : x.run s with ⟨_ | a, s'⟩
  · exact run_tryCatch_error h hx
  · exact run_tryCatch_ok h hx

end Ask

/-! ### The session -/

namespace Session

variable (s : Session) (call : Call)

lemma take_outcome : (s.take call).1 = s.script.head?.map Event.outcome := by
  unfold take
  split <;> simp_all

@[simp] lemma take_script : (s.take call).2.script = s.script.tail := by
  unfold take
  split <;> simp_all [wait]

@[simp] lemma take_sent : (s.take call).2.sent = s.sent ++ [⟨call, s.now⟩] := by
  unfold take
  split <;> rfl

@[simp] lemma take_sleeps : (s.take call).2.sleeps = s.sleeps := by
  unfold take
  split <;> rfl

@[simp] lemma take_requests : (s.take call).2.requests = s.requests := by
  unfold take
  split <;> rfl

@[simp] lemma sleep_script (x : Number) : (s.sleep x).script = s.script := rfl

@[simp] lemma sleep_sent (x : Number) : (s.sleep x).sent = s.sent := rfl

@[simp] lemma sleep_sleeps (x : Number) : (s.sleep x).sleeps = s.sleeps ++ [x] := rfl

variable (p : Settings.Performance)

/-- The sleep that keeps a request to the allowed rate, if one is needed. -/
def rateGap : List Number :=
  let since := s.now.sub s.last
  let interval := Number.float (minInterval p)
  if since.lt interval then [interval.sub since] else []

@[simp] lemma limitRate_script : (s.limitRate p).script = s.script := by
  simp only [limitRate]
  split <;> rfl

@[simp] lemma limitRate_sent : (s.limitRate p).sent = s.sent := by
  simp only [limitRate]
  split <;> rfl

@[simp] lemma limitRate_requests : (s.limitRate p).requests = s.requests := by
  simp only [limitRate]
  split <;> rfl

@[simp] lemma limitRate_sleeps : (s.limitRate p).sleeps = s.sleeps ++ s.rateGap p := by
  simp only [limitRate, rateGap]
  split <;> simp

end Session

/-! ### Calls -/

lemma run_makeCall {α : Type} (call : Call) (read : Option Outcome → Except Fault α)
    (s : Session) :
    (makeCall call read).run s = (read (s.take call).1, (s.take call).2) := by
  have hrun : (makeCall call read).run s =
      Ask.run (MonadExcept.ofExcept (read (s.take call).1)) (s.take call).2 := rfl
  rw [hrun, Ask.run_ofExcept]

end SpecScribe.Model
