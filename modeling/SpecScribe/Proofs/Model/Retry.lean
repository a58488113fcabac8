import Mathlib
import SpecScribe.Proofs.Model.Ask

/-!
The retry law. A request is tried until it is answered, fails beyond hope or has no tries left;
its outcome is that of the last try. Between two tries there is a back-off that doubles each time,
and every try waits first until the rate allows it. A request counts its prompts when it is
answered, and then once.
-/

namespace SpecScribe.Model

open Settings

variable {α : Type}

/-- A fault after which another try may help. -/
def Retryable (f : Fault) : Prop :=
  isTimeout f ∨ isRateLimit f.message ∨ f.family ∈ networkFamilies

/-- An outcome after which there is no other try: an answer, or a fault beyond hope. -/
def Final (r : Except Fault α) : Prop := ∀ f, r = .error f → ¬ Retryable f

/-- The back-off after try `i`: the delay doubled `i` times, and ten seconds more if there were
too many requests. -/
def backoff (delay : ℤ) (i : ℕ) (r : Except Fault α) : ℤ :=
  match r with
  | .ok _ => delay * 2 ^ i
  | .error f => delay * 2 ^ i + if ¬ isTimeout f ∧ isRateLimit f.message then 10 else 0

variable (α) in
lemma backoff?_of_retryable {p : Performance} {i : ℕ} {f : Fault} (h : Retryable f) :
    backoff? p i f = some (backoff p.retryDelay i (.error f : Except Fault α)) := by
  simp only [backoff?, backoff, Number.pow2, Nat.pow_eq]
  by_cases h1 : isTimeout f
  · simp [h1]
  by_cases h2 : isRateLimit f.message
  · simp [h1, h2]
  · have h3 : f.family ∈ networkFamilies := by simpa [Retryable, h1, h2] using h
    simp [h1, h2, h3]

lemma backoff?_of_not_retryable {p : Performance} {i : ℕ} {f : Fault} (h : ¬ Retryable f) :
    backoff? p i f = none := by
  simp only [Retryable, not_or] at h
  simp [backoff?, h]

/-! ### One try after another -/

section Tries

variable (p : Performance) (call : Call)

/-- The session after a try that begins in `s`, before the answer is counted. -/
def afterTry (s : Session) : Session := ((s.limitRate p).take call).2

/-- The session in which try `i` begins, if `waits` are the back-offs. -/
def beforeTry (waits : ℕ → ℤ) (s : Session) : ℕ → Session
  | 0 => s
  | i + 1 => (afterTry p call (beforeTry waits s i)).sleep (.int (waits i))

/-- How many prompts were answered. -/
def answered (r : Except Fault α) : ℕ :=
  match r with
  | .ok _ => call.size
  | .error _ => 0

/-- The session with the prompts of an answered call counted. -/
def counted (r : Except Fault α) (s : Session) : Session :=
  { s with requests := s.requests + answered call r }

/-- An operation makes one call: it takes the next event, reads it, and counts an answer. -/
def MakesCall (operation : Ask α) (read : Option Outcome → Except Fault α) : Prop :=
  ∀ s, operation.run s =
    (read (s.take call).1, counted call (read (s.take call).1) (s.take call).2)

/-- What the events of a script mean, one try after another. -/
def outcomeAt (read : Option Outcome → Except Fault α) (script : List Event) (i : ℕ) :
    Except Fault α :=
  read (script[i]?.map Event.outcome)

variable {p call}

lemma beforeTry_succ' (waits : ℕ → ℤ) (s : Session) (i : ℕ) :
    beforeTry p call waits s (i + 1) =
      beforeTry p call (fun j => waits (j + 1))
        ((afterTry p call s).sleep (.int (waits 0))) i := by
  induction i with
  | zero => rfl
  | succ i ih => rw [beforeTry, ih, beforeTry]

/-- The first try of an operation, seen from its outcome. -/
lemma run_try {operation : Ask α} {read : Option Outcome → Except Fault α}
    (h : MakesCall call operation read) (s : Session) :
    operation.run (s.limitRate p) =
      (outcomeAt read s.script 0,
        counted call (outcomeAt read s.script 0) (afterTry p call s)) := by
  rw [h, Session.take_outcome, Session.limitRate_script, List.head?_eq_getElem?]
  rfl

lemma outcomeAt_tail (read : Option Outcome → Except Fault α) (script : List Event) (i : ℕ) :
    outcomeAt read script.tail i = outcomeAt read script (i + 1) := by
  cases script <;> rfl

section Steps

variable {operation : Ask α} {left attempt : ℕ} {s s' : Session} {f : Fault}

lemma retrying_answered {a : α} (h : operation.run (s.limitRate p) = (.ok a, s')) :
    (retrying p operation (left + 1) attempt).run s = (.ok a, s') := by
  rw [retrying, Ask.run_bind_ok _ (Ask.run_modify _ _)]
  exact Ask.run_tryCatch_ok _ h

lemma retrying_hopeless (h : operation.run (s.limitRate p) = (.error f, s'))
    (hf : ¬ Retryable f) : (retrying p operation (left + 1) attempt).run s = (.error f, s') := by
  rw [retrying, Ask.run_bind_ok _ (Ask.run_modify _ _), Ask.run_tryCatch_error _ h,
    backoff?_of_not_retryable hf]
  rfl

lemma retrying_again (h : operation.run (s.limitRate p) = (.error f, s')) (hf : Retryable f) :
    (retrying p operation (left + 1) attempt).run s =
      (retrying p operation left (attempt + 1)).run
        (s'.sleep (.int (backoff p.retryDelay attempt (.error f : Except Fault α)))) := by
  rw [retrying, Ask.run_bind_ok _ (Ask.run_modify _ _), Ask.run_tryCatch_error _ h,
    backoff?_of_retryable α hf]
  exact Ask.run_bind_ok _ (Ask.run_modify _ _)

end Steps

/-- Try after try: by induction on the tries that are left. The back-offs of the tries that follow
are those of the whole run, one place on. -/
lemma retrying_run {operation : Ask α} {read : Option Outcome → Except Fault α}
    (h : MakesCall call operation read) (left attempt : ℕ) (s : Session) :
    ∃ k ≤ left, (k = left ∨ Final (outcomeAt read s.script k)) ∧
      (∀ j < k, ¬ Final (outcomeAt read s.script j)) ∧
      (retrying p operation left attempt).run s =
        (outcomeAt read s.script k, counted call (outcomeAt read s.script k)
          (afterTry p call (beforeTry p call
            (fun j => backoff p.retryDelay (attempt + j) (outcomeAt read s.script j)) s k))) := by
  induction left generalizing attempt s with
  | zero =>
    refine ⟨0, le_rfl, .inl rfl, by simp, ?_⟩
    rw [retrying, Ask.run_bind_ok _ (Ask.run_modify _ _)]
    exact run_try h s
  | succ left ih =>
    have htry := run_try (p := p) h s
    rcases hr : outcomeAt read s.script 0 with f | a <;> rw [hr] at htry
    swap
    · refine ⟨0, by omega, .inr (by simp [hr, Final]), by simp, ?_⟩
      rw [retrying_answered htry, hr]
      rfl
    by_cases hf : Retryable f
    swap
    · refine ⟨0, by omega, .inr (by simp [hr, Final, hf]), by simp, ?_⟩
      rw [retrying_hopeless htry hf, hr]
      rfl
    -- the rest of the run begins after the first back-off
    set w := backoff p.retryDelay attempt (.error f : Except Fault α) with hw
    set s₁ := (afterTry p call s).sleep (.int w) with hs₁
    have hshift : ∀ j, outcomeAt read s₁.script j = outcomeAt read s.script (j + 1) := by
      intro j
      rw [← outcomeAt_tail]
      simp [hs₁, afterTry]
    have hagain : (retrying p operation (left + 1) attempt).run s =
        (retrying p operation left (attempt + 1)).run s₁ := retrying_again htry hf
    obtain ⟨k, hk, hend, hbefore, hrest⟩ := ih (attempt + 1) s₁
    simp only [hshift] at hend hbefore hrest
    refine ⟨k + 1, by omega, hend.imp_left (by omega), fun j hj => ?_, ?_⟩
    · rcases j with _ | j
      · intro hfin
        exact hfin f hr hf
      · exact hbefore j (by omega)
    · have hwaits : ∀ j, attempt + 1 + j = attempt + (j + 1) := by omega
      simp only [hwaits] at hrest
      rw [hagain, hrest, beforeTry_succ', hr]
      rfl

/-! ### What the tries leave behind -/

lemma afterTry_sent (s : Session) :
    (afterTry p call s).sent.map Sent.call = s.sent.map Sent.call ++ [call] := by
  simp [afterTry]

lemma afterTry_script (s : Session) : (afterTry p call s).script = s.script.tail := by
  simp [afterTry]

lemma afterTry_sleeps (s : Session) : (afterTry p call s).sleeps = s.sleeps ++ s.rateGap p := by
  simp [afterTry]

variable (waits : ℕ → ℤ) (s : Session) (i : ℕ)

lemma beforeTry_sent :
    (beforeTry p call waits s i).sent.map Sent.call =
      s.sent.map Sent.call ++ List.replicate i call := by
  induction i with
  | zero => simp [beforeTry]
  | succ i ih =>
    rw [beforeTry, Session.sleep_sent, afterTry_sent, ih, List.append_assoc,
      ← List.replicate_succ']

lemma beforeTry_script : (beforeTry p call waits s i).script = s.script.drop i := by
  induction i with
  | zero => rfl
  | succ i ih => rw [beforeTry, Session.sleep_script, afterTry_script, ih, List.tail_drop]

lemma beforeTry_sleeps :
    (beforeTry p call waits s i).sleeps = s.sleeps ++ (List.range i).flatMap fun j =>
      (beforeTry p call waits s j).rateGap p ++ [.int (waits j)] := by
  induction i with
  | zero => simp [beforeTry]
  | succ i ih =>
    rw [beforeTry, Session.sleep_sleeps, afterTry_sleeps, ih, List.range_succ]
    simp

end Tries

/-- A request that begins in `s` ends with the outcome of try `k` and has made `k + 1` calls. Its
sleeps are the back-offs between the tries, in order, and before each try the sleep, if any, that
keeps it to the allowed rate. -/
structure EndsAt (p : Performance) (call : Call) (outcome : ℕ → Except Fault α) (s : Session)
    (k : ℕ) (result : Except Fault α × Session) : Prop where
  value : result.1 = outcome k
  calls : result.2.sent.map Sent.call = s.sent.map Sent.call ++ List.replicate (k + 1) call
  script : result.2.script = s.script.drop (k + 1)
  sleeps :
    let waits := fun i => backoff p.retryDelay i (outcome i)
    let gap := fun i => (beforeTry p call waits s i).rateGap p
    result.2.sleeps =
      s.sleeps ++ ((List.range k).flatMap fun i => gap i ++ [.int (waits i)]) ++ gap k

variable {p : Performance} {call : Call} {operation : Ask α}
  {read : Option Outcome → Except Fault α}

lemma withRetry_endsAt (h : MakesCall call operation read) (s : Session) :
    ∃ k ≤ p.maxRetries.toNat,
      (k = p.maxRetries.toNat ∨ Final (outcomeAt read s.script k)) ∧
      (∀ j < k, ¬ Final (outcomeAt read s.script j)) ∧
      EndsAt p call (outcomeAt read s.script) s k ((withRetry p operation).run s) := by
  obtain ⟨k, hk, hend, hbefore, hrun⟩ := retrying_run (p := p) h p.maxRetries.toNat 0 s
  simp only [Nat.zero_add] at hrun
  refine ⟨k, hk, hend, hbefore, ?_⟩
  rw [withRetry, hrun]
  refine ⟨rfl, ?_, ?_, ?_⟩
  · simp only [counted]
    rw [afterTry_sent, beforeTry_sent, List.append_assoc, ← List.replicate_succ']
  · simp only [counted]
    rw [afterTry_script, beforeTry_script, List.tail_drop]
  · simp only [counted]
    rw [afterTry_sleeps, beforeTry_sleeps]

def singleAnswer (o : Option Outcome) : Except Fault Datum := (singleOutcome o).map Reply.value

def severalAnswers (o : Option Outcome) : Except Fault (List Datum) :=
  (severalOutcome o).map (List.map Reply.valueInBatch)

/-- A call whose answer is counted and read is one operation. -/
lemma makesCall {β : Type} (call : Call) (read : Option Outcome → Except Fault α) (g : α → β) :
    MakesCall call (do let r ← makeCall call read; countAnswered call; return g r)
      fun o => (read o).map g := by
  intro s
  rcases hread : read (s.take call).1 with f | a
  · have hcall : (makeCall call read).run s = (.error f, (s.take call).2) := by
      rw [run_makeCall, hread]
    rw [Ask.run_bind_error _ hcall]
    simp only [hread]
    rfl
  · have hcall : (makeCall call read).run s = (.ok a, (s.take call).2) := by
      rw [run_makeCall, hread]
    rw [Ask.run_bind_ok _ hcall]
    simp only [hread]
    rfl

lemma generate_eq (p : Performance) (prompt : String) :
    ∃ operation, MakesCall (.invoke prompt) operation singleAnswer ∧
      generate p prompt = withRetry p operation :=
  ⟨_, makesCall (.invoke prompt) singleOutcome Reply.value, rfl⟩

lemma generateBatch_eq (p : Performance) {prompts : List String} (h : prompts ≠ []) :
    ∃ operation, MakesCall (.batch prompts) operation severalAnswers ∧
      generateBatch p prompts = withRetry p operation :=
  ⟨_, makesCall (.batch prompts) severalOutcome (List.map Reply.valueInBatch),
    if_neg (by simpa using h)⟩

/-- A request, by the call that it makes. -/
def request (p : Performance) : Call → Ask (List Datum)
  | .invoke prompt => do return [← generate p prompt]
  | .batch prompts => generateBatch p prompts

end SpecScribe.Model
