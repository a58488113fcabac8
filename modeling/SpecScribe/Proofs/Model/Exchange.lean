import Mathlib
import SpecScribe.Proofs.Fault
import SpecScribe.Proofs.Model.Retry

/-!
What passes between a computation and the model: each call, with what the model did then. Rules
say what a computation has heard and how it ends, from what its parts have heard.
-/

namespace SpecScribe.Model

open Settings

variable {α β : Type}

/-- A call and what the model did. -/
abbrev Exchange := Call × Outcome

/-- The calls made between two states of a session, with the events that they used up. A call
that found no event is left out. -/
def exchanges (s s' : Session) : List Exchange :=
  ((s'.sent.map Sent.call).drop s.sent.length).zip (s.script.map Event.outcome)

/-- From one state to the other some calls were made, and each used up one event. -/
def Later (s s' : Session) : Prop :=
  ∃ calls, s'.sent.map Sent.call = s.sent.map Sent.call ++ calls ∧
    s'.script = s.script.drop calls.length

lemma Later.refl (s : Session) : Later s s := ⟨[], by simp⟩

lemma exchanges_self (s : Session) : exchanges s s = [] := by
  simp [exchanges]

lemma zip_append_drop (as bs : List α) (cs : List β) :
    (as ++ bs).zip cs = as.zip cs ++ bs.zip (cs.drop as.length) := by
  induction as generalizing cs with
  | nil => rfl
  | cons a as ih => cases cs <;> simp [ih]

section Later

variable {s s' s'' : Session}

lemma exchanges_eq {calls : List Call}
    (h : s'.sent.map Sent.call = s.sent.map Sent.call ++ calls) :
    exchanges s s' = calls.zip (s.script.map Event.outcome) := by
  have hlength : s.sent.length = (s.sent.map Sent.call).length := (List.length_map _).symm
  rw [exchanges, h, hlength, List.drop_left]

lemma Later.trans (h : Later s s') (h' : Later s' s'') :
    Later s s'' ∧ exchanges s s'' = exchanges s s' ++ exchanges s' s'' := by
  obtain ⟨calls, hsent, hscript⟩ := h
  obtain ⟨calls', hsent', hscript'⟩ := h'
  have hall : s''.sent.map Sent.call = s.sent.map Sent.call ++ (calls ++ calls') := by
    rw [hsent', hsent, List.append_assoc]
  refine ⟨⟨calls ++ calls', hall, ?_⟩, ?_⟩
  · rw [hscript', hscript, List.drop_drop, List.length_append]
  · rw [exchanges_eq hall, exchanges_eq hsent, exchanges_eq hsent', zip_append_drop, hscript,
      List.map_drop]

end Later

/-- Whatever the session, a computation has heard and ends as the condition says. -/
def Ensures (x : Ask α) (post : List Exchange → Except Fault α → Prop) : Prop :=
  ∀ s, Later s (x.run s).2 ∧ post (exchanges s (x.run s).2) (x.run s).1

namespace Ensures

variable {x : Ask α} {P : List Exchange → Except Fault α → Prop}

lemma weaken {Q : List Exchange → Except Fault α → Prop} (h : Ensures x P)
    (hq : ∀ es r, P es r → Q es r) : Ensures x Q :=
  fun s => ⟨(h s).1, hq _ _ (h s).2⟩

lemma pure {a : α} (h : P [] (.ok a)) : Ensures (pure a) P := by
  intro s
  rw [Ask.run_pure]
  exact ⟨.refl s, by rwa [exchanges_self]⟩

lemma ofExcept {r : Except Fault α} (h : P [] r) : Ensures (MonadExcept.ofExcept r) P := by
  intro s
  rw [Ask.run_ofExcept]
  exact ⟨.refl s, by rwa [exchanges_self]⟩

lemma bind {f : α → Ask β} {Q : α → List Exchange → Except Fault β → Prop}
    {R : List Exchange → Except Fault β → Prop} (hx : Ensures x P) (hf : ∀ a, Ensures (f a) (Q a))
    (hok : ∀ a es es' r, P es (.ok a) → Q a es' r → R (es ++ es') r)
    (herror : ∀ e es, P es (.error e) → R es (.error e)) : Ensures (x >>= f) R := by
  intro s
  obtain ⟨hlater, hpost⟩ := hx s
  rw [Ask.run_bind]
  rcases hrun : x.run s with ⟨e | a, s'⟩ <;> rw [hrun] at hlater hpost
  · exact ⟨hlater, herror e _ hpost⟩
  · obtain ⟨hlater', hpost'⟩ := hf a s'
    obtain ⟨hall, hexchanges⟩ := hlater.trans hlater'
    exact ⟨hall, hexchanges ▸ hok a _ _ _ hpost hpost'⟩

lemma tryCatch {handle : Fault → Ask α} {Q : Fault → List Exchange → Except Fault α → Prop}
    {R : List Exchange → Except Fault α → Prop} (hx : Ensures x P)
    (hhandle : ∀ e, Ensures (handle e) (Q e)) (hok : ∀ a es, P es (.ok a) → R es (.ok a))
    (herror : ∀ e es es' r, P es (.error e) → Q e es' r → R (es ++ es') r) :
    Ensures (tryCatch x handle) R := by
  intro s
  obtain ⟨hlater, hpost⟩ := hx s
  rw [Ask.run_tryCatch]
  rcases hrun : x.run s with ⟨e | a, s'⟩ <;> rw [hrun] at hlater hpost
  · obtain ⟨hlater', hpost'⟩ := hhandle e s'
    obtain ⟨hall, hexchanges⟩ := hlater.trans hlater'
    exact ⟨hall, hexchanges ▸ herror e _ _ _ hpost hpost'⟩
  · exact ⟨hlater, hok a _ hpost⟩

/-- What is settled before anything is asked adds nothing to what is heard. -/
lemma ofExcept_bind {r : Except Fault α} {f : α → Ask β}
    {R : List Exchange → Except Fault β → Prop} (hok : ∀ a, r = .ok a → Ensures (f a) R)
    (herror : ∀ e, r = .error e → R [] (.error e)) :
    Ensures (MonadExcept.ofExcept r >>= f) R := by
  rcases r with e | a
  · exact .ofExcept (herror e rfl)
  · exact hok a rfl

/-- Nor does what is made of the answer. -/
lemma bind_ofExcept {f : α → Except Fault β} {R : List Exchange → Except Fault β → Prop}
    (hx : Ensures x P) (hok : ∀ a es, P es (.ok a) → R es (f a))
    (herror : ∀ e es, P es (.error e) → R es (.error e)) :
    Ensures (x >>= fun a => MonadExcept.ofExcept (f a)) R := by
  refine hx.bind (Q := fun a es r => es = [] ∧ r = f a) (fun a => .ofExcept ⟨rfl, rfl⟩) ?_ herror
  rintro a es _ _ h ⟨rfl, rfl⟩
  rw [List.append_nil]
  exact hok a es h

lemma map {f : α → β} {R : List Exchange → Except Fault β → Prop} (hx : Ensures x P)
    (hok : ∀ a es, P es (.ok a) → R es (.ok (f a)))
    (herror : ∀ e es, P es (.error e) → R es (.error e)) :
    Ensures (x >>= fun a => Pure.pure (f a)) R :=
  hx.bind_ofExcept (f := fun a => .ok (f a)) hok herror

section NoFault

variable {γ : Type} {g : γ → α} {T : List Exchange → γ → Prop}

/-- A computation that does not end in a fault, and another one. -/
lemma bind_ok {f : α → Ask β} {Q : γ → List Exchange → Except Fault β → Prop}
    {R : List Exchange → Except Fault β → Prop}
    (hx : Ensures x fun es r => ∃ c, r = .ok (g c) ∧ T es c) (hf : ∀ c, Ensures (f (g c)) (Q c))
    (hok : ∀ c es es' r, T es c → Q c es' r → R (es ++ es') r) : Ensures (x >>= f) R := by
  intro s
  obtain ⟨hlater, c, hrun, hc⟩ := hx s
  obtain ⟨hlater', hpost⟩ := hf c (x.run s).2
  obtain ⟨hall, hexchanges⟩ := hlater.trans hlater'
  rw [Ask.run_bind_ok f (Prod.ext hrun rfl)]
  exact ⟨hall, hexchanges ▸ hok c _ _ _ hc hpost⟩

lemma map_ok {f : α → β} (hx : Ensures x fun es r => ∃ c, r = .ok (g c) ∧ T es c) :
    Ensures (x >>= fun a => Pure.pure (f a)) fun es r => ∃ c, r = .ok (f (g c)) ∧ T es c := by
  refine hx.bind_ok (Q := fun c es r => es = [] ∧ r = .ok (f (g c))) (fun c => .pure ⟨rfl, rfl⟩) ?_
  rintro c es _ _ hc ⟨rfl, rfl⟩
  exact ⟨c, rfl, by rwa [List.append_nil]⟩

lemma tryCatch_ok {handle : Fault → Ask α}
    (hx : Ensures x fun es r => ∃ c, r = .ok (g c) ∧ T es c) :
    Ensures (MonadExcept.tryCatch x handle) fun es r => ∃ c, r = .ok (g c) ∧ T es c := by
  intro s
  obtain ⟨hlater, c, hrun, hc⟩ := hx s
  rw [Ask.run_tryCatch_ok handle (Prod.ext hrun rfl)]
  exact ⟨hlater, c, rfl, hc⟩

end NoFault

/-- One computation after another, none of which ends in a fault. What holds of the parts holds of
the whole if it stays true when more is heard. -/
lemma mapM {f : α → Ask β} {R : List Exchange → α → β → Prop}
    (hmono : ∀ {es es' a b}, R es a b → es ⊆ es' → R es' a b)
    (hf : ∀ a, Ensures (f a) fun es r => ∃ b, r = .ok b ∧ R es a b) (as : List α) :
    Ensures (as.mapM f) fun es r => ∃ bs, r = .ok bs ∧ List.Forall₂ (R es) as bs := by
  induction as with
  | nil => exact .pure ⟨[], rfl, .nil⟩
  | cons a as ih =>
    rw [List.mapM_cons]
    refine (hf a).bind_ok
      (Q := fun b es r => ∃ bs, r = .ok (b :: bs) ∧ List.Forall₂ (R es) as bs)
      (fun b => ih.map_ok) ?_
    rintro b es es' _ hb ⟨bs, rfl, hall⟩
    exact ⟨b :: bs, rfl, .cons (hmono hb (List.subset_append_left _ _))
      (hall.imp fun _ _ h => hmono h (List.subset_append_right _ _))⟩

end Ensures

/-! ### Requests -/

/-- A reply to a prompt, read from what was heard. -/
inductive Heard (es : List Exchange) (prompt : String) : Datum → Prop
  | alone {r : Reply} (h : (.invoke prompt, .single (.ok r)) ∈ es) : Heard es prompt r.value
  | inBatch {prompts : List String} {rs : List (Except Fault Reply)} {j : ℕ} {r : Reply}
    (h : (.batch prompts, .several rs) ∈ es) (hprompt : prompts[j]? = some prompt)
    (hreply : rs[j]? = some (.ok r)) : Heard es prompt r.valueInBatch

lemma Heard.mono {es es' : List Exchange} {prompt : String} {d : Datum} (h : Heard es prompt d)
    (hsub : es ⊆ es') : Heard es' prompt d := by
  cases h with
  | alone h => exact .alone (hsub h)
  | inBatch h hprompt hreply => exact .inBatch (hsub h) hprompt hreply

/-- A batch that succeeds has one reply for each prompt. -/
def Complete (es : List Exchange) : Prop :=
  ∀ prompts rs, (Call.batch prompts, Outcome.several rs) ∈ es →
    (∀ r ∈ rs, r.isOk) → rs.length = prompts.length

lemma Complete.mono {es es' : List Exchange} (h : Complete es') (hsub : es ⊆ es') : Complete es :=
  fun prompts rs hmem => h prompts rs (hsub hmem)

lemma singleAnswer_ok {o : Option Outcome} {d : Datum} (h : singleAnswer o = .ok d) :
    ∃ r : Reply, o = some (.single (.ok r)) ∧ d = r.value := by
  rcases o with _ | ((f | r) | rs | f) <;> cases h
  exact ⟨r, rfl, rfl⟩

lemma severalAnswers_ok {o : Option Outcome} {ds : List Datum} (h : severalAnswers o = .ok ds) :
    ∃ rs : List Reply, o = some (.several (rs.map .ok)) ∧ ds = rs.map Reply.valueInBatch := by
  rcases o with _ | (r | rs | f)
  · cases h
  · cases h
  · rcases hread : rs.mapM id with f | replies
    all_goals
      simp only [severalAnswers, severalOutcome, hread] at h
      cases h
    exact ⟨replies, by rw [mapM_id_eq_ok hread], rfl⟩
  · cases h

section Requests

variable {p : Performance} {call : Call} {operation : Ask α}
  {read : Option Outcome → Except Fault α}

/-- What is answered was heard: the last event that was used up means the answer. -/
lemma withRetry_heard (h : MakesCall call operation read) (hread : ∀ a, read none ≠ .ok a) :
    Ensures (withRetry p operation) fun es r =>
      ∀ a, r = .ok a → ∃ o, (call, o) ∈ es ∧ read (some o) = .ok a := by
  intro s
  obtain ⟨k, -, -, -, hends⟩ := withRetry_endsAt (p := p) h s
  refine ⟨⟨_, hends.calls, by rw [hends.script, List.length_replicate]⟩, fun a ha => ?_⟩
  rw [hends.value, outcomeAt] at ha
  rcases hk : s.script[k]? with _ | e <;> rw [hk] at ha
  · exact absurd ha (hread a)
  refine ⟨e.outcome, ?_, ha⟩
  rw [exchanges_eq hends.calls, List.mem_iff_getElem?]
  exact ⟨k, by simp [List.getElem?_zip_eq_some, hk]⟩

lemma generate_heard (p : Performance) (prompt : String) :
    Ensures (generate p prompt) fun es r => ∀ d, r = .ok d → Heard es prompt d := by
  obtain ⟨operation, hcall, heq⟩ := generate_eq p prompt
  rw [heq]
  refine (withRetry_heard hcall (fun a ha => by cases ha)).weaken fun es r h d hd => ?_
  obtain ⟨o, hmem, ho⟩ := h d hd
  obtain ⟨reply, ho', rfl⟩ := singleAnswer_ok ho
  cases ho'
  exact .alone hmem

lemma generateBatch_heard (p : Performance) (prompts : List String) :
    Ensures (generateBatch p prompts) fun es r => ∀ ds, r = .ok ds → Complete es →
      List.Forall₂ (Heard es) prompts ds := by
  by_cases hne : prompts = []
  · subst hne
    refine .pure fun ds hds _ => ?_
    cases hds
    exact .nil
  obtain ⟨operation, hcall, heq⟩ := generateBatch_eq p hne
  rw [heq]
  refine (withRetry_heard hcall (fun a ha => by cases ha)).weaken fun es r h ds hds hcomplete => ?_
  obtain ⟨o, hmem, ho⟩ := h ds hds
  obtain ⟨rs, ho', rfl⟩ := severalAnswers_ok ho
  cases ho'
  have hlength : rs.length = prompts.length := by
    simpa using hcomplete prompts _ hmem (by simp [Except.isOk, Except.toBool])
  rw [List.forall₂_iff_get]
  refine ⟨by simp [hlength], fun j hj hj' => ?_⟩
  have hreply : j < rs.length := by omega
  simpa using Heard.inBatch (j := j) (r := rs[j]) hmem (by simp [hj]) (by simp [hreply])

end Requests

end SpecScribe.Model
