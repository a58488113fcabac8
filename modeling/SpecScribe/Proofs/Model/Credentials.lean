import Mathlib
import SpecScribe.Model.Connection
import SpecScribe.Settings.Validation
import SpecScribe.Proofs.Datum.Shape

/-!
Which configurations pass the last look before a run, and which ones connect to a service. The look
knows the credentials of two of the three services and does not ask which service is named, so it
refuses some configurations that connect and passes others that do not.
-/

namespace SpecScribe.Model

open Settings

/-! ### Services and their credentials -/

/-- The name by which a service is asked for. -/
def Service.name : Service → String
  | .gemini => "gemini"
  | .azure => "azure"
  | .openai => "openai"

/-- The credentials of a service are given. -/
def Service.isReady (c : Config) : Service → Bool
  | .gemini => (given? c.geminiKey).isSome
  | .azure => (given? c.azureEndpoint).isSome && (given? c.azureKey).isSome
  | .openai => (given? c.openaiKey).isSome

/-- The services in the order in which they are looked for. -/
def Service.ranked : List Service := [.gemini, .azure, .openai]

/-- The service that is asked for by name, or else the first one whose credentials are given. -/
def chosen? (c : Config) : Option Service :=
  match given? c.provider with
  | some p => Service.ranked.find? fun s => s.name == p
  | none => Service.ranked.find? fun s => s.isReady c

variable {c : Config} {s : Service} {p : String}

lemma find?_name (s : Service) : (Service.ranked.find? fun s' => s'.name == s.name) = some s := by
  cases s <;> rfl

lemma find?_eq_some_iff_name :
    (Service.ranked.find? fun s => s.name == p) = some s ↔ s.name = p := by
  constructor
  · intro h
    simpa using List.find?_some h
  · rintro rfl
    exact find?_name s

/-- Detection gives the name of the first service that is ready. -/
lemma find?_detect (c : Config) :
    (Service.ranked.find? fun s => s.name == detect c) =
      Service.ranked.find? fun s => s.isReady c := by
  rw [detect]
  split_ifs with hgemini hazure hopenai
  · simp [Service.ranked, Service.name, Service.isReady, hgemini]
  · simp [Service.ranked, Service.name, Service.isReady, hgemini, hazure]
  · simp [Service.ranked, Service.name, Service.isReady, hgemini, hazure, hopenai]
  · simp [Service.ranked, Service.name, Service.isReady, hgemini, hazure, hopenai]

lemma chosen?_eq (c : Config) :
    chosen? c = Service.ranked.find? fun s => s.name == (given? c.provider).getD (detect c) := by
  rw [chosen?]
  cases given? c.provider with
  | none => exact (find?_detect c).symm
  | some p => rfl

/-- A connection goes to the service that is chosen, if its credentials are given. -/
lemma service_connect (c : Config) :
    (connect c).toOption.map Connection.service = (chosen? c).filter fun s => s.isReady c := by
  rw [chosen?_eq, connect]
  generalize (given? c.provider).getD (detect c) = p
  dsimp only
  split
  · rw [show (Service.ranked.find? fun s => s.name == "gemini") = some .gemini from rfl,
      Option.filter_some, Service.isReady]
    cases given? c.geminiKey <;> rfl
  · rw [show (Service.ranked.find? fun s => s.name == "azure") = some .azure from rfl,
      Option.filter_some, Service.isReady]
    cases given? c.azureEndpoint <;> cases given? c.azureKey <;> rfl
  · rw [show (Service.ranked.find? fun s => s.name == "openai") = some .openai from rfl,
      Option.filter_some, Service.isReady]
    cases given? c.openaiKey <;> rfl
  · rename_i hgemini hazure hopenai
    have hnone : (Service.ranked.find? fun s => s.name == p) = none := by
      simp [Service.ranked, Service.name, Ne.symm hgemini, Ne.symm hazure, Ne.symm hopenai]
    rw [hnone]
    rfl

lemma isOk_connect (c : Config) : (connect c).isOk ↔ ∃ s, chosen? c = some s ∧ s.isReady c := by
  have hservice := service_connect c
  rcases hconnect : connect c with f | k <;> rw [hconnect] at hservice
  · simp only [isOk_error, Bool.false_eq_true, false_iff]
    rintro ⟨s, hs, hready⟩
    rw [hs, Option.filter_some, if_pos hready] at hservice
    cases hservice
  · obtain ⟨hs, hready⟩ := Option.filter_eq_some_iff.mp hservice.symm
    exact ⟨fun _ => ⟨_, hs, hready⟩, fun _ => rfl⟩

end SpecScribe.Model

namespace SpecScribe.Settings

open Model

/-! ### The last look -/

/-- The sizes of a configuration are within bounds. -/
structure Config.WithinLimits (c : Config) : Prop where
  overlap : c.chunkOverlap < c.chunkSize
  memory : 64 ≤ c.maxMemoryMb
  processes : 1 ≤ c.parallelProcesses ∧ c.parallelProcesses ≤ 16

/-- The credentials that the look asks for: all of Azure, or a key of OpenAI and nothing of Azure
that would need a further key. -/
def Config.Equipped (c : Config) : Prop :=
  Service.azure.isReady c ∨ Service.openai.isReady c ∧ given? c.azureEndpoint = none

/-- A check that stops if a condition holds. -/
lemma isOk_unless {b : Bool} {f : Fault} {g : Unit → Except Fault Unit} :
    (if b then throw f >>= g else g ()).isOk ↔ b = false ∧ (g ()).isOk := by
  cases b
  · simp
  · simp [bind, Except.bind, throw, throwThe, MonadExceptOf.throw]

lemma isTruthy_optionalText (o : Option String) :
    (optionalText o).isTruthy = (given? o).isSome := by
  cases o with
  | none => rfl
  | some s => by_cases h : s = "" <;> simp [optionalText, Datum.isTruthy, given?, h]

lemma isOk_outside {low high : Bool} {f : Fault} :
    (if low then pure true >>= fun b => if b then throw f else pure ()
      else if high then throw f else pure () : Except Fault Unit).isOk ↔
        low = false ∧ high = false := by
  cases low <;> cases high <;>
    simp [bind, Except.bind, throw, throwThe, MonadExceptOf.throw, pure, Except.pure]

lemma isOk_validate (c : Config) : c.validate.isOk ↔ c.Equipped ∧ c.WithinLimits := by
  have hcredentials : (!(given? c.openaiKey).isSome && !(given? c.azureEndpoint).isSome) = false ∧
      ((given? c.azureEndpoint).isSome && !(given? c.azureKey).isSome) = false ↔ c.Equipped := by
    rw [Config.Equipped, Service.isReady, Service.isReady]
    cases given? c.openaiKey <;> cases given? c.azureEndpoint <;> cases given? c.azureKey <;> simp
  have hlimits : c.WithinLimits ↔ c.chunkOverlap < c.chunkSize ∧ 64 ≤ c.maxMemoryMb ∧
      1 ≤ c.parallelProcesses ∧ c.parallelProcesses ≤ 16 :=
    ⟨fun ⟨h, h', h''⟩ => ⟨h, h', h''⟩, fun ⟨h, h', h''⟩ => ⟨h, h', h''⟩⟩
  rw [Config.validate, ConfigFields.validate]
  dsimp only
  simp only [isOk_unless, isOk_outside, Config.fields, Datum.compareBy_int, isTruthy_optionalText,
    ok_bind]
  rw [← and_assoc, hcredentials, hlimits]
  simp [Datum.Comparison.numbers, Number.lt, Number.le]

/-! ### Agreement -/

/-- The look and the connection part: Gemini is chosen and ready, but nothing that the look asks for
is there; OpenAI is chosen and ready, but an endpoint of Azure without a key stands beside it; or a
service that is asked for by name is not ready, but another one has the credentials. -/
inductive Misjudged (c : Config) : Prop
  | gemini (chosen : chosen? c = some .gemini) (ready : Service.gemini.isReady c)
    (unequipped : ¬ c.Equipped)
  | endpoint (chosen : chosen? c = some .openai) (ready : Service.openai.isReady c)
    (endpoint : (given? c.azureEndpoint).isSome) (key : given? c.azureKey = none)
  | named {p : String} (named : given? c.provider = some p)
    (unready : ∀ s : Service, s.name = p → s.isReady c = false) (equipped : c.Equipped)

variable {c : Config}

/-- A configuration passes, but does not connect, only if a service is asked for by name. -/
lemma exists_named (hequipped : c.Equipped) (hconnect : ¬ ∃ s, chosen? c = some s ∧ s.isReady c) :
    ∃ p, given? c.provider = some p ∧ ∀ s : Service, s.name = p → s.isReady c = false := by
  rcases hprovider : given? c.provider with _ | p
  · -- without a name the first service that is ready is chosen
    refine absurd ?_ hconnect
    have hready : ∃ s ∈ Service.ranked, s.isReady c := by
      rcases hequipped with h | ⟨h, -⟩
      · exact ⟨.azure, by decide, h⟩
      · exact ⟨.openai, by decide, h⟩
    obtain ⟨s, hs⟩ := Option.isSome_iff_exists.mp (List.find?_isSome.mpr hready)
    exact ⟨s, by rw [chosen?, hprovider]; exact hs, List.find?_some hs⟩
  · refine ⟨p, rfl, fun s hs => ?_⟩
    by_contra hready
    refine hconnect ⟨s, ?_, by simpa using hready⟩
    rw [chosen?, hprovider]
    exact find?_eq_some_iff_name.mpr hs

lemma misjudged_iff (c : Config) :
    Misjudged c ↔ ¬ (c.Equipped ↔ ∃ s, chosen? c = some s ∧ s.isReady c) := by
  constructor
  · rintro (⟨hchosen, hready, hunequipped⟩ | ⟨hchosen, hready, hendpoint, hkey⟩ |
      ⟨hprovider, hunready, hequipped⟩) hiff
    · exact hunequipped (hiff.mpr ⟨_, hchosen, hready⟩)
    · rcases hiff.mpr ⟨_, hchosen, hready⟩ with hazure | ⟨-, hnone⟩
      · simp [Service.isReady, hkey] at hazure
      · simp [hnone] at hendpoint
    · obtain ⟨s, hchosen, hready⟩ := hiff.mp hequipped
      rw [chosen?, hprovider] at hchosen
      rw [hunready s (find?_eq_some_iff_name.mp hchosen)] at hready
      cases hready
  · intro hiff
    by_cases hequipped : c.Equipped
    · obtain ⟨p, hprovider, hunready⟩ :=
        exists_named hequipped fun hconnect => hiff ⟨fun _ => hconnect, fun _ => hequipped⟩
      exact .named hprovider hunready hequipped
    · obtain ⟨s, hchosen, hready⟩ : ∃ s, chosen? c = some s ∧ s.isReady c := by
        by_contra hconnect
        exact hiff ⟨fun h => absurd h hequipped, fun h => absurd h hconnect⟩
      cases s with
      | gemini => exact .gemini hchosen hready hequipped
      | azure => exact absurd (.inl hready) hequipped
      | openai =>
        -- the key of OpenAI is not enough, so there is an endpoint, and its key is missing
        have hendpoint : given? c.azureEndpoint ≠ none := fun h => hequipped (.inr ⟨hready, h⟩)
        refine .endpoint hchosen hready (Option.isSome_iff_ne_none.mpr hendpoint) ?_
        by_contra hkey
        refine hequipped (.inl ?_)
        simp [Service.isReady, Option.isSome_iff_ne_none, hendpoint, hkey]

/-- **When the last look agrees with the connection.** For every configuration with sizes within
bounds: it passes exactly when all credentials of Azure are given, or a key of OpenAI and no
endpoint of Azure; it connects exactly when the service asked for by name, or else the first one
that is ready, has its credentials. Both agree except for the three kinds of configurations that are
misjudged. -/
theorem validate_agrees_iff (hlimits : c.WithinLimits) :
    (c.validate.isOk ↔ c.Equipped) ∧
    ((connect c).isOk ↔ ∃ s, chosen? c = some s ∧ s.isReady c) ∧
    ((c.validate.isOk ↔ (connect c).isOk) ↔ ¬ Misjudged c) := by
  have hvalidate : c.validate.isOk ↔ c.Equipped := by
    rw [isOk_validate]
    exact and_iff_left hlimits
  refine ⟨hvalidate, isOk_connect c, ?_⟩
  rw [misjudged_iff, not_not, hvalidate, isOk_connect]

/-- Azure is asked for by name and ready, beside keys of the other services. -/
theorem validate_agrees_iff_azure :
    let c : Config :=
      { openaiKey := some "", azureEndpoint := some "https://e", azureKey := some "a",
        geminiKey := some "g", provider := some "azure" }
    c.WithinLimits ∧ ¬ Misjudged c ∧ c.validate.isOk ∧ (connect c).isOk := by
  intro c
  have hlimits : c.WithinLimits := ⟨by decide, by decide, by decide⟩
  obtain ⟨hvalidate, hconnect, hagree⟩ := validate_agrees_iff hlimits
  have hv := hvalidate.mpr (.inl (by decide))
  have hc := hconnect.mpr ⟨.azure, by decide, by decide⟩
  exact ⟨hlimits, hagree.mp ⟨fun _ => hc, fun _ => hv⟩, hv, hc⟩

/-- **A key of Gemini alone is refused, though it connects.** -/
theorem validate_refuses_gemini :
    ∃ c, Config.read [("gemini_api_key", .text "k")] = .ok c ∧ c.WithinLimits ∧
      (connect c).toOption.map Connection.service = some .gemini ∧
      c.validate = .error (.badValue
        "Either OPENAI_API_KEY or Azure OpenAI configuration is required") := by
  refine ⟨{ geminiKey := some "k" }, by cbv, ⟨by decide, by decide, by decide⟩, by decide, by decide⟩

end SpecScribe.Settings
