import SpecScribe.Datum
import SpecScribe.Fault
import SpecScribe.Settings.Config

/-!
The connection to a model service, made from the configuration: which service, which model, and
with which arguments it is reached.
-/

namespace SpecScribe.Model

open Settings

inductive Service where
  | gemini
  | azure
  | openai
  deriving DecidableEq

def Service.client : Service → String
  | .gemini => "ChatGoogleGenerativeAI"
  | .azure => "AzureChatOpenAI"
  | .openai => "ChatOpenAI"

structure Connection where
  service : Service
  model : String
  arguments : Members

def given? (s : Option String) : Option String := s.filter (· != "")

/-- The service for which there are credentials. -/
def detect (c : Config) : String :=
  if (given? c.geminiKey).isSome then "gemini"
  else if (given? c.azureEndpoint).isSome && (given? c.azureKey).isSome then "azure"
  else if (given? c.openaiKey).isSome then "openai"
  else "unknown"

def temperature : Datum := .float 0.3

/-- Connects to the service that is asked for, or to the one for which there are credentials. -/
def connect (c : Config) : Except Fault Connection :=
  let provider := (given? c.provider).getD (detect c)
  let retries : Datum := .int c.performance.maxRetries
  let timeout : Datum := .int c.performance.requestTimeout
  let model := (given? c.model).getD "gpt-4"
  let refused :=
    Except.error (.badValue ("No valid configuration found for provider: " ++ provider))
  match provider with
  | "gemini" =>
    match given? c.geminiKey with
    | some key =>
      let model := (given? c.model).getD "gemini-2.0-flash"
      .ok ⟨.gemini, model, [("model", .text model), ("temperature", temperature),
        ("google_api_key", .text key), ("max_retries", retries)]⟩
    | none => refused
  | "azure" =>
    match given? c.azureEndpoint, given? c.azureKey with
    | some endpoint, some key =>
      .ok ⟨.azure, model, [("azure_deployment", .text model), ("temperature", temperature),
        ("azure_endpoint", .text endpoint), ("api_key", .text key),
        ("api_version", .text c.azureVersion), ("timeout", timeout), ("max_retries", retries)]⟩
    | _, _ => refused
  | "openai" =>
    match given? c.openaiKey with
    | some key =>
      .ok ⟨.openai, model, [("model", .text model), ("temperature", temperature),
        ("api_key", .text key), ("timeout", timeout), ("max_retries", retries)]⟩
    | none => refused
  | _ => refused

end SpecScribe.Model
