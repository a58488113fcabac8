import SpecScribe.Settings.Config
import SpecScribe.Fault

/-!
The configuration as environment variables give it. A variable that is empty counts as not set.
-/

namespace SpecScribe.Settings

abbrev Environment := List (String × String)

/-- The value of a variable that is set and not empty. -/
def Environment.value? (env : Environment) (name : String) : Option String :=
  (env.lookup name).filter (· != "")

def textVariables : List (String × String) :=
  [("OPENAI_API_KEY", "openai_api_key"), ("AZURE_OPENAI_ENDPOINT", "azure_openai_endpoint"),
   ("AZURE_OPENAI_KEY", "azure_openai_key"), ("AZURE_OPENAI_VERSION", "azure_openai_version"),
   ("GEMINI_API_KEY", "gemini_api_key"), ("LLM_PROVIDER", "llm_provider"),
   ("LLM_MODEL", "llm_model"), ("OUTPUT_FORMAT", "output_format")]

def numberVariables : List (String × String) :=
  [("MAX_MEMORY_MB", "max_memory_mb"), ("PARALLEL_PROCESSES", "parallel_processes"),
   ("CHUNK_SIZE", "chunk_size"), ("CHUNK_OVERLAP", "chunk_overlap")]

def performanceVariables : List (String × String) :=
  [("REQUEST_TIMEOUT", "request_timeout"), ("MAX_RETRIES", "max_retries"),
   ("RETRY_DELAY", "retry_delay"), ("RATE_LIMIT_RPM", "rate_limit_rpm"),
   ("BATCH_SIZE", "batch_size")]

def parseInt (s : String) : Except Fault Int :=
  match Number.readInt? s.toList with
  | some n => .ok n
  | none => .error (.badValue ("invalid literal for int() with base 10: " ++ Text.quote s))

/-- The fields that are set by variables with a whole number, in order; the first value that is
none stops. -/
def numberFields (env : Environment) : List (String × String) → Except Fault Members
  | [] => .ok []
  | (key, field) :: r =>
    match env.value? key with
    | none => numberFields env r
    | some s => do
      let n ← parseInt s
      let rest ← numberFields env r
      return (field, .int n) :: rest

def textFields (env : Environment) : Members :=
  textVariables.filterMap fun (key, field) =>
    (env.value? key).map fun s => (field, .text s)

def Config.ofEnvironment (env : Environment) : Except Fault Config := do
  let numbers ← numberFields env numberVariables
  let limits ← numberFields env performanceVariables
  let performance ← match Performance.read limits with
    | .ok p => pure p
    | .error es => throw (.invalid "PerformanceSettings" es)
  match Config.read (textFields env ++ numbers) with
  | .ok c => return { c with performance := performance }
  | .error es => throw (.invalid "SpecificationConfig" es)

end SpecScribe.Settings
