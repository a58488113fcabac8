import SpecScribe.Datum.Describe
import SpecScribe.Language
import SpecScribe.Settings.Performance
import SpecScribe.Settings.Table

/-!
The configuration of a run: which model service is used and with which keys, how code is cut into
chunks, what is left out, and the settings of the parts.
-/

namespace SpecScribe.Settings

structure Config where
  openaiKey : Option String := none
  azureEndpoint : Option String := none
  azureKey : Option String := none
  azureVersion : String := "2024-02-01"
  geminiKey : Option String := none
  provider : Option String := none
  model : Option String := none
  chunkSize : Int := 4000
  chunkOverlap : Int := 200
  maxMemoryMb : Int := 1024
  parallelProcesses : Int := 4
  languages : List Language := Language.all
  outputFormat : String := "japanese_detailed_design"
  excludePatterns : List String :=
    ["*/node_modules/*", "*/venv/*", "*/.*", "*.pyc", "__pycache__", "*/build/*", "*/dist/*",
     "*/target/*", "*.min.js", "*.bundle.js"]
  documentTitle : String := "システム仕様書"
  performance : Performance := {}
  table : TableSettings := {}

/-- The services that can be asked for by name. -/
def providerNames : List String := ["azure", "gemini", "openai"]

def nameSet (names : List String) : String :=
  "\x7b" ++ ", ".intercalate (names.map Text.quote) ++ "\x7d"

open Schema in
def readTitle (ms : Members) : Checked String :=
  withDefault ms "document_title" text "システム仕様書"

open Schema in
def Config.read (ms : Members) : Checked Config :=
  let openaiKey := withDefault ms "openai_api_key" (optional text) none
  let azureEndpoint := withDefault ms "azure_openai_endpoint" (optional text) none
  let azureKey := withDefault ms "azure_openai_key" (optional text) none
  let azureVersion := withDefault ms "azure_openai_version" text "2024-02-01"
  let geminiKey := withDefault ms "gemini_api_key" (optional text) none
  let provider := ensureGiven ms "llm_provider"
    (withDefault ms "llm_provider" (optional text) none) fun
      | none => none
      | some p =>
        if providerNames.contains p then none
        else some ("llm_provider must be one of " ++ nameSet providerNames)
  let model := withDefault ms "llm_model" (optional text) none
  let chunkSize := withDefault ms "chunk_size" (atLeast 100 integer) 4000
  let chunkOverlap := ensureGiven ms "chunk_overlap"
    (withDefault ms "chunk_overlap" (atLeast 0 integer) 200) fun n =>
      match chunkSize with
      | .ok size => if size ≤ n then some "chunk_overlap must be less than chunk_size" else none
      | .error _ => none
  let memory := withDefault ms "max_memory_mb" (atLeast 64 integer) 1024
  let processes := withDefault ms "parallel_processes" (atMost 16 (atLeast 1 integer)) 4
  let languages := withDefault ms "supported_languages" (list Language.rule) Language.all
  let format := withDefault ms "output_format" text "japanese_detailed_design"
  let patterns := withDefault ms "exclude_patterns" (list text) ({} : Config).excludePatterns
  let title := withDefault ms "japanese_spec_settings" (record readTitle) "システム仕様書"
  let performance := withDefault ms "performance_settings" (record Performance.read) {}
  let table := withDefault ms "table_formatting" (record TableSettings.read) {}
  match openaiKey, azureEndpoint, azureKey, azureVersion, geminiKey, provider, model, chunkSize,
    chunkOverlap, memory, processes, languages, format, patterns, title, performance, table with
  | .ok a, .ok b, .ok c, .ok d, .ok e, .ok f, .ok g, .ok h, .ok i, .ok j, .ok k, .ok l, .ok m,
    .ok n, .ok o, .ok p, .ok q => .ok ⟨a, b, c, d, e, f, g, h, i, j, k, l, m, n, o, p, q⟩
  | _, _, _, _, _, _, _, _, _, _, _, _, _, _, _, _, _ =>
    .error (openaiKey.errors ++ azureEndpoint.errors ++ azureKey.errors ++ azureVersion.errors
      ++ geminiKey.errors ++ provider.errors ++ model.errors ++ chunkSize.errors
      ++ chunkOverlap.errors ++ memory.errors ++ processes.errors ++ languages.errors
      ++ format.errors ++ patterns.errors ++ title.errors ++ performance.errors ++ table.errors)

instance : ToDatum Config where
  toDatum c := .record
    [("openai_api_key", toDatum c.openaiKey), ("azure_openai_endpoint", toDatum c.azureEndpoint),
     ("azure_openai_key", toDatum c.azureKey), ("azure_openai_version", toDatum c.azureVersion),
     ("gemini_api_key", toDatum c.geminiKey), ("llm_provider", toDatum c.provider),
     ("llm_model", toDatum c.model), ("chunk_size", toDatum c.chunkSize),
     ("chunk_overlap", toDatum c.chunkOverlap), ("max_memory_mb", toDatum c.maxMemoryMb),
     ("parallel_processes", toDatum c.parallelProcesses),
     ("supported_languages", toDatum c.languages), ("output_format", toDatum c.outputFormat),
     ("exclude_patterns", toDatum c.excludePatterns),
     ("japanese_spec_settings", .record [("document_title", toDatum c.documentTitle)]),
     ("performance_settings", toDatum c.performance), ("table_formatting", toDatum c.table)]

end SpecScribe.Settings
