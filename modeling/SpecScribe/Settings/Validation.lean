import SpecScribe.Settings.Config
import SpecScribe.Datum.Order

/-!
The last look at a configuration before a run. The fields are taken as loose data, since a
configuration can be changed field by field after it was read.
-/

namespace SpecScribe.Settings

structure ConfigFields where
  openaiKey : Datum
  azureEndpoint : Datum
  azureKey : Datum
  chunkSize : Datum
  chunkOverlap : Datum
  maxMemoryMb : Datum
  parallelProcesses : Datum

def optionalText : Option String → Datum
  | none => .null
  | some s => .text s

def Config.fields (c : Config) : ConfigFields where
  openaiKey := optionalText c.openaiKey
  azureEndpoint := optionalText c.azureEndpoint
  azureKey := optionalText c.azureKey
  chunkSize := .int c.chunkSize
  chunkOverlap := .int c.chunkOverlap
  maxMemoryMb := .int c.maxMemoryMb
  parallelProcesses := .int c.parallelProcesses

def ConfigFields.override (f : ConfigFields) (ms : Members) : ConfigFields where
  openaiKey := (ms.get? "openai_api_key").getD f.openaiKey
  azureEndpoint := (ms.get? "azure_openai_endpoint").getD f.azureEndpoint
  azureKey := (ms.get? "azure_openai_key").getD f.azureKey
  chunkSize := (ms.get? "chunk_size").getD f.chunkSize
  chunkOverlap := (ms.get? "chunk_overlap").getD f.chunkOverlap
  maxMemoryMb := (ms.get? "max_memory_mb").getD f.maxMemoryMb
  parallelProcesses := (ms.get? "parallel_processes").getD f.parallelProcesses

/-- Refuses a configuration without a usable service or with sizes out of bounds. -/
def ConfigFields.validate (f : ConfigFields) : Except Fault Unit := do
  if !f.openaiKey.isTruthy && !f.azureEndpoint.isTruthy then
    throw (.badValue "Either OPENAI_API_KEY or Azure OpenAI configuration is required")
  if f.azureEndpoint.isTruthy && !f.azureKey.isTruthy then
    throw (.badValue "AZURE_OPENAI_KEY is required when AZURE_OPENAI_ENDPOINT is provided")
  if ← Datum.compareBy .ge f.chunkOverlap f.chunkSize then
    throw (.badValue "chunk_overlap must be less than chunk_size")
  if ← Datum.compareBy .lt f.maxMemoryMb (.int 64) then
    throw (.badValue "max_memory_mb must be at least 64 MB")
  let tooFew ← Datum.compareBy .lt f.parallelProcesses (.int 1)
  let outside ← if tooFew then pure true else Datum.compareBy .gt f.parallelProcesses (.int 16)
  if outside then
    throw (.badValue "parallel_processes must be between 1 and 16")

def Config.validate (c : Config) : Except Fault Unit := c.fields.validate

end SpecScribe.Settings
