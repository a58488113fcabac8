import SpecScribe.Number.Binary
import SpecScribe.Bench.Scenario.Basic
import SpecScribe.Generation.Basic
import SpecScribe.Model.Request
import SpecScribe.Settings.Environment
import SpecScribe.Settings.Validation

/-!
Scenarios around the model: settings, connections, requests, the analyses that come back and the
documents made from them.
-/

namespace SpecScribe.Bench.Scenario

open Settings Model Analysis

/-! ## Settings -/

def environments : List Environment :=
  [[("OPENAI_API_KEY", "k")], [("OPENAI_API_KEY", "k"), ("LLM_MODEL", "m")],
   [("AZURE_OPENAI_ENDPOINT", "https://e"), ("AZURE_OPENAI_KEY", "k")],
   [("OPENAI_API_KEY", "k"), ("CHUNK_SIZE", "500"), ("CHUNK_OVERLAP", "50")],
   [("OPENAI_API_KEY", "k"), ("BATCH_SIZE", "3")]]

/-- Reads settings again and again and counts how often they are good. -/
def loadSettings : Scenario := fun n =>
  let loads := (List.replicate n environments).flatten.filter fun env =>
    match Config.ofEnvironment env with
    | .ok c => c.validate.toBool
    | .error _ => false
  let checks := (List.replicate 2000 ({ openaiKey := some "k" } : Config)).filter fun c =>
    c.validate.toBool
  .ok (toDatum (loads.length + checks.length))

/-! ## Requests -/

def connectable : List Config :=
  [{ openaiKey := some "k" }, { azureEndpoint := some "https://e", azureKey := some "k" },
   { geminiKey := some "k" }, { geminiKey := some "k", provider := some "gemini" }]

def modelName (c : Config) : String :=
  match connect c with
  | .ok k => k.model
  | .error _ => "noconf"

def answering (content : Datum) : Event := { outcome := .single (.ok (.message content)) }

/-- Connects in all ways, asks once in vain and once with an answer, and then in a batch. -/
def askModel : Scenario := fun n => do
  let round := connectable.map modelName ++ connectable.map detect ++ [modelName {}]
  let p : Performance := {}
  let late : Event := { outcome := .failure (.outside "TimeoutError" "") }
  let (answer, _) := (generate p "p").run { script := [late, answering (.text "ok")] }
  let (unanswered, _) := (generate p "p").run { script := List.replicate 10 late }
  let missed := match unanswered with
    | .ok d => d
    | .error f => .text (if isTimeout f then "to" else f.message)
  let replies := (List.range n).map fun i => Except.ok (Reply.message (toDatum i))
  let (batch, _) := (generateBatch p (numberedTexts "p" n)).run
    { script := [{ outcome := .several replies }] }
  return .list ((List.replicate (max 1 (n / 5)) round).flatten.map toDatum
    ++ [← answer, missed] ++ (← batch))

/-! ## Analyses -/

/-- An analysis with up to twelve functions and one class; every second one names a module. -/
def writtenAnalysis (i : Nat) : Datum := .record
  [("overview", .text (if i % 2 == 1 then "モジュール" else "処理")),
   ("functions", .list (List.replicate (i % 12 + 1) (.record [("name", .text "f")]))),
   ("classes", .list [.record [("name", .text "C")]]), ("dependencies", .list [])]

def sortedKeys (d : Datum) : Datum :=
  toDatum ((d.toMembers.map (·.1)).mergeSort fun a b => decide (a ≤ b))

def combineAnalyses : Scenario := fun n => do
  let ds := (List.range n).map writtenAnalysis
  let combined ← combine ds
  let answers := ["```json\n\x7b\"overview\": \"o\", \"functions\": []\x7d\n```",
    "see \x7b\"overview\": \"o\"\x7d", "nothing", "broken \x7b\"overview\""]
  let parsed ← answers.mapM fun s => parseText s.toList
  let judged ← ds.mapM fun d => do
    let twice ← Parts.ofAnalyses [d, d]
    return [Datum.text (← moduleName d), .text twice.complexity]
  return .list
    ([sortedKeys combined, toDatum (combined.get "functions").toItems.length,
      toDatum (combined.get "modules").toMembers.length]
     ++ parsed.map sortedKeys ++ judged.flatten
     ++ [.text (start 10 (combined.get "overview").toText)])

/-! ## Generation -/

/-- One chunk for each number; five languages take turns. -/
def numberedChunk (i : Nat) : Chunk.CodeChunk where
  content := "c" ++ toString i
  path := Workspace.Path.ofString ("f" ++ toString i)
  language := Language.all.getD (i % 5) .python
  startLine := 1
  endLine := 10
  kind := "function"

/-- Counts the languages of all parts that start with the first chunk, and the sizes of small
batches. -/
def countChunks : Scenario := fun n =>
  let chunks := (List.range n).map numberedChunk
  let languages (k : Nat) : Nat := (Generation.Generator.languageCounts (chunks.take k)).length
  let parts := (List.range n).map fun i =>
    4 * languages (i + 1) + (Generation.batchSize 10 5).toNat
  .ok (toDatum (Number.total parts + 4 * languages n))

end SpecScribe.Bench.Scenario
