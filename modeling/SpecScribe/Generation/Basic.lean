import SpecScribe.Analysis.Chunks
import SpecScribe.Analysis.Combine
import SpecScribe.Chunk.Enhanced
import SpecScribe.Document.Output
import SpecScribe.Document.Specification
import SpecScribe.Model.Connection
import SpecScribe.Prompt.Listing
import SpecScribe.Workspace.Store

/-!
Generating a specification: the chunks are analysed in batches, the analyses are combined, and the
model writes the document. If it cannot, the document is written from the combined analysis.
-/

namespace SpecScribe.Generation

open Chunk Model Settings Document Workspace

def batchSize (configured : Int) (total : Nat) : Int :=
  if total ≤ 5 then total
  else if total ≤ configured then configured
  else min configured 20

/-- Consecutive pieces of at most `n` items, for `n` at least one. -/
def batches {α : Type} (n : Nat) (xs : List α) : List (List α) :=
  go n [] xs
where
  /-- `room` says how many items the current piece still takes. -/
  go : (room : Nat) → (piece : List α) → List α → List (List α)
    | _, [], [] => []
    | _, piece, [] => [piece.reverse]
    | 0, piece, x :: r => piece.reverse :: go (n - 1) [x] r
    | room + 1, piece, x :: r => go room (x :: piece) r

/-- Analyses batch after batch. A batch that fails gives an analysis that says so for each of its
chunks, and is noted. -/
def analyzeBatches (p : Performance) : (number : Nat) → List (List CodeChunk) →
    Ask (List Datum × List String)
  | _, [] => return ([], [])
  | number, b :: rest => do
    let (found, notes) ← tryCatch (do return (← Analysis.analyzeChunks p b, [])) fun f =>
      return (b.map fun _ => Analysis.failed ("Batch processing failed: " ++ f.message),
        ["Batch " ++ toString number ++ ": " ++ f.message])
    let (others, otherNotes) ← analyzeBatches p (number + 1) rest
    return (found ++ others, notes ++ otherNotes)

/-- The analyses of all chunks, with notes of what failed. -/
def analyzeAll (p : Performance) (cs : List CodeChunk) : Ask (List Datum × List String) :=
  analyzeBatches p 1 (batches (batchSize p.batchSize cs.length).toNat cs)

/-- The data of a document that is written without the model. -/
def fallbackData (analysis : Datum) : Except Fault Datum := do
  let overview ← analysis.member "overview" (.text "システム概要が生成できませんでした")
  let modules ← analysis.member "modules" (.record [])
  return .record
    [("document_type", .text "詳細設計書"),
     ("overview", .record
       [("purpose", .text "システムの詳細設計を記述する"),
        ("target_audience", .text "開発チーム、運用チーム"), ("system_overview", overview)]),
     ("modules", modules),
     ("nonfunctional", .record
       [("performance", .text "性能要件は別途定義されます"),
        ("security", .text "セキュリティ要件は別途定義されます"),
        ("availability", .text "可用性要件は別途定義されます"),
        ("maintainability", .text "保守性要件は別途定義されます")]),
     ("operations", .record
       [("deployment", .text "デプロイメント方式は別途定義されます"),
        ("monitoring", .text "監視方式は別途定義されます"),
        ("backup", .text "バックアップ方式は別途定義されます")])]

def fallbackDocument (date project : String) (analysis : Datum) : Except Fault String := do
  specification { project := project, date := date } (← fallbackData analysis)

def documentTitle (project : String) : String := project ++ " 詳細設計書"

def documentPrompt (project : String) (analysis : Datum) : Except Fault String := do
  let summary ← Prompt.analysisSummary analysis
  let overview ← analysis.member "overview" (.text "")
  Prompt.specificationTemplate.fill
    [("analysis_results", .text summary), ("document_title", .text (documentTitle project)),
     ("project_overview", overview), ("technical_requirements", .text "標準的な技術要件を適用")]

/-- What a generator is made from. -/
structure Generator where
  config : Config
  connection : Connection
  /-- The date that documents bear. -/
  date : String
  /-- The time stamp of the output. -/
  createdAt : String := ""

namespace Generator

def performance (g : Generator) : Performance := g.config.performance

def writeDocument (g : Generator) (project : String) (analysis : Datum) : Ask Datum :=
  tryCatch (do
      let prompt ← MonadExcept.ofExcept (documentPrompt project analysis)
      generate g.performance prompt)
    fun _ => do
      let text ← MonadExcept.ofExcept (fallbackDocument g.date project analysis)
      return .text text

/-- The paths of the chunks, each once, in the order in which they first appear. -/
def sourcePaths (cs : List CodeChunk) : List Path :=
  cs.foldl (fun ps c => if ps.contains c.path then ps else ps ++ [c.path]) []

def languageCounts (cs : List CodeChunk) : List (String × Nat) :=
  cs.foldl (fun ns c => countKey c.language.name ns) []

/-- The finished output. The content may be anything that reads as a text. -/
def output (g : Generator) (project : String) (cs : List CodeChunk) (created : Nat)
    (notes : List String) (seconds : Float) (content : Datum) : Schema.Checked Output :=
  let paths := sourcePaths cs
  Output.read
    [("title", .text (documentTitle project)), ("content", content), ("language", .text "ja"),
     ("created_at", .text g.createdAt),
     ("source_files", .list (paths.map fun p => .text p.toString)),
     ("processing_stats", .record
       [("files_processed", .int paths.length),
        ("lines_processed", .int (cs.foldl (fun n c => n + (c.endLine - c.startLine + 1)) 0)),
        ("chunks_created", .int created), ("processing_time_seconds", .float seconds),
        ("errors_encountered", .list (notes.map .text))]),
     ("metadata", .record
       [("generator_version", .text "1.0"),
        ("llm_model", .text (if g.connection.model == "" then "unknown" else g.connection.model)),
        ("chunk_count", .int cs.length)]),
     ("language_distribution", .record
       ((languageCounts cs).map fun (n, k) => (n, .int k)))]

/-- The output for chunks whose analyses are found, and then counted, in the given way. -/
def produceBy (g : Generator) (analyze : List CodeChunk → Ask (List Datum × List String))
    (counted : List Datum → Nat) (cs : List CodeChunk) (project : String) : Ask Output := do
  let start := (← get).now
  let (analyses, notes) ← analyze cs
  let combined ← MonadExcept.ofExcept (Analysis.combine analyses)
  let content ← g.writeDocument project combined
  let seconds := ((← get).now.sub start).toFloat
  match g.output project cs (counted analyses) notes seconds content with
  | .ok o => return o
  | .error es => throw (.invalid "SpecificationOutput" es)

def produce (g : Generator) (cs : List CodeChunk) (project : String) : Ask Output :=
  g.produceBy (analyzeAll g.performance) List.length cs project

def produceEnhanced (g : Generator) (es : List EnhancedChunk) (project : String) : Ask Output :=
  match es.mapM EnhancedChunk.toChunk with
  | .ok cs => g.produce cs project
  | .error es => throw (.invalid "CodeChunk" es)

end Generator

def save (s : Store) (o : Output) (path : Path) : Except Fault Unit × Store :=
  s.writeText path o.content

end SpecScribe.Generation
