import SpecScribe.Analysis.Response
import SpecScribe.Chunk.Basic
import SpecScribe.Model.Request
import SpecScribe.Prompt.Library

/-!
Asking a model about chunks of code, one by one or in a batch.
-/

namespace SpecScribe.Analysis

open Chunk Model Settings

def chunkInfo (c : CodeChunk) : String :=
  "ファイル: " ++ c.path.toString ++ "\n言語: " ++ c.language.name ++ "\n行数: "
    ++ toString c.startLine ++ "-" ++ toString c.endLine

def chunkValues (c : CodeChunk) : Members :=
  [("code_content", .text c.content), ("file_path", .text c.path.toString),
   ("language", .text c.language.name), ("ast_info", .text (chunkInfo c))]

def chunkPrompt (c : CodeChunk) : Except Fault String :=
  Prompt.analysisTemplate.fill (chunkValues c)

def askChunk (p : Performance) (c : CodeChunk) : Ask Datum := do
  let prompt ← MonadExcept.ofExcept (chunkPrompt c)
  let answer ← generate p prompt
  MonadExcept.ofExcept (parseResponse answer)

/-- The analysis of one chunk. A failure becomes an analysis that says so. -/
def analyzeChunk (p : Performance) (c : CodeChunk) : Ask Datum :=
  tryCatch (askChunk p c) fun f => return failed ("Analysis failed: " ++ f.message)

def parseAnswer (answer : Datum) : Datum :=
  match parseResponse answer with
  | .ok d => d
  | .error f => failed ("Parsing failed: " ++ f.message)

def askChunks (p : Performance) (cs : List CodeChunk) : Ask (List Datum) := do
  let prompts ← MonadExcept.ofExcept (cs.mapM chunkPrompt)
  let answers ← generateBatch p prompts
  return answers.map parseAnswer

/-- The analyses of several chunks. If the batch fails they are asked about one by one. -/
def analyzeChunks (p : Performance) (cs : List CodeChunk) : Ask (List Datum) :=
  if cs.isEmpty then return []
  else tryCatch (askChunks p cs) fun _ => cs.mapM (analyzeChunk p)

end SpecScribe.Analysis
