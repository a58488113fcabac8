import SpecScribe.Datum.Describe
import SpecScribe.Language
import SpecScribe.Workspace.Path

/-!
Chunks of code: the unit that a model is asked about.
-/

namespace SpecScribe.Chunk

open Workspace

structure CodeChunk where
  content : String
  path : Path
  language : Language
  startLine : Int
  endLine : Int
  /-- What the chunk holds: a function, a class, a whole module, a piece of text. -/
  kind : String

def lineOrderMessage : String := "end_line must be greater than or equal to start_line"

open Schema in
def CodeChunk.read (ms : Members) : Checked CodeChunk :=
  let content := required ms "content" text
  let path := required ms "file_path" Path.rule
  let language := required ms "language" Language.rule
  let start := required ms "start_line" (atLeast 1 integer)
  let stop := ensureGiven ms "end_line" (required ms "end_line" (atLeast 1 integer)) fun n =>
    match start with
    | .ok s => if n < s then some lineOrderMessage else none
    | .error _ => none
  let kind := required ms "chunk_type" text
  match content, path, language, start, stop, kind with
  | .ok a, .ok b, .ok c, .ok d, .ok e, .ok f => .ok ⟨a, b, c, d, e, f⟩
  | _, _, _, _, _, _ =>
    .error (content.errors ++ path.errors ++ language.errors ++ start.errors ++ stop.errors
      ++ kind.errors)

/-- A chunk made from its parts, held to the same rules. -/
def CodeChunk.make (content : String) (path : Path) (language : Language) (startLine endLine : Int)
    (kind : String) : Schema.Checked CodeChunk :=
  CodeChunk.read
    [("content", .text content), ("file_path", .text path.toString),
     ("language", .text language.name), ("start_line", .int startLine), ("end_line", .int endLine),
     ("chunk_type", .text kind)]

instance : ToDatum CodeChunk where
  toDatum c := .record
    [("content", toDatum c.content), ("file_path", toDatum c.path),
     ("language", toDatum c.language), ("start_line", toDatum c.startLine),
     ("end_line", toDatum c.endLine), ("chunk_type", toDatum c.kind)]

end SpecScribe.Chunk
