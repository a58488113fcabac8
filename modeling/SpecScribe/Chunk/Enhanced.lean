import SpecScribe.Chunk.Basic
import SpecScribe.ClassStructure
import SpecScribe.Datum.Describe

/-!
Chunks that know which classes they hold.
-/

namespace SpecScribe.Chunk

structure EnhancedChunk where
  chunk : CodeChunk
  structures : List ClassStructure
  /-- Whether the chunk holds whole classes. -/
  complete : Bool
  parent : Option String := none

namespace EnhancedChunk

/-- The content that stands for the chunk: whole classes are written out from their structure. -/
def unified (e : EnhancedChunk) : String :=
  if e.complete && !e.structures.isEmpty then
    "\n\n".intercalate (e.structures.map ClassStructure.unified)
  else e.chunk.content

def toChunk (e : EnhancedChunk) : Schema.Checked CodeChunk :=
  let c := e.chunk
  CodeChunk.make e.unified c.path c.language c.startLine c.endLine c.kind

end EnhancedChunk

instance : ToDatum EnhancedChunk where
  toDatum e := .record
    [("original_chunk", toDatum e.chunk), ("class_names", toDatum (e.structures.map (·.name))),
     ("is_complete_class", toDatum e.complete), ("parent_class", toDatum e.parent),
     ("unified", toDatum e.unified)]

end SpecScribe.Chunk
