import SpecScribe.Datum.Describe
import SpecScribe.Workspace.Path

/-!
The finished specification with what was counted on the way to it.
-/

namespace SpecScribe.Document

open Workspace

structure Stats where
  files : Int := 0
  lines : Int := 0
  chunks : Int := 0
  seconds : Float := 0.0
  errors : List String := []

open Schema in
def Stats.read (ms : Members) : Checked Stats :=
  let files := withDefault ms "files_processed" integer 0
  let lines := withDefault ms "lines_processed" integer 0
  let chunks := withDefault ms "chunks_created" integer 0
  let seconds := withDefault ms "processing_time_seconds" float 0.0
  let errors := withDefault ms "errors_encountered" (list text) []
  match files, lines, chunks, seconds, errors with
  | .ok a, .ok b, .ok c, .ok d, .ok e => .ok ⟨a, b, c, d, e⟩
  | _, _, _, _, _ =>
    .error (files.errors ++ lines.errors ++ chunks.errors ++ seconds.errors ++ errors.errors)

structure Output where
  title : String
  content : String
  language : String := "ja"
  createdAt : String
  sources : List Path
  stats : Stats
  metadata : List (String × String) := []
  languageCounts : List (String × Int) := []

open Schema in
def Output.read (ms : Members) : Checked Output :=
  let title := required ms "title" text
  let content := required ms "content" text
  let language := withDefault ms "language" text "ja"
  let createdAt := required ms "created_at" text
  let sources := required ms "source_files" (list Path.rule)
  let stats := required ms "processing_stats" (record Stats.read)
  let metadata := withDefault ms "metadata" (table scalarText) []
  let counts := withDefault ms "language_distribution" (table integer) []
  match title, content, language, createdAt, sources, stats, metadata, counts with
  | .ok a, .ok b, .ok c, .ok d, .ok e, .ok f, .ok g, .ok h => .ok ⟨a, b, c, d, e, f, g, h⟩
  | _, _, _, _, _, _, _, _ =>
    .error (title.errors ++ content.errors ++ language.errors ++ createdAt.errors
      ++ sources.errors ++ stats.errors ++ metadata.errors ++ counts.errors)

def Stats.counts (s : Stats) : Datum := .record
  [("files_processed", toDatum s.files), ("lines_processed", toDatum s.lines),
   ("chunks_created", toDatum s.chunks), ("errors_encountered", toDatum s.errors)]

instance : ToDatum Stats where
  toDatum s := .record (s.counts.toMembers ++ [("processing_time_seconds", toDatum s.seconds)])

instance : ToDatum Output where
  toDatum o := .record
    [("title", toDatum o.title), ("content", toDatum o.content), ("language", toDatum o.language),
     ("created_at", toDatum o.createdAt), ("source_files", toDatum o.sources),
     ("processing_stats", toDatum o.stats), ("metadata", Datum.ofPairs o.metadata),
     ("language_distribution", Datum.ofPairs o.languageCounts)]

end SpecScribe.Document
