import SpecScribe.Chunk.Splitting
import SpecScribe.Datum.Describe
import SpecScribe.Document.Output
import SpecScribe.Generation.Basic
import SpecScribe.Workspace.Reading
import SpecScribe.Workspace.Scanner

/-!
Processing a code base: files are found by a scan and cut into chunks, batch by batch. A file that
cannot be processed is noted and passed over.
-/

namespace SpecScribe.Processing

open Workspace Syntax Modules Chunk

structure Progress where
  stats : Document.Stats := {}
  processed : List String := []
  failed : List String := []

namespace Progress

/-- Adds to the counts, and notes an error if its text is not empty. -/
def update (p : Progress) (files lines chunks : Int) (error : String) : Progress :=
  { p with stats := { p.stats with
      files := p.stats.files + files, lines := p.stats.lines + lines,
      chunks := p.stats.chunks + chunks,
      errors := if error == "" then p.stats.errors else p.stats.errors ++ [error] } }

def addName (name : String) (names : List String) : List String :=
  if names.contains name then names else names ++ [name]

end Progress

inductive FileOutcome where
  | skipped
  | processed (name : String) (lines : Nat) (chunks : List CodeChunk)
  | failed (name : String) (message : String)
  /-- The file was described wrongly. -/
  | rejected (message : String)

namespace FileOutcome

def chunks : FileOutcome → List CodeChunk
  | .processed _ _ cs => cs
  | _ => []

def note (p : Progress) : FileOutcome → Progress
  | .processed name lines cs =>
    { p.update 1 lines cs.length "" with processed := Progress.addName name p.processed }
  | .failed name message =>
    { p.update 0 0 0 message with failed := Progress.addName name p.failed }
  | _ => p

/-- What is noted when the whole batch is done. -/
def noteLate (p : Progress) : FileOutcome → Progress
  | .rejected message => p.update 0 0 0 message
  | _ => p

end FileOutcome

/-- The largest file that is processed, in megabytes. -/
def maxFileMb : Nat := 50

structure Mode where
  semantic : Bool := false
  elements : Bool := true

/-- The wanted languages: a list of languages, or a setting that was never checked. -/
inductive Selection where
  | these (ls : List Language)
  | unchecked (d : Datum)

/-- Whether a language, or the lack of one, is among the wanted ones. An unchecked setting holds no
language, though it may hold the lack of one. -/
def Selection.wants : Selection → Option Language → Except Fault Bool
  | .these ls, some l => .ok (ls.contains l)
  | .these _, none => .ok false
  | .unchecked (.list _), some _ => .ok false
  | .unchecked (.list xs), none => .ok (xs.any fun x => x.kind == Datum.null.kind)
  | .unchecked (.record _), _ => .ok false
  | .unchecked (.text _), l =>
    .error (.wrongType ("'in <string>' requires string as left operand, not "
      ++ if l.isSome then "Language" else "NoneType"))
  | .unchecked d, _ => .error (.notSearchable d.kind)

structure Processor where
  scanner : Scanner
  languages : Selection
  chunkSize : Datum
  batchSize : Int
  splitters : Splitters
  parsers : Parsers
  analyzer : Analyzer := {}

namespace Processor

def batchSizeOf (parallel : Int) : Int := min (parallel * 2) 20

def isWanted (p : Processor) (l : Option Language) : Except Fault Bool := p.languages.wants l

def processFile (p : Processor) (s : Store) (mode : Mode) (path : Path) (l : Language) :
    FileOutcome × Processor :=
  let name := path.toString
  let failure (f : FileFault) : FileOutcome × Processor :=
    (.failed name ("Failed to process " ++ name ++ ": " ++ (Fault.file f name).message), p)
  match s.stat path with
  | .error f => failure f
  | .ok (.file c) =>
    if maxFileMb * 1024 * 1024 < c.size then (.skipped, p)
    else
      let text := Text.unifyBreaks (decodeAny c.toBytes)
      let lines := text.count '\n' + 1
      if mode.elements then
        let (cs, a) := ofElements p.analyzer p.parsers s path l
        (.processed name lines cs, { p with analyzer := a })
      else
        (.processed name lines (ofContent p.splitters (String.ofList text) path l mode.semantic), p)
  | .ok _ => failure .isDirectory

/-- A file as it is handed in: its path and its language, if they are there and usable. -/
abbrev FileRequest := Except Fault (Path × Language)

def processRequest (p : Processor) (s : Store) (mode : Mode) : FileRequest →
    FileOutcome × Processor
  | .ok (path, l) => p.processFile s mode path l
  | .error f => (.rejected f.message, p)

def processBatch (s : Store) (mode : Mode) : List FileRequest → Processor →
    List FileOutcome × Processor
  | [], p => ([], p)
  | r :: rest, p =>
    let (o, p') := p.processRequest s mode r
    let (os, p'') := processBatch s mode rest p'
    (o :: os, p'')

def noteBatch (progress : Progress) (os : List FileOutcome) : Progress :=
  os.foldl FileOutcome.noteLate (os.foldl FileOutcome.note progress)

def processBatches (s : Store) (mode : Mode) : List (List FileRequest) → Progress → Processor →
    List CodeChunk × Progress × Processor
  | [], progress, p => ([], progress, p)
  | b :: rest, progress, p =>
    let (os, p') := processBatch s mode b p
    let (cs, progress', p'') := processBatches s mode rest (noteBatch progress os) p'
    (os.flatMap FileOutcome.chunks ++ cs, progress', p'')

def processAll (p : Processor) (s : Store) (mode : Mode) (rs : List FileRequest) :
    List CodeChunk × Progress × Processor :=
  processBatches s mode (Generation.batches p.batchSize.toNat rs) {} p

/-- Scans a directory and processes the files found. -/
def processRepository (p : Processor) (s : Store) (mode : Mode) (directory : Path) :
    Except Fault (List CodeChunk) × Processor :=
  match p.scanner.scan s directory fun l => p.isWanted (some l) with
  | (.error f, sc) => (.error f, { p with scanner := sc })
  | (.ok found, sc) =>
    let (cs, _, p') :=
      { p with scanner := sc }.processAll s mode
        (found.map fun (f : FoundFile) => .ok (f.path, f.language))
    (.ok cs, p')

def fileLanguage? (p : Processor) (s : Store) (path : Path) : Except Fault (Option Language) :=
  match s.language? path with
  | none => .ok none
  | some l => do return if ← p.isWanted (some l) then some l else none

def processSingle (p : Processor) (s : Store) (mode : Mode) (path : Path) :
    Except Fault (List CodeChunk) × Processor :=
  match p.fileLanguage? s path with
  | .error f => (.error f, p)
  | .ok none => (.ok [], p)
  | .ok (some l) =>
    let (o, p') := p.processFile s mode path l
    (.ok o.chunks, p')

def processClasses (p : Processor) (s : Store) (path : Path) : Except Fault (List EnhancedChunk) :=
  match p.fileLanguage? s path with
  | .error f => .error f
  | .ok none => .ok []
  | .ok (some l) =>
    match s.stat path with
    | .ok (.file c) =>
      if maxFileMb * 1024 * 1024 < c.size then .ok []
      else .ok (ofClasses p.chunkSize p.splitters p.parsers s path l)
    | .ok _ => .ok (ofClasses p.chunkSize p.splitters p.parsers s path l)
    | .error _ => .ok []

/-- A rough estimate of the time that a directory takes. -/
structure Estimate where
  files : Nat
  megabytes : Number

namespace Estimate

def minutes (e : Estimate) : Float :=
  let byFiles := e.files.toFloat / 100.0
  let bySize := e.megabytes.toFloat / 50.0
  if byFiles < bySize then bySize else byFiles

def hours (e : Estimate) : Float := e.minutes / 60.0

end Estimate

/-- Adds one file to an estimate, if its language is wanted. -/
def countFile (p : Processor) (s : Store) (e : Estimate) (path : Path) : Except Fault Estimate :=
  match s.fileSize? path with
  | none => .ok e
  | some size => do
    if ← p.isWanted (s.language? path) then
      return ⟨e.files + 1, e.megabytes.add (.float (size.toFloat / (1024.0 * 1024.0)))⟩
    else return e

def estimate (p : Processor) (s : Store) (directory : Path) : Except Fault Estimate :=
  (s.find "" directory).foldlM (p.countFile s) ⟨0, .int 0⟩

end Processor

instance : ToDatum Processor.Estimate where
  toDatum e := .record
    [("total_files", toDatum e.files), ("total_size_mb", toDatum e.megabytes),
     ("estimated_minutes", toDatum e.minutes), ("estimated_hours", toDatum e.hours)]

end SpecScribe.Processing
