import SpecScribe.Outline.Lookup
import SpecScribe.Program.Display
import SpecScribe.Chunk.Splitting
import Std.Time

/-!
The command line. The files named by the arguments and the known variables of the environment are
read, the program runs on them, and what it wrote and printed is handed back. Source files are read
by their outlines. No model is connected, so that documents come from the templates.
-/

namespace SpecScribe.Main

open Workspace

def variableNames : List String :=
  (Settings.textVariables ++ Settings.numberVariables ++ Settings.performanceVariables).map (·.1)

def readEnvironment : IO Settings.Environment :=
  variableNames.filterMapM fun name => do
    return (← IO.getEnv name).map fun value => (name, value)

/-- The names in the arguments that may be names of files. -/
def fileNames (args : List String) : List String :=
  args.flatMap (fun a => a.splitOn "=") ++ ["./specification.md"]

/-- The files that are there, and the working directory. -/
def readStore (names : List String) : IO Store := do
  let cwd := (Path.ofString (← IO.currentDir).toString).steps
  names.foldlM (fun (s : Store) (name : String) => do
    let path := Path.ofString name
    try
      let bytes ← IO.FS.readBinFile name
      let file : Entry := .file { bytes := bytes.toList }
      return { s with root := s.root.put (s.start path ++ path.steps) file }
    catch _ => return s) { root := Entry.put (.dir []) cwd (.dir []), cwd := cwd }

def writeChanges (names : List String) (old new : Store) : IO Unit := do
  for name in names do
    let path := Path.ofString name
    match new.read path with
    | .ok c =>
      if (old.read path).toOption != some c then
        if !path.parent.steps.isEmpty then IO.FS.createDirAll path.parent.toString
        IO.FS.writeBinFile name (ByteArray.mk c.toBytes.toArray)
    | .error _ => pure ()

def today : IO String := do
  let d := Std.Time.PlainDate.ofEpochDay (← Std.Time.Timestamp.now).toDaysSinceUnixEpoch
  let two (n : Int) : String := if n < 10 then "0" ++ toString n else toString n
  return toString d.year.toInt ++ "年" ++ two d.month.val ++ "月" ++ two d.day.val ++ "日"

def splitters (env : Settings.Environment) : Chunk.SplitterService :=
  let (size, overlap) := match Settings.Config.ofEnvironment env with
    | .ok c => (c.chunkSize, c.chunkOverlap)
    | .error _ => (4000, 200)
  { plain := fun s => .ok ((Chunk.windows size overlap s.toList).map fun w =>
      .text (String.ofList w)),
    semantic := fun s => .ok [.text s], semanticReady := false }

end SpecScribe.Main

open SpecScribe in
def main (args : List String) : IO UInt32 := do
  let environment ← Main.readEnvironment
  let names := Main.fileNames args
  let store ← Main.readStore names
  let world : Program.World :=
    { environment := environment, store := store, parsers := Outline.service,
      splitters := Main.splitters environment, date := ← Main.today }
  let (code, after) := Program.runToEnd args world
  for p in after.printed do
    for line in p.lines do
      IO.println line
  Main.writeChanges names store after.store
  return code.toNat.toUInt32
