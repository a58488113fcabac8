import SpecScribe.Install.Installer
import SpecScribe.Processing.Basic
import SpecScribe.Program.CommandLine
import SpecScribe.Settings.Environment
import SpecScribe.Settings.Validation

/-!
The program: its commands, what they print, and how they end.
-/

namespace SpecScribe.Program

open Workspace Settings

/-- What is printed: a text with its markup, or a table column by column. -/
inductive Printed where
  | line (text : String)
  | table (title : String) (columns : List (List String))

/-- All that the program sees and changes. -/
structure World where
  environment : Environment := []
  store : Store := {}
  parsers : Syntax.Parsers
  splitters : Chunk.SplitterService
  session : Model.Session := {}
  shell : Shell.Terminal := {}
  /-- The installed packages, if the installer is there. -/
  site : Option Install.Site := none
  /-- The date that documents bear. -/
  date : String := ""
  printed : List Printed := []

inductive Stop where
  /-- It ends with an exit code. -/
  | exit (code : Int)
  | fault (f : Fault)
  /-- The time is over. -/
  | timeout

def Stop.message : Stop → String
  | .exit code => toString code
  | .fault f => f.message
  | .timeout => ""

/-- A command at work. What happened before a stop stays. -/
abbrev Command (α : Type) := ExceptT Stop (StateM World) α

def version : String := "0.1.0"

def say (text : String) : Command Unit :=
  modify fun w => { w with printed := w.printed ++ [.line text] }

def orStop {α : Type} : Except Fault α → Command α
  | .ok a => return a
  | .error f => throw (.fault f)

def ask {α : Type} (x : Model.Ask α) : Command α := do
  let w ← get
  let (r, s) := x.run w.session
  set { w with session := s }
  orStop r

/-- Reports a stop and ends with exit code one. -/
def reporting (x : Command Unit) : Command Unit :=
  tryCatch x fun stop => do
    say ("[red]Error: " ++ stop.message ++ "[/red]")
    throw (.exit 1)

/-! ## Generating -/

def processor (w : World) (c : Config) : Processing.Processor where
  scanner := { filter := { exclude := toDatum c.excludePatterns } }
  languages := .these c.languages
  chunkSize := .int c.chunkSize
  batchSize := Processing.Processor.batchSizeOf c.parallelProcesses
  splitters := w.splitters.splitters c.openaiKey
  parsers := w.parsers

/-- Analyses batch after batch. A batch that fails ends the work. -/
def analyzeStrictly (p : Performance) : List (List Chunk.CodeChunk) → Model.Ask (List Datum)
  | [] => return []
  | b :: rest => do
    let found ← Analysis.analyzeChunks p b
    return found ++ (← analyzeStrictly p rest)

/-- The analyses of all chunks of a file. No chunks make batches of size zero, which is a fault. -/
def analyzeFile (p : Performance) (cs : List Chunk.CodeChunk) :
    Model.Ask (List Datum × List String) := do
  if cs.isEmpty then throw (.badValue "range() arg 3 must not be zero")
  let size := (Generation.batchSize p.batchSize cs.length).toNat
  return (← analyzeStrictly p (Generation.batches size cs), [])

def save (o : Document.Output) (path : Path) : Command Unit := do
  let w ← get
  let (r, s) := Generation.save w.store o path
  set { w with store := s }
  orStop r

def finalPause : Number := .float 0.5

/-- Writes the specification of a file whose chunks are analysed and counted in the given way. -/
def specifyFileBy (analyze : List Chunk.CodeChunk → Model.Ask (List Datum × List String))
    (counted : List Datum → Nat) (c : Config) (file output : Path) (semantic : Bool) :
    Command Unit := do
  let w ← get
  let (r, _) := (processor w c).processSingle w.store ⟨semantic, true⟩ file
  let cs ← orStop r
  if cs.isEmpty then say "[red]No chunks generated from file[/red]"
  else
    let k ← orStop (Model.connect c)
    let g : Generation.Generator := { config := c, connection := k, date := w.date }
    let o ← ask (g.produceBy analyze counted cs file.stem)
    save o output
    modify fun w => { w with session := w.session.sleep finalPause }
    say ("[green]✓[/green] Specification saved to [green]" ++ output.toString ++ "[/green]")
    say ("[dim]Processed " ++ toString cs.length ++ " code chunks successfully[/dim]")

/-- Writes the specification of a file. The loop over its chunks does not count them. -/
def specifyFile (c : Config) (file output : Path) (semantic : Bool) : Command Unit :=
  specifyFileBy (analyzeFile c.performance) (fun _ => 0) c file output semantic

/-- Work that has some seconds to finish. The clock of the session does not count, so that only
a limit that is not positive stops the work, and it does so before the start. -/
def within (seconds : Int) (x : Command Unit) : Command Unit :=
  if seconds ≤ 0 then throw .timeout
  else if (Number.toFloat (.int seconds)).isInf then
    throw (.fault .tooLargeForDouble)
  else x

def generate (file output : Path) (semantic : Bool) (seconds : Int) : Command Unit := do
  reporting do
    say "[bold blue]Specification Generation[/bold blue]"
    say ("File: [green]" ++ file.toString ++ "[/green]")
    say ("Output: [green]" ++ output.toString ++ "[/green]")
    say ("Timeout: [yellow]" ++ toString seconds ++ "s[/yellow]")
    let c ← orStop (Config.ofEnvironment (← get).environment)
    orStop c.validate
    tryCatch (within seconds (specifyFile c file output semantic)) fun
      | .timeout => do
        say ("[red]Generation timed out after " ++ toString seconds ++ " seconds[/red]")
        say ("[yellow]Try increasing the timeout with --timeout option or check for performance "
          ++ "issues[/yellow]")
        throw (.exit 1)
      | stop => throw stop

/-! ## Installing parsers -/

def installFor (site : Install.Site) (names : List String) (force : Bool) : Command Bool := do
  let w ← get
  let (r, sh) := (Install.installFor site (toDatum names) force).run w.shell
  set { w with shell := sh }
  orStop r

def installParsers (names : List String) (force : Bool) : Command Unit := do
  let names := if names.isEmpty then Language.all.map Language.name else names
  reporting do
    say "[bold blue]Installing Tree-sitter Parsers[/bold blue]"
    say ("Installing parsers for: [green]" ++ ", ".intercalate names ++ "[/green]")
    match (← get).site with
    | none => throw (.fault (.badValue "Parser installation script not found"))
    | some site =>
      if ← installFor site names force then
        say "[green]✓[/green] Tree-sitter parsers installed successfully"
      else
        say "[red]✗[/red] Some parsers failed to install"
        throw (.exit 1)

/-! ## Showing the configuration -/

def setOrNot : Option String → String
  | none => "Not set"
  | some "" => "Not set"
  | some _ => "Set"

def configRows (c : Config) : List (String × String) :=
  [("Chunk Size", toString c.chunkSize), ("Chunk Overlap", toString c.chunkOverlap),
   ("Max Memory (MB)", toString c.maxMemoryMb),
   ("Parallel Processes", toString c.parallelProcesses),
   ("Request Timeout (sec)", toString c.performance.requestTimeout),
   ("Output Format", c.outputFormat), ("OpenAI API Key", setOrNot c.openaiKey),
   ("Azure Endpoint", setOrNot c.azureEndpoint),
   ("Languages", ", ".intercalate (c.languages.map Language.name))]

def configInfo : Command Unit := do
  reporting do
    say "[bold blue]Configuration Information[/bold blue]"
    let c ← orStop (Config.ofEnvironment (← get).environment)
    let rows := configRows c
    modify fun w => { w with printed := w.printed ++
      [.table "Configuration" [rows.map (·.1), rows.map (·.2)]] }

/-! ## The command line -/

def wrongUsage {α : Type} : Command α := throw (.exit 2)

/-- Reads options and words; a call for help ends the command. -/
def readOptions (ss : List Switch) (args : List String) : Command Line := do
  match readLine (ss ++ [{ names := ["--help"] }]) true none {} args with
  | none => wrongUsage
  | some l => if l.has "--help" then throw (.exit 0) else return l

def runGenerate (args : List String) : Command Unit := do
  let l ← readOptions
    [{ names := ["--output", "-o"], takesValue := true }, { names := ["--semantic-chunking"] },
     { names := ["--timeout", "-t"], takesValue := true }] args
  match l.words, Number.readInt? ((l.value? "--timeout").getD "600").toList with
  | [file], some seconds =>
    let path := Path.ofString file
    if file != "" && (← get).store.isFile path then
      generate path (Path.ofString ((l.value? "--output").getD "./specification.md"))
        (l.has "--semantic-chunking") seconds
    else wrongUsage
  | _, _ => wrongUsage

def runInstall (args : List String) : Command Unit := do
  let l ← readOptions
    [{ names := ["--languages", "-l"], takesValue := true }, { names := ["--force"] }] args
  if l.words.isEmpty then installParsers (l.values "--languages") (l.has "--force")
  else wrongUsage

def runConfigInfo (args : List String) : Command Unit := do
  let l ← readOptions [] args
  if l.words.isEmpty then configInfo else wrongUsage

/-- The options before the command; the first that ends the program does so. -/
def runEager : List (String × String) → Command Unit
  | [] => return ()
  | (name, _) :: rest =>
    if name == "--help" then throw (.exit 0)
    else if name == "--version" then do
      say ("[bold green]Specification Generator[/bold green] version [bold]" ++ version
        ++ "[/bold]")
      throw (.exit 0)
    else runEager rest

def run (args : List String) : Command Unit := do
  match readLine [{ names := ["--version", "-v"] }, { names := ["--verbose"] },
      { names := ["--help"] }] false none {} args with
  | none => wrongUsage
  | some l =>
    runEager l.given
    match l.words with
    | "generate" :: r => runGenerate r
    | "install-parsers" :: r => runInstall r
    | "config-info" :: r => runConfigInfo r
    | _ => wrongUsage

/-- Runs the program to its exit code. A stop that nobody reported is reported here. -/
def runToEnd (args : List String) (w : World) : Int × World :=
  match (run args).run w with
  | (.ok _, w') => (0, w')
  | (.error (.exit code), w') => (code, w')
  | (.error stop, w') =>
    (1, { w' with printed := w'.printed ++
      [.line ("[red]Unexpected error: " ++ stop.message ++ "[/red]")] })

/-- How a program ends that was interrupted from outside or failed. -/
def unexpected (interrupted : Bool) (f : Fault) : Printed :=
  if interrupted then .line "\n[red]Operation cancelled by user[/red]"
  else .line ("[red]Unexpected error: " ++ f.message ++ "[/red]")

end SpecScribe.Program
