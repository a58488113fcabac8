import SpecScribe.Number.Binary
import SpecScribe.Datum.Describe
import SpecScribe.Workspace.Detection
import SpecScribe.Workspace.Filter
import SpecScribe.Workspace.Walk

/-!
Scanning a directory for source files, with counters that go on from scan to scan.
-/

namespace SpecScribe.Workspace

structure ScanCounts where
  total : Nat := 0
  supported : Nat := 0
  excluded : Nat := 0
  errors : Nat := 0
  deriving DecidableEq

structure FoundFile where
  path : Path
  language : Language
  size : Nat
  deriving DecidableEq

structure Scanner where
  filter : Filter := {}
  counts : ScanCounts := {}

namespace Scanner

/-- How a file is judged: passed over, failing, of no supported language, or found. -/
inductive Verdict where
  | excluded
  | failed
  | foreign
  | found (f : FoundFile)

/-- Which languages are wanted. The test can fail if the wanted languages are not a list. -/
abbrev Wanted := Language → Except Fault Bool

def oneOf (ls : List Language) : Wanted := fun l => .ok (ls.contains l)

def judge (filter : Filter) (s : Store) (wanted : Wanted) (p : Path) : Verdict :=
  match filter.excludesFile s p with
  | .error _ => .failed
  | .ok true => .excluded
  | .ok false =>
    match s.language? p with
    | none => .foreign
    | some l =>
      match wanted l with
      | .error _ => .failed
      | .ok false => .foreign
      | .ok true =>
        match s.read p with
        | .ok c => .found ⟨p, l, c.size⟩
        | .error _ => .found ⟨p, l, 0⟩

def Verdict.count (c : ScanCounts) : Verdict → ScanCounts
  | .excluded => { c with total := c.total + 1, excluded := c.excluded + 1 }
  | .failed => { c with total := c.total + 1, errors := c.errors + 1 }
  | .foreign => { c with total := c.total + 1 }
  | .found _ => { c with total := c.total + 1, supported := c.supported + 1 }

/-- Judges files one after another. A limit other than zero ends the scan once so many files were
found; the flag says whether it did. -/
def scanFiles (filter : Filter) (s : Store) (wanted : Wanted) (limit : Int) :
    (found : Nat) → ScanCounts → List Path → List FoundFile × ScanCounts × Bool
  | _, c, [] => ([], c, false)
  | found, c, p :: r =>
    let v := judge filter s wanted p
    let c' := v.count c
    match v with
    | .found f =>
      if limit != 0 && limit ≤ found + 1 then ([f], c', true)
      else
        let (fs, c'', stopped) := scanFiles filter s wanted limit (found + 1) c' r
        (f :: fs, c'', stopped)
    | _ => scanFiles filter s wanted limit found c' r

/-- The files of a directory in the wanted languages. A fault of the walk ends the scan, unless the
limit ended it before. -/
def scan (sc : Scanner) (s : Store) (directory : Path) (wanted : Wanted) (limit : Int := 0) :
    Except Fault (List FoundFile) × Scanner :=
  if !s.isDir directory then (.ok [], sc)
  else
    let w := s.walk (fun d => (sc.filter.excludesDir d).map (!·)) directory
    let (fs, c, stopped) :=
      scanFiles sc.filter s wanted limit 0 sc.counts (w.visits.flatMap Visit.paths)
    let sc' := { sc with counts := c }
    match w.fault with
    | some f => if stopped then (.ok fs, sc') else (.error f, sc')
    | none => (.ok fs, sc')

def reset (sc : Scanner) : Scanner := { sc with counts := {} }

end Scanner

/-- What is known about a directory as a whole. -/
structure DirectoryInfo where
  files : Nat
  bytes : Nat
  languages : List (String × Nat)

/-- The size of the file that a path leads to; one that leads nowhere has none. -/
def Store.fileSize? (s : Store) (p : Path) : Option Nat :=
  match s.read p with
  | .ok c => some c.size
  | .error _ => none

/-- Counts all files below a directory, and their languages. A file that cannot be reached counts
as a file only. -/
def Store.info (s : Store) (directory : Path) : Except Fault DirectoryInfo :=
  let w := s.walk (fun _ => .ok true) directory
  match w.fault with
  | some f => .error f
  | none =>
    let paths := w.visits.flatMap Visit.paths
    let reached := paths.filterMap fun p => (s.fileSize? p).map fun n => (p, n)
    .ok
      { files := paths.length, bytes := Number.total (reached.map (·.2)),
        languages := (reached.filterMap fun (p, _) => s.language? p).foldl
          (fun acc l => countKey l.name acc) [] }

namespace DirectoryInfo

def megabytes (d : DirectoryInfo) : Float := d.bytes.toFloat / (1024.0 * 1024.0)

def minutes (d : DirectoryInfo) : Float := d.files.toFloat / 100.0

end DirectoryInfo

instance : ToDatum ScanCounts where
  toDatum c := .record
    [("total_files", toDatum c.total), ("supported_files", toDatum c.supported),
     ("excluded_files", toDatum c.excluded), ("error_files", toDatum c.errors)]

instance : ToDatum FoundFile where
  toDatum f := .record
    [("path", toDatum f.path), ("language", toDatum f.language), ("size_bytes", toDatum f.size)]

def DirectoryInfo.describe (d : DirectoryInfo) (directory : Path) : Datum := .record
  [("path", toDatum directory), ("total_files", toDatum d.files),
   ("total_size_mb", toDatum d.megabytes),
   ("language_distribution", Datum.ofPairs d.languages),
   ("estimated_processing_time_minutes", toDatum d.minutes)]

end SpecScribe.Workspace
