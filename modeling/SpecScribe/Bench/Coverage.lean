import SpecScribe.Bench.Verdict
import SpecScribe.Text.Search
import SpecScribe.Workspace.Path

/-!
The table of covered lines, file by file, the least covered first.
-/

namespace SpecScribe.Bench

open Workspace

def repository : String := "/repo"

structure FileCoverage where
  name : String
  statements : Int
  missing : Int
  percent : Float
  /-- The first lines that were not reached, as they are shown. -/
  lines : String

structure Coverage where
  percent : Float
  covered : Int
  statements : Int
  files : List FileCoverage
  /-- Benchmarks that failed, with their messages. -/
  errors : Members

/-- A path as it is seen from a directory; both are absolute. -/
def relativeTo (base path : List String) : List String :=
  match base, path with
  | b :: bs, p :: ps =>
    if b == p then relativeTo bs ps else (b :: bs).map (fun _ => "..") ++ p :: ps
  | bs, ps => bs.map (fun _ => "..") ++ ps

/-- The steps of a path from its root, without steps back. -/
def straight (steps : List String) : List String :=
  steps.foldl (fun done s => if s == ".." then done.dropLast else done ++ [s]) []

def shownName (path : String) : String :=
  let s := if path.startsWith "/" then
      Path.toString ⟨"", relativeTo (Path.ofString repository).steps
        (straight (Path.ofString path).steps)⟩
    else path
  String.ofList (s.toList.take 60)

/-- A member of a record, or an empty record in place of what does not count as present. -/
def part (d : Datum) (key : String) : Except Fault Datum := do
  return (← d.member key).orEmpty (.record [])

def missingText (lines : Datum) : Except Fault String := do
  let first ← lines.firstItems 12
  let all ← lines.items
  return ",".intercalate (first.map Datum.plain) ++ if 12 < all.length then "…" else ""

def FileCoverage.read (path : String) (d : Datum) : Except Fault FileCoverage := do
  let summary ← part d "summary"
  return { name := shownName path,
           statements := ← (← summary.member "num_statements" (.int 0)).toWhole,
           missing := ← (← summary.member "missing_lines" (.int 0)).toWhole,
           percent := ← (← summary.member "percent_covered" (.float 0.0)).toDouble,
           lines := ← missingText ((← d.member "missing_lines").orEmpty (.list [])) }

/-- The benchmarks that failed. Only what has a length can hold some. -/
def failedOf (d : Datum) : Except Fault Members :=
  match d.items? with
  | none => .error (.noLength d.kind)
  | some _ => d.members

def Coverage.read (d : Datum) : Except Fault Coverage := do
  let totals ← part d "totals"
  let percent ← (← totals.member "percent_covered" (.float 0.0)).toDouble
  let covered ← (← totals.member "covered_lines" (.int 0)).toWhole
  let statements ← (← totals.member "num_statements" (.int 0)).toWhole
  let rows ← (← (← part d "files").members).mapM fun (path, x) => FileCoverage.read path x
  let errors ← failedOf (← part (← part d "meta") "_pti_bench_errors")
  return ⟨percent, covered, statements, rows, errors⟩

/-- Whether one file comes before another in the table: it is covered less, or has more
statements. -/
def FileCoverage.before (a b : FileCoverage) : Bool :=
  if a.percent == b.percent then decide (b.statements ≤ a.statements)
  else decide (a.percent ≤ b.percent)

def percentText (x : Float) : String := Text.padStart 4 (Number.fixed 0 x) ++ "%"

def tableRow (width : Nat) (name : String) (statements missing : Int) (percent : Float) :
    String :=
  Text.padEnd width name ++ "  " ++ Text.padStart 5 (toString statements) ++ "  "
    ++ Text.padStart 4 (toString missing) ++ "  " ++ percentText percent

def Coverage.table (c : Coverage) : List String :=
  let width := (c.files.map (·.name.length)).foldl max 4
  let rule := String.ofList (List.replicate (width + 42) '-')
  [Text.padEnd width "Name" ++ "  Stmts  Miss  Cover  Missing", rule]
    ++ (c.files.mergeSort FileCoverage.before).map (fun f =>
      tableRow width f.name f.statements f.missing f.percent ++ "  " ++ f.lines)
    ++ [rule, tableRow width "TOTAL" c.statements (c.statements - c.covered) c.percent]

def Coverage.errorLines (c : Coverage) : List String :=
  if c.errors.isEmpty then []
  else ("\n" ++ toString c.errors.length ++ " bench error(s):")
    :: (c.errors.take 8).map fun (k, v) => "  " ++ k ++ ": " ++ v.plain

end SpecScribe.Bench
