import SpecScribe.Bench.Coverage
import SpecScribe.Bench.Plateau
import SpecScribe.Json.Parser
import SpecScribe.Shell.Basic
import SpecScribe.Text.Scan
import SpecScribe.Workspace.Reading

/-!
One round of measuring: what the benchmarks cover, how much of their time is spent in the code
under test, and whether they check themselves. Each round is noted, and a plateau ends the work.
-/

namespace SpecScribe.Bench

open Shell Workspace

/-- What the measurement of the share of time gives. -/
structure RepoTime where
  /-- The share of each benchmark; one below zero tells of an error. -/
  shares : List (String × Float) := []
  /-- Where the rest of the time is spent. -/
  hot : Members := []

def floorPercent : Float := 45.0

namespace RepoTime

def valid (t : RepoTime) : List (String × Float) := t.shares.filter fun (_, x) => 0.0 ≤ x

/-- How many are below the floor. -/
def below (t : RepoTime) : Nat := (t.valid.filter fun (_, x) => x < floorPercent).length

def readShares (d : Datum) : Except Fault (List (String × Float)) := do
  (← (← part d "repo_time_pct").members).mapM fun (k, v) => do return (k, ← v.toDouble)

def readHot (d : Datum) : Except Fault Members := do (← part d "hot_ext").toRecord

/-- One place where the time of a benchmark is spent: its share and its name. -/
def hotPart (d : Datum) : Except Fault String := do
  let (share, place) ← d.pair
  return place.plain ++ " " ++ (← share.decimalText 0) ++ "%"

def hotText (t : RepoTime) (name : String) : Except Fault String := do
  match (t.hot.get? name).filter Datum.isTruthy with
  | none => return ""
  | some places =>
    return " (hot: " ++ " ".intercalate (← (← places.items).mapM hotPart) ++ ")"

def line (t : RepoTime) (name : String) (x : Float) : Except Fault String := do
  let low := decide (0.0 ≤ x) && decide (x < floorPercent)
  let remark ← if x < 0.0 then pure "  <error>" else if low then t.hotText name else pure ""
  return "  " ++ (if low then "*" else " ") ++ " " ++ Text.padEnd 32 name ++ " "
    ++ Text.padStart 5 (Number.fixed 1 (if x < 0.0 then 0.0 else x)) ++ "%" ++ remark

/-- All lines, the least share first. -/
def lines (t : RepoTime) : Except Fault (List String) := do
  if t.shares.isEmpty then return []
  let ls ← (t.shares.mergeSort fun a b => decide (a.2 ≤ b.2)).mapM fun (k, x) => t.line k x
  return "\nrepo_time (target 50%; * = below 45%):" :: ls

end RepoTime

def lastLine? (s : String) : Option (List Char) :=
  (Text.printedLines [] s.toList).getLast?.filter (!·.isEmpty)

def readJson (text : List Char) : Except Fault Datum :=
  match Json.read text with
  | .ok d => .ok d
  | .error e => .error (Fault.ofJson text e)

/-- Runs a script of the repository and reads the last line that it prints; an empty one stands
for an empty record. -/
def scriptRecord (script : String) : Run Datum := do
  let r ← command [(← get).interpreter, repository ++ "/" ++ script]
  if r.err != "" then warn r.err
  match lastLine? r.out with
  | none => return .record []
  | some l => readJson l

def warnFault (label : String) (f : Fault) : Run Unit :=
  warn ("[" ++ label ++ " runner: " ++ f.family ++ ": " ++ f.message ++ "]\n")

def repoFile (name : String) : Path := Path.ofString ("repo/" ++ name)

/-- The shares of time, if they can be measured. They stay when it cannot be read where the rest
of the time is spent. -/
def measureTime (s : Store) : Run RepoTime := do
  if !s.has (repoFile "_pti_repotime.py") then return {}
  let work : Run (Datum × List (String × Float)) := do
    let d ← scriptRecord "_pti_repotime.py"
    return (d, ← RepoTime.readShares d)
  match ← attempt work with
  | .error f =>
    warnFault "repotime" f
    return {}
  | .ok (d, shares) =>
    match RepoTime.readHot d with
    | .ok hot => return ⟨shares, hot⟩
    | .error f =>
      warnFault "repotime" f
      return { shares := shares }

/-- The coverage from which on a plateau counts, in percent. -/
def enoughCoverage : Float := 60.0

structure History where
  round : Nat := 1
  /-- The counts of benchmarks below the floor. -/
  below : List Int := []
  /-- When the last round was noted. -/
  noted : Datum := .null
  /-- The first round that covered enough; zero while there is none. -/
  firstCovered : Nat := 0
  /-- Whether all of it could be read. -/
  isSound : Bool := true

def readNote (line : List Char) : Except Fault Datum := do
  return .record (← (← readJson line).members)

/-- The count that a note tells, if it is a whole number. -/
def countOf? (note : Datum) : Option Int :=
  match note.get "n_below_repo_time" with
  | .int n => some n
  | .bool b => some b.toInt
  | _ => none

/-- Whether a note tells of enough coverage; a missing or empty one counts as none. -/
def coversEnough (note : Datum) : Except Fault Bool := do
  let coverage := (← note.member "coverage_pct").orEmpty (.int 0)
  match coverage.number? with
  | some x => return decide (enoughCoverage ≤ x.toFloat)
  | none => throw (.notComparable ">=" coverage.kind "float")

namespace History

def unsound (h : History) : History := { h with isSound := false }

/-- Takes up the coverage of a note, unless enough was covered before. -/
def takeCoverage (h : History) (number : Nat) (note : Datum) : History :=
  if h.firstCovered != 0 then h
  else
    match coversEnough note with
    | .ok true => { h with firstCovered := number }
    | .ok false => h
    | .error _ => h.unsound

/-- Takes up the note of one round: its count, if it has one, and then its coverage. -/
def take (h : History) (number : Nat) (line : List Char) : History :=
  match readNote line with
  | .ok note => { h with below := h.below ++ (countOf? note).toList }.takeCoverage number note
  | .error _ => h.unsound

/-- Takes up notes, up to the first that cannot be read. -/
def takeAll (h : History) (number : Nat) : List (List Char) → History
  | [] => h
  | l :: r =>
    let h := h.take number l
    if h.isSound then h.takeAll (number + 1) r else h

/-- The rounds that notes tell of. The last note is read ahead of all others, for its time. -/
def ofNotes (notes : List (List Char)) : History :=
  let h : History := { round := notes.length + 1 }
  match notes.getLast?.map readNote with
  | none => h
  | some (.ok last) => { h with noted := last.get "ts" }.takeAll 1 notes
  | some (.error _) => h.unsound

end History

def History.read (s : Store) : History :=
  match s.readUtf8 (repoFile ".pti_checkpoint.jsonl") with
  | .error (.file .notFound _) => {}
  | .error _ => History.unsound {}
  | .ok text => History.ofNotes ((Text.lines text).filter fun l => !Text.isBlankText l)

structure Round where
  coverage : Coverage
  seconds : Number
  benches : Nat
  time : RepoTime
  judged : List Judged
  modified : List String
  history : History

namespace Round

/-- The count of benchmarks below the floor, if any could be measured. -/
def below? (r : Round) : Option Nat := if r.time.valid.isEmpty then none else some r.time.below

def notGood (r : Round) : Nat := (r.judged.filter fun j => !j.verdict.isGood).length

/-- What is noted of the round, given the time that has gone by since the last one. -/
def note (r : Round) (now sincePrevious : Number) : Datum := .record
  [("round", toDatum r.history.round), ("ts", toDatum now),
   ("wall_since_prev_s", toDatum sincePrevious),
   ("coverage_pct", toDatum r.coverage.percent), ("covered_lines", toDatum r.coverage.covered),
   ("num_statements", toDatum r.coverage.statements), ("n_bench_fns", toDatum r.benches),
   ("n_bench_errors", toDatum r.coverage.errors.length),
   ("cov_measure_s", toDatum (r.seconds.rounded 3)),
   ("repo_time_pct", Datum.ofPairs r.time.shares), ("n_below_repo_time", toDatum r.below?),
   ("semcheck", Datum.ofPairs (r.judged.map fun j => (j.name, j.verdict.name))),
   ("n_not_self_checking", toDatum r.notGood)]

def checkLines (r : Round) : List String :=
  if r.judged.isEmpty then []
  else
    (if r.modified.isEmpty then []
      else ("\n** repo modified (" ++ toString r.modified.length
        ++ " file(s)) — revert these; only microbench.py is yours to edit:")
        :: (r.modified.take 10).map fun f => "   " ++ f)
      ++ legend ++ (fixesFirst r.judged).map Judged.line

def summary (r : Round) : String :=
  "\n[round " ++ toString r.history.round ++ ": " ++ toString r.benches ++ " benches, "
    ++ Number.fixed 1 r.coverage.percent ++ "% covered"
    ++ (if r.time.shares.isEmpty then ""
      else ", " ++ toString r.time.below ++ "/" ++ toString r.time.valid.length
        ++ " below repo_time 45%")
    ++ (if r.judged.isEmpty then ""
      else ", " ++ toString r.notGood ++ "/" ++ toString r.judged.length ++ " not self-checking")
    ++ ", measured in " ++ Number.fixed 1 r.seconds.toFloat ++ "s]"

def stopLine? (r : Round) : Option String :=
  match r.below? with
  | none => none
  | some n =>
    if enoughCoverage ≤ r.coverage.percent then
      (Bench.stopLine? r.history.below n).map ("\n" ++ ·)
    else none

def report (r : Round) : Except Fault (List String) := do
  return r.coverage.table ++ r.coverage.errorLines ++ (← r.time.lines) ++ r.checkLines
    ++ [r.summary] ++ r.stopLine?.toList

end Round

end SpecScribe.Bench
