import SpecScribe.Datum.Conversion
import SpecScribe.Datum.Describe

/-!
The self-check of benchmarks: whether what a benchmark returns depends on its work, and whether the
work is worth measuring.
-/

namespace SpecScribe.Bench

inductive Verdict where
  | repoModified
  | error
  | returnsNone
  | unstable
  | returnsInput
  | lowRepoTime
  | tooFast
  | paramInvariant
  | okUnparam
  | ok
  deriving DecidableEq

namespace Verdict

def name : Verdict → String
  | .repoModified => "repo-modified"
  | .error => "error"
  | .returnsNone => "returns-none"
  | .unstable => "unstable"
  | .returnsInput => "returns-input"
  | .lowRepoTime => "low-repo-time"
  | .tooFast => "too-fast"
  | .paramInvariant => "param-invariant"
  | .okUnparam => "ok-unparam"
  | .ok => "ok"

def isGood : Verdict → Bool
  | .okUnparam | .ok => true
  | _ => false

end Verdict

structure Judged where
  name : String
  verdict : Verdict
  /-- The type of what it returns, or a question mark. -/
  returns : String
  /-- The least share of time in the code under test. -/
  share : Float
  /-- The median of the times, in milliseconds. -/
  median : Float

/-- What a benchmark's row holds under a name, one value for each way it was run. -/
def valuesOf (row : Datum) (key : String) : Except Fault (List Datum) :=
  ((row.get key).orEmpty (.record [])).values

def numbersOf (row : Datum) (key : String) : Except Fault (List Float) := do
  (← valuesOf row key).mapM Datum.toDouble

/-- The median; zero of nothing. -/
def median (xs : List Float) : Float :=
  let s := xs.mergeSort fun a b => decide (a ≤ b)
  let n := s.length
  if n == 0 then 0.0
  else if n % 2 == 1 then s.getD (n / 2) 0.0
  else (s.getD (n / 2 - 1) 0.0 + s.getD (n / 2) 0.0) / 2.0

def least : List Float → Float
  | [] => 0.0
  | x :: r => r.foldl (fun a b => if b < a then b else a) x

/-- The type of what a benchmark returns, as it is shown; a question mark if it is not known. -/
def returnsOf (row : Datum) : String := ((row.get "ret_type").orEmpty (.text "?")).plain

def isFailure (returns : String) : Bool := returns == "?" || returns.startsWith "<"

def distinctIn (row : Datum) (key : String) : Except Fault (List Datum) :=
  ((row.get key).orEmpty (.list [])).distinct

/-- The verdict from the benchmark's speed on: whether it takes long enough, and whether its
results depend on its parameters. -/
def verdictOfWork (times : List Float) (byParam : List Datum) : Except Fault Verdict := do
  if !times.isEmpty && median times < 1.0 then return .tooFast
  if 2 ≤ byParam.length && (← Datum.distinctOf byParam).length == 1 then return .paramInvariant
  return if byParam.length < 2 then .okUnparam else .ok

/-- The verdict on a benchmark: the first of the defects that it has. Nothing else counts while the
code under test is not as it was. -/
def verdictOf (row : Datum) (shares times : List Float) (byParam : List Datum)
    (modified : Bool) : Except Fault Verdict := do
  if modified then return .repoModified
  if isFailure (returnsOf row) then return .error
  if returnsOf row == "NoneType" then return .returnsNone
  match ← distinctIn row "fp_stable" with
  | [print] =>
    if (← distinctIn row "param_fps").any (·.same print) then return .returnsInput
    if !shares.isEmpty && least shares < 0.5 then return .lowRepoTime
    verdictOfWork times byParam
  | _ => return .unstable

def judge (modified : Bool) (name : String) (row : Datum) : Except Fault Judged := do
  let byParam ← valuesOf row "fp_by_param"
  let times ← numbersOf row "repo_tt_ms"
  let shares ← numbersOf row "repo_frac"
  -- the shares of other code are not shown, but they have to be numbers
  let _ ← numbersOf row "ext_frac"
  let v ← verdictOf row shares times byParam modified
  return ⟨name, v, returnsOf row, least shares, median times⟩

/-- Judged benchmarks in the order in which they are shown: those that need a fix come first. -/
def fixesFirst (js : List Judged) : List Judged :=
  js.filter (!·.verdict.isGood) ++ js.filter (·.verdict.isGood)

/-- The line of a judged benchmark. The time is rounded twice, first to two places. -/
def Judged.line (j : Judged) : String :=
  "  " ++ (if j.verdict.isGood then " " else "*") ++ " " ++ Text.padEnd 32 j.name ++ " "
    ++ Text.padEnd 16 j.verdict.name ++ " (" ++ j.returns ++ ", repo "
    ++ Number.fixed 0 (100.0 * j.share) ++ "%) " ++ Number.fixed 1 (Number.roundTo 2 j.median)
    ++ "ms"

def legend : List String :=
  ["\nself-check (* = fix needed):",
   "  returns-none: run() has no return — collect and return the call results",
   "  unstable: seed RNG in setup; avoid time/uuid/id in the return",
   "  returns-input: return repo output, not the parameter value",
   "  low-repo-time: <50% of run() time is in repo code — move glue to setup",
   "  param-invariant: return something derived from run()'s work, not setup",
   "  repo-modified: revert edits to repo files (git checkout -- <path>)"]

end SpecScribe.Bench
