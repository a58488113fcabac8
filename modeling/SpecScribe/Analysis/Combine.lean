import SpecScribe.Datum.Access
import SpecScribe.Prompt.Library

/-!
Putting analyses together. They are grouped by module, and the functions, classes and dependencies
of each group are joined.
-/

namespace SpecScribe.Analysis

open Datum

/-- The parts that are joined, in the order in which they are looked at. -/
structure Parts where
  functions : List Datum := []
  classes : List Datum := []
  dependencies : List Datum := []

namespace Parts

def append (a b : Parts) : Parts :=
  ⟨a.functions ++ b.functions, a.classes ++ b.classes, a.dependencies ++ b.dependencies⟩

def ofAnalysis (d : Datum) : Except Fault Parts := do
  let functions ← (← d.member "functions" (.list [])).items
  let classes ← (← d.member "classes" (.list [])).items
  let dependencies ← (← d.member "dependencies" (.list [])).items
  return ⟨functions, classes, dependencies⟩

def ofAnalyses (ds : List Datum) : Except Fault Parts :=
  (ds.mapM ofAnalysis).map fun ps => ps.foldl append {}

/-- Adds the parts of analyses to those that are there, one analysis after another. -/
def extend (p : Parts) (ds : List Datum) : Except Fault Parts :=
  ds.foldlM (fun q d => do return q.append (← ofAnalysis d)) p

def complexity (p : Parts) : String :=
  let n := p.functions.length + p.classes.length
  if 10 < n then "high" else if 5 < n then "medium" else "low"

end Parts

def moduleName (d : Datum) : Except Fault String := do
  let overview ← d.member "overview" (.text "")
  let lowered ← overview.lowered
  return if Text.occursIn "module" lowered || Text.occursIn "モジュール" overview.plain then
    "extracted_module" else "general_module"

def addToGroup (name : String) (d : Datum) : List (String × List Datum) → List (String × List Datum)
  | [] => [(name, [d])]
  | (n, ds) :: r => if n == name then (n, ds ++ [d]) :: r else (n, ds) :: addToGroup name d r

/-- The analyses by module, in the order in which the modules first appear. -/
def groups (ds : List Datum) : Except Fault (List (String × List Datum)) := do
  let named ← ds.mapM fun d => (moduleName d).map fun n => (n, d)
  return named.foldl (fun gs (n, d) => addToGroup n d gs) []

structure ModuleSummary where
  purpose : String
  parts : Parts

/-- The overviews of the analyses that have one. -/
def purposes (ds : List Datum) : Except Fault (List String) := do
  let os ← ds.mapM fun d => d.member "overview"
  return (os.filter Datum.isTruthy).map Datum.plain

def ModuleSummary.ofAnalyses (ds : List Datum) : Except Fault ModuleSummary := do
  let parts ← Parts.ofAnalyses ds
  let ps ← purposes ds
  return ⟨" ".intercalate ps, parts⟩

def ModuleSummary.toDatum (m : ModuleSummary) : Datum :=
  .record
    [("purpose", .text m.purpose), ("functions", .list m.parts.functions),
     ("classes", .list m.parts.classes), ("dependencies", .list m.parts.dependencies),
     ("complexity", .text m.parts.complexity)]

/-- All analyses put together. -/
structure Combined where
  modules : List (String × ModuleSummary)
  parts : Parts

namespace Combined

/-- Adds the module that a group makes. The analyses of the group are gone through once more for
the parts of the whole, which do not come from the module. -/
def addGroup (c : Combined) (group : String × List Datum) : Except Fault Combined := do
  let m ← ModuleSummary.ofAnalyses group.2
  let parts ← c.parts.extend group.2
  return ⟨c.modules ++ [(group.1, m)], parts⟩

def ofAnalyses (ds : List Datum) : Except Fault Combined := do
  (← groups ds).foldlM addGroup ⟨[], {}⟩

def sizes (c : Combined) : Members :=
  [("module_count", .int c.modules.length), ("function_count", .int c.parts.functions.length),
   ("class_count", .int c.parts.classes.length)]

def overview (c : Combined) : Except Fault String := Prompt.systemOverviewTemplate.fill c.sizes

def toDatum (c : Combined) : Except Fault Datum := do
  let overview ← c.overview
  return .record
    [("overview", .text overview),
     ("modules", .record (c.modules.map fun (n, m) => (n, m.toDatum))),
     ("functions", .list c.parts.functions), ("classes", .list c.parts.classes),
     ("dependencies", .list c.parts.dependencies), ("data_flows", .list []),
     ("error_handling_strategies", .list []), ("performance_considerations", .list []),
     ("security_considerations", .list [])]

end Combined

/-- Combines analyses of any shape. -/
def combine (ds : List Datum) : Except Fault Datum := do (← Combined.ofAnalyses ds).toDatum

end SpecScribe.Analysis
