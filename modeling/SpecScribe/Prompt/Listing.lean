import SpecScribe.Datum.Access

/-!
Functions, classes and dependencies of an analysis as lists for a prompt.
-/

namespace SpecScribe.Prompt

open Datum Text

def commaList (d : Datum) : Except Fault String := do
  let xs ← d.items
  return ", ".intercalate (xs.map Datum.plain)

def functionList (functions : Datum) : Except Fault String := do
  if !functions.isTruthy then return "関数は定義されていません。"
  let ls ← (← functions.items).mapM fun func => do
    let params ← commaList (← func.member "parameters" (.list []))
    let name ← func.member "name" (.text "unknown")
    let purpose ← func.member "purpose" (.text "目的不明")
    return "- **" ++ name.plain ++ "**(" ++ params ++ "): " ++ purpose.plain
  return stack ls

def methodDetails (details : Datum) : Except Fault (List String) := do
  (← details.items).mapM fun m => do
    let name ← m.member "name" (.text "unknown")
    let purpose ← m.member "purpose" (.text "目的不明")
    return "    - " ++ name.plain ++ ": " ++ purpose.plain

def classList (classes : Datum) : Except Fault String := do
  if !classes.isTruthy then return "クラスは定義されていません。"
  let ls ← (← classes.items).mapM fun cls => do
    let methods ← commaList (← cls.member "methods" (.list []))
    let name ← cls.member "name" (.text "unknown")
    let purpose ← cls.member "purpose" (.text "目的不明")
    let details ← cls.member "method_details" (.list [])
    let head := ["- **" ++ name.plain ++ "**: " ++ purpose.plain, "  - メソッド: " ++ methods]
    if details.isTruthy then
      return stack (head ++ ["  - メソッド詳細:", stack (← methodDetails details)])
    else return stack head
  return stack ls

def dependencyList (dependencies : Datum) : Except Fault String := do
  if !dependencies.isTruthy then return "外部依存関係はありません。"
  let ls ← (← dependencies.items).mapM fun dep => do
    let type ← dep.member "type" (.text "unknown")
    let usage ← dep.member "usage" (.text "用途不明")
    let name ← dep.member "name" (.text "unknown")
    return "- **" ++ name.plain ++ "** (" ++ type.plain ++ "): " ++ usage.plain
  return stack ls

/-- A part of the summary: nothing if the member is absent, else what the writer makes of it. -/
def summaryPart (analysis : Datum) (key : String) (write : Datum → Except Fault (List String)) :
    Except Fault (List String) := do
  let d ← analysis.member key
  if d.isTruthy then write d else return []

def analysisSummary (analysis : Datum) : Except Fault String := do
  let overview ← summaryPart analysis "overview" fun d => return ["**概要**: " ++ d.plain]
  let functions ← summaryPart analysis "functions" fun d =>
    return ["**関数**:", ← functionList d]
  let classes ← summaryPart analysis "classes" fun d =>
    return ["**クラス**:", ← classList d]
  let dependencies ← summaryPart analysis "dependencies" fun d =>
    return ["**依存関係**:", ← dependencyList d]
  let flow ← summaryPart analysis "data_flow" fun d => return ["**データフロー**: " ++ d.plain]
  let errors ← summaryPart analysis "error_handling" fun d =>
    return ["**エラーハンドリング**: " ++ d.plain]
  return "\n\n".intercalate
    (overview ++ functions ++ classes ++ dependencies ++ flow ++ errors)

end SpecScribe.Prompt
