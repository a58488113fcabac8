import SpecScribe.Datum.Access
import SpecScribe.Document.Table

/-!
The six sections of a specification: overview, architecture, classes and methods, interfaces, data
and processing. Each is written from the combined analysis, whose shape is not promised.
-/

namespace SpecScribe.Document

open Datum Text

def moduleTable (data : Datum) : Except Fault Datum := data.member "modules" (.record [])

def collect {α : Type} (items : List α) (write : α → Except Fault (List String)) :
    Except Fault (List String) :=
  (items.mapM write).map List.flatten

def overviewSection (data : Datum) : Except Fault String := do
  let overview ← data.member "overview" (.record [])
  let summary ← overview.member "system_overview" (.text "システム概要が定義されていません")
  let modules ← data.member "modules"
  let files ← if modules.isTruthy then modules.keys else pure []
  let constraints ← overview.member "constraints" (.text "特になし")
  return stack
    ["## 1. 概要", "",
     "- **システム概要**: " ++ summary.plain,
     "- **対象範囲（ファイル）**:",
     stackOr "- 対象ファイルが定義されていません" (files.map ("- " ++ ·)),
     "- **前提条件・制約事項（もし必要な場合）**: " ++ constraints.plain]

def diagramClass (cls : Datum) : Except Fault (List String) := do
  let name ← cls.member "name" (.text "UnknownClass")
  let methods ← cls.member "methods" (.list [])
  let shown ← methods.firstItems 3
  return ["    class " ++ name.plain ++ " \x7b"]
    ++ shown.map (fun m => "        +" ++ m.plain ++ "()") ++ ["    \x7d"]

def classDiagram (modules : Members) : Except Fault (List String) :=
  collect modules fun (_, m) => do
    let classes ← m.member "classes" (.list [])
    collect (← classes.items) diagramClass

def relationships (modules : Members) : Except Fault (List String) :=
  collect modules fun (name, m) => do
    let dependencies ← m.member "dependencies" (.list [])
    collect (← dependencies.items) fun dep => do
      let type ← dep.member "type"
      if type.same (.text "internal") then
        let target ← dep.member "name"
        let usage ← dep.member "usage" (.text "依存関係")
        return ["- **" ++ name ++ "** → **" ++ target.plain ++ "**: " ++ usage.plain]
      else return []

def methodRelationships (modules : Members) : Except Fault String := do
  let found ← collect modules fun (name, m) => do
    let functions ← m.member "functions" (.list [])
    collect (← functions.firstItems 3) fun func => do
      let funcName ← func.member "name" (.text "unknown")
      let purpose ← func.member "purpose" (.text "処理を実行")
      return ["- **" ++ funcName.plain ++ "** (in " ++ name ++ "): " ++ purpose.plain]
  return stackOr "- メソッド関係が定義されていません" found

def architectureSection (data : Datum) : Except Fault String := do
  let architecture ← data.member "architecture" (.record [])
  let modules ← (← moduleTable data).members
  let diagram ← classDiagram modules
  let related ← relationships modules
  let flow ← architecture.member "overview" (.text "システム全体の処理フローを記述")
  let methods ← methodRelationships modules
  return stack
    ["## 2. アーキテクチャ設計", "",
     "### システム構成図",
     stack (["```mermaid", "classDiagram"] ++ diagram ++ ["```"]), "",
     "### 処理フロー概要",
     flow.plain, "",
     "### 主要コンポーネント間の関係",
     stackOr "- 主要コンポーネント間の関係が定義されていません" related, "",
     "### 関連するファイルや処理・呼び出されるメソッド・呼び出し元のメソッド",
     methods]

/-- What a module's functions and classes add to the section: rows and detailed descriptions. -/
structure ClassPart where
  rows : List String
  details : List String

def methodLines (methods : Datum) : Except Fault String := do
  if !methods.isTruthy then return "メソッドが定義されていません"
  let shown ← methods.firstItems 3
  return stack (shown.map fun m => "- **" ++ m.plain ++ "**: 処理概要、引数、戻り値、例外を記述")

def functionRow (func : Datum) : Except Fault ClassPart := do
  let name ← func.member "name" (.text "unknown")
  let purpose ← func.member "purpose" (.text "未定義")
  let inputs ← func.member "inputs" (.list [])
  let complexity ← func.member "complexity" (.text "medium")
  return ⟨[tableRow (.text (name.plain ++ " (関数)")) purpose inputs
    (.text ("複雑度: " ++ complexity.plain))], []⟩

def classPart (cls : Datum) : Except Fault ClassPart := do
  let name ← cls.member "name" (.text "unknown")
  let purpose ← cls.member "purpose" (.text "未定義")
  let methods ← cls.member "methods" (.list [])
  let pattern ← cls.member "design_pattern" (.text "なし")
  let row := tableRow name purpose methods (.text ("パターン: " ++ pattern.plain))
  let attributes := clip 100 (← (← cls.member "attributes" (.list [])).joined ", ")
  let specs ← methodLines methods
  let inheritance ← cls.member "inheritance" (.text "なし")
  return ⟨[row], [stack
    ["", "#### " ++ name.plain, "",
     "**クラス概要**: " ++ purpose.plain, "",
     "**属性一覧**: " ++ (if attributes == "" then "属性が定義されていません" else attributes), "",
     "**メソッド仕様**:", specs, "",
     "**継承・実装関係**: " ++ inheritance.plain]]⟩

def modulePart (m : Datum) : Except Fault (List ClassPart) := do
  let functions ← (← (← m.member "functions" (.list [])).items).mapM functionRow
  let classes ← (← (← m.member "classes" (.list [])).items).mapM classPart
  return functions ++ classes

def classMethodSection (data : Datum) : Except Fault String := do
  let modules ← (← moduleTable data).members
  let parts := (← modules.mapM fun (_, m) => modulePart m).flatten
  return stack
    ["## 3. クラス・メソッド設計", "",
     "### 3.1 クラス・メソッド一覧表", "",
     "| クラス名 | 役割 | 主要メソッド | 備考 |",
     "| -------- | ---- | ------------ | ---- |",
     stackOr "| 未定義 | 未定義 | 未定義 | 未定義 |" (parts.flatMap (·.rows)), "",
     "### 3.2 クラス・メソッド詳細仕様",
     stackOr "詳細仕様が定義されていません" (parts.flatMap (·.details))]

/-- A function that is part of an interface by its name or purpose. -/
def interfaceFunction (func : Datum) : Except Fault (List String) := do
  let name ← (← func.member "name" (.text "")).lowered
  let purpose ← (← func.member "purpose" (.text "")).lowered
  if occursIn "api" name || occursIn "interface" purpose then
    let inputs ← func.member "inputs" (.list [])
    let outputs ← func.member "outputs" (.text "未定義")
    let title ← func.member "name" (.text "未定義")
    let inputText ← if inputs.isTruthy then inputs.joined ", " else pure "パラメータなし"
    return [stack
      ["", "### " ++ title.plain, "",
       "**入力データ形式**: " ++ inputText,
       "**出力データ形式**: " ++ outputs.plain,
       "**エラーレスポンス仕様**: 標準的なエラーハンドリングを適用"]]
  else return []

/-- What is said when no function is part of an interface. -/
def standardInterface : String := stack
  ["", "### 標準的なインターフェース", "",
   "**入力データ形式**: 各関数の仕様に従う",
   "**出力データ形式**: 各関数の戻り値仕様に従う",
   "**エラーレスポンス仕様**: 例外処理による標準的なエラーハンドリング"]

def interfaceSection (data : Datum) : Except Fault String := do
  let modules ← (← moduleTable data).members
  let specs ← collect modules fun (_, m) => do
    let functions ← m.member "functions" (.list [])
    collect (← functions.items) interfaceFunction
  return stack ["## 4. インターフェース設計", stackOr standardInterface specs]

def dataStructure (cls : Datum) : Except Fault (List String) := do
  let attributes ← cls.member "attributes" (.list [])
  if attributes.isTruthy then
    let fields ← attributes.items
    let name ← cls.member "name" (.text "未定義")
    let purpose ← cls.member "purpose" (.text "データ構造")
    return [stack
      ["", "### " ++ name.plain,
       "**用途**: " ++ purpose.plain,
       "**フィールド**:",
       stack (fields.map fun a => "- " ++ a.plain ++ ": データ型未定義")]]
  else return []

def dataFlowDiagram : String := stack
  ["", "### データフロー図",
   "```mermaid",
   "flowchart TD",
   "    A[入力データ] --> B[データ処理]",
   "    B --> C[出力データ]",
   "    B --> D[データ保存]",
   "```"]

def dataDesignSection (data : Datum) : Except Fault String := do
  let modules ← (← moduleTable data).members
  let structures ← collect modules fun (_, m) => do
    let classes ← m.member "classes" (.list [])
    collect (← classes.items) dataStructure
  return stack
    ["## 5. データ設計", "",
     "### データ構造",
     stackOr "データ構造が定義されていません" structures, "",
     "### データベーステーブル設計（該当する場合）",
     "現在のシステムではデータベーステーブルは使用されていません",
     if structures.isEmpty then "" else dataFlowDiagram]

def mainFunctions (modules : Members) : Except Fault (List String) :=
  collect modules fun (_, m) => do
    let functions ← m.member "functions" (.list [])
    (← functions.firstItems 2).mapM fun f => do
      let name ← f.member "name" (.text "unknown")
      return name.plain

def numbered (xs : List String) : List (String × String) :=
  xs.zipIdx.map fun (x, i) => (toString (i + 1), x)

def sequenceDiagram (steps : List String) : List String :=
  ["```mermaid", "sequenceDiagram", "    participant User", "    participant System"]
    ++ (numbered steps).flatMap (fun (i, f) =>
      ["    User->>System: " ++ i ++ ". " ++ f ++ "を実行",
       "    System-->>User: " ++ i ++ ". 処理結果を返却"])
    ++ ["```"]

def processingSection (data : Datum) : Except Fault String := do
  let modules ← (← moduleTable data).members
  let names ← mainFunctions modules
  let steps := (numbered (names.take 5)).map fun (i, f) =>
    i ++ ". **" ++ f ++ "**: 主要な処理ロジックを実行"
  return stack
    ["## 6. 処理設計", "",
     "### 6.1 主要処理フロー", "",
     "#### シーケンス図での表現",
     stack (sequenceDiagram (names.take 4)), "",
     "#### 処理ステップの詳細説明",
     stackOr "1. システムの主要処理を実行" steps]

def sections : List (String × (Datum → Except Fault String)) :=
  [("overview", overviewSection), ("architecture", architectureSection),
   ("class_method", classMethodSection), ("interface", interfaceSection),
   ("data_design", dataDesignSection), ("processing", processingSection)]

end SpecScribe.Document
