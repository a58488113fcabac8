import SpecScribe.Datum.Describe
import SpecScribe.Fault
import SpecScribe.Schema.Rule

/-!
Rows of the table of classes and methods. Every cell has a greatest length, and a longer text ends
in dots.
-/

namespace SpecScribe.Document

open Schema

/-- Cuts a text longer than `limit` so that it fits with three dots. -/
def clip (limit : Nat) (s : String) : String :=
  if s.length > limit then String.ofList (s.toList.take (limit - 3)) ++ "..." else s

structure Cell where
  content : String

def Cell.read (ms : Members) : Checked Cell :=
  (required ms "content" text).map fun s => ⟨clip 80 s⟩

structure TableRow where
  className : String
  role : String
  methods : List String
  remarks : String
  /-- The number of methods before the list was cut. -/
  methodCount : Int

def size : Datum → Except Fault Nat
  | .text s => .ok s.length
  | .list xs => .ok xs.length
  | .record ms => .ok ms.length
  | d => .error (.noLength d.kind)

def TableRow.readFields (ms : Members) : Checked TableRow :=
  let className : Checked String := (required ms "class_name" text).map (clip 30)
  let role : Checked String := (required ms "role" text).map (clip 50)
  let methods : Checked (List String) := (required ms "main_methods" (list text)).map (·.take 5)
  let remarks : Checked String := (required ms "remarks" text).map (clip 40)
  let count := withDefault ms "original_method_count" integer 0
  match className, role, methods, remarks, count with
  | .ok a, .ok b, .ok c, .ok d, .ok e => .ok ⟨a, b, c, d, e⟩
  | _, _, _, _, _ =>
    .error (className.errors ++ role.errors ++ methods.errors ++ remarks.errors ++ count.errors)

/-- Reads a row. The number of methods is taken from the list of methods where there is one. -/
def TableRow.read (ms : Members) : Except Fault TableRow := do
  let ms ← match ms.get? "main_methods" with
    | none => pure ms
    | some d => do
      let n ← size d
      pure (ms.set "original_method_count" (.int n))
  match TableRow.readFields ms with
  | .ok row => return row
  | .error es => throw (.invalid "ClassMethodTableRow" es)

def TableRow.methodCell (row : TableRow) : String :=
  let names := ", ".intercalate (row.methods.take 5)
  clip 80 (if row.methodCount > 5 then names ++ "..." else names)

def TableRow.render (row : TableRow) : String :=
  "| " ++ row.className ++ " | " ++ row.role ++ " | " ++ row.methodCell ++ " | " ++ row.remarks
    ++ " |"

/-- The row that stands in for one that cannot be read. -/
def brokenRow : String := "| 解析エラー | 未定義 | 未定義 | エラー |"

def tableRow (className role methods remarks : Datum) : String :=
  match TableRow.read [("class_name", className), ("role", role), ("main_methods", methods),
      ("remarks", remarks)] with
  | .ok row => row.render
  | .error _ => brokenRow

instance : ToDatum TableRow where
  toDatum r := .record
    [("class_name", toDatum r.className), ("role", toDatum r.role),
     ("main_methods", toDatum r.methods), ("remarks", toDatum r.remarks),
     ("original_method_count", toDatum r.methodCount)]

end SpecScribe.Document
