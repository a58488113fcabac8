import SpecScribe.Document.Section

/-!
The whole specification: a head, the six sections and the history of changes.
-/

namespace SpecScribe.Document

open Text

structure Heading where
  project : String
  version : String := "1.0"
  date : String

def Heading.render (h : Heading) (documentType : String) : String := stack
  ["# " ++ h.project ++ " " ++ documentType, "",
   "**文書バージョン**: " ++ h.version,
   "**作成日**: " ++ h.date,
   "**最終更新日**: " ++ h.date, "", "---", ""]

/-- The entry of a document without changes. -/
def firstVersion (h : Heading) : Datum := .list [.record
  [("date", .text h.date), ("version", .text h.version), ("description", .text "初版作成"),
   ("author", .text "システム")]]

def changeRow (change : Datum) : Except Fault String := do
  let date ← change.member "date"
  let version ← change.member "version"
  let description ← change.member "description"
  let author ← change.member "author"
  return "| " ++ date.plain ++ " | " ++ version.plain ++ " | " ++ description.plain ++ " | "
    ++ author.plain ++ " |"

def changeHistory (h : Heading) (changes : Datum) : Except Fault String := do
  let changes := if changes.isTruthy then changes else firstVersion h
  let rows ← (← changes.items).mapM changeRow
  return stack
    ["### 変更履歴", "",
     "| 日付 | バージョン | 変更内容 | 作成者 |",
     "|------|-----------|----------|--------|",
     stack rows, "", ""]

def specification (h : Heading) (data : Datum) : Except Fault String := do
  let documentType ← data.member "document_type" (.text "詳細設計書")
  let body ← sections.mapM fun (_, write) => write data
  let history ← changeHistory h (← data.member "change_history" (.list []))
  return "\n\n".intercalate ([h.render documentType.plain] ++ body ++ [history])

end SpecScribe.Document
