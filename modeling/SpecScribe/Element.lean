import SpecScribe.Datum
import SpecScribe.Datum.Describe
import SpecScribe.Datum.Order
import SpecScribe.Fault

/-!
Elements of code: functions and classes with their place, text and documentation.
-/

namespace SpecScribe

structure Element where
  name : String
  kind : String
  startLine : Int
  endLine : Int
  content : String
  doc : Option String := none
  parameters : List String := []
  returnType : Option String := none
  metadata : Members := []

def Element.checked (e : Element) : Except Fault Element :=
  if e.endLine < e.startLine then
    .error (.badValue "end_line must be greater than or equal to start_line")
  else .ok e

instance : ToDatum Element where
  toDatum e := .record
    [("name", toDatum e.name), ("element_type", toDatum e.kind),
     ("start_line", toDatum e.startLine), ("end_line", toDatum e.endLine),
     ("content", toDatum e.content), ("doc_comment", toDatum e.doc),
     ("parameters", toDatum e.parameters), ("return_type", toDatum e.returnType),
     ("metadata", .record e.metadata)]

def Element.needed : List String := ["name", "element_type", "start_line", "end_line", "content"]

def Element.optional : List String :=
  ["node", "doc_comment", "parameters", "return_type", "metadata"]

/-- A record has only known fields, and all that have to be given. -/
def Element.checkFields (m : Members) : Except Fault Unit :=
  match m.find? (fun (k, _) => !(needed ++ optional).contains k),
      needed.filter (fun k => (m.get? k).isNone) with
  | some (k, _), _ => .error (.unknownField "SemanticElement" k)
  | none, [] => .ok ()
  | none, missing => .error (.missingFields "SemanticElement" missing)

def Element.ofDatum (d : Datum) : Except Fault Element := do
  checkFields d.toMembers
  let _ ← Datum.compareBy .lt (d.get "end_line") (d.get "start_line")
  Element.checked
    { name := (d.get "name").toText, kind := (d.get "element_type").toText,
      startLine := (d.get "start_line").toInt, endLine := (d.get "end_line").toInt,
      content := (d.get "content").toText, doc := (d.get "doc_comment").text?,
      parameters := (d.get "parameters").toTexts, returnType := (d.get "return_type").text?,
      metadata := (d.get "metadata").toMembers }

end SpecScribe
