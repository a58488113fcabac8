import SpecScribe.Datum.Describe
import SpecScribe.Settings.Config
import SpecScribe.Workspace.Path

/-!
Changes of meaning between two versions of a code base.
-/

namespace SpecScribe.Document

open Workspace

structure Change where
  path : Path
  changeType : String
  elementName : String
  elementType : String
  impact : Float
  dependencies : List String

def changeTypes : List String := ["added", "modified", "removed"]

open Schema in
def Change.read (ms : Members) : Checked Change :=
  let path := required ms "file_path" Path.rule
  let changeType := ensureGiven ms "change_type" (required ms "change_type" text) fun t =>
    if changeTypes.contains t then none
    else some ("change_type must be one of " ++ Settings.nameSet changeTypes)
  let elementName := required ms "element_name" text
  let elementType := required ms "element_type" text
  let impact := required ms "impact_score" (between 0.0 10.0 float)
  let dependencies := withDefault ms "dependencies" (list text) []
  match path, changeType, elementName, elementType, impact, dependencies with
  | .ok a, .ok b, .ok c, .ok d, .ok e, .ok f => .ok ⟨a, b, c, d, e, f⟩
  | _, _, _, _, _, _ =>
    .error (path.errors ++ changeType.errors ++ elementName.errors ++ elementType.errors
      ++ impact.errors ++ dependencies.errors)

instance : ToDatum Change where
  toDatum c := .record
    [("file_path", toDatum c.path), ("change_type", toDatum c.changeType),
     ("element_name", toDatum c.elementName), ("element_type", toDatum c.elementType),
     ("impact_score", toDatum c.impact), ("dependencies", toDatum c.dependencies)]

end SpecScribe.Document
