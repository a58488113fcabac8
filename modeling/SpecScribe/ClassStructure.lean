import SpecScribe.Datum.Describe
import SpecScribe.Element

/-!
Classes with their methods, kept together so that a model sees them as one.
-/

namespace SpecScribe

/-- A method or attribute of a class: an element of code, an object with some attributes, or a
plain value. -/
inductive ClassMember where
  | element (e : Element)
  | object (attributes : Members)
  | plain (d : Datum)

namespace ClassMember

def attribute? (m : ClassMember) (name : String) : Option Datum :=
  match m with
  | .element e =>
    match name with
    | "name" => some (.text e.name)
    | "content" => some (.text e.content)
    | "start_line" => some (.int e.startLine)
    | "end_line" => some (.int e.endLine)
    | _ => none
  | .object attributes => attributes.get? name
  | .plain _ => none

def shown : ClassMember → Datum
  | .element e => .text e.name
  | .object _ => .text "<obj>"
  | .plain d => .text d.plain

def attributeOrShown (m : ClassMember) (name : String) : Datum :=
  (m.attribute? name).getD m.shown

end ClassMember

structure ClassStructure where
  name : String
  methods : List ClassMember
  attributes : List ClassMember
  doc : Option String
  startLine : Int
  endLine : Int
  path : String

namespace ClassStructure

/-- The documentation in front of the class, if there is any. -/
def docLines (c : ClassStructure) : List String :=
  match c.doc with
  | none => []
  | some "" => []
  | some d => ["\"\"\"\n" ++ d ++ "\n\"\"\""]

/-- The class as one text: documentation, head, methods and attributes. -/
def unified (c : ClassStructure) : String :=
  "\n".intercalate <|
    c.docLines ++ ["class " ++ c.name ++ ":"]
      ++ c.methods.map (fun m => "    " ++ (m.attributeOrShown "content").plain)
      ++ c.attributes.map (fun a => "    # Attribute: " ++ (a.attributeOrShown "content").plain)

def methodNames (c : ClassStructure) : List Datum :=
  c.methods.map (·.attributeOrShown "name")

end ClassStructure

instance : ToDatum ClassMember where
  toDatum
    | .element e => toDatum e
    | .object ms => .record ms
    | .plain d => d

instance : ToDatum ClassStructure where
  toDatum c := .record
    [("name", toDatum c.name), ("methods", toDatum c.methods),
     ("attributes", toDatum c.attributes), ("docstring", toDatum c.doc),
     ("start_line", toDatum c.startLine), ("end_line", toDatum c.endLine),
     ("file_path", toDatum c.path)]

end SpecScribe
