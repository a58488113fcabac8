import SpecScribe.Datum.Describe
import SpecScribe.Schema.Rule

/-!
The languages that source code is read in.
-/

namespace SpecScribe

inductive Language where
  | python
  | javascript
  | typescript
  | java
  | cpp
  deriving DecidableEq, Inhabited

namespace Language

def all : List Language := [.python, .javascript, .typescript, .java, .cpp]

def name : Language → String
  | .python => "python"
  | .javascript => "javascript"
  | .typescript => "typescript"
  | .java => "java"
  | .cpp => "cpp"

def ofName? (s : String) : Option Language := all.find? fun l => l.name == s

def rule : Schema.Rule Language := Schema.Rule.present fun d =>
  let refused := Schema.refuse (.notMember (all.map name))
  match d with
  | .text s =>
    match ofName? s with
    | some l => .ok l
    | none => refused
  | _ => refused

end Language

instance : ToDatum Language := ⟨fun l => .text l.name⟩

end SpecScribe
