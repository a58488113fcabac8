import SpecScribe.Fault
import SpecScribe.Syntax.Dialect

/-!
Grammars that are installed or not. A grammar is loaded by calling a function of its module; what
the call gives is a handle.
-/

namespace SpecScribe.Syntax

inductive GrammarModule where
  | missing
  | offering (functions : List String)
  | failing (message : String)

abbrev Grammars := Language → GrammarModule

namespace Grammars

def moduleName (l : Language) : String := "tree_sitter_" ++ l.name

/-- The functions that can load a language, the best one first. -/
def loaders : Language → List String
  | .typescript => ["language_typescript", "language"]
  | _ => ["language"]

def complete : Grammars := fun l => .offering ((loaders l).take 1)

def load (g : Grammars) (l : Language) : Except Fault String :=
  let name := moduleName l
  match g l with
  | .missing =>
    .error (.notImported ("Language parser " ++ name ++ " not installed. Please run: pip install "
      ++ name))
  | .failing message => .error (.outside "RuntimeError" message)
  | .offering functions =>
    match (loaders l).find? functions.contains with
    | some f => .ok (name ++ "." ++ f)
    | none =>
      match l with
      | .typescript => .error (.noGrammarFunction name l.name)
      | _ => .error (.noModuleMember name "language")

def loaded (g : Grammars) : List Language := Language.all.filter fun l => (g.load l).toBool

end Grammars

/-- The language of a dialect. One dialect belongs to no language that can be asked for. -/
def Dialect.language : Dialect → Except Fault Language
  | .python => .ok .python
  | .javascript => .ok .javascript
  | .typescript => .ok .typescript
  | .java => .ok .java
  | .cpp => .ok .cpp
  | .c => .error (.unknownLanguage "C")

end SpecScribe.Syntax
