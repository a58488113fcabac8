import SpecScribe.Datum.Describe
import SpecScribe.Schema.Rule
import SpecScribe.Text.Search

/-!
Paths in normal form: steps divided by single slashes, without steps that stay in place. The empty
path is the current directory. Two leading slashes are kept, three or more count as one.
-/

namespace SpecScribe.Workspace

/-- A path: its root and its steps. -/
structure Path where
  root : String := ""
  steps : List String := []
  deriving DecidableEq, Inhabited

namespace Path

def rootOf (s : List Char) : String :=
  match s with
  | '/' :: '/' :: '/' :: _ => "/"
  | '/' :: '/' :: _ => "//"
  | '/' :: _ => "/"
  | _ => ""

/-- The steps of a path text. Empty steps and steps that stay in place are dropped. -/
def stepsOf (s : List Char) : List String :=
  ((Text.splitOn ['/'] s).map String.ofList).filter fun x => x != "" && x != "."

def ofString (s : String) : Path := ⟨rootOf s.toList, stepsOf s.toList⟩

def toString (p : Path) : String :=
  if p.root == "" && p.steps.isEmpty then "." else p.root ++ "/".intercalate p.steps

instance : ToString Path := ⟨toString⟩

def child (p : Path) (name : String) : Path := ⟨p.root, p.steps ++ [name]⟩

/-- A path continued by another; an absolute one replaces it. -/
def join (p q : Path) : Path :=
  if q.root == "" then ⟨p.root, p.steps ++ q.steps⟩ else q

def name (p : Path) : String := p.steps.getLast?.getD ""

def parent (p : Path) : Path := ⟨p.root, p.steps.dropLast⟩

/-- The part of the name from its last dot on, if something stands before and behind the dot. -/
def suffix (p : Path) : String :=
  let n := p.name.toList
  match Text.findLast? ['.'] n with
  | some i => if 0 < i && i + 1 < n.length then String.ofList (n.drop i) else ""
  | none => ""

def stem (p : Path) : String :=
  let n := p.name.toList
  match Text.findLast? ['.'] n with
  | some i => if 0 < i && i + 1 < n.length then String.ofList (n.take i) else p.name
  | none => p.name

def rule : Schema.Rule Path := Schema.Rule.present fun
  | .text s => .ok (ofString s)
  | _ => Schema.refuse .notPath

end Path

instance : ToDatum Path := ⟨fun p => .text p.toString⟩

end SpecScribe.Workspace
