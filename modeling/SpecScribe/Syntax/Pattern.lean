import SpecScribe.Syntax.Node

/-!
Patterns for definitions. A pattern asks for the kind of a node and, field by field, for a child
that matches a further pattern; a match gives roles to the nodes it found.
-/

namespace SpecScribe.Syntax

inductive Role where
  | definition
  | name
  | params
  | body
  deriving DecidableEq

/-- Asks for a node of a kind (of any kind if none is given), with the fields that its children
must have. The flag of a field says whether it may be missing. -/
inductive Pattern where
  | mk (kind : Option String) (role : Option Role) (fields : List (String × Bool × Pattern))

/-- A set of patterns, each tried on every node. -/
abbrev Query := List Pattern

def Pattern.leaf (kind : String) (role : Role) : Pattern := .mk (some kind) (some role) []

def Pattern.define (kind : String) (fields : List (String × Bool × Pattern)) : Pattern :=
  .mk (some kind) (some .definition) fields

/-- Nodes found by a match: the role and the place of each. -/
abbrev Found := List (Role × List Nat)

def ownRole (role : Option Role) (place : List Nat) : Found :=
  match role with
  | some r => [(r, place)]
  | none => []

mutual

/-- Matches a pattern against one node. -/
def Pattern.match? (place : List Nat) : Pattern → Node → Option Found
  | .mk kind role fields, n =>
    if kind.all (· == n.kind) then
      (matchFields? place n.children fields).map (ownRole role place ++ ·)
    else none

/-- Matches field after field; the first child that fits is taken. -/
def matchFields? (place : List Nat) (children : List Node) :
    List (String × Bool × Pattern) → Option Found
  | [] => some []
  | (field, optional, p) :: r =>
    let tried := (children.zipIdx.filter fun (c, _) => c.field == some field).map fun (c, i) =>
      Pattern.match? (place ++ [i]) p c
    match tried.findSome? id with
    | some found => (matchFields? place children r).map (found ++ ·)
    | none => if optional then matchFields? place children r else none

end

def Query.found (q : Query) (root : Node) : Found :=
  root.all.flatMap fun l => q.flatMap fun p => (p.match? l.place l.node).getD []

/-- The nodes with a role, each once, in pre-order. -/
def Query.captures (q : Query) (root : Node) (role : Role) : List Located :=
  let found := q.found root
  root.all.filter fun l => found.contains (role, l.place)

end SpecScribe.Syntax
