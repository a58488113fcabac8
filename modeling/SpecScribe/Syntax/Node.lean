import SpecScribe.Fault

/-!
Syntax trees. A node has a kind, a span, perhaps a text and a field name under its parent, and its
children in order. The text is what its bytes spell, or the defect that keeps them from spelling
anything.
-/

namespace SpecScribe.Syntax

/-- A place in a source text: row and column, both counted from zero. -/
structure Point where
  row : Int
  col : Int
  deriving DecidableEq, Inhabited

def Point.le (a b : Point) : Bool := a.row < b.row || (a.row == b.row && a.col ≤ b.col)

inductive Node where
  | mk (kind : String) (start stop : Point) (text : Option (Except Text.Utf8Defect String))
      (field : Option String) (children : List Node)
  deriving Inhabited

namespace Node

def kind : Node → String
  | mk k _ _ _ _ _ => k

def start : Node → Point
  | mk _ s _ _ _ _ => s

def stop : Node → Point
  | mk _ _ s _ _ _ => s

def text : Node → Option (Except Text.Utf8Defect String)
  | mk _ _ _ t _ _ => t

def field : Node → Option String
  | mk _ _ _ _ f _ => f

def children : Node → List Node
  | mk _ _ _ _ _ cs => cs

/-- What the node spells; a node without a text spells nothing. -/
def spelling (n : Node) : Except Fault String :=
  match n.text with
  | none => .ok ""
  | some (.ok s) => .ok s
  | some (.error d) => .error (.undecodable d)

def startLine (n : Node) : Int := n.start.row + 1

def endLine (n : Node) : Int := n.stop.row + 1

/-- Whether the span of `n` lies in the span of `outer`. -/
def within (n outer : Node) : Bool := outer.start.le n.start && n.stop.le outer.stop

def firstChild? (n : Node) (kinds : List String) : Option Node :=
  n.children.find? fun c => kinds.contains c.kind

end Node

/-- A node with its place in the tree (the child index at every level, from the root) and the
sibling before it. -/
structure Located where
  place : List Nat
  node : Node
  before : Option Node
  deriving Inhabited

mutual

/-- All nodes under a place in pre-order, a node before its children. -/
def Node.preorder (place : List Nat) (before : Option Node) : Node → List Located
  | .mk k s e t f cs => ⟨place, .mk k s e t f cs, before⟩ :: Node.preorderList place 0 none cs

def Node.preorderList (place : List Nat) (i : Nat) (before : Option Node) :
    List Node → List Located
  | [] => []
  | n :: r => Node.preorder (place ++ [i]) before n ++ Node.preorderList place (i + 1) (some n) r

end

/-- All nodes of a tree in pre-order. -/
def Node.all (root : Node) : List Located := Node.preorder [] none root

end SpecScribe.Syntax
