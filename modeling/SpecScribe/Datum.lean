import SpecScribe.Number.Basic
import SpecScribe.Text.Quoted

/-!
Loose data: what a model replies and what a document is made from. Nothing is promised about its
shape, so every look into it can fail, and the fault says what was found instead. Members of a
record keep the order in which they were first set.
-/

namespace SpecScribe

inductive Datum where
  | null
  | bool (b : Bool)
  | int (n : Int)
  | float (x : Float)
  | text (s : String)
  | list (items : List Datum)
  | record (members : List (String × Datum))
  deriving Inhabited

/-- Sets a key in a table. A key that is there keeps its place. -/
def setKey {α : Type} (key : String) (value : α) : List (String × α) → List (String × α)
  | [] => [(key, value)]
  | (k, v) :: r => if k == key then (k, value) :: r else (k, v) :: setKey key value r

def countKey (key : String) (table : List (String × Nat)) : List (String × Nat) :=
  setKey key ((table.lookup key).getD 0 + 1) table

/-- Members of a record, in the order in which they were first set. -/
abbrev Members := List (String × Datum)

namespace Members

def get? (m : Members) (key : String) : Option Datum := m.lookup key

def set (m : Members) (key : String) (value : Datum) : Members := setKey key value m

end Members

namespace Datum

def kind : Datum → String
  | .null => "NoneType"
  | .bool _ => "bool"
  | .int _ => "int"
  | .float _ => "float"
  | .text _ => "str"
  | .list _ => "list"
  | .record _ => "dict"

/-- Whether a datum counts as present: empty texts, lists and records, zero and null do not. -/
def isTruthy : Datum → Bool
  | .null => false
  | .bool b => b
  | .int n => n != 0
  | .float x => !(x == 0.0)
  | .text s => s != ""
  | .list xs => !xs.isEmpty
  | .record ms => !ms.isEmpty

mutual

/-- A datum as it is written inside another: texts in quotes. -/
def literal : Datum → String
  | .null => "None"
  | .bool b => if b then "True" else "False"
  | .int n => toString n
  | .float x => Number.plainFormat.write x
  | .text s => Text.quote s
  | .list xs => "[" ++ ", ".intercalate (literals xs) ++ "]"
  | .record ms => "\x7b" ++ ", ".intercalate (memberLiterals ms) ++ "\x7d"

def literals : List Datum → List String
  | [] => []
  | x :: r => literal x :: literals r

def memberLiterals : List (String × Datum) → List String
  | [] => []
  | (k, v) :: r => (Text.quote k ++ ": " ++ literal v) :: memberLiterals r

end

/-- A datum as running text: a text is itself. -/
def plain : Datum → String
  | .text s => s
  | d => literal d

mutual

/-- Equality of data. Whole numbers, doubles and truth values compare by value, records without
regard to order. -/
def same : Datum → Datum → Bool
  | .null, .null => true
  | .text a, .text b => a == b
  | .list a, .list b => sameList a b
  | .record a, .record b => a.length == b.length && sameMembers a b
  | .bool a, .bool b => a == b
  | .int a, .int b => a == b
  | .float a, .float b => a == b
  | .bool a, .int b => a.toInt == b
  | .int a, .bool b => a == b.toInt
  | .int a, .float b => Number.ofInt a == b
  | .float a, .int b => a == Number.ofInt b
  | .bool a, .float b => Number.ofInt a.toInt == b
  | .float a, .bool b => a == Number.ofInt b.toInt
  | _, _ => false

def sameList : List Datum → List Datum → Bool
  | [], [] => true
  | a :: r, b :: r' => same a b && sameList r r'
  | _, _ => false

def sameMembers : List (String × Datum) → List (String × Datum) → Bool
  | [], _ => true
  | (k, v) :: r, m =>
    (match m.lookup k with
      | some v' => same v v'
      | none => false) && sameMembers r m

end

/-- A number, truth values counting as zero and one. -/
def number? : Datum → Option Number
  | .int n => some (.int n)
  | .float x => some (.float x)
  | .bool b => some (.int b.toInt)
  | _ => none

end Datum

end SpecScribe
