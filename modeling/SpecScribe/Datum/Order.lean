import SpecScribe.Datum
import SpecScribe.Fault

/-!
Comparing loose data: numbers by value, texts by code points, lists item by item. Anything else
cannot be compared.
-/

namespace SpecScribe.Datum

inductive Comparison where
  | lt | le | gt | ge
  deriving DecidableEq

def Comparison.symbol : Comparison → String
  | .lt => "<"
  | .le => "<="
  | .gt => ">"
  | .ge => ">="

def Comparison.numbers : Comparison → Number → Number → Bool
  | .lt, a, b => a.lt b
  | .le, a, b => a.le b
  | .gt, a, b => b.lt a
  | .ge, a, b => b.le a

def Comparison.texts : Comparison → String → String → Bool
  | .lt, a, b => a < b
  | .le, a, b => a ≤ b
  | .gt, a, b => b < a
  | .ge, a, b => b ≤ a

def Comparison.sizes : Comparison → Nat → Nat → Bool
  | .lt, a, b => a < b
  | .le, a, b => a ≤ b
  | .gt, a, b => b < a
  | .ge, a, b => b ≤ a

mutual

def compareBy (c : Comparison) : Datum → Datum → Except Fault Bool
  | .text a, .text b => .ok (c.texts a b)
  | .list a, .list b => compareItems c a b
  | a, b =>
    match a.number?, b.number? with
    | some x, some y => .ok (c.numbers x y)
    | _, _ => .error (.notComparable c.symbol a.kind b.kind)

/-- The first items that differ decide, then the lengths. -/
def compareItems (c : Comparison) : List Datum → List Datum → Except Fault Bool
  | x :: xs, y :: ys => if x.same y then compareItems c xs ys else compareBy c x y
  | a, b => .ok (c.sizes a.length b.length)

end

end SpecScribe.Datum
