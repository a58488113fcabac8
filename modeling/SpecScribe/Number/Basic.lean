import SpecScribe.Number.Shortest

/-!
Numbers that are either whole or doubles. Arithmetic stays whole as long as both sides are.
-/

namespace SpecScribe

/-- A whole number or a double. -/
inductive Number where
  | int (n : Int)
  | float (x : Float)

namespace Number

def toFloat : Number → Float
  | .int n => ofInt n
  | .float x => x

def add : Number → Number → Number
  | .int a, .int b => .int (a + b)
  | a, b => .float (a.toFloat + b.toFloat)

def sub : Number → Number → Number
  | .int a, .int b => .int (a - b)
  | a, b => .float (a.toFloat - b.toFloat)

def mul : Number → Number → Number
  | .int a, .int b => .int (a * b)
  | a, b => .float (a.toFloat * b.toFloat)

def lt : Number → Number → Bool
  | .int a, .int b => a < b
  | a, b => a.toFloat < b.toFloat

def le : Number → Number → Bool
  | .int a, .int b => a ≤ b
  | a, b => a.toFloat ≤ b.toFloat

def text : Number → String
  | .int n => toString n
  | .float x => plainFormat.write x

end Number

end SpecScribe
