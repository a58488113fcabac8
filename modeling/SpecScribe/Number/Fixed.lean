import SpecScribe.Number.Binary
import SpecScribe.Number.Basic

/-!
Numbers with a fixed count of decimal places. The exact binary value is rounded, and a tie goes to
the even neighbour.
-/

namespace SpecScribe.Number

/-- The value times `10 ^ places`, rounded to a natural number. -/
def scaledRound (mant : Nat) (exp : Int) (places : Nat) : Nat :=
  if exp ≥ 0 then mant * pow2 exp.toNat * pow10 places
  else roundDiv (mant * pow10 places) (pow2 (-exp).toNat)

/-- `n / 10 ^ places` in digits. -/
def placeText (n places : Nat) : List Char :=
  let ds := padStart (places + 1) '0' (Nat.toDigits 10 n)
  let whole := ds.take (ds.length - places)
  if places == 0 then whole else whole ++ '.' :: ds.drop (ds.length - places)

def fixed (places : Nat) (x : Float) : String :=
  match Binary.ofFloat x with
  | .nan => "nan"
  | .infinite negative => if negative then "-inf" else "inf"
  | .finite negative mant exp =>
    let body := placeText (scaledRound mant exp places) places
    String.ofList (if negative then '-' :: body else body)

/-- The double nearest to the value rounded to `places` decimal places. -/
def roundTo (places : Nat) (x : Float) : Float :=
  match Binary.ofFloat x with
  | .finite negative mant exp =>
    nearestDecimal negative (scaledRound mant exp places) (-(places : Int))
  | _ => x

/-- A number rounded to `places` decimal places; a whole one stays whole. -/
def rounded (places : Nat) : Number → Number
  | .int n => .int n
  | .float x => .float (roundTo places x)

end SpecScribe.Number
