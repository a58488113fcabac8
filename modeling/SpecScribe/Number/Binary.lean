/-!
Doubles as exact binary fractions. A finite double is `mant * 2 ^ exp` with its sign; the way back
rounds a quotient of naturals to the nearest double, a tie going to the even mantissa.
-/

namespace SpecScribe.Number

def pow2 (k : Nat) : Nat := Nat.pow 2 k

def pow10 (k : Nat) : Nat := Nat.pow 10 k

def total (ns : List Nat) : Nat := ns.foldr (fun a b => a + b) 0

inductive Binary where
  | nan
  | infinite (negative : Bool)
  | finite (negative : Bool) (mant : Nat) (exp : Int)

/-- The value of a double, read off its bits. -/
def Binary.ofFloat (x : Float) : Binary :=
  let bits := x.toBits.toNat
  let negative := bits / pow2 63 == 1
  let biased : Nat := bits / pow2 52 % pow2 11
  let fraction := bits % pow2 52
  if biased == 2047 then
    if fraction == 0 then .infinite negative else .nan
  else if biased == 0 then .finite negative fraction (-1074)
  else .finite negative (pow2 52 + fraction) ((biased : Int) - 1075)

/-- The whole part of `± mant * 2 ^ exp`; what stands behind the point is dropped. -/
def wholePart (negative : Bool) (mant : Nat) (exp : Int) : Int :=
  let size := if exp ≥ 0 then mant * pow2 exp.toNat else mant / pow2 (-exp).toNat
  if negative then -(size : Int) else size

/-- `num / den` rounded to a natural number, a tie going to the even neighbour. -/
def roundDiv (num den : Nat) : Nat :=
  let q := num / den
  let r := num % den
  if 2 * r > den || (2 * r == den && q % 2 == 1) then q + 1 else q

/-- `num / den` divided by `2 ^ e`, as a pair of naturals. -/
def scaled (num den : Nat) (e : Int) : Nat × Nat :=
  if e ≥ 0 then (num, den * pow2 e.toNat) else (num * pow2 (-e).toNat, den)

/-- The exponent that puts the mantissa of `num / den` into 53 bits, but not below the least. -/
def mantissaExp (num den : Nat) : Int :=
  let e : Int := (num.log2 : Int) - den.log2 - 52
  let (n, d) := scaled num den e
  let e := if n / d < pow2 52 then e - 1 else e
  max e (-1074)

/-- The bits of the double nearest to `num / den`. -/
def nearestBits (num den : Nat) : Nat :=
  if num == 0 then 0
  else
    let e := mantissaExp num den
    let (n, d) := scaled num den e
    let m := roundDiv n d
    let (m, e) := if m ≥ pow2 53 then (m / 2, e + 1) else (m, e)
    if e > 971 then 2047 * pow2 52
    else if m < pow2 52 then m
    else (e + 1075).toNat * pow2 52 + (m - pow2 52)

def nearest (negative : Bool) (num den : Nat) : Float :=
  Float.ofBits (UInt64.ofNat (nearestBits num den + if negative then pow2 63 else 0))

/-- The double nearest to `± digits * 10 ^ exp`. Powers far outside the range of doubles are cut
off, which does not change the result. -/
def nearestDecimal (negative : Bool) (digits : Nat) (exp : Int) : Float :=
  if digits == 0 then nearest negative 0 1
  else
    let size : Int := (Nat.toDigits 10 digits).length
    if exp + size > 400 then nearest negative (pow10 400) 1
    else if exp + size < -400 then nearest negative 0 1
    else if exp ≥ 0 then nearest negative (digits * pow10 exp.toNat) 1
    else nearest negative digits (pow10 (-exp).toNat)

def ofInt (n : Int) : Float := nearest (n < 0) n.natAbs 1

end SpecScribe.Number
