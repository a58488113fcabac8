import SpecScribe.Number.Binary

/-!
The shortest decimal text that reads back as the same double. For one digit, two digits and so on
the two neighbours of the value on that decimal grid are tested against the interval of reals that
round to the double; the first grid with a hit wins, and of two hits the nearer.
-/

namespace SpecScribe.Number

/-- Digits `d₁d₂…` and a position `point`: the number `0.d₁d₂… * 10 ^ point`. -/
structure Digits where
  digits : List Char
  point : Int

/-- `a * 10 ^ p` against `b / den`, both sides as naturals. -/
def gridSides (a : Nat) (p : Int) (b den : Nat) : Nat × Nat :=
  if p ≥ 0 then (a * pow10 p.toNat * den, b) else (a * den, b * pow10 (-p).toNat)

/-- The least `k` with `num / den < 10 ^ k`. -/
def decimalPoint (num den : Nat) : Int :=
  let guess : Int := ((Nat.toDigits 10 num).length : Int) - (Nat.toDigits 10 den).length
  let above (k : Int) : Bool :=
    let (l, r) := gridSides 1 k num den
    r < l
  if above guess then guess else if above (guess + 1) then guess + 1 else guess + 2

/-- The value, the half-way points below and above it, and their common denominator. -/
structure Interval where
  low : Nat
  mid : Nat
  high : Nat
  den : Nat
  closed : Bool

def Interval.ofMantissa (mant : Nat) (exp : Int) : Interval :=
  let scale (n : Nat) : Nat := if exp ≥ 2 then n * pow2 (exp - 2).toNat else n
  let den := if exp ≥ 2 then 1 else pow2 (2 - exp).toNat
  -- below a power of two the doubles lie twice as dense
  let below := if mant == pow2 52 && exp > -1074 then 1 else 2
  ⟨scale (4 * mant - below), scale (4 * mant), scale (4 * mant + 2), den, mant % 2 == 0⟩

/-- Whether `a * 10 ^ p` rounds to the double. -/
def Interval.has (v : Interval) (a : Nat) (p : Int) : Bool :=
  let (l, lo) := gridSides a p v.low v.den
  let (h, hi) := gridSides a p v.high v.den
  if v.closed then lo ≤ l && h ≤ hi else lo < l && h < hi

/-- The hit on the grid of step `10 ^ p`, if there is one. -/
def Interval.hit? (v : Interval) (p : Int) : Option Nat :=
  let (unit, mid) := gridSides 1 p v.mid v.den
  let a := mid / unit
  match v.has a p, v.has (a + 1) p with
  | true, true =>
    let r := mid % unit
    if 2 * r < unit || (2 * r == unit && a % 2 == 0) then some a else some (a + 1)
  | true, false => some a
  | false, true => some (a + 1)
  | false, false => none

/-- Tries grids of `n`, `n + 1`, … digits, `fuel` of them. -/
def shortestFrom (v : Interval) (point : Int) : Nat → Nat → Option (Nat × Int)
  | 0, _ => none
  | fuel + 1, n =>
    match v.hit? (point - n) with
    | some a => some (a, point - n)
    | none => shortestFrom v point fuel (n + 1)

def shortestDigits (mant : Nat) (exp : Int) : Digits :=
  let v := Interval.ofMantissa mant exp
  let (a, p) := (shortestFrom v (decimalPoint v.mid v.den) 17 1).getD (0, 0)
  let ds := Nat.toDigits 10 a
  ⟨(ds.reverse.dropWhile (· == '0')).reverse, p + ds.length⟩

structure NumberFormat where
  /-- Exponents in this half-open interval are written positionally. -/
  positionalFrom : Int
  positionalTo : Int
  /-- The least number of digits of a written exponent. -/
  exponentDigits : Nat
  nan : String
  infinity : String

/-- Positional between `1e-4` and `1e16`, exponents with a sign and two digits. -/
def plainFormat : NumberFormat := ⟨-4, 16, 2, "nan", "inf"⟩

def padStart (width : Nat) (fill : Char) (s : List Char) : List Char :=
  List.replicate (width - s.length) fill ++ s

/-- Digits with a decimal point, and at least one digit on either side of it. -/
def Digits.positional (d : Digits) : List Char :=
  if d.point ≤ 0 then
    '0' :: '.' :: List.replicate (-d.point).toNat '0' ++ d.digits
  else
    let n := d.point.toNat
    if d.digits.length ≤ n then d.digits ++ List.replicate (n - d.digits.length) '0' ++ ['.', '0']
    else d.digits.take n ++ '.' :: d.digits.drop n

def Digits.exponential (d : Digits) (f : NumberFormat) : List Char :=
  let e := d.point - 1
  let mantissa := match d.digits with
    | [] => ['0']
    | [c] => [c]
    | c :: r => c :: '.' :: r
  mantissa ++ 'e' :: (if e < 0 then '-' else '+')
    :: padStart f.exponentDigits '0' (Nat.toDigits 10 e.natAbs)

def NumberFormat.write (f : NumberFormat) (x : Float) : String :=
  match Binary.ofFloat x with
  | .nan => f.nan
  | .infinite negative => (if negative then "-" else "") ++ f.infinity
  | .finite negative mant exp =>
    let body :=
      if mant == 0 then ['0', '.', '0']
      else
        let d := shortestDigits mant exp
        if f.positionalFrom ≤ d.point - 1 ∧ d.point - 1 < f.positionalTo then d.positional
        else d.exponential f
    String.ofList (if negative then '-' :: body else body)

end SpecScribe.Number
