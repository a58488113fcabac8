import SpecScribe.Datum.Access
import SpecScribe.Number.Fixed
import SpecScribe.Number.Reader

/-!
Loose data as values of another kind: numbers, sets of values, pairs and records. Each conversion
takes whatever can stand for such a value, and the fault says why something cannot.
-/

namespace SpecScribe.Datum

/-- The double nearest to a number; whole numbers beyond the doubles have none. -/
def doubleOf (n : Number) : Except Fault Float :=
  match n with
  | .int n =>
    let x := Number.ofInt n
    if x.isInf then .error .tooLargeForDouble else .ok x
  | .float x => .ok x

def toDouble (d : Datum) : Except Fault Float :=
  match d with
  | .text s =>
    match Number.readFloat? s.toList with
    | some x => .ok x
    | none => .error (.badValue ("could not convert string to float: " ++ Text.quote s))
  | d =>
    match d.number? with
    | some n => doubleOf n
    | none =>
      .error (.wrongType
        ("float() argument must be a string or a real number, not '" ++ d.kind ++ "'"))

/-- The whole number that a text spells; it may have at most 4300 digits. -/
def wholeOfText (s : String) : Except Fault Int :=
  match Number.wholeDigits? s.toList with
  | some (negative, ds) =>
    if 4300 < ds.length then .error (.tooManyDigits ds.length)
    else .ok (if negative then -(Number.ofDigits ds : Int) else Number.ofDigits ds)
  | none => .error (.badValue ("invalid literal for int() with base 10: " ++ Text.quote s))

def wholeOfDouble (x : Float) : Except Fault Int :=
  match Number.Binary.ofFloat x with
  | .nan => .error (.badValue "cannot convert float NaN to integer")
  | .infinite _ => .error .infiniteWhole
  | .finite negative mant exp => .ok (Number.wholePart negative mant exp)

def toWhole (d : Datum) : Except Fault Int :=
  match d with
  | .text s => wholeOfText s
  | .int n => .ok n
  | .bool b => .ok b.toInt
  | .float x => wholeOfDouble x
  | d =>
    .error (.wrongType
      ("int() argument must be a string, a bytes-like object or a real number, not '" ++ d.kind
        ++ "'"))

/-- A datum, or an empty one of another kind in place of what does not count as present. -/
def orEmpty (d empty : Datum) : Datum := if d.isTruthy then d else empty

/-- Whether a datum can be looked up: lists and records cannot. -/
def isKey : Datum → Bool
  | .list _ | .record _ => false
  | _ => true

/-- The different values among some data, each at its first place. -/
def distinctOf (xs : List Datum) : Except Fault (List Datum) := do
  match xs.find? (!·.isKey) with
  | some x => .error (.notAKey x.kind)
  | none => return xs.foldl (fun seen x => if seen.any (·.same x) then seen else seen ++ [x]) []

def distinct (d : Datum) : Except Fault (List Datum) := do distinctOf (← d.items)

def pair (d : Datum) : Except Fault (Datum × Datum) :=
  match d.items? with
  | none => .error (.notAPair d.kind)
  | some [a, b] => .ok (a, b)
  | some xs => .error (if xs.length < 2 then .shortPair xs.length else .longPair)

def entry (index : Nat) (d : Datum) : Except Fault (Datum × Datum) :=
  match d.items? with
  | none => .error (.notAnEntry index)
  | some [a, b] => if a.isKey then .ok (a, b) else .error (.notAKey a.kind)
  | some xs => .error (.badEntry index xs.length)

/-- Entries from the given index on; keys that are no texts are dropped. -/
def entries : Nat → List Datum → Except Fault Members
  | _, [] => .ok []
  | i, d :: r => do
    let (key, value) ← entry i d
    let rest ← entries (i + 1) r
    match key with
    | .text k => return (k, value) :: rest
    | _ => return rest

/-- A record, or what a list of entries spells. A later entry replaces an earlier one. -/
def toRecord (d : Datum) : Except Fault Members := do
  match d with
  | .record ms => return ms
  | d => return (← entries 0 (← d.items)).foldl (fun ms (k, v) => ms.set k v) []

def decimalText (places : Nat) (d : Datum) : Except Fault String :=
  match d.number? with
  | some n => (doubleOf n).map (Number.fixed places)
  | none => .error (.noDecimalText d.kind)

end SpecScribe.Datum
