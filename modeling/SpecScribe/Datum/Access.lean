import SpecScribe.Datum
import SpecScribe.Fault
import SpecScribe.Text.Case
import SpecScribe.Text.Search

/-!
Looking into loose data. Each function says what it needs, and the fault names the kind of data
that was found instead.
-/

namespace SpecScribe.Datum

/-- A member of a record, or the given value if the record lacks it. -/
def member (d : Datum) (key : String) (default : Datum := .null) : Except Fault Datum :=
  match d with
  | .record ms => .ok ((Members.get? ms key).getD default)
  | d => .error (.noMember d.kind "get")

def members (d : Datum) : Except Fault Members :=
  match d with
  | .record ms => .ok ms
  | d => .error (.noMember d.kind "items")

def keys (d : Datum) : Except Fault (List String) :=
  match d with
  | .record ms => .ok (ms.map (·.1))
  | d => .error (.noMember d.kind "keys")

/-- What can be gone through one by one: items of a list, characters of a text, keys of a
record. -/
def items? : Datum → Option (List Datum)
  | .list xs => some xs
  | .text s => some (s.toList.map fun c => .text c.toString)
  | .record ms => some (ms.map fun m => .text m.1)
  | _ => none

def items (d : Datum) : Except Fault (List Datum) :=
  match d.items? with
  | some xs => .ok xs
  | none => .error (.notIterable d.kind)

def firstItems (n : Nat) (d : Datum) : Except Fault (List Datum) :=
  match d with
  | .list xs => .ok (xs.take n)
  | .text s => .ok ((s.toList.take n).map fun c => .text c.toString)
  | .record _ => .error (.notAKey "slice")
  | d => .error (.notIndexable d.kind)

/-- The texts of all items from index `i` on. -/
def texts : Nat → List Datum → Except Fault (List String)
  | _, [] => .ok []
  | i, .text s :: r => (texts (i + 1) r).map (s :: ·)
  | i, d :: _ => .error (.joinItem i d.kind)

def joined (separator : String) (d : Datum) : Except Fault String :=
  match d.items? with
  | some xs => (texts 0 xs).map separator.intercalate
  | none => .error .notJoinable

def values (d : Datum) : Except Fault (List Datum) :=
  match d with
  | .record ms => .ok (ms.map (·.2))
  | d => .error (.noMember d.kind "values")

def lowered (d : Datum) : Except Fault String :=
  match d with
  | .text s => .ok (String.ofList (Text.lower s.toList))
  | d => .error (.noMember d.kind "lower")

end SpecScribe.Datum

namespace SpecScribe.Text

def occursIn (pat s : String) : Bool := contains pat.toList s.toList

def stack (ls : List String) : String := "\n".intercalate ls

/-- Lines put under each other, or another text if there are none. -/
def stackOr (default : String) (ls : List String) : String :=
  if ls.isEmpty then default else stack ls

end SpecScribe.Text
