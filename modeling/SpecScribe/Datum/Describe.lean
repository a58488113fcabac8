import SpecScribe.Datum

/-!
Typed values as loose data, and loose data as typed values where anything else counts as empty.
-/

namespace SpecScribe

/-- Values that can be written as data. -/
class ToDatum (α : Type) where
  toDatum : α → Datum

export ToDatum (toDatum)

instance : ToDatum Datum := ⟨id⟩

instance : ToDatum String := ⟨.text⟩

instance : ToDatum Bool := ⟨.bool⟩

instance : ToDatum Int := ⟨.int⟩

instance : ToDatum Nat := ⟨fun n => .int n⟩

instance : ToDatum Float := ⟨.float⟩

instance : ToDatum Unit := ⟨fun _ => .null⟩

instance : ToDatum Number where
  toDatum
    | .int n => .int n
    | .float x => .float x

instance {α : Type} [ToDatum α] : ToDatum (List α) := ⟨fun xs => .list (xs.map toDatum)⟩

instance {α : Type} [ToDatum α] : ToDatum (Option α) where
  toDatum
    | none => .null
    | some a => toDatum a

namespace Datum

def ofPairs {α : Type} [ToDatum α] (ms : List (String × α)) : Datum :=
  .record (ms.map fun (k, v) => (k, toDatum v))

def get? (d : Datum) (key : String) : Option Datum :=
  match d with
  | .record ms => Members.get? ms key
  | _ => none

def get (d : Datum) (key : String) : Datum := (d.get? key).getD .null

def toText : Datum → String
  | .text s => s
  | _ => ""

def textOr (default : String) : Datum → String
  | .text s => s
  | _ => default

def text? : Datum → Option String
  | .text s => some s
  | _ => none

def toInt : Datum → Int
  | .int n => n
  | .bool b => b.toInt
  | _ => 0

def toNumber (d : Datum) : Number := d.number?.getD (.int 0)

def toItems : Datum → List Datum
  | .list xs => xs
  | _ => []

def toMembers : Datum → Members
  | .record ms => ms
  | _ => []

def toTexts (d : Datum) : List String := d.toItems.map toText

end Datum

end SpecScribe
