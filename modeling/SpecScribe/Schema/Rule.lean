import SpecScribe.Number.Binary
import SpecScribe.Schema.FieldError
import SpecScribe.Number.Reader
import SpecScribe.Datum

/-!
Reading loose data as values of a fixed type. A rule turns one datum into a value or lists what is
wrong with it; a record is read field by field, and all refused fields are reported in the order
of the fields.

Assumption of lenient reading: where a text is asked for, a number or a truth value is written out,
and where a number is asked for, a text is read and a double cut off. The data models that records
are checked against do so in their first version; from their second version on they refuse such
data. The rules `text`, `integer`, `float` and `boolean` make this assumption, and all others only
through them. On data of the type that is asked for both versions agree.
-/

namespace SpecScribe.Schema

/-- A value, or the errors found on the way to it. -/
abbrev Checked (α : Type) := Except (List FieldError) α

abbrev Rule (α : Type) := Datum → Checked α

def refuse {α : Type} (r : Reason) : Checked α := .error [⟨[], r⟩]

def Checked.errors {α : Type} : Checked α → List FieldError
  | .ok _ => []
  | .error es => es

def Checked.under {α : Type} (step : Step) : Checked α → Checked α
  | .ok a => .ok a
  | .error es => .error (es.map (FieldError.under step))

def Checked.ensure {α : Type} (c : Checked α) (check : α → Option Reason) : Checked α :=
  match c with
  | .error es => .error es
  | .ok a =>
    match check a with
    | none => .ok a
    | some r => refuse r

def Rule.present {α : Type} (r : Datum → Checked α) : Rule α
  | .null => refuse .nullNotAllowed
  | d => r d

/-- A double cut off to its whole part; values without one give nothing. -/
def truncate? (x : Float) : Option Int :=
  match Number.Binary.ofFloat x with
  | .finite negative mant exp => some (Number.wholePart negative mant exp)
  | _ => none

/-- Whole numbers, read leniently: truth values count as zero and one, doubles are cut off, texts
are read. -/
def integer : Rule Int := Rule.present fun
  | .int n => .ok n
  | .bool b => .ok b.toInt
  | .float x =>
    match truncate? x with
    | some n => .ok n
    | none => refuse .notInteger
  | .text s =>
    match Number.readInt? s.toList with
    | some n => .ok n
    | none => refuse .notInteger
  | _ => refuse .notInteger

def float : Rule Float := Rule.present fun
  | .float x => .ok x
  | .int n => .ok (Number.ofInt n)
  | .bool b => .ok (Number.ofInt b.toInt)
  | .text s =>
    match Number.readFloat? s.toList with
    | some x => .ok x
    | none => refuse .notFloat
  | _ => refuse .notFloat

/-- Texts, read leniently: numbers and truth values are written out. -/
def text : Rule String := Rule.present fun
  | .list _ => refuse .notText
  | .record _ => refuse .notText
  | d => .ok d.plain

def trueWords : List String := ["1", "on", "t", "true", "y", "yes"]

def falseWords : List String := ["0", "off", "f", "false", "n", "no"]

def boolean : Rule Bool := Rule.present fun
  | .bool b => .ok b
  | .int n => if n == 1 then .ok true else if n == 0 then .ok false else refuse .notBool
  | .float x => if x == 1.0 then .ok true else if x == 0.0 then .ok false else refuse .notBool
  | .text s =>
    let w := String.ofList (Text.lower s.toList)
    if trueWords.contains w then .ok true
    else if falseWords.contains w then .ok false
    else refuse .notBool
  | _ => refuse .notBool

/-- Reads all items from index `i` on and collects all errors. -/
def readItems {α : Type} (rule : Rule α) : Nat → List Datum → Checked (List α)
  | _, [] => .ok []
  | i, d :: r =>
    match Checked.under (.index i) (rule d), readItems rule (i + 1) r with
    | .ok a, .ok as => .ok (a :: as)
    | c, rest => .error (c.errors ++ rest.errors)

def list {α : Type} (rule : Rule α) : Rule (List α) := Rule.present fun
  | .list items => readItems rule 0 items
  | _ => refuse .notList

/-- A pair given as two items, two characters or a record of two members. -/
def pair? : Datum → Option (Datum × Datum)
  | .list [a, b] => some (a, b)
  | .text s =>
    match s.toList with
    | [a, b] => some (.text a.toString, .text b.toString)
    | _ => none
  | .record [(a, _), (b, _)] => some (.text a, .text b)
  | _ => none

def setEntry (key value : Datum) : List (Datum × Datum) → List (Datum × Datum)
  | [] => [(key, value)]
  | (k, v) :: r => if k.same key then (k, value) :: r else (k, v) :: setEntry key value r

/-- The entries of a record, or of a list of pairs. Keys must not be lists or records. -/
def entries? : Datum → Option (List (Datum × Datum))
  | .record ms => some (ms.map fun (k, v) => (.text k, v))
  | .list items => items.foldlM (fun acc d => do
      let (k, v) ← pair? d
      match k with
      | .list _ => none
      | .record _ => none
      | _ => return setEntry k v acc) []
  | .text "" => some []
  | _ => none

def readEntries {α : Type} (rule : Rule α) : List (Datum × Datum) → Checked (List (String × α))
  | [] => .ok []
  | (k, v) :: r =>
    let entry : Checked (String × α) :=
      match Checked.under (.name "__key__") (text k) with
      | .error es => .error es
      | .ok key => (Checked.under (.name key) (rule v)).map (key, ·)
    match entry, readEntries rule r with
    | .ok e, .ok es => .ok (e :: es)
    | c, rest => .error (c.errors ++ rest.errors)

def table {α : Type} (rule : Rule α) : Rule (List (String × α)) := Rule.present fun d =>
  match entries? d with
  | some es => readEntries rule es
  | none => refuse .notRecord

/-- A text, or a number given as one. -/
def scalarText : Rule String := Rule.present fun d =>
  match text d with
  | .ok s => .ok s
  | .error es => .error (es ++ (integer d).errors ++ (float d).errors)

def record {α : Type} (read : Members → Checked α) : Rule α := Rule.present fun d =>
  match d with
  | .record ms => read ms
  | _ =>
    match (entries? d).bind fun es => es.mapM fun (k, v) =>
        match k with
        | .text s => some (s, v)
        | _ => none with
    | some ms => read ms
    | none => refuse .notRecord

def optional {α : Type} (rule : Rule α) : Rule (Option α)
  | .null => .ok none
  | d => (rule d).map some

def atLeast (limit : Int) (rule : Rule Int) : Rule Int := fun d =>
  Checked.ensure (rule d) fun n => if limit ≤ n then none else some (.below (toString limit))

def atMost (limit : Int) (rule : Rule Int) : Rule Int := fun d =>
  Checked.ensure (rule d) fun n => if n ≤ limit then none else some (.above (toString limit))

/-- A double within closed bounds; what is no number is below. -/
def between (low high : Float) (rule : Rule Float) : Rule Float := fun d =>
  Checked.ensure (rule d) fun x =>
    if !(low ≤ x) then some (.below (Number.plainFormat.write low))
    else if !(x ≤ high) then some (.above (Number.plainFormat.write high))
    else none

def required {α : Type} (ms : Members) (name : String) (rule : Rule α) : Checked α :=
  Checked.under (.name name) <|
    match ms.get? name with
    | none => refuse .missing
    | some d => rule d

def withDefault {α : Type} (ms : Members) (name : String) (rule : Rule α) (default : α) :
    Checked α :=
  match ms.get? name with
  | none => .ok default
  | some d => Checked.under (.name name) (rule d)

/-- A condition on a field, tested when the field is given and was read. -/
def ensureGiven {α : Type} (ms : Members) (name : String) (c : Checked α)
    (check : α → Option String) : Checked α :=
  match ms.get? name with
  | none => c
  | some _ =>
    match c with
    | .error es => .error es
    | .ok a =>
      match check a with
      | none => .ok a
      | some m => .error [⟨[.name name], .other m⟩]

end SpecScribe.Schema
