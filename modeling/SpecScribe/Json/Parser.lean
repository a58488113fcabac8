import SpecScribe.Json.Error
import SpecScribe.Datum

/-!
Reading JSON. The rest of the text travels with its offset, so that a failure can name its place.
Numbers beyond JSON are accepted as `NaN`, `Infinity` and `-Infinity`; a whole number may have
at most 4300 digits. A repeated member replaces the value and keeps the first place.
-/

namespace SpecScribe.Json

/-- The rest of a text and its offset in the whole. -/
structure Input where
  offset : Nat
  rest : List Char

abbrev Result (α : Type) := Except Stop (α × Input)

def fail {α : Type} (cause : Cause) (offset : Nat) : Except Stop α :=
  .error (.malformed cause offset)

def Input.skip (i : Input) (n : Nat) : Input := ⟨i.offset + n, i.rest.drop n⟩

def isSpace (c : Char) : Bool := c == ' ' || c == '\t' || c == '\n' || c == '\r'

def Input.skipSpace (i : Input) : Input := i.skip (i.rest.takeWhile isSpace).length

def hexValue? (c : Char) : Option Nat :=
  if c.isDigit then some (c.toNat - 48)
  else if 'a' ≤ c && c ≤ 'f' then some (c.toNat - 87)
  else if 'A' ≤ c && c ≤ 'F' then some (c.toNat - 55)
  else none

def hex4? : List Char → Option Nat
  | a :: b :: c :: d :: _ => do
    let a ← hexValue? a
    let b ← hexValue? b
    let c ← hexValue? c
    let d ← hexValue? d
    return ((a * 16 + b) * 16 + c) * 16 + d
  | _ => none

def simpleEscape? : Char → Option Char
  | '"' => some '"'
  | '\\' => some '\\'
  | '/' => some '/'
  | 'b' => some (Char.ofNat 8)
  | 'f' => some (Char.ofNat 12)
  | 'n' => some '\n'
  | 'r' => some '\r'
  | 't' => some '\t'
  | _ => none

/-- The character of a code unit; half of a pair that stands alone becomes a replacement
character. -/
def unitChar (n : Nat) : Char :=
  if 0xD800 ≤ n && n < 0xE000 then Char.ofNat 0xFFFD else Char.ofNat n

/-- What an escape with code units spells, and how many characters it takes behind the `u`. -/
def unicodeEscape (rest : List Char) (offset : Nat) : Except Stop (Char × Nat) :=
  -- four digits are needed, and something must follow them
  if rest.length ≤ 4 then fail .unicodeEscape (offset - 1)
  else match hex4? rest with
    | none => fail .unicodeEscape (offset - 1)
    | some high =>
      match rest.drop 4 with
      | '\\' :: 'u' :: more =>
        if 0xD800 ≤ high && high < 0xDC00 && more.length > 4 then
          match hex4? more with
          | none => fail .unicodeEscape (offset + 5)
          | some low =>
            if 0xDC00 ≤ low && low < 0xE000 then
              .ok (Char.ofNat (0x10000 + (high - 0xD800) * 0x400 + (low - 0xDC00)), 10)
            else .ok (unitChar high, 4)
        else .ok (unitChar high, 4)
      | _ => .ok (unitChar high, 4)

/-- The characters of a text up to its closing quote. `skip` characters were read already, and
`start` is the offset of the opening quote. -/
def textBody (start : Nat) : Nat → Nat → List Char → Except Stop (List Char × Input)
  | _, _, [] => fail .unterminatedText start
  | skip + 1, offset, _ :: r => textBody start skip (offset + 1) r
  | 0, offset, c :: r =>
    if c == '"' then .ok ([], ⟨offset + 1, r⟩)
    else if c == '\\' then
      match r with
      | [] => fail .unterminatedText start
      | e :: more =>
        if e == 'u' then
          match unicodeEscape more (offset + 2) with
          | .error s => .error s
          | .ok (ch, n) =>
            (textBody start (n + 1) (offset + 1) r).map fun (cs, i) => (ch :: cs, i)
        else match simpleEscape? e with
          | none => fail .escape offset
          | some ch => (textBody start 1 (offset + 1) r).map fun (cs, i) => (ch :: cs, i)
    else if c.toNat < 0x20 then fail .controlCharacter offset
    else (textBody start 0 (offset + 1) r).map fun (cs, i) => (c :: cs, i)

def readText (i : Input) : Result String :=
  (textBody (i.offset - 1) 0 i.offset i.rest).map fun (cs, i) => (String.ofList cs, i)

def natOf (ds : List Char) : Nat := ds.foldl (fun n c => 10 * n + (c.toNat - 48)) 0

/-- The digits of a fraction: none if a point is not followed by one. -/
def fractionDigits : List Char → List Char
  | '.' :: r => r.takeWhile Char.isDigit
  | _ => []

/-- The sign of an exponent: whether it is negative, its size, and what follows. -/
def exponentSign : List Char → Bool × Nat × List Char
  | '-' :: b => (true, 1, b)
  | '+' :: b => (false, 1, b)
  | b => (false, 0, b)

def exponentPart : List Char → Int × Nat
  | e :: r =>
    if e == 'e' || e == 'E' then
      let (negative, signs, body) := exponentSign r
      let ds := body.takeWhile Char.isDigit
      if ds.isEmpty then (0, 0)
      else (if negative then -(natOf ds : Int) else natOf ds, 1 + signs + ds.length)
    else (0, 0)
  | [] => (0, 0)

/-- The digits before the point: a zero at the start stands alone. -/
def wholeDigits : List Char → List Char
  | '0' :: _ => ['0']
  | body => body.takeWhile Char.isDigit

/-- The number whose digits stand at the start of `body`; `i` is its place, the sign included. -/
def readDigits (negative : Bool) (body : List Char) (i : Input) : Result Datum :=
  let whole := wholeDigits body
  if whole.isEmpty then fail .value i.offset
  else
    let behind := body.drop whole.length
    let fs := fractionDigits behind
    let fsize := if fs.isEmpty then 0 else fs.length + 1
    let (e, esize) := exponentPart (behind.drop fsize)
    let next := i.skip ((if negative then 1 else 0) + whole.length + fsize + esize)
    if fsize + esize == 0 then
      if whole.length > 4300 then .error (.tooManyDigits whole.length)
      else .ok (.int (if negative then -(natOf whole : Int) else natOf whole), next)
    else .ok (.float (Number.nearestDecimal negative (natOf (whole ++ fs)) (e - fs.length)), next)

/-- The number at the start of the rest, which may begin with a minus sign. -/
def readNumber (i : Input) : Result Datum :=
  match i.rest with
  | '-' :: r => readDigits true r i
  | r => readDigits false r i

def wordValues : List (String × Datum) :=
  [("null", .null), ("true", .bool true), ("false", .bool false),
   ("NaN", .float (Float.ofBits 0x7ff8000000000000)),
   ("Infinity", .float (Float.ofBits 0x7ff0000000000000)),
   ("-Infinity", .float (Float.ofBits 0xfff0000000000000))]

def wordAt? (t : List Char) : Option (String × Datum) :=
  wordValues.find? fun w => w.1.toList.isPrefixOf t

def readScalar (i : Input) : Result Datum :=
  match wordAt? i.rest with
  | some (w, v) => .ok (v, i.skip w.length)
  | none => readNumber i

mutual

/-- One value. The fuel bounds the number of nested and following values. -/
def readValue : Nat → Input → Result Datum
  | 0, i => fail .value i.offset
  | fuel + 1, i =>
    match i.rest with
    | '"' :: _ => (readText (i.skip 1)).map fun (s, i) => (.text s, i)
    | '\x7b' :: _ =>
      let i := (i.skip 1).skipSpace
      match i.rest with
      | '\x7d' :: _ => .ok (.record [], i.skip 1)
      | _ => (readMembers fuel [] i).map fun (ms, i) => (.record ms, i)
    | '[' :: _ =>
      let i := (i.skip 1).skipSpace
      match i.rest with
      | ']' :: _ => .ok (.list [], i.skip 1)
      | _ => (readItems fuel i).map fun (xs, i) => (.list xs, i)
    | _ => readScalar i

def readItems : Nat → Input → Result (List Datum)
  | 0, i => fail .value i.offset
  | fuel + 1, i =>
    match readValue fuel i with
    | .error s => .error s
    | .ok (v, i) =>
      let i := i.skipSpace
      match i.rest with
      | ']' :: _ => .ok ([v], i.skip 1)
      | ',' :: _ => (readItems fuel (i.skip 1).skipSpace).map fun (vs, i) => (v :: vs, i)
      | _ => fail .comma i.offset

/-- The members of a record up to its closing brace, added to those read before. -/
def readMembers : Nat → Members → Input → Result Members
  | 0, _, i => fail .propertyName i.offset
  | fuel + 1, acc, i =>
    match i.rest with
    | '"' :: _ =>
      match readText (i.skip 1) with
      | .error s => .error s
      | .ok (key, i) =>
        let i := i.skipSpace
        match i.rest with
        | ':' :: _ =>
          match readValue fuel (i.skip 1).skipSpace with
          | .error s => .error s
          | .ok (v, i) =>
            let acc := acc.set key v
            let i := i.skipSpace
            match i.rest with
            | '\x7d' :: _ => .ok (acc, i.skip 1)
            | ',' :: _ => readMembers fuel acc (i.skip 1).skipSpace
            | _ => fail .comma i.offset
        | _ => fail .colon i.offset
    | _ => fail .propertyName i.offset

end

/-- A value with nothing but space behind it. -/
def alone : Result Datum → Except Stop Datum
  | .error s => .error s
  | .ok (v, i) =>
    let i := i.skipSpace
    if i.rest.isEmpty then .ok v else fail .extraData i.offset

/-- The value that a whole text spells. -/
def read (text : List Char) : Except Stop Datum :=
  if text.head? == some (Char.ofNat 0xFEFF) then fail .byteOrderMark 0
  else alone (readValue (2 * text.length + 2) (Input.skipSpace ⟨0, text⟩))

end SpecScribe.Json
