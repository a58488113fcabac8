import SpecScribe.Number.Binary

/-!
UTF-8. Decoding stops at the first bytes that belong to no character and says where they are and
what is wrong with them; a lenient reading puts a replacement character in their place.
-/

namespace SpecScribe.Text

inductive Utf8Fault where
  | startByte
  | continuation
  | endOfData
  deriving DecidableEq

def Utf8Fault.message : Utf8Fault → String
  | .startByte => "invalid start byte"
  | .continuation => "invalid continuation byte"
  | .endOfData => "unexpected end of data"

/-- The first bytes that cannot be read: where they start, how many they are, the first of them. -/
structure Utf8Defect where
  position : Nat
  size : Nat
  byte : UInt8
  fault : Utf8Fault
  deriving DecidableEq

def hexByte (b : UInt8) : List Char :=
  [Nat.digitChar (b.toNat / 16), Nat.digitChar (b.toNat % 16)]

def Utf8Defect.message (d : Utf8Defect) : String :=
  let place :=
    if d.size == 1 then
      "byte 0x" ++ String.ofList (hexByte d.byte) ++ " in position " ++ toString d.position
    else
      "bytes in position " ++ toString d.position ++ "-" ++ toString (d.position + d.size - 1)
  "'utf-8' codec can't decode " ++ place ++ ": " ++ d.fault.message

/-- The result of looking at the first character of a sequence of bytes. -/
inductive Utf8Step where
  | char (c : Char) (size : Nat)
  | bad (size : Nat) (fault : Utf8Fault)

def isContinuation (b : UInt8) : Bool := 0x80 ≤ b && b < 0xC0

/-- Whether `b` may follow the first byte `a` of a character of three or four bytes. -/
def mayFollow (a b : UInt8) : Bool :=
  isContinuation b &&
    (if a == 0xE0 then 0xA0 ≤ b
     else if a == 0xED then b < 0xA0
     else if a == 0xF0 then 0x90 ≤ b
     else if a == 0xF4 then b < 0x90
     else true)

def joinBits (a : Nat) (bs : List UInt8) : Char :=
  Char.ofNat (bs.foldl (fun n b => n * 64 + (b.toNat - 0x80)) a)

/-- Reads one character that starts with byte `a`. -/
def utf8Step (a : UInt8) (rest : List UInt8) : Utf8Step :=
  if a < 0x80 then .char (Char.ofNat a.toNat) 1
  else if a < 0xC2 then .bad 1 .startByte
  else if a < 0xE0 then
    match rest with
    | [] => .bad 1 .endOfData
    | b :: _ =>
      if isContinuation b then .char (joinBits (a.toNat - 0xC0) [b]) 2 else .bad 1 .continuation
  else if a < 0xF0 then
    match rest with
    | [] => .bad 1 .endOfData
    | [b] => if mayFollow a b then .bad 2 .endOfData else .bad 1 .continuation
    | b :: c :: _ =>
      if !mayFollow a b then .bad 1 .continuation
      else if isContinuation c then .char (joinBits (a.toNat - 0xE0) [b, c]) 3
      else .bad 2 .continuation
  else if a < 0xF5 then
    match rest with
    | [] => .bad 1 .endOfData
    | [b] => if mayFollow a b then .bad 2 .endOfData else .bad 1 .continuation
    | [b, c] =>
      if !mayFollow a b then .bad 1 .continuation
      else if isContinuation c then .bad 3 .endOfData else .bad 2 .continuation
    | b :: c :: d :: _ =>
      if !mayFollow a b then .bad 1 .continuation
      else if !isContinuation c then .bad 2 .continuation
      else if isContinuation d then .char (joinBits (a.toNat - 0xF0) [b, c, d]) 4
      else .bad 3 .continuation
  else .bad 1 .startByte

/-- Decodes the bytes at `position`, skipping the first `skip` of them. -/
def decodeFrom (position : Nat) : Nat → List UInt8 → Except Utf8Defect (List Char)
  | _, [] => .ok []
  | skip + 1, _ :: r => decodeFrom (position + 1) skip r
  | 0, a :: r =>
    match utf8Step a r with
    | .char c size => (decodeFrom (position + 1) (size - 1) r).map (c :: ·)
    | .bad size fault => .error ⟨position, size, a, fault⟩

/-- The text that the bytes spell, or the first bytes that spell nothing. -/
def decodeUtf8 (bytes : List UInt8) : Except Utf8Defect (List Char) := decodeFrom 0 0 bytes

/-- The text that the bytes spell, with a replacement character for what spells nothing. -/
def decodeLenient : Nat → List UInt8 → List Char
  | _, [] => []
  | skip + 1, _ :: r => decodeLenient skip r
  | 0, a :: r =>
    match utf8Step a r with
    | .char c size => c :: decodeLenient (size - 1) r
    | .bad size _ => Char.ofNat 0xFFFD :: decodeLenient (size - 1) r

def encodeUtf8 (s : List Char) : List UInt8 := s.flatMap String.utf8EncodeChar

def byteSize (s : List Char) : Nat := Number.total (s.map Char.utf8Size)

end SpecScribe.Text
