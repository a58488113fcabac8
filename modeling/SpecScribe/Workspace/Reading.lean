import SpecScribe.Text.Search
import SpecScribe.Workspace.Store

/-!
Texts of files. Line breaks are unified. A file of unknown encoding is read in the first encoding
that its bytes fit; since every byte is a character of Latin-1, that always ends with a text.
-/

namespace SpecScribe.Workspace

def decodeBytewise (bytes : List UInt8) : List Char := bytes.map fun b => Char.ofNat b.toNat

/-- The text of a file that is in UTF-8 or else in Latin-1. -/
def decodeAny (bytes : List UInt8) : List Char :=
  match Text.decodeUtf8 bytes with
  | .ok cs => cs
  | .error _ => decodeBytewise bytes

inductive Encoding where
  | utf8
  /-- UTF-8 behind a byte order mark, which is not part of the text and may be missing. -/
  | utf8Marked
  | latin1
  | windows1252
  deriving DecidableEq

namespace Encoding

def withoutMark : List UInt8 → List UInt8
  | 0xEF :: 0xBB :: 0xBF :: r => r
  | bytes => bytes

def isCutMark (bytes : List UInt8) : Bool := bytes == [0xEF] || bytes == [0xEF, 0xBB]

/-- The code points of the bytes from 0x80 to 0x9F in Windows-1252. Five of them have none. -/
def windowsPoints : List (Option Nat) :=
  [some 0x20AC, none, some 0x201A, some 0x192, some 0x201E, some 0x2026, some 0x2020, some 0x2021,
   some 0x2C6, some 0x2030, some 0x160, some 0x2039, some 0x152, none, some 0x17D, none,
   none, some 0x2018, some 0x2019, some 0x201C, some 0x201D, some 0x2022, some 0x2013, some 0x2014,
   some 0x2DC, some 0x2122, some 0x161, some 0x203A, some 0x153, none, some 0x17E, some 0x178]

def windowsChar? (b : UInt8) : Option Char :=
  if 0x80 ≤ b && b < 0xA0 then ((windowsPoints[b.toNat - 0x80]?).join).map Char.ofNat
  else some (Char.ofNat b.toNat)

def decode? : Encoding → List UInt8 → Option (List Char)
  | .utf8, bytes => (Text.decodeUtf8 bytes).toOption
  | .utf8Marked, bytes =>
    -- a cut mark is taken for a mark whose end has yet to come, so it is no text
    if isCutMark bytes then some [] else (Text.decodeUtf8 (withoutMark bytes)).toOption
  | .latin1, bytes => some (decodeBytewise bytes)
  | .windows1252, bytes => bytes.mapM windowsChar?

def tried : List Encoding := [.utf8, .utf8Marked, .latin1, .windows1252]

end Encoding

def Store.readUtf8 (s : Store) (p : Path) : Except Fault (List Char) := do
  let c ← Store.failing p (s.read p)
  match Text.decodeUtf8 c.toBytes with
  | .ok cs => return Text.unifyBreaks cs
  | .error d => .error (.undecodable d)

def Store.readAs? (s : Store) (p : Path) (e : Encoding) : Option (List Char) :=
  match s.read p with
  | .ok c => (e.decode? c.toBytes).map Text.unifyBreaks
  | .error _ => none

def Store.readText (s : Store) (p : Path) : Except Fault (List Char) :=
  match Encoding.tried.findSome? (s.readAs? p) with
  | some text => .ok text
  | none =>
    .error (.unreadable ("Could not read file with any supported encoding: " ++ p.toString))

end SpecScribe.Workspace
