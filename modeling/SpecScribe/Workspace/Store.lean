import SpecScribe.Fault
import SpecScribe.Workspace.Path

/-!
A store of files: directories, files and links. A path is followed step by step, from the root if it
is absolute and else from the working directory, and a link is replaced by its target, at most forty
times.
-/

namespace SpecScribe.Workspace

/-- The bytes of a file, and a number of zero bytes behind them. -/
structure Content where
  bytes : List UInt8
  zeros : Nat := 0
  deriving DecidableEq, Inhabited

namespace Content

def size (c : Content) : Nat := c.bytes.length + c.zeros

def toBytes (c : Content) : List UInt8 := c.bytes ++ List.replicate c.zeros 0

def take (n : Nat) (c : Content) : List UInt8 :=
  c.bytes.take n ++ List.replicate (min c.zeros (n - c.bytes.length)) 0

end Content

/-- What stands under a name. The entries of a directory are in the order in which it lists them. -/
inductive Entry where
  | file (content : Content)
  | link (target : String)
  | dir (entries : List (String × Entry))
  deriving Inhabited

namespace Entry

def isDir : Entry → Bool
  | .dir _ => true
  | _ => false

def entries : Entry → List (String × Entry)
  | .dir es => es
  | _ => []

/-- The entry at a place, given as the names on the way; links are not followed. -/
def at? (e : Entry) : List String → Option Entry
  | [] => some e
  | name :: rest => (e.entries.lookup name).bind fun c => c.at? rest

def setName (name : String) (e : Entry) : List (String × Entry) → List (String × Entry)
  | [] => [(name, e)]
  | (n, old) :: r =>
    if name == n then (n, e) :: r
    else if name < n then (name, e) :: (n, old) :: r
    else (n, old) :: setName name e r

/-- Puts an entry at a place; directories on the way are made. -/
def put (e : Entry) : List String → Entry → Entry
  | [], new => new
  | name :: rest, new =>
    let inner := (e.entries.lookup name).getD (.dir [])
    .dir (setName name (put inner rest new) e.entries)

end Entry

structure Store where
  root : Entry := .dir []
  /-- The place of the working directory. -/
  cwd : List String := []
  deriving Inhabited

namespace Store

/-- Follows steps from a place to the place they lead to. The last name need not exist: then
`missing` decides what it leads to. -/
def follow (s : Store) (missing : List String → Except FileFault (List String)) :
    (links : Nat) → (place : List String) → (steps : List String) → Except FileFault (List String)
  | _, place, [] => .ok place
  | links, place, step :: rest =>
    match s.root.at? place with
    | some (.dir es) =>
      if step == ".." then follow s missing links place.dropLast rest
      else
        match es.lookup step with
        | none => if rest.isEmpty then missing (place ++ [step]) else .error .notFound
        | some (.link target) =>
          match links with
          | 0 => .error .tooManyLinks
          | links + 1 =>
            let t := Path.ofString target
            follow s missing links (if t.root == "" then place else []) (t.steps ++ rest)
        | some _ => follow s missing links (place ++ [step]) rest
    | _ => .error .notDirectory
termination_by links _ steps => (links, steps.length)

def maxLinks : Nat := 40

def start (s : Store) (p : Path) : List String := if p.root == "" then s.cwd else []

/-- Follows a path. A path with a zero character leads nowhere. -/
def resolveBy (s : Store) (missing : List String → Except FileFault (List String)) (p : Path) :
    Except FileFault (List String) :=
  if p.steps.any (·.toList.contains '\x00') then .error .zeroInName
  else s.follow missing maxLinks (s.start p) p.steps

def resolve (s : Store) (p : Path) : Except FileFault (List String) :=
  s.resolveBy (fun _ => .error .notFound) p

def stat (s : Store) (p : Path) : Except FileFault Entry := do
  let place ← s.resolve p
  match s.root.at? place with
  | some e => return e
  | none => .error .notFound

def has (s : Store) (p : Path) : Bool := (s.stat p).toBool

def isDir (s : Store) (p : Path) : Bool :=
  match s.stat p with
  | .ok e => e.isDir
  | .error _ => false

def isFile (s : Store) (p : Path) : Bool :=
  match s.stat p with
  | .ok (.file _) => true
  | _ => false

def failing {α : Type} (p : Path) : Except FileFault α → Except Fault α
  | .ok a => .ok a
  | .error f => .error (.file f p.toString)

def read (s : Store) (p : Path) : Except FileFault Content := do
  match ← s.stat p with
  | .file c => return c
  | _ => .error .isDirectory

def makeOne (s : Store) (p : Path) : Except FileFault Store := do
  if p.steps.isEmpty || p.name == ".." then
    let _ ← s.stat p
    .error .exists
  else
    let place ← s.resolve p.parent
    match s.root.at? place with
    | some (.dir es) =>
      if (es.lookup p.name).isSome then .error .exists
      else return { s with root := s.root.put (place ++ [p.name]) (.dir []) }
    | _ => .error .notDirectory

/-- Makes a directory and those above it, given as the steps from the last one up. A directory
that is there already is left as it is. What was made before a fault stays. -/
def makeSteps (s : Store) (root : String) : (up : List String) → Except Fault Unit × Store
  | [] => (.ok (), s)
  | name :: up =>
    let p : Path := ⟨root, (name :: up).reverse⟩
    match s.makeOne p with
    | .ok s' => (.ok (), s')
    | .error .notFound =>
      match makeSteps s root up with
      | (.error f, s') => (.error f, s')
      | (.ok _, s') =>
        match s'.makeOne p with
        | .ok s'' => (.ok (), s'')
        | .error f => (if s'.isDir p then .ok () else .error (.file f p.toString), s')
    | .error f => (if s.isDir p then .ok () else .error (.file f p.toString), s)

def makeDirs (s : Store) (p : Path) : Except Fault Unit × Store :=
  s.makeSteps p.root p.steps.reverse

def writeFile (s : Store) (p : Path) (bytes : List UInt8) : Except FileFault Store := do
  let place ← s.resolveBy .ok p
  match s.root.at? place with
  | some (.dir _) => .error .isDirectory
  | _ => return { s with root := s.root.put place (.file ⟨bytes, 0⟩) }

def writeText (s : Store) (p : Path) (text : String) : Except Fault Unit × Store :=
  match s.makeDirs p.parent with
  | (.error f, s') => (.error f, s')
  | (.ok _, s') =>
    match s'.writeFile p (Text.encodeUtf8 text.toList) with
    | .ok s'' => (.ok (), s'')
    | .error f => (.error (.file f p.toString), s')

end Store

end SpecScribe.Workspace
