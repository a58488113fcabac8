import SpecScribe.Workspace.Store

/-!
Going through a directory from the top. A directory comes before those below it, and names are in
their order. A link to a directory is listed with the directories but not entered.
-/

namespace SpecScribe.Workspace

/-- A visited directory: its path and the names of the files in it. -/
structure Visit where
  path : Path
  files : List String
  deriving DecidableEq

namespace Visit

def paths (v : Visit) : List Path := v.files.map v.path.child

end Visit

/-- What a walk has visited, and the fault that ended it. -/
structure Walk where
  visits : List Visit := []
  fault : Option Fault := none

namespace Walk

def append (a : Walk) (b : Walk) : Walk :=
  match a.fault with
  | some _ => a
  | none => ⟨a.visits ++ b.visits, b.fault⟩

end Walk

namespace Store

def isDirAt (s : Store) (path : Path) (name : String) : Entry → Bool
  | .file _ => false
  | .dir _ => true
  | .link _ => s.isDir (path.child name)

def choose (keep : Path → Except Fault Bool) (path : Path) :
    List String → Except Fault (List String)
  | [] => .ok []
  | n :: r => do
    let kept ← keep (path.child n)
    let rest ← choose keep path r
    return if kept then n :: rest else rest

mutual

/-- Walks a directory. Of the directories in it, those that `keep` refuses are not entered; the
test is made for all of them before the files are visited. -/
def walkEntry (s : Store) (keep : Path → Except Fault Bool) (path : Path) : Entry → Walk
  | .dir es =>
    let names := (es.filter fun (n, e) => s.isDirAt path n e).map (·.1)
    match choose keep path names with
    | .error f => ⟨[], some f⟩
    | .ok kept =>
      let files := (es.filter fun (n, e) => !s.isDirAt path n e).map (·.1)
      Walk.append ⟨[⟨path, files⟩], none⟩ (walkEntries s keep path kept es)
  | .file _ => {}
  | .link _ => {}

def walkEntries (s : Store) (keep : Path → Except Fault Bool) (path : Path) (kept : List String) :
    List (String × Entry) → Walk
  | [] => {}
  | (n, e) :: r =>
    let here := if kept.contains n then walkEntry s keep (path.child n) e else {}
    here.append (walkEntries s keep path kept r)

end

def walk (s : Store) (keep : Path → Except Fault Bool) (path : Path) : Walk :=
  match s.stat path with
  | .ok e => s.walkEntry keep path e
  | .error .zeroInName => ⟨[], some (.file .zeroInName path.toString)⟩
  | .error _ => {}

mutual

/-- The paths below a directory whose names satisfy a test, directory by directory. A link to
nothing is left out. -/
def findEntry (s : Store) (test : String → Bool) (path : Path) : Entry → List Path
  | .dir es =>
    ((es.filter fun (n, _) => test n && s.has (path.child n)).map fun (n, _) => path.child n)
      ++ findEntries s test path es
  | .file _ => []
  | .link _ => []

def findEntries (s : Store) (test : String → Bool) (path : Path) :
    List (String × Entry) → List Path
  | [] => []
  | (n, e) :: r => findEntry s test (path.child n) e ++ findEntries s test path r

end

def find (s : Store) (ending : String) (path : Path) : List Path :=
  match s.stat path with
  | .ok e => s.findEntry (fun n => ending.toList.isSuffixOf n.toList) path e
  | .error _ => []

end Store

end SpecScribe.Workspace
