import SpecScribe.Datum
import SpecScribe.Workspace.Glob
import SpecScribe.Workspace.Store

/-!
Which files and directories are passed over. The patterns are not checked when they are given: one
that is no text is a fault when it is tried.
-/

namespace SpecScribe.Workspace

def standardPatterns : List String :=
  ["*.pyc", "*.pyo", "*.pyd", "__pycache__/*", ".git/*", ".svn/*", ".hg/*", "node_modules/*",
   "venv/*", "env/*", ".env/*", "build/*", "dist/*", "target/*", "*.min.js", "*.bundle.js",
   "*.map", ".DS_Store", "Thumbs.db"]

def skippedDirs : List String :=
  [".git", ".svn", ".hg", "__pycache__", "node_modules", "venv", "env", ".env", "build", "dist",
   "target", ".pytest_cache", ".mypy_cache", ".coverage", ".tox"]

structure Filter where
  /-- The patterns that were asked for. -/
  exclude : Datum := .list []
  /-- The size above which a file is passed over. -/
  maxBytes : Number := .int (50 * 1024 * 1024)

namespace Filter

def patterns (f : Filter) : Except Fault (List Datum) :=
  let standard := standardPatterns.map Datum.text
  if f.exclude.isTruthy then
    match f.exclude with
    | .list ps => .ok (standard ++ ps)
    | d => .error (.wrongType ("can only concatenate list (not \"" ++ d.kind ++ "\") to list"))
  else .ok standard

def matches? (pattern : Datum) (texts : List String) : Except Fault Bool :=
  match pattern with
  | .text p => .ok (texts.any (globMatch p))
  | d => .error (.notAPath d.kind)

/-- Whether one of the patterns, tried in order, matches one of the texts. -/
def anyMatch (texts : List String) : List Datum → Except Fault Bool
  | [] => .ok false
  | p :: r => do
    if ← matches? p texts then return true
    anyMatch texts r

/-- The directories above a path, the nearest first. -/
def parents (p : Path) : List Path :=
  (List.range p.steps.length).map fun i => ⟨p.root, p.steps.take (p.steps.length - 1 - i)⟩

/-- The texts by which a path can match: itself and its name. -/
def spellings (p : Path) : List String := [p.toString, p.name]

/-- Whether a file is passed over: it cannot be reached, is too large, or it or a directory above
it matches a pattern. -/
def excludesFile (f : Filter) (s : Store) (p : Path) : Except Fault Bool :=
  match s.stat p with
  | .error .zeroInName => .error (.file .zeroInName p.toString)
  | .error _ => .ok true
  | .ok e =>
    let size := match e with
      | .file c => c.size
      | _ => 4096
    if f.maxBytes.lt (.int size) then .ok true
    else do anyMatch ((p :: parents p).flatMap spellings) (← f.patterns)

def excludesDir (f : Filter) (p : Path) : Except Fault Bool :=
  if skippedDirs.contains p.name then .ok true
  else do anyMatch (spellings p) (← f.patterns)

end Filter

end SpecScribe.Workspace
