import SpecScribe.Datum.Access
import SpecScribe.Datum.Describe
import SpecScribe.Language
import SpecScribe.Shell.Basic
import SpecScribe.Text.Blank

/-!
Installing the parsers of languages. A language that is unknown is an error, but only packages that
were tried and failed count as failures.
-/

namespace SpecScribe.Install

open Shell

def packageName (l : Language) : String := "tree-sitter-" ++ l.name

def aliases : List (String × Language) :=
  [("js", .javascript), ("ts", .typescript), ("py", .python), ("c++", .cpp)]

/-- What can be seen of the installed packages. Looking can fail. -/
structure Site where
  /-- Whether the parser of a language is there once the given commands have been run. -/
  hasParser : List (List String) → String → Except Fault Bool
  /-- The version of the parser library. -/
  version : Except Fault Unit

structure Installer where
  force : Bool := false
  /-- The languages that were tried, with their success, in the order of the first try. -/
  tried : List (String × Bool) := []
  errors : List String := []

def Site.isReady (s : Site) : Bool :=
  match s.version with
  | .ok _ => true
  | .error _ => false

def Site.finds (s : Site) (done : List (List String)) (name : String) : Bool :=
  match s.hasParser done name with
  | .ok b => b
  | .error _ => false

/-- The language that a name stands for. -/
def normalize (name : String) : Option Language :=
  let s := String.ofList (Text.strip (Text.lower name.toList))
  match aliases.lookup s with
  | some l => some l
  | none => Language.ofName? s

def normalizeDatum : Datum → Except Fault (Option Language)
  | .text s => .ok (normalize s)
  | d => .error (.noMember d.kind "lower")

def hasFastManager : Run Bool := do
  match ← attempt (mustCommand ["uv", "--version"]) with
  | .ok _ => return true
  | .error (.commandFailed _) => return false
  | .error f => if f.family == "FileNotFoundError" then return false else throw f

def runManager (force : Bool) (package : String) : Run Finished := do
  if ← hasFastManager then command ["uv", "add", package]
  else
    let extra := if force then ["--force-reinstall", "--no-deps"] else []
    command ([(← get).interpreter, "-m", "pip", "install", package] ++ extra)

def installPackage (force : Bool) (package : String) : Run (Bool × String) := do
  match ← attempt (runManager force package) with
  | .ok r =>
    if r.code == 0 then return (true, "Installed " ++ package)
    else return (false, "Failed to install " ++ package ++ ": " ++ r.err)
  | .error .commandTimedOut => return (false, "Installation of " ++ package ++ " timed out")
  | .error f => return (false, "Error installing " ++ package ++ ": " ++ f.message)

/-- Installs the package of a language given by its exact name. -/
def installNamed (force : Bool) (name : String) : Run (Bool × String) :=
  match Language.ofName? name with
  | some l => installPackage force (packageName l)
  | none => return (false, "No package mapping for language: " ++ name)

namespace Installer

def addError (i : Installer) (e : String) : Installer := { i with errors := i.errors ++ [e] }

def note (i : Installer) (name : String) (success : Bool) : Installer :=
  { i with tried := setKey name success i.tried }

/-- Installs the parser of a language, unless it is there. -/
def installLanguage (site : Site) (i : Installer) (name : Datum) : Run (Bool × Installer) := do
  match ← normalizeDatum name with
  | none => return (false, i.addError ("Unknown language: " ++ name.plain))
  | some l =>
    if !i.force && site.finds (← get).commands l.name then return (true, i.note l.name true)
    else
      let (success, message) ← installPackage i.force (packageName l)
      let i' := i.note l.name success
      return (success, if success then i' else i'.addError (l.name ++ ": " ++ message))

def pause : Number := .float 0.5

def resultName : Datum → Except Fault String
  | .list _ => .error (.notAKey "list")
  | .record _ => .error (.notAKey "dict")
  | d => .ok d.plain

/-- Installs the parsers of several languages. One that cannot even be tried is an error. -/
def installAll (site : Site) (i : Installer) (results : List (String × Bool)) :
    List Datum → Run (List (String × Bool) × Installer)
  | [] => return (results, i)
  | name :: rest => do
    match ← attempt (installLanguage site i name) with
    | .ok (success, i') =>
      sleep pause
      installAll site i' (setKey name.plain success results) rest
    | .error f =>
      let key ← resultName name
      installAll site (i.addError (name.plain ++ ": Unexpected error - " ++ f.message))
        (setKey key false results) rest

/-- Checks which parsers are there once the given commands have been run. -/
def verify (site : Site) (done : List (List String)) (results : List (String × Bool)) :
    List Datum → Except Fault (List (String × Bool))
  | [] => .ok results
  | name :: rest => do
    match ← normalizeDatum name with
    | none => verify site done (setKey name.plain false results) rest
    | some l => verify site done (setKey l.name (site.finds done l.name) results) rest

def successes (i : Installer) : Nat := (i.tried.filter (·.2)).length

def failures (i : Installer) : Nat := (i.tried.filter (!·.2)).length

def summary (i : Installer) : Datum := .record
  [("total_attempted", toDatum i.tried.length), ("successful", toDatum i.successes),
   ("failed", toDatum i.failures), ("errors", toDatum i.errors),
   ("installed_parsers", Datum.ofPairs i.tried)]

end Installer

/-- The names that a datum lists; what has no length is refused. -/
def listed (d : Datum) : Except Fault (List Datum) :=
  match d.items? with
  | some xs => .ok xs
  | none => .error (.noLength d.kind)

/-- Installs the parsers of the languages named, and says whether no package failed. -/
def installFor (site : Site) (names : Datum) (force : Bool := false) (verified : Bool := true) :
    Run Bool := do
  if !site.isReady then return false
  let xs ← listed names
  let (_, i) ← Installer.installAll site { force := force } [] xs
  if verified then
    let _ ← Installer.verify site (← get).commands [] xs
  return i.failures == 0

def allNames : Datum := .list (Language.all.map fun l => .text l.name)

end SpecScribe.Install
