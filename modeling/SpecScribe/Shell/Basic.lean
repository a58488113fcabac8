import SpecScribe.Fault
import SpecScribe.Number.Basic

/-!
Running commands. What each command does is given in advance, so that a run is a function of the
outcomes; commands, sleeps and printed texts are noted in order.
-/

namespace SpecScribe.Shell

structure Finished where
  code : Int := 0
  out : String := ""
  err : String := ""

/-- What a command does, and the time it takes. -/
structure Outcome where
  advance : Number := .int 0
  result : Except Fault Finished := .ok {}

structure Terminal where
  /-- What the next commands do. Commands beyond end well at once. -/
  outcomes : List Outcome := []
  now : Number := .float 1000.0
  /-- The interpreter that runs the package installer. -/
  interpreter : String := "python3"
  commands : List (List String) := []
  sleeps : List Number := []
  printed : List String := []
  /-- What was printed as a warning. -/
  warned : List String := []

/-- A computation that runs commands. What happened before a fault stays. -/
abbrev Run (α : Type) := ExceptT Fault (StateM Terminal) α

def command (words : List String) : Run Finished := do
  let s ← get
  let (o, rest) := match s.outcomes with
    | [] => (({} : Outcome), [])
    | o :: rest => (o, rest)
  set { s with
    outcomes := rest, commands := s.commands ++ [words], now := s.now.add o.advance }
  o.result

/-- Runs a command that has to end well. -/
def mustCommand (words : List String) : Run Finished := do
  let r ← command words
  if r.code != 0 then throw (.commandFailed r.code)
  return r

def sleep (seconds : Number) : Run Unit :=
  modify fun s => { s with sleeps := s.sleeps ++ [seconds], now := s.now.add seconds }

def say (line : String) : Run Unit :=
  modify fun s => { s with printed := s.printed ++ [line ++ "\n"] }

def warn (text : String) : Run Unit := modify fun s => { s with warned := s.warned ++ [text] }

def clock : Run Number := return (← get).now

/-- A computation whose fault is handed on as a value. -/
def attempt {α : Type} (x : Run α) : Run (Except Fault α) :=
  ExceptT.mk do return .ok (← x.run)

def Terminal.text (s : Terminal) : String := String.join s.printed

end SpecScribe.Shell
