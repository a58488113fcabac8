import SpecScribe.Datum
import SpecScribe.Fault
import SpecScribe.Settings.Performance

/-!
A session with a language model. What the model will do is known beforehand, as a list of events
that are used up call by call; the clock moves only by what happens in the session.
-/

namespace SpecScribe.Model

/-- A reply: a message with its content, or a bare value. -/
inductive Reply where
  | message (content : Datum)
  | bare (value : Datum)

/-- What a reply to a single prompt stands for: the content of a message, or the bare value. -/
def Reply.value : Reply → Datum
  | .message content => content
  | .bare value => value

/-- What a reply to one of several prompts stands for. A bare value is given as text. -/
def Reply.valueInBatch : Reply → Datum
  | .message content => content
  | .bare value => .text value.plain

inductive Outcome where
  | single (reply : Except Fault Reply)
  | several (replies : List (Except Fault Reply))
  | failure (fault : Fault)

/-- An outcome, and the time it takes. -/
structure Event where
  advance : Number := .int 0
  outcome : Outcome

inductive Call where
  | invoke (prompt : String)
  | batch (prompts : List String)

def Call.size : Call → Nat
  | .invoke _ => 1
  | .batch prompts => prompts.length

/-- A call and the time at which it was made. -/
structure Sent where
  call : Call
  time : Number

structure Session where
  script : List Event := []
  now : Number := .float 1000.0
  sent : List Sent := []
  sleeps : List Number := []
  /-- How many prompts were answered. -/
  requests : Nat := 0
  /-- When the last request was let through. -/
  last : Number := .float 0.0

/-- A computation in a session. What happened before a fault stays. -/
abbrev Ask (α : Type) := ExceptT Fault (StateM Session) α

def Ask.run {α : Type} (x : Ask α) (s : Session) : Except Fault α × Session :=
  StateT.run (ExceptT.run x) s

namespace Session

def wait (s : Session) (seconds : Number) : Session := { s with now := s.now.add seconds }

/-- Sleeps, which moves the clock and is noted. -/
def sleep (s : Session) (seconds : Number) : Session :=
  { s.wait seconds with sleeps := s.sleeps ++ [seconds] }

def take (s : Session) (call : Call) : Option Outcome × Session :=
  let noted := { s with sent := s.sent ++ [⟨call, s.now⟩] }
  match s.script with
  | [] => (none, noted)
  | e :: rest => (some e.outcome, { noted with script := rest }.wait e.advance)

end Session

/-- What a call gives when there are no events left. -/
def exhausted : Fault := .outside "RuntimeError" "script exhausted"

def singleOutcome : Option Outcome → Except Fault Reply
  | none => .error exhausted
  | some (.single r) => r
  | some (.several _) => .error (.missingKey "raw")
  | some (.failure f) => .error f

/-- What an event means for a call with several prompts: the first reply that is a fault, if there
is one, else all replies. -/
def severalOutcome : Option Outcome → Except Fault (List Reply)
  | none => .error exhausted
  | some (.several rs) => rs.mapM id
  | some (.single _) => .error (.missingKey "batch")
  | some (.failure f) => .error f

/-- Makes a call. What the next event means is its outcome. -/
def makeCall {α : Type} (call : Call) (read : Option Outcome → Except Fault α) : Ask α := do
  let (outcome, s) := (← get).take call
  set s
  MonadExcept.ofExcept (read outcome)

def invoke (prompt : String) : Ask Reply := makeCall (.invoke prompt) singleOutcome

def invokeBatch (prompts : List String) : Ask (List Reply) :=
  makeCall (.batch prompts) severalOutcome

end SpecScribe.Model
