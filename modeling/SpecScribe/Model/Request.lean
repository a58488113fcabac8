import SpecScribe.Number.Binary
import SpecScribe.Model.Session
import SpecScribe.Text.Case
import SpecScribe.Text.Search

/-!
Requests: a call that keeps to the allowed rate and is tried again when there is hope. The waits
between the tries double each time.
-/

namespace SpecScribe.Model

open Settings

def minInterval (p : Performance) : Float := 60.0 / (Number.int p.requestsPerMinute).toFloat

/-- Waits until the next request is allowed. -/
def Session.limitRate (p : Performance) (s : Session) : Session :=
  let since := s.now.sub s.last
  let interval := Number.float (minInterval p)
  let s' := if since.lt interval then s.sleep (interval.sub since) else s
  { s' with last := s'.now }

def isRateLimit (message : String) : Bool :=
  let m := message.toList
  Text.contains "rate limit".toList (Text.lower m) || Text.contains "429".toList m

/-- Faults of the network that may pass. -/
def networkFamilies : List String := ["ConnectionError", "HTTPError", "RequestException"]

def isTimeout (f : Fault) : Bool := f.family == "TimeoutError"

/-- How long to wait after the given try before the next one; nothing if another try is
useless. -/
def backoff? (p : Performance) (attempt : Nat) (f : Fault) : Option Int :=
  let wait := p.retryDelay * Number.pow2 attempt
  if isTimeout f then some wait
  else if isRateLimit f.message then some (wait + 10)
  else if networkFamilies.contains f.family then some wait
  else none

/-- Tries an operation, and as many times more as `left` says. -/
def retrying {α : Type} (p : Performance) (operation : Ask α) : (left attempt : Nat) → Ask α
  | 0, _ => do
    modify (Session.limitRate p)
    operation
  | left + 1, attempt => do
    modify (Session.limitRate p)
    tryCatch operation fun f =>
      match backoff? p attempt f with
      | some wait => do
        modify (·.sleep (.int wait))
        retrying p operation left (attempt + 1)
      | none => throw f

def withRetry {α : Type} (p : Performance) (operation : Ask α) : Ask α :=
  retrying p operation p.maxRetries.toNat 0

def countAnswered (call : Call) : Ask Unit :=
  modify fun s => { s with requests := s.requests + call.size }

def generate (p : Performance) (prompt : String) : Ask Datum := withRetry p do
  let r ← invoke prompt
  countAnswered (.invoke prompt)
  return r.value

def generateBatch (p : Performance) (prompts : List String) : Ask (List Datum) :=
  if prompts.isEmpty then return []
  else withRetry p do
    let rs ← invokeBatch prompts
    countAnswered (.batch prompts)
    return rs.map Reply.valueInBatch

end SpecScribe.Model
