import SpecScribe.Fault
import SpecScribe.Json.Parser
import SpecScribe.Text.Blank
import SpecScribe.Text.Search

/-!
Reading the analysis out of a model's answer. The answer should be a JSON value; if it is not, the
object in a fenced block is tried, then everything from the first brace to the last one, and in the
end the answer itself becomes the overview.
-/

namespace SpecScribe.Analysis

open Text

def fence : List Char := "```".toList

def openingFence : List Char := "```json".toList

/-- The shortest start of a text that ends in a closing brace before a closing fence. -/
def upToFence? : List Char → Option (List Char)
  | [] => none
  | c :: r =>
    if c == '\x7d' && fence.isPrefixOf (stripStart r) then some [c]
    else (upToFence? r).map (c :: ·)

def objectInFence? (s : List Char) : Option (List Char) :=
  match after? openingFence s with
  | none => none
  | some r =>
    match stripStart r with
    | '\x7b' :: r' => (upToFence? r').map ('\x7b' :: ·)
    | _ => none

/-- The object of the first fenced block that has one. -/
def fenced? : List Char → Option (List Char)
  | [] => none
  | c :: r =>
    match objectInFence? (c :: r) with
    | some o => some o
    | none => fenced? r

/-- From the first opening brace to the last closing one. -/
def braced? (s : List Char) : Option (List Char) :=
  let rest := s.dropWhile (· != '\x7b')
  match dropEndWhile (· != '\x7d') rest with
  | [] => none
  | o => some o

def keptSize : Nat := 500

/-- The analysis that stands for an answer without structure. -/
def unstructured (text : List Char) : Datum :=
  let overview := if keptSize < text.length then text.take keptSize ++ "...".toList else text
  .record
    [("overview", .text (String.ofList overview)), ("functions", .list []), ("classes", .list []),
     ("dependencies", .list []), ("data_flow", .text "Unknown"),
     ("error_handling", .text "Unknown"),
     ("key_components", .list [.text "Unable to parse detailed analysis"]),
     ("recommendations", .list [.text "Review LLM response format"]),
     ("complexity_score", .int 5)]

/-- Reads a candidate. A text that is not JSON leaves it to `next`; a number with too many digits
is a fault. -/
def attempt (candidate : Option (List Char)) (next : Except Fault Datum) : Except Fault Datum :=
  match candidate with
  | none => next
  | some text =>
    match Json.read text with
    | .ok d => .ok d
    | .error (.malformed _ _) => next
    | .error stop => .error (Fault.ofJson text stop)

def parseText (text : List Char) : Except Fault Datum :=
  attempt (some text) (attempt (fenced? text) (attempt (braced? text) (.ok (unstructured text))))

/-- The analysis in an answer of any kind. -/
def parseResponse : Datum → Except Fault Datum
  | .text s => parseText s.toList
  | d => .error (.notJsonText d.kind)

def failed (overview : String) : Datum :=
  .record
    [("overview", .text overview), ("functions", .list []), ("classes", .list []),
     ("dependencies", .list []), ("data_flow", .text "Unknown"),
     ("error_handling", .text "Unknown")]

end SpecScribe.Analysis
