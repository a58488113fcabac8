import SpecScribe.Json.Error
import SpecScribe.Schema.FieldError
import SpecScribe.Text.Quoted
import SpecScribe.Text.Utf8

/-!
Why an operation stopped. Each cause has one wording and one family name; both can show in
reports, since faults of single files and of single requests are noted and passed over.
-/

namespace SpecScribe

/-- What the file store refused. -/
inductive FileFault where
  | notFound
  | exists
  | isDirectory
  | notDirectory
  | tooManyLinks
  | zeroInName
  deriving DecidableEq

def FileFault.family : FileFault → String
  | .notFound => "FileNotFoundError"
  | .exists => "FileExistsError"
  | .isDirectory => "IsADirectoryError"
  | .notDirectory => "NotADirectoryError"
  | .tooManyLinks => "OSError"
  | .zeroInName => "ValueError"

def FileFault.message : FileFault → String
  | .notFound => "[Errno 2] No such file or directory"
  | .exists => "[Errno 17] File exists"
  | .isDirectory => "[Errno 21] Is a directory"
  | .notDirectory => "[Errno 20] Not a directory"
  | .tooManyLinks => "[Errno 40] Too many levels of symbolic links"
  | .zeroInName => "embedded null byte"

inductive Fault where
  /-- Data of this kind has no such member or operation. -/
  | noMember (kind member : String)
  | noModuleMember (module member : String)
  /-- A grammar module that offers no function for its language. -/
  | noGrammarFunction (module language : String)
  | unknownLanguage (name : String)
  /-- Data of this kind cannot be gone through item by item. -/
  | notIterable (kind : String)
  | notSearchable (kind : String)
  | notIndexable (kind : String)
  | notAKey (kind : String)
  | notJoinable
  | joinItem (index : Nat) (kind : String)
  | notAPath (kind : String)
  | notJsonText (kind : String)
  | noLength (kind : String)
  /-- Two kinds of data that an operator cannot compare. -/
  | notComparable (operator left right : String)
  | wrongType (message : String)
  | missingKey (key : String)
  | badValue (message : String)
  /-- A whole number beyond the doubles. -/
  | tooLargeForDouble
  /-- An infinite number where a whole one is needed. -/
  | infiniteWhole
  /-- Data of this kind where two values are needed. -/
  | notAPair (kind : String)
  /-- Fewer than two values where two are needed. -/
  | shortPair (found : Nat)
  | longPair
  /-- The entry of a record at this place, which is neither a pair nor anything else to go
  through. -/
  | notAnEntry (index : Nat)
  | badEntry (index found : Nat)
  /-- Data of this kind cannot be written with decimal places. -/
  | noDecimalText (kind : String)
  /-- A field that this record does not have. -/
  | unknownField (record field : String)
  /-- Fields that this record needs and was not given. -/
  | missingFields (record : String) (fields : List String)
  | undecodable (defect : Text.Utf8Defect)
  | malformedJson (error : Json.Error)
  /-- A record with fields that were refused. -/
  | invalid (record : String) (errors : List Schema.FieldError)
  | file (fault : FileFault) (path : String)
  | unreadable (message : String)
  | notImported (message : String)
  | timedOut (message : String)
  /-- A command that did not end in time. -/
  | commandTimedOut
  /-- A command that had to end well and did not. -/
  | commandFailed (code : Int)
  | exhausted
  /-- A service outside failed with its own family name and message. -/
  | outside (family message : String)
  deriving DecidableEq

namespace Fault

def family : Fault → String
  | .noMember _ _ | .noModuleMember _ _ | .noGrammarFunction _ _ | .unknownLanguage _ =>
    "AttributeError"
  | .notIterable _ | .notSearchable _ | .notIndexable _ | .notAKey _ | .notJoinable
  | .joinItem _ _ | .notAPath _ | .notJsonText _ | .noLength _ | .notComparable _ _ _
  | .wrongType _ | .notAPair _ | .notAnEntry _ | .unknownField _ _ | .missingFields _ _ =>
    "TypeError"
  | .missingKey _ => "KeyError"
  | .badValue _ | .shortPair _ | .longPair | .badEntry _ _ => "ValueError"
  | .tooLargeForDouble | .infiniteWhole => "OverflowError"
  | .noDecimalText kind => if kind == "str" then "ValueError" else "TypeError"
  | .undecodable _ => "UnicodeDecodeError"
  | .malformedJson _ => "JSONDecodeError"
  | .invalid _ _ => "ValidationError"
  | .file f _ => f.family
  | .unreadable _ => "OSError"
  | .notImported _ => "ImportError"
  | .timedOut _ => "TimeoutError"
  | .commandTimedOut => "TimeoutExpired"
  | .commandFailed _ => "CalledProcessError"
  | .exhausted => "StopIteration"
  | .outside family _ => family

/-- Names in a sentence: `'a'`, `'a' and 'b'`, `'a', 'b', and 'c'`. -/
def listed (names : List String) : String :=
  match (names.map fun n => "'" ++ n ++ "'").reverse with
  | [] => ""
  | [a] => a
  | [b, a] => a ++ " and " ++ b
  | c :: rest => ", ".intercalate rest.reverse ++ ", and " ++ c

def message : Fault → String
  | .noMember kind member => "'" ++ kind ++ "' object has no attribute '" ++ member ++ "'"
  | .noModuleMember module member =>
    "module '" ++ module ++ "' has no attribute '" ++ member ++ "'"
  | .noGrammarFunction module language =>
    "Module " ++ module ++ " has no " ++ language ++ " language function"
  | .unknownLanguage name => name
  | .notIterable kind => "'" ++ kind ++ "' object is not iterable"
  | .notSearchable kind => "argument of type '" ++ kind ++ "' is not iterable"
  | .notIndexable kind => "'" ++ kind ++ "' object is not subscriptable"
  | .notAKey kind => "unhashable type: '" ++ kind ++ "'"
  | .notJoinable => "can only join an iterable"
  | .joinItem index kind =>
    "sequence item " ++ toString index ++ ": expected str instance, " ++ kind ++ " found"
  | .notAPath kind => "expected str, bytes or os.PathLike object, not " ++ kind
  | .notJsonText kind => "the JSON object must be str, bytes or bytearray, not " ++ kind
  | .noLength kind => "object of type '" ++ kind ++ "' has no len()"
  | .notComparable operator left right =>
    "'" ++ operator ++ "' not supported between instances of '" ++ left ++ "' and '" ++ right
      ++ "'"
  | .wrongType message => message
  | .missingKey key => Text.quote key
  | .badValue message => message
  | .tooLargeForDouble => "int too large to convert to float"
  | .infiniteWhole => "cannot convert float infinity to integer"
  | .notAPair kind => "cannot unpack non-iterable " ++ kind ++ " object"
  | .shortPair found =>
    "not enough values to unpack (expected 2, got " ++ toString found ++ ")"
  | .longPair => "too many values to unpack (expected 2)"
  | .notAnEntry index =>
    "cannot convert dictionary update sequence element #" ++ toString index ++ " to a sequence"
  | .badEntry index found =>
    "dictionary update sequence element #" ++ toString index ++ " has length " ++ toString found
      ++ "; 2 is required"
  | .noDecimalText kind =>
    if kind == "str" then "Unknown format code 'f' for object of type 'str'"
    else "unsupported format string passed to " ++ kind ++ ".__format__"
  | .unknownField record field =>
    record ++ ".__init__() got an unexpected keyword argument '" ++ field ++ "'"
  | .missingFields record fields =>
    record ++ ".__init__() missing " ++ toString fields.length ++ " required positional argument"
      ++ (if fields.length == 1 then "" else "s") ++ ": " ++ listed fields
  | .undecodable defect => defect.message
  | .malformedJson error => error.message
  | .invalid record errors =>
    toString errors.length ++ " validation error" ++ (if errors.length == 1 then "" else "s")
      ++ " for " ++ record ++ "\n" ++ "\n".intercalate (errors.map Schema.FieldError.text)
  | .file .zeroInName _ => FileFault.zeroInName.message
  | .file f path => f.message ++ ": " ++ Text.quote path
  | .unreadable message => message
  | .notImported message => message
  | .timedOut message => message
  | .commandTimedOut => "Command 'cmd' timed out after 300 seconds"
  | .commandFailed code =>
    "Command 'cmd' returned non-zero exit status " ++ toString code ++ "."
  | .exhausted => ""
  | .outside _ message => message

def tooManyDigits (n : Nat) : Fault :=
  .badValue ("Exceeds the limit (4300 digits) for integer string conversion: value has "
    ++ toString n ++ " digits; use sys.set_int_max_str_digits() to increase the limit")

def ofJson (text : List Char) : Json.Stop → Fault
  | .malformed cause offset => .malformedJson (Json.Error.at text cause offset)
  | .tooManyDigits n => tooManyDigits n

end Fault

end SpecScribe
