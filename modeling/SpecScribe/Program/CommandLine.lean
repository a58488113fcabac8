/-!
Command lines of a program with subcommands. Options are spelled out in full; options of one letter
can stand together, and the last of them can have its value behind it.
-/

namespace SpecScribe.Program

/-- An option: its spellings, and whether it takes a value. -/
structure Switch where
  names : List String
  takesValue : Bool := false

def Switch.name (s : Switch) : String := s.names.headD ""

/-- What was read: the options in their order, and the other words. -/
structure Line where
  given : List (String × String) := []
  words : List String := []

namespace Line

def has (l : Line) (name : String) : Bool := l.given.any (·.1 == name)

def values (l : Line) (name : String) : List String :=
  (l.given.filter (·.1 == name)).map (·.2)

def value? (l : Line) (name : String) : Option String := (l.values name).getLast?

def give (l : Line) (name value : String) : Line := { l with given := l.given ++ [(name, value)] }

end Line

/-- What one word gives: options with their values, and an option whose value is the next word. -/
structure Given where
  done : List (String × String) := []
  open? : Option String := none

def findSwitch (ss : List Switch) (spelling : String) : Option Switch :=
  ss.find? fun s => s.names.contains spelling

/-- Options of one letter in a row. -/
def readLetters (ss : List Switch) : List Char → Option Given
  | [] => some {}
  | c :: r => do
    let s ← findSwitch ss ("-" ++ c.toString)
    if s.takesValue then
      if r.isEmpty then some { open? := some s.name }
      else some { done := [(s.name, String.ofList r)] }
    else
      let g ← readLetters ss r
      some { g with done := (s.name, "") :: g.done }

/-- An option spelled out, with a value behind an equals sign. -/
def readLong (ss : List Switch) (word : List Char) : Option Given :=
  let spelling := word.takeWhile (· != '=')
  let value := word.drop (spelling.length + 1)
  let hasValue := spelling.length < word.length
  match findSwitch ss (String.ofList spelling) with
  | none => none
  | some s =>
    if s.takesValue then
      if hasValue then some { done := [(s.name, String.ofList value)] }
      else some { open? := some s.name }
    else if hasValue then none
    else some { done := [(s.name, "")] }

def readDashed (ss : List Switch) (word : List Char) : Option Given :=
  match word with
  | '-' :: '-' :: _ => readLong ss word
  | _ => readLetters ss (word.drop 1)

/-- Reads a command line. If words and options do not mix, the first word ends the options. `none`
if an option is unknown or lacks its value. -/
def readLine (ss : List Switch) (mixed : Bool) : (waiting : Option String) → Line → List String →
    Option Line
  | none, l, [] => some l
  | some _, _, [] => none
  | some name, l, v :: r => readLine ss mixed none (l.give name v) r
  | none, l, w :: r =>
    if w == "--" then some { l with words := l.words ++ r }
    else
      match w.toList with
      | '-' :: c :: cs => do
        let g ← readDashed ss ('-' :: c :: cs)
        readLine ss mixed g.open? { l with given := l.given ++ g.done } r
      | _ =>
        if mixed then readLine ss mixed none { l with words := l.words ++ [w] } r
        else some { l with words := l.words ++ w :: r }

end SpecScribe.Program
