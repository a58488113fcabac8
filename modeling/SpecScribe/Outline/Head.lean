import SpecScribe.Text.Scan

/-!
Lines that open a definition. Each reader looks at one line and gives the name and the parameters
as they are written.
-/

namespace SpecScribe.Outline

open Text

abbrev Line := List Char

/-- A name with its parameters, as written between the parentheses. -/
structure Head where
  name : List Char
  params : List Char

def indentOf (l : Line) : Nat := l.length - (stripStart l).length

/-- A name and a list of parameters; the rest of the line follows. -/
def signature? (s : List Char) : Option (Head × List Char) := do
  let (name, r) ← word? s
  let (params, r) ← parenthesised? (stripStart r)
  return (⟨name, params⟩, r)

def bodied? (s : List Char) : Option Head := do
  let (head, r) ← signature? s
  let _ ← after? ['\x7b'] (stripStart r)
  return head

def named? (word : String) (s : List Char) : Option (List Char) := do
  let r ← keyword? word s
  let (name, _) ← word? r
  return name

/-- An indented or flush function head: the word, a name, parameters. -/
def wordedFunction? (word : String) (l : Line) : Option Head := do
  let r ← keyword? word (stripStart l)
  let (head, _) ← signature? r
  return head

def wordedClass? (l : Line) : Option (List Char) := named? "class" (stripStart l)

def scriptMethod? (l : Line) : Option Head := bodied? (stripStart l)

/-- The parameters of the first arrow function of a line. -/
def arrow? : Line → Option (List Char)
  | [] => none
  | c :: r =>
    let here : Option (List Char) := do
      let (params, rest) ← parenthesised? (c :: r)
      let _ ← after? "=>".toList (stripStart rest)
      return params
    match here with
    | some params => some params
    | none => arrow? r

/-- Tries to read a word that may stand in front; if the rest does not fit, it is read again
without. -/
def optionally {α : Type} (words : List String) (read : List Char → Option α) (s : List Char) :
    Option α :=
  match (words.findSome? fun w => keyword? w s).bind read with
  | some a => some a
  | none => read s

def typedMethod? (isType : Char → Bool) (s : List Char) : Option Head := do
  let (_, r) ← run? isType s
  bodied? (← blanks? r)

def accessMethod? (l : Line) : Option Head :=
  optionally ["public", "private", "protected"]
    (optionally ["static"]
      (typedMethod? fun c => isWord c || c == '<' || c == '>' || c == '[' || c == ']'))
    (stripStart l)

def accessClass? (l : Line) : Option (List Char) :=
  optionally ["public"] (named? "class") (stripStart l)

def typedFunction? (l : Line) : Option Head :=
  typedMethod? (fun c => isWord c || c == ':' || c == '<' || c == '>') (stripStart l)

def recordHead? (l : Line) : Option (String × List Char) :=
  let s := stripStart l
  ["class", "struct"].findSome? fun w => (named? w s).map fun name => (w, name)

end SpecScribe.Outline
