import SpecScribe.Text.Blank
import SpecScribe.Text.Search

/-!
Command lines of options and operands. An option can be shortened as long as it stays clear which
one is meant; options of one letter can stand together. Operands stand in one row.
-/

namespace SpecScribe.Shell

inductive Effect where
  | switch
  /-- Takes one of these values. -/
  | choice (values : List String)
  | help
  deriving DecidableEq

structure Flag where
  /-- All spellings, with their dashes. -/
  names : List String
  effect : Effect := .switch
  /-- Whether the option is one of those of which exactly one has to be given. -/
  mode : Bool := false
  deriving DecidableEq

def Flag.name (f : Flag) : String := f.names.headD ""

structure Usage where
  flags : List Flag
  operands : Bool := false

inductive Word where
  | operand (s : String)
  /-- Two dashes: only operands follow. -/
  | dashes
  /-- An option by one of its spellings, with a value behind it. -/
  | flag (f : Flag) (spelling : String) (value : Option String)
  | unknown

structure Arguments where
  switches : List String := []
  values : List (String × String) := []
  operands : List String := []

inductive Reading where
  /-- The command line is wrong. -/
  | usage
  | help
  | read (a : Arguments)

namespace Usage

def flag? (u : Usage) (spelling : String) : Option Flag :=
  u.flags.find? fun f => f.names.contains spelling

def spellings (u : Usage) : List (String × Flag) :=
  u.flags.flatMap fun f => f.names.map fun n => (n, f)

/-- The options that a shortened spelling can mean. -/
def candidates (u : Usage) (s : List Char) : List Word :=
  match s with
  | '-' :: '-' :: _ =>
    let (start, value) := match Text.cut? ['='] s with
      | some (a, b) => (a, some (String.ofList b))
      | none => (s, none)
    u.spellings.filterMap fun (n, f) =>
      if start.isPrefixOf n.toList then some (.flag f n value) else none
  | _ =>
    u.spellings.filterMap fun (n, f) =>
      if n.toList == s.take 2 then some (.flag f n (some (String.ofList (s.drop 2))))
      else if s.isPrefixOf n.toList then some (.flag f n none)
      else none

/-- A number below zero is an operand. -/
def isNegative (s : List Char) : Bool :=
  match s with
  | '-' :: r =>
    let isDigit (c : Char) : Bool := (Text.digitValue? c).isSome
    let whole := r.takeWhile isDigit
    match r.drop whole.length with
    | [] => !whole.isEmpty
    | '.' :: p => !p.isEmpty && p.all isDigit
    | _ => false
  | _ => false

/-- Reads one word; `none` if it can mean several options. -/
def word? (u : Usage) (w : String) : Option Word :=
  match w.toList with
  | '-' :: c :: r =>
    let s := '-' :: c :: r
    match u.flag? w with
    | some f => some (.flag f w none)
    | none =>
      let known := (Text.cut? ['='] s).bind fun (a, b) =>
        (u.flag? (String.ofList a)).map fun f =>
          Word.flag f (String.ofList a) (some (String.ofList b))
      match known with
      | some k => some k
      | none =>
        match u.candidates s with
        | [k] => some k
        | _ :: _ => none
        | [] => some (if isNegative s || s.contains ' ' then .operand w else .unknown)
  | _ => some (.operand w)

def words? (u : Usage) : List String → Option (List Word)
  | [] => some []
  | "--" :: r => some (.dashes :: r.map .operand)
  | w :: r => do
    let k ← u.word? w
    let ks ← u.words? r
    return k :: ks

/-- Options of one letter behind the first one of a word; the last one may take the next words. -/
def cluster (u : Usage) : List Char → Option (List Flag)
  | [] => some []
  | c :: r => do
    let f ← u.flag? ("-" ++ c.toString)
    match f.effect with
    | .choice _ => none
    | _ => return f :: (← u.cluster r)

structure Progress where
  arguments : Arguments := {}
  /-- The one option that was chosen out of those that exclude each other. -/
  mode : Option Flag := none
  /-- Whether the row of operands was read. -/
  hasOperands : Bool := false
  /-- Whether something was left over. -/
  leftOver : Bool := false

/-- Notes an option; `none` if another one excludes it or the value is not one of its own. -/
def note (p : Progress) (f : Flag) (value : Option String) : Option Progress :=
  let a := p.arguments
  let a? := match f.effect, value with
    | .choice vs, some v =>
      if vs.contains v then some { a with values := (f.name, v) :: a.values } else none
    | .choice _, none => none
    | _, _ => some { a with switches := f.name :: a.switches }
  match a? with
  | none => none
  | some a =>
    if !f.mode then some { p with arguments := a }
    else
      match p.mode with
      | some g => if g == f then some { p with arguments := a } else none
      | none => some { p with arguments := a, mode := some f }

/-- Notes options without values one after another, up to the call for help. -/
def noteAll : Progress → List Flag → Option (Progress ⊕ Unit)
  | p, [] => some (.inl p)
  | p, f :: r =>
    match f.effect with
    | .help => some (.inr ())
    | _ =>
      match note p f none with
      | some p' => noteAll p' r
      | none => none

/-- Hands the operand behind an option that takes a value to it. -/
def attach : List Word → List Word
  | [] => []
  | .flag ⟨ns, .choice vs, m⟩ spelling none :: .operand v :: r =>
    .flag ⟨ns, .choice vs, m⟩ spelling (some v) :: attach r
  | w :: r => w :: attach r

def finish (u : Usage) (p : Progress) : Reading :=
  if p.leftOver then .usage
  else if u.flags.any (·.mode) && p.mode.isNone then .usage
  else .read p.arguments

def go (u : Usage) : (inRow : Bool) → Progress → List Word → Reading
  | _, p, [] => u.finish p
  | inRow, p, .operand s :: r =>
    if inRow then
      u.go true { p with arguments :=
        { p.arguments with operands := p.arguments.operands ++ [s] } } r
    else if u.operands && !p.hasOperands then
      u.go true { p with
        hasOperands := true, arguments := { p.arguments with operands := [s] } } r
    else u.go false { p with leftOver := true } r
  | inRow, p, .dashes :: r =>
    if inRow then u.go true p r
    else if u.operands && !p.hasOperands then u.go true { p with hasOperands := true } r
    else u.go false { p with leftOver := true } r
  | _, p, .unknown :: r => u.go false { p with leftOver := true } r
  | _, p, .flag f spelling (some v) :: r =>
    match f.effect with
    | .choice _ =>
      match note p f (some v) with
      | some p' => u.go false p' r
      | none => .usage
    | _ =>
      if v == "" || "--".toList.isPrefixOf spelling.toList then .usage
      else
        match u.cluster v.toList with
        | none => .usage
        | some fs =>
          match noteAll p (f :: fs) with
          | none => .usage
          | some (.inr _) => .help
          | some (.inl p') => u.go false p' r
  | _, p, .flag f _ none :: r =>
    match f.effect with
    | .help => .help
    | _ =>
      match note p f none with
      | some p' => u.go false p' r
      | none => .usage

def parse (u : Usage) (argv : List String) : Reading :=
  match u.words? argv with
  | none => .usage
  | some ws => u.go false {} (attach ws)

end Usage

namespace Arguments

def has (a : Arguments) (name : String) : Bool := a.switches.contains name

def value? (a : Arguments) (name : String) : Option String := a.values.lookup name

end Arguments

end SpecScribe.Shell
