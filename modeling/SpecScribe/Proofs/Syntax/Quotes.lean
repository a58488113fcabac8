import Mathlib
import SpecScribe.Proofs.Text.Splitting
import SpecScribe.Syntax.Dialect

/-!
Documentation without its quote marks. All quote marks at the ends of a string are taken off, of
both kinds and however many there are. So the text between the delimiters is given back exactly if
it has no quote mark of its own at either end.
-/

namespace SpecScribe.Syntax

open Text

/-! ### String literals -/

/-- The kinds of quote marks. -/
inductive QuoteMark where
  | single
  | double
  deriving DecidableEq

namespace QuoteMark

def char : QuoteMark → Char
  | single => '\''
  | double => '"'

def other : QuoteMark → QuoteMark
  | single => double
  | double => single

lemma isQuoteMark_iff (m : QuoteMark) {c : Char} :
    Dialect.isQuoteMark c ↔ c = m.char ∨ c = m.other.char := by
  cases m <;> simp [Dialect.isQuoteMark, char, other, or_comm]

end QuoteMark

/-- What a string stands between: one quote mark, or three of them. -/
structure Delimiter where
  mark : QuoteMark
  triple : Bool
  deriving DecidableEq

/-- The delimiter as it is written. -/
def Delimiter.text (d : Delimiter) : List Char :=
  List.replicate (if d.triple then 3 else 1) d.mark.char

/-- The body between two delimiters is one string literal without escapes: between single marks it
has no line break, and the delimiter behind it is the first one that comes. -/
structure Delimits (d : Delimiter) (body : List Char) : Prop where
  plain : '\\' ∉ body
  oneLine : d.triple = false → '\n' ∉ body ∧ '\r' ∉ body
  closed : ∀ i < body.length, ¬ d.text <+: (body ++ d.text).drop i

instance (d : Delimiter) (body : List Char) : Decidable (Delimits d body) :=
  decidable_of_iff ('\\' ∉ body ∧ (d.triple = false → '\n' ∉ body ∧ '\r' ∉ body) ∧
      ∀ i < body.length, ¬ d.text <+: (body ++ d.text).drop i)
    ⟨fun ⟨plain, oneLine, closed⟩ => ⟨plain, oneLine, closed⟩,
      fun h => ⟨h.plain, h.oneLine, h.closed⟩⟩

variable {d : Delimiter} {b : List Char}

lemma isQuoteMark_of_mem_text {c : Char} (h : c ∈ d.text) : Dialect.isQuoteMark c :=
  d.mark.isQuoteMark_iff.mpr (.inl (List.eq_of_mem_replicate h))

/-- A body does not end in the mark that closes it, which would close it sooner. -/
lemma Delimits.getLast?_ne (h : Delimits d b) : b.getLast? ≠ some d.mark.char := by
  intro hlast
  obtain ⟨r, rfl⟩ := List.getLast?_eq_some_iff.mp hlast
  refine h.closed r.length (by simp) ?_
  rw [List.append_assoc, List.drop_left, Delimiter.text, ← List.replicate_one,
    List.replicate_append_replicate]
  exact ⟨[d.mark.char], by rw [← List.replicate_succ', Nat.add_comm]⟩

/-- The body has no quote mark at its ends. -/
lemma Delimits.tight_iff (h : Delimits d b) :
    Tight Dialect.isQuoteMark b ↔
      ¬ b.head?.any Dialect.isQuoteMark ∧ b.getLast? ≠ some d.mark.other.char := by
  refine and_congr_right fun _ => not_congr ?_
  rw [Option.any_eq_true]
  constructor
  · rintro ⟨c, hc, hmark⟩
    rcases d.mark.isQuoteMark_iff.mp hmark with rfl | rfl
    · exact absurd hc h.getLast?_ne
    · exact hc
  · exact fun hother => ⟨_, hother, d.mark.isQuoteMark_iff.mpr (.inr rfl)⟩

/-! ### The first string of a body -/

/-- A statement that is an expression with a string in it. -/
def Node.holdsString (n : Node) : Prop :=
  n.kind = "expression_statement" ∧ ∃ c ∈ n.children, c.kind = "string"

/-- The first string among the expressions that are statements of the body. -/
inductive FirstString (body s : Node) : Prop
  | mk {before after left right : List Node} {statement : Node}
      (statements : body.children = before ++ statement :: after)
      (none_before : ∀ n ∈ before, ¬ n.holdsString)
      (expression : statement.kind = "expression_statement")
      (parts : statement.children = left ++ s :: right)
      (none_left : ∀ n ∈ left, n.kind ≠ "string")
      (string : s.kind = "string")

namespace Dialect

lemma firstChild?_eq_none {n : Node} {kind : String} (h : ∀ c ∈ n.children, c.kind ≠ kind) :
    n.firstChild? [kind] = none := by
  rw [Node.firstChild?, List.find?_eq_none]
  intro c hc
  simpa using h c hc

lemma firstChild?_eq_some {n c : Node} {kind : String} {left right : List Node}
    (hparts : n.children = left ++ c :: right) (hleft : ∀ n ∈ left, n.kind ≠ kind)
    (hkind : c.kind = kind) : n.firstChild? [kind] = some c := by
  rw [Node.firstChild?, hparts, List.find?_eq_some_iff_append]
  refine ⟨by simp [hkind], left, right, rfl, fun n hn => ?_⟩
  simpa using hleft n hn

/-- The documentation is the first string without the quote marks at its ends. -/
lemma docText_of_first {body s : Node} {t : List Char} (h : FirstString body s)
    (ht : s.text = some (.ok (String.ofList t))) :
    docText (some body) = .ok (some (String.ofList (stripWhile isQuoteMark t))) := by
  obtain @⟨before, after, left, right, statement, statements, none_before, expression, parts,
    none_left, string⟩ := h
  have hhere : (if statement.kind == "expression_statement" then statement.firstChild? ["string"]
      else none) = some s := by
    rw [expression, beq_self_eq_true, if_pos rfl, firstChild?_eq_some parts none_left string]
  have hbefore : ∀ n ∈ before, (if n.kind == "expression_statement" then
      n.firstChild? ["string"] else none) = none := by
    intro n hn
    split_ifs with hkind
    · refine firstChild?_eq_none fun c hc hstring => none_before n hn ?_
      exact ⟨beq_iff_eq.mp hkind, c, hc, hstring⟩
    · rfl
  have hfound : (body.children.findSome? fun c =>
      if c.kind == "expression_statement" then c.firstChild? ["string"] else none) = some s := by
    rw [statements, List.findSome?_append, List.findSome?_eq_none_iff.mpr hbefore, Option.none_or,
      List.findSome?_cons, hhere]
  rw [docText]
  simp only [hfound, Node.spelling, ht, Except.map, String.toList_ofList]

/-- **What is left of a quoted text.** Let the first string of a body be a literal. The
documentation is the text between the delimiters without all quote marks that it has itself at its
ends. So it is that text exactly if the text does not begin with a quote mark and does not end with
one of the other kind. -/
theorem docText_of_quoted {body s : Node} (hfirst : FirstString body s) (hd : Delimits d b)
    (hs : s.text = some (.ok (String.ofList (d.text ++ b ++ d.text)))) :
    (∃ front kept back, b = front ++ kept ++ back ∧ (∀ c ∈ front, isQuoteMark c) ∧
      (∀ c ∈ back, isQuoteMark c) ∧ Tight isQuoteMark kept ∧
      docText (some body) = .ok (some (String.ofList kept))) ∧
    (docText (some body) = .ok (some (String.ofList b)) ↔
      ¬ b.head?.any isQuoteMark ∧ b.getLast? ≠ some d.mark.other.char) := by
  obtain ⟨front, kept, back, hb, hfront, hback, hkept⟩ := exists_padding isQuoteMark b
  have hstrip : stripWhile isQuoteMark (d.text ++ b ++ d.text) = kept := by
    have hparts : d.text ++ b ++ d.text = (d.text ++ front) ++ kept ++ (back ++ d.text) := by
      rw [hb]
      simp only [List.append_assoc]
    rw [hparts]
    refine stripWhile_padded (fun c hc => ?_) (fun c hc => ?_) hkept
    · exact (List.mem_append.mp hc).elim isQuoteMark_of_mem_text (hfront c)
    · exact (List.mem_append.mp hc).elim (hback c) isQuoteMark_of_mem_text
  have hdoc : docText (some body) = .ok (some (String.ofList kept)) := by
    rw [docText_of_first hfirst hs, hstrip]
  refine ⟨⟨front, kept, back, hb, hfront, hback, hkept, hdoc⟩, ?_⟩
  rw [hdoc, ← hd.tight_iff, Except.ok.injEq, Option.some.injEq, String.ofList_inj]
  constructor
  · rintro rfl
    exact hkept
  · intro htight
    rw [← hstrip]
    exact stripWhile_padded (fun _ => isQuoteMark_of_mem_text) (fun _ => isQuoteMark_of_mem_text)
      htight

/-- A string literal with the given text between its delimiters. -/
def quotedString (d : Delimiter) (text : String) : Node :=
  .mk "string" ⟨2, 4⟩ ⟨2, 60⟩ (some (.ok (String.ofList (d.text ++ text.toList ++ d.text)))) none []

/-- A body with a call in front of a string that stands by itself. -/
def quotedBody (d : Delimiter) (text : String) : Node :=
  .mk "block" ⟨1, 4⟩ ⟨2, 60⟩ none (some "body")
    [.mk "expression_statement" ⟨1, 4⟩ ⟨1, 7⟩ none none
      [.mk "call" ⟨1, 4⟩ ⟨1, 7⟩ (some (.ok "f()")) none []],
     .mk "expression_statement" ⟨2, 4⟩ ⟨2, 60⟩ none none [quotedString d text]]

lemma firstString_quotedBody (d : Delimiter) (text : String) :
    FirstString (quotedBody d text) (quotedString d text) := by
  refine @FirstString.mk _ _ [_] [] [] [] _ rfl ?_ rfl rfl nofun rfl
  rw [List.forall_mem_singleton]
  rintro ⟨-, c, hc, hkind⟩
  obtain rfl := List.mem_singleton.mp hc
  exact absurd hkind (by decide)

/-- Quote marks of both kinds inside of the text are kept. -/
theorem docText_of_quoted_inside :
    let d : Delimiter := ⟨.double, true⟩
    let text := "Says \"hi\", isn't it?"
    Delimits d text.toList ∧ FirstString (quotedBody d text) (quotedString d text) ∧
      docText (some (quotedBody d text)) = .ok (some text) := by
  intro d text
  have hd : Delimits d text.toList := by decide
  have hfirst := firstString_quotedBody d text
  obtain ⟨-, hiff⟩ := docText_of_quoted hfirst hd rfl
  rw [String.ofList_toList] at hiff
  exact ⟨hd, hfirst, hiff.mpr (by decide)⟩

/-- **A quote mark at the beginning of the text is lost.** -/
theorem docText_loses_quote :
    let d : Delimiter := ⟨.double, true⟩
    let text := "'x' is returned."
    Delimits d text.toList ∧ FirstString (quotedBody d text) (quotedString d text) ∧
      docText (some (quotedBody d text)) = .ok (some "x' is returned.") := by
  intro d text
  have hfirst := firstString_quotedBody d text
  have hstrip : stripWhile isQuoteMark (d.text ++ text.toList ++ d.text) =
      "x' is returned.".toList := by decide
  refine ⟨by decide, hfirst, ?_⟩
  rw [docText_of_first hfirst rfl, hstrip, String.ofList_toList]

end Dialect

end SpecScribe.Syntax
