import Mathlib
import SpecScribe.Proofs.Syntax.Parts

/-!
Where the documentation of a definition is read. In Python it stands in the body, which is taken to
be the first body found in the span of the definition. In a neat tree another body comes first in
three cases only: it holds the definition and nothing else, it is empty and right in front of the
definition, or it is inside the definition, ahead of the definition's own body.
-/

namespace SpecScribe.Syntax

/-! ### Required parts -/

namespace Pattern

/-- The pattern asks for a child of the role, which must not be missing. -/
def Requires (p : Pattern) (r : Role) : Prop := ∃ e ∈ p.fields, e.2.1 = false ∧ e.2.2.role = some r

instance (p : Pattern) (r : Role) : Decidable (p.Requires r) :=
  inferInstanceAs (Decidable (∃ e ∈ p.fields, e.2.1 = false ∧ e.2.2.role = some r))

lemma exists_of_required {fs : List FieldPattern} {place : List ℕ} {children : List Node}
    {found : Found} {e : FieldPattern} {r : Role} (he : e ∈ fs) (hrequired : e.2.1 = false)
    (hrole : e.2.2.role = some r) (h : matchFields? place children fs = some found) :
    ∃ o, (r, o) ∈ found := by
  induction fs generalizing found with
  | nil => cases he
  | cons f fs ih =>
    obtain ⟨name, optional, p⟩ := f
    rcases List.mem_cons.mp he with rfl | he
    · -- without a child for the field there would be no match
      simp only at hrequired hrole
      subst hrequired
      rw [matchFields?] at h
      split at h
      · rename_i head htried
        obtain ⟨tail, -, rfl⟩ := Option.map_eq_some_iff.mp h
        obtain ⟨_, hmem, hid⟩ := List.exists_of_findSome?_eq_some htried
        obtain ⟨⟨c, i⟩, -, hmatch⟩ := List.mem_map.mp hmem
        obtain ⟨parts, -, rfl⟩ := match?_eq_some (hmatch.trans hid)
        exact ⟨place ++ [i], by simp [ownRole, hrole]⟩
      · cases h
    · obtain ⟨_, _, head, tail, -, -, -, htail, rfl⟩ | h := matchFields?_cons h
      · obtain ⟨o, ho⟩ := ih he htail
        exact ⟨o, List.mem_append_right _ ho⟩
      · exact ih he h

end Pattern

/-! ### Misleading bodies -/

/-- A body that is found before the body of a matched definition: it holds the definition and
nothing else, it is empty and right in front of the definition, or it is inside the definition and
comes first there. -/
inductive Misleads (m : Match) (y : Located) : Prop
  | around (above : y.place <+: m.definition.place) (start : y.node.start = m.definition.node.start)
    (stop : y.node.stop = m.definition.node.stop)
  | inFront (left : Left y.place m.definition.place)
    (start : y.node.start = m.definition.node.start)
  | inside (below : m.definition.place <+: y.place) {b : List ℕ}
    (own : m.found.lookup .body = some b) (first : y.place < b)

section Misleads

variable {p : Pattern} {root : Node} {m : Match} {y : Located} {b : List ℕ}

/-- The place of the body of a match is below that of the definition. -/
lemma place_of_body (hp : p.Defines) (hm : m ∈ Query.matched [p] root)
    (hb : m.found.lookup .body = some b) :
    m.definition.place <+: b ∧ m.definition.place ≠ b ∧ ∃ n, root.at? b = some n := by
  have hrole := mem_of_lookup hb
  obtain ⟨q, n, rfl, hn⟩ := Pattern.at?_of_match (match?_of_mem hm) hrole
  refine ⟨List.prefix_append _ _, fun heq => ?_, n, Node.at?_below (at?_definition hm) hn⟩
  -- at the place of the definition there would be two roles
  obtain ⟨parts, hparts, hfound⟩ := hp.split (match?_of_mem hm)
  rw [hfound] at hrole
  have hrole : (.body, m.definition.place ++ q) ∈ parts := by simpa using hrole
  obtain ⟨-, -, -, i, -, q', -, -, -, hplace, -⟩ := Pattern.through_of_matchFields hparts hrole
  rw [← heq] at hplace
  simpa using congrArg List.length hplace

/-- In a neat tree the misleading bodies are those in the span of the definition that are found
before its own. -/
lemma misleads_iff (hp : p.Defines) (hneat : root.Each Node.Neat)
    (hm : m ∈ Query.matched [p] root) (hb : m.found.lookup .body = some b) (hy : y ∈ root.all) :
    Misleads m y ↔ y.node.within m.definition.node ∧ y.place < b := by
  obtain ⟨hunder, hne, -⟩ := place_of_body hp hm hb
  rw [Node.within_iff_place hneat (at?_definition hm) (Node.at?_of_mem_all hy)]
  constructor
  · rintro (⟨habove, hstart, hstop⟩ | ⟨hleft, hstart⟩ | ⟨hbelow, hown, hfirst⟩)
    · have hplace : y.place ≠ b := by
        rintro hyb
        rw [hyb] at habove
        exact hne (hunder.eq_of_length_le habove.length_le)
      exact ⟨.inr (.inl ⟨habove, hstart, hstop⟩),
        lt_of_prefix_of_ne (habove.trans hunder) hplace⟩
    · exact ⟨.inr (.inr (.inl ⟨hleft, hstart⟩)), (hleft.below (List.prefix_refl _) hunder).lt⟩
    · obtain rfl := Option.some.inj (hown.symm.trans hb)
      exact ⟨.inl hbelow, hfirst⟩
  · rintro ⟨h | ⟨h, hstart, hstop⟩ | ⟨h, hstart⟩ | ⟨h, -⟩, hlt⟩
    · exact .inside h hb hlt
    · exact .around h hstart hstop
    · exact .inFront h hstart
    · -- a body to the right comes after all that is in the definition
      have hright : b < y.place := (h.below hunder (List.prefix_refl _)).lt
      exact absurd hlt hright.asymm

end Misleads

/-! ### Documentation -/

/-- The documentation is read in the definition's own body if no body misleads, and in the first
misleading one otherwise. -/
structure Documents (q : Query) (root : Node) (m : Match) (doc : Option String) : Prop where
  own : (∀ y ∈ q.captures root .body, ¬ Misleads m y) →
    Dialect.docText (m.part? root .body) = .ok doc
  misled : (∃ y ∈ q.captures root .body, Misleads m y) →
    ∃ y ∈ q.captures root .body, Misleads m y ∧
      (∀ z ∈ q.captures root .body, Misleads m z → y.place ≤ z.place) ∧
      Dialect.docText (some y.node) = .ok doc

namespace Dialect

variable {p : Pattern} {root : Node} {m : Match} {doc : Option String}

/-- A definition with a required body has one among the bodies that are found. -/
lemma exists_own_body (hp : p.Defines) (hbody : p.Requires .body) (hneat : root.Each Node.Neat)
    (hm : m ∈ Query.matched [p] root) :
    ∃ x ∈ Query.captures [p] root .body, m.found.lookup .body = some x.place ∧
      root.at? x.place = some x.node ∧ x.node.within m.definition.node := by
  obtain ⟨e, he, hrequired, hrole⟩ := hbody
  obtain ⟨parts, hparts, hfound⟩ := hp.split (match?_of_mem hm)
  obtain ⟨b, hb⟩ := Pattern.exists_of_required he hrequired hrole hparts
  have hb : (.body, b) ∈ m.found := by rw [hfound]; exact List.mem_cons_of_mem _ hb
  have hlookup := lookup_of_mem hp hm hb
  obtain ⟨hunder, -, n, hn⟩ := place_of_body hp hm hlookup
  obtain ⟨x, hx, rfl, rfl⟩ := Node.exists_mem_all hn
  exact ⟨x, Query.mem_captures.mpr ⟨hx, m, hm, hb⟩, hlookup, hn,
    Node.within_of_prefix hneat (at?_definition hm) hn hunder⟩

lemma documents_of_docText (hp : p.Defines) (hbody : p.Requires .body)
    (hneat : root.Each Node.Neat) (hm : m ∈ Query.matched [p] root)
    (hdoc : docText (part? (Query.captures [p] root) .body m.definition.node) = .ok doc) :
    Documents [p] root m doc := by
  obtain ⟨x, hx, hb, hat, hwithin⟩ := exists_own_body hp hbody hneat hm
  obtain ⟨y, hfind⟩ : ∃ y, (Query.captures [p] root .body).find?
      (fun l => l.node.within m.definition.node) = some y :=
    Option.isSome_iff_exists.mp (List.find?_isSome.mpr ⟨x, hx, hwithin⟩)
  have hy := List.mem_of_find?_eq_some hfind
  have hiff : ∀ z ∈ Query.captures [p] root .body,
      (Misleads m z ↔ z.node.within m.definition.node ∧ ∀ b ∈ some x.place, z.place < b) := by
    intro z hz
    rw [misleads_iff hp hneat hm hb (Query.mem_captures.mp hz).1]
    simp
  rw [part?, hfind, Option.map_some] at hdoc
  rcases misled_or_own (Query.captures_sorted [p] root .body) hiff hfind with
    ⟨hmisled, hle⟩ | ⟨hnone, b, hown, hfirst⟩
  · exact ⟨fun hnone => absurd hmisled (hnone y hy), fun _ => ⟨y, hy, hmisled, hle, hdoc⟩⟩
  · obtain rfl : y = x := hfirst x hx hwithin (Option.some.inj hown)
    constructor
    · intro _
      rwa [Match.part?, hb, Option.bind_some, hat]
    · rintro ⟨z, hz, hmisled⟩
      exact absurd hmisled (hnone z hz)

/-- Elements that are made of what one pattern finds have the documentation of its matches. -/
lemma documents_of_made {q : Query} {fallback kind : String} {es : List Element} (hq : q = [p])
    (hp : p.Defines) (hbody : p.Requires .body) (hneat : root.Each Node.Neat)
    (h : List.Forall₂ (Made .python (q.captures root) fallback kind)
      (q.captures root .definition) es) :
    List.Forall₂ (fun m e => Documents q root m e.doc) (q.matched root) es := by
  subst hq
  rw [captures_definition hp, List.forall₂_map_left_iff] at h
  have hmem := (List.forall₂_and_left (p := (· ∈ Query.matched [p] root)) _ _).mpr
    ⟨fun _ hm => hm, h⟩
  exact hmem.imp fun m e h => documents_of_docText hp hbody hneat h.1 h.2.doc

/-- **Documentation comes from the definition's own body, unless another body misleads.** In a tree
where spans nest and siblings are in order, and however it is searched, the functions, classes and
structures of Python have the documentation that is read in the bodies of their definitions, except
where a further body of such a definition holds the definition and nothing else, is empty and right
in front of it, or is inside it ahead of its own body. Then it is read in the first body of that
kind. Where texts can be read all three are found. -/
theorem docs_from_bodies {find : Finder} (hfind : find.Searches root) (hneat : root.Each Node.Neat)
    (path : String) :
    ((root.Each fun n => n.readable) →
      (∃ es, extractFunctions .python find = .ok es) ∧
      (∃ es, extractClasses .python find = .ok es) ∧
      ∃ cs, extractStructures .python find path = .ok cs) ∧
    (∀ es, extractFunctions .python find = .ok es →
      List.Forall₂ (fun m e => Documents (functions .python) root m e.doc)
        ((functions .python).matched root) es) ∧
    (∀ es, extractClasses .python find = .ok es →
      List.Forall₂ (fun m e => Documents (classes .python) root m e.doc)
        ((classes .python).matched root) es) ∧
    ∀ cs, extractStructures .python find path = .ok cs →
      List.Forall₂ (fun m c => Documents (classes .python) root m c.doc)
        (((classes .python).matched root).filter fun m =>
          complete .python find m.definition) cs := by
  obtain rfl := hfind.eq_matchFinder
  refine ⟨fun hread => ⟨?_, ?_, ?_⟩, fun es hes => ?_, fun es hes => ?_, fun cs hcs => ?_⟩
  · exact extractFunctions_of_readable hneat hread .python
  · exact extractClasses_of_readable hneat hread .python
  · exact extractStructures_of_readable hneat hread .python path
  · exact documents_of_made rfl (by decide) (by decide) hneat (extractFunctions_made hes)
  · exact documents_of_made rfl (by decide) (by decide) hneat (extractClasses_made hes)
  · refine (extractStructures_structured hcs).imp fun m c h => ?_
    obtain ⟨b, hb, hdoc⟩ := h.2.doc
    rw [← hb] at hdoc
    exact documents_of_docText (by decide) (by decide) hneat h.1 hdoc

/-- An expression that is a string in triple quotes. -/
def docString (row col : Int) (text : String) : Node :=
  .mk "expression_statement" ⟨row, col⟩ ⟨row, col + text.length + 6⟩ none none
    [.mk "string" ⟨row, col⟩ ⟨row, col + text.length + 6⟩
      (some (.ok ("\"\"\"" ++ text ++ "\"\"\""))) none []]

/-- A class with a function, in the body of which a further function stands last. What precedes that
function is given, with the point where the body starts. -/
def documentedTree (start : Point) (first : List Node) : Node :=
  .mk "module" ⟨0, 0⟩ ⟨6, 0⟩ none none
    [.mk "class_definition" ⟨0, 0⟩ ⟨5, 13⟩ (some (.ok "class A: …")) none
      [identifier 0 6 "A" (some "name"),
       .mk "block" ⟨1, 2⟩ ⟨5, 13⟩ none (some "body")
        [docString 1 2 "A",
         .mk "function_definition" ⟨2, 2⟩ ⟨5, 13⟩ (some (.ok "def f(): …")) none
          [identifier 2 6 "f" (some "name"),
           .mk "parameters" ⟨2, 7⟩ ⟨2, 9⟩ none (some "parameters") [],
           .mk "block" start ⟨5, 13⟩ none (some "body")
            (first ++ [.mk "function_definition" ⟨4, 4⟩ ⟨5, 13⟩ (some (.ok "def g(): …")) none
              [identifier 4 8 "g" (some "name"),
               .mk "parameters" ⟨4, 9⟩ ⟨4, 11⟩ none (some "parameters") [],
               .mk "block" ⟨5, 6⟩ ⟨5, 13⟩ none (some "body") [docString 5 6 "g"]]])]]]]

/-- Both functions are documented, the outer one in front of the inner one. -/
theorem docs_from_bodies_nested :
    let t := documentedTree ⟨3, 4⟩ [docString 3 4 "f"]
    t.Each Node.Neat ∧
    ((functions .python).matched t).map (fun m => (docText (m.part? t .body)).toOption) =
      [some (some "f"), some (some "g")] ∧
    ∃ es, extractFunctions .python (matchFinder t) = .ok es ∧
      List.Forall₂ (fun m e => Documents (functions .python) t m e.doc)
        ((functions .python).matched t) es := by
  intro t
  have hneat : t.Each Node.Neat := by decide
  have hread : t.Each fun n => n.readable := by decide
  obtain ⟨hsome, hfunctions, -⟩ := docs_from_bodies (searches_matchFinder t) hneat "a.py"
  obtain ⟨es, hes⟩ := (hsome hread).1
  exact ⟨hneat, by decide, es, hes, hfunctions es hes⟩

/-- **A body that holds one definition only hides its documentation.** The inner function has
documentation in its body; it is looked for in the body of the outer one, which has the same span.
-/
theorem docs_of_enclosing_body :
    let t := documentedTree ⟨4, 4⟩ []
    t.Each Node.Neat ∧
    ((functions .python).matched t).map (fun m => (docText (m.part? t .body)).toOption) =
      [some none, some (some "g")] ∧
    ((extractFunctions .python (matchFinder t)).toOption.map
      fun es => es.map fun e => (e.name, e.doc)) = some [("f", none), ("g", none)] := by
  refine ⟨by decide, by decide, by decide⟩

end Dialect

end SpecScribe.Syntax
