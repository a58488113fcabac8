import Mathlib
import SpecScribe.Proofs.Syntax.Methods

/-!
The names of the functions of scripts. A declaration and a method have a name of their own, an arrow
function has none. The name is taken to be the first one found in the span of the definition: in a
neat tree it is the definition's own unless another name comes first there, and an arrow function is
anonymous only if no name is found in its span.
-/

namespace SpecScribe.Syntax

/-! ### Own names -/

namespace Node

/-- The kind of the name of a definition, if definitions of its kind have one. -/
def nameKind? (kind : String) : Option String :=
  [("function_declaration", "identifier"), ("method_definition", "property_identifier")].lookup kind

/-- The name of a definition, with its index among the children. -/
def ownName? (n : Node) : Option (Node × ℕ) :=
  (nameKind? n.kind).bind fun kind =>
    n.children.zipIdx.find? fun (c, _) => c.field == some "name" && c.kind == kind

/-- What a definition is called by its own name. -/
def ownSpelling (n : Node) : Except Fault String :=
  (n.ownName?.map Prod.fst).elim (.ok "anonymous") spelling

end Node

/-- The place of the name of a definition. -/
def Located.namePlace? (l : Located) : Option (List ℕ) :=
  l.node.ownName?.map fun (_, i) => l.place ++ [i]

namespace Pattern

variable {kind : String} {role : Role} {place : List ℕ} {n : Node}

lemma match?_leaf : (leaf kind role).match? place n =
    if n.kind = kind then some [(role, place)] else none := by
  rw [leaf, match?, matchFields?]
  by_cases h : n.kind = kind
  · simp [ownRole, h]
  · simp [h, Ne.symm h]

/-- Of the children in a field, the first one of the kind is taken. -/
lemma findSome?_leaf (children : List Node) (field : String) :
    ((children.zipIdx.filter fun (c, _) => c.field == some field).map fun (c, i) =>
        (leaf kind role).match? (place ++ [i]) c).findSome? id =
      (children.zipIdx.find? fun (c, _) => c.field == some field && c.kind == kind).map
        fun (_, i) => [(role, place ++ [i])] := by
  simp only [match?_leaf]
  induction children.zipIdx with
  | nil => rfl
  | cons e cs ih =>
    obtain ⟨c, i⟩ := e
    by_cases hfield : c.field = some field
    · by_cases hkind : c.kind = kind
      · simp [hfield, hkind]
      · simpa [hfield, hkind] using ih
    · simpa [hfield] using ih

/-- A match gives a role to one node only. -/
lemma Defines.eq_of_role {p : Pattern} (hp : p.Defines) {found : Found} {o o' : List ℕ}
    (h : p.match? place n = some found) (ho : (role, o) ∈ found) (ho' : (role, o') ∈ found) :
    o = o' := by
  have honce := hp.once.sublist (roles_of_match h)
  exact congrArg Prod.snd (List.inj_on_of_nodup_map honce ho ho' rfl)

end Pattern

namespace Dialect

/-- The languages of scripts. -/
def scripts : List Dialect := [.javascript, .typescript]

variable {d : Dialect} {p : Pattern} {root : Node} {l y : Located} {found : Found} {o : List ℕ}

lemma scriptFunction_name {kind nameKind : String} {place : List ℕ} {n : Node}
    (hname : Node.nameKind? kind = some nameKind)
    (h : (scriptFunction kind nameKind).match? place n = some found) :
    ∃ x i, n.ownName? = some (x, i) ∧ (.name, place ++ [i]) ∈ found := by
  have hkind : n.kind = kind := Pattern.kind_of_match h
  obtain ⟨parts, hparts, rfl⟩ := Pattern.match?_eq_some h
  rw [scriptFunction, Pattern.define, Pattern.fields, matchFields?, Pattern.findSome?_leaf] at hparts
  rw [Node.ownName?, hkind, hname, Option.bind_some]
  rcases hfind : n.children.zipIdx.find?
      (fun (x, _) => x.field == some "name" && x.kind == nameKind) with _ | ⟨x, i⟩
  · rw [hfind] at hparts
    cases hparts
  · rw [hfind] at hparts
    obtain ⟨tail, -, rfl⟩ := Option.map_eq_some_iff.mp hparts
    exact ⟨x, i, hfind, by simp⟩

/-- A match finds the own name of its definition, and no other one. -/
lemma name_of_match (hd : d ∈ scripts) (hp : p ∈ d.functions)
    (h : p.match? l.place l.node = some found) : (.name, o) ∈ found ↔ l.namePlace? = some o := by
  have hscript {kind nameKind : String} (hname : Node.nameKind? kind = some nameKind)
      (hpattern : p = scriptFunction kind nameKind) :
      (.name, o) ∈ found ↔ l.namePlace? = some o := by
    have hdefines := functions_define d p hp
    subst hpattern
    obtain ⟨x, i, hown, hi⟩ := scriptFunction_name hname h
    rw [Located.namePlace?, hown, Option.map_some, Option.some_inj]
    exact ⟨fun ho => hdefines.eq_of_role h hi ho, fun ho => ho ▸ hi⟩
  have harrow (hpattern : p = arrowFunction) : (.name, o) ∈ found ↔ l.namePlace? = some o := by
    subst hpattern
    have hkind : l.node.kind = "arrow_function" := Pattern.kind_of_match h
    have hnone : l.node.ownName? = none := by rw [Node.ownName?, hkind]; rfl
    rw [Located.namePlace?, hnone]
    refine ⟨fun ho => ?_, nofun⟩
    have hrole : .name ∈ arrowFunction.roles :=
      (Pattern.roles_of_match h).subset (List.mem_map.mpr ⟨_, ho, rfl⟩)
    exact absurd hrole (by decide)
  simp only [scripts, List.mem_cons, List.not_mem_nil, or_false] at hd
  rcases hd with rfl | rfl
  · simp only [functions, List.mem_cons, List.not_mem_nil, or_false] at hp
    rcases hp with hp | hp
    · exact hscript rfl hp
    · exact harrow hp
  · simp only [functions, List.mem_cons, List.not_mem_nil, or_false] at hp
    rcases hp with hp | hp | hp
    · exact hscript rfl hp
    · exact hscript rfl hp
    · exact harrow hp

/-- The definitions of functions in a tree, in pre-order. -/
def definitions (d : Dialect) (root : Node) : List Located := root.all.filter d.functions.defines

/-- The names of these definitions, in pre-order. -/
def names (d : Dialect) (root : Node) : List Located :=
  root.all.filter fun y => (d.definitions root).any fun l => l.namePlace? == some y.place

lemma captures_definitions (d : Dialect) (root : Node) :
    d.functions.captures root .definition = d.definitions root :=
  Query.captures_eq_filter (functions_define d) root

lemma exists_match (hl : l ∈ d.definitions root) :
    l ∈ root.all ∧ ∃ p ∈ d.functions, ∃ found, p.match? l.place l.node = some found := by
  rw [← captures_definitions] at hl
  exact (Query.mem_captures_definition (functions_define d)).mp hl

lemma mem_names : y ∈ d.names root ↔
    y ∈ root.all ∧ ∃ l ∈ d.definitions root, l.namePlace? = some y.place := by
  simp [names]

lemma captures_name (hd : d ∈ scripts) (root : Node) :
    d.functions.captures root .name = d.names root := by
  refine List.filter_congr fun y hy => ?_
  rw [Bool.eq_iff_iff, ← Query.mem_captures_iff_test hy, Query.mem_captures, and_iff_right hy]
  simp only [List.any_eq_true, beq_iff_eq]
  constructor
  · rintro ⟨m, hm, hname⟩
    obtain ⟨hall, p, hp, hmatch⟩ := Query.mem_matched.mp hm
    have hdef : m.definition ∈ d.definitions root := by
      rw [← captures_definitions]
      exact (Query.mem_captures_definition (functions_define d)).mpr ⟨hall, p, hp, _, hmatch⟩
    exact ⟨m.definition, hdef, (name_of_match hd hp hmatch).mp hname⟩
  · rintro ⟨l, hl, hplace⟩
    obtain ⟨hall, p, hp, found, hmatch⟩ := exists_match hl
    exact ⟨⟨l, found⟩, Query.mem_matched.mpr ⟨hall, p, hp, hmatch⟩,
      (name_of_match hd hp hmatch).mpr hplace⟩

/-! ### Misleading names -/

/-- A name that is found in the span of a definition before the definition's own: it holds the
definition and nothing else, it is empty and right in front of the definition, it is inside the
definition and comes first there, or it is empty and right behind a definition without a name. -/
inductive Misnames (l y : Located) : Prop
  | around (above : y.place <+: l.place) (start : y.node.start = l.node.start)
    (stop : y.node.stop = l.node.stop)
  | inFront (left : Left y.place l.place) (start : y.node.start = l.node.start)
  | inside (below : l.place <+: y.place) (first : ∀ o ∈ l.namePlace?, y.place < o)
  | behind (right : Left l.place y.place) (stop : y.node.stop = l.node.stop)
    (unnamed : l.namePlace? = none)

/-- The name of a definition is its own if no name misleads, and the first misleading one
otherwise. -/
structure Named (names : List Located) (l : Located) (name : String) : Prop where
  own : (∀ y ∈ names, ¬ Misnames l y) → l.node.ownSpelling = .ok name
  misled : (∃ y ∈ names, Misnames l y) →
    ∃ y ∈ names, Misnames l y ∧ (∀ z ∈ names, Misnames l z → y.place ≤ z.place) ∧
      y.node.spelling = .ok name

lemma below_of_namePlace (h : l.namePlace? = some o) : l.place <+: o ∧ l.place ≠ o := by
  obtain ⟨⟨x, i⟩, -, rfl⟩ := Option.map_eq_some_iff.mp h
  exact ⟨List.prefix_append _ _, by simp⟩

lemma misnames_iff (hneat : root.Each Node.Neat) (hl : l ∈ root.all) (hy : y ∈ root.all) :
    Misnames l y ↔ y.node.within l.node ∧ ∀ o ∈ l.namePlace?, y.place < o := by
  rw [Node.within_iff_place hneat (Node.at?_of_mem_all hl) (Node.at?_of_mem_all hy)]
  constructor
  · rintro (⟨habove, hstart, hstop⟩ | ⟨hleft, hstart⟩ | ⟨hbelow, hfirst⟩ | ⟨hright, hstop, hnone⟩)
    · refine ⟨.inr (.inl ⟨habove, hstart, hstop⟩), fun o ho => ?_⟩
      obtain ⟨hunder, hne⟩ := below_of_namePlace ho
      refine lt_of_prefix_of_ne (habove.trans hunder) fun heq => ?_
      rw [heq] at habove
      exact hne (hunder.eq_of_length_le habove.length_le)
    · refine ⟨.inr (.inr (.inl ⟨hleft, hstart⟩)), fun o ho => ?_⟩
      exact (hleft.below (List.prefix_refl _) (below_of_namePlace ho).1).lt
    · exact ⟨.inl hbelow, hfirst⟩
    · exact ⟨.inr (.inr (.inr ⟨hright, hstop⟩)), by simp [hnone]⟩
  · rintro ⟨h | ⟨h, hstart, hstop⟩ | ⟨h, hstart⟩ | ⟨h, hstop⟩, hfirst⟩
    · exact .inside h hfirst
    · exact .around h hstart hstop
    · exact .inFront h hstart
    · refine .behind h hstop (Option.eq_none_iff_forall_not_mem.mpr fun o ho => ?_)
      -- a node to the right comes after all that is in the definition
      have hright : o < y.place := (h.below (below_of_namePlace ho).1 (List.prefix_refl _)).lt
      exact (hfirst o ho).asymm hright

/-- The own name of a definition is among the names, in its span. -/
lemma exists_own_name (hneat : root.Each Node.Neat) (hl : l ∈ d.definitions root)
    (ho : l.namePlace? = some o) :
    ∃ x ∈ d.names root, x.place = o ∧ x.node.within l.node ∧
      l.node.ownSpelling = x.node.spelling := by
  obtain ⟨⟨x, i⟩, hown, rfl⟩ := Option.map_eq_some_iff.mp ho
  have hall := (List.mem_filter.mp hl).1
  have hat := Node.at?_of_mem_all hall
  have hx : root.at? (l.place ++ [i]) = some x := by
    obtain ⟨kind, -, hfind⟩ := Option.bind_eq_some_iff.mp hown
    have hchild := List.mem_zipIdx_iff_getElem?.mp (List.mem_of_find?_eq_some hfind)
    refine Node.at?_below hat ?_
    rw [Node.at?, show l.node.children[i]? = some x from hchild]
    rfl
  obtain ⟨z, hz, hplace, rfl⟩ := Node.exists_mem_all hx
  refine ⟨z, mem_names.mpr ⟨hz, l, hl, by rw [hplace]; exact ho⟩, hplace, ?_, ?_⟩
  · exact Node.within_of_prefix hneat hat hx (List.prefix_append _ _)
  · rw [Node.ownSpelling, hown]
    rfl

lemma named_of_first {name : String} (hneat : root.Each Node.Neat) (hl : l ∈ d.definitions root)
    (h : (((d.names root).find? fun y => y.node.within l.node).map Located.node).elim
      (.ok "anonymous") Node.spelling = .ok name) : Named (d.names root) l name := by
  have hiff : ∀ y ∈ d.names root,
      (Misnames l y ↔ y.node.within l.node ∧ ∀ o ∈ l.namePlace?, y.place < o) :=
    fun y hy => misnames_iff hneat (List.mem_filter.mp hl).1 (mem_names.mp hy).1
  rcases hfind : (d.names root).find? fun y => y.node.within l.node with _ | y
  · -- no name is found, so the definition has none of its own
    have hnone := List.find?_eq_none.mp hfind
    have hunnamed : l.node.ownName? = none := by
      by_contra hown
      obtain ⟨o, ho⟩ : ∃ o, l.namePlace? = some o := by
        rwa [← Option.isSome_iff_exists, Located.namePlace?, Option.isSome_map,
          Option.isSome_iff_ne_none]
      obtain ⟨x, hx, -, hwithin, -⟩ := exists_own_name hneat hl ho
      exact hnone x hx hwithin
    rw [hfind] at h
    constructor
    · intro _
      rw [Node.ownSpelling, hunnamed]
      exact h
    · rintro ⟨y, hy, hmisled⟩
      exact absurd ((hiff y hy).mp hmisled).1 (hnone y hy)
  · have hy := List.mem_of_find?_eq_some hfind
    rw [hfind] at h
    rcases misled_or_own (root.all_sorted.filter _) hiff hfind with
      ⟨hmisled, hle⟩ | ⟨hnone, o, ho, hfirst⟩
    · exact ⟨fun hnone => absurd hmisled (hnone y hy), fun _ => ⟨y, hy, hmisled, hle, h⟩⟩
    · obtain ⟨x, hx, hplace, hwithin, hspelling⟩ := exists_own_name hneat hl ho
      obtain rfl : y = x := hfirst x hx hwithin hplace
      constructor
      · intro _
        rw [hspelling]
        exact h
      · rintro ⟨z, hz, hmisled⟩
        exact absurd hmisled (hnone z hz)

/-- **A function of a script has its own name, unless another name misleads.** In a tree where spans
nest and siblings are in order, and however it is searched, each definition gives one element, in
pre-order. A declaration or a method has the text of its own name, and an arrow function is
anonymous, unless the name of another definition is found first in its span. Then the element has
the first of these names. Where texts can be read the functions are found. -/
theorem functions_named {find : Finder} (hfind : find.Searches root) (hd : d ∈ scripts)
    (hneat : root.Each Node.Neat) :
    ((root.Each fun n => n.readable) → ∃ es, d.extractFunctions find = .ok es) ∧
    ∀ es, d.extractFunctions find = .ok es →
      List.Forall₂ (fun l e => Named (d.names root) l e.name) (d.definitions root) es := by
  obtain rfl := hfind.eq_matchFinder
  refine ⟨fun hread => extractFunctions_of_readable hneat hread d, fun es hes => ?_⟩
  have hmade := extractFunctions_made hes
  rw [matchFinder, captures_definitions] at hmade
  have hmem := (List.forall₂_and_left (p := (· ∈ d.definitions root)) _ _).mpr
    ⟨fun _ hl => hl, hmade⟩
  refine hmem.imp fun l e h => named_of_first hneat h.1 ?_
  have hanonymous : d.unnamedFunction = "anonymous" := by
    revert hd
    cases d <;> decide
  have hname := h.2.name
  rwa [hanonymous, part?, matchFinder, captures_name hd] at hname

/-- A declaration of `g` on the first line. -/
def declaration (first last : Int) (body : List Node) : Node :=
  .mk "function_declaration" ⟨0, first⟩ ⟨0, last⟩ (some (.ok "function g() …")) none
    [token "identifier" 0 (first + 9) (first + 10) (some "g") "name",
     token "formal_parameters" 0 (first + 10) (first + 12) none "parameters",
     .mk "statement_block" ⟨0, first + 13⟩ ⟨0, last⟩ none (some "body") body]

/-- An arrow function on the first line. -/
def arrow (first last : Int) (body : List Node) : Node :=
  .mk "arrow_function" ⟨0, first⟩ ⟨0, last⟩ (some (.ok "() => …")) none
    [token "formal_parameters" 0 first (first + 2) none "parameters",
     .mk "statement_block" ⟨0, first + 6⟩ ⟨0, last⟩ none (some "body") body]

def program (n : Node) : Node := .mk "program" ⟨0, 0⟩ ⟨1, 0⟩ none none [n]

/-- A declaration with an arrow function in its body. -/
theorem functions_named_nested :
    let t := program (declaration 0 25 [arrow 15 23 []])
    .typescript ∈ scripts ∧ t.Each Node.Neat ∧
    ∃ es, extractFunctions .typescript (matchFinder t) = .ok es ∧
      es.map Element.name = ["g", "anonymous"] ∧
      List.Forall₂ (fun l e => Named (names .typescript t) l e.name) (definitions .typescript t)
        es := by
  intro t
  have hd : .typescript ∈ scripts := by decide
  have hneat : t.Each Node.Neat := by decide
  have hread : t.Each fun n => n.readable := by decide
  have hnames : (extractFunctions .typescript (matchFinder t)).toOption.map
      (fun es => es.map Element.name) = some ["g", "anonymous"] := by decide
  obtain ⟨hsome, hnamed⟩ := functions_named (searches_matchFinder t) hd hneat
  obtain ⟨es, hes⟩ := hsome hread
  rw [hes] at hnames
  exact ⟨hd, hneat, es, hes, Option.some.inj hnames, hnamed es hes⟩

/-- **An arrow function has the name of a function in its body.** Both are called `g`. -/
theorem arrow_named_inside :
    let t := program (arrow 0 25 [declaration 8 23 []])
    t.Each Node.Neat ∧
    (definitions .javascript t).map (fun l => (l.node.kind, l.node.ownSpelling.toOption)) =
      [("arrow_function", some "anonymous"), ("function_declaration", some "g")] ∧
    (extractFunctions .javascript (matchFinder t)).toOption.map
      (fun es => es.map Element.name) = some ["g", "g"] := by
  refine ⟨by decide, by decide, by decide⟩

end Dialect

end SpecScribe.Syntax
