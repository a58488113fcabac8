import Mathlib
import SpecScribe.Proofs.Syntax.Extraction

/-!
What an extraction that succeeds tells of its results, in any tree: the nodes that a query of
several patterns finds, and the parts that an element or the structure of a class is made of.
-/

namespace SpecScribe.Syntax

/-- In a sorted list the first hit is before every other hit. -/
lemma first_of_find? {α : Type} {R : α → α → Prop} {test : α → Bool} {xs : List α} {x y : α}
    (hsorted : xs.Pairwise R) (hfind : xs.find? test = some y) (hx : x ∈ xs) (htest : test x) :
    y = x ∨ R y x := by
  obtain ⟨-, before, after, rfl, hbefore⟩ := List.find?_eq_some_iff_append.mp hfind
  rcases List.mem_append.mp hx with hx | hx
  · have := hbefore x hx
    simp [htest] at this
  · rcases List.mem_cons.mp hx with rfl | hx
    · exact .inl rfl
    · have htail := (List.pairwise_append.mp hsorted).2.1
      exact .inr ((List.pairwise_cons.mp htail).1 x hx)

/-- The first hit is a misleading one and no such hit is before it, or no hit misleads and it is the
one that stands at the own place. -/
lemma misled_or_own {xs : List Located} {test : Located → Bool} {Misled : Located → Prop}
    {own : Option (List ℕ)} {y : Located} (hsorted : xs.Pairwise fun l l' => l.place < l'.place)
    (hiff : ∀ z ∈ xs, (Misled z ↔ test z ∧ ∀ o ∈ own, z.place < o))
    (hfind : xs.find? test = some y) :
    (Misled y ∧ ∀ z ∈ xs, Misled z → y.place ≤ z.place) ∨
      (∀ z ∈ xs, ¬ Misled z) ∧ ∃ o ∈ own, ∀ x ∈ xs, test x → x.place = o → y = x := by
  have hy := List.mem_of_find?_eq_some hfind
  have hle : ∀ z ∈ xs, Misled z → y.place ≤ z.place := by
    intro z hz hmisled
    rcases first_of_find? hsorted hfind hz ((hiff z hz).mp hmisled).1 with rfl | hlt
    · exact le_rfl
    · exact hlt.le
  by_cases hmisled : Misled y
  · exact .inl ⟨hmisled, hle⟩
  · obtain ⟨o, ho, hlt⟩ : ∃ o ∈ own, ¬ y.place < o := by
      by_contra hall
      push Not at hall
      exact hmisled ((hiff y hy).mpr ⟨List.find?_some hfind, hall⟩)
    refine .inr ⟨fun z hz hz' => ?_, o, ho, fun x hx htest hplace => ?_⟩
    · exact hlt ((hle z hz hz').trans_lt (((hiff z hz).mp hz').2 o ho))
    · rcases first_of_find? hsorted hfind hx htest with rfl | hbefore
      · rfl
      · exact absurd (hplace ▸ hbefore) hlt

/-! ### Queries of several patterns -/

lemma Pattern.kind_of_match {kind : String} {role : Option Role} {fields : List FieldPattern}
    {place : List ℕ} {n : Node} {found : Found}
    (h : (Pattern.mk (some kind) role fields).match? place n = some found) : n.kind = kind := by
  rw [match?] at h
  split_ifs at h with hkind
  rw [Option.all_some, beq_iff_eq] at hkind
  exact hkind.symm

namespace Query

/-- A pattern of the query matches the node. -/
def defines (q : Query) (l : Located) : Bool := q.any fun p => (p.match? l.place l.node).isSome

variable {q q' : Query} {root : Node} {l : Located} {role : Role}

lemma mem_captures_iff_test (hl : l ∈ root.all) :
    l ∈ q.captures root role ↔ (q.found root).contains (role, l.place) := by
  rw [captures, List.mem_filter, and_iff_right hl]

/-- What a query finds, one of its patterns finds. -/
lemma mem_captures_cons {p : Pattern} :
    l ∈ captures (p :: q) root role ↔ l ∈ captures [p] root role ∨ l ∈ q.captures root role := by
  simp only [mem_captures, mem_matched, List.mem_cons, List.not_mem_nil, or_false]
  constructor
  · rintro ⟨hl, m, ⟨hdef, p', rfl | hp, hmatch⟩, hrole⟩
    · exact .inl ⟨hl, m, ⟨hdef, p', rfl, hmatch⟩, hrole⟩
    · exact .inr ⟨hl, m, ⟨hdef, p', hp, hmatch⟩, hrole⟩
  · rintro (⟨hl, m, ⟨hdef, p', hp, hmatch⟩, hrole⟩ | ⟨hl, m, ⟨hdef, p', hp, hmatch⟩, hrole⟩)
    · exact ⟨hl, m, ⟨hdef, p', .inl hp, hmatch⟩, hrole⟩
    · exact ⟨hl, m, ⟨hdef, p', .inr hp, hmatch⟩, hrole⟩

/-- Only patterns that can give the role count. -/
lemma captures_subset (h : ∀ p ∈ q, role ∈ p.roles → p ∈ q') :
    q.captures root role ⊆ q'.captures root role := by
  intro l hl
  obtain ⟨hall, m, hm, hrole⟩ := mem_captures.mp hl
  obtain ⟨hdef, p, hp, hmatch⟩ := mem_matched.mp hm
  have hr : role ∈ p.roles :=
    (Pattern.roles_of_match hmatch).subset (List.mem_map.mpr ⟨_, hrole, rfl⟩)
  exact mem_captures.mpr ⟨hall, m, mem_matched.mpr ⟨hdef, p, h p hp hr, hmatch⟩, hrole⟩

lemma captures_congr (h : ∀ p, role ∈ p.roles → (p ∈ q ↔ p ∈ q')) :
    q.captures root role = q'.captures root role := by
  have hsub : q.captures root role ⊆ q'.captures root role :=
    captures_subset fun p hp hr => (h p hr).mp hp
  have hsub' : q'.captures root role ⊆ q.captures root role :=
    captures_subset fun p hp hr => (h p hr).mpr hp
  refine List.filter_congr fun l hl => ?_
  rw [Bool.eq_iff_iff, ← mem_captures_iff_test hl, ← mem_captures_iff_test hl]
  exact ⟨fun h => hsub h, fun h => hsub' h⟩

/-- Nodes that a larger query finds later in a span do not change the first one there. -/
lemma part?_eq_of_later {n : Node} (hsub : q.captures root role ⊆ q'.captures root role)
    (hlater : ∀ y ∈ q'.captures root role, y ∉ q.captures root role → y.node.within n →
      ∃ z ∈ q.captures root role, z.node.within n ∧ z.place < y.place) :
    Dialect.part? (q'.captures root) role n = Dialect.part? (q.captures root) role n := by
  have hsorted := captures_sorted q root role
  rw [Dialect.part?, Dialect.part?]
  cases hfind : (q.captures root role).find? fun l => l.node.within n with
  | none =>
    have hnone := List.find?_eq_none.mp hfind
    have hnone' : (q'.captures root role).find? (fun l => l.node.within n) = none := by
      refine List.find?_eq_none.mpr fun y hy hwithin => ?_
      by_cases hmem : y ∈ q.captures root role
      · exact hnone y hmem hwithin
      · obtain ⟨z, hz, hzwithin, -⟩ := hlater y hy hmem hwithin
        exact hnone z hz hzwithin
    rw [hnone']
  | some x =>
    have hx := List.mem_of_find?_eq_some hfind
    have hxwithin : x.node.within n := by simpa using List.find?_some hfind
    have hnot : ∀ y ∈ q.captures root role, y.node.within n → ¬ y.place < x.place := by
      intro y hy hwithin hlt
      rcases first_of_find? hsorted hfind hy hwithin with rfl | hlt'
      · exact lt_irrefl _ hlt
      · exact hlt.asymm hlt'
    have hfirst : (q'.captures root role).find? (fun l => l.node.within n) = some x := by
      refine find?_eq_first (captures_sorted q' root role) (hsub hx) hxwithin
        fun y hy hwithin hlt => ?_
      by_cases hmem : y ∈ q.captures root role
      · exact hnot y hmem hwithin hlt
      · obtain ⟨z, hz, hzwithin, hzlt⟩ := hlater y hy hmem hwithin
        exact hnot z hz hzwithin (hzlt.trans hlt)
    rw [hfirst]

/-- The nodes found as definitions are those that a pattern matches. -/
lemma captures_eq_filter (hq : ∀ p ∈ q, p.Defines) (root : Node) :
    q.captures root .definition = root.all.filter q.defines := by
  refine List.filter_congr fun l hl => ?_
  rw [Bool.eq_iff_iff, ← mem_captures_iff_test hl, mem_captures, defines, List.any_eq_true]
  constructor
  · rintro ⟨-, m, hm, hrole⟩
    obtain ⟨hdef, p, hp, hmatch⟩ := mem_matched.mp hm
    have hplace := (hq p hp).place_of_definition hmatch hrole
    obtain rfl := Node.eq_of_place_eq hl hdef hplace
    exact ⟨p, hp, by rw [hmatch]; rfl⟩
  · rintro ⟨p, hp, hmatch⟩
    obtain ⟨found, hfound⟩ := Option.isSome_iff_exists.mp hmatch
    obtain ⟨parts, -, rfl⟩ := (hq p hp).split hfound
    exact ⟨hl, ⟨l, _⟩, mem_matched.mpr ⟨hl, p, hp, hfound⟩, List.mem_cons_self ..⟩

lemma mem_captures_definition (hq : ∀ p ∈ q, p.Defines) :
    l ∈ q.captures root .definition ↔
      l ∈ root.all ∧ ∃ p ∈ q, ∃ found, p.match? l.place l.node = some found := by
  rw [captures_eq_filter hq, List.mem_filter, defines, List.any_eq_true]
  simp only [Option.isSome_iff_exists]

end Query

namespace Dialect

/-! ### Elements -/

/-- What an element has from its definition: the lines and the text, and the name and the
documentation of the first nodes found in its span. -/
structure Made (d : Dialect) (found : Role → List Located) (fallback kind : String) (l : Located)
    (e : Element) : Prop where
  kind : e.kind = kind
  name : (part? found .name l.node).elim (.ok fallback) Node.spelling = .ok e.name
  outlines : Outlines l.node e
  doc : d.documentation l (part? found .body l.node) = .ok e.doc

variable {d : Dialect} {found : Role → List Located} {find : Finder} {path : String} {l : Located}
  {e : Element} {es : List Element} {c : ClassStructure} {cs : List ClassStructure}

lemma eq_of_checked {e e' : Element} (h : Element.checked e = .ok e') : e' = e := by
  rw [Element.checked] at h
  split_ifs at h
  exact (Except.ok.inj h).symm

lemma functionElement_eq : d.functionElement found l = (do
    let name ← (part? found .name l.node).elim (.ok d.unnamedFunction) Node.spelling
    let parameters ← (part? found .params l.node).elim (.ok []) d.parameters
    let content ← l.node.spelling
    let doc ← d.documentation l (part? found .body l.node)
    Element.checked
      { name := name, kind := "function", startLine := l.node.startLine,
        endLine := l.node.endLine, content := content, doc := doc, parameters := parameters }) := by
  rw [functionElement]
  cases part? found .name l.node <;> cases part? found .params l.node <;> rfl

lemma functionElement_made (h : d.functionElement found l = .ok e) :
    Made d found d.unnamedFunction "function" l e := by
  rw [functionElement_eq] at h
  obtain ⟨name, hname, h⟩ := bind_eq_ok.mp h
  obtain ⟨parameters, -, h⟩ := bind_eq_ok.mp h
  obtain ⟨content, hcontent, h⟩ := bind_eq_ok.mp h
  obtain ⟨doc, hdoc, h⟩ := bind_eq_ok.mp h
  obtain rfl := eq_of_checked h
  exact ⟨rfl, hname, ⟨rfl, rfl, hcontent⟩, hdoc⟩

/-- A function is made only if its lines are in order. -/
lemma lines_of_functionElement (h : d.functionElement found l = .ok e) :
    l.node.startLine ≤ l.node.endLine := by
  rw [functionElement_eq] at h
  obtain ⟨name, -, h⟩ := bind_eq_ok.mp h
  obtain ⟨parameters, -, h⟩ := bind_eq_ok.mp h
  obtain ⟨content, -, h⟩ := bind_eq_ok.mp h
  obtain ⟨doc, -, h⟩ := bind_eq_ok.mp h
  rw [Element.checked] at h
  split_ifs at h with hlines
  exact not_lt.mp hlines

lemma classElement_eq : d.classElement found l = (do
    let name ← (part? found .name l.node).elim (.ok "unknown") Node.spelling
    let content ← l.node.spelling
    let doc ← d.documentation l (part? found .body l.node)
    Element.checked
      { name := name, kind := d.classKind, startLine := l.node.startLine,
        endLine := l.node.endLine, content := content, doc := doc }) := by
  rw [classElement]
  cases part? found .name l.node <;> rfl

lemma classElement_made (h : d.classElement found l = .ok e) :
    Made d found "unknown" d.classKind l e := by
  rw [classElement_eq] at h
  obtain ⟨name, hname, h⟩ := bind_eq_ok.mp h
  obtain ⟨content, hcontent, h⟩ := bind_eq_ok.mp h
  obtain ⟨doc, hdoc, h⟩ := bind_eq_ok.mp h
  obtain rfl := eq_of_checked h
  exact ⟨rfl, hname, ⟨rfl, rfl, hcontent⟩, hdoc⟩

/-- A class is made only if its lines are in order. -/
lemma lines_of_classElement (h : d.classElement found l = .ok e) :
    l.node.startLine ≤ l.node.endLine := by
  rw [classElement_eq] at h
  obtain ⟨name, -, h⟩ := bind_eq_ok.mp h
  obtain ⟨content, -, h⟩ := bind_eq_ok.mp h
  obtain ⟨doc, -, h⟩ := bind_eq_ok.mp h
  rw [Element.checked] at h
  split_ifs at h with hlines
  exact not_lt.mp hlines

lemma extractFunctions_made (h : d.extractFunctions find = .ok es) :
    List.Forall₂ (Made d (find d.functions) d.unnamedFunction "function")
      (find d.functions .definition) es :=
  (mapM_eq_ok_iff.mp h).imp fun _ _ => functionElement_made

lemma extractClasses_made (h : d.extractClasses find = .ok es) :
    List.Forall₂ (Made d (find d.classes) "unknown" d.classKind) (find d.classes .definition) es :=
  (mapM_eq_ok_iff.mp h).imp fun _ _ => classElement_made

/-! ### Structures of classes -/

/-- What a structure has from its class: the lines, the documentation of the first body found in its
span, and the methods on its lines. -/
structure Structured (d : Dialect) (find : Finder) (path : String) (l : Located)
    (c : ClassStructure) : Prop where
  startLine : c.startLine = l.node.startLine
  endLine : c.endLine = l.node.endLine
  path : c.path = path
  doc : ∃ b, part? (find d.classes) .body l.node = some b ∧
    d.documentation l (some b) = .ok c.doc
  methods : ∃ es, d.methodsBetween find l.node.startLine l.node.endLine = .ok es ∧
    c.methods = es.map .element

/-- The class has a structure: a body is found in its span, and a name that spells something. -/
def complete (d : Dialect) (find : Finder) (l : Located) : Bool :=
  (part? (find d.classes) .body l.node).isSome &&
    (part? (find d.classes) .name l.node).any fun n => n.spelling.toOption != some ""

lemma classStructure?_eq : d.classStructure? find path l = (do
    let name ← (part? (find d.classes) .name l.node).elim (.ok "") Node.spelling
    match part? (find d.classes) .body l.node with
    | none => return none
    | some body =>
      if name == "" then return none
      let methods ← d.methodsBetween find l.node.startLine l.node.endLine
      let doc ← d.documentation l (some body)
      return some
        { name := name, methods := methods.map .element, attributes := [], doc := doc,
          startLine := l.node.startLine, endLine := l.node.endLine, path := path }) := by
  rw [classStructure?]
  cases part? (find d.classes) .name l.node <;> rfl

/-- A class is passed over, or its structure is made of its parts. -/
lemma classStructure?_cases {o : Option ClassStructure}
    (h : d.classStructure? find path l = .ok o) :
    d.complete find l = false ∧ o = none ∨
      d.complete find l = true ∧ ∃ c, o = some c ∧ Structured d find path l c := by
  rw [classStructure?_eq] at h
  obtain ⟨name, hname, h⟩ := bind_eq_ok.mp h
  have hnamed : (part? (find d.classes) .name l.node).any
      (fun n => n.spelling.toOption != some "") = (name != "") := by
    rcases hn : part? (find d.classes) .name l.node with _ | n <;> rw [hn] at hname
    · cases hname
      rfl
    · rw [Option.any_some, show n.spelling = .ok name from hname]
      rfl
  rw [complete, hnamed]
  split at h
  · rename_i hbody
    cases h
    exact .inl ⟨by rw [hbody]; rfl, rfl⟩
  · rename_i body hbody
    split_ifs at h with hempty
    · cases h
      exact .inl ⟨by simp [beq_iff_eq.mp hempty], rfl⟩
    · obtain ⟨methods, hmethods, h⟩ := bind_eq_ok.mp h
      obtain ⟨doc, hdoc, h⟩ := bind_eq_ok.mp h
      cases h
      refine .inr ⟨by simpa [hbody] using hempty, _, rfl, ?_⟩
      exact ⟨rfl, rfl, rfl, ⟨body, hbody, hdoc⟩, methods, hmethods, rfl⟩

/-- The structures are those of the matched classes that have one, in their order. -/
lemma extractStructures_structured {root : Node}
    (h : d.extractStructures (matchFinder root) path = .ok cs) :
    List.Forall₂ (fun m c => m ∈ d.classes.matched root ∧
        Structured d (matchFinder root) path m.definition c)
      ((d.classes.matched root).filter fun m => d.complete (matchFinder root) m.definition) cs := by
  obtain ⟨p, hclasses, hp⟩ := d.classes_eq_singleton
  have hcaptures : matchFinder root d.classes .definition =
      (d.classes.matched root).map Match.definition := by
    rw [matchFinder, hclasses, captures_definition hp]
  obtain ⟨os, hos, h⟩ := bind_eq_ok.mp h
  cases h
  rw [hcaptures, mapM_map_eq_ok_iff, mapM_eq_ok_iff] at hos
  have hmem := (List.forall₂_and_left (p := (· ∈ d.classes.matched root)) _ _).mpr
    ⟨fun _ hm => hm, hos⟩
  refine forall₂_filterMap (hmem.imp fun m o h => ?_)
  obtain hpassed | ⟨hcomplete, c, rfl, hc⟩ := classStructure?_cases h.2
  · exact .inl hpassed
  · exact .inr ⟨hcomplete, c, rfl, h.1, hc⟩

/-- However nodes are looked up, a structure is made of the parts of some class. -/
lemma exists_structured (h : d.extractStructures find path = .ok cs) (hc : c ∈ cs) :
    ∃ l, Structured d find path l c := by
  obtain ⟨os, hos, h⟩ := bind_eq_ok.mp h
  cases h
  obtain ⟨o, ho, rfl⟩ := List.mem_filterMap.mp hc
  obtain ⟨l, -, hl⟩ := exists_left_of_mem (mapM_eq_ok_iff.mp hos) ho
  obtain ⟨-, hnone⟩ | ⟨-, c', hsome, hc'⟩ := classStructure?_cases hl
  · cases hnone
  · cases hsome
    exact ⟨l, hc'⟩

/-! ### Success -/

section Readable

variable {root : Node} (hneat : root.Each Node.Neat) (hread : root.Each fun n => n.readable)
include hneat hread

lemma extractFunctions_of_readable (d : Dialect) :
    ∃ es, d.extractFunctions (matchFinder root) = .ok es := by
  refine exists_mapM_eq_ok_of_each fun l hl => ?_
  obtain ⟨e, he, -⟩ :=
    d.functionElement_eq_ok d.functions hneat hread (Query.mem_captures.mp hl).1
  exact ⟨e, he⟩

lemma extractClasses_of_readable (d : Dialect) :
    ∃ es, d.extractClasses (matchFinder root) = .ok es := by
  refine exists_mapM_eq_ok_of_each fun l hl => ?_
  obtain ⟨e, he, -⟩ := d.classElement_eq_ok d.classes hneat hread (Query.mem_captures.mp hl).1
  exact ⟨e, he⟩

lemma classStructure?_of_readable (d : Dialect) (path : String) (hl : l ∈ root.all) :
    ∃ o, d.classStructure? (matchFinder root) path l = .ok o := by
  obtain ⟨name, hname⟩ := name_of_readable "" d.classes hread l.node
  obtain ⟨methods, hmethods⟩ :=
    d.methodsBetween_eq_ok hneat hread l.node.startLine l.node.endLine
  have hfinder : matchFinder root d.classes = d.classes.captures root := rfl
  rw [classStructure?_eq, hfinder, hname, ok_bind]
  rcases hbody : part? (d.classes.captures root) .body l.node with _ | body
  · exact ⟨none, rfl⟩
  obtain ⟨doc, hdoc⟩ := d.documentation_of_readable hread hl
    fun b (hb : some body = some b) => at?_of_part? (hbody.trans hb)
  by_cases hempty : name = ""
  · exact ⟨none, by rw [hempty]; rfl⟩
  · simp only [beq_iff_eq, hempty, if_false, hmethods, hdoc]
    exact ⟨_, rfl⟩

lemma extractStructures_of_readable (d : Dialect) (path : String) :
    ∃ cs, d.extractStructures (matchFinder root) path = .ok cs := by
  obtain ⟨os, hos⟩ := exists_mapM_eq_ok_of_each fun l (hl : l ∈ d.classes.captures root .definition) =>
    classStructure?_of_readable hneat hread d path (Query.mem_captures.mp hl).1
  exact ⟨os.filterMap id, bind_eq_ok.mpr ⟨os, hos, rfl⟩⟩

end Readable

end Dialect

end SpecScribe.Syntax
