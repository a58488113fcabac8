import Mathlib
import SpecScribe.Proofs.Syntax.Parts

/-!
The methods of classes. A class takes its methods by their lines from all definitions of the tree:
it has every method that is below it, and besides these the ones that only share its lines. The
methods are among the functions of the tree, except those of JavaScript classes.
-/

namespace SpecScribe.Syntax

/-! ### Lines of a class -/

namespace Located

/-- The node is below the other one. -/
def isBelow (x l : Located) : Bool := l.place.isPrefixOf x.place && x.place != l.place

/-- The node begins and ends on lines of the other one. -/
def onLinesOf (x l : Located) : Bool :=
  l.node.startLine ≤ x.node.startLine && x.node.endLine ≤ l.node.endLine

variable {root : Node} {x l : Located}

lemma onLinesOf_of_within (h : x.node.within l.node) : x.onLinesOf l := by
  obtain ⟨hstart, hstop⟩ := Node.within_iff.mp h
  rw [Point.le_iff] at hstart hstop
  rw [onLinesOf, Bool.and_eq_true, decide_eq_true_eq, decide_eq_true_eq]
  simp only [Node.startLine, Node.endLine]
  omega

lemma onLinesOf_of_isBelow (hneat : root.Each Node.Neat) (hx : x ∈ root.all) (hl : l ∈ root.all)
    (h : x.isBelow l) : x.onLinesOf l := by
  rw [isBelow, Bool.and_eq_true, List.isPrefixOf_iff_prefix] at h
  exact onLinesOf_of_within
    (Node.within_of_prefix hneat (Node.at?_of_mem_all hl) (Node.at?_of_mem_all hx) h.1)

end Located

namespace Dialect

/-- The methods of a class: the definitions below it, in pre-order. -/
def ownMethods (d : Dialect) (root : Node) (l : Located) : List Located :=
  root.all.filter fun x => d.methods.defines x && x.isBelow l

/-- A definition that is not below the class, but on its lines. -/
structure Stray (d : Dialect) (l x : Located) : Prop where
  defined : d.methods.defines x
  outside : x.isBelow l = false
  lines : x.onLinesOf l

instance (d : Dialect) (l x : Located) : Decidable (Stray d l x) :=
  decidable_of_iff (d.methods.defines x ∧ x.isBelow l = false ∧ x.onLinesOf l)
    ⟨fun ⟨h, h', h''⟩ => ⟨h, h', h''⟩, fun h => ⟨h.defined, h.outside, h.lines⟩⟩

/-- The member is the function that is made of the definition. -/
def MethodOf (d : Dialect) (root : Node) (x : Located) (m : ClassMember) : Prop :=
  ∃ e, m = .element e ∧ Made d (d.methods.captures root) d.unnamedFunction "function" x e

/-- What a structure holds: all methods of its class, and what strays onto the lines of the class.
So it holds exactly the methods of its class when nothing does. -/
structure HoldsMethods (d : Dialect) (root : Node) (l : Located) (c : ClassStructure) : Prop where
  startLine : c.startLine = l.node.startLine
  endLine : c.endLine = l.node.endLine
  held : ∃ xs, List.Forall₂ (MethodOf d root) xs c.methods ∧ (ownMethods d root l).Sublist xs ∧
    ∀ x ∈ xs, x ∈ ownMethods d root l ∨ Stray d l x
  exactly : List.Forall₂ (MethodOf d root) (ownMethods d root l) c.methods ↔
    ∀ x ∈ root.all, ¬ Stray d l x

lemma methods_define (d : Dialect) : ∀ p ∈ d.methods, p.Defines := by
  cases d <;> decide

variable {d : Dialect} {root : Node} {l : Located} {c : ClassStructure} {path : String}

/-- The definitions that are taken for methods of a class. -/
def taken (d : Dialect) (root : Node) (l : Located) : List Located :=
  root.all.filter fun x => d.methods.defines x && x.onLinesOf l

lemma methodsBetween_taken {es : List Element}
    (h : d.methodsBetween (matchFinder root) l.node.startLine l.node.endLine = .ok es) :
    List.Forall₂ (MethodOf d root) (taken d root l) (es.map .element) := by
  have htaken : ((matchFinder root d.methods .definition).filter fun x => x.onLinesOf l) =
      taken d root l := by
    rw [matchFinder, Query.captures_eq_filter d.methods_define, List.filter_filter, taken]
    exact List.filter_congr fun x _ => Bool.and_comm ..
  have hmap := mapM_eq_ok_iff.mp h
  rw [List.forall₂_map_right_iff, ← htaken]
  exact hmap.imp fun x e he => ⟨e, rfl, functionElement_made he⟩

lemma ownMethods_sublist (hneat : root.Each Node.Neat) (hl : l ∈ root.all) :
    (ownMethods d root l).Sublist (taken d root l) := by
  have hfilter : ownMethods d root l =
      (taken d root l).filter fun x => x.isBelow l := by
    rw [taken, List.filter_filter, ownMethods]
    refine List.filter_congr fun x hx => ?_
    have hlines := Located.onLinesOf_of_isBelow hneat hx hl
    cases hbelow : x.isBelow l <;> simp_all
  rw [hfilter]
  exact List.filter_sublist

lemma mem_taken {x : Located} (hx : x ∈ taken d root l) :
    x ∈ ownMethods d root l ∨ Stray d l x := by
  obtain ⟨hall, hx⟩ := List.mem_filter.mp hx
  rw [Bool.and_eq_true] at hx
  cases hbelow : x.isBelow l
  · exact .inr ⟨hx.1, hbelow, hx.2⟩
  · exact .inl (List.mem_filter.mpr ⟨hall, by rw [hx.1, hbelow]; rfl⟩)

/-- All that is taken is below the class exactly when nothing strays. -/
lemma ownMethods_eq_iff (hneat : root.Each Node.Neat) (hl : l ∈ root.all) :
    ownMethods d root l = taken d root l ↔ ∀ x ∈ root.all, ¬ Stray d l x := by
  constructor
  · intro heq x hx hstray
    have hmem : x ∈ taken d root l :=
      List.mem_filter.mpr ⟨hx, by rw [hstray.defined, hstray.lines]; rfl⟩
    rw [← heq] at hmem
    have hbelow := (List.mem_filter.mp hmem).2
    rw [hstray.outside, Bool.and_false] at hbelow
    cases hbelow
  · intro hnone
    refine List.filter_congr fun x hx => ?_
    have hlines := Located.onLinesOf_of_isBelow hneat hx hl
    have hstray := hnone x hx
    cases hdefined : d.methods.defines x
    · rfl
    · cases hbelow : x.isBelow l
      · cases hline : x.onLinesOf l
        · rfl
        · exact absurd ⟨hdefined, hbelow, hline⟩ hstray
      · rw [hlines hbelow]

lemma holdsMethods_of_structured (hneat : root.Each Node.Neat) (hl : l ∈ root.all)
    (h : Structured d (matchFinder root) path l c) : HoldsMethods d root l c := by
  obtain ⟨es, hes, hmethods⟩ := h.methods
  have hmap := methodsBetween_taken hes
  rw [← hmethods] at hmap
  have hsub := ownMethods_sublist (d := d) hneat hl
  refine ⟨h.startLine, h.endLine, ⟨_, hmap, hsub, fun x => mem_taken⟩, ?_⟩
  rw [← ownMethods_eq_iff hneat hl]
  constructor
  · intro hown
    -- both lists are as long as that of the methods
    exact hsub.eq_of_length (hown.length_eq.trans hmap.length_eq.symm)
  · intro heq
    rwa [heq]

/-- **The methods of a structure.** In a tree where spans nest and siblings are in order, and
however it is searched, the structures are those of the matched classes with a name and a body, in
order. The structure of a class holds all definitions below the class, in pre-order, and besides
these only such that stand on its lines without being below it. It holds exactly the methods of its
class when there are none of that kind. Where texts can be read there are structures. -/
theorem extractStructures_methods (d : Dialect) {find : Finder} (hfind : find.Searches root)
    (hneat : root.Each Node.Neat) (path : String) :
    ((root.Each fun n => n.readable) → ∃ cs, d.extractStructures find path = .ok cs) ∧
    ∀ cs, d.extractStructures find path = .ok cs →
      List.Forall₂ (fun m c => HoldsMethods d root m.definition c)
        ((d.classes.matched root).filter fun m => d.complete find m.definition) cs := by
  obtain rfl := hfind.eq_matchFinder
  refine ⟨fun hread => extractStructures_of_readable hneat hread d path, fun cs hcs => ?_⟩
  refine (extractStructures_structured hcs).imp fun m c h => ?_
  exact holdsMethods_of_structured hneat (Query.mem_matched.mp h.1).1 h.2

/-- A node without children. -/
def token (kind : String) (row first last : Int) (text : Option String) (field : String) : Node :=
  .mk kind ⟨row, first⟩ ⟨row, last⟩ (text.map .ok) (some field) []

/-- A class with one method on the rows 0 to 2, and a function on the given row. The languages
differ in the kind of the class name. -/
def scriptTree (nameKind : String) (row : Int) : Node :=
  .mk "program" ⟨0, 0⟩ ⟨4, 0⟩ none none
    [.mk "class_declaration" ⟨0, 0⟩ ⟨2, 1⟩ (some (.ok "class A …")) none
      [token nameKind 0 6 7 (some "A") "name",
       .mk "class_body" ⟨0, 8⟩ ⟨2, 1⟩ none (some "body")
        [.mk "method_definition" ⟨1, 2⟩ ⟨1, 8⟩ (some (.ok "m() …")) none
          [token "property_identifier" 1 2 3 (some "m") "name",
           token "formal_parameters" 1 3 5 none "parameters",
           token "statement_block" 1 6 8 none "body"]]],
     .mk "function_declaration" ⟨row, 2⟩ ⟨row, 17⟩ (some (.ok "function f() …")) none
      [token "identifier" row 11 12 (some "f") "name",
       token "formal_parameters" row 12 14 none "parameters",
       token "statement_block" row 15 17 none "body"]]

/-- The function is on a line of its own. -/
theorem extractStructures_methods_apart :
    let t := scriptTree "identifier" 3
    t.Each Node.Neat ∧
    (∀ m ∈ (classes .javascript).matched t, ∀ x ∈ t.all, ¬ Stray .javascript m.definition x) ∧
    ((classes .javascript).matched t).map (fun m =>
      complete .javascript (matchFinder t) m.definition) = [true] ∧
    ∃ cs, extractStructures .javascript (matchFinder t) "a.js" = .ok cs ∧
      List.Forall₂ (fun m c => HoldsMethods .javascript t m.definition c)
        (((classes .javascript).matched t).filter fun m =>
          complete .javascript (matchFinder t) m.definition) cs := by
  intro t
  have hneat : t.Each Node.Neat := by decide
  have hread : t.Each fun n => n.readable := by decide
  obtain ⟨hsome, hall⟩ :=
    extractStructures_methods .javascript (searches_matchFinder t) hneat "a.js"
  obtain ⟨cs, hcs⟩ := hsome hread
  exact ⟨hneat, by decide, by decide, cs, hcs, hall cs hcs⟩

/-- **A structure can hold a function that is not below its class.** The function begins on the line
on which the class ends. -/
theorem extractStructures_shared_line :
    let t := scriptTree "identifier" 2
    t.Each Node.Neat ∧
    ((extractStructures .javascript (matchFinder t) "a.js").toOption.map
      fun cs => cs.map fun c => (c.name, c.methodNames.map Datum.plain)) =
        some [("A", ["m", "f"])] ∧
    ((classes .javascript).matched t).map
      (fun m => (ownMethods .javascript t m.definition).map fun x => (x.place, x.node.kind)) =
        [[([0, 1, 0], "method_definition")]] := by
  refine ⟨by decide, by decide, by decide⟩

/-! ### Methods and functions -/

/-- The definition of a method in a script. -/
def scriptMethod : Pattern := scriptFunction "method_definition" "property_identifier"

/-- Two elements have the same name, lines and text. -/
structure Alike (e e' : Element) : Prop where
  name : e'.name = e.name
  startLine : e'.startLine = e.startLine
  endLine : e'.endLine = e.endLine
  content : e'.content = e.content

/-- Elements made of one definition are alike if they find the same name in its span. -/
lemma Made.alike {found found' : Role → List Located} {fallback kind : String} {x : Located}
    {e e' : Element} (h : Made d found fallback kind x e) (h' : Made d found' fallback kind x e')
    (hnames : part? found .name x.node = part? found' .name x.node) : Alike e e' := by
  have hname := h.name
  have hcontent := h.outlines.content
  rw [hnames] at hname
  rw [h'.outlines.content] at hcontent
  exact ⟨Except.ok.inj (h'.name.symm.trans hname),
    h'.outlines.startLine.trans h.outlines.startLine.symm,
    h'.outlines.endLine.trans h.outlines.endLine.symm, Except.ok.inj hcontent⟩

section Language

variable {lang : Language} {p : Pattern}

/-- The patterns for methods are patterns for functions, except for that of a JavaScript method. -/
lemma mem_functions_of_mem_methods (hlang : lang ≠ .javascript)
    (hp : p ∈ (ofLanguage lang).methods) : p ∈ (ofLanguage lang).functions := by
  cases lang with
  | python | java | cpp => exact hp
  | typescript =>
    have hcases : p = scriptMethod ∨ p = scriptFunction "function_declaration" "identifier" := by
      simpa [ofLanguage, methods, scriptMethod] using hp
    rcases hcases with rfl | rfl <;> simp [ofLanguage, functions, scriptMethod]
  | javascript => exact absurd rfl hlang

/-- The patterns for functions with a name are patterns for methods. -/
lemma mem_methods_of_mem_functions (hp : p ∈ (ofLanguage lang).functions)
    (hname : .name ∈ p.roles) : p ∈ (ofLanguage lang).methods := by
  have harrow : p ≠ arrowFunction := by
    rintro rfl
    exact absurd hname (by decide)
  cases lang with
  | python | java | cpp => exact hp
  | typescript | javascript =>
    simp only [ofLanguage, functions, List.mem_cons, harrow, List.not_mem_nil, or_false] at hp
    simp only [ofLanguage, methods, List.mem_cons, List.not_mem_nil, or_false]
    tauto

lemma functions_define (d : Dialect) : ∀ p ∈ d.functions, p.Defines := by
  cases d <;> decide

/-- What JavaScript calls a function is a declaration or an arrow function. -/
lemma kind_of_function {x : Located}
    (hx : x ∈ (functions .javascript).captures root .definition) :
    x.node.kind = "function_declaration" ∨ x.node.kind = "arrow_function" := by
  obtain ⟨-, p, hp, found, hmatch⟩ :=
    (Query.mem_captures_definition (functions_define .javascript)).mp hx
  have hcases : p = scriptFunction "function_declaration" "identifier" ∨ p = arrowFunction := by
    simpa [functions] using hp
  rcases hcases with rfl | rfl
  · exact .inl (Pattern.kind_of_match hmatch)
  · exact .inr (Pattern.kind_of_match hmatch)

/-- What it calls a method is a method definition, or a declaration and so a function too. -/
lemma kind_of_method {x : Located}
    (hx : x ∈ (methods .javascript).captures root .definition) :
    x.node.kind = "method_definition" ∨ x.node.kind = "function_declaration" ∧
      x ∈ (functions .javascript).captures root .definition := by
  obtain ⟨hall, p, hp, found, hmatch⟩ :=
    (Query.mem_captures_definition (methods_define .javascript)).mp hx
  have hcases : p = scriptMethod ∨ p = scriptFunction "function_declaration" "identifier" := by
    simpa [methods, scriptMethod] using hp
  rcases hcases with rfl | rfl
  · exact .inl (Pattern.kind_of_match hmatch)
  · refine .inr ⟨Pattern.kind_of_match hmatch, ?_⟩
    exact (Query.mem_captures_definition (functions_define .javascript)).mpr
      ⟨hall, _, by simp [functions], found, hmatch⟩

/-- In the span of the node, the names of methods come after the name of a function. -/
def NamedFirst (root : Node) (x : Located) : Prop :=
  ∀ y ∈ Query.captures [scriptMethod] root .name, y.node.within x.node →
    ∃ z ∈ (functions .javascript).captures root .name, z.node.within x.node ∧ z.place < y.place

/-- Methods and functions have the same name if no name of a method is ahead. -/
lemma part?_of_namedFirst {x : Located} (h : NamedFirst root x) :
    part? ((methods .javascript).captures root) .name x.node =
      part? ((functions .javascript).captures root) .name x.node := by
  refine Query.part?_eq_of_later (Query.captures_subset fun p hp hname => ?_)
    fun y hy hnot hwithin => ?_
  · have hmem : p ∈ (ofLanguage .javascript).methods := mem_methods_of_mem_functions hp hname
    exact hmem
  · rcases Query.mem_captures_cons.mp hy with hy | hy
    · exact h y hy hwithin
    · exact absurd (Query.mem_captures_cons.mpr (.inl hy)) hnot

variable {es : List Element} {cs : List ClassStructure}

/-- Every method of a structure is made of a definition that the patterns for methods match. -/
lemma exists_made_of_method (hcs : d.extractStructures (matchFinder root) path = .ok cs)
    (hc : c ∈ cs) {m : ClassMember} (hm : m ∈ c.methods) :
    ∃ e, m = .element e ∧ ∃ x ∈ d.methods.captures root .definition,
      Made d (d.methods.captures root) d.unnamedFunction "function" x e := by
  obtain ⟨l, -, -, hl⟩ := exists_left_of_mem (extractStructures_structured hcs) hc
  obtain ⟨found, hfound, hmethods⟩ := hl.methods
  rw [hmethods] at hm
  obtain ⟨e, he, rfl⟩ := List.mem_map.mp hm
  obtain ⟨x, hx, hxe⟩ := exists_left_of_mem (mapM_eq_ok_iff.mp hfound) he
  exact ⟨e, rfl, x, List.mem_of_mem_filter hx, functionElement_made hxe⟩

/-- **The methods of classes are among the functions, except in JavaScript.** In any tree in which
both are found, however it is searched, and in every other language, each method of a structure
occurs among the functions, with its name, lines and text. In JavaScript the functions are
declarations and arrow functions, and no method definition is among them. A method that is a
declaration is, with its lines and text, and with its name unless the name of a method definition is
ahead of it. -/
theorem methods_among_functions (lang : Language) {find : Finder} (hfind : find.Searches root)
    (hes : (ofLanguage lang).extractAll find = .ok es)
    (hcs : (ofLanguage lang).extractStructures find path = .ok cs) :
    (lang ≠ .javascript → ∀ c ∈ cs, ∀ m ∈ c.methods, ∃ e, m = .element e ∧
      ∃ e' ∈ es, e'.kind = "function" ∧ Alike e e') ∧
    (lang = .javascript →
      (∀ e ∈ es, e.kind = "function" → ∃ x ∈ root.all, Outlines x.node e ∧
        (x.node.kind = "function_declaration" ∨ x.node.kind = "arrow_function")) ∧
      ∀ c ∈ cs, ∀ m ∈ c.methods, ∃ e, m = .element e ∧ ∃ x ∈ root.all, Outlines x.node e ∧
        (x.node.kind = "method_definition" ∨ x.node.kind = "function_declaration" ∧
          ∃ e' ∈ es, e'.kind = "function" ∧ Outlines x.node e' ∧
            (NamedFirst root x → Alike e e'))) := by
  obtain rfl := hfind.eq_matchFinder
  obtain ⟨functions, hfunctions, h⟩ := bind_eq_ok.mp hes
  obtain ⟨classes, hclasses, h⟩ := bind_eq_ok.mp h
  cases h
  have hmade := extractFunctions_made hfunctions
  refine ⟨fun hlang c hc m hm => ?_, ?_⟩
  · obtain ⟨e, rfl, x, hx, he⟩ := exists_made_of_method hcs hc hm
    have hx' : x ∈ (ofLanguage lang).functions.captures root .definition :=
      Query.captures_subset (fun p hp _ => mem_functions_of_mem_methods hlang hp) hx
    have hnames : (ofLanguage lang).methods.captures root .name =
        (ofLanguage lang).functions.captures root .name :=
      Query.captures_congr fun p hname =>
        ⟨mem_functions_of_mem_methods hlang, fun hp => mem_methods_of_mem_functions hp hname⟩
    obtain ⟨e', he', hmade'⟩ := exists_right_of_mem hmade hx'
    have halike : Alike e e' := he.alike hmade' (by rw [part?, hnames]; rfl)
    exact ⟨e, rfl, e', List.mem_append_left _ he', hmade'.kind, halike⟩
  · rintro rfl
    refine ⟨fun e he hkind => ?_, fun c hc m hm => ?_⟩
    · rcases List.mem_append.mp he with he | he
      · obtain ⟨x, hx, hmade'⟩ := exists_left_of_mem hmade he
        exact ⟨x, (Query.mem_captures.mp hx).1, hmade'.outlines, kind_of_function hx⟩
      · -- what is a class is not a function
        obtain ⟨x, -, hclass⟩ := exists_left_of_mem (extractClasses_made hclasses) he
        rw [hclass.kind] at hkind
        exact absurd hkind (by decide)
    · obtain ⟨e, rfl, x, hx, he⟩ := exists_made_of_method hcs hc hm
      refine ⟨e, rfl, x, (Query.mem_captures.mp hx).1, he.outlines, ?_⟩
      rcases kind_of_method hx with hkind | ⟨hkind, hx'⟩
      · exact .inl hkind
      · obtain ⟨e', he', hmade'⟩ := exists_right_of_mem hmade hx'
        exact .inr ⟨hkind, e', List.mem_append_left _ he', hmade'.kind, hmade'.outlines,
          fun hfirst => he.alike hmade' (part?_of_namedFirst hfirst)⟩

/-- A TypeScript class with one method. -/
theorem methods_among_functions_typescript :
    let t := scriptTree "type_identifier" 3
    ∃ es cs, extractAll .typescript (matchFinder t) = .ok es ∧
      extractStructures .typescript (matchFinder t) "a.ts" = .ok cs ∧
      cs.map (fun c => c.methodNames.map Datum.plain) = [["m"]] ∧
      ∀ c ∈ cs, ∀ m ∈ c.methods, ∃ e, m = .element e ∧
        ∃ e' ∈ es, e'.kind = "function" ∧ Alike e e' := by
  intro t
  obtain ⟨es, hes⟩ := isOk_iff.mp (show (extractAll .typescript (matchFinder t)).isOk by decide)
  have hmethods : (extractStructures .typescript (matchFinder t) "a.ts").toOption.map
      (fun cs => cs.map fun c => c.methodNames.map Datum.plain) = some [["m"]] := by decide
  obtain ⟨cs, hcs⟩ :=
    isOk_iff.mp (show (extractStructures .typescript (matchFinder t) "a.ts").isOk by decide)
  rw [hcs] at hmethods
  exact ⟨es, cs, hes, hcs, Option.some.inj hmethods,
    (methods_among_functions .typescript (searches_matchFinder t) hes hcs).1 nofun⟩

/-- **A JavaScript method is missing among the functions.** The class has it, the functions do not.
-/
theorem javascript_method_missing :
    let t := scriptTree "identifier" 3
    ((extractAll .javascript (matchFinder t)).toOption.map
      fun es => es.map fun e => (e.kind, e.name)) = some [("function", "f"), ("class", "A")] ∧
    ((extractStructures .javascript (matchFinder t) "a.js").toOption.map
      fun cs => cs.map fun c => (c.name, c.methodNames.map Datum.plain)) =
        some [("A", ["m"])] := by
  refine ⟨by decide, by decide⟩

end Language

end Dialect

end SpecScribe.Syntax
