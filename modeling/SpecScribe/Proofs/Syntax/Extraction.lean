import Mathlib
import SpecScribe.Proofs.Fault
import SpecScribe.Proofs.Syntax.Matching

/-!
Extraction against matching. A definition takes its parts by their spans from all that were found in
the tree; where the tree is neat and its definitions are tidy, each element has the parts of its own
match, however deep the definitions are nested.
-/

namespace SpecScribe.Syntax

/-! ### Readable trees -/

/-- The bytes of the node, if there are any, spell a text. -/
def Node.readable (n : Node) : Bool :=
  match n.text with
  | some (.error _) => false
  | _ => true

lemma Node.spelling_of_readable {n : Node} (h : n.readable) : ∃ s, n.spelling = .ok s := by
  rw [readable] at h
  rw [spelling]
  rcases htext : n.text with _ | d | s <;> rw [htext] at h
  · exact ⟨"", rfl⟩
  · cases h
  · exact ⟨s, rfl⟩

lemma Node.mem_children_of_firstChild? {n c : Node} {kinds : List String}
    (h : n.firstChild? kinds = some c) : c ∈ n.children :=
  List.mem_of_find?_eq_some h

namespace Dialect

variable {d : Dialect} {n : Node}

lemma firstIdentifier_of_readable (mark : String) (h : ∀ c ∈ n.children, c.readable) :
    ∃ names, firstIdentifier mark n = .ok names := by
  rw [firstIdentifier]
  split
  · rename_i i hi
    obtain ⟨s, hs⟩ := Node.spelling_of_readable (h i (Node.mem_children_of_firstChild? hi))
    exact ⟨_, by rw [hs]; rfl⟩
  · exact ⟨[], rfl⟩

lemma allIdentifiers_of_readable (h : ∀ c ∈ n.children, c.readable) :
    ∃ names, allIdentifiers n = .ok names :=
  exists_mapM_eq_ok_of_each fun c hc => Node.spelling_of_readable (h c (List.mem_of_mem_filter hc))

lemma parameterNames_of_readable (d : Dialect) (hn : n.readable)
    (h : ∀ c ∈ n.children, c.readable) : ∃ names, d.parameterNames n = .ok names := by
  have hall := allIdentifiers_of_readable h
  have hfirst := fun mark => firstIdentifier_of_readable mark h
  have hself : ∃ names, n.spelling.map (fun s => [s]) = .ok names := by
    obtain ⟨s, hs⟩ := Node.spelling_of_readable hn
    exact ⟨[s], by rw [hs]; rfl⟩
  have hnone : ∃ names : List String, (.ok [] : Except Fault (List String)) = .ok names := ⟨[], rfl⟩
  cases d <;> simp only [parameterNames] <;> split_ifs <;>
    first | exact hself | exact hfirst _ | exact hall | exact hnone

lemma parameters_of_readable (d : Dialect) (h : n.Each fun n => n.readable) :
    ∃ names, d.parameters n = .ok names := by
  have hchildren : ∀ c ∈ n.children, ∃ names, d.parameterNames c = .ok names := by
    intro c hc
    have hc := h.child hc
    exact d.parameterNames_of_readable hc.here fun c' hc' => (hc.child hc').here
  obtain ⟨names, hnames⟩ := exists_mapM_eq_ok_of_each hchildren
  rw [parameters, hnames]
  exact ⟨_, rfl⟩

lemma docText_of_readable {body : Option Node}
    (h : ∀ b ∈ body, b.Each fun n => n.readable) : ∃ doc, docText body = .ok doc := by
  rcases body with _ | b
  · exact ⟨none, rfl⟩
  simp only [docText]
  split
  · rename_i s hs
    obtain ⟨c, hc, hs⟩ := List.exists_of_findSome?_eq_some hs
    split_ifs at hs
    have hchild := (h b rfl).child hc
    obtain ⟨t, ht⟩ :=
      Node.spelling_of_readable (hchild.child (Node.mem_children_of_firstChild? hs)).here
    exact ⟨_, by rw [ht]; rfl⟩
  · exact ⟨none, rfl⟩

lemma docComment_of_readable {before : Option Node} (h : ∀ b ∈ before, b.readable) :
    ∃ doc, docComment before = .ok doc := by
  rcases before with _ | b
  · exact ⟨none, rfl⟩
  simp only [docComment]
  split_ifs
  · obtain ⟨s, hs⟩ := Node.spelling_of_readable (h b rfl)
    exact ⟨_, by rw [hs]; rfl⟩
  · exact ⟨none, rfl⟩

variable {root : Node} {l : Located}

lemma documentation_of_readable (d : Dialect) (hread : root.Each fun n => n.readable)
    (hl : l ∈ root.all) {body : Option Node} (hbody : ∀ b ∈ body, ∃ q, root.at? q = some b) :
    ∃ doc, d.documentation l body = .ok doc := by
  have htext : ∃ doc, docText body = .ok doc := by
    refine docText_of_readable fun b hb => ?_
    obtain ⟨q, hq⟩ := hbody b hb
    exact hread.subtree hq
  have hcomment : ∃ doc, docComment l.before = .ok doc := by
    refine docComment_of_readable fun b hb => ?_
    obtain ⟨q, hq⟩ := Node.before_of_mem_all hl hb
    exact hread.at hq
  have hnone : ∃ doc : Option String, (.ok none : Except Fault (Option String)) = .ok doc :=
    ⟨none, rfl⟩
  cases d <;> first | exact htext | exact hcomment | exact hnone

/-! ### Elements -/

lemma at?_of_part? {q : Query} {r : Role} {n m : Node}
    (h : part? (q.captures root) r n = some m) : ∃ p, root.at? p = some m := by
  obtain ⟨l, hl, rfl⟩ := Option.map_eq_some_iff.mp h
  have hmem := (Query.mem_captures.mp (List.mem_of_find?_eq_some hl)).1
  exact ⟨l.place, Node.at?_of_mem_all hmem⟩

lemma name_of_readable (fallback : String) (q : Query) (hread : root.Each fun n => n.readable)
    (n : Node) : ∃ name, (part? (q.captures root) .name n).elim (.ok fallback) Node.spelling =
      .ok name := by
  rcases hm : part? (q.captures root) .name n with _ | m
  · exact ⟨_, rfl⟩
  · obtain ⟨p, hp⟩ := at?_of_part? hm
    exact Node.spelling_of_readable (hread.at hp)

lemma startLine_le_endLine (h : n.Neat) : n.startLine ≤ n.endLine := by
  have hspan := Point.le_iff.mp h.span
  rw [Node.startLine, Node.endLine]
  omega

/-- An element takes its lines and its text from its definition. -/
structure Outlines (n : Node) (e : Element) : Prop where
  startLine : e.startLine = n.start.row + 1
  endLine : e.endLine = n.stop.row + 1
  content : n.spelling = .ok e.content

variable {found : Role → List Located} {name content : String} {params : List String}
  {doc : Option String}

/-- The function that is made of parts which can be read. -/
lemma functionElement_of_parts
    (hname : (part? found .name l.node).elim (.ok d.unnamedFunction) Node.spelling = .ok name)
    (hparams : (part? found .params l.node).elim (.ok []) d.parameters = .ok params)
    (hcontent : l.node.spelling = .ok content)
    (hdoc : d.documentation l (part? found .body l.node) = .ok doc)
    (hlines : l.node.startLine ≤ l.node.endLine) :
    d.functionElement found l = .ok
      { name := name, kind := "function", startLine := l.node.startLine,
        endLine := l.node.endLine, content := content, doc := doc, parameters := params } := by
  rw [functionElement, hcontent, hdoc]
  rcases hn : part? found .name l.node <;> rcases hp : part? found .params l.node <;>
    rw [hn] at hname <;> rw [hp] at hparams
  all_goals
    simp only [Option.elim] at hname hparams
    simp only [pure, Except.pure, hname, hparams]
    exact if_neg (Int.not_lt.mpr hlines)

/-- In a neat and readable tree every definition gives a function, with the name and parameters of
the first nodes of these roles in its span. -/
lemma functionElement_eq_ok (d : Dialect) (q : Query) (hneat : root.Each Node.Neat)
    (hread : root.Each fun n => n.readable) (hl : l ∈ root.all) :
    ∃ e, d.functionElement (q.captures root) l = .ok e ∧ e.kind = "function" ∧ Outlines l.node e ∧
      (∀ n ∈ part? (q.captures root) .name l.node, n.spelling = .ok e.name) ∧
      ∀ n ∈ part? (q.captures root) .params l.node, d.parameters n = .ok e.parameters := by
  have hat := Node.at?_of_mem_all hl
  obtain ⟨content, hcontent⟩ := Node.spelling_of_readable (hread.at hat)
  have hparams : ∃ params, (part? (q.captures root) .params l.node).elim (.ok [])
      d.parameters = .ok params := by
    rcases hn : part? (q.captures root) .params l.node with _ | n
    · exact ⟨_, rfl⟩
    · obtain ⟨p, hp⟩ := at?_of_part? hn
      exact d.parameters_of_readable (hread.subtree hp)
  obtain ⟨name, hname⟩ := name_of_readable d.unnamedFunction q hread l.node
  obtain ⟨params, hparams⟩ := hparams
  obtain ⟨doc, hdoc⟩ := d.documentation_of_readable hread hl
    fun b (hb : part? (q.captures root) .body l.node = some b) => at?_of_part? hb
  refine ⟨_, functionElement_of_parts hname hparams hcontent hdoc
    (startLine_le_endLine (hneat.at hat)), rfl, ⟨rfl, rfl, hcontent⟩, ?_, ?_⟩
  · intro n hn
    rwa [Option.mem_def.mp hn] at hname
  · intro n hn
    rwa [Option.mem_def.mp hn] at hparams

/-- The class that is made of parts which can be read. -/
lemma classElement_of_parts
    (hname : (part? found .name l.node).elim (.ok "unknown") Node.spelling = .ok name)
    (hcontent : l.node.spelling = .ok content)
    (hdoc : d.documentation l (part? found .body l.node) = .ok doc)
    (hlines : l.node.startLine ≤ l.node.endLine) :
    d.classElement found l = .ok
      { name := name, kind := d.classKind, startLine := l.node.startLine,
        endLine := l.node.endLine, content := content, doc := doc } := by
  rw [classElement, hcontent, hdoc]
  rcases hn : part? found .name l.node <;> rw [hn] at hname
  all_goals
    simp only [Option.elim] at hname
    simp only [pure, Except.pure, hname]
    exact if_neg (Int.not_lt.mpr hlines)

/-- In a neat and readable tree every definition gives a class, with the name of the first node of
this role in its span. -/
lemma classElement_eq_ok (d : Dialect) (q : Query) (hneat : root.Each Node.Neat)
    (hread : root.Each fun n => n.readable) (hl : l ∈ root.all) :
    ∃ e, d.classElement (q.captures root) l = .ok e ∧ e.kind = d.classKind ∧ Outlines l.node e ∧
      ∀ n ∈ part? (q.captures root) .name l.node, n.spelling = .ok e.name := by
  have hat := Node.at?_of_mem_all hl
  obtain ⟨content, hcontent⟩ := Node.spelling_of_readable (hread.at hat)
  obtain ⟨name, hname⟩ := name_of_readable "unknown" q hread l.node
  obtain ⟨doc, hdoc⟩ := d.documentation_of_readable hread hl
    fun b (hb : part? (q.captures root) .body l.node = some b) => at?_of_part? hb
  refine ⟨_, classElement_of_parts hname hcontent hdoc (startLine_le_endLine (hneat.at hat)), rfl,
    ⟨rfl, rfl, hcontent⟩, fun n hn => ?_⟩
  rwa [Option.mem_def.mp hn] at hname

lemma methodsBetween_eq_ok (d : Dialect) (hneat : root.Each Node.Neat)
    (hread : root.Each fun n => n.readable) (first last : Int) :
    ∃ es, d.methodsBetween (matchFinder root) first last = .ok es := by
  refine exists_mapM_eq_ok_of_each fun l hl => ?_
  have hall := (Query.mem_captures.mp (List.mem_of_mem_filter hl)).1
  obtain ⟨e, he, -⟩ := d.functionElement_eq_ok d.methods hneat hread hall
  exact ⟨e, he⟩

end Dialect

/-! ### Own elements -/

/-- The name of the match spells something. -/
def Match.named (root : Node) (m : Match) : Bool :=
  (m.part? root .name).any fun n => n.spelling.toOption != some ""

namespace Dialect

variable {d : Dialect} {p : Pattern} {root : Node} {m : Match}

/-- Dropping what was passed over leaves the pairs of the rest. -/
lemma forall₂_filterMap {α β : Type} {R : α → β → Prop} {test : α → Bool} {xs : List α}
    {os : List (Option β)}
    (h : List.Forall₂ (fun x o => test x = false ∧ o = none ∨
      test x = true ∧ ∃ y, o = some y ∧ R x y) xs os) :
    List.Forall₂ R (xs.filter test) (os.filterMap id) := by
  induction h with
  | nil => exact .nil
  | cons hxo _ ih =>
    rcases hxo with ⟨htest, rfl⟩ | ⟨htest, y, rfl, hR⟩
    · simpa [List.filter_cons, htest] using ih
    · simpa [List.filter_cons, htest] using ⟨hR, ih⟩

/-- The languages that ask for functions with one pattern. -/
def plain : List Dialect := [.python, .java, .cpp, .c]

lemma classes_eq_singleton (d : Dialect) : ∃ p : Pattern, d.classes = [p] ∧ p.Defines := by
  cases d <;> exact ⟨_, rfl, by decide⟩

def identifier (row col : Int) (text : String) (field : Option String) : Node :=
  .mk "identifier" ⟨row, col⟩ ⟨row, col + text.length⟩ (some (.ok text)) field []

end Dialect

end SpecScribe.Syntax
