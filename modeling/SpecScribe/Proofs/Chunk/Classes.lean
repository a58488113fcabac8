import Mathlib
import SpecScribe.Chunk.Splitting
import SpecScribe.Proofs.Datum.Shape
import SpecScribe.Proofs.Fault
import SpecScribe.Proofs.Schema.Fields
import SpecScribe.Proofs.Syntax.Parts
import SpecScribe.Proofs.Workspace.Writing

/-!
What becomes of the classes of a file. A class that fits is one chunk, with its whole text; a class
that does not is cut into one chunk for each method. So every method is in some chunk of its class,
but a class that does not fit and has no methods is lost.
-/

namespace SpecScribe

/-- The lines of a class are in order, counted from one. -/
structure ClassStructure.Ordered (c : ClassStructure) : Prop where
  first : 1 ≤ c.startLine
  lines : c.startLine ≤ c.endLine

/-- The text of a method or attribute. -/
def ClassMember.content (m : ClassMember) : String := (m.attributeOrShown "content").plain

namespace Chunk

open Workspace Syntax Schema

variable {path : Path} {l : Language}

/-- A chunk is made if its lines are in order. -/
lemma make_of_lines (content : String) (path : Path) (l : Language) (kind : String) {first last : ℤ}
    (hfirst : 1 ≤ first) (hlast : first ≤ last) :
    CodeChunk.make content path l first last kind =
      .ok ⟨content, .ofString path.toString, l, first, last, kind⟩ := by
  rw [CodeChunk.make]
  set ms : Members :=
    [("content", .text content), ("file_path", .text path.toString), ("language", .text l.name),
     ("start_line", .int first), ("end_line", .int last), ("chunk_type", .text kind)] with hms
  have hcontent : required ms "content" text = .ok content := rfl
  have hpath : required ms "file_path" Path.rule = .ok (.ofString path.toString) := rfl
  have hlanguage : required ms "language" Language.rule = .ok l :=
    required_eq_ok.mpr ⟨.text l.name, rfl, by cases l <;> rfl⟩
  have hstart : required ms "start_line" (atLeast 1 integer) = .ok first :=
    required_eq_ok.mpr ⟨.int first, rfl, atLeast_eq_ok.mpr ⟨rfl, hfirst⟩⟩
  have hstop : required ms "end_line" (atLeast 1 integer) = .ok last :=
    required_eq_ok.mpr ⟨.int last, rfl, atLeast_eq_ok.mpr ⟨rfl, hfirst.trans hlast⟩⟩
  have hkind : required ms "chunk_type" text = .ok kind := rfl
  have hordered : ensureGiven ms "end_line" (.ok last)
      (fun n => if n < first then some lineOrderMessage else none) = .ok last :=
    ensureGiven_eq_ok.mpr ⟨rfl, fun _ => if_neg hlast.not_gt⟩
  unfold CodeChunk.read
  simp only [hcontent, hpath, hlanguage, hstart, hstop, hkind, hordered]

/-! ### The chunks of one class -/

/-- The chunk is one of the class. -/
structure EnhancedChunk.Of (e : EnhancedChunk) (c : ClassStructure) : Prop where
  structures : e.structures = [c]
  parent : e.parent = some c.name

/-- The one chunk of a class that fits. -/
def wholeChunk (path : Path) (l : Language) (c : ClassStructure) : EnhancedChunk :=
  ⟨⟨c.unified, .ofString path.toString, l, c.startLine, c.endLine, "complete_class"⟩, [c], true,
    some c.name⟩

/-- The chunk of one method of a class that does not. -/
def methodChunk (path : Path) (l : Language) (c : ClassStructure) (e : Element) : EnhancedChunk :=
  ⟨⟨classHeader c ++ "\n\n    " ++ e.content, .ofString path.toString, l, e.startLine, e.endLine,
    "class_method"⟩, [c], false, some c.name⟩

/-- The methods of a class are elements whose lines are in order and begin on those of the class. -/
structure HasMethods (c : ClassStructure) (es : List Element) : Prop where
  methods : c.methods = es.map .element
  lines : ∀ e ∈ es, c.startLine ≤ e.startLine ∧ e.startLine ≤ e.endLine

variable {c : ClassStructure} {es : List Element} {size : ℤ}

lemma splitClass_eq (hc : c.Ordered) (hes : HasMethods c es) :
    splitClass c path l = .ok (es.map (methodChunk path l c)) := by
  rw [splitClass, hes.methods, mapM_map_eq_ok_iff]
  refine mapM_eq_ok_map fun e he => ?_
  obtain ⟨hfirst, hlast⟩ := hes.lines e he
  have hmake := make_of_lines (classHeader c ++ "\n\n    " ++ e.content) path l "class_method"
    (hc.first.trans hfirst) hlast
  rw [CodeChunk.make] at hmake
  simp only [ClassMember.attributeOrShown, ClassMember.attribute?, Option.getD_some, Datum.plain,
    hmake]
  rfl

lemma compareBy_le (m n : ℤ) : Datum.compareBy .le (.int m) (.int n) = .ok (decide (m ≤ n)) :=
  Datum.compareBy_int .le m n

lemma classChunks_of_fits (hc : c.Ordered) (hfits : c.unified.length ≤ size) :
    classChunks (.int size) path l c = .ok [wholeChunk path l c] := by
  have hmake := make_of_lines c.unified path l "complete_class" hc.first hc.lines
  rw [classChunks, compareBy_le, decide_eq_true hfits, ok_bind]
  simp only [hmake]
  rfl

lemma classChunks_of_large (hc : c.Ordered) (hes : HasMethods c es)
    (hlarge : size < c.unified.length) :
    classChunks (.int size) path l c = .ok (es.map (methodChunk path l c)) := by
  rw [classChunks, compareBy_le, decide_eq_false hlarge.not_ge, ok_bind, splitClass_eq hc hes]
  rfl

/-! ### Texts of methods -/

lemma infix_intercalate {sep x : String} {xs : List String} (hx : x ∈ xs) :
    x.toList <:+: (sep.intercalate xs).toList := by
  induction xs with
  | nil => cases hx
  | cons y ys ih =>
    rcases ys with _ | ⟨z, zs⟩
    · rw [List.mem_singleton.mp hx, String.intercalate_singleton]
    · rw [String.intercalate_cons_cons, String.toList_append, String.toList_append]
      rcases List.mem_cons.mp hx with rfl | hx
      · rw [List.append_assoc]
        exact (List.prefix_append ..).isInfix
      · exact (ih hx).trans (List.suffix_append ..).isInfix

/-- The text of a class holds those of its methods. -/
lemma infix_unified {m : ClassMember} (hm : m ∈ c.methods) :
    m.content.toList <:+: c.unified.toList := by
  have hline : "    " ++ m.content ∈ c.docLines ++ ["class " ++ c.name ++ ":"]
      ++ c.methods.map (fun m => "    " ++ m.content)
      ++ c.attributes.map (fun a => "    # Attribute: " ++ a.content) :=
    List.mem_append_left _ (List.mem_append_right _ (List.mem_map_of_mem hm))
  have htext : m.content.toList <:+: ("    " ++ m.content).toList := by
    rw [String.toList_append]
    exact (List.suffix_append ..).isInfix
  exact htext.trans (infix_intercalate hline)

lemma infix_methodChunk (path : Path) (l : Language) (c : ClassStructure) (e : Element) :
    e.content.toList <:+: (methodChunk path l c e).chunk.content.toList := by
  simp only [methodChunk, String.toList_append]
  exact (List.suffix_append ..).isInfix

/-! ### The classes of a file -/

variable {ps : Parsers} {s : Store} {name : String}

/-- The classes of a file are found by the extraction of its language. -/
lemma exists_extraction (hc : c ∈ ps.fileStructures s path name l) :
    ∃ find cs, (Dialect.ofLanguage l).extractStructures find name = .ok cs ∧ c ∈ cs := by
  unfold Parsers.fileStructures at hc
  split_ifs at hc
  · split at hc
    · rename_i content _
      unfold Parsers.orNone at hc
      split at hc
      · rename_i cs hcs
        obtain ⟨find, -, hcs⟩ := bind_eq_ok.mp hcs
        exact ⟨find, cs, hcs, hc⟩
      · cases hc
    · cases hc
  · cases hc

/-- So their methods are elements with lines in order, on those of the class. -/
lemma exists_methods (hc : c ∈ ps.fileStructures s path name l) : ∃ es, HasMethods c es := by
  obtain ⟨find, cs, hcs, hc⟩ := exists_extraction hc
  obtain ⟨x, hx⟩ := Dialect.exists_structured hcs hc
  obtain ⟨es, hes, hmethods⟩ := hx.methods
  refine ⟨es, hmethods, fun e he => ?_⟩
  obtain ⟨y, hy, hmade⟩ := exists_left_of_mem (mapM_eq_ok_iff.mp hes) he
  have hlines := Dialect.lines_of_functionElement hmade
  have houtlines := (Dialect.functionElement_made hmade).outlines
  have hbetween := (List.mem_filter.mp hy).2
  rw [Bool.and_eq_true, decide_eq_true_eq] at hbetween
  rw [hx.startLine, houtlines.startLine, houtlines.endLine]
  exact ⟨hbetween.1, hlines⟩

/-- What a class is cut into: one chunk if it fits, else one for each method. -/
inductive CutInto (size : ℤ) (path : Path) (l : Language) (c : ClassStructure) :
    List EnhancedChunk → Prop
  | whole (fits : c.unified.length ≤ size) : CutInto size path l c [wholeChunk path l c]
  | byMethod (es : List Element) (large : size < c.unified.length) (methods : HasMethods c es) :
    CutInto size path l c (es.map (methodChunk path l c))

lemma classChunks_cutInto (size : ℤ) (hc : c ∈ ps.fileStructures s path name l)
    (hordered : c.Ordered) :
    ∃ ds, classChunks (.int size) path l c = .ok ds ∧ CutInto size path l c ds := by
  obtain ⟨es, hes⟩ := exists_methods hc
  rcases le_or_gt (c.unified.length : ℤ) size with hfits | hlarge
  · exact ⟨_, classChunks_of_fits hordered hfits, .whole hfits⟩
  · exact ⟨_, classChunks_of_large hordered hes hlarge, .byMethod es hlarge hes⟩

/-- The chunks of a file with classes are what these are cut into, in their order. -/
lemma ofClasses_cutInto (size : ℤ) (sp : Splitters)
    (hsome : ps.fileStructures s path path.toString l ≠ [])
    (hordered : ∀ c ∈ ps.fileStructures s path path.toString l, c.Ordered) :
    ∃ dss, ofClasses (.int size) sp ps s path l = dss.flatten ∧
      List.Forall₂ (CutInto size path l) (ps.fileStructures s path path.toString l) dss := by
  obtain ⟨dss, hdss, hcut⟩ := exists_mapM_eq_ok fun c hc =>
    classChunks_cutInto size hc (hordered c hc)
  refine ⟨dss, ?_, hcut⟩
  unfold ofClasses
  split
  · contradiction
  · rw [hdss]
    rfl

namespace CutInto

variable {ds : List EnhancedChunk} {e : EnhancedChunk}

lemma of (h : CutInto size path l c ds) (he : e ∈ ds) : e.Of c := by
  cases h with
  | whole =>
    rw [List.mem_singleton.mp he]
    exact ⟨rfl, rfl⟩
  | byMethod es =>
    obtain ⟨m, -, rfl⟩ := List.mem_map.mp he
    exact ⟨rfl, rfl⟩

lemma ne_nil_iff (h : CutInto size path l c ds) :
    ds ≠ [] ↔ c.unified.length ≤ size ∨ c.methods ≠ [] := by
  cases h with
  | whole hfits => simp [hfits]
  | byMethod es hlarge hes => simp [hes.methods, hlarge.not_ge]

/-- Each method is part of one of the chunks. -/
lemma exists_infix (h : CutInto size path l c ds) {m : ClassMember} (hm : m ∈ c.methods) :
    ∃ e ∈ ds, m.content.toList <:+: e.chunk.content.toList := by
  cases h with
  | whole => exact ⟨_, List.mem_singleton_self _, infix_unified hm⟩
  | byMethod es _ hes =>
    rw [hes.methods] at hm
    obtain ⟨e, he, rfl⟩ := List.mem_map.mp hm
    exact ⟨_, List.mem_map_of_mem he, infix_methodChunk path l c e⟩

end CutInto

/-- **What is kept of the classes of a file.** Where the lines of the classes are in order, each
class that fits is kept as one chunk with its whole text, and each method of each class is part of a
chunk of its class. A class has a chunk exactly if it fits or has a method. -/
theorem ofClasses_keeps_classes (size : ℤ) (sp : Splitters) (ps : Parsers) (s : Store) (path : Path)
    (l : Language) (hordered : ∀ c ∈ ps.fileStructures s path path.toString l, c.Ordered) :
    ∀ c ∈ ps.fileStructures s path path.toString l,
      (c.unified.length ≤ size → ∃ e ∈ ofClasses (.int size) sp ps s path l,
        e.Of c ∧ e.complete ∧ e.chunk.content = c.unified) ∧
      (∀ m ∈ c.methods, ∃ e ∈ ofClasses (.int size) sp ps s path l,
        e.Of c ∧ m.content.toList <:+: e.chunk.content.toList) ∧
      ((∃ e ∈ ofClasses (.int size) sp ps s path l, e.Of c) ↔
        c.unified.length ≤ size ∨ c.methods ≠ []) := by
  intro c hc
  obtain ⟨dss, hdss, hcut⟩ := ofClasses_cutInto size sp (List.ne_nil_of_mem hc) hordered
  obtain ⟨ds, hds, hcds⟩ := exists_right_of_mem hcut hc
  rw [hdss]
  have hmem : ∀ e ∈ ds, e ∈ dss.flatten := fun e he => List.mem_flatten.mpr ⟨ds, hds, he⟩
  refine ⟨fun hfits => ?_, fun m hm => ?_, ?_⟩
  · cases hcds with
    | whole => exact ⟨_, hmem _ (List.mem_singleton_self _), ⟨rfl, rfl⟩, rfl, rfl⟩
    | byMethod es hlarge => exact absurd hfits hlarge.not_ge
  · obtain ⟨e, he, hinfix⟩ := hcds.exists_infix hm
    exact ⟨e, hmem e he, hcds.of he, hinfix⟩
  constructor
  · rintro ⟨e, he, hof⟩
    obtain ⟨ds', hds', he⟩ := List.mem_flatten.mp he
    obtain ⟨c', -, hcut'⟩ := exists_left_of_mem hcut hds'
    -- a chunk is one of a single class
    obtain rfl : c' = c := by
      have heq := (hcut'.of he).structures.symm.trans hof.structures
      exact List.singleton_inj.mp heq
    exact hcut'.ne_nil_iff.mp (List.ne_nil_of_mem he)
  · intro h
    obtain ⟨e, he⟩ := List.exists_mem_of_ne_nil ds (hcds.ne_nil_iff.mpr h)
    exact ⟨e, hmem e he, hcds.of he⟩

/-! ### A class with a long documentation -/

/-- A file that is read, parsed and searched has the classes that are found. -/
lemma fileStructures_eq {content : Content} {find : Finder} {cs : List ClassStructure}
    (hl : ps.supports l) (hread : s.read path = .ok content)
    (hparse : ps.parse l content.toBytes = .ok find)
    (hcs : (Dialect.ofLanguage l).extractStructures find name = .ok cs) :
    ps.fileStructures s path name l = cs := by
  rw [Parsers.fileStructures, if_pos hl, hread]
  simp only [hparse, ok_bind, hcs]
  rfl

/-- A documentation of 100 letters. -/
def longDoc : String := String.ofList (List.replicate 100 'a')

/-- A class on the rows 0 to 4, with a long documentation in front of the given methods. -/
def documentedTree (methods : List Node) : Node :=
  .mk "module" ⟨0, 0⟩ ⟨5, 0⟩ none none
    [.mk "class_definition" ⟨0, 0⟩ ⟨4, 20⟩ none none
      [.mk "identifier" ⟨0, 6⟩ ⟨0, 7⟩ (some (.ok "A")) (some "name") [],
       .mk "block" ⟨1, 4⟩ ⟨4, 20⟩ none (some "body")
        (.mk "expression_statement" ⟨1, 4⟩ ⟨1, 110⟩ none none
          [.mk "string" ⟨1, 4⟩ ⟨1, 110⟩ (some (.ok ("\"\"\"" ++ longDoc ++ "\"\"\""))) none []]
          :: methods)]]

/-- The structure of that class. -/
def documentedClass (methods : List ClassMember) : ClassStructure :=
  { name := "A", methods := methods, attributes := [], doc := some longDoc, startLine := 1,
    endLine := 5, path := "a.py" }

/-- A store of one file, and parsers that give it the tree. -/
def oneFile : Store := { root := .dir [("a.py", .file ⟨[], 0⟩)] }

def parsersFor (tree : Node) : Parsers := ⟨[.python], fun _ _ => .ok (matchFinder tree)⟩

lemma read_oneFile : oneFile.read ⟨"", ["a.py"]⟩ = .ok ⟨[], 0⟩ :=
  Store.read_of_stat (Store.stat_name rfl (by decide) (by decide) rfl)

lemma fileStructures_oneFile {tree : Node} {cs : List ClassStructure}
    (h : Dialect.python.extractStructures (matchFinder tree) "a.py" = .ok cs) :
    (parsersFor tree).fileStructures oneFile ⟨"", ["a.py"]⟩ "a.py" .python = cs :=
  fileStructures_eq rfl read_oneFile rfl h

/-- The class does not fit and has one method. -/
theorem ofClasses_keeps_classes_cut :
    let tree := documentedTree
      [.mk "function_definition" ⟨3, 4⟩ ⟨3, 20⟩ (some (.ok "def f(): pass")) none
        [.mk "identifier" ⟨3, 8⟩ ⟨3, 9⟩ (some (.ok "f")) (some "name") [],
         .mk "block" ⟨3, 13⟩ ⟨3, 20⟩ none (some "body") []]]
    let c := documentedClass [.element
      { name := "f", kind := "function", startLine := 4, endLine := 4, content := "def f(): pass" }]
    let chunks := ofClasses (.int 100) ⟨fun _ => .ok [], none⟩ (parsersFor tree) oneFile
      ⟨"", ["a.py"]⟩ .python
    (parsersFor tree).fileStructures oneFile ⟨"", ["a.py"]⟩ "a.py" .python = [c] ∧ c.Ordered ∧
      100 < c.unified.length ∧
      (∀ m ∈ c.methods, ∃ e ∈ chunks, e.Of c ∧ m.content.toList <:+: e.chunk.content.toList) ∧
      ((∃ e ∈ chunks, e.Of c) ↔ c.unified.length ≤ (100 : ℤ) ∨ c.methods ≠ []) := by
  intro tree c chunks
  have hfile : (parsersFor tree).fileStructures oneFile ⟨"", ["a.py"]⟩ "a.py" .python = [c] :=
    fileStructures_oneFile rfl
  have hordered : c.Ordered := ⟨by decide, by decide⟩
  obtain ⟨-, hmethods, hkept⟩ := ofClasses_keeps_classes 100 ⟨fun _ => .ok [], none⟩
    (parsersFor tree) oneFile ⟨"", ["a.py"]⟩ .python
    (fun c' hc' => List.mem_singleton.mp (hfile ▸ hc') ▸ hordered) c
    (hfile ▸ List.mem_singleton_self c)
  exact ⟨hfile, hordered, by decide +kernel, hmethods, hkept⟩

/-- **A class can be lost.** It does not fit and has no methods. -/
theorem ofClasses_loses_class :
    let tree := documentedTree []
    (parsersFor tree).fileStructures oneFile ⟨"", ["a.py"]⟩ "a.py" .python = [documentedClass []] ∧
      (documentedClass []).Ordered ∧
      ofClasses (.int 100) ⟨fun _ => .ok [], none⟩ (parsersFor tree) oneFile ⟨"", ["a.py"]⟩
        .python = [] := by
  intro tree
  have hfile : (parsersFor tree).fileStructures oneFile ⟨"", ["a.py"]⟩ "a.py" .python =
      [documentedClass []] := fileStructures_oneFile rfl
  have hordered : (documentedClass []).Ordered := ⟨by decide, by decide⟩
  have hlarge : (100 : ℤ) < (documentedClass []).unified.length := by decide +kernel
  have hnone : HasMethods (documentedClass []) [] := ⟨rfl, List.forall_mem_nil _⟩
  have hchunks : classChunks (.int 100) ⟨"", ["a.py"]⟩ .python (documentedClass []) = .ok [] :=
    classChunks_of_large hordered hnone hlarge
  refine ⟨hfile, hordered, ?_⟩
  have hname : Path.toString ⟨"", ["a.py"]⟩ = "a.py" := rfl
  rw [ofClasses, hname, hfile]
  simp only [List.mapM_cons, List.mapM_nil, hchunks, ok_bind]
  rfl

end Chunk

end SpecScribe
