import Mathlib
import SpecScribe.Document.Specification
import SpecScribe.Proofs.Analysis.Combining

/-!
Writing a document from combined analyses. The sections can be written exactly when every function,
class and dependency has the shape that some section looks for.
-/

namespace SpecScribe.Document

open Analysis Datum

/-! ### What the sections need -/

/-- The text of a member in small letters; empty if it is missing. -/
def loweredMember (d : Datum) (key : String) : String :=
  String.ofList (Text.lower ((d.get? key).getD (.text "")).toText.toList)

/-- The function is part of an interface, by its name or its purpose. -/
def isInterface (f : Datum) : Bool :=
  Text.occursIn "api" (loweredMember f "name") ||
    Text.occursIn "interface" (loweredMember f "purpose")

/-- A function that can be written about: its name and purpose are texts where they are given, and
so are the inputs where it is part of an interface. -/
@[mk_iff] structure WritableFunction (f : Datum) : Prop where
  record : f.isRecord
  name : ∀ v ∈ f.get? "name", v.isText
  purpose : ∀ v ∈ f.get? "purpose", v.isText
  inputs : isInterface f → ∀ v ∈ f.get? "inputs", v.isTruthy → v.isJoinable

/-- A class that can be written about: its first methods can be taken, and its attributes are
texts. -/
structure WritableClass (c : Datum) : Prop where
  record : c.isRecord
  methods : ∀ v ∈ c.get? "methods", v.isSequence
  attributes : ∀ v ∈ c.get? "attributes", v.isJoinable

/-- Parts that can be written about. -/
def Writable (p : Parts) : Prop := p.Each WritableFunction WritableClass fun d => d.isRecord

section Items

variable (f c : Datum)

lemma isOk_diagramClass :
    (diagramClass c).isOk ↔ c.isRecord ∧ ∀ v ∈ c.get? "methods", v.isSequence := by
  simp only [diagramClass, isOk_member_bind]
  rw [isOk_bind_of_forall fun _ => isOk_pure _, isOk_firstItems, getD_iff rfl]
  tauto

lemma isOk_functionRow : (functionRow f).isOk ↔ f.isRecord := by
  simp only [functionRow, isOk_member_bind, isOk_pure, and_true, and_self]

lemma isOk_methodLines {methods : Datum} (h : methods.isSequence) : (methodLines methods).isOk := by
  unfold methodLines
  split_ifs
  · rfl
  · rw [isOk_bind_of_forall fun _ => isOk_pure _, isOk_firstItems, h]

lemma isOk_classPart : (classPart c).isOk ↔ c.isRecord ∧ (∀ v ∈ c.get? "attributes", v.isJoinable) ∧
    (methodLines ((c.get? "methods").getD (.list []))).isOk := by
  simp only [classPart, isOk_member_bind]
  rw [isOk_bind_iff fun _ => isOk_bind_iff (P := c.isRecord) fun _ => by
    simp only [isOk_member_bind, isOk_pure, and_true], isOk_joined, getD_iff rfl]
  tauto

lemma isOk_dataStructure (h : WritableClass c) : (dataStructure c).isOk := by
  simp only [dataStructure, isOk_member_bind]
  refine ⟨h.record, ?_⟩
  split_ifs
  · have hjoinable : ((c.get? "attributes").getD (.list [])).isJoinable :=
      (getD_iff rfl _).mpr h.attributes
    obtain ⟨xs, hxs⟩ := Option.isSome_iff_exists.mp (isSome_items?_of_isJoinable hjoinable)
    simp only [isOk_items_bind, isOk_member_bind, isOk_pure, h.record, and_true]
    exact ⟨xs, hxs⟩
  · rfl

lemma isOk_interfaceFunction : (interfaceFunction f).isOk ↔ WritableFunction f := by
  -- inputs that are missing are an empty list, and nothing is joined then
  have hinputs : (∀ v ∈ f.get? "inputs", v.isTruthy → v.isJoinable) ↔
      (((f.get? "inputs").getD (.list [])).isTruthy →
        ((f.get? "inputs").getD (.list [])).isJoinable) := by
    cases f.get? "inputs" <;> simp [isTruthy]
  simp only [interfaceFunction, isOk_member_bind, isOk_lowered_bind]
  rw [writableFunction_iff, hinputs, getD_iff rfl, getD_iff rfl, isInterface, loweredMember,
    loweredMember]
  generalize (Text.occursIn "api" _ || Text.occursIn "interface" _) = interface
  by_cases hrecord : f.isRecord
  · cases interface
    · simp only [hrecord, Bool.false_eq_true, if_false, isOk_pure, true_and, and_true,
        false_implies]
    · simp only [isOk_member_bind, hrecord, true_and, if_true, true_implies]
      split_ifs with htruthy
      · rw [isOk_bind_of_forall fun _ => isOk_pure _, isOk_joined]
        simp only [htruthy, true_implies]
      · simp only [htruthy]
        tauto
  · simp only [hrecord, Bool.false_eq_true, false_and]

end Items

/-! ### The sections -/

lemma isOk_collect {α : Type} (items : List α) (write : α → Except Fault (List String)) :
    (collect items write).isOk ↔ ∀ x ∈ items, (write x).isOk := by
  rw [collect, isOk_map, isOk_mapM]

/-- Data of a document whose modules were summarised. -/
structure Fillable (data : Datum) (modules : List (String × ModuleSummary)) : Prop where
  record : data.isRecord
  modules : data.get? "modules" = some (.record (modules.map fun (n, m) => (n, m.toDatum)))
  overview : ((data.get? "overview").getD (.record [])).isRecord
  architecture : ((data.get? "architecture").getD (.record [])).isRecord
  changes : data.get? "change_history" = none

section Modules

variable (m : ModuleSummary)

@[simp] lemma isRecord_toDatum : m.toDatum.isRecord = true := rfl

@[simp] lemma get?_functions : m.toDatum.get? "functions" = some (.list m.parts.functions) := rfl

@[simp] lemma get?_classes : m.toDatum.get? "classes" = some (.list m.parts.classes) := rfl

@[simp] lemma get?_dependencies :
    m.toDatum.get? "dependencies" = some (.list m.parts.dependencies) := rfl

end Modules

section Sections

variable {data : Datum} {modules : List (String × ModuleSummary)}

lemma isOk_classDiagram :
    (classDiagram (modules.map fun (n, m) => (n, m.toDatum))).isOk ↔
      ∀ e ∈ modules, ∀ c ∈ e.2.parts.classes, (diagramClass c).isOk := by
  simp only [classDiagram, isOk_collect, List.forall_mem_map, isOk_member_bind, isRecord_toDatum,
    get?_classes, Option.getD_some, isOk_items_bind, items?, Option.some.injEq, exists_eq_left',
    true_and]

lemma isOk_relationships :
    (relationships (modules.map fun (n, m) => (n, m.toDatum))).isOk ↔
      ∀ e ∈ modules, ∀ d ∈ e.2.parts.dependencies, d.isRecord := by
  simp only [relationships, isOk_collect, List.forall_mem_map, isOk_member_bind, isRecord_toDatum,
    get?_dependencies, Option.getD_some, isOk_items_bind, items?, Option.some.injEq,
    exists_eq_left', true_and]
  refine forall₂_congr fun e _ => forall₂_congr fun d _ => and_iff_left_of_imp fun hrecord => ?_
  split_ifs
  · simp only [isOk_member_bind, hrecord, isOk_pure, and_self]
  · rfl

lemma isOk_methodRelationships :
    (methodRelationships (modules.map fun (n, m) => (n, m.toDatum))).isOk ↔
      ∀ e ∈ modules, ∀ f ∈ e.2.parts.functions.take 3, f.isRecord := by
  rw [methodRelationships, isOk_bind_of_forall fun _ => isOk_pure _]
  simp only [isOk_collect, List.forall_mem_map, isOk_member_bind, isRecord_toDatum,
    get?_functions, Option.getD_some, firstItems, ok_bind, true_and, isOk_pure, and_true, and_self]

lemma isOk_mainFunctions :
    (mainFunctions (modules.map fun (n, m) => (n, m.toDatum))).isOk ↔
      ∀ e ∈ modules, ∀ f ∈ e.2.parts.functions.take 2, f.isRecord := by
  simp only [mainFunctions, isOk_collect, List.forall_mem_map, isOk_member_bind, isRecord_toDatum,
    get?_functions, Option.getD_some, firstItems, ok_bind, true_and, isOk_mapM, isOk_pure, and_true]

lemma isOk_modulePart (m : ModuleSummary) : (modulePart m.toDatum).isOk ↔
    (∀ f ∈ m.parts.functions, f.isRecord) ∧ ∀ c ∈ m.parts.classes, (classPart c).isOk := by
  have hfunctions : m.toDatum.member "functions" (.list []) = .ok (.list m.parts.functions) := rfl
  have hclasses : m.toDatum.member "classes" (.list []) = .ok (.list m.parts.classes) := rfl
  have hitems : ∀ xs, (Datum.list xs).items = .ok xs := fun _ => rfl
  simp only [modulePart, hfunctions, hclasses, hitems, ok_bind]
  rw [isOk_bind_iff fun _ => by rw [isOk_bind_of_forall fun _ => isOk_pure _], isOk_mapM, isOk_mapM]
  simp only [isOk_functionRow]

variable (h : Fillable data modules)
include h

lemma Fillable.moduleTable_eq :
    moduleTable data = .ok (.record (modules.map fun (n, m) => (n, m.toDatum))) := by
  rw [moduleTable, member_of_isRecord h.record, h.modules]
  rfl

lemma isOk_overviewSection : (overviewSection data).isOk := by
  simp only [overviewSection, isOk_member_bind, h.record, h.overview, h.modules, Option.getD_some,
    true_and]
  split_ifs
  · simp only [keys, ok_bind, isOk_member_bind, h.overview, isOk_pure, and_self]
  · simp only [pure_bind, isOk_member_bind, h.overview, isOk_pure, and_self]

lemma isOk_architectureSection : (architectureSection data).isOk ↔ ∀ e ∈ modules,
    (∀ c ∈ e.2.parts.classes, (diagramClass c).isOk) ∧
    (∀ d ∈ e.2.parts.dependencies, d.isRecord) ∧
    ∀ f ∈ e.2.parts.functions.take 3, f.isRecord := by
  simp only [architectureSection, isOk_member_bind, h.record, h.moduleTable_eq, ok_bind, members,
    true_and]
  rw [isOk_bind_iff fun _ => isOk_bind_iff fun _ => by
    rw [isOk_member_bind, isOk_bind_of_forall fun _ => isOk_pure _, isOk_methodRelationships]]
  rw [isOk_classDiagram, isOk_relationships, and_iff_right h.architecture, ← forall₂_and,
    ← forall₂_and]

lemma isOk_classMethodSection : (classMethodSection data).isOk ↔ ∀ e ∈ modules,
    (∀ f ∈ e.2.parts.functions, f.isRecord) ∧ ∀ c ∈ e.2.parts.classes, (classPart c).isOk := by
  rw [classMethodSection, h.moduleTable_eq, ok_bind, members, ok_bind,
    isOk_bind_of_forall fun _ => isOk_pure _, isOk_mapM]
  simp only [List.forall_mem_map, isOk_modulePart]

lemma isOk_interfaceSection : (interfaceSection data).isOk ↔ ∀ e ∈ modules,
    ∀ f ∈ e.2.parts.functions, WritableFunction f := by
  rw [interfaceSection, h.moduleTable_eq, ok_bind, members, ok_bind,
    isOk_bind_of_forall fun _ => isOk_pure _]
  simp only [isOk_collect, List.forall_mem_map, isOk_member_bind, isRecord_toDatum, get?_functions,
    Option.getD_some, isOk_items_bind, items?, Option.some.injEq, exists_eq_left', true_and,
    isOk_interfaceFunction]

lemma isOk_dataDesignSection (hw : ∀ e ∈ modules, ∀ c ∈ e.2.parts.classes, WritableClass c) :
    (dataDesignSection data).isOk := by
  rw [dataDesignSection, h.moduleTable_eq, ok_bind, members, ok_bind,
    isOk_bind_of_forall fun _ => isOk_pure _]
  simp only [isOk_collect, List.forall_mem_map, isOk_member_bind, isRecord_toDatum, get?_classes,
    Option.getD_some, isOk_items_bind, items?, Option.some.injEq, exists_eq_left', true_and]
  exact fun e he c hc => isOk_dataStructure c (hw e he c hc)

lemma isOk_processingSection (hw : ∀ e ∈ modules, ∀ f ∈ e.2.parts.functions, f.isRecord) :
    (processingSection data).isOk := by
  rw [processingSection, h.moduleTable_eq, ok_bind, members, ok_bind,
    isOk_bind_of_forall fun _ => isOk_pure _, isOk_mainFunctions]
  exact fun e he f hf => hw e he f (List.mem_of_mem_take hf)

/-- **The sections can be written exactly when the parts of all modules can.** -/
theorem isOk_sections :
    (∀ e ∈ sections, (e.2 data).isOk) ↔ ∀ e ∈ modules, Writable e.2.parts := by
  simp only [sections, List.forall_mem_cons, List.not_mem_nil, false_implies, implies_true,
    and_true]
  rw [isOk_architectureSection h, isOk_classMethodSection h, isOk_interfaceSection h]
  constructor
  · rintro ⟨-, harchitecture, hclasses, hinterface, -⟩ e he
    obtain ⟨hdiagram, hdependencies, -⟩ := harchitecture e he
    refine ⟨hinterface e he, fun c hc => ?_, hdependencies⟩
    obtain ⟨hrecord, hmethods⟩ := (isOk_diagramClass c).mp (hdiagram c hc)
    obtain ⟨-, hattributes, -⟩ := (isOk_classPart c).mp ((hclasses e he).2 c hc)
    exact ⟨hrecord, hmethods, hattributes⟩
  · intro hw
    have hfunctions : ∀ e ∈ modules, ∀ f ∈ e.2.parts.functions, f.isRecord := fun e he f hf =>
      ((hw e he).functions f hf).record
    refine ⟨isOk_overviewSection h, fun e he => ⟨fun c hc => ?_, (hw e he).dependencies, ?_⟩,
      fun e he => ⟨hfunctions e he, fun c hc => ?_⟩, fun e he => (hw e he).functions,
      isOk_dataDesignSection h fun e he => (hw e he).classes,
      isOk_processingSection h hfunctions⟩
    · have hclass := (hw e he).classes c hc
      exact (isOk_diagramClass c).mpr ⟨hclass.record, hclass.methods⟩
    · exact fun f hf => hfunctions e he f (List.mem_of_mem_take hf)
    · have hclass := (hw e he).classes c hc
      refine (isOk_classPart c).mpr ⟨hclass.record, hclass.attributes, isOk_methodLines ?_⟩
      exact (getD_iff rfl _).mpr hclass.methods

theorem isOk_specification (heading : Heading) :
    (specification heading data).isOk ↔ ∀ e ∈ modules, Writable e.2.parts := by
  have hchanges : (changeHistory heading (.list [])).isOk := rfl
  rw [← isOk_sections h, specification, isOk_member_bind, isOk_bind_iff (P := True) fun _ => ?_,
    isOk_mapM, and_true, and_iff_right h.record]
  rw [isOk_member_bind, h.changes, isOk_bind_of_forall fun _ => isOk_pure _]
  exact iff_true_intro ⟨h.record, hchanges⟩

end Sections

end SpecScribe.Document
