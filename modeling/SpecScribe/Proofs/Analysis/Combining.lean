import Mathlib
import SpecScribe.Analysis.Combine
import SpecScribe.Proofs.Datum.Shape

/-!
Combining analyses of any shape. It succeeds exactly when each analysis is a record whose overview
is a text and whose parts can be gone through; the modules then hold the parts of all analyses.
-/

namespace SpecScribe.Analysis

open Datum

/-! ### One analysis -/

/-- The items of a part of an analysis; none where it is missing or cannot be gone through. -/
def partItems (d : Datum) (key : String) : List Datum := ((d.get? key).bind items?).getD []

/-- The parts of an analysis, whatever its shape. -/
def partsOf (d : Datum) : Parts :=
  ⟨partItems d "functions", partItems d "classes", partItems d "dependencies"⟩

/-- A part is missing, or it can be gone through. -/
def HasItems (d : Datum) (key : String) : Prop := ∀ v ∈ d.get? key, v.items?.isSome

/-- An analysis that can be combined with others. -/
structure Combinable (d : Datum) : Prop where
  record : d.isRecord
  overview : ∀ v ∈ d.get? "overview", v.isText
  functions : HasItems d "functions"
  classes : HasItems d "classes"
  dependencies : HasItems d "dependencies"

lemma isOk_moduleName (d : Datum) :
    (moduleName d).isOk ↔ d.isRecord ∧ ∀ v ∈ d.get? "overview", v.isText := by
  rw [moduleName, isOk_member_bind, isOk_bind_of_forall fun _ => isOk_pure _, isOk_lowered]
  cases d.get? "overview" <;> simp [isText]

lemma items_getD {d : Datum} {key : String} (h : HasItems d key) :
    ((d.get? key).getD (.list [])).items = .ok (partItems d key) := by
  rw [HasItems] at h
  rw [partItems, items]
  rcases hget : d.get? key with _ | v
  · rfl
  · obtain ⟨xs, hxs⟩ := Option.isSome_iff_exists.mp (h v hget)
    simp [hxs]

lemma isOk_items_getD (d : Datum) (key : String) {β : Type} (g : List Datum → Except Fault β) :
    (((d.get? key).getD (.list [])).items >>= g).isOk ↔
      HasItems d key ∧ (g (partItems d key)).isOk := by
  rw [isOk_items_bind, HasItems, partItems]
  rcases d.get? key with _ | v
  · simp [items?]
  · rcases hv : v.items? with _ | xs <;> simp [hv]

lemma isOk_ofAnalysis (d : Datum) : (Parts.ofAnalysis d).isOk ↔
    d.isRecord ∧ HasItems d "functions" ∧ HasItems d "classes" ∧ HasItems d "dependencies" := by
  simp only [Parts.ofAnalysis, isOk_member_bind, isOk_items_getD, isOk_pure]
  tauto

lemma ofAnalysis_eq {d : Datum} (h : (Parts.ofAnalysis d).isOk) :
    Parts.ofAnalysis d = .ok (partsOf d) := by
  obtain ⟨hrecord, hfunctions, hclasses, hdependencies⟩ := (isOk_ofAnalysis d).mp h
  simp only [Parts.ofAnalysis, member_of_isRecord hrecord, items_getD hfunctions,
    items_getD hclasses, items_getD hdependencies, bind, Except.bind]
  rfl

/-- Both the name of its module and its parts can be read from an analysis. -/
lemma combinable_iff (d : Datum) :
    Combinable d ↔ (moduleName d).isOk ∧ (Parts.ofAnalysis d).isOk := by
  rw [isOk_moduleName, isOk_ofAnalysis]
  constructor
  · rintro ⟨hrecord, hoverview, hfunctions, hclasses, hdependencies⟩
    exact ⟨⟨hrecord, hoverview⟩, hrecord, hfunctions, hclasses, hdependencies⟩
  · rintro ⟨⟨hrecord, hoverview⟩, -, hfunctions, hclasses, hdependencies⟩
    exact ⟨hrecord, hoverview, hfunctions, hclasses, hdependencies⟩

/-! ### Parts of several analyses -/

lemma ofAnalyses_eq {ds : List Datum} (h : ∀ d ∈ ds, (Parts.ofAnalysis d).isOk) :
    Parts.ofAnalyses ds = .ok ((ds.map partsOf).foldl Parts.append {}) := by
  rw [Parts.ofAnalyses, mapM_eq_ok_map fun d hd => ofAnalysis_eq (h d hd)]
  rfl

lemma extend_eq {ds : List Datum} (h : ∀ d ∈ ds, (Parts.ofAnalysis d).isOk) (p : Parts) :
    p.extend ds = .ok ((ds.map partsOf).foldl Parts.append p) := by
  rw [Parts.extend]
  induction ds generalizing p with
  | nil => rfl
  | cons d ds ih =>
    rw [List.forall_mem_cons] at h
    rw [List.foldlM_cons, ofAnalysis_eq h.1]
    exact ih h.2 (p.append (partsOf d))

/-- Every function, class and dependency satisfies a condition. -/
structure Parts.Each (F C D : Datum → Prop) (p : Parts) : Prop where
  functions : ∀ x ∈ p.functions, F x
  classes : ∀ x ∈ p.classes, C x
  dependencies : ∀ x ∈ p.dependencies, D x

section Each

variable {F C D : Datum → Prop}

lemma Parts.each_append {a b : Parts} :
    (a.append b).Each F C D ↔ a.Each F C D ∧ b.Each F C D := by
  constructor
  · rintro ⟨hF, hC, hD⟩
    simp only [append, List.forall_mem_append] at hF hC hD
    exact ⟨⟨hF.1, hC.1, hD.1⟩, hF.2, hC.2, hD.2⟩
  · rintro ⟨ha, hb⟩
    exact ⟨List.forall_mem_append.mpr ⟨ha.functions, hb.functions⟩,
      List.forall_mem_append.mpr ⟨ha.classes, hb.classes⟩,
      List.forall_mem_append.mpr ⟨ha.dependencies, hb.dependencies⟩⟩

lemma Parts.each_foldl {p : Parts} {ps : List Parts} :
    (ps.foldl append p).Each F C D ↔ p.Each F C D ∧ ∀ q ∈ ps, q.Each F C D := by
  induction ps generalizing p with
  | nil => simp
  | cons q ps ih => rw [List.foldl_cons, ih, each_append, List.forall_mem_cons, and_assoc]

lemma Parts.each_empty : ({} : Parts).Each F C D := ⟨nofun, nofun, nofun⟩

/-- A module succeeds if the parts of its analyses can be read, and it has all of them. -/
lemma isOk_moduleSummary (ds : List Datum) :
    (ModuleSummary.ofAnalyses ds).isOk ↔ ∀ d ∈ ds, (Parts.ofAnalysis d).isOk := by
  have hparts : (Parts.ofAnalyses ds).isOk ↔ ∀ d ∈ ds, (Parts.ofAnalysis d).isOk := by
    rw [Parts.ofAnalyses, isOk_map, isOk_mapM]
  have hpurposes : (∀ d ∈ ds, (Parts.ofAnalysis d).isOk) → (purposes ds).isOk := by
    intro h
    rw [purposes, isOk_bind_of_forall fun _ => isOk_pure _, isOk_mapM]
    intro d hd
    rw [member_of_isRecord ((isOk_ofAnalysis d).mp (h d hd)).1]
    rfl
  rw [ModuleSummary.ofAnalyses, isOk_bind, ← hparts]
  constructor
  · rintro ⟨p, hp, -⟩
    exact isOk_iff.mpr ⟨p, hp⟩
  · intro h
    obtain ⟨p, hp⟩ := isOk_iff.mp h
    refine ⟨p, hp, ?_⟩
    rw [isOk_bind_of_forall fun _ => isOk_pure _]
    exact hpurposes (hparts.mp h)

lemma each_moduleSummary {ds : List Datum} {m : ModuleSummary}
    (h : ModuleSummary.ofAnalyses ds = .ok m) :
    m.parts.Each F C D ↔ ∀ d ∈ ds, (partsOf d).Each F C D := by
  have hok := (isOk_moduleSummary ds).mp (isOk_iff.mpr ⟨m, h⟩)
  have hm : m.parts = (ds.map partsOf).foldl Parts.append {} := by
    rw [ModuleSummary.ofAnalyses, ofAnalyses_eq hok] at h
    rcases hp : purposes ds with e | ps <;> rw [hp] at h <;> cases h
    rfl
  rw [hm, Parts.each_foldl, List.forall_mem_map]
  exact and_iff_right Parts.each_empty

end Each

/-! ### Groups -/

/-- An analysis that joins a group is added to what the groups hold. -/
lemma perm_addToGroup (name : String) (d : Datum) (gs : List (String × List Datum)) :
    ((addToGroup name d gs).flatMap Prod.snd).Perm (gs.flatMap Prod.snd ++ [d]) := by
  induction gs with
  | nil => exact .refl _
  | cons g gs ih =>
    obtain ⟨n, ds⟩ := g
    rw [addToGroup]
    split_ifs
    · simp only [List.flatMap_cons, List.append_assoc]
      exact List.perm_append_comm.append_left ds
    · simp only [List.flatMap_cons, List.append_assoc]
      exact ih.append_left ds

lemma perm_foldl_addToGroup (named : List (String × Datum)) (gs : List (String × List Datum)) :
    ((named.foldl (fun gs (n, d) => addToGroup n d gs) gs).flatMap Prod.snd).Perm
      (gs.flatMap Prod.snd ++ named.map Prod.snd) := by
  induction named generalizing gs with
  | nil => simp
  | cons e named ih =>
    rw [List.foldl_cons, List.map_cons, List.append_cons]
    exact (ih _).trans ((perm_addToGroup e.1 e.2 gs).append_right _)

/-- The groups hold the analyses that were put into them, each as often as it was given. -/
lemma perm_groups {ds : List Datum} {gs : List (String × List Datum)} (h : groups ds = .ok gs) :
    (gs.flatMap Prod.snd).Perm ds := by
  rw [groups] at h
  rcases hnamed : ds.mapM fun d => (moduleName d).map fun n => (n, d) with e | named <;>
    rw [hnamed] at h <;> cases h
  have hmap : named.map Prod.snd = ds := by
    have hpairs := mapM_eq_ok_iff.mp hnamed
    rw [← List.forall₂_eq_eq_eq, List.forall₂_map_left_iff]
    refine hpairs.flip.imp fun e d he => ?_
    rcases hname : moduleName d with f | n <;> rw [hname] at he <;> cases he
    rfl
  simpa [hmap] using perm_foldl_addToGroup named []

lemma mem_groups {ds : List Datum} {gs : List (String × List Datum)} (h : groups ds = .ok gs)
    (x : Datum) : (∃ g ∈ gs, x ∈ g.2) ↔ x ∈ ds := by
  rw [← (perm_groups h).mem_iff, List.mem_flatMap]

lemma isOk_groups (ds : List Datum) :
    (groups ds).isOk ↔ ∀ d ∈ ds, (moduleName d).isOk := by
  rw [groups, isOk_bind_of_forall fun _ => isOk_pure _, isOk_mapM]
  simp only [isOk_map]

/-! ### All analyses -/

lemma isOk_toDatum (c : Combined) : c.toDatum.isOk := rfl

namespace Combined

variable {gs : List (String × List Datum)} {g : String × List Datum} {c c' : Combined}

/-- A group is added exactly when the parts of its analyses can be read. -/
lemma isOk_addGroup : (c.addGroup g).isOk ↔ ∀ d ∈ g.2, (Parts.ofAnalysis d).isOk := by
  rw [addGroup, isOk_bind, ← isOk_moduleSummary, isOk_iff]
  refine exists_congr fun m => and_iff_left_of_imp fun hm => ?_
  have hok := (isOk_moduleSummary g.2).mp (isOk_iff.mpr ⟨m, hm⟩)
  rw [extend_eq hok]
  rfl

lemma addGroup_eq_ok (h : c.addGroup g = .ok c') :
    ∃ m, ModuleSummary.ofAnalyses g.2 = .ok m ∧ c'.modules = c.modules ++ [(g.1, m)] := by
  rw [addGroup] at h
  obtain ⟨m, hm, h⟩ := bind_eq_ok.mp h
  obtain ⟨parts, -, h⟩ := bind_eq_ok.mp h
  cases h
  exact ⟨m, hm, rfl⟩

lemma isOk_addGroups (gs : List (String × List Datum)) (c : Combined) :
    (gs.foldlM addGroup c).isOk ↔ ∀ g ∈ gs, ∀ d ∈ g.2, (Parts.ofAnalysis d).isOk := by
  induction gs generalizing c with
  | nil => simp
  | cons g gs ih =>
    rw [List.foldlM_cons, isOk_bind_iff ih, isOk_addGroup, List.forall_mem_cons]

/-- The modules have the parts of the analyses of their groups. -/
lemma each_addGroups {F C D : Datum → Prop} (h : gs.foldlM addGroup c = .ok c') :
    (∀ e ∈ c'.modules, e.2.parts.Each F C D) ↔
      (∀ e ∈ c.modules, e.2.parts.Each F C D) ∧
        ∀ g ∈ gs, ∀ d ∈ g.2, (partsOf d).Each F C D := by
  induction gs generalizing c with
  | nil =>
    cases h
    simp
  | cons g gs ih =>
    rw [List.foldlM_cons] at h
    obtain ⟨c₁, hadd, h⟩ := bind_eq_ok.mp h
    obtain ⟨m, hm, hmodules⟩ := addGroup_eq_ok hadd
    rw [ih h, hmodules, List.forall_mem_append, List.forall_mem_singleton, List.forall_mem_cons,
      each_moduleSummary hm, and_assoc]

end Combined

/-- **Analyses are combined exactly when each of them can be.** -/
theorem isOk_combine (ds : List Datum) : (combine ds).isOk ↔ ∀ d ∈ ds, Combinable d := by
  rw [combine, isOk_bind_of_forall isOk_toDatum, Combined.ofAnalyses, isOk_bind]
  simp only [Combined.isOk_addGroups, combinable_iff]
  constructor
  · rintro ⟨gs, hgs, hok⟩ d hd
    obtain ⟨g, hg, hmem⟩ := (mem_groups hgs d).mpr hd
    exact ⟨(isOk_groups ds).mp (isOk_iff.mpr ⟨gs, hgs⟩) d hd, hok g hg d hmem⟩
  · intro h
    obtain ⟨gs, hgs⟩ := isOk_iff.mp ((isOk_groups ds).mpr fun d hd => (h d hd).1)
    exact ⟨gs, hgs, fun g hg d hd => (h d ((mem_groups hgs d).mp ⟨g, hg, hd⟩)).2⟩

/-- The modules of combined analyses have the parts of all of them. -/
lemma combine_eq_ok {ds : List Datum} {c : Datum} (h : combine ds = .ok c) :
    ∃ m : Combined, m.toDatum = .ok c ∧ ∀ F C D : Datum → Prop,
      (∀ e ∈ m.modules, e.2.parts.Each F C D) ↔ ∀ d ∈ ds, (partsOf d).Each F C D := by
  rw [combine] at h
  obtain ⟨m, hm, h⟩ := bind_eq_ok.mp h
  refine ⟨m, h, fun F C D => ?_⟩
  rw [Combined.ofAnalyses] at hm
  obtain ⟨gs, hgs, hm⟩ := bind_eq_ok.mp hm
  rw [Combined.each_addGroups hm, and_iff_right (by simp)]
  simp only [← mem_groups hgs]
  exact ⟨fun h d ⟨g, hg, hd⟩ => h g hg d hd, fun h g hg d hd => h d ⟨g, hg, hd⟩⟩

end SpecScribe.Analysis
