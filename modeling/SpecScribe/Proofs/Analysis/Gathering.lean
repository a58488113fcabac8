import Mathlib
import SpecScribe.Proofs.Analysis.Combining

/-!
What combined analyses hold. The modules stand in the order in which they first appear, and each
holds the parts of its own analyses in their order. The parts of the whole are gathered from the
analyses a second time; they are those of the modules, so nothing is lost and nothing is repeated.
-/

namespace SpecScribe.Prompt.Template

lemma fill_nil (values : Members) : fill [] values = .ok "" := rfl

lemma fill_text (s : String) (t : Template) (values : Members) :
    fill (.text s :: t) values = (fill t values).map (s ++ ·) := by
  rw [fill, List.mapM_cons, fill, fillPiece, ok_bind]
  cases t.mapM (fillPiece values) <;> simp [Except.map, bind, Except.bind, pure, Except.pure]

lemma fill_hole {key : String} {d : Datum} {values : Members} (h : values.get? key = some d)
    (t : Template) : fill (.hole key :: t) values = (fill t values).map (d.plain ++ ·) := by
  rw [fill, List.mapM_cons, fill, fillPiece, h, ok_bind]
  cases t.mapM (fillPiece values) <;> simp [Except.map, bind, Except.bind, pure, Except.pure]

end SpecScribe.Prompt.Template

namespace SpecScribe.Analysis

open Datum

/-- The lists that an analysis has. -/
inductive Part
  | functions | classes | dependencies

def Part.key : Part → String
  | .functions => "functions"
  | .classes => "classes"
  | .dependencies => "dependencies"

def Part.of (ps : Parts) : Part → List Datum
  | .functions => ps.functions
  | .classes => ps.classes
  | .dependencies => ps.dependencies

lemma Part.of_partsOf (d : Datum) (p : Part) : p.of (partsOf d) = partItems d p.key := by
  cases p <;> rfl

lemma Part.of_foldl (p : Part) (ps : List Parts) (q : Parts) :
    p.of (ps.foldl Parts.append q) = p.of q ++ ps.flatMap p.of := by
  have hstep (a b : Parts) : p.of (a.append b) = p.of a ++ p.of b := by cases p <;> rfl
  induction ps generalizing q with
  | nil => simp
  | cons a ps ih => rw [List.foldl_cons, ih, hstep, List.flatMap_cons, List.append_assoc]

lemma Part.of_empty (p : Part) : p.of {} = [] := by
  cases p <;> rfl

/-! ### Names -/

/-- The overview of an analysis; empty where it has none. -/
def overviewOf (d : Datum) : String := (d.get "overview").toText

/-- The module of an analysis, as its overview tells it. -/
def nameOf (d : Datum) : String :=
  if Text.occursIn "module" (String.ofList (Text.lower (overviewOf d).toList)) ||
    Text.occursIn "モジュール" (overviewOf d) then "extracted_module" else "general_module"

/-- The overview is missing, or it is a text. -/
lemma overview_cases {d : Datum} (h : Combinable d) :
    d.get? "overview" = none ∧ overviewOf d = "" ∨
      d.get? "overview" = some (.text (overviewOf d)) := by
  have hoverview := h.overview
  rw [overviewOf, Datum.get]
  rcases hget : d.get? "overview" with _ | v
  · exact .inl ⟨rfl, rfl⟩
  · rw [hget] at hoverview
    cases v <;> first | exact .inr rfl | cases hoverview _ rfl

lemma moduleName_eq {d : Datum} (h : Combinable d) : moduleName d = .ok (nameOf d) := by
  rw [moduleName, member_of_isRecord h.record, nameOf]
  rcases overview_cases h with ⟨hnone, hempty⟩ | htext
  · rw [hnone, hempty]
    rfl
  · rw [htext]
    rfl

/-! ### Groups -/

/-- The analyses of each module, under the names in the order in which they first appear. -/
def grouped (ds : List Datum) : List (String × List Datum) :=
  (ds.map nameOf).eraseDups.map fun n => (n, ds.filter (nameOf · == n))

lemma eraseDups_append_singleton (names : List String) (n : String) :
    (names ++ [n]).eraseDups = names.eraseDups ++ if n ∈ names then [] else [n] := by
  rw [List.eraseDups_append, List.removeAll]
  split_ifs with h <;> simp [h, List.eraseDups_cons]

lemma nodup_eraseDups (names : List String) : names.eraseDups.Nodup := by
  induction names using List.reverseRecOn with
  | nil => exact .nil
  | append_singleton names n ih =>
    rw [eraseDups_append_singleton]
    split_ifs with h
    · simpa using ih
    · refine ih.append (List.nodup_singleton n) ?_
      simpa using h

/-- An analysis goes to the group with its name, or to a new one behind the others. -/
lemma addToGroup_map {names : List String} (h : names.Nodup) (n : String) (d : Datum)
    (g : String → List Datum) :
    addToGroup n d (names.map fun k => (k, g k)) =
      (names.map fun k => (k, g k ++ if n = k then [d] else [])) ++
        if n ∈ names then [] else [(n, [d])] := by
  induction names with
  | nil => rfl
  | cons k names ih =>
    obtain ⟨hk, hnodup⟩ := List.nodup_cons.mp h
    rw [List.map_cons, addToGroup, List.map_cons]
    by_cases hname : k = n
    · subst hname
      have hrest : (names.map fun k' => (k', g k' ++ if k = k' then [d] else [])) =
          names.map fun k' => (k', g k') := by
        refine List.map_congr_left fun k' hk' => ?_
        rw [if_neg (ne_of_mem_of_not_mem hk' hk).symm, List.append_nil]
      simp [hrest]
    · have hname' : ¬ n = k := fun h => hname h.symm
      simp [hname, hname', ih hnodup]

lemma addToGroup_grouped (ds : List Datum) (d : Datum) :
    addToGroup (nameOf d) d (grouped ds) = grouped (ds ++ [d]) := by
  have hfilter (n : String) : (ds ++ [d]).filter (nameOf · == n) =
      ds.filter (nameOf · == n) ++ if nameOf d = n then [d] else [] := by
    rw [List.filter_append, List.filter_singleton]
    simp
  rw [grouped, addToGroup_map (nodup_eraseDups _), grouped, List.map_append, List.map_singleton,
    eraseDups_append_singleton, List.map_append]
  simp only [hfilter, List.mem_eraseDups]
  split_ifs with h
  · rfl
  · -- Nothing before `d` has its name, so its group starts with it.
    have hnew : ds.filter (nameOf · == nameOf d) = [] := by
      rw [List.filter_eq_nil_iff]
      intro x hx hname
      exact h (List.mem_map.mpr ⟨x, hx, by simpa using hname⟩)
    simp [hnew]

lemma groups_eq {ds : List Datum} (h : ∀ d ∈ ds, Combinable d) : groups ds = .ok (grouped ds) := by
  have hnamed : (ds.mapM fun d => (moduleName d).map fun n => (n, d)) =
      .ok (ds.map fun d => (nameOf d, d)) := by
    refine mapM_eq_ok_map fun d hd => ?_
    rw [moduleName_eq (h d hd)]
    rfl
  rw [groups, hnamed, ok_bind, List.foldl_map]
  clear hnamed h
  congr 1
  induction ds using List.reverseRecOn with
  | nil => rfl
  | append_singleton ds d ih => rw [List.foldl_append, ih, ← addToGroup_grouped]; rfl

/-! ### Modules -/

/-- The module that some analyses make. -/
def summaryOf (ds : List Datum) : ModuleSummary :=
  ⟨" ".intercalate ((ds.map overviewOf).filter (· ≠ "")), (ds.map partsOf).foldl Parts.append {}⟩

lemma purposes_eq {ds : List Datum} (h : ∀ d ∈ ds, Combinable d) :
    purposes ds = .ok ((ds.map overviewOf).filter (· ≠ "")) := by
  have hmembers : (ds.mapM fun d => d.member "overview") =
      .ok (ds.map fun d => (d.get? "overview").getD .null) :=
    mapM_eq_ok_map fun d hd => member_of_isRecord (h d hd).record _ _
  rw [purposes, hmembers, ok_bind]
  congr 1
  clear hmembers
  induction ds with
  | nil => rfl
  | cons d ds ih =>
    rw [List.forall_mem_cons] at h
    have hrest := ih h.2
    rcases overview_cases h.1 with ⟨hnone, hempty⟩ | htext
    · simpa [hnone, hempty, isTruthy] using hrest
    · by_cases hempty : overviewOf d = ""
      · simpa [htext, hempty, isTruthy] using hrest
      · simpa [htext, hempty, isTruthy, plain, List.filter_cons] using hrest

lemma moduleSummary_eq {ds : List Datum} (h : ∀ d ∈ ds, Combinable d) :
    ModuleSummary.ofAnalyses ds = .ok (summaryOf ds) := by
  have hparts : Parts.ofAnalyses ds = .ok (summaryOf ds).parts :=
    ofAnalyses_eq fun d hd => ((combinable_iff d).mp (h d hd)).2
  rw [ModuleSummary.ofAnalyses, hparts, ok_bind, purposes_eq h]
  rfl

lemma Part.of_summaryOf (p : Part) (ds : List Datum) :
    p.of (summaryOf ds).parts = ds.flatMap (partItems · p.key) := by
  rw [summaryOf, of_foldl, of_empty, List.nil_append, List.flatMap_map]
  exact List.flatMap_congr fun d _ => of_partsOf d p

/-- A module, as it is written, has all that its analyses have. -/
structure Gathers (ds : List Datum) (m : Datum) : Prop where
  parts : ∀ p : Part, m.get? p.key = some (.list (ds.flatMap (partItems · p.key)))
  purpose : m.get? "purpose" =
    some (.text (" ".intercalate ((ds.map overviewOf).filter (· ≠ ""))))

lemma get?_part (m : ModuleSummary) (p : Part) :
    m.toDatum.get? p.key = some (.list (p.of m.parts)) := by
  cases p <;> rfl

lemma gathers_summaryOf (ds : List Datum) : Gathers ds (summaryOf ds).toDatum where
  parts p := by rw [get?_part, Part.of_summaryOf]
  purpose := rfl

/-! ### The whole -/

/-- What the overview says about the size of a system. -/
def sizesText (modules functions classes : ℕ) : String :=
  "このシステムは" ++ toString modules ++ "個のモジュールで構成され、\n" ++ toString functions ++
    "個の関数と" ++ toString classes ++
    "個のクラスを含んでいます。\n各モジュールは明確な責務を持ち、適切に分離された設計となっています。"

lemma overview_eq (c : Combined) : c.overview =
    .ok (sizesText c.modules.length c.parts.functions.length c.parts.classes.length) := by
  have hmodules : c.sizes.get? "module_count" = some (.int c.modules.length) := rfl
  have hfunctions : c.sizes.get? "function_count" = some (.int c.parts.functions.length) := rfl
  have hclasses : c.sizes.get? "class_count" = some (.int c.parts.classes.length) := rfl
  have hmiddle : "\n".intercalate ["個のモジュールで構成され、", ""] = "個のモジュールで構成され、\n" := by simp
  have hend : "\n".intercalate ["個のクラスを含んでいます。",
      "各モジュールは明確な責務を持ち、適切に分離された設計となっています。"] =
        "個のクラスを含んでいます。\n各モジュールは明確な責務を持ち、適切に分離された設計となっています。" := by
    simp
  have hplain (n : ℕ) : (Datum.int n).plain = toString n := rfl
  rw [Combined.overview, Prompt.systemOverviewTemplate, Prompt.Template.fill_text,
    Prompt.Template.fill_hole hmodules, Prompt.Piece.block, Prompt.Template.fill_text,
    Prompt.Template.fill_hole hfunctions, Prompt.Template.fill_text,
    Prompt.Template.fill_hole hclasses, Prompt.Piece.block, Prompt.Template.fill_text,
    Prompt.Template.fill_nil]
  unfold sizesText
  simp only [Except.map, hplain, hmiddle, hend, String.append_assoc, String.append_empty]

/-- What is read from the combined analyses, as they are written. -/
lemma exists_toDatum (c : Combined) : ∃ r, c.toDatum = .ok r ∧
    r.get? "modules" = some (.record (c.modules.map fun (n, m) => (n, m.toDatum))) ∧
    (∀ p : Part, r.get? p.key = some (.list (p.of c.parts))) ∧
    r.get? "overview" = some
      (.text (sizesText c.modules.length c.parts.functions.length c.parts.classes.length)) := by
  rw [Combined.toDatum, overview_eq]
  refine ⟨_, rfl, rfl, fun p => ?_, rfl⟩
  cases p <;> rfl

/-- All analyses put together, one group after another. -/
def combinedOf (ds : List Datum) : Combined :=
  ⟨(grouped ds).map fun g => (g.1, summaryOf g.2),
    (((grouped ds).flatMap Prod.snd).map partsOf).foldl Parts.append {}⟩

lemma addGroup_eq {g : String × List Datum} (h : ∀ d ∈ g.2, Combinable d) (c : Combined) :
    c.addGroup g = .ok ⟨c.modules ++ [(g.1, summaryOf g.2)],
      (g.2.map partsOf).foldl Parts.append c.parts⟩ := by
  have hparts := extend_eq (fun d hd => ((combinable_iff d).mp (h d hd)).2) c.parts
  rw [Combined.addGroup, moduleSummary_eq h, ok_bind, hparts]
  rfl

/-- Both ways of gathering go on from what the groups before have left. -/
lemma addGroups_eq {gs : List (String × List Datum)} (h : ∀ g ∈ gs, ∀ d ∈ g.2, Combinable d)
    (c : Combined) :
    gs.foldlM Combined.addGroup c = .ok ⟨c.modules ++ gs.map fun g => (g.1, summaryOf g.2),
      ((gs.flatMap Prod.snd).map partsOf).foldl Parts.append c.parts⟩ := by
  induction gs generalizing c with
  | nil => simp [pure, Except.pure]
  | cons g gs ih =>
    rw [List.forall_mem_cons] at h
    rw [List.foldlM_cons, addGroup_eq h.1, ok_bind, ih h.2]
    simp only [List.map_cons, List.flatMap_cons, List.map_append, List.foldl_append,
      List.append_assoc, List.singleton_append]

lemma combined_eq {ds : List Datum} (h : ∀ d ∈ ds, Combinable d) :
    Combined.ofAnalyses ds = .ok (combinedOf ds) := by
  have hgroups : ∀ g ∈ grouped ds, ∀ d ∈ g.2, Combinable d := fun g hg d hd =>
    h d ((mem_groups (groups_eq h) d).mp ⟨g, hg, hd⟩)
  rw [Combined.ofAnalyses, groups_eq h, ok_bind, addGroups_eq hgroups]
  rfl

lemma Part.of_combinedOf (p : Part) (ds : List Datum) :
    p.of (combinedOf ds).parts = ((grouped ds).flatMap Prod.snd).flatMap (partItems · p.key) := by
  rw [combinedOf, of_foldl, of_empty, List.nil_append, List.flatMap_map]
  exact List.flatMap_congr fun d _ => of_partsOf d p

/-- What is gathered for the whole is what the modules have gathered. -/
lemma Part.of_combinedOf_eq_modules (p : Part) (ds : List Datum) :
    p.of (combinedOf ds).parts = (combinedOf ds).modules.flatMap (p.of ·.2.parts) := by
  rw [of_combinedOf, List.flatMap_assoc, combinedOf, List.flatMap_map]
  exact List.flatMap_congr fun g _ => (of_summaryOf p g.2).symm

lemma partItems_eq {d : Datum} {key : String} {xs : List Datum}
    (h : d.get? key = some (.list xs)) : partItems d key = xs := by
  rw [partItems, h]
  rfl

/-- **Combining analyses neither loses nor repeats anything.** The modules stand under the names of
the analyses, in the order in which these first appear, and each gathers the analyses of its name.
The functions, classes and dependencies of the whole are those of the modules one after another, so
they are those of the analyses in another order, and the overview states how many there are. -/
theorem combine_gathers {ds : List Datum} (h : ∀ d ∈ ds, Combinable d) :
    ∃ r modules, combine ds = .ok r ∧ r.get? "modules" = some (.record modules) ∧
      modules.map Prod.fst = (ds.map nameOf).eraseDups ∧
      (∀ m ∈ modules, Gathers (ds.filter (nameOf · == m.1)) m.2) ∧
      (∀ p : Part, r.get? p.key = some (.list (modules.flatMap (partItems ·.2 p.key)))) ∧
      (∀ p : Part, (partItems r p.key).Perm (ds.flatMap (partItems · p.key))) ∧
      r.get? "overview" = some (.text (sizesText modules.length
        (partItems r "functions").length (partItems r "classes").length)) := by
  obtain ⟨r, hr, hmodules, hparts, hoverview⟩ := exists_toDatum (combinedOf ds)
  refine ⟨r, _, ?_, hmodules, ?_, ?_, ?_, ?_, ?_⟩
  · rw [combine, combined_eq h, ok_bind, hr]
  · simp [combinedOf, grouped, Function.comp_def]
  · intro m hm
    simp only [combinedOf, grouped, List.map_map, List.mem_map] at hm
    obtain ⟨n, -, rfl⟩ := hm
    exact gathers_summaryOf _
  · intro p
    rw [hparts, Part.of_combinedOf_eq_modules, List.flatMap_map]
    refine congrArg (some ∘ list) (List.flatMap_congr fun m _ => ?_)
    exact (partItems_eq (get?_part m.2 p)).symm
  · intro p
    rw [partItems_eq (hparts p), Part.of_combinedOf]
    exact (perm_groups (groups_eq h)).flatMap_right _
  · have hfunctions : partItems r "functions" = _ := partItems_eq (hparts .functions)
    have hclasses : partItems r "classes" = _ := partItems_eq (hparts .classes)
    rw [hoverview, hfunctions, hclasses, List.length_map]
    rfl

/-- Analyses of two modules in turn. -/
def interleaved : List Datum :=
  [.record [("overview", .text "Reads settings."), ("functions", .list [.text "load"])],
   .record [("overview", .text "Module for saving."), ("classes", .list [.text "Store"])],
   .record [("functions", .list [.text "close"])]]

theorem combine_gathers_interleaved : (∀ d ∈ interleaved, Combinable d) ∧
    ∃ r modules, combine interleaved = .ok r ∧ r.get? "modules" = some (.record modules) ∧
      modules.map Prod.fst = ["general_module", "extracted_module"] ∧
      (partItems r "functions").Perm [.text "load", .text "close"] ∧
      r.get? "overview" = some (.text (sizesText 2 2 1)) := by
  have h : ∀ d ∈ interleaved, Combinable d := by
    simp only [combinable_iff]
    decide +kernel
  refine ⟨h, ?_⟩
  obtain ⟨r, modules, hr, hmodules, hnames, -, -, hperm, hoverview⟩ := combine_gathers h
  have hnames' : modules.map Prod.fst = ["general_module", "extracted_module"] := by
    rw [hnames]
    decide +kernel
  refine ⟨r, modules, hr, hmodules, hnames', hperm .functions, ?_⟩
  have hcount : modules.length = 2 := by simpa using congrArg List.length hnames'
  have hfunctions : (partItems r "functions").length = 2 := (hperm .functions).length_eq
  have hclasses : (partItems r "classes").length = 1 := (hperm .classes).length_eq
  rw [hoverview, hcount, hfunctions, hclasses]

end SpecScribe.Analysis
