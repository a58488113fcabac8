import Mathlib
import SpecScribe.Document.Section
import SpecScribe.Proofs.Fault
import SpecScribe.Proofs.Schema.Fields
import SpecScribe.Proofs.Text.Splitting

/-!
The table of classes and methods, line by line. It has one row for each function and each class, and
a row has four cells. The texts of the cells are cut, but nothing in them is escaped: a row is one
line of four cells exactly if no bar and no line break is left in its cells.
-/

namespace SpecScribe.Document

open Datum Text

/-! ### Lines -/

/-- The lines of a text. -/
def linesOf (s : String) : List (List Char) := Text.lines s.toList

lemma linesOf_eq (s : String) : linesOf s = s.toList.splitOn '\n' := splitOn_singleton '\n' s.toList

/-- What is stacked keeps its lines. -/
lemma linesOf_stack {ls : List String} (h : ls ≠ []) : linesOf (stack ls) = ls.flatMap linesOf := by
  induction ls with
  | nil => exact absurd rfl h
  | cons x rest ih =>
    rcases rest with _ | ⟨y, rest⟩
    · rw [stack, String.intercalate_singleton, List.flatMap_singleton]
    · have hstack : stack (x :: y :: rest) = x ++ "\n" ++ stack (y :: rest) :=
        String.intercalate_cons_cons
      rw [List.flatMap_cons, ← ih (List.cons_ne_nil _ _), hstack]
      simp only [linesOf_eq, String.toList_append, List.append_assoc]
      exact List.splitOn_append_cons_self _ _

/-- Texts are lines by themselves exactly if none of them is broken. -/
lemma flatMap_linesOf_eq_iff {ls : List String} :
    ls.flatMap linesOf = ls.map String.toList ↔ ∀ s ∈ ls, '\n' ∉ s.toList := by
  constructor
  · intro h s hs
    have hline : s.toList ∈ ls.flatMap linesOf := h ▸ List.mem_map_of_mem hs
    obtain ⟨s', -, hline⟩ := List.mem_flatMap.mp hline
    exact notMem_of_mem_splitOn (linesOf_eq s' ▸ hline)
  · intro h
    rw [List.map_eq_flatMap]
    refine List.flatMap_congr fun s hs => ?_
    rw [linesOf_eq, List.splitOn_eq_singleton (h s hs)]

/-! ### The rows of a document -/

/-- The loose data that a row is made from. -/
structure RowSource where
  name : Datum
  role : Datum
  methods : Datum
  remarks : Datum

def RowSource.row (r : RowSource) : String := tableRow r.name r.role r.methods r.remarks

def functionSource (f : Datum) : RowSource where
  name := .text (((f.get? "name").getD (.text "unknown")).plain ++ " (関数)")
  role := (f.get? "purpose").getD (.text "未定義")
  methods := (f.get? "inputs").getD (.list [])
  remarks := .text ("複雑度: " ++ ((f.get? "complexity").getD (.text "medium")).plain)

def classSource (c : Datum) : RowSource where
  name := (c.get? "name").getD (.text "unknown")
  role := (c.get? "purpose").getD (.text "未定義")
  methods := (c.get? "methods").getD (.list [])
  remarks := .text ("パターン: " ++ ((c.get? "design_pattern").getD (.text "なし")).plain)

/-- What is listed in a module under a key. -/
def listedUnder (m : Datum) (key : String) : List Datum :=
  ((m.get? key).getD (.list [])).items?.getD []

/-- The functions and then the classes of a module. -/
def moduleSources (m : Datum) : List RowSource :=
  (listedUnder m "functions").map functionSource ++ (listedUnder m "classes").map classSource

/-- The functions and classes of all modules. -/
def rowSources (data : Datum) : List RowSource :=
  match (data.get? "modules").getD (.record []) with
  | .record modules => modules.flatMap fun (_, m) => moduleSources m
  | _ => []

lemma member_eq_ok {d v : Datum} {key : String} {default : Datum}
    (h : d.member key default = .ok v) : v = (d.get? key).getD default := by
  cases d <;> cases h
  rfl

lemma items_eq_ok {d : Datum} {xs : List Datum} (h : d.items = .ok xs) : d.items?.getD [] = xs := by
  unfold items at h
  split at h
  · rename_i hxs
    cases h
    rw [hxs, Option.getD_some]
  · cases h

lemma rows_of_functionRow {f : Datum} {part : ClassPart} (h : functionRow f = .ok part) :
    part.rows = [(functionSource f).row] := by
  obtain ⟨name, hname, h⟩ := bind_eq_ok.mp h
  obtain ⟨purpose, hpurpose, h⟩ := bind_eq_ok.mp h
  obtain ⟨inputs, hinputs, h⟩ := bind_eq_ok.mp h
  obtain ⟨complexity, hcomplexity, h⟩ := bind_eq_ok.mp h
  cases h
  rw [member_eq_ok hname, member_eq_ok hpurpose, member_eq_ok hinputs, member_eq_ok hcomplexity]
  rfl

lemma rows_of_classPart {c : Datum} {part : ClassPart} (h : classPart c = .ok part) :
    part.rows = [(classSource c).row] := by
  obtain ⟨name, hname, h⟩ := bind_eq_ok.mp h
  obtain ⟨purpose, hpurpose, h⟩ := bind_eq_ok.mp h
  obtain ⟨methods, hmethods, h⟩ := bind_eq_ok.mp h
  obtain ⟨pattern, hpattern, h⟩ := bind_eq_ok.mp h
  obtain ⟨attributes, -, h⟩ := bind_eq_ok.mp h
  obtain ⟨joined, -, h⟩ := bind_eq_ok.mp h
  obtain ⟨specs, -, h⟩ := bind_eq_ok.mp h
  obtain ⟨inheritance, -, h⟩ := bind_eq_ok.mp h
  cases h
  rw [member_eq_ok hname, member_eq_ok hpurpose, member_eq_ok hmethods, member_eq_ok hpattern]
  rfl

/-- What each item gives is given by all of them, in their order. -/
lemma flatMap_of_mapM {α β γ : Type} {f : α → Except Fault β} {g : β → List γ} {k : α → List γ}
    (hf : ∀ x y, f x = .ok y → g y = k x) {xs : List α} {ys : List β} (h : xs.mapM f = .ok ys) :
    ys.flatMap g = xs.flatMap k := by
  rw [mapM_eq_ok_iff] at h
  induction h with
  | nil => rfl
  | cons hy _ ih => rw [List.flatMap_cons, List.flatMap_cons, hf _ _ hy, ih]

lemma rows_of_modulePart {m : Datum} {parts : List ClassPart} (h : modulePart m = .ok parts) :
    parts.flatMap (·.rows) = (moduleSources m).map RowSource.row := by
  obtain ⟨functions, hfunctions, h⟩ := bind_eq_ok.mp h
  obtain ⟨fs, hfs, h⟩ := bind_eq_ok.mp h
  obtain ⟨fparts, hfparts, h⟩ := bind_eq_ok.mp h
  obtain ⟨classes, hclasses, h⟩ := bind_eq_ok.mp h
  obtain ⟨cs, hcs, h⟩ := bind_eq_ok.mp h
  obtain ⟨cparts, hcparts, h⟩ := bind_eq_ok.mp h
  cases h
  rw [List.flatMap_append, flatMap_of_mapM (fun _ _ => rows_of_functionRow) hfparts,
    flatMap_of_mapM (fun _ _ => rows_of_classPart) hcparts, moduleSources, listedUnder,
    listedUnder, ← member_eq_ok hfunctions, ← member_eq_ok hclasses, items_eq_ok hfs,
    items_eq_ok hcs, List.map_append, List.map_map, List.map_map, List.map_eq_flatMap,
    List.map_eq_flatMap]
  rfl

/-- The rows of the section are those of all functions and classes. -/
lemma rows_of_modules {data modules : Datum} {ms : Members} {partss : List (List ClassPart)}
    (hmodules : moduleTable data = .ok modules) (hms : modules.members = .ok ms)
    (hpartss : (ms.mapM fun (_, m) => modulePart m) = .ok partss) :
    partss.flatten.flatMap (·.rows) = (rowSources data).map RowSource.row := by
  rw [rowSources, ← member_eq_ok hmodules]
  cases modules with
  | record ms' =>
    cases hms
    rw [← List.flatMap_id', List.flatMap_assoc, List.map_flatMap]
    exact flatMap_of_mapM (fun _ _ => rows_of_modulePart) hpartss
  | _ => cases hms

/-- The lines in front of the rows. -/
def tableHead : List String :=
  ["## 3. クラス・メソッド設計", "",
   "### 3.1 クラス・メソッド一覧表", "",
   "| クラス名 | 役割 | 主要メソッド | 備考 |",
   "| -------- | ---- | ------------ | ---- |"]

/-- The row of a table without functions and classes. -/
def emptyRow : String := "| 未定義 | 未定義 | 未定義 | 未定義 |"

def detailsHeading : String := "### 3.2 クラス・メソッド詳細仕様"

/-- Rows, or the one that stands in for them. -/
def orEmptyRow (rows : List String) : List String := if rows.isEmpty then [emptyRow] else rows

lemma forall_mem_orEmptyRow {P : String → Prop} (hempty : P emptyRow) {rows : List String} :
    (∀ r ∈ orEmptyRow rows, P r) ↔ ∀ r ∈ rows, P r := by
  unfold orEmptyRow
  split_ifs with h
  · simp [List.isEmpty_iff.mp h, hempty]
  · rfl

lemma stackOr_emptyRow (rows : List String) : stackOr emptyRow rows = stack (orEmptyRow rows) := by
  unfold stackOr orEmptyRow
  split_ifs
  · exact String.intercalate_singleton.symm
  · rfl

/-- The lines of the section: those of the rows stand between the head of the table and the heading
of the details. -/
lemma lines_of_classMethodSection {data : Datum} {text : String}
    (h : classMethodSection data = .ok text) :
    ∃ details, linesOf text = tableHead.map String.toList ++
      (orEmptyRow ((rowSources data).map RowSource.row)).flatMap linesOf ++
        [[], detailsHeading.toList] ++ linesOf details := by
  obtain ⟨modules, hmodules, h⟩ := bind_eq_ok.mp h
  obtain ⟨ms, hms, h⟩ := bind_eq_ok.mp h
  obtain ⟨partss, hpartss, h⟩ := bind_eq_ok.mp h
  set rows := orEmptyRow ((rowSources data).map RowSource.row) with hrows
  set details := stackOr "詳細仕様が定義されていません" (partss.flatten.flatMap (·.details))
  have htext : text = stack (tableHead ++ [stack rows] ++ ["", detailsHeading] ++ [details]) := by
    rw [hrows, ← stackOr_emptyRow, ← rows_of_modules hmodules hms hpartss]
    exact (Except.ok.inj h).symm
  have hhead : tableHead.flatMap linesOf = tableHead.map String.toList :=
    flatMap_linesOf_eq_iff.mpr (by decide +kernel)
  have hheading : ["", detailsHeading].flatMap linesOf = [[], detailsHeading.toList] :=
    flatMap_linesOf_eq_iff.mpr (by decide +kernel)
  refine ⟨details, ?_⟩
  rw [htext, linesOf_stack (by simp), List.flatMap_append, List.flatMap_append,
    List.flatMap_append, hhead, hheading, List.flatMap_singleton, List.flatMap_singleton,
    linesOf_stack]
  rw [hrows, orEmptyRow]
  split_ifs with hempty
  · exact List.cons_ne_nil _ _
  · exact fun h => hempty (List.isEmpty_iff.mpr h)

/-! ### Rows of texts -/

/-- The texts of a row. -/
structure RowTexts where
  name : String
  role : String
  methods : List String
  remarks : String

/-- The text has neither a bar nor a line break. -/
def Unbroken (s : String) : Prop := '|' ∉ s.toList ∧ '\n' ∉ s.toList

instance (s : String) : Decidable (Unbroken s) := inferInstanceAs (Decidable (_ ∧ _))

namespace RowTexts

/-- The texts that the cells are made from. -/
def all (t : RowTexts) : List String := t.name :: t.role :: t.remarks :: t.methods

/-- The first methods, with dots if there are more. -/
def methodText (t : RowTexts) : String :=
  let names := ", ".intercalate (t.methods.take 5)
  if 5 < t.methods.length then names ++ "..." else names

/-- What is left of the texts in the four cells. -/
def cells (t : RowTexts) : List String :=
  [clip 30 t.name, clip 50 t.role, clip 80 t.methodText, clip 40 t.remarks]

def row (t : RowTexts) : String := "| " ++ " | ".intercalate t.cells ++ " |"

/-- The row is written with the cells that are left, and dots for the methods that were cut. -/
lemma render_cut (t : RowTexts) :
    TableRow.render ⟨clip 30 t.name, clip 50 t.role, t.methods.take 5, clip 40 t.remarks,
      t.methods.length⟩ = t.row := by
  have htake : (t.methods.take 5).take 5 = t.methods.take 5 := by rw [List.take_take, min_self]
  simp [TableRow.render, row, cells, TableRow.methodCell, methodText, String.append_assoc, htake]

/-- No cell breaks the row. -/
def Clean (t : RowTexts) : Prop := ∀ s ∈ t.cells, Unbroken s

instance (t : RowTexts) : Decidable t.Clean :=
  inferInstanceAs (Decidable (∀ s ∈ t.cells, Unbroken s))

/-- A row is its frame around the cells. -/
lemma count_row (t : RowTexts) (c : Char) :
    t.row.toList.count c =
      "|  |  |  |  |".toList.count c + (t.cells.map (·.toList.count c)).sum := by
  have hframe : "|  |  |  |  |" = "| " ++ " | " ++ " | " ++ " | " ++ " |" := rfl
  rw [row, hframe]
  simp only [cells, String.intercalate_cons_cons, String.intercalate_singleton,
    String.toList_append, List.count_append, List.map_cons, List.map_nil, List.sum_cons,
    List.sum_nil]
  omega

lemma sum_count_eq_zero_iff (t : RowTexts) (c : Char) :
    (t.cells.map (·.toList.count c)).sum = 0 ↔ ∀ s ∈ t.cells, c ∉ s.toList := by
  simp only [List.sum_eq_zero_iff, List.forall_mem_map, List.count_eq_zero]

/-- A row is one line of four cells exactly if none of these breaks it. -/
lemma clean_iff (t : RowTexts) :
    '\n' ∉ t.row.toList ∧ t.row.toList.count '|' = 5 ↔ t.Clean := by
  have hbars : "|  |  |  |  |".toList.count '|' = 5 := by decide
  have hbreaks : "|  |  |  |  |".toList.count '\n' = 0 := by decide
  rw [← List.count_eq_zero, count_row, count_row, hbars, hbreaks, zero_add, Nat.add_eq_left,
    sum_count_eq_zero_iff, sum_count_eq_zero_iff, Clean]
  simp only [Unbroken]
  rw [and_comm, ← forall₂_and]

end RowTexts

lemma unbroken_append {s s' : String} (h : Unbroken s) (h' : Unbroken s') : Unbroken (s ++ s') := by
  simp only [Unbroken, String.toList_append, List.mem_append, not_or]
  exact ⟨⟨h.1, h'.1⟩, h.2, h'.2⟩

lemma unbroken_clip {s : String} (n : ℕ) (h : Unbroken s) : Unbroken (clip n s) := by
  unfold clip
  split_ifs
  · have hsub : ∀ c, c ∉ s.toList → c ∉ (String.ofList (s.toList.take (n - 3))).toList := by
      intro c hc hmem
      rw [String.toList_ofList] at hmem
      exact hc (List.mem_of_mem_take hmem)
    exact unbroken_append ⟨hsub _ h.1, hsub _ h.2⟩ (by decide)
  · exact h

lemma unbroken_intercalate {sep : String} (hsep : Unbroken sep) {ss : List String}
    (h : ∀ s ∈ ss, Unbroken s) : Unbroken (sep.intercalate ss) := by
  induction ss with
  | nil => exact ⟨List.not_mem_nil, List.not_mem_nil⟩
  | cons s rest ih =>
    rw [List.forall_mem_cons] at h
    rcases rest with _ | ⟨s', rest⟩
    · rw [String.intercalate_singleton]
      exact h.1
    · rw [String.intercalate_cons_cons]
      exact unbroken_append (unbroken_append h.1 hsep) (ih h.2)

/-- Nothing is left in the cells that was not in the texts. -/
lemma RowTexts.clean_of_unbroken {t : RowTexts} (h : ∀ s ∈ t.all, Unbroken s) : t.Clean := by
  simp only [all, List.forall_mem_cons] at h
  obtain ⟨hname, hrole, hremarks, hmethods⟩ := h
  have hnames : Unbroken (", ".intercalate (t.methods.take 5)) :=
    unbroken_intercalate (by decide) fun s hs => hmethods s (List.mem_of_mem_take hs)
  have htext : Unbroken t.methodText := by
    unfold methodText
    dsimp only
    split_ifs
    · exact unbroken_append hnames (by decide)
    · exact hnames
  simp only [Clean, cells, List.forall_mem_cons]
  exact ⟨unbroken_clip 30 hname, unbroken_clip 50 hrole, unbroken_clip 80 htext,
    unbroken_clip 40 hremarks, List.forall_mem_nil _⟩

/-! ### From loose data to texts -/

/-- The text that a datum has in a cell: numbers and truth values are written out. -/
def cellText? : Datum → Option String
  | .null | .list _ | .record _ => none
  | d => some d.plain

def cellTexts? : Datum → Option (List String)
  | .list ds => ds.mapM cellText?
  | _ => none

lemma toOption_eq_some_iff {ε α : Type} {r : Except ε α} {a : α} :
    r.toOption = some a ↔ r = .ok a := by
  cases r <;> simp [Except.toOption]

lemma toOption_text (d : Datum) : (Schema.text d).toOption = cellText? d := by
  cases d <;> rfl

lemma toOption_readItems (i : ℕ) (ds : List Datum) :
    (Schema.readItems Schema.text i ds).toOption = ds.mapM cellText? := by
  induction ds generalizing i with
  | nil => rfl
  | cons d ds ih =>
    rw [Schema.readItems, List.mapM_cons, ← toOption_text, ← ih (i + 1)]
    cases Schema.text d <;> cases Schema.readItems Schema.text (i + 1) ds <;> rfl

lemma toOption_list (d : Datum) : (Schema.list Schema.text d).toOption = cellTexts? d := by
  cases d with
  | list ds => exact toOption_readItems 0 ds
  | _ => rfl

/-- Each item gives one text. -/
lemma length_of_mapM_cellText {ds : List Datum} {ss : List String}
    (h : ds.mapM cellText? = some ss) : ss.length = ds.length := by
  induction ds generalizing ss with
  | nil =>
    cases h
    rfl
  | cons d ds ih =>
    rw [List.mapM_cons] at h
    rcases hd : cellText? d with _ | s <;> rw [hd] at h
    · cases h
    rcases hds : ds.mapM cellText? with _ | ss' <;> rw [hds] at h <;> cases h
    rw [List.length_cons, List.length_cons, ih hds]

lemma size_of_cellTexts {d : Datum} {ss : List String} (h : cellTexts? d = some ss) :
    size d = .ok ss.length := by
  cases d with
  | list ds => exact congrArg Except.ok (length_of_mapM_cellText h).symm
  | _ => cases h

namespace RowSource

/-- The texts of a row, if all of its data have one. -/
def texts? (r : RowSource) : Option RowTexts := do
  return ⟨← cellText? r.name, ← cellText? r.role, ← cellTexts? r.methods, ← cellText? r.remarks⟩

/-- The line of a row: its texts, or what stands in for them. -/
def line (r : RowSource) : String := (r.texts?.map RowTexts.row).getD brokenRow

/-- Its texts do not break the row. -/
def Clean (r : RowSource) : Prop := ∀ t ∈ r.texts?, t.Clean

instance (r : RowSource) : Decidable r.Clean :=
  inferInstanceAs (Decidable (∀ t ∈ r.texts?, t.Clean))

/-- The fields of a row with their names. -/
def fields (r : RowSource) : Members :=
  [("class_name", r.name), ("role", r.role), ("main_methods", r.methods), ("remarks", r.remarks)]

/-- The fields of a row with the number of its methods. -/
def counted (r : RowSource) (n : ℕ) : Members := r.fields.set "original_method_count" (.int n)

open Schema in
/-- The fields are read as the texts are. -/
lemma toOption_readFields (r : RowSource) (n : ℕ) :
    (TableRow.readFields (r.counted n)).toOption = r.texts?.map fun t =>
      ⟨clip 30 t.name, clip 50 t.role, t.methods.take 5, clip 40 t.remarks, n⟩ := by
  have hname : required (r.counted n) "class_name" text = Checked.under _ (text r.name) := rfl
  have hrole : required (r.counted n) "role" text = Checked.under _ (text r.role) := rfl
  have hmethods : required (r.counted n) "main_methods" (list text) =
    Checked.under _ (list text r.methods) := rfl
  have hremarks : required (r.counted n) "remarks" text = Checked.under _ (text r.remarks) := rfl
  rw [texts?, ← toOption_text, ← toOption_text, ← toOption_text, ← toOption_list,
    TableRow.readFields, hname, hrole, hmethods, hremarks]
  -- the first datum without a text decides
  rcases text r.name with _ | name
  · rfl
  rcases text r.role with _ | role
  · rfl
  rcases list text r.methods with _ | methods
  · rfl
  rcases text r.remarks with _ | remarks <;> rfl

lemma read_eq_ok {r : RowSource} {row : TableRow} :
    TableRow.read r.fields = .ok row ↔
      ∃ n, size r.methods = .ok n ∧ TableRow.readFields (r.counted n) = .ok row := by
  refine bind_eq_ok.trans (exists_congr fun n => and_congr_right fun _ => ?_)
  rw [pure_bind, ← counted]
  dsimp only
  cases TableRow.readFields (r.counted n) with
  | error es => exact ⟨nofun, nofun⟩
  | ok row' =>
    rw [Except.ok.injEq]
    exact ⟨Except.ok.inj, congrArg Except.ok⟩

lemma row_of_texts {r : RowSource} {t : RowTexts} (h : r.texts? = some t) : r.row = t.row := by
  have hmethods : cellTexts? r.methods = some t.methods := by
    simp only [texts?, Option.bind_eq_bind, Option.pure_def, Option.bind_eq_some_iff] at h
    obtain ⟨name, -, role, -, methods, hmethods, remarks, -, ht⟩ := h
    cases ht
    exact hmethods
  have hfields := r.toOption_readFields t.methods.length
  rw [h, Option.map_some, toOption_eq_some_iff] at hfields
  rw [row, tableRow, ← fields, read_eq_ok.mpr ⟨_, size_of_cellTexts hmethods, hfields⟩]
  exact t.render_cut

lemma row_of_broken {r : RowSource} (h : r.texts? = none) : r.row = brokenRow := by
  rw [row, tableRow, ← fields]
  rcases hread : TableRow.read r.fields with f | row
  · rfl
  · obtain ⟨n, -, hfields⟩ := read_eq_ok.mp hread
    have hnone := r.toOption_readFields n
    rw [h, hfields] at hnone
    cases hnone

lemma row_eq_line (r : RowSource) : r.row = r.line := by
  rw [line]
  rcases htexts : r.texts? with _ | t
  · exact row_of_broken htexts
  · exact row_of_texts htexts

lemma clean_iff_line (r : RowSource) :
    '\n' ∉ r.line.toList ∧ r.line.toList.count '|' = 5 ↔ r.Clean := by
  rw [line, Clean]
  rcases r.texts? with _ | t
  · exact iff_of_true (by decide) nofun
  · simpa using t.clean_iff

end RowSource

/-- **When the table stays a table.** Between the head of the table and the heading of the details
stand the lines of the rows, one row for each function and each class of all modules. They are one
line for each row, with five bars each, exactly if no cell has a bar or a line break in it; so they
are whenever the texts have none. -/
theorem classMethodSection_table {data : Datum} {text : String}
    (h : classMethodSection data = .ok text) :
    let sources := rowSources data
    let rows := orEmptyRow (sources.map RowSource.line)
    let table := rows.flatMap linesOf
    (∃ details, linesOf text = tableHead.map String.toList ++ table ++
      [[], detailsHeading.toList] ++ linesOf details) ∧
    ((table = rows.map String.toList ∧ ∀ l ∈ table, l.count '|' = 5) ↔ ∀ r ∈ sources, r.Clean) ∧
    ((∀ r ∈ sources, ∀ t ∈ r.texts?, ∀ s ∈ t.all, Unbroken s) → ∀ r ∈ sources, r.Clean) := by
  intro sources rows table
  refine ⟨?_, ?_, fun hall r hr t ht => RowTexts.clean_of_unbroken (hall r hr t ht)⟩
  · obtain ⟨details, hlines⟩ := lines_of_classMethodSection h
    have hrows : sources.map RowSource.row = sources.map RowSource.line :=
      List.map_congr_left fun r _ => r.row_eq_line
    exact ⟨details, by rw [hlines, hrows]⟩
  · have hrows : (table = rows.map String.toList ∧ ∀ l ∈ table, l.count '|' = 5) ↔
        ∀ r ∈ rows, '\n' ∉ r.toList ∧ r.toList.count '|' = 5 := by
      constructor
      · rintro ⟨heq, hbars⟩ r hr
        exact ⟨flatMap_linesOf_eq_iff.mp heq r hr, hbars _ (heq ▸ List.mem_map_of_mem hr)⟩
      · intro hall
        have heq : table = rows.map String.toList :=
          flatMap_linesOf_eq_iff.mpr fun r hr => (hall r hr).1
        exact ⟨heq, heq ▸ List.forall_mem_map.mpr fun r hr => (hall r hr).2⟩
    rw [hrows, forall_mem_orEmptyRow (by decide), List.forall_mem_map]
    exact forall₂_congr fun r _ => r.clean_iff_line

/-- Two modules: a function and a class with six methods; a function with an input that has no text,
and a class whose purpose has a bar where it is cut off. -/
def twoModules : Datum := .record [("modules", .record
  [("a", .record
    [("functions", .list [.record
      [("name", .text "f"), ("purpose", .text "reads"), ("inputs", .list [.text "x", .text "y"])]]),
     ("classes", .list [.record
      [("name", .text "C"), ("purpose", .text "keeps"), ("methods", .list
        [.text "m1", .text "m2", .text "m3", .text "m4", .text "m5", .text "m6"])]])]),
   ("b", .record
    [("functions", .list [.record [("name", .text "g"), ("inputs", .list [.null])]]),
     ("classes", .list [.record
      [("name", .text "D"),
       ("purpose", .text "takes what it is given and gives what it is asked | or not")]])])])]

theorem classMethodSection_table_cut :
    let rows :=
      ["| f (関数) | reads | x, y | 複雑度: medium |",
       "| C | keeps | m1, m2, m3, m4, m5... | パターン: なし |",
       "| 解析エラー | 未定義 | 未定義 | エラー |",
       "| D | takes what it is given and gives what it is ask... |  | パターン: なし |"]
    ∃ text details, classMethodSection twoModules = .ok text ∧
      linesOf text = tableHead.map String.toList ++ rows.map String.toList ++
        [[], detailsHeading.toList] ++ linesOf details := by
  intro rows
  have hok : (classMethodSection twoModules).isOk := rfl
  obtain ⟨text, htext⟩ := isOk_iff.mp hok
  have hrows : orEmptyRow ((rowSources twoModules).map RowSource.line) = rows := rfl
  have hclean : ∀ r ∈ rowSources twoModules, r.Clean := by decide +kernel
  obtain ⟨⟨details, hlines⟩, hiff, -⟩ := classMethodSection_table htext
  rw [(hiff.mpr hclean).1, hrows] at hlines
  exact ⟨text, details, htext, hlines⟩

/-- **A bar in a purpose makes a fifth cell.** -/
theorem classMethodSection_fifth_cell :
    let data : Datum := .record [("modules", .record [("a", .record [("functions", .list
      [.record [("name", .text "f"), ("purpose", .text "str | None")]])])])]
    let line := "| f (関数) | str | None |  | 複雑度: medium |"
    ∃ text, classMethodSection data = .ok text ∧ line.toList ∈ linesOf text ∧
      line.toList.count '|' = 6 := by
  intro data line
  have hok : (classMethodSection data).isOk := rfl
  obtain ⟨text, htext⟩ := isOk_iff.mp hok
  obtain ⟨details, hlines⟩ := lines_of_classMethodSection htext
  have hrow : (rowSources data).map RowSource.row = [line] := rfl
  have hline : linesOf line = [line.toList] := by
    rw [linesOf_eq]
    exact List.splitOn_eq_singleton (by decide)
  refine ⟨text, htext, ?_, by decide⟩
  rw [hlines, hrow]
  simp [orEmptyRow, hline]

end SpecScribe.Document
