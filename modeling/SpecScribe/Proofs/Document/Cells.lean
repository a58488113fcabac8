import Mathlib
import SpecScribe.Document.Table
import SpecScribe.Proofs.Document.Table

/-!
How long a row of the table can get, and what the dots in it stand for. A cell ends in dots exactly
if something is missing, and what precedes the dots is the start of what would have stood there. The
methods are cut twice, by number and by length, but only one group of dots is left of it.
-/

namespace SpecScribe.Document

/-! ### Cells -/

/-- A cell holds the whole text if it fits, and otherwise its start and three dots. -/
inductive Shortened (limit : ℕ) (s cell : String) : Prop
  | whole (fits : s.length ≤ limit) (cell_eq : cell = s)
  | cut (long : limit < s.length)
      (cell_eq : cell = String.ofList (s.toList.take (limit - 3)) ++ "...")

lemma shortened_clip (limit : ℕ) (s : String) : Shortened limit s (clip limit s) := by
  unfold clip
  split_ifs with hlong
  · exact .cut hlong rfl
  · exact .whole (not_lt.mp hlong) rfl

lemma length_ofList_take (n : ℕ) (s : String) :
    (String.ofList (s.toList.take n)).length = min n s.length := by
  rw [String.length_ofList, List.length_take, String.length_toList]

lemma length_append_dots (s : String) : (s ++ "...").length = s.length + 3 :=
  String.length_append s "..."

lemma Shortened.length_le {limit : ℕ} {s cell : String} (h : Shortened limit s cell)
    (hdots : 3 ≤ limit) : cell.length ≤ limit := by
  cases h with
  | whole fits cell_eq => exact cell_eq ▸ fits
  | cut long cell_eq =>
    rw [cell_eq, length_append_dots, length_ofList_take]
    omega

/-- Methods in one line. -/
def joined (methods : List String) : String := ", ".intercalate methods

/-- The cell of the methods holds all of them if they are at most five and fit. Otherwise it holds
as much as fits of the first five, and three dots. -/
inductive ShowsMethods (methods : List String) (cell : String) : Prop
  | all (few : methods.length ≤ 5) (fits : (joined methods).length ≤ 80)
      (cell_eq : cell = joined methods)
  | cut (more : 5 < methods.length ∨ 80 < (joined methods).length) (shown : String)
      (cell_eq : cell = shown ++ "...") (fits : cell.length ≤ 80)
      (start : shown.toList <+: (joined (methods.take 5)).toList)
      (most : shown.length = min 77 (joined (methods.take 5)).length)

namespace RowTexts

/-- With dots behind them already, the names are cut within the names or not at all: the lengths at
which the second dots would meet the first are those at which nothing is cut. -/
lemma clip_names_dots (names : String) :
    clip 80 (names ++ "...") = String.ofList (names.toList.take 77) ++ "..." := by
  have hlength := length_append_dots names
  unfold clip
  split_ifs with hlong
  · have hwithin : 77 ≤ names.toList.length := by
      rw [String.length_toList]
      omega
    rw [String.toList_append, List.take_append_of_le_length hwithin]
  · have hall : names.toList.length ≤ 77 := by
      rw [String.length_toList]
      omega
    rw [List.take_of_length_le hall, String.ofList_toList]

lemma showsMethods (t : RowTexts) : ShowsMethods t.methods (clip 80 t.methodText) := by
  have hcut : ∀ names : String, names = joined (t.methods.take 5) →
      (5 < t.methods.length ∨ 80 < (joined t.methods).length) →
      ShowsMethods t.methods (String.ofList (names.toList.take 77) ++ "...") := by
    rintro names rfl hmore
    refine .cut hmore _ rfl ?_ ?_ (length_ofList_take 77 _)
    · rw [length_append_dots, length_ofList_take]
      omega
    · rw [String.toList_ofList]
      exact List.take_prefix 77 _
  by_cases hmore : 5 < t.methods.length
  · have htext : t.methodText = joined (t.methods.take 5) ++ "..." := if_pos hmore
    rw [htext, clip_names_dots]
    exact hcut _ rfl (.inl hmore)
  · have hfive : t.methods.take 5 = t.methods := List.take_of_length_le (not_lt.mp hmore)
    have htext : t.methodText = joined t.methods := (if_neg hmore).trans (congrArg joined hfive)
    rw [htext]
    cases shortened_clip 80 (joined t.methods) with
    | whole fits cell_eq => exact .all (not_lt.mp hmore) fits cell_eq
    | cut long cell_eq =>
      rw [cell_eq]
      exact hcut _ (by rw [hfive]) (.inr long)

lemma length_row (t : RowTexts) : t.row.length = 13 + (t.cells.map String.length).sum := by
  have hends : "| ".length = 2 ∧ " | ".length = 3 ∧ " |".length = 2 := ⟨rfl, rfl, rfl⟩
  obtain ⟨hleft, hbar, hright⟩ := hends
  simp only [row, cells, String.intercalate_cons_cons, String.intercalate_singleton,
    String.length_append, List.map_cons, List.map_nil, List.sum_cons, List.sum_nil, hleft, hbar,
    hright]
  omega

lemma length_row_le (t : RowTexts) : t.row.length ≤ 213 := by
  have hname := (shortened_clip 30 t.name).length_le (by decide)
  have hrole := (shortened_clip 50 t.role).length_le (by decide)
  have hmethods := (shortened_clip 80 t.methodText).length_le (by decide)
  have hremarks := (shortened_clip 40 t.remarks).length_le (by decide)
  rw [length_row]
  simp only [cells, List.map_cons, List.map_nil, List.sum_cons, List.sum_nil]
  omega

/-- Texts as the data of a row. -/
def source (t : RowTexts) : RowSource :=
  ⟨.text t.name, .text t.role, .list (t.methods.map .text), .text t.remarks⟩

lemma texts?_source (t : RowTexts) : t.source.texts? = some t := by
  have hmethods : (t.methods.map Datum.text).mapM cellText? = some t.methods := by
    induction t.methods with
    | nil => rfl
    | cons m ms ih =>
      rw [List.map_cons, List.mapM_cons, ih]
      rfl
  simp only [source, RowSource.texts?, cellTexts?, hmethods]
  rfl

lemma row_source (t : RowTexts) : t.source.row = t.row := RowSource.row_of_texts t.texts?_source

end RowTexts

/-! ### Rows -/

lemma RowSource.length_row_le (r : RowSource) : r.row.length ≤ 213 := by
  rw [row_eq_line, line]
  rcases r.texts? with _ | t
  · decide
  · exact t.length_row_le

/-- **A row is bounded, and its dots are honest.** Whatever the data are, there is a row, and it has
at most 213 characters. Data that have texts give the row of these texts, and all others one and the
same row. In a row of texts each cell holds its text, or the start of it with dots where it is too
long; the methods are all there, or the start of the first five with dots. -/
theorem tableRow_bounded :
    (∀ name role methods remarks : Datum, (tableRow name role methods remarks).length ≤ 213) ∧
    (∀ (name role : String) (methods : List String) (remarks : String),
      ∃ nameCell roleCell methodCell remarkCell,
        tableRow (.text name) (.text role) (.list (methods.map .text)) (.text remarks) =
          "| " ++ nameCell ++ " | " ++ roleCell ++ " | " ++ methodCell ++ " | " ++ remarkCell
            ++ " |" ∧
        Shortened 30 name nameCell ∧ Shortened 50 role roleCell ∧
        ShowsMethods methods methodCell ∧ Shortened 40 remarks remarkCell) ∧
    ∀ r : RowSource, r.row = (r.texts?.map fun t => t.source.row).getD brokenRow := by
  refine ⟨fun name role methods remarks => ?_, fun name role methods remarks => ?_, fun r => ?_⟩
  · exact RowSource.length_row_le ⟨name, role, methods, remarks⟩
  · let t : RowTexts := ⟨name, role, methods, remarks⟩
    refine ⟨clip 30 name, clip 50 role, clip 80 t.methodText, clip 40 remarks, ?_,
      shortened_clip 30 name, shortened_clip 50 role, t.showsMethods, shortened_clip 40 remarks⟩
    have hrow : tableRow (.text name) (.text role) (.list (methods.map .text)) (.text remarks) =
        t.row := t.row_source
    rw [hrow, RowTexts.row, RowTexts.cells]
    simp only [String.intercalate_cons_cons, String.intercalate_singleton, String.append_assoc]
    rfl
  · rw [RowSource.row_eq_line, RowSource.line]
    simp only [RowTexts.row_source]

end SpecScribe.Document
