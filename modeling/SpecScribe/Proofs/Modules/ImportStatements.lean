import Mathlib
import SpecScribe.Modules.Imports
import SpecScribe.Proofs.Text.Splitting

/-!
Texts made of import statements. Each statement gives one dependency, whatever it imports: of
several names only the first one counts, or they all become one name, and an alias belongs to the
name. So the imports are recovered exactly from statements with a single clause and no alias; a
dotted module name may have one.
-/

namespace SpecScribe.Modules.Importing

open Text

/-! ### Statements -/

/-- A module or a name as it stands in a statement. -/
structure Word where
  text : List Char
  nonempty : text ≠ []
  unbroken : text.all (!isBlank ·)
  other : text ≠ "import".toList

/-- A name, or one component of a dotted name. -/
structure Name extends Word where
  single : text.all fun c => c != '.' && c != ','

/-- A dotted name, from its first component on, and its alias. -/
structure Clause where
  first : Name
  deeper : List Name
  newName : Option Name

/-- Modules, or names from a module. -/
inductive Statement
  | modules (first : Clause) (rest : List Clause)
  | names (source : Word) (first : Clause) (rest : List Clause)

namespace Clause

def name (c : Clause) : List Char := c.first.text ++ c.deeper.flatMap fun n => '.' :: n.text

def text (c : Clause) : List Char :=
  c.name ++ match c.newName with
    | none => []
    | some a => " as ".toList ++ a.text

/-- Clauses one after the other. -/
def listed (first : Clause) (rest : List Clause) : List Char :=
  first.text ++ rest.flatMap fun c => ", ".toList ++ c.text

end Clause

namespace Statement

def line : Statement → List Char
  | modules first rest => "import ".toList ++ Clause.listed first rest
  | names source first rest =>
    "from ".toList ++ source.text ++ " import ".toList ++ Clause.listed first rest

/-- What is imported: the first component of every module, and every name with its source. -/
def imports : Statement → List Dependency
  | modules first rest =>
    (first :: rest).map fun c => ⟨String.ofList c.first.text, "module", none⟩
  | names source first rest =>
    (first :: rest).map fun c =>
      ⟨String.ofList c.name, "function", some (String.ofList source.text)⟩

/-- The dependency that a statement gives: the modules up to the first dot, or the first name with
its alias. -/
def reported : Statement → Dependency
  | modules first rest =>
    ⟨String.ofList ((Clause.listed first rest).takeWhile (· != '.')), "module", none⟩
  | names source first _ =>
    ⟨String.ofList first.text, "function", some (String.ofList source.text)⟩

/-- The statements whose imports are recovered. -/
def Recovered : Statement → Prop
  | modules first rest => rest = [] ∧ (first.newName = none ∨ first.deeper ≠ [])
  | names _ first rest => rest = [] ∧ first.newName = none

end Statement

/-! ### Characters of a statement -/

namespace Word

variable (w : Word)

lemma not_isBlank {c : Char} (h : c ∈ w.text) : ¬ isBlank c := by
  simpa using List.all_eq_true.mp w.unbroken c h

lemma tight : Tight isBlank w.text := tight_of_forall fun _ => w.not_isBlank

lemma blank_notMem : ' ' ∉ w.text := fun h => w.not_isBlank h (by decide)

lemma break_notMem : '\n' ∉ w.text := fun h => w.not_isBlank h (by decide)

lemma import_notMem_splitOn : "import".toList ∉ ("from ".toList ++ w.text).splitOn ' ' := by
  have hpieces : ("from ".toList ++ w.text).splitOn ' ' = ["from".toList, w.text] := by
    rw [← List.splitOn_eq_singleton w.blank_notMem]
    exact List.splitOn_append_cons_self_of_not_mem (by decide : ' ' ∉ "from".toList) _
  rw [hpieces, List.mem_pair, not_or]
  exact ⟨by decide, w.other.symm⟩

end Word

namespace Name

variable (n : Name)

lemma dot_notMem : '.' ∉ n.text := fun h => by
  simpa using List.all_eq_true.mp n.single _ h

lemma comma_notMem : ',' ∉ n.text := fun h => by
  simpa using List.all_eq_true.mp n.single _ h

end Name

namespace Clause

variable (c : Clause)

lemma name_ne_nil : c.name ≠ [] := by
  simp [name, c.first.nonempty]

lemma text_ne_nil : c.text ≠ [] := by
  simp [text, c.name_ne_nil]

lemma not_isBlank_of_mem_name {x : Char} (h : x ∈ c.name) : ¬ isBlank x := by
  rcases List.mem_append.mp h with h | h
  · exact c.first.not_isBlank h
  · obtain ⟨n, -, hx⟩ := List.mem_flatMap.mp h
    rcases List.mem_cons.mp hx with rfl | hx
    · decide
    · exact n.not_isBlank hx

lemma comma_notMem_name : ',' ∉ c.name := by
  simp [name, c.first.comma_notMem, Name.comma_notMem]

lemma comma_notMem_text : ',' ∉ c.text := by
  rw [text]
  rcases c.newName with _ | a <;> simp [c.comma_notMem_name, Name.comma_notMem]

lemma break_notMem_text : '\n' ∉ c.text := by
  have hname : '\n' ∉ c.name := fun h => c.not_isBlank_of_mem_name h (by decide)
  rw [text]
  rcases c.newName with _ | a <;> simp [hname, Word.break_notMem]

lemma ofList_name_eq_iff :
    String.ofList c.name = String.ofList c.text ↔ c.newName = none := by
  rw [String.ofList_inj, text]
  rcases c.newName with _ | a <;> simp

lemma name_of_undotted (h : c.deeper = []) : c.name = c.first.text := by
  simp [name, h]

lemma tight_text : Tight isBlank c.text := by
  have hname : Tight isBlank c.name := tight_of_forall fun _ => c.not_isBlank_of_mem_name
  rw [text]
  rcases c.newName with _ | a
  · simpa using hname
  · simpa using hname.append a.tight c.name_ne_nil a.nonempty " as ".toList

lemma listed_cons (rest : List Clause) (d : Clause) :
    listed c (d :: rest) = c.text ++ ", ".toList ++ listed d rest := by
  simp [listed]

lemma listed_nil : listed c [] = c.text := List.append_nil _

lemma listed_ne_nil (rest : List Clause) : listed c rest ≠ [] := by
  simp [listed, c.text_ne_nil]

lemma tight_listed (rest : List Clause) : Tight isBlank (listed c rest) := by
  induction rest generalizing c with
  | nil => exact c.listed_nil ▸ c.tight_text
  | cons d rest ih =>
    rw [listed_cons]
    exact c.tight_text.append (ih d) c.text_ne_nil (d.listed_ne_nil rest) _

/-- The first clause goes up to the first comma. -/
lemma takeWhile_comma (rest : List Clause) :
    (listed c rest).takeWhile (· != ',') = c.text := by
  rcases rest with _ | ⟨d, rest⟩
  · rw [listed, List.flatMap_nil, takeWhile_append_of_notMem c.comma_notMem_text]
    exact List.append_nil _
  · rw [listed_cons, List.append_assoc]
    exact takeWhile_append_cons c.comma_notMem_text _

lemma takeWhile_dot_of_dotted (h : c.deeper ≠ []) (rest : List Clause) :
    (listed c rest).takeWhile (· != '.') = c.first.text := by
  obtain ⟨n, ns, hdeeper⟩ := List.exists_cons_of_ne_nil h
  have hlisted : ∃ r, listed c rest = c.first.text ++ '.' :: r := by
    simp [listed, text, name, hdeeper]
  obtain ⟨r, hr⟩ := hlisted
  rw [hr, takeWhile_append_cons c.first.dot_notMem]

lemma dot_notMem_text (h : c.deeper = []) : '.' ∉ c.text := by
  rw [text, c.name_of_undotted h]
  rcases c.newName with _ | a <;> simp [Name.dot_notMem]

lemma takeWhile_dot_of_undotted (h : c.deeper = []) :
    (listed c []).takeWhile (· != '.') = c.text := by
  rw [listed, List.flatMap_nil, takeWhile_append_of_notMem (c.dot_notMem_text h)]
  exact List.append_nil _

/-- Up to the first dot there is a word at each end. -/
lemma tight_takeWhile_dot (rest : List Clause) :
    Tight isBlank ((listed c rest).takeWhile (· != '.')) ∧
      (listed c rest).takeWhile (· != '.') ≠ [] := by
  induction rest generalizing c with
  | nil =>
    by_cases h : c.deeper = []
    · rw [c.takeWhile_dot_of_undotted h]
      exact ⟨c.tight_text, c.text_ne_nil⟩
    · rw [c.takeWhile_dot_of_dotted h]
      exact ⟨c.first.tight, c.first.nonempty⟩
  | cons d rest ih =>
    by_cases h : c.deeper = []
    · have hcomma : (", ".toList ++ listed d rest).takeWhile (· != '.') =
          ", ".toList ++ (listed d rest).takeWhile (· != '.') :=
        takeWhile_append_of_notMem (by decide) _
      rw [listed_cons, List.append_assoc, takeWhile_append_of_notMem (c.dot_notMem_text h), hcomma,
        ← List.append_assoc]
      exact ⟨c.tight_text.append (ih d).1 c.text_ne_nil (ih d).2 _, by simp [c.text_ne_nil]⟩
    · rw [c.takeWhile_dot_of_dotted h]
      exact ⟨c.first.tight, c.first.nonempty⟩

/-! ### The keyword -/

lemma name_ne_import : c.name ≠ "import".toList := by
  rw [name]
  rcases c.deeper with _ | ⟨n, ns⟩
  · simpa using c.first.other
  · intro h
    have hdot : '.' ∈ "import".toList := h ▸ by simp
    exact absurd hdot (by decide)

lemma import_notMem_text {e : List Char} (he : e = [] ∨ e = [',']) :
    "import".toList ∉ (c.text ++ e).splitOn ' ' := by
  have hblank : ' ' ∉ c.name := fun h => c.not_isBlank_of_mem_name h (by decide)
  have hne : ∀ t, t ≠ "import".toList → t ++ e ≠ "import".toList := by
    rintro t ht h
    rcases he with rfl | rfl
    · exact ht (by simpa using h)
    · have hcomma : ',' ∈ "import".toList := h ▸ by simp
      exact absurd hcomma (by decide)
  have hend : ' ' ∉ e := by rcases he with rfl | rfl <;> decide
  have hsingle : ∀ t, ' ' ∉ t → t ≠ "import".toList → "import".toList ∉ t.splitOn ' ' := by
    intro t ht hother
    simpa [List.splitOn_eq_singleton ht] using Ne.symm hother
  rw [text]
  rcases c.newName with _ | a
  · rw [List.append_nil]
    exact hsingle _ (List.not_mem_append hblank hend) (hne _ c.name_ne_import)
  · have htext : c.name ++ (" as ".toList ++ a.text) ++ e =
        c.name ++ ' ' :: ("as".toList ++ ' ' :: (a.text ++ e)) := by simp
    rw [htext, List.splitOn_append_cons_self, List.splitOn_append_cons_self, List.mem_append,
      List.mem_append, not_or, not_or]
    exact ⟨hsingle _ hblank c.name_ne_import, hsingle _ (by decide) (by decide),
      hsingle _ (List.not_mem_append a.blank_notMem hend) (hne _ a.other)⟩

/-- No word of the clauses is the keyword. -/
lemma import_notMem_splitOn (rest : List Clause) :
    "import".toList ∉ (listed c rest).splitOn ' ' := by
  induction rest generalizing c with
  | nil => simpa [listed_nil] using c.import_notMem_text (.inl rfl)
  | cons d rest ih =>
    have hlisted : listed c (d :: rest) = (c.text ++ [',']) ++ ' ' :: listed d rest := by
      rw [listed_cons]
      simp
    rw [hlisted, List.splitOn_append_cons_self, List.mem_append, not_or]
    exact ⟨c.import_notMem_text (.inr rfl), ih d⟩

end Clause

/-! ### One statement -/

lemma splitOn_append_import {a : List Char} (h : "import".toList ∉ a.splitOn ' ') (b : List Char) :
    splitOn " import ".toList (a ++ (" import ".toList ++ b)) =
      a :: splitOn " import ".toList b := by
  have hword : ' ' ∉ "import".toList := by decide
  exact splitOn_append_word hword (fun hin => h (mem_splitOn_of_alone hword hin))
    (fun hend => h (mem_splitOn_of_last hword hend)) b

lemma splitOn_import_eq {a : List Char} (h : "import".toList ∉ a.splitOn ' ') :
    splitOn " import ".toList a = [a] :=
  splitOn_of_not_infix fun hin =>
    h (mem_splitOn_of_alone (by decide : ' ' ∉ "import".toList) hin)

namespace Statement

lemma line_names (source : Word) (first : Clause) (rest : List Clause) :
    line (names source first rest) =
      ("from ".toList ++ source.text) ++ (" import ".toList ++ Clause.listed first rest) :=
  List.append_assoc ..

lemma tight_line (s : Statement) : Tight isBlank s.line := by
  rcases s with ⟨first, rest⟩ | ⟨source, first, rest⟩
  · exact Tight.append (a := "import".toList) (by decide) (first.tight_listed rest) (by decide)
      (first.listed_ne_nil rest) [' ']
  · have hline : line (names source first rest) = "from".toList ++
        (' ' :: source.text ++ " import ".toList) ++ Clause.listed first rest := by
      rw [line_names]
      simp
    rw [hline]
    exact Tight.append (by decide) (first.tight_listed rest) (by decide)
      (first.listed_ne_nil rest) _

/-- What one statement gives. -/
lemma importLine?_line (s : Statement) : importLine? s.line = some s.reported := by
  have hstrip : strip s.line = s.line := stripWhile_eq_self s.tight_line
  rcases s with ⟨first, rest⟩ | ⟨source, first, rest⟩
  · have hafter : after? "import ".toList (line (modules first rest)) =
        some (Clause.listed first rest) := after?_eq_some.mpr rfl
    have hname : strip ((Clause.listed first rest).takeWhile (· != '.')) =
        (Clause.listed first rest).takeWhile (· != '.') :=
      stripWhile_eq_self (first.tight_takeWhile_dot rest).1
    rw [importLine?]
    simp only [hstrip, hafter, firstPiece, hname]
    rfl
  · have hafter : after? "import ".toList (line (names source first rest)) = none := by
      rw [line_names]
      rfl
    have hfrom : "from ".toList.isPrefixOf (line (names source first rest)) := by
      rw [line_names]
      simp
    have hpieces : splitOn " import ".toList (line (names source first rest)) =
        ["from ".toList ++ source.text, Clause.listed first rest] := by
      rw [line_names, splitOn_append_import source.import_notMem_splitOn,
        splitOn_import_eq (first.import_notMem_splitOn rest)]
    have hsource : strip (("from ".toList ++ source.text).drop 5) = source.text :=
      stripWhile_eq_self source.tight
    have hname : strip first.text = first.text := stripWhile_eq_self first.tight_text
    rw [importLine?]
    simp only [hstrip, hafter, hfrom, if_true, hpieces, firstPiece, first.takeWhile_comma, hsource,
      hname]
    rfl

lemma imports_eq_iff (s : Statement) : s.imports = [s.reported] ↔ s.Recovered := by
  rcases s with ⟨first, _ | ⟨c, rest⟩⟩ | ⟨source, first, _ | ⟨c, rest⟩⟩
  · by_cases h : first.deeper = []
    · simp [imports, reported, Recovered, h, first.takeWhile_dot_of_undotted h,
        ← first.name_of_undotted h, first.ofList_name_eq_iff]
    · simp [imports, reported, Recovered, h, first.takeWhile_dot_of_dotted h]
  · simp [imports, Recovered]
  · simp [imports, reported, Recovered, first.ofList_name_eq_iff]
  · simp [imports, Recovered]

lemma imports_ne_nil (s : Statement) : s.imports ≠ [] := by
  cases s <;> simp [imports]

/-- A statement is one line. -/
lemma break_notMem_line (s : Statement) : '\n' ∉ s.line := by
  have hlisted : ∀ first rest, '\n' ∉ Clause.listed first rest := fun first rest => by
    simp [Clause.listed, Clause.break_notMem_text]
  rcases s with ⟨first, rest⟩ | ⟨source, first, rest⟩
  · exact List.not_mem_append (by decide) (hlisted first rest)
  · rw [line_names]
    simp [source.break_notMem, hlisted]

end Statement

/-! ### Texts -/

/-- Statements one a line, with a line break after the last one or without. -/
def written (ss : List Statement) (final : Bool) : List Char :=
  unlines (ss.map Statement.line) ++ if final then ['\n'] else []

lemma dependencies_written (ss : List Statement) (final : Bool) :
    dependencies .python (written ss final) = ss.map Statement.reported := by
  have hread : (ss.map Statement.line).filterMap importLine? = ss.map Statement.reported := by
    have hline : importLine? ∘ Statement.line = some ∘ Statement.reported :=
      funext Statement.importLine?_line
    rw [List.filterMap_map, hline, List.filterMap_eq_map]
  rcases eq_or_ne ss [] with rfl | hne
  · cases final <;> rfl
  have hlines : lines (unlines (ss.map Statement.line)) = ss.map Statement.line := by
    refine lines_unlines ?_ (by simpa using hne)
    simpa using fun s _ => Statement.break_notMem_line s
  cases final with
  | false =>
    have hall : lines (written ss false) = ss.map Statement.line := by simpa [written] using hlines
    rw [dependencies, hall, hread]
  | true =>
    -- behind the last line break there is an empty line
    have hall : lines (written ss true) = ss.map Statement.line ++ [[]] := by
      rw [← hlines, written, if_pos rfl, lines, lines, splitOn_singleton, splitOn_singleton,
        List.splitOn_append_cons_self, List.splitOn_nil]
    rw [dependencies, hall, List.filterMap_append, hread]
    exact List.append_nil _

/-- If each statement stands for something, the statements stand for as many things as there are
statements only if each stands for one. -/
lemma map_eq_flatMap_iff {α β : Type*} {f : α → β} {g : α → List β} (hg : ∀ a, g a ≠ [])
    (as : List α) : as.map f = as.flatMap g ↔ ∀ a ∈ as, g a = [f a] := by
  induction as with
  | nil => simp
  | cons a as ih =>
    have hlength : as.length ≤ (as.flatMap g).length := by
      rw [List.length_flatMap]
      refine (List.length_map _).symm.le.trans (List.length_le_sum_of_one_le _ ?_)
      simpa [Nat.one_le_iff_ne_zero] using fun a _ => hg a
    obtain ⟨x, xs, hx⟩ := List.exists_cons_of_ne_nil (hg a)
    rw [List.map_cons, List.flatMap_cons, List.forall_mem_cons, ← ih, hx, List.cons_append,
      List.cons.injEq, List.cons.injEq]
    refine ⟨fun ⟨hfirst, hrest⟩ => ?_, fun ⟨⟨hfirst, hxs⟩, hrest⟩ => ?_⟩
    · have hxs : xs = [] := by
        have hcount := congrArg List.length hrest
        rw [List.length_map, List.length_append] at hcount
        exact List.length_eq_zero_iff.mp (by omega)
      rw [hxs, List.nil_append] at hrest
      exact ⟨⟨hfirst.symm, hxs⟩, hrest⟩
    · rw [hfirst, hrest, hxs, List.nil_append]
      exact ⟨rfl, rfl⟩

/-- **Each import statement gives one dependency.** The dependencies are the imports exactly if each
statement has a single clause, and no alias unless it is the alias of a dotted module. -/
theorem dependencies_of_imports (ss : List Statement) (final : Bool) :
    dependencies .python (written ss final) = ss.map Statement.reported ∧
      (dependencies .python (written ss final) = ss.flatMap Statement.imports ↔
        ∀ s ∈ ss, s.Recovered) := by
  rw [dependencies_written, map_eq_flatMap_iff Statement.imports_ne_nil]
  exact ⟨rfl, forall₂_congr fun s _ => s.imports_eq_iff⟩

/-- Several modules become one name, only the first of several names counts, and an alias belongs to
the name. -/
theorem dependencies_several_clauses :
    dependencies .python "import os, sys".toList = [⟨"os, sys", "module", none⟩] ∧
      dependencies .python "import numpy as np".toList = [⟨"numpy as np", "module", none⟩] ∧
      dependencies .python "from a import b, c".toList = [⟨"b", "function", some "a"⟩] := by
  decide

end SpecScribe.Modules.Importing
