import Mathlib
import SpecScribe.Modules.Imports
import SpecScribe.Proofs.Text.Splitting

/-!
The imports of a script. A line that takes a module gives the same dependency whatever the other
lines are. Its name is the specifier if the line is an import without a semicolon, or a call with
single quotes. A semicolon becomes part of the name, together with the quote before it, and a call
with double quotes is overlooked.
-/

namespace SpecScribe.Modules

open Text

/-- How a line takes a module: with a binding for what it imports from it, or with a name for what
loading it gives. -/
inductive Taking
  | imported (binding : List Char) (unbroken : ¬ " from ".toList <:+: binding)
  | required (name : List Char) (unquoted : '\'' ∉ name)

/-- A character of a specifier. -/
def isPlain (c : Char) : Bool := !isBlank c && !isQuote c && c != '(' && c != ')'

/-- A line of a script that takes a module. -/
structure ScriptImport where
  taking : Taking
  specifier : List Char
  quote : Char
  semicolon : Bool
  plain : specifier.all isPlain
  isQuote_quote : isQuote quote

namespace ScriptImport

def quoted (i : ScriptImport) : List Char := i.quote :: i.specifier ++ [i.quote]

def ending (i : ScriptImport) : List Char := if i.semicolon then [';'] else []

def line (i : ScriptImport) : List Char :=
  match i.taking with
  | .imported b _ => "import ".toList ++ b ++ " from ".toList ++ (i.quoted ++ i.ending)
  | .required n _ => "const ".toList ++ n ++ " = require(".toList ++ i.quoted ++ ')' :: i.ending

end ScriptImport

/-- The binding ends in the keyword, which then counts as the one before the specifier. If it is
nothing but the keyword twice, the first one takes the blank from the second. -/
def Misread (binding : List Char) : Prop :=
  binding = "from".toList ∨ " from".toList <:+ binding ∧ binding ≠ "from from".toList

instance (b : List Char) : Decidable (Misread b) := inferInstanceAs (Decidable (_ ∨ _ ∧ _))

namespace ScriptImport

/-- The name that a line gives. -/
def reportedName? (i : ScriptImport) : Option (List Char) :=
  match i.taking with
  | .imported b _ =>
    some <|
      if Misread b then
        "from ".toList ++
          if i.semicolon then i.quoted ++ [';']
          else if i.specifier = [] then [] else i.quote :: i.specifier
      else if i.semicolon then
        if i.specifier = [] then [';'] else i.specifier ++ [i.quote, ';']
      else i.specifier
  | .required _ _ => if i.quote = '\'' ∧ i.specifier ≠ [] then some i.specifier else none

/-- The dependency that a line gives. -/
def reported? (i : ScriptImport) : Option Dependency :=
  i.reportedName?.map fun name => ⟨String.ofList name, "module", none⟩

/-- The lines that give their specifier. -/
def Recovered (i : ScriptImport) : Prop :=
  match i.taking with
  | .imported b _ => ¬ i.semicolon ∧ ¬ Misread b
  | .required _ _ => i.quote = '\'' ∧ i.specifier ≠ []

end ScriptImport

/-! ### The keyword -/

variable {b t x : List Char}

lemma splitOn_append_from (hin : ¬ " from ".toList <:+: x) (hend : ¬ " from".toList <:+ x)
    (t : List Char) :
    splitOn " from ".toList (x ++ (" from ".toList ++ t)) = x :: splitOn " from ".toList t :=
  splitOn_append_word (by decide : ' ' ∉ "from".toList) hin hend t

/-- The keyword has a blank on each side. -/
lemma splitOn_from_eq (ht : t.count ' ' < 2) : splitOn " from ".toList t = [t] :=
  splitOn_of_not_infix fun h => absurd (h.sublist.count_le ' ') (by simpa using ht)

/-- Behind a text without the keyword, the last piece is what follows it, unless the text ends in
the keyword already. -/
lemma exists_splitOn_from (hx : ¬ " from ".toList <:+: x) (ht : ' ' ∉ t) :
    ∃ u, splitOn " from ".toList (x ++ (" from ".toList ++ t)) =
      [u, if " from".toList <:+ x then "from ".toList ++ t else t] := by
  have hcount : t.count ' ' = 0 := List.count_eq_zero.mpr ht
  split_ifs with hend
  · obtain ⟨v, rfl⟩ := hend
    have hin : ¬ " from ".toList <:+: v := fun h => hx (h.trans (List.prefix_append ..).isInfix)
    have hend : ¬ " from".toList <:+ v := by
      rintro ⟨w, rfl⟩
      exact hx ⟨w, "from".toList, by simp⟩
    have hcut := splitOn_append_from hin hend ("from ".toList ++ t)
    rw [splitOn_from_eq (t := "from ".toList ++ t) (by simp [hcount])] at hcut
    exact ⟨v, by simpa using hcut⟩
  · rw [splitOn_append_from hx hend, splitOn_from_eq (by simp [hcount])]
    exact ⟨x, rfl⟩

lemma misread_append (r : List Char) :
    Misread ("from ".toList ++ r) ↔ " from".toList <:+ r := by
  have hends : " from".toList <:+ "from ".toList ++ r ↔
      "from".toList = r ∨ " from".toList <:+ r := by simp [List.suffix_cons_iff]
  have htwice : "from ".toList ++ r = "from from".toList ↔ r = "from".toList := by simp
  have honce : "from ".toList ++ r ≠ "from".toList := by simp
  rw [Misread, hends, Ne, htwice]
  refine ⟨?_, fun h => .inr ⟨.inr h, ?_⟩⟩
  · rintro (h | ⟨h | h, hr⟩)
    · exact absurd h honce
    · exact absurd h.symm hr
    · exact h
  · rintro rfl
    exact absurd h (by decide)

lemma misread_iff (h : ¬ "from ".toList <+: b) :
    Misread b ↔ " from".toList <:+ "import ".toList ++ b := by
  have hends : " from".toList <:+ "import ".toList ++ b ↔
      "from".toList = b ∨ " from".toList <:+ b := by simp [List.suffix_cons_iff]
  have htwice : b ≠ "from from".toList := by
    rintro rfl
    exact h (by decide)
  rw [Misread, hends, eq_comm, and_iff_left htwice]

/-- The last piece of an import statement. -/
lemma exists_splitOn_import (hb : ¬ " from ".toList <:+: b) (ht : ' ' ∉ t) :
    ∃ u us, splitOn " from ".toList ("import ".toList ++ b ++ (" from ".toList ++ t)) =
      u :: (us ++ [if Misread b then "from ".toList ++ t else t]) := by
  by_cases hfirst : "from ".toList <+: b
  · -- the binding starts with the keyword, where the text is cut for the first time
    obtain ⟨r, rfl⟩ := hfirst
    obtain ⟨u, hu⟩ := exists_splitOn_from (fun h => hb (h.trans (List.suffix_append ..).isInfix)) ht
    have htext : "import ".toList ++ ("from ".toList ++ r) ++ (" from ".toList ++ t) =
        "import".toList ++ (" from ".toList ++ (r ++ (" from ".toList ++ t))) := by simp
    refine ⟨"import".toList, [u], ?_⟩
    rw [htext, splitOn_append_from (by decide) (by decide), hu,
      if_congr (misread_append r) rfl rfl]
    rfl
  · have hin : ¬ " from ".toList <:+: "import ".toList ++ b := by
      have hplaces : " from ".toList <:+: "import ".toList ++ b ↔
          "from ".toList <+: b ∨ " from ".toList <:+: b := by simp [List.infix_cons_iff]
      rw [hplaces, not_or]
      exact ⟨hfirst, hb⟩
    obtain ⟨u, hu⟩ := exists_splitOn_from hin ht
    refine ⟨u, [], ?_⟩
    rw [if_congr (misread_iff hfirst) rfl rfl]
    exact hu

/-- The name is the last piece behind a keyword, without the quotes around it. -/
lemma scriptImportLine?_of_splitOn {u : List Char} {us : List (List Char)}
    (hstart : "import ".toList.isPrefixOf (strip t))
    (hpieces : splitOn " from ".toList (strip t) = u :: (us ++ [x])) :
    scriptImportLine? t = some ⟨String.ofList (stripWhile isQuote (strip x)), "module", none⟩ := by
  have hparts : splitParts " from ".toList 0 (strip t) = (u, us ++ [x]) :=
    Prod.ext (List.cons.inj hpieces).1 (List.cons.inj hpieces).2
  have hlast : (us ++ [x]).getLastD [] = x := List.getLastD_concat ..
  obtain ⟨y, ys, hys⟩ := List.exists_cons_of_ne_nil (List.concat_ne_nil x us)
  rw [hys] at hparts hlast
  rw [scriptImportLine?]
  simp only [hstart, if_true, hparts, hlast]

/-! ### One line -/

namespace ScriptImport

variable (i : ScriptImport)

lemma plain_of_mem {c : Char} (h : c ∈ i.specifier) :
    ¬ isBlank c ∧ ¬ isQuote c ∧ c ≠ '(' ∧ c ≠ ')' := by
  have hplain := List.all_eq_true.mp i.plain c h
  simpa [isPlain, and_assoc] using hplain

lemma quote_eq : i.quote = '\'' ∨ i.quote = '"' := by
  simpa [isQuote] using i.isQuote_quote

lemma not_isBlank_of_mem {c : Char} (h : c ∈ i.quoted ++ i.ending) : ¬ isBlank c := by
  have hquote : ¬ isBlank i.quote := by
    rcases i.quote_eq with h | h <;> rw [h] <;> decide
  rcases List.mem_append.mp h with h | h
  · rw [quoted, List.cons_append, List.mem_cons, List.mem_append, List.mem_singleton] at h
    rcases h with rfl | h | rfl
    · exact hquote
    · exact (i.plain_of_mem h).1
    · exact hquote
  · have hend : c = ';' := by
      unfold ending at h
      split_ifs at h
      · exact List.mem_singleton.mp h
      · cases h
    rw [hend]
    decide

lemma tight_line : Tight isBlank i.line := by
  rcases htaking : i.taking with ⟨b, hb⟩ | ⟨n, hn⟩
  · have hline : i.line = "import".toList ++ (' ' :: b ++ " from ".toList) ++
        (i.quoted ++ i.ending) := by simp [line, htaking]
    rw [hline]
    exact Tight.append (by decide) (tight_of_forall fun c => i.not_isBlank_of_mem) (by decide)
      (by simp [quoted]) _
  · have hline : i.line = "const".toList ++ (' ' :: n ++ " = require(".toList ++ i.quoted) ++
        (')' :: i.ending) := by simp [line, htaking]
    have hend : Tight isBlank (')' :: i.ending) := by
      unfold ending
      split_ifs <;> decide
    rw [hline]
    exact Tight.append (by decide) hend (by decide) (by simp) _

lemma tight_specifier : Tight isQuote i.specifier :=
  tight_of_forall fun _ hc => (i.plain_of_mem hc).2.1

/-- Of a specifier between quotes only the quotes at the ends are dropped. -/
lemma stripWhile_isQuote :
    stripWhile isQuote (i.quoted ++ i.ending) =
      if i.semicolon then if i.specifier = [] then [';'] else i.specifier ++ [i.quote, ';']
      else i.specifier := by
  have hquote : ∀ c ∈ [i.quote], isQuote c := by simpa using i.isQuote_quote
  have hsemicolon : Tight isQuote [';'] := by decide
  unfold ending
  split_ifs with hend hempty
  · simpa [quoted, hempty] using stripWhile_padded (a := [i.quote, i.quote]) (b := [])
      (by simpa using i.isQuote_quote) (by simp) hsemicolon
  · have htight := i.tight_specifier.append hsemicolon hempty (by simp) [i.quote]
    simpa [quoted] using stripWhile_padded (b := []) hquote (by simp) htight
  · simpa [quoted] using stripWhile_padded hquote hquote i.tight_specifier

/-- With the keyword before it, it keeps its first quote. -/
lemma stripWhile_isQuote_from :
    stripWhile isQuote ("from ".toList ++ (i.quoted ++ i.ending)) =
      "from ".toList ++
        if i.semicolon then i.quoted ++ [';']
        else if i.specifier = [] then [] else i.quote :: i.specifier := by
  have hquote : ∀ c ∈ [i.quote], isQuote c := by simpa using i.isQuote_quote
  have hkeyword : Tight isQuote "from ".toList := by decide
  unfold ending
  split_ifs with hend hempty
  · have htight := hkeyword.append (by decide : Tight isQuote [';'])
      (by decide) (by decide) i.quoted
    simpa using stripWhile_eq_self htight
  · simpa [quoted, hempty] using stripWhile_padded (a := []) (b := [i.quote, i.quote])
      (by simp) (by simpa using i.isQuote_quote) hkeyword
  · have htight := hkeyword.append i.tight_specifier (by decide) hempty [i.quote]
    simpa [quoted] using stripWhile_padded (a := []) (by simp) hquote htight

lemma scriptImportLine?_imported {b : List Char} {hb : ¬ " from ".toList <:+: b}
    (htaking : i.taking = .imported b hb) (h : strip t = i.line) :
    scriptImportLine? t = i.reported? := by
  have hline : i.line = "import ".toList ++ b ++ (" from ".toList ++ (i.quoted ++ i.ending)) := by
    simp [line, htaking]
  have hblank : ' ' ∉ i.quoted ++ i.ending := fun hc => i.not_isBlank_of_mem hc (by decide)
  have htight : Tight isBlank (i.quoted ++ i.ending) :=
    tight_of_forall fun c => i.not_isBlank_of_mem
  obtain ⟨u, us, hpieces⟩ := exists_splitOn_import hb hblank
  rw [scriptImportLine?_of_splitOn (by simp [h, hline]) (by rw [h, hline, hpieces])]
  by_cases hmisread : Misread b
  · have hfrom : Tight isBlank ("from ".toList ++ (i.quoted ++ i.ending)) :=
      Tight.append (a := "from".toList) (by decide) htight (by decide) (by simp [quoted]) [' ']
    simp only [reported?, reportedName?, htaking, hmisread, if_true, strip,
      stripWhile_eq_self hfrom, i.stripWhile_isQuote_from, Option.map_some]
  · simp only [reported?, reportedName?, htaking, hmisread, if_false, strip,
      stripWhile_eq_self htight, i.stripWhile_isQuote, Option.map_some]

lemma requiredModule?_line {n : List Char} {hn : '\'' ∉ n} (htaking : i.taking = .required n hn) :
    requiredModule? i.line = i.reportedName? := by
  have hquotes : '\'' ∉ i.specifier := fun h => (i.plain_of_mem h).2.1 (by decide)
  have hclosing : ')' ∉ i.specifier := fun h => (i.plain_of_mem h).2.2.2 rfl
  rcases i.quote_eq with hquote | hquote
  · have hline : i.line = ("const ".toList ++ n ++ " = ".toList) ++
        ("require(".toList ++ ['\''] ++ (i.specifier ++ (['\''] ++ [')'] ++ i.ending))) := by
      simp [line, quoted, htaking, hquote]
    have hopen : cut? "require('".toList i.line = some ("const ".toList ++ n ++ " = ".toList,
        i.specifier ++ (['\''] ++ [')'] ++ i.ending)) := by
      rw [hline]
      exact cut?_append (by simp [hn]) (by decide : '\'' ∉ "require(".toList) _
    have hclose : cut? "')".toList (i.specifier ++ (['\''] ++ [')'] ++ i.ending)) =
        some (i.specifier, i.ending) := cut?_append hclosing (by decide : ')' ∉ ['\'']) _
    rw [requiredModule?, hopen]
    simp only [bind, Option.bind, hclose, reportedName?, htaking, hquote, true_and, ne_eq, ite_not,
      List.isEmpty_iff]
  · have hnone : cut? "require('".toList i.line = none := by
      refine cut?_eq_none (by decide) fun h => ?_
      have hmem : '\'' ∈ i.line := h.subset (by decide)
      simp [line, quoted, ending, htaking, hquote, hn, hquotes] at hmem
    rw [requiredModule?, hnone]
    simp [reportedName?, htaking, hquote]

/-- What a line gives, with blanks around it. -/
lemma scriptImportLine?_line {indent trail : List Char} (hindent : isBlankText indent)
    (htrail : isBlankText trail) : scriptImportLine? (indent ++ i.line ++ trail) = i.reported? := by
  have hstrip : strip (indent ++ i.line ++ trail) = i.line :=
    stripWhile_padded (List.all_eq_true.mp hindent) (List.all_eq_true.mp htrail) i.tight_line
  rcases htaking : i.taking with ⟨b, hb⟩ | ⟨n, hn⟩
  · exact i.scriptImportLine?_imported htaking hstrip
  · have hline : i.line = "const ".toList ++ n ++ " = ".toList ++ "require(".toList ++ i.quoted ++
        ')' :: i.ending := by simp [line, htaking]
    have himport : ¬ "import ".toList.isPrefixOf i.line := by simp [hline]
    have hconst : "const ".toList.isPrefixOf i.line := by simp [hline]
    have hcalls : contains "require(".toList i.line :=
      (contains_iff (by decide)).mpr
        ⟨"const ".toList ++ n ++ " = ".toList, i.quoted ++ ')' :: i.ending, by simp [hline]⟩
    rw [scriptImportLine?]
    simp only [hstrip, himport, hconst, hcalls, Bool.and_self, if_true,
      i.requiredModule?_line htaking]
    rfl

lemma reported?_eq_iff :
    i.reported? = some ⟨String.ofList i.specifier, "module", none⟩ ↔ i.Recovered := by
  have hname : i.reported? = some ⟨String.ofList i.specifier, "module", none⟩ ↔
      i.reportedName? = some i.specifier := by
    rw [reported?]
    rcases i.reportedName? with _ | name
    · simp
    · simp [String.ofList_inj]
  rw [hname, reportedName?, Recovered]
  rcases i.taking with ⟨b, hb⟩ | ⟨n, hn⟩
  · dsimp only
    by_cases hmisread : Misread b
    · -- behind the keyword there is a blank, but there is none in a specifier
      have hblank : ' ' ∉ i.specifier := fun h => (i.plain_of_mem h).1 (by decide)
      have hne : ∀ r, "from ".toList ++ r ≠ i.specifier := fun r hr => hblank (hr ▸ by simp)
      simp only [hmisread, if_true, Option.some.injEq, hne, not_true_eq_false, and_false]
    · by_cases hsemicolon : i.semicolon
      · by_cases hempty : i.specifier = [] <;> simp [hmisread, hsemicolon, hempty]
      · simp [hmisread, hsemicolon]
  · dsimp only
    split_ifs with h <;> simp [h]

end ScriptImport

/-! ### Texts -/

variable {l : Language} {text : List Char} {above below ls : List (List Char)}

lemma dependencies_script (hl : l = .javascript ∨ l = .typescript) (text : List Char) :
    dependencies l text = (lines text).filterMap scriptImportLine? := by
  rcases hl with rfl | rfl <;> rfl

lemma dependencies_unlines (hl : l = .javascript ∨ l = .typescript) (h : ∀ x ∈ ls, '\n' ∉ x) :
    dependencies l (unlines ls) = ls.filterMap scriptImportLine? := by
  rw [dependencies_script hl]
  rcases eq_or_ne ls [] with rfl | hne
  · rfl
  · rw [lines_unlines h hne]

/-- **A line that takes a module gives one dependency at most, whatever the other lines are.** It is
the specifier exactly for an import without a semicolon, unless the binding ends in the keyword, and
for a call with single quotes. -/
theorem dependencies_of_scriptImport (i : ScriptImport) {indent trail : List Char}
    (hl : l = .javascript ∨ l = .typescript) (hindent : isBlankText indent)
    (htrail : isBlankText trail)
    (htext : lines text = above ++ (indent ++ i.line ++ trail) :: below) :
    dependencies l text = dependencies l (unlines above) ++ i.reported?.toList ++
        dependencies l (unlines below) ∧
      (i.reported? = some ⟨String.ofList i.specifier, "module", none⟩ ↔ i.Recovered) := by
  have hbreaks : ∀ x ∈ above ++ (indent ++ i.line ++ trail) :: below, '\n' ∉ x := fun x hx =>
    notMem_of_mem_lines (htext ▸ hx)
  refine ⟨?_, i.reported?_eq_iff⟩
  rw [dependencies_script hl, htext, dependencies_unlines hl fun x hx => hbreaks x (by simp [hx]),
    dependencies_unlines hl fun x hx => hbreaks x (by simp [hx]), List.filterMap_append,
    List.filterMap_cons, i.scriptImportLine?_line hindent htrail]
  rcases i.reported? with _ | d <;> simp

/-- An import with a semicolon after a call that loads another module. -/
theorem dependencies_of_scriptImport_second :
    let text := "const y = require('y')\n\timport a from \"./m\";\r".toList
    (Language.typescript = .javascript ∨ Language.typescript = .typescript) ∧
      isBlankText ['\t'] ∧ isBlankText ['\r'] ∧
      lines text = ["const y = require('y')".toList, "\timport a from \"./m\";\r".toList] ∧
      dependencies .typescript text =
        [⟨"y", "module", none⟩, ⟨"./m\";", "module", none⟩] := by
  intro text
  let i : ScriptImport := ⟨.imported ['a'] (by decide), "./m".toList, '"', true, by decide, rfl⟩
  have htext : lines text =
      ["const y = require('y')".toList] ++ (['\t'] ++ i.line ++ ['\r']) :: [] := by decide
  have hdependencies := dependencies_of_scriptImport i (.inr rfl) rfl rfl htext
  refine ⟨.inr rfl, rfl, rfl, htext, ?_⟩
  rw [hdependencies.1]
  decide

/-- A semicolon becomes part of the name, and a call with double quotes is overlooked. -/
theorem dependencies_semicolon_quotes :
    dependencies .javascript "import x from 'm';".toList = [⟨"m';", "module", none⟩] ∧
      dependencies .javascript "const a = require(\"m\")".toList = [] := by
  decide

end SpecScribe.Modules
