import SpecScribe.Datum.Describe
import SpecScribe.Schema.Rule

/-!
How the cells of a table are cut to length.
-/

namespace SpecScribe.Settings

structure TableSettings where
  maxCell : Int := 80
  maxMethods : Int := 5
  separator : String := ", "
  suffix : String := "..."
  /-- Cut behind a sentence mark where one stands in reach. -/
  keepSentences : Bool := true

open Schema in
def TableSettings.read (ms : Members) : Checked TableSettings :=
  let maxCell := withDefault ms "max_cell_length" integer 80
  let maxMethods := withDefault ms "max_methods_per_cell" integer 5
  let separator := withDefault ms "method_separator" text ", "
  let suffix := withDefault ms "truncation_suffix" text "..."
  let keep := withDefault ms "preserve_japanese" boolean true
  match maxCell, maxMethods, separator, suffix, keep with
  | .ok a, .ok b, .ok c, .ok d, .ok e => .ok ⟨a, b, c, d, e⟩
  | _, _, _, _, _ =>
    .error (maxCell.errors ++ maxMethods.errors ++ separator.errors ++ suffix.errors
      ++ keep.errors)

instance : ToDatum TableSettings where
  toDatum t := .record
    [("max_cell_length", toDatum t.maxCell), ("max_methods_per_cell", toDatum t.maxMethods),
     ("method_separator", toDatum t.separator), ("truncation_suffix", toDatum t.suffix),
     ("preserve_japanese", toDatum t.keepSentences)]

end SpecScribe.Settings
