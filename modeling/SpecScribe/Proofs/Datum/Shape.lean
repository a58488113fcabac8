import Mathlib
import SpecScribe.Datum.Access
import SpecScribe.Datum.Describe
import SpecScribe.Datum.Order
import SpecScribe.Proofs.Fault

/-!
Shapes of loose data, and which shape each look into the data needs.
-/

namespace SpecScribe.Datum

def isRecord : Datum → Bool
  | .record _ => true
  | _ => false

def isText : Datum → Bool
  | .text _ => true
  | _ => false

/-- Data whose first items can be taken. -/
def isSequence : Datum → Bool
  | .list _ => true
  | .text _ => true
  | _ => false

/-- Data whose items are all texts. -/
def isJoinable (d : Datum) : Bool := d.items?.any fun xs => xs.all isText

variable {d : Datum} {β : Type}

/-- The default has a shape, so a member has it if it has it where it is given. -/
lemma getD_iff {p : Datum → Bool} {default : Datum} (h : p default) (o : Option Datum) :
    p (o.getD default) ↔ ∀ v ∈ o, p v := by
  cases o <;> simp [h]

lemma member_of_isRecord (h : d.isRecord) (key : String) (default : Datum) :
    d.member key default = .ok ((d.get? key).getD default) := by
  cases d <;> first | rfl | cases h

/-- A look at a member needs a record, and goes on with the member or the default. -/
@[simp] lemma isOk_member_bind (d : Datum) (key : String) (default : Datum)
    (g : Datum → Except Fault β) :
    (d.member key default >>= g).isOk ↔ d.isRecord ∧ (g ((d.get? key).getD default)).isOk := by
  cases d <;> simp [member, isRecord, get?, bind, Except.bind]

@[simp] lemma isOk_items_bind (d : Datum) (g : List Datum → Except Fault β) :
    (d.items >>= g).isOk ↔ ∃ xs, d.items? = some xs ∧ (g xs).isOk := by
  unfold items
  cases d.items? <;> simp [bind, Except.bind]

@[simp] lemma isOk_lowered (d : Datum) : d.lowered.isOk = d.isText := by
  cases d <;> rfl

@[simp] lemma isOk_lowered_bind (d : Datum) (g : String → Except Fault β) :
    (d.lowered >>= g).isOk ↔
      d.isText ∧ (g (String.ofList (Text.lower d.toText.toList))).isOk := by
  cases d <;> simp [lowered, isText, toText, bind, Except.bind]

@[simp] lemma isOk_firstItems (n : ℕ) (d : Datum) : (d.firstItems n).isOk = d.isSequence := by
  cases d <;> rfl

lemma isSome_items?_of_isJoinable (h : d.isJoinable) : d.items?.isSome := by
  rw [isJoinable] at h
  cases hitems : d.items? with
  | none => rw [hitems] at h; cases h
  | some xs => rfl

lemma isOk_texts (i : ℕ) (xs : List Datum) : (texts i xs).isOk = xs.all isText := by
  induction xs generalizing i with
  | nil => rfl
  | cons x xs ih => cases x <;> simp [texts, isText, ih]

@[simp] lemma isOk_joined (separator : String) (d : Datum) :
    (d.joined separator).isOk = d.isJoinable := by
  unfold joined isJoinable
  cases d.items? with
  | none => rfl
  | some xs => simp [isOk_texts]

/-- Whole numbers can be compared. -/
lemma compareBy_int (k : Comparison) (m n : ℤ) :
    compareBy k (.int m) (.int n) = .ok (k.numbers (.int m) (.int n)) := by
  rw [compareBy]
  · rfl
  all_goals nofun

end SpecScribe.Datum
