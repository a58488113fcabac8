import Mathlib
import SpecScribe.Generation.Basic

/-!
Batches cut a list without loss: put together again they are the list, none is empty, and none is
longer than allowed.
-/

namespace SpecScribe.Generation

variable {α : Type} {n : ℕ} {xs b : List α}

lemma flatten_batches_go (n room : ℕ) (piece xs : List α) :
    (batches.go n room piece xs).flatten = piece.reverse ++ xs := by
  fun_induction batches.go n room piece xs with
  | case1 => rfl
  | case2 => simp
  | case3 piece x r ih => simp [ih]
  | case4 piece room x r ih => simp [ih]

@[simp] lemma flatten_batches (n : ℕ) (xs : List α) : (batches n xs).flatten = xs :=
  flatten_batches_go n n [] xs

/-- The room that is left and the current piece together make up one batch. -/
lemma size_batches_go (hn : 0 < n) {room : ℕ} {piece : List α}
    (hroom : room + piece.length = n) (hb : b ∈ batches.go n room piece xs) :
    b ≠ [] ∧ b.length ≤ n := by
  fun_induction batches.go n room piece xs with
  | case1 => simp at hb
  | case2 room piece hne =>
    obtain rfl : b = piece.reverse := by simpa using hb
    have hpiece : piece ≠ [] := by rintro rfl; exact hne rfl
    exact ⟨by simpa using hpiece, by rw [List.length_reverse]; omega⟩
  | case3 piece x r ih =>
    rcases List.mem_cons.mp hb with rfl | hb
    · have hpos : 0 < piece.length := by omega
      exact ⟨by simpa using List.ne_nil_of_length_pos hpos, by rw [List.length_reverse]; omega⟩
    · exact ih (by simp only [List.length_cons, List.length_nil]; omega) hb
  | case4 piece room x r ih =>
    exact ih (by rw [List.length_cons]; omega) hb

lemma ne_nil_of_mem_batches (hn : 0 < n) (hb : b ∈ batches n xs) : b ≠ [] :=
  (size_batches_go hn (by simp) hb).1

lemma length_le_of_mem_batches (hn : 0 < n) (hb : b ∈ batches n xs) : b.length ≤ n :=
  (size_batches_go hn (by simp) hb).2

end SpecScribe.Generation
