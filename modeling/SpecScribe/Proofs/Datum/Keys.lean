import Mathlib
import SpecScribe.Datum

/-!
Tables: lists of pairs with distinct keys. Setting a key touches the entry of that key only, and a
key that is there keeps its place.
-/

namespace SpecScribe

section Keys

variable {α : Type} {key k : String} {value v : α} {xs : List (String × α)}

/-- The keys of a list of pairs, in order. -/
def keysOf (xs : List (String × α)) : List String := xs.map Prod.fst

lemma keysOf_setKey (key : String) (value : α) (xs : List (String × α)) :
    keysOf (setKey key value xs) = if key ∈ keysOf xs then keysOf xs else keysOf xs ++ [key] := by
  induction xs with
  | nil => simp [setKey, keysOf]
  | cons e r ih =>
    obtain ⟨k, v⟩ := e
    by_cases hk : k = key
    · simp [setKey, keysOf, hk]
    · have hset : keysOf (setKey key value ((k, v) :: r)) = k :: keysOf (setKey key value r) := by
        simp [setKey, keysOf, hk]
      have hmem : key ∈ keysOf ((k, v) :: r) ↔ key ∈ keysOf r := by
        simp [keysOf, Ne.symm hk]
      rw [hset, ih, if_congr hmem rfl rfl]
      split_ifs <;> rfl

/-- Setting a key commutes with a map on the values. -/
lemma map_setKey {β : Type} (f : α → β) (key : String) (value : α) (xs : List (String × α)) :
    (setKey key value xs).map (fun e => (e.1, f e.2)) =
      setKey key (f value) (xs.map fun e => (e.1, f e.2)) := by
  induction xs with
  | nil => rfl
  | cons e r ih =>
    obtain ⟨k, v⟩ := e
    by_cases hk : k = key <;> simp [setKey, hk, ih]

/-- A new key is set behind all others. -/
lemma setKey_of_notMem (h : key ∉ keysOf xs) : setKey key value xs = xs ++ [(key, value)] := by
  induction xs with
  | nil => rfl
  | cons e r ih =>
    obtain ⟨k, v⟩ := e
    rw [keysOf, List.map_cons, List.mem_cons, not_or] at h
    obtain ⟨hk, hr⟩ := h
    rw [setKey, if_neg (by simpa using Ne.symm hk), ih hr, List.cons_append]

lemma mem_keysOf_setKey : k ∈ keysOf (setKey key value xs) ↔ k = key ∨ k ∈ keysOf xs := by
  rw [keysOf_setKey]
  split_ifs with h
  · exact ⟨.inr, fun hk => hk.elim (fun hk => hk ▸ h) id⟩
  · rw [List.mem_append, List.mem_singleton, or_comm]

lemma nodup_setKey (h : (keysOf xs).Nodup) : (keysOf (setKey key value xs)).Nodup := by
  rw [keysOf_setKey]
  split_ifs with hkey
  · exact h
  · exact List.nodup_append'.mpr ⟨h, List.nodup_singleton _, by simpa using hkey⟩

lemma lookup_pair_cons (k key : String) (value : α) (xs : List (String × α)) :
    ((key, value) :: xs).lookup k = if k = key then some value else xs.lookup k := by
  by_cases h : k = key
  · simp [h]
  · simp [List.lookup_cons, h, beq_eq_false_iff_ne.mpr h]

lemma lookup_setKey (key k : String) (value : α) (xs : List (String × α)) :
    (setKey key value xs).lookup k = if k = key then some value else xs.lookup k := by
  induction xs with
  | nil => rw [setKey, lookup_pair_cons]
  | cons e r ih =>
    obtain ⟨k', v'⟩ := e
    by_cases hk' : k' = key
    · subst hk'
      simp only [setKey, beq_self_eq_true, if_true, lookup_pair_cons]
      split_ifs <;> rfl
    · simp only [setKey, beq_iff_eq, hk', if_false, lookup_pair_cons, ih]
      split_ifs with h h' <;> simp_all

/-- Nothing but the entry of the key is touched. -/
lemma filter_setKey (key : String) (value : α) (xs : List (String × α)) :
    (setKey key value xs).filter (·.1 != key) = xs.filter (·.1 != key) := by
  induction xs with
  | nil => simp [setKey]
  | cons e r ih =>
    obtain ⟨k, v⟩ := e
    by_cases hk : k = key <;> simp [setKey, hk, ih]

lemma mem_iff_lookup (h : (keysOf xs).Nodup) : (k, v) ∈ xs ↔ xs.lookup k = some v := by
  constructor
  · intro hmem
    obtain ⟨before, after, rfl⟩ := List.append_of_mem hmem
    refine List.lookup_eq_some_iff.mpr ⟨before, after, rfl, fun e he => ?_⟩
    rw [keysOf, List.map_append, List.map_cons, List.nodup_append'] at h
    rw [bne_iff_ne]
    rintro rfl
    exact h.2.2 (List.mem_map_of_mem he) (List.mem_cons_self ..)
  · intro hlook
    obtain ⟨before, after, rfl, -⟩ := List.lookup_eq_some_iff.mp hlook
    simp

lemma mem_keysOf_of_mem (h : (k, v) ∈ xs) : k ∈ keysOf xs := List.mem_map.mpr ⟨_, h, rfl⟩

/-- An entry after a key is set is that of the key, or it was there before. -/
lemma mem_setKey (hxs : (keysOf xs).Nodup) :
    (k, v) ∈ setKey key value xs ↔ k = key ∧ v = value ∨ k ≠ key ∧ (k, v) ∈ xs := by
  rw [mem_iff_lookup (nodup_setKey hxs), lookup_setKey, mem_iff_lookup hxs]
  by_cases h : k = key <;> simp [h, eq_comm]

end Keys

end SpecScribe
