import Mathlib
import SpecScribe.Proofs.Datum.Keys
import SpecScribe.Proofs.Workspace.Filtering

/-!
Copies of a directory. A copy has the same names and the same content under them, but it may list
them in another order, at every level. What is listed below two copies is the same up to order.
-/

namespace SpecScribe.Workspace

/-! ### Entries up to order -/

namespace Entry

/-- The same content, in whatever order the directories list it. Where a link leads to is left open
here: what matters is what is reached through it. -/
inductive Alike : Entry → Entry → Prop
  | file (c : Content) : Alike (.file c) (.file c)
  | link (target target' : String) : Alike (.link target) (.link target')
  | nil : Alike (.dir []) (.dir [])
  | cons (n : String) {e e' : Entry} {es es' : List (String × Entry)} (first : Alike e e')
      (others : Alike (.dir es) (.dir es')) : Alike (.dir ((n, e) :: es)) (.dir ((n, e') :: es'))
  | perm {e : Entry} {es es' : List (String × Entry)} (same : Alike e (.dir es))
      (order : es.Perm es') : Alike e (.dir es')

variable {e e' : Entry} {es es' : List (String × Entry)}

lemma Distinct.perm (h : Distinct (.dir es')) (order : es.Perm es') : Distinct (.dir es) := by
  cases h with
  | dir names entries =>
    exact .dir ((order.map Prod.fst).nodup_iff.mpr names)
      fun x hx => entries x (order.mem_iff.mp hx)

lemma lookup_perm (h : (keysOf es').Nodup) (order : es.Perm es') (n : String) :
    es.lookup n = es'.lookup n := by
  have hes : (keysOf es).Nodup := (order.map Prod.fst).nodup_iff.mpr h
  refine Option.ext fun e => ?_
  rw [← mem_iff_lookup hes, ← mem_iff_lookup h, order.mem_iff]

namespace Alike

mutual

lemma refl (e : Entry) : Alike e e := by
  match e with
  | .file c => exact .file c
  | .link target => exact .link target target
  | .dir es => exact refl_dir es

lemma refl_dir (es : List (String × Entry)) : Alike (.dir es) (.dir es) := by
  match es with
  | [] => exact .nil
  | (n, e) :: rest => exact .cons n (refl e) (refl_dir rest)

end

lemma isDir (h : e.Alike e') : e.isDir = e'.isDir := by
  induction h with
  | perm _ _ ih => exact ih
  | _ => rfl

lemma sizeOf (h : e.Alike e') : Filter.sizeOf e = Filter.sizeOf e' := by
  induction h with
  | perm _ _ ih => exact ih
  | _ => rfl

end Alike

end Entry

/-- Both ways lead to the same content, or both lead nowhere. -/
inductive Store.Agree : Except FileFault Entry → Except FileFault Entry → Prop
  | ok {e e' : Entry} (alike : e.Alike e') : Agree (.ok e) (.ok e')
  | error (f f' : FileFault) : Agree (.error f) (.error f')

/-- Below two copies, the same names lead to the same. -/
lemma Entry.Alike.into {e e' : Entry} (h : e.Alike e') (he' : e'.Distinct) (q : List String) :
    Store.Agree (e.into q) (e'.into q) := by
  induction h generalizing q with
  | file c =>
    cases q with
    | nil => exact .ok (.file c)
    | cons n rest => exact .error _ _
  | link target target' =>
    cases q with
    | nil => exact .ok (.link target target')
    | cons n rest => exact .error _ _
  | nil =>
    cases q with
    | nil => exact .ok .nil
    | cons n rest => exact .error _ _
  | @cons m e e' es es' first others ih ihs =>
    cases he' with
    | dir names entries =>
      obtain ⟨hfirst, hothers⟩ := List.forall_mem_cons.mp entries
      cases q with
      | nil => exact .ok (.cons m first others)
      | cons n rest =>
        by_cases hn : n = m
        · simpa [Entry.into, List.lookup_cons, hn] using ih hfirst rest
        · have hrest := ihs (.dir (List.nodup_cons.mp names).2 hothers) (n :: rest)
          rw [Entry.into, Entry.into] at hrest ⊢
          simpa only [List.lookup_cons, beq_eq_false_iff_ne.mpr hn] using hrest
  | @perm e es es' same order ih =>
    cases q with
    | nil => exact .ok (.perm same order)
    | cons n rest =>
      have hrest := ih (he'.perm order) (n :: rest)
      cases he' with
      | dir names entries =>
        rw [Entry.into.eq_2, lookup_perm names order, ← Entry.into.eq_2] at hrest
        exact hrest

/-! ### Listings -/

lemma Path.map_child_along (r : Path) (n : String) (qs : List (List String)) :
    qs.map (r.child n).along = (qs.map (n :: ·)).map r.along := by
  rw [List.map_map]
  exact List.map_congr_left fun q _ => r.child_along n q

namespace Store

variable (s : Store) (r : Path)

lemma filesUnderEach_perm {es es' : List (String × Entry)} (h : es.Perm es') :
    (s.filesUnderEach r es).Perm (s.filesUnderEach r es') := by
  induction h with
  | nil => exact .refl _
  | cons x _ ih => exact ih.append_left _
  | swap x y es =>
    simp only [filesUnderEach]
    exact List.perm_append_comm_assoc ..
  | trans _ _ ih ih' => exact ih.trans ih'

lemma filesUnder_perm {es es' : List (String × Entry)} (h : es.Perm es') :
    (s.filesUnder r (.dir es)).Perm (s.filesUnder r (.dir es')) := by
  rw [filesUnder, filesUnder]
  exact ((h.filter _).map _).append (s.filesUnderEach_perm r h)

/-- Up to order, one more entry adds itself, unless it is a directory, and the files below it. -/
lemma filesUnder_cons (n : String) (e : Entry) (es : List (String × Entry)) :
    (s.filesUnder r (.dir ((n, e) :: es))).Perm
      ((if s.isDirAt r n e then [] else [r.child n]) ++
        (s.filesUnder (r.child n) e ++ s.filesUnder r (.dir es))) := by
  rw [filesUnder, filesUnderEach, filesUnder]
  by_cases hdir : s.isDirAt r n e
  · rw [List.filter_cons_of_neg (by simp [hdir]), if_pos hdir, List.nil_append]
    exact List.perm_append_comm_assoc ..
  · rw [List.filter_cons_of_pos (by simp [hdir]), if_neg hdir, List.map_cons, List.cons_append]
    exact (List.perm_append_comm_assoc ..).cons _

end Store

/-- By the same names, the same is reached. -/
def SameContent (s₁ : Store) (r₁ : Path) (s₂ : Store) (r₂ : Path) : Prop :=
  ∀ q, (∀ n ∈ q, IsName n) → Store.Agree (s₁.stat (r₁.along q)) (s₂.stat (r₂.along q))

namespace SameContent

variable {s₁ s₂ : Store} {r₁ r₂ : Path} {e e' : Entry}

/-- Two paths to a directory without links and to a copy of it. -/
lemma of_plain (h₁ : s₁.stat r₁ = .ok e) (h₂ : s₂.stat r₂ = .ok e') (he : e.Plain) (he' : e'.Plain)
    (h : e.Alike e') (hnames : e'.Distinct) : SameContent s₁ r₁ s₂ r₂ := by
  intro q hq
  rw [Store.stat_along h₁ he hq, Store.stat_along h₂ he' hq]
  exact h.into hnames q

lemma child (h : SameContent s₁ r₁ s₂ r₂) {n : String} (hn : IsName n) :
    SameContent s₁ (r₁.child n) s₂ (r₂.child n) := by
  intro q hq
  rw [Path.child_along, Path.child_along]
  exact h (n :: q) (List.forall_mem_cons.mpr ⟨hn, hq⟩)

lemma isDir (h : SameContent s₁ r₁ s₂ r₂) : s₁.isDir r₁ = s₂.isDir r₂ := by
  have hstat := h [] (by simp)
  rw [Path.along_nil, Path.along_nil] at hstat
  unfold Store.isDir
  generalize s₁.stat r₁ = found₁, s₂.stat r₂ = found₂ at hstat
  cases hstat with
  | ok alike => exact alike.isDir
  | error f f' => rfl

lemma isDirAt (h : SameContent s₁ r₁ s₂ r₂) {n : String} (hn : IsName n) (halike : e.Alike e') :
    s₁.isDirAt r₁ n e = s₂.isDirAt r₂ n e' := by
  induction halike with
  | link _ _ => exact (h.child hn).isDir
  | perm _ _ ih => exact ih
  | _ => rfl

lemma filesUnder (halike : e.Alike e') (he : e.Named) (h : SameContent s₁ r₁ s₂ r₂) :
    ∃ qs : List (List String), (s₁.filesUnder r₁ e).Perm (qs.map r₁.along) ∧
      (s₂.filesUnder r₂ e').Perm (qs.map r₂.along) := by
  induction halike generalizing r₁ r₂ with
  | file _ => exact ⟨[], .refl _, .refl _⟩
  | link _ _ => exact ⟨[], .refl _, .refl _⟩
  | nil => exact ⟨[], .refl _, .refl _⟩
  | @cons n e e' es es' first others ih ihs =>
    obtain ⟨⟨hn, hnamed⟩, hrest⟩ := List.forall_mem_cons.mp (Entry.named_dir.mp he)
    obtain ⟨here, h₁, h₂⟩ := ih hnamed (h.child hn)
    obtain ⟨rest, h₁', h₂'⟩ := ihs (Entry.named_dir.mpr hrest) h
    have hdir := h.isDirAt hn first
    refine ⟨(if s₁.isDirAt r₁ n e then [] else [[n]]) ++ (here.map (n :: ·) ++ rest), ?_, ?_⟩
    · refine (s₁.filesUnder_cons r₁ n e es).trans ?_
      rw [List.map_append, List.map_append, ← Path.map_child_along, apply_ite (List.map r₁.along)]
      exact (h₁.append h₁').append_left _
    · refine (s₂.filesUnder_cons r₂ n e' es').trans ?_
      rw [List.map_append, List.map_append, ← Path.map_child_along, apply_ite (List.map r₂.along),
        hdir]
      exact (h₂.append h₂').append_left _
  | perm _ order ih =>
    obtain ⟨qs, h₁, h₂⟩ := ih he h
    exact ⟨qs, h₁, (s₂.filesUnder_perm r₂ order.symm).trans h₂⟩

/-- The same content is listed alike, up to order. -/
lemma listing (h : SameContent s₁ r₁ s₂ r₂) (hs : s₁.root.Named) :
    ∃ qs : List (List String), (∀ q ∈ qs, q ≠ [] ∧ ∀ n ∈ q, IsName n) ∧
      (s₁.listing r₁).Perm (qs.map r₁.along) ∧ (s₂.listing r₂).Perm (qs.map r₂.along) := by
  obtain ⟨qs, h₁, h₂⟩ : ∃ qs : List (List String),
      (s₁.listing r₁).Perm (qs.map r₁.along) ∧ (s₂.listing r₂).Perm (qs.map r₂.along) := by
    have htop := h [] (by simp)
    rw [Path.along_nil, Path.along_nil] at htop
    unfold Store.listing
    generalize hfound₁ : s₁.stat r₁ = found₁, s₂.stat r₂ = found₂ at htop
    cases htop with
    | error f f' => exact ⟨[], .refl _, .refl _⟩
    | ok halike =>
      obtain ⟨place, -, hat⟩ := s₁.resolve_of_stat hfound₁
      exact filesUnder halike (hs.at? hat) h
  refine ⟨qs, fun q hq => ?_, h₁, h₂⟩
  have hmem : r₁.along q ∈ s₁.listing r₁ := h₁.mem_iff.mpr (List.mem_map_of_mem hq)
  obtain ⟨q', hne, hnames, heq⟩ := Store.names_of_mem_listing hs hmem
  rw [r₁.along_injective heq]
  exact ⟨hne, hnames⟩

end SameContent

end SpecScribe.Workspace
