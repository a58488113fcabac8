import Mathlib
import SpecScribe.Workspace.Walk

/-!
What a walk visits. The plain listing of a directory names its files, then those of the directories
in it, one directory after the other. A walk that leaves directories out visits those files of the
plain listing that are not below a directory left out, in the same order.
-/

namespace SpecScribe.Workspace

namespace Path

/-- The path that steps lead to. -/
def along (p : Path) (steps : List String) : Path := ⟨p.root, p.steps ++ steps⟩

/-- The steps from a path to one below it. -/
def stepsTo (p q : Path) : List String := q.steps.drop p.steps.length

/-- The directories strictly between a path and what the steps from it lead to. -/
def between (p : Path) : List String → List Path
  | n :: m :: rest => p.child n :: between (p.child n) (m :: rest)
  | _ => []

variable (p : Path) (n : String) (q : List String)

lemma along_singleton : p.along [n] = p.child n := rfl

lemma child_along : (p.child n).along q = p.along (n :: q) := by
  simp [along, child]

@[simp] lemma stepsTo_along : p.stepsTo (p.along q) = q := by
  simp [stepsTo, along]

lemma along_injective : Function.Injective p.along := by
  intro q q' h
  rw [← p.stepsTo_along q, h, stepsTo_along]

lemma child_injective : Function.Injective p.child := by
  intro n n' h
  have hsteps : [n] = [n'] := p.along_injective h
  simpa using hsteps

lemma between_cons (hq : q ≠ []) : p.between (n :: q) = p.child n :: (p.child n).between q := by
  cases q with
  | nil => exact absurd rfl hq
  | cons m rest => rfl

end Path

namespace Walk

/-- The files that a walk visits, in order. -/
def files (w : Walk) : List Path := w.visits.flatMap Visit.paths

@[simp] lemma files_empty : files {} = [] := rfl

variable {a : Walk} (b : Walk)

lemma files_append (h : a.fault = none) : (a.append b).files = a.files ++ b.files := by
  simp [append, h, files]

lemma fault_append (h : a.fault = none) : (a.append b).fault = b.fault := by
  simp [append, h]

end Walk

/-- The names on a way down from a directory to something below it. -/
inductive Entry.Below : Entry → List String → Prop
  | here {es : List (String × Entry)} {n : String} {e : Entry} (mem : (n, e) ∈ es) :
    Below (.dir es) [n]
  | deeper {es : List (String × Entry)} {n : String} {e : Entry} {q : List String}
    (mem : (n, e) ∈ es) (below : Below e q) : Below (.dir es) (n :: q)

lemma Entry.Below.ne_nil {e : Entry} {q : List String} (h : e.Below q) : q ≠ [] := by
  cases h <;> simp

namespace Store

variable (s : Store)

mutual

/-- The files below a directory: its own, then those of the directories in it. A link to a directory
is neither a file nor entered. -/
def filesUnder (path : Path) : Entry → List Path
  | .dir es =>
    ((es.filter fun (n, e) => !s.isDirAt path n e).map fun (n, _) => path.child n)
      ++ filesUnderEach path es
  | .file _ => []
  | .link _ => []

def filesUnderEach (path : Path) : List (String × Entry) → List Path
  | [] => []
  | (n, e) :: r => filesUnder (path.child n) e ++ filesUnderEach path r

end

/-- The plain listing of a directory. -/
def listing (path : Path) : List Path :=
  match s.stat path with
  | .ok e => s.filesUnder path e
  | .error _ => []

mutual

lemma mem_filesUnder (path : Path) (e : Entry) {p : Path} (hp : p ∈ s.filesUnder path e) :
    ∃ q, e.Below q ∧ p = path.along q := by
  match e with
  | .dir es =>
    rw [filesUnder, List.mem_append] at hp
    rcases hp with hp | hp
    · obtain ⟨⟨n, e'⟩, hmem, rfl⟩ := List.mem_map.mp hp
      exact ⟨[n], .here (List.mem_of_mem_filter hmem), rfl⟩
    · obtain ⟨n, e', q, hmem, hq, rfl⟩ := mem_filesUnderEach path es hp
      exact ⟨n :: q, .deeper hmem hq, rfl⟩
  | .file _ => cases hp
  | .link _ => cases hp

lemma mem_filesUnderEach (path : Path) (es : List (String × Entry)) {p : Path}
    (hp : p ∈ s.filesUnderEach path es) :
    ∃ n e q, (n, e) ∈ es ∧ e.Below q ∧ p = path.along (n :: q) := by
  match es with
  | [] => cases hp
  | (n, e) :: r =>
    rw [filesUnderEach, List.mem_append] at hp
    rcases hp with hp | hp
    · obtain ⟨q, hq, rfl⟩ := mem_filesUnder (path.child n) e hp
      exact ⟨n, e, q, List.mem_cons_self .., hq, path.child_along n q⟩
    · obtain ⟨m, e', q, hmem, hq, rfl⟩ := mem_filesUnderEach path r hp
      exact ⟨m, e', q, List.mem_cons_of_mem _ hmem, hq, rfl⟩

end

lemma mem_listing {top p : Path} (hp : p ∈ s.listing top) :
    ∃ e q, s.stat top = .ok e ∧ e.Below q ∧ p = top.along q := by
  unfold listing at hp
  split at hp
  case h_1 e hstat =>
    obtain ⟨q, hq, rfl⟩ := s.mem_filesUnder top e hp
    exact ⟨e, q, hstat, hq, rfl⟩
  case h_2 => cases hp

/-! ### Leaving directories out -/

/-- No directory between a directory and a file below it is refused. -/
def reached (keep : Path → Bool) (top p : Path) : Bool := (top.between (top.stepsTo p)).all keep

variable {keep : Path → Bool} {path : Path}

lemma reached_child (n : String) : reached keep path (path.child n) = true := by
  rw [reached, ← Path.along_singleton, Path.stepsTo_along]
  rfl

lemma reached_below {p : Path} {n : String} {e : Entry} (hp : p ∈ s.filesUnder (path.child n) e) :
    reached keep path p = (keep (path.child n) && reached keep (path.child n) p) := by
  obtain ⟨q, hq, rfl⟩ := s.mem_filesUnder _ _ hp
  rw [reached, reached, Path.stepsTo_along, Path.child_along, Path.stepsTo_along,
    Path.between_cons _ _ _ hq.ne_nil, List.all_cons]

lemma choose_total (keep : Path → Bool) (path : Path) (names : List String) :
    choose (fun d => .ok (keep d)) path names =
      .ok (names.filter fun n => keep (path.child n)) := by
  induction names with
  | nil => rfl
  | cons n r ih =>
    rw [choose, ih, List.filter_cons]
    rfl

mutual

/-- A walk that leaves directories out visits the files that are reached. -/
lemma walkEntry_pruned (keep : Path → Bool) (path : Path) (e : Entry) :
    (s.walkEntry (fun d => .ok (keep d)) path e).fault = none ∧
    (s.walkEntry (fun d => .ok (keep d)) path e).files =
      (s.filesUnder path e).filter (reached keep path) := by
  match e with
  | .dir es =>
    set names := (es.filter fun (n, e) => s.isDirAt path n e).map (·.1) with hnames
    set kept := names.filter fun n => keep (path.child n) with hkept
    have hentered : ∀ n e, (n, e) ∈ es → e.isDir → kept.contains n = keep (path.child n) := by
      intro n e hmem hdir
      have hn : n ∈ names := by
        obtain ⟨es', rfl⟩ : ∃ es', e = .dir es' := by cases e <;> simp_all [Entry.isDir]
        exact List.mem_map.mpr ⟨(n, .dir es'), List.mem_filter.mpr ⟨hmem, rfl⟩, rfl⟩
      rw [Bool.eq_iff_iff, List.contains_iff_mem, hkept, List.mem_filter]
      exact and_iff_right hn
    obtain ⟨hfault, hfiles⟩ := walkEntries_pruned keep path kept es hentered
    rw [walkEntry]
    simp only [← hnames, choose_total, ← hkept]
    rw [Walk.fault_append _ rfl, Walk.files_append _ rfl, hfiles, filesUnder, List.filter_append]
    -- the files of the directory itself have nothing between them and it
    have hown : ∀ p ∈ (es.filter fun (n, e) => !s.isDirAt path n e).map fun (n, _) => path.child n,
        reached keep path p = true := by
      intro p hp
      obtain ⟨⟨n, _⟩, -, rfl⟩ := List.mem_map.mp hp
      exact reached_child n
    rw [List.filter_eq_self.mpr hown]
    exact ⟨hfault, by simp [Walk.files, Visit.paths, Function.comp_def]⟩
  | .file _ => exact ⟨rfl, rfl⟩
  | .link _ => exact ⟨rfl, rfl⟩

lemma walkEntries_pruned (keep : Path → Bool) (path : Path) (kept : List String)
    (es : List (String × Entry))
    (hkept : ∀ n e, (n, e) ∈ es → e.isDir → kept.contains n = keep (path.child n)) :
    (s.walkEntries (fun d => .ok (keep d)) path kept es).fault = none ∧
    (s.walkEntries (fun d => .ok (keep d)) path kept es).files =
      (s.filesUnderEach path es).filter (reached keep path) := by
  match es with
  | [] => exact ⟨rfl, rfl⟩
  | (n, e) :: r =>
    obtain ⟨hfault, hfiles⟩ := walkEntry_pruned keep (path.child n) e
    obtain ⟨hrfault, hrfiles⟩ := walkEntries_pruned keep path kept r fun m e' hmem =>
      hkept m e' (List.mem_cons_of_mem _ hmem)
    have hbelow : (s.filesUnder (path.child n) e).filter (reached keep path) =
        if keep (path.child n) then
          (s.filesUnder (path.child n) e).filter (reached keep (path.child n)) else [] := by
      rw [List.filter_congr fun p hp => s.reached_below hp]
      cases keep (path.child n) <;> simp
    -- only a directory can be entered, and it is if it is kept
    have hhere : ∃ w, (if kept.contains n then s.walkEntry (fun d => .ok (keep d)) (path.child n) e
        else {}) = w ∧ w.fault = none ∧
        w.files = (s.filesUnder (path.child n) e).filter (reached keep path) := by
      refine ⟨_, rfl, ?_⟩
      cases e with
      | dir es' =>
        rw [hkept n (.dir es') (List.mem_cons_self ..) rfl, hbelow]
        split
        · exact ⟨hfault, hfiles⟩
        · exact ⟨rfl, rfl⟩
      | file _ => split <;> exact ⟨rfl, rfl⟩
      | link _ => split <;> exact ⟨rfl, rfl⟩
    obtain ⟨w, hw, hwfault, hwfiles⟩ := hhere
    rw [walkEntries, hw, filesUnderEach, List.filter_append, Walk.fault_append _ hwfault,
      Walk.files_append _ hwfault, hwfiles, hrfiles]
    exact ⟨hrfault, rfl⟩

end

/-- A walk of an existing directory ends without a fault. -/
lemma walk_pruned (keep : Path → Bool) {top : Path} (htop : s.isDir top) :
    (s.walk (fun d => .ok (keep d)) top).fault = none ∧
    (s.walk (fun d => .ok (keep d)) top).files =
      (s.listing top).filter (reached keep top) := by
  unfold isDir at htop
  unfold walk listing
  rcases hstat : s.stat top with f | e
  · simp [hstat] at htop
  · exact s.walkEntry_pruned keep top e

/-- A walk that leaves nothing out visits the plain listing. -/
lemma files_walk_all (top : Path) : (s.walk (fun _ => .ok true) top).files = s.listing top := by
  have hreached : ∀ p, reached (fun _ => true) top p = true := by simp [reached]
  unfold walk listing
  rcases s.stat top with f | e
  · cases f <;> rfl
  · exact (s.walkEntry_pruned (fun _ => true) top e).2.trans
      (List.filter_eq_self.mpr fun p _ => hreached p)

lemma listing_of_not_isDir {top : Path} (htop : s.isDir top = false) : s.listing top = [] := by
  unfold isDir at htop
  unfold listing
  rcases hstat : s.stat top with f | e
  · rfl
  · rw [hstat] at htop
    cases e with
    | dir _ => cases htop
    | file _ => rfl
    | link _ => rfl

end Store

/-! ### Each file once -/

/-- No directory has two entries of one name. -/
inductive Entry.Distinct : Entry → Prop
  | file (c : Content) : Distinct (.file c)
  | link (target : String) : Distinct (.link target)
  | dir {es : List (String × Entry)} (names : (es.map Prod.fst).Nodup)
      (entries : ∀ x ∈ es, Distinct x.2) : Distinct (.dir es)

/-- What holds of a directory and passes to its entries holds of everything below it. -/
lemma Entry.inherited {P : Entry → Prop} (hP : ∀ es, P (.dir es) → ∀ x ∈ es, P x.2) {e e' : Entry}
    {place : List String} (h : P e) (hat : e.at? place = some e') : P e' := by
  induction place generalizing e with
  | nil =>
    cases hat
    exact h
  | cons n rest ih =>
    obtain ⟨c, hc, hrest⟩ := Option.bind_eq_some_iff.mp hat
    refine ih ?_ hrest
    cases e with
    | file _ => cases hc
    | link _ => cases hc
    | dir es =>
      obtain ⟨before, after, rfl, -⟩ := List.lookup_eq_some_iff.mp hc
      exact hP _ h (n, c) (by simp)

lemma Entry.Distinct.at? {e e' : Entry} {place : List String} (h : e.Distinct)
    (hat : e.at? place = some e') : e'.Distinct :=
  Entry.inherited (fun _ (.dir _ entries) => entries) h hat

namespace Store

variable (s : Store)

mutual

lemma filesUnder_nodup (path : Path) (e : Entry) (h : e.Distinct) :
    (s.filesUnder path e).Nodup := by
  match e, h with
  | .dir es, .dir names entries =>
    rw [filesUnder, List.nodup_append]
    refine ⟨?_, filesUnderEach_nodup path es names entries, ?_⟩
    · have hfiles : ((es.filter fun (n, e) => !s.isDirAt path n e).map Prod.fst).Nodup :=
        names.sublist (List.filter_sublist.map _)
      simpa [List.map_map, Function.comp_def] using hfiles.map path.child_injective
    · -- a file of the directory itself is one step away, the others are more
      intro p hp p' hp' heq
      obtain ⟨⟨n, _⟩, -, rfl⟩ := List.mem_map.mp hp
      obtain ⟨m, e', q, -, hq, rfl⟩ := s.mem_filesUnderEach path es hp'
      have hsteps : [n] = m :: q := path.along_injective heq
      exact hq.ne_nil (List.cons.inj hsteps).2.symm
  | .file _, _ => exact List.nodup_nil
  | .link _, _ => exact List.nodup_nil

lemma filesUnderEach_nodup (path : Path) (es : List (String × Entry))
    (names : (es.map Prod.fst).Nodup) (entries : ∀ x ∈ es, Entry.Distinct x.2) :
    (s.filesUnderEach path es).Nodup := by
  match es with
  | [] => exact List.nodup_nil
  | (n, e) :: r =>
    rw [List.map_cons, List.nodup_cons] at names
    rw [filesUnderEach, List.nodup_append]
    refine ⟨filesUnder_nodup (path.child n) e (entries (n, e) (List.mem_cons_self ..)),
      filesUnderEach_nodup path r names.2 fun x hx => entries x (List.mem_cons_of_mem _ hx), ?_⟩
    intro p hp p' hp' heq
    obtain ⟨q, -, rfl⟩ := s.mem_filesUnder _ _ hp
    obtain ⟨m, e', q', hm, -, rfl⟩ := s.mem_filesUnderEach path r hp'
    rw [Path.child_along] at heq
    have hsteps : n = m := (List.cons.inj (path.along_injective heq)).1
    exact names.1 (hsteps ▸ List.mem_map.mpr ⟨(m, e'), hm, rfl⟩)

end

/-- What a path leads to has a place in the store. -/
lemma resolve_of_stat {p : Path} {e : Entry} (h : s.stat p = .ok e) :
    ∃ place, s.resolve p = .ok place ∧ s.root.at? place = some e := by
  unfold stat at h
  rcases hplace : s.resolve p with f | place <;> rw [hplace] at h
  · cases h
  refine ⟨place, rfl, ?_⟩
  simp only [bind, Except.bind] at h
  split at h
  case h_1 e' hat =>
    cases h
    exact hat
  case h_2 => cases h

lemma listing_nodup (hs : s.root.Distinct) (top : Path) : (s.listing top).Nodup := by
  unfold listing
  split
  case h_1 e hstat =>
    obtain ⟨place, -, hat⟩ := s.resolve_of_stat hstat
    exact s.filesUnder_nodup top e (hs.at? hat)
  case h_2 => exact List.nodup_nil

end Store

end SpecScribe.Workspace
