import Mathlib
import SpecScribe.Proofs.Workspace.Walk
import SpecScribe.Proofs.Workspace.Writing

/-!
Names and what they lead to. Below a directory without links, what is reached depends on the
directory alone: not on where it is, nor on the links on the way to it.
-/

namespace SpecScribe.Workspace

/-- A name that a directory can hold. -/
structure IsName (n : String) : Prop where
  step : n ≠ "" ∧ n ≠ "." ∧ '/' ∉ n.toList
  up : n ≠ ".."
  zero : '\x00' ∉ n.toList

instance : DecidablePred IsName := fun n =>
  decidable_of_iff ((n ≠ "" ∧ n ≠ "." ∧ '/' ∉ n.toList) ∧ n ≠ ".." ∧ '\x00' ∉ n.toList)
    ⟨fun ⟨step, up, zero⟩ => ⟨step, up, zero⟩, fun ⟨step, up, zero⟩ => ⟨step, up, zero⟩⟩

namespace Entry

/-- All names below a directory can be names. -/
inductive Named : Entry → Prop
  | file (c : Content) : Named (.file c)
  | link (target : String) : Named (.link target)
  | dir {es : List (String × Entry)} (names : ∀ x ∈ es, IsName x.1)
      (entries : ∀ x ∈ es, Named x.2) : Named (.dir es)

/-- Below a directory there are no links. -/
inductive Plain : Entry → Prop
  | file (c : Content) : Plain (.file c)
  | dir {es : List (String × Entry)} (entries : ∀ x ∈ es, Plain x.2) : Plain (.dir es)

variable {es : List (String × Entry)}

@[simp] lemma named_file (c : Content) : Named (.file c) := .file c

@[simp] lemma named_dir : Named (.dir es) ↔ ∀ x ∈ es, IsName x.1 ∧ Named x.2 := by
  constructor
  · rintro (_ | _ | ⟨names, entries⟩) x hx
    exact ⟨names x hx, entries x hx⟩
  · exact fun h => .dir (fun x hx => (h x hx).1) fun x hx => (h x hx).2

@[simp] lemma plain_file (c : Content) : Plain (.file c) := .file c

@[simp] lemma plain_dir : Plain (.dir es) ↔ ∀ x ∈ es, Plain x.2 := by
  constructor
  · rintro (_ | entries)
    exact entries
  · exact .dir

/-- Where names lead to below an entry without links. -/
def into : Entry → List String → Except FileFault Entry
  | e, [] => .ok e
  | .dir es, n :: rest =>
    match es.lookup n with
    | some c => c.into rest
    | none => .error .notFound
  | _, _ :: _ => .error .notDirectory

variable {e e' : Entry} {place q : List String}

lemma Named.at? (h : e.Named) (hat : e.at? place = some e') : e'.Named :=
  inherited (fun _ (.dir _ entries) => entries) h hat

lemma Named.isName (h : e.Named) (hq : e.Below q) : ∀ n ∈ q, IsName n := by
  induction hq with
  | here mem =>
    cases h with
    | dir names _ => simpa using names _ mem
  | deeper mem _ ih =>
    cases h with
    | dir names entries =>
      exact List.forall_mem_cons.mpr ⟨names _ mem, ih (entries _ mem)⟩

lemma at?_of_into (h : e.into q = .ok e') : e.at? q = some e' := by
  induction q generalizing e with
  | nil => simpa [into, Entry.at?] using h
  | cons n rest ih =>
    cases e with
    | file _ => cases h
    | link _ => cases h
    | dir es =>
      rw [into] at h
      split at h
      case h_1 c hc => simpa [Entry.at?, entries, hc] using ih h
      case h_2 => cases h

end Entry

namespace Store

variable {s : Store} {links : ℕ} {place target steps q : List String} {e : Entry} {p : Path}

/-- The way goes on from where its first part has ended, perhaps with fewer links left. -/
lemma follow_append (q : List String)
    (h : s.follow (fun _ => .error .notFound) links place steps = .ok target) :
    ∃ left, s.follow (fun _ => .error .notFound) links place (steps ++ q) =
      s.follow (fun _ => .error .notFound) left target q := by
  fun_induction follow s (fun _ => .error .notFound) links place steps with
  | case1 links place =>
    cases h
    exact ⟨links, rfl⟩
  | case2 links place step rest es hes hup ih =>
    obtain ⟨left, hleft⟩ := ih h
    refine ⟨left, ?_⟩
    rw [List.cons_append, follow]
    simpa only [hes, hup, if_true] using hleft
  | case3 => cases h
  | case4 => cases h
  | case5 => cases h
  | case6 place step rest es hes hup link hname links t ih =>
    obtain ⟨left, hleft⟩ := ih h
    refine ⟨left, ?_⟩
    rw [List.cons_append, follow]
    simp only [hes, hup, Bool.false_eq_true, if_false, hname]
    rw [← List.append_assoc]
    exact hleft
  | case7 links place step rest es hes hup e hlink hname ih =>
    obtain ⟨left, hleft⟩ := ih h
    exact ⟨left, (follow_entry hes hup hname hlink).trans hleft⟩
  | case8 => cases h

/-- Names are followed below an entry without links as they stand. -/
lemma follow_plain (he : e.Plain) (hat : s.root.at? place = some e) (hq : ∀ n ∈ q, n ≠ "..") :
    s.follow (fun _ => .error .notFound) links place q = (e.into q).map fun _ => place ++ q := by
  induction q generalizing place e with
  | nil =>
    rw [follow, List.append_nil]
    rfl
  | cons n rest ih =>
    obtain ⟨hn, hrest⟩ := List.forall_mem_cons.mp hq
    have hup : ¬ (n == "..") = true := by simpa using hn
    cases he with
    | file c =>
      rw [follow]
      simp only [hat]
      rfl
    | dir entries =>
      rename_i es
      rcases hname : es.lookup n with _ | c
      · rw [follow, Entry.into]
        simp only [hat, hup, Bool.false_eq_true, if_false, hname]
        split <;> rfl
      · have hmem : (n, c) ∈ es := by
          obtain ⟨before, after, rfl, -⟩ := List.lookup_eq_some_iff.mp hname
          simp
        have hc : c.Plain := entries (n, c) hmem
        have hplace : s.root.at? (place ++ [n]) = some c := by
          rw [Entry.at?_append, hat, Option.bind_some]
          simp [Entry.at?, Entry.entries, hname]
        have hlink : ∀ target, c ≠ .link target := by
          rintro target rfl
          cases hc
        rw [follow_entry hat hup hname hlink, ih hc hplace hrest, Entry.into]
        simp only [hname, List.append_assoc, List.singleton_append]

/-- A path without steps leads to where it starts. -/
lemma stat_start (hp : p.steps = []) (hat : s.root.at? (s.start p) = some e) :
    s.stat p = .ok e := by
  refine stat_of_resolve (resolveBy_eq_ok.mpr ⟨by simp [hp], ?_⟩) hat
  rw [hp, follow]

lemma stat_self (hat : s.root.at? s.cwd = some e) : s.stat {} = .ok e := stat_start rfl hat

/-- What is reached below a directory without links is found in the directory. -/
lemma stat_along (h : s.stat p = .ok e) (he : e.Plain) (hq : ∀ n ∈ q, IsName n) :
    s.stat (p.along q) = e.into q := by
  obtain ⟨place, hplace, hat⟩ := s.resolve_of_stat h
  obtain ⟨hzero, hway⟩ := resolveBy_eq_ok.mp hplace
  obtain ⟨left, hleft⟩ := follow_append q hway
  have hzero' : ¬ (p.along q).steps.any (·.toList.contains '\x00') := by
    simp only [Path.along, List.any_append, Bool.or_eq_true, not_or]
    exact ⟨hzero, by simpa using fun n hn => (hq n hn).zero⟩
  have hresolve : s.resolve (p.along q) = (e.into q).map fun _ => place ++ q := by
    rw [resolve, resolveBy, if_neg hzero']
    exact hleft.trans (follow_plain he hat fun n hn => (hq n hn).up)
  rcases hinto : e.into q with f | e' <;> rw [hinto] at hresolve
  · rw [stat, hresolve]
    rfl
  · refine stat_of_resolve hresolve ?_
    rw [Entry.at?_append, hat, Option.bind_some]
    exact Entry.at?_of_into hinto

lemma follow_ne_zeroInName (links : ℕ) (place steps : List String) :
    s.follow (fun _ => .error .notFound) links place steps ≠ .error .zeroInName := by
  fun_induction follow s (fun _ => .error .notFound) links place steps <;> simp_all

/-- A path without zero characters is never refused for one. -/
lemma stat_ne_zeroInName (h : ∀ n ∈ p.steps, '\x00' ∉ n.toList) :
    s.stat p ≠ .error .zeroInName := by
  have hzero : ¬ p.steps.any (·.toList.contains '\x00') := by simpa using h
  have hresolve : s.resolve p ≠ .error .zeroInName := by
    rw [resolve, resolveBy, if_neg hzero]
    exact follow_ne_zeroInName maxLinks (s.start p) p.steps
  unfold stat
  rcases hplace : s.resolve p with f | place
  · rw [hplace] at hresolve
    simpa [bind, Except.bind] using hresolve
  · simp only [bind, Except.bind]
    split <;> simp [pure, Except.pure]

/-- The files of a listing are reached by names. -/
lemma names_of_mem_listing {top : Path} (hs : s.root.Named) (hp : p ∈ s.listing top) :
    ∃ q ≠ [], (∀ n ∈ q, IsName n) ∧ p = top.along q := by
  obtain ⟨e, q, hstat, hq, rfl⟩ := s.mem_listing hp
  obtain ⟨place, -, hat⟩ := s.resolve_of_stat hstat
  exact ⟨q, hq.ne_nil, (hs.at? hat).isName hq, rfl⟩

lemma zero_notMem_of_mem_listing {top : Path} (hs : s.root.Named) (hp : p ∈ s.listing top) :
    ∀ n ∈ p.steps, '\x00' ∉ n.toList := by
  obtain ⟨e, q, hstat, hq, rfl⟩ := s.mem_listing hp
  obtain ⟨place, hplace, hat⟩ := s.resolve_of_stat hstat
  have htop : ∀ n ∈ top.steps, '\x00' ∉ n.toList := by
    simpa using (resolveBy_eq_ok.mp hplace).1
  exact List.forall_mem_append.mpr ⟨htop, fun n hn => ((hs.at? hat).isName hq n hn).zero⟩

end Store

end SpecScribe.Workspace
