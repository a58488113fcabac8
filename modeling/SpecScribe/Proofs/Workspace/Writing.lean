import Mathlib
import SpecScribe.Workspace.Store

/-!
Reading what was written. A file is written at the place that its path leads to, over whatever links
are on the way. Writing it leaves the way as it is, so afterwards the path leads to the new file.
-/

namespace SpecScribe.Workspace

/-! ### Entries -/

namespace Entry

variable {e n : Entry} {es : List (String × Entry)} {name other : String}

lemma lookup_setName_self (name : String) (e : Entry) (es : List (String × Entry)) :
    (setName name e es).lookup name = some e := by
  induction es with
  | nil => simp [setName]
  | cons entry es ih =>
    obtain ⟨key, old⟩ := entry
    rw [setName]
    split_ifs with heq hlt
    · rw [← beq_iff_eq.mp heq, List.lookup_cons_self]
    · exact List.lookup_cons_self
    · simp only [List.lookup_cons, Bool.eq_false_iff.mpr heq, ih]

lemma lookup_setName_of_ne (h : other ≠ name) (e : Entry) (es : List (String × Entry)) :
    (setName name e es).lookup other = es.lookup other := by
  have hne : (other == name) = false := by simpa using h
  induction es with
  | nil => simp only [setName, List.lookup_cons, hne]
  | cons entry es ih =>
    obtain ⟨key, old⟩ := entry
    rw [setName]
    split_ifs with heq hlt
    · rw [← beq_iff_eq.mp heq]
      simp only [List.lookup_cons, hne]
    · rw [List.lookup_cons]
      simp only [hne]
    · rw [List.lookup_cons, List.lookup_cons, ih]

lemma at?_append (e : Entry) (place rest : List String) :
    e.at? (place ++ rest) = (e.at? place).bind (·.at? rest) := by
  induction place generalizing e with
  | nil => rfl
  | cons name place ih =>
    simp only [List.cons_append, at?, Option.bind_assoc]
    exact congrArg _ (funext ih)

/-- What was put at a place is there. -/
lemma at?_put (e n : Entry) (place : List String) : (e.put place n).at? place = some n := by
  induction place generalizing e with
  | nil => rfl
  | cons name place ih =>
    simp only [put, at?, entries, lookup_setName_self, Option.bind_some, ih]

/-- Only a directory has something below it. -/
lemma exists_dir_of_at? {place : List String} (h : e.at? (name :: place) = some n) :
    ∃ es, e = .dir es := by
  cases e with
  | dir es => exact ⟨es, rfl⟩
  | file c => cases h
  | link target => cases h

lemma exists_dir_of_dir {place : List String} (h : e.at? place = some (.dir es)) :
    ∃ es, e = .dir es := by
  cases place with
  | nil => exact ⟨es, Option.some.inj h⟩
  | cons => exact exists_dir_of_at? h

lemma exists_put_eq_dir (e n : Entry) (top : List String) (name : String) :
    ∃ es, e.put (top ++ [name]) n = .dir es := by
  cases top <;> exact ⟨_, rfl⟩

lemma dir_ne_link (es : List (String × Entry)) (target : String) : Entry.dir es ≠ .link target := by
  simp

lemma file_ne_link (c : Content) (target : String) : Entry.file c ≠ .link target := by
  simp

/-- An entry that stayed, or a directory that stayed one. -/
def Stays (old new : Option Entry) : Prop :=
  new = old ∨ ∃ ds ds', old = some (.dir ds) ∧ new = some (.dir ds')

namespace Stays

variable {new : Option Entry}

lemma link {target : String} (h : Stays (some (.link target)) new) :
    new = some (.link target) := by
  rcases h with rfl | ⟨ds, ds', hold, -⟩
  · rfl
  · cases hold

/-- What was no link has not become one. -/
lemma noLink (h : Stays (some e) new) (he : ∀ target, e ≠ .link target) :
    ∃ e', new = some e' ∧ ∀ target, e' ≠ .link target := by
  rcases h with rfl | ⟨ds, ds', -, rfl⟩
  · exact ⟨e, rfl, he⟩
  · exact ⟨_, rfl, dir_ne_link ds'⟩

end Stays

/-- Nothing changes below the other names of a directory. -/
lemma at?_setName_of_ne {y : String} (h : y ≠ name) (n : Entry) (es : List (String × Entry))
    (place : List String) :
    (Entry.dir (setName name n es)).at? (y :: place) = (Entry.dir es).at? (y :: place) := by
  simp only [at?, entries, lookup_setName_of_ne h]

/-- Putting an entry into a directory itself, where no directory is. -/
lemma at?_setName_of_dir {place : List String} {ds : List (String × Entry)}
    (hfree : ∀ ds, es.lookup name ≠ some (.dir ds))
    (hplace : (Entry.dir es).at? place = some (.dir ds)) :
    ∃ ds', (Entry.dir (setName name n es)).at? place = some (.dir ds') ∧
      ∀ x, place ++ [x] = [name] ∧ ds'.lookup x = some n ∨
        place ++ [x] ≠ [name] ∧ Stays (ds.lookup x) (ds'.lookup x) := by
  cases place with
  | nil =>
    obtain rfl : es = ds := by simpa [at?] using hplace
    refine ⟨_, rfl, fun x => ?_⟩
    by_cases hx : x = name
    · exact .inl ⟨by rw [hx]; rfl, hx ▸ lookup_setName_self ..⟩
    · exact .inr ⟨by simpa using hx, .inl (lookup_setName_of_ne hx n es)⟩
  | cons y place =>
    by_cases hy : y = name
    · -- below the name there would have to be a directory
      obtain ⟨c, hc, hrest⟩ := Option.bind_eq_some_iff.mp hplace
      obtain ⟨cs, rfl⟩ := exists_dir_of_dir hrest
      exact absurd (hy ▸ hc) (hfree cs)
    · refine ⟨ds, ?_, fun x => .inr ⟨by simp, .inl rfl⟩⟩
      rw [at?_setName_of_ne hy, hplace]

/-- Putting an entry where no directory is leaves all directories, and in them all other names. By
induction on the place of the directory in which the entry is put. -/
lemma at?_put_of_dir {top place : List String} {ds : List (String × Entry)}
    (htop : e.at? top = some (.dir es)) (hfree : ∀ ds, es.lookup name ≠ some (.dir ds))
    (hplace : e.at? place = some (.dir ds)) :
    ∃ ds', (e.put (top ++ [name]) n).at? place = some (.dir ds') ∧
      ∀ x, place ++ [x] = top ++ [name] ∧ ds'.lookup x = some n ∨
        place ++ [x] ≠ top ++ [name] ∧ Stays (ds.lookup x) (ds'.lookup x) := by
  induction top generalizing e place with
  | nil =>
    obtain rfl : e = .dir es := Option.some.inj htop
    exact at?_setName_of_dir hfree hplace
  | cons q top ih =>
    obtain ⟨ts, rfl⟩ := exists_dir_of_at? htop
    obtain ⟨c, hc, hdir⟩ := Option.bind_eq_some_iff.mp htop
    have hput : (Entry.dir ts).put (q :: top ++ [name]) n =
        .dir (setName q (c.put (top ++ [name]) n) ts) := by
      rw [List.cons_append, put, hc]
      rfl
    rw [hput]
    cases place with
    | nil =>
      obtain rfl : ts = ds := by simpa [at?] using hplace
      refine ⟨_, rfl, fun x => .inr ⟨by simp, ?_⟩⟩
      by_cases hx : x = q
      · obtain ⟨cs, rfl⟩ := exists_dir_of_dir hdir
        obtain ⟨cs', hcs'⟩ := exists_put_eq_dir (.dir cs) n top name
        exact .inr ⟨cs, cs', hx ▸ hc, by rw [hx, lookup_setName_self, hcs']⟩
      · exact .inl (lookup_setName_of_ne hx _ ts)
    | cons y place =>
      by_cases hy : y = q
      · subst hy
        have hbelow : c.at? place = some (.dir ds) := by
          simpa only [at?, hc, Option.bind_some] using hplace
        obtain ⟨ds', hds', hnames⟩ := ih hdir hbelow
        refine ⟨ds', ?_, fun x => by simpa using hnames x⟩
        simp only [at?, entries, lookup_setName_self, Option.bind_some, hds']
      · refine ⟨ds, ?_, fun x => .inr ⟨by simp [hy], .inl rfl⟩⟩
        rw [at?_setName_of_ne hy, hplace]

end Entry

/-! ### Ways -/

namespace Store

variable {s : Store} {links : ℕ} {place steps : List String}

/-- A place that a way may pass: the root, or an entry that is no link. -/
def Passable (s : Store) (place : List String) : Prop :=
  place = [] ∨ ∃ e, s.root.at? place = some e ∧ ∀ target, e ≠ .link target

/-- A place that a way may end at: the root, or a name in a directory that is free or no link. -/
def Reachable (s : Store) (place : List String) : Prop :=
  place = [] ∨ ∃ top name es, place = top ++ [name] ∧ s.root.at? top = some (.dir es) ∧
    ∀ target, es.lookup name ≠ some (.link target)

lemma exists_dir_of_at?_append {top : List String} {name : String} {e : Entry}
    (h : s.root.at? (top ++ [name]) = some e) :
    ∃ es, s.root.at? top = some (.dir es) ∧ es.lookup name = some e := by
  rw [Entry.at?_append] at h
  obtain ⟨d, hd, hname⟩ := Option.bind_eq_some_iff.mp h
  obtain ⟨es, rfl⟩ := Entry.exists_dir_of_at? hname
  refine ⟨es, hd, ?_⟩
  obtain ⟨e', he', hlast⟩ := Option.bind_eq_some_iff.mp hname
  rw [← Option.some.inj hlast]
  exact he'

lemma Passable.reachable (h : s.Passable place) : s.Reachable place := by
  rcases h with rfl | ⟨e, he, hlink⟩
  · exact .inl rfl
  rcases List.eq_nil_or_concat place with rfl | ⟨top, name, rfl⟩
  · exact .inl rfl
  · rw [List.concat_eq_append] at he ⊢
    obtain ⟨es, htop, hname⟩ := exists_dir_of_at?_append he
    exact .inr ⟨top, name, es, rfl, htop, fun target ht =>
      hlink target (Option.some.inj (hname.symm.trans ht))⟩

lemma Passable.dropLast (h : s.Passable place) : s.Passable place.dropLast := by
  rcases h with rfl | ⟨e, he, -⟩
  · exact .inl rfl
  rcases List.eq_nil_or_concat place with rfl | ⟨top, name, rfl⟩
  · exact .inl rfl
  · rw [List.concat_eq_append] at he ⊢
    obtain ⟨es, htop, -⟩ := exists_dir_of_at?_append he
    rw [List.dropLast_concat]
    exact .inr ⟨.dir es, htop, Entry.dir_ne_link es⟩

/-- Where a way ends, by induction on the way. -/
lemma reachable_of_follow {target : List String}
    (h : s.follow .ok links place steps = .ok target) (hplace : s.Passable place) :
    s.Reachable target := by
  fun_induction follow s .ok links place steps with
  | case1 links place =>
    cases h
    exact hplace.reachable
  | case2 links place step rest es hes hup ih => exact ih h hplace.dropLast
  | case3 links place step rest es hes hup hname hrest =>
    cases h
    exact .inr ⟨place, step, es, rfl, hes, by simp [hname]⟩
  | case4 => cases h
  | case5 => cases h
  | case6 place step rest es hes hup link hname links t ih =>
    refine ih h ?_
    split_ifs
    · exact hplace
    · exact .inl rfl
  | case7 links place step rest es hes hup e hlink hname ih =>
    refine ih h (.inr ⟨e, ?_, hlink⟩)
    rw [Entry.at?_append, hes, Option.bind_some]
    simp [Entry.at?, Entry.entries, hname]
  | case8 => cases h

section Put

variable {top rest : List String} {name step : String} {es ds : List (String × Entry)} {c : Content}
  {missing : List String → Except FileFault (List String)}

/-- A way goes on over an entry that is no link. -/
lemma follow_entry {e : Entry} (hds : s.root.at? place = some (.dir ds))
    (hup : ¬ (step == "..") = true) (hname : ds.lookup step = some e)
    (hlink : ∀ target, e ≠ .link target) :
    s.follow missing links place (step :: rest) =
      s.follow missing links (place ++ [step]) rest := by
  rw [follow]
  simp only [hds, hup, Bool.false_eq_true, if_false, hname]

/-- A file is put where neither a directory nor a link is, at the end of a way. The way still leads
there: each directory on it is left, and each link. -/
lemma follow_put (htop : s.root.at? top = some (.dir es))
    (hdir : ∀ ds, es.lookup name ≠ some (.dir ds))
    (hlink : ∀ target, es.lookup name ≠ some (.link target))
    (h : s.follow .ok links place steps = .ok (top ++ [name])) :
    { s with root := s.root.put (top ++ [name]) (.file c) }.follow missing links place steps =
      .ok (top ++ [name]) := by
  fun_induction follow s .ok links place steps with
  | case1 links place =>
    cases h
    rw [follow]
  | case2 links place step rest ds hds hup ih =>
    obtain ⟨ds', hds', -⟩ := Entry.at?_put_of_dir (n := .file c) htop hdir hds
    rw [follow]
    simp only [hds', hup, if_true]
    exact ih h
  | case3 links place step rest ds hds hup hname hrest =>
    obtain ⟨ds', hds', hnames⟩ := Entry.at?_put_of_dir (n := .file c) htop hdir hds
    have hend : place ++ [step] = top ++ [name] := Except.ok.inj h
    have hfile : ds'.lookup step = some (.file c) := by
      rcases hnames step with ⟨-, hfile⟩ | ⟨hne, -⟩
      · exact hfile
      · exact absurd hend hne
    rw [follow_entry hds' hup hfile (Entry.file_ne_link c), List.isEmpty_iff.mp hrest, hend, follow]
  | case4 => cases h
  | case5 => cases h
  | case6 place step rest ds hds hup link hname links t ih =>
    obtain ⟨ds', hds', hnames⟩ := Entry.at?_put_of_dir (n := .file c) htop hdir hds
    have hkept : ds'.lookup step = some (.link link) := by
      rcases hnames step with ⟨hend, -⟩ | ⟨-, hstays⟩
      · -- the file is not put over a link
        obtain ⟨rfl, hsingle⟩ := List.append_inj' hend rfl
        obtain rfl : step = name := by simpa using hsingle
        cases hds.symm.trans htop
        exact absurd hname (hlink link)
      · rw [hname] at hstays
        exact hstays.link
    rw [follow]
    simp only [hds', hup, Bool.false_eq_true, if_false, hkept]
    exact ih h
  | case7 links place step rest ds hds hup e hentry hname ih =>
    obtain ⟨ds', hds', hnames⟩ := Entry.at?_put_of_dir (n := .file c) htop hdir hds
    obtain ⟨e', he', hentry'⟩ : ∃ e', ds'.lookup step = some e' ∧ ∀ target, e' ≠ .link target := by
      rcases hnames step with ⟨-, hfile⟩ | ⟨-, hstays⟩
      · exact ⟨_, hfile, Entry.file_ne_link c⟩
      · rw [hname] at hstays
        exact hstays.noLink hentry
    rw [follow_entry hds' hup he' hentry']
    exact ih h
  | case8 => cases h

end Put

/-! ### Files -/

section Files

variable {p : Path} {c : Content} {s' : Store}

lemma resolveBy_eq_ok {missing : List String → Except FileFault (List String)} :
    s.resolveBy missing p = .ok place ↔
      ¬ p.steps.any (·.toList.contains '\x00') ∧
        s.follow missing maxLinks (s.start p) p.steps = .ok place := by
  unfold resolveBy
  split_ifs with hzero
  · exact ⟨nofun, fun h => absurd hzero h.1⟩
  · exact ⟨fun h => ⟨hzero, h⟩, fun h => h.2⟩

lemma stat_of_resolve {e : Entry} (hplace : s.resolve p = .ok place)
    (he : s.root.at? place = some e) : s.stat p = .ok e := by
  rw [stat, hplace]
  simp only [bind, Except.bind, he]
  rfl

lemma read_of_stat (h : s.stat p = .ok (.file c)) : s.read p = .ok c := by
  rw [read, h]
  rfl

section WorkingDirectory

variable {es : List (String × Entry)} {name : String}

/-- A file of the working directory is found under its name. -/
lemma stat_name (hes : s.root.at? s.cwd = some (.dir es)) (hzero : ¬ name.toList.contains '\x00')
    (hup : ¬ (name == "..") = true) (hfile : es.lookup name = some (.file c)) :
    s.stat ⟨"", [name]⟩ = .ok (.file c) := by
  have hplace : s.resolve ⟨"", [name]⟩ = .ok (s.cwd ++ [name]) := by
    refine resolveBy_eq_ok.mpr ⟨by simpa using hzero, ?_⟩
    rw [show s.start ⟨"", [name]⟩ = s.cwd from rfl,
      follow_entry hes hup hfile (Entry.file_ne_link _), follow]
  refine stat_of_resolve hplace ?_
  rw [Entry.at?_append, hes, Option.bind_some]
  simp [Entry.at?, Entry.entries, hfile]

/-- A name that is not in the working directory leads nowhere, unless something is made there. -/
lemma resolveBy_name (hes : s.root.at? s.cwd = some (.dir es))
    (hzero : ¬ name.toList.contains '\x00') (hup : ¬ (name == "..") = true)
    (hnew : es.lookup name = none) (missing : List String → Except FileFault (List String)) :
    s.resolveBy missing ⟨"", [name]⟩ = missing (s.cwd ++ [name]) := by
  have hany : ¬ [name].any (·.toList.contains '\x00') := by simpa using hzero
  rw [resolveBy, if_neg hany, show s.start ⟨"", [name]⟩ = s.cwd from rfl, follow]
  simp only [hes, hup, Bool.false_eq_true, if_false, hnew, List.isEmpty_nil, if_true]

lemma stat_name_new (hes : s.root.at? s.cwd = some (.dir es))
    (hzero : ¬ name.toList.contains '\x00') (hup : ¬ (name == "..") = true)
    (hnew : es.lookup name = none) : s.stat ⟨"", [name]⟩ = .error .notFound := by
  rw [stat, resolve, resolveBy_name hes hzero hup hnew]
  rfl

/-- A new file of the working directory can be written. -/
lemma writeText_name (hes : s.root.at? s.cwd = some (.dir es))
    (hzero : ¬ name.toList.contains '\x00') (hup : ¬ (name == "..") = true)
    (hnew : es.lookup name = none) (text : String) :
    ∃ s', s.writeText ⟨"", [name]⟩ text = (.ok (), s') := by
  have hnone : s.root.at? (s.cwd ++ [name]) = none := by
    rw [Entry.at?_append, hes, Option.bind_some]
    simp [Entry.at?, Entry.entries, hnew]
  have hdirs : s.makeDirs (Path.parent ⟨"", [name]⟩) = (.ok (), s) := rfl
  refine ⟨{ s with
    root := s.root.put (s.cwd ++ [name]) (.file ⟨Text.encodeUtf8 text.toList, 0⟩) }, ?_⟩
  rw [writeText, hdirs]
  simp only [writeFile, resolveBy_name hes hzero hup hnew, bind, Except.bind, hnone]
  rfl

end WorkingDirectory

/-- Writing puts a file at the end of a way that is no directory. -/
lemma exists_of_writeFile {bytes : List UInt8} (h : s.writeFile p bytes = .ok s') :
    ∃ place, s.resolveBy .ok p = .ok place ∧ (∀ ds, s.root.at? place ≠ some (.dir ds)) ∧
      s' = { s with root := s.root.put place (.file ⟨bytes, 0⟩) } := by
  unfold writeFile at h
  rcases hplace : s.resolveBy .ok p with f | place <;> rw [hplace] at h
  · cases h
  · refine ⟨place, rfl, ?_⟩
    simp only [bind, Except.bind] at h
    split at h
    · cases h
    · rename_i hdir
      cases h
      exact ⟨hdir, rfl⟩

/-- **What was written is read.** -/
lemma read_of_writeFile {bytes : List UInt8} (h : s.writeFile p bytes = .ok s') :
    s'.read p = .ok ⟨bytes, 0⟩ := by
  obtain ⟨place, hplace, hdir, rfl⟩ := exists_of_writeFile h
  obtain ⟨hpath, hway⟩ := resolveBy_eq_ok.mp hplace
  suffices hresolve :
      { s with root := s.root.put place (.file ⟨bytes, 0⟩) }.resolve p = .ok place from
    read_of_stat (stat_of_resolve hresolve (Entry.at?_put ..))
  refine resolveBy_eq_ok.mpr ⟨hpath, ?_⟩
  cases hsteps : p.steps with
  | nil =>
    rw [hsteps, follow] at hway
    rw [follow]
    exact hway
  | cons step rest =>
    rw [hsteps] at hway
    obtain ⟨ds, hds⟩ : ∃ ds, s.root.at? (s.start p) = some (.dir ds) := by
      rw [follow] at hway
      split at hway
      · exact ⟨_, ‹_›⟩
      · cases hway
    rcases reachable_of_follow hway (.inr ⟨.dir ds, hds, Entry.dir_ne_link ds⟩) with
      rfl | ⟨top, name, es, rfl, htop, hlink⟩
    · -- a step is taken in a directory, so the root is one
      obtain ⟨es, hroot⟩ := Entry.exists_dir_of_dir hds
      exact absurd (congrArg some hroot) (hdir es)
    · refine follow_put htop (fun ds hds => hdir ds ?_) hlink hway
      rw [Entry.at?_append, htop, Option.bind_some]
      simp [Entry.at?, Entry.entries, hds]

lemma read_of_writeText {text : String} (h : s.writeText p text = (.ok (), s')) :
    s'.read p = .ok ⟨Text.encodeUtf8 text.toList, 0⟩ := by
  unfold writeText at h
  split at h
  · cases h
  · split at h
    · rename_i hwrite
      cases h
      exact read_of_writeFile hwrite
    · cases h

end Files

end Store

end SpecScribe.Workspace
