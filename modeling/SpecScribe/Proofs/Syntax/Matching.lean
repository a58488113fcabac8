import Mathlib
import SpecScribe.Syntax.Extraction
import SpecScribe.Proofs.Syntax.Span

/-!
Matches of a pattern, each with the parts that it found. A match gives every role at most once, and
the places of its parts are below that of its definition. Where definitions stand in each other's
bodies only, the first node of a role in the span of a definition is the definition's own part.
-/

namespace SpecScribe.Syntax

/-! ### What a match finds -/

/-- A field asked for: its name, whether it may be missing, and what its child has to look like. -/
abbrev FieldPattern := String × Bool × Pattern

namespace Pattern

def role : Pattern → Option Role
  | .mk _ r _ => r

def fields : Pattern → List FieldPattern
  | .mk _ _ fs => fs

mutual

/-- The roles that a match can give. -/
def roles : Pattern → List Role
  | .mk _ role fields => role.toList ++ fieldRoles fields

def fieldRoles : List FieldPattern → List Role
  | [] => []
  | (_, _, p) :: r => p.roles ++ fieldRoles r

end

lemma match?_eq_some {p : Pattern} {place : List ℕ} {n : Node} {found : Found}
    (h : p.match? place n = some found) :
    ∃ parts, matchFields? place n.children p.fields = some parts ∧
      found = ownRole p.role place ++ parts := by
  obtain ⟨kind, role, fields⟩ := p
  rw [match?] at h
  split_ifs at h
  obtain ⟨parts, hparts, rfl⟩ := Option.map_eq_some_iff.mp h
  exact ⟨parts, hparts, rfl⟩

/-- The first field is matched by a child of that name, or it is missing. -/
lemma matchFields?_cons {place : List ℕ} {children : List Node} {name : String} {optional : Bool}
    {p : Pattern} {fs : List FieldPattern} {found : Found}
    (h : matchFields? place children ((name, optional, p) :: fs) = some found) :
    (∃ (i : ℕ) (c : Node) (head tail : Found), children[i]? = some c ∧ c.field = some name ∧
      p.match? (place ++ [i]) c = some head ∧ matchFields? place children fs = some tail ∧
      found = head ++ tail) ∨ matchFields? place children fs = some found := by
  rw [matchFields?] at h
  split at h
  · rename_i head htried
    obtain ⟨tail, htail, rfl⟩ := Option.map_eq_some_iff.mp h
    obtain ⟨_, hmem, hid⟩ := List.exists_of_findSome?_eq_some htried
    obtain ⟨⟨c, i⟩, hci, hmatch⟩ := List.mem_map.mp hmem
    rw [List.mem_filter, List.mem_zipIdx_iff_getElem?] at hci
    exact .inl ⟨i, c, head, tail, by simpa using hci.1, by simpa using hci.2,
      hmatch.trans hid, htail, rfl⟩
  · split_ifs at h
    exact .inr h

mutual

/-- Each role is found as often as the pattern asks for it, at most. -/
lemma roles_of_match {p : Pattern} {place : List ℕ} {n : Node} {found : Found}
    (h : p.match? place n = some found) : (found.map Prod.fst).Sublist p.roles := by
  match p with
  | .mk kind role fields =>
    obtain ⟨parts, hparts, rfl⟩ := match?_eq_some h
    rw [List.map_append, roles]
    have hown : (ownRole role place).map Prod.fst = role.toList := by
      cases role <;> rfl
    rw [Pattern.role, hown]
    exact (List.Sublist.refl _).append (roles_of_matchFields hparts)

lemma roles_of_matchFields {place : List ℕ} {children : List Node} {fs : List FieldPattern}
    {found : Found} (h : matchFields? place children fs = some found) :
    (found.map Prod.fst).Sublist (fieldRoles fs) := by
  match fs with
  | [] =>
    cases h
    exact List.Sublist.slnil
  | (name, optional, p) :: fs =>
    rw [fieldRoles]
    obtain ⟨i, c, head, tail, -, -, hhead, htail, rfl⟩ | h := matchFields?_cons h
    · rw [List.map_append]
      exact (roles_of_match hhead).append (roles_of_matchFields htail)
    · exact (roles_of_matchFields h).trans (List.sublist_append_right ..)

end

/-- A role is found through a field: the field can give it, and it stands at or below a child of
that field. -/
def Through (place : List ℕ) (children : List Node) (r : Role) (o : List ℕ) (e : FieldPattern) :
    Prop :=
  r ∈ e.2.2.roles ∧ ∃ (i : ℕ) (c : Node) (q : List ℕ) (x : Node),
    children[i]? = some c ∧ c.field = some e.1 ∧ o = place ++ i :: q ∧ c.at? q = some x

mutual

/-- What is found is a node at or below the one that matches. -/
lemma at?_of_match {p : Pattern} {place : List ℕ} {n : Node} {found : Found} {r : Role} {o : List ℕ}
    (h : p.match? place n = some found) (ho : (r, o) ∈ found) :
    ∃ q x, o = place ++ q ∧ n.at? q = some x := by
  match p with
  | .mk kind role fields =>
    obtain ⟨parts, hparts, rfl⟩ := match?_eq_some h
    rcases List.mem_append.mp ho with ho | ho
    · have hplace : o = place := by
        cases role <;> simp_all [ownRole, Pattern.role]
      exact ⟨[], n, by rw [hplace, List.append_nil], rfl⟩
    · obtain ⟨-, -, -, i, c, q, x, hc, -, rfl, hx⟩ := through_of_matchFields hparts ho
      exact ⟨i :: q, x, rfl, by rw [Node.at?, hc]; exact hx⟩

/-- What the fields find is found through one of them. -/
lemma through_of_matchFields {place : List ℕ} {children : List Node} {fs : List FieldPattern}
    {found : Found} {r : Role} {o : List ℕ} (h : matchFields? place children fs = some found)
    (ho : (r, o) ∈ found) : ∃ e ∈ fs, Through place children r o e := by
  match fs with
  | [] =>
    cases h
    cases ho
  | (name, optional, p) :: fs =>
    have hlater : ∀ {tail : Found}, matchFields? place children fs = some tail → (r, o) ∈ tail →
        ∃ e ∈ (name, optional, p) :: fs, Through place children r o e := by
      intro tail htail ho
      obtain ⟨e, he, hthrough⟩ := through_of_matchFields htail ho
      exact ⟨e, List.mem_cons_of_mem _ he, hthrough⟩
    obtain ⟨i, c, head, tail, hc, hfield, hhead, htail, rfl⟩ | h := matchFields?_cons h
    · rcases List.mem_append.mp ho with ho | ho
      · have hr : r ∈ p.roles := (roles_of_match hhead).subset (List.mem_map.mpr ⟨_, ho, rfl⟩)
        obtain ⟨q, x, rfl, hx⟩ := at?_of_match hhead ho
        exact ⟨_, List.mem_cons_self .., hr, i, c, q, x, hc, hfield, by simp, hx⟩
      · exact hlater htail ho
    · exact hlater h ho

end

/-- A pattern for definitions: it gives its own node the role of the definition and no role twice,
and what stands in the field of the body is the body only. -/
structure Defines (p : Pattern) : Prop where
  own : p.role = some .definition
  once : p.roles.Nodup
  apart : ∀ e ∈ p.fields, ∀ e' ∈ p.fields,
    e.1 = e'.1 → .body ∈ e'.2.2.roles → e.2.2.roles = [.body]

instance (p : Pattern) : Decidable p.Defines :=
  decidable_of_iff (p.role = some .definition ∧ p.roles.Nodup ∧ ∀ e ∈ p.fields, ∀ e' ∈ p.fields,
      e.1 = e'.1 → .body ∈ e'.2.2.roles → e.2.2.roles = [.body])
    ⟨fun ⟨h, h', h''⟩ => ⟨h, h', h''⟩, fun h => ⟨h.own, h.once, h.apart⟩⟩

section Defines

variable {p : Pattern} {place : List ℕ} {n : Node} {found : Found} {r : Role} {o : List ℕ}

/-- A match finds the definition at its own place, and the rest through its fields. -/
lemma Defines.split (hp : p.Defines) (h : p.match? place n = some found) :
    ∃ parts, matchFields? place n.children p.fields = some parts ∧
      found = (.definition, place) :: parts := by
  obtain ⟨parts, hparts, rfl⟩ := match?_eq_some h
  exact ⟨parts, hparts, by rw [hp.own]; rfl⟩

/-- The definition is found at its own place only. -/
lemma Defines.place_of_definition (hp : p.Defines) (h : p.match? place n = some found)
    (ho : (.definition, o) ∈ found) : o = place := by
  have honce := hp.once.sublist (roles_of_match h)
  obtain ⟨parts, -, rfl⟩ := hp.split h
  rw [List.map_cons, List.nodup_cons] at honce
  rcases List.mem_cons.mp ho with ho | ho
  · exact congrArg Prod.snd ho
  · exact absurd (List.mem_map.mpr ⟨_, ho, rfl⟩) honce.1

/-- The body and another part stand in different children. -/
lemma Defines.parted (hp : p.Defines) (h : p.match? place n = some found) {b : List ℕ}
    (ho : (r, o) ∈ found) (hb : (.body, b) ∈ found) (hr : r ≠ .body) (hr' : r ≠ .definition) :
    Left o b ∨ Left b o := by
  obtain ⟨parts, hparts, rfl⟩ := hp.split h
  have ho : (r, o) ∈ parts := by simpa [hr'] using ho
  have hb : (.body, b) ∈ parts := by simpa using hb
  obtain ⟨e, he, hre, i, c, q, -, hc, hfield, rfl, -⟩ := through_of_matchFields hparts ho
  obtain ⟨e', he', hbe, i', c', q', -, hc', hfield', rfl, -⟩ := through_of_matchFields hparts hb
  have hne : i ≠ i' := by
    rintro rfl
    obtain rfl : c = c' := Option.some.inj (hc.symm.trans hc')
    have hsame : e.1 = e'.1 := Option.some.inj (hfield.symm.trans hfield')
    rw [hp.apart e he e' he' hsame hbe, List.mem_singleton] at hre
    exact hr hre
  rcases Nat.lt_or_gt_of_ne hne with hlt | hlt
  · exact .inl ⟨place, i, i', q, q', hlt, rfl, rfl⟩
  · exact .inr ⟨place, i', i, q', q, hlt, rfl, rfl⟩

end Defines

end Pattern

/-! ### The matches in a tree -/

/-- A definition with the parts that a pattern found in it. -/
structure Match where
  definition : Located
  found : Found

namespace Match

/-- The node that a match found in a role. -/
def part? (root : Node) (m : Match) (role : Role) : Option Node :=
  (m.found.lookup role).bind root.at?

end Match

namespace Query

/-- The matches of a query in a tree, in pre-order of their definitions. -/
def matched (q : Query) (root : Node) : List Match :=
  root.all.flatMap fun l => q.filterMap fun p => (p.match? l.place l.node).map (Match.mk l)

variable {q : Query} {root : Node} {m m' : Match} {l : Located} {role : Role}

lemma mem_matched : m ∈ q.matched root ↔ m.definition ∈ root.all ∧
    ∃ p ∈ q, p.match? m.definition.place m.definition.node = some m.found := by
  simp only [matched, List.mem_flatMap, List.mem_filterMap, Option.map_eq_some_iff]
  constructor
  · rintro ⟨l, hl, p, hp, found, hfound, rfl⟩
    exact ⟨hl, p, hp, hfound⟩
  · rintro ⟨hl, p, hp, hfound⟩
    exact ⟨_, hl, p, hp, _, hfound, rfl⟩

lemma mem_captures : l ∈ q.captures root role ↔
    l ∈ root.all ∧ ∃ m ∈ q.matched root, (role, l.place) ∈ m.found := by
  have hfound : (role, l.place) ∈ q.found root ↔
      ∃ m ∈ q.matched root, (role, l.place) ∈ m.found := by
    simp only [found, matched, List.mem_flatMap, List.mem_filterMap, Option.map_eq_some_iff]
    constructor
    · rintro ⟨l', hl', p, hp, hrole⟩
      rcases hmatch : p.match? l'.place l'.node with _ | found <;> rw [hmatch] at hrole
      · cases hrole
      · exact ⟨⟨l', found⟩, ⟨l', hl', p, hp, found, hmatch, rfl⟩, hrole⟩
    · rintro ⟨_, ⟨l', hl', p, hp, found, hmatch, rfl⟩, hrole⟩
      exact ⟨l', hl', p, hp, by rw [hmatch]; exact hrole⟩
  rw [captures, List.mem_filter, List.contains_iff_mem, hfound]

lemma captures_sorted (q : Query) (root : Node) (role : Role) :
    (q.captures root role).Pairwise fun l l' => l.place < l'.place :=
  root.all_sorted.filter _

end Query

/-- A way to look up nodes that searches a tree: of each role it finds the nodes to which a match
gives the role, each once and in pre-order. -/
structure Finder.Searches (find : Finder) (root : Node) : Prop where
  found : ∀ q role l, l ∈ find q role ↔
    l ∈ root.all ∧ ∃ m ∈ q.matched root, (role, l.place) ∈ m.found
  preorder : ∀ q role, (find q role).Pairwise fun l l' => l.place < l'.place

lemma searches_matchFinder (root : Node) : (matchFinder root).Searches root where
  found _ _ _ := Query.mem_captures
  preorder q role := q.captures_sorted root role

/-- All ways to search a tree are the same. -/
lemma Finder.Searches.eq_matchFinder {find : Finder} {root : Node} (h : find.Searches root) :
    find = matchFinder root := by
  funext q role
  have hnodup : ∀ ls : List Located, (ls.Pairwise fun l l' => l.place < l'.place) → ls.Nodup := by
    intro ls hls
    refine hls.imp ?_
    rintro l _ hlt rfl
    exact List.lt_irrefl _ hlt
  have hsorted := (searches_matchFinder root).preorder q role
  have hperm : (find q role).Perm (matchFinder root q role) := by
    refine (List.perm_ext_iff_of_nodup (hnodup _ (h.preorder q role)) (hnodup _ hsorted)).mpr
      fun l => ?_
    rw [h.found, (searches_matchFinder root).found]
  refine hperm.eq_of_pairwise (fun l l' _ _ hlt hlt' => ?_) (h.preorder q role) hsorted
  exact absurd hlt' (List.lt_asymm hlt)

section One

variable {p : Pattern} {root : Node} {m m' : Match} {r : Role} {o : List ℕ}

lemma match?_of_mem (hm : m ∈ Query.matched [p] root) :
    p.match? m.definition.place m.definition.node = some m.found := by
  obtain ⟨-, p', hp', hmatch⟩ := Query.mem_matched.mp hm
  obtain rfl := List.mem_singleton.mp hp'
  exact hmatch

lemma at?_definition (hm : m ∈ Query.matched [p] root) :
    root.at? m.definition.place = some m.definition.node :=
  Node.at?_of_mem_all (Query.mem_matched.mp hm).1

/-- The nodes found as definitions are those of the matches. -/
lemma captures_definition (hp : p.Defines) (root : Node) :
    Query.captures [p] root .definition = (Query.matched [p] root).map Match.definition := by
  have hmatched : (Query.matched [p] root).map Match.definition =
      root.all.filter fun l => (p.match? l.place l.node).isSome := by
    rw [Query.matched, List.map_flatMap]
    induction root.all with
    | nil => rfl
    | cons l ls ih =>
      rw [List.flatMap_cons, ih, List.filter_cons]
      rcases hmatch : p.match? l.place l.node with _ | found <;> simp [hmatch]
  rw [hmatched, Query.captures]
  refine List.filter_congr fun l hl => ?_
  have hcaptured : l ∈ Query.captures [p] root .definition ↔
      (p.match? l.place l.node).isSome := by
    rw [Query.mem_captures]
    constructor
    · rintro ⟨-, m, hm, hrole⟩
      have hplace := hp.place_of_definition (match?_of_mem hm) hrole
      obtain rfl := Node.eq_of_place_eq hl (Query.mem_matched.mp hm).1 hplace
      rw [match?_of_mem hm]
      rfl
    · intro hmatch
      obtain ⟨found, hfound⟩ := Option.isSome_iff_exists.mp hmatch
      obtain ⟨parts, -, rfl⟩ := hp.split hfound
      exact ⟨hl, ⟨l, _⟩, Query.mem_matched.mpr ⟨hl, p, List.mem_singleton_self p, hfound⟩,
        List.mem_cons_self ..⟩
  rw [Query.captures, List.mem_filter] at hcaptured
  rw [Bool.eq_iff_iff, ← hcaptured]
  exact ⟨fun h => ⟨hl, h⟩, And.right⟩

/-- What a match found in a role is the only node of that role in it. -/
lemma lookup_of_mem (hp : p.Defines) (hm : m ∈ Query.matched [p] root) (ho : (r, o) ∈ m.found) :
    m.found.lookup r = some o := by
  have honce := hp.once.sublist (Pattern.roles_of_match (match?_of_mem hm))
  generalize m.found = found at ho honce
  induction found with
  | nil => cases ho
  | cons e found ih =>
    obtain ⟨r', o'⟩ := e
    rw [List.map_cons, List.nodup_cons] at honce
    rcases List.mem_cons.mp ho with h | h
    · cases h
      exact List.lookup_cons_self
    · have hne : r ≠ r' := by
        rintro rfl
        exact honce.1 (List.mem_map.mpr ⟨_, h, rfl⟩)
      rw [List.lookup_cons, beq_false_of_ne hne]
      exact ih h honce.2

lemma mem_of_lookup {found : Found} (h : found.lookup r = some o) : (r, o) ∈ found := by
  obtain ⟨before, after, rfl, -⟩ := List.lookup_eq_some_iff.mp h
  simp

end One

/-! ### Own parts -/

/-- Definitions are tidy: each has parts of the given roles, which are not empty and stand in front
of its body, and contains further definitions in its body only. -/
structure Tidy (q : Query) (roles : List Role) (root : Node) : Prop where
  parts : ∀ m ∈ q.matched root, ∀ r ∈ roles, ∃ n ∈ m.part? root r, ∃ b ∈ m.part? root .body,
    ¬ n.stop.le n.start ∧ n.stop.le b.start
  nested : ∀ m ∈ q.matched root, ∀ m' ∈ q.matched root,
    m.definition.place <+: m'.definition.place → m.definition.place ≠ m'.definition.place →
    ∃ b ∈ m.found.lookup .body, b <+: m'.definition.place

instance (q : Query) (roles : List Role) (root : Node) : Decidable (Tidy q roles root) :=
  decidable_of_iff ((∀ m ∈ q.matched root, ∀ r ∈ roles, ∃ n ∈ m.part? root r,
      ∃ b ∈ m.part? root .body, ¬ n.stop.le n.start ∧ n.stop.le b.start) ∧
      ∀ m ∈ q.matched root, ∀ m' ∈ q.matched root,
        m.definition.place <+: m'.definition.place → m.definition.place ≠ m'.definition.place →
        ∃ b ∈ m.found.lookup .body, b <+: m'.definition.place)
    ⟨fun ⟨h, h'⟩ => ⟨h, h'⟩, fun h => ⟨h.parts, h.nested⟩⟩

section Tidy

variable {p : Pattern} {roles : List Role} {root : Node} {m : Match} {r : Role}

/-- A part is not empty, and the body is to its right. -/
lemma Tidy.part (hp : p.Defines) (hneat : root.Each Node.Neat) (htidy : Tidy [p] roles root)
    (hm : m ∈ Query.matched [p] root) (hr : r ∈ roles) (hdef : r ≠ .definition) :
    ∃ o b n, m.found.lookup r = some o ∧ m.found.lookup .body = some b ∧ root.at? o = some n ∧
      ¬ n.stop.le n.start ∧ Left o b := by
  obtain ⟨n, hpart, x, hxpart, hfull, hfront⟩ := htidy.parts m hm r hr
  obtain ⟨o, ho, hn⟩ := Option.bind_eq_some_iff.mp hpart
  obtain ⟨b, hb, hx⟩ := Option.bind_eq_some_iff.mp hxpart
  refine ⟨o, b, n, ho, hb, hn, hfull, ?_⟩
  have hbody : r ≠ .body := by
    rintro rfl
    obtain rfl : o = b := Option.some.inj (ho.symm.trans hb)
    obtain rfl : n = x := Option.some.inj (hn.symm.trans hx)
    exact hfull hfront
  rcases hp.parted (match?_of_mem hm) (mem_of_lookup ho) (mem_of_lookup hb) hbody hdef with h | h
  · exact h
  · -- a body in front of the part would leave no room for the part
    have hspan := (hneat.at hx).span
    exact absurd (Point.le_trans hfront (Point.le_trans hspan (Node.stop_le_of_left hneat hx hn h)))
      hfull

/-- In a sorted list a hit that no other hit precedes is the first one. -/
lemma find?_eq_first {α : Type} {R : α → α → Prop} {test : α → Bool} {xs : List α} {x : α}
    (hsorted : xs.Pairwise R) (hx : x ∈ xs) (htest : test x)
    (hfirst : ∀ y ∈ xs, test y → ¬ R y x) : xs.find? test = some x := by
  obtain ⟨before, after, rfl⟩ := List.append_of_mem hx
  rw [List.find?_eq_some_iff_append]
  refine ⟨htest, before, after, rfl, fun y hy => ?_⟩
  have hR : R y x := (List.pairwise_append.mp hsorted).2.2 y hy x (List.mem_cons_self ..)
  by_contra h
  exact hfirst y (List.mem_append_left _ hy) (by simpa using h) hR

end Tidy

end SpecScribe.Syntax
