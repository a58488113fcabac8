import Mathlib
import SpecScribe.Syntax.Node

/-!
Places and spans in a syntax tree. In pre-order the places grow, a place being less than those below
it and those to its right. Where spans nest and siblings are in order, a node lies in the span of
every node above it, and ends before every node to its right begins.
-/

namespace SpecScribe.Syntax

/-! ### Places -/

/-- One place lies to the left of the other: where they part, its child comes first. -/
def Left (a b : List ℕ) : Prop := ∃ c i j as bs, i < j ∧ a = c ++ i :: as ∧ b = c ++ j :: bs

section Left

variable {a b a' b' : List ℕ}

lemma Left.lt (h : Left a b) : a < b := by
  obtain ⟨c, i, j, as, bs, hij, rfl, rfl⟩ := h
  exact List.append_left_lt (List.cons_lt_cons_iff.mpr (.inl hij))

lemma Left.below (h : Left a b) (ha : a <+: a') (hb : b <+: b') : Left a' b' := by
  obtain ⟨c, i, j, as, bs, hij, rfl, rfl⟩ := h
  obtain ⟨as', rfl⟩ := ha
  obtain ⟨bs', rfl⟩ := hb
  exact ⟨c, i, j, as ++ as', bs ++ bs', hij, by simp, by simp⟩

lemma lt_below {q : List ℕ} (hq : q ≠ []) : a < a ++ q := by
  obtain ⟨i, q, rfl⟩ := List.exists_cons_of_ne_nil hq
  have h : a ++ [] < a ++ i :: q := List.append_left_lt (List.nil_lt_cons i q)
  rwa [List.append_nil] at h

lemma lt_of_prefix_of_ne {a b : List ℕ} (h : a <+: b) (hne : a ≠ b) : a < b := by
  obtain ⟨q, rfl⟩ := h
  exact lt_below (by rintro rfl; simp at hne)

/-- Two places are above each other, or one is to the left of the other. -/
lemma place_cases (a b : List ℕ) : a <+: b ∨ b <+: a ∨ Left a b ∨ Left b a := by
  induction a generalizing b with
  | nil => exact .inl List.nil_prefix
  | cons i a ih =>
    cases b with
    | nil => exact .inr (.inl List.nil_prefix)
    | cons j b =>
      rcases Nat.lt_trichotomy i j with hij | rfl | hij
      · exact .inr (.inr (.inl ⟨[], i, j, a, b, hij, rfl, rfl⟩))
      · have hcons : ∀ {a b : List ℕ}, Left a b → Left (i :: a) (i :: b) := by
          rintro _ _ ⟨c, k, l, as, bs, hkl, rfl, rfl⟩
          exact ⟨i :: c, k, l, as, bs, hkl, rfl, rfl⟩
        rcases ih b with h | h | h | h
        · exact .inl (List.cons_prefix_cons.mpr ⟨rfl, h⟩)
        · exact .inr (.inl (List.cons_prefix_cons.mpr ⟨rfl, h⟩))
        · exact .inr (.inr (.inl (hcons h)))
        · exact .inr (.inr (.inr (hcons h)))
      · exact .inr (.inr (.inr ⟨[], j, i, b, a, hij, rfl, rfl⟩))

end Left

namespace Node

/-- The node at a place. -/
def at? (n : Node) : List ℕ → Option Node
  | [] => some n
  | i :: rest => n.children[i]?.bind fun c => c.at? rest

lemma at?_append (n : Node) (p q : List ℕ) : n.at? (p ++ q) = (n.at? p).bind fun m => m.at? q := by
  induction p generalizing n with
  | nil => rfl
  | cons i p ih =>
    rw [List.cons_append, at?, at?]
    rcases n.children[i]? with _ | c
    · rfl
    · exact ih c

lemma at?_below {n m x : Node} {p q : List ℕ} (hm : n.at? p = some m) (hx : m.at? q = some x) :
    n.at? (p ++ q) = some x := by
  rw [at?_append, hm]
  exact hx

/-! ### Pre-order -/

mutual

/-- A node of the pre-order stands at its place. The sibling before it is a node of the tree, unless
it was there from the start. -/
lemma mem_preorder {p : List ℕ} {before : Option Node} {n : Node} {l : Located}
    (h : l ∈ preorder p before n) :
    ∃ q, l.place = p ++ q ∧ n.at? q = some l.node ∧
      ∀ x, l.before = some x → before = some x ∨ ∃ q', n.at? q' = some x := by
  match n with
  | .mk k s e t f cs =>
    rw [preorder, List.mem_cons] at h
    rcases h with rfl | h
    · exact ⟨[], by simp, rfl, fun x hx => .inl hx⟩
    · obtain ⟨j, c, q, hc, hplace, hnode, hbefore⟩ := mem_preorderList h
      refine ⟨j :: q, by simpa using hplace, by rw [at?, children, hc]; exact hnode, fun x hx => ?_⟩
      obtain h | ⟨j', c', q', hc', hx'⟩ := hbefore x hx
      · cases h
      · exact .inr ⟨j' :: q', by rw [at?, children, hc']; exact hx'⟩

lemma mem_preorderList {p : List ℕ} {i : ℕ} {before : Option Node} {ns : List Node} {l : Located}
    (h : l ∈ preorderList p i before ns) :
    ∃ (j : ℕ) (c : Node) (q : List ℕ), ns[j]? = some c ∧ l.place = p ++ (i + j) :: q ∧
      c.at? q = some l.node ∧ ∀ x, l.before = some x → before = some x ∨
        ∃ (j' : ℕ) (c' : Node) (q' : List ℕ), ns[j']? = some c' ∧ c'.at? q' = some x := by
  match ns with
  | [] => cases h
  | n :: r =>
    rw [preorderList, List.mem_append] at h
    rcases h with h | h
    · obtain ⟨q, hplace, hnode, hbefore⟩ := mem_preorder h
      refine ⟨0, n, q, rfl, by simpa using hplace, hnode, fun x hx => ?_⟩
      obtain h | ⟨q', hx'⟩ := hbefore x hx
      · exact .inl h
      · exact .inr ⟨0, n, q', rfl, hx'⟩
    · obtain ⟨j, c, q, hc, hplace, hnode, hbefore⟩ := mem_preorderList h
      refine ⟨j + 1, c, q, by simpa using hc, by rw [hplace]; congr 2; omega, hnode, fun x hx => ?_⟩
      obtain h | ⟨j', c', q', hc', hx'⟩ := hbefore x hx
      · exact .inr ⟨0, n, [], rfl, h⟩
      · exact .inr ⟨j' + 1, c', q', by simpa using hc', hx'⟩

end

lemma preorder_subset_preorderList (p : List ℕ) (i : ℕ) (before : Option Node) {ns : List Node}
    {j : ℕ} {c : Node} (hc : ns[j]? = some c) :
    ∃ before', preorder (p ++ [i + j]) before' c ⊆ preorderList p i before ns := by
  induction ns generalizing i j before with
  | nil => cases hc
  | cons n r ih =>
    cases j with
    | zero =>
      cases hc
      exact ⟨before, List.subset_append_left _ _⟩
    | succ j =>
      obtain ⟨before', h⟩ := ih (i + 1) (some n) (by simpa using hc)
      rw [Nat.add_right_comm, Nat.add_assoc] at h
      exact ⟨before', List.subset_append_of_subset_right _ h⟩

/-- Every node of the tree is in its pre-order. -/
lemma exists_mem_preorder (p : List ℕ) (before : Option Node) (n : Node) {q : List ℕ} {x : Node}
    (h : n.at? q = some x) : ∃ l ∈ preorder p before n, l.place = p ++ q ∧ l.node = x := by
  obtain ⟨k, s, e, t, f, cs⟩ := n
  induction q generalizing p before k s e t f cs with
  | nil =>
    cases h
    exact ⟨_, List.mem_cons_self .., by simp, rfl⟩
  | cons j q ih =>
    obtain ⟨⟨k', s', e', t', f', cs'⟩, hc, hx⟩ := Option.bind_eq_some_iff.mp h
    obtain ⟨before', hsub⟩ := preorder_subset_preorderList p 0 none hc
    obtain ⟨l, hl, hplace, hnode⟩ := ih (p ++ [0 + j]) before' k' s' e' t' f' cs' hx
    exact ⟨l, List.mem_cons_of_mem _ (hsub hl), by simpa using hplace, hnode⟩

mutual

/-- In pre-order the places grow. -/
lemma preorder_sorted (p : List ℕ) (before : Option Node) (n : Node) :
    (preorder p before n).Pairwise fun l l' => l.place < l'.place := by
  match n with
  | .mk k s e t f cs =>
    rw [preorder, List.pairwise_cons]
    refine ⟨fun l hl => ?_, preorderList_sorted p 0 none cs⟩
    obtain ⟨j, c, q, -, hplace, -⟩ := mem_preorderList hl
    rw [hplace]
    exact lt_below (by simp)

lemma preorderList_sorted (p : List ℕ) (i : ℕ) (before : Option Node) (ns : List Node) :
    (preorderList p i before ns).Pairwise fun l l' => l.place < l'.place := by
  match ns with
  | [] => exact List.Pairwise.nil
  | n :: r =>
    rw [preorderList, List.pairwise_append]
    refine ⟨preorder_sorted (p ++ [i]) before n, preorderList_sorted p (i + 1) (some n) r, ?_⟩
    intro l hl l' hl'
    obtain ⟨q, hplace, -⟩ := mem_preorder hl
    obtain ⟨j, c, q', -, hplace', -⟩ := mem_preorderList hl'
    rw [hplace, hplace']
    exact Left.lt ⟨p, i, i + 1 + j, q, q', by omega, by simp, rfl⟩

end

variable {root : Node}

lemma at?_of_mem_all {l : Located} (h : l ∈ root.all) : root.at? l.place = some l.node := by
  obtain ⟨q, hplace, hnode, -⟩ := mem_preorder h
  rwa [hplace]

lemma before_of_mem_all {l : Located} {x : Node} (h : l ∈ root.all) (hx : l.before = some x) :
    ∃ q, root.at? q = some x := by
  obtain ⟨-, -, -, hbefore⟩ := mem_preorder h
  obtain h | h := hbefore x hx
  · cases h
  · exact h

lemma exists_mem_all {q : List ℕ} {x : Node} (h : root.at? q = some x) :
    ∃ l ∈ root.all, l.place = q ∧ l.node = x :=
  exists_mem_preorder [] none root h

lemma all_sorted (root : Node) : root.all.Pairwise fun l l' => l.place < l'.place :=
  preorder_sorted [] none root

/-- A node of the pre-order is known by its place. -/
lemma eq_of_place_eq {l l' : Located} (hl : l ∈ root.all) (hl' : l' ∈ root.all)
    (h : l.place = l'.place) : l = l' := by
  have hnodup : (root.all.map Located.place).Nodup :=
    List.pairwise_map.mpr (root.all_sorted.imp fun h => h.ne)
  exact List.inj_on_of_nodup_map hnodup hl hl' h

/-- Every node of the tree satisfies a condition. -/
def Each (P : Node → Prop) (root : Node) : Prop := ∀ l ∈ root.all, P l.node

instance (P : Node → Prop) [DecidablePred P] (root : Node) : Decidable (root.Each P) :=
  inferInstanceAs (Decidable (∀ l ∈ root.all, P l.node))

section Each

variable {P : Node → Prop}

lemma Each.at {q : List ℕ} {x : Node} (h : root.Each P) (hx : root.at? q = some x) : P x := by
  obtain ⟨l, hl, -, rfl⟩ := exists_mem_all hx
  exact h l hl

lemma Each.subtree {q : List ℕ} {n : Node} (h : root.Each P) (hn : root.at? q = some n) :
    n.Each P :=
  fun _ hl => h.at (at?_below hn (at?_of_mem_all hl))

lemma Each.child {c : Node} (h : root.Each P) (hc : c ∈ root.children) : c.Each P := by
  obtain ⟨j, hj⟩ := List.getElem?_of_mem hc
  exact h.subtree (q := [j]) (by rw [at?, hj]; rfl)

lemma Each.here (h : root.Each P) : P root := h.at (q := []) rfl

end Each

end Node

/-! ### Spans -/

lemma Point.le_iff {a b : Point} :
    a.le b ↔ a.row < b.row ∨ a.row = b.row ∧ a.col ≤ b.col := by
  simp [Point.le]

lemma Point.le_refl (a : Point) : a.le a := by
  simp [Point.le_iff]

lemma Point.le_trans {a b c : Point} (hab : a.le b) (hbc : b.le c) : a.le c := by
  rw [Point.le_iff] at *
  omega

lemma Point.le_antisymm {a b : Point} (hab : a.le b) (hba : b.le a) : a = b := by
  obtain ⟨row, col⟩ := a
  obtain ⟨row', col'⟩ := b
  simp only [Point.le_iff] at hab hba
  rw [Point.mk.injEq]
  omega

namespace Node

lemma within_iff {n outer : Node} :
    n.within outer ↔ outer.start.le n.start ∧ n.stop.le outer.stop := by
  simp [within]

lemma within_trans {a b c : Node} (hab : a.within b) (hbc : b.within c) : a.within c := by
  rw [within_iff] at *
  exact ⟨Point.le_trans hbc.1 hab.1, Point.le_trans hab.2 hbc.2⟩

/-- The span of a node does not end before it starts and contains the spans of its children, which
are in order and do not overlap. -/
structure Neat (n : Node) : Prop where
  span : n.start.le n.stop
  inside : ∀ c ∈ n.children, c.within n
  ordered : n.children.Pairwise fun a b => a.stop.le b.start

instance : DecidablePred Neat := fun n =>
  decidable_of_iff (n.start.le n.stop ∧ (∀ c ∈ n.children, c.within n) ∧
      n.children.Pairwise fun a b => a.stop.le b.start)
    ⟨fun ⟨h, h', h''⟩ => ⟨h, h', h''⟩, fun h => ⟨h.span, h.inside, h.ordered⟩⟩

variable {root x y : Node} {p q : List ℕ}

/-- A node lies in the span of every node above it. -/
lemma within_of_below (h : root.Each Neat) (hx : root.at? q = some x) : x.within root := by
  induction q generalizing root with
  | nil =>
    cases hx
    exact within_iff.mpr ⟨Point.le_refl _, Point.le_refl _⟩
  | cons j q ih =>
    obtain ⟨c, hc, hx⟩ := Option.bind_eq_some_iff.mp hx
    have hmem : c ∈ root.children := List.mem_of_getElem? hc
    exact within_trans (ih (h.child hmem) hx) (h.here.inside c hmem)

lemma within_of_prefix (h : root.Each Neat) (hx : root.at? p = some x) (hy : root.at? q = some y)
    (hpq : p <+: q) : y.within x := by
  obtain ⟨r, rfl⟩ := hpq
  rw [at?_append, hx] at hy
  exact within_of_below (h.subtree hx) hy

/-- A node ends before those to its right begin. -/
lemma stop_le_of_left (h : root.Each Neat) (hx : root.at? p = some x) (hy : root.at? q = some y)
    (hpq : Left p q) : x.stop.le y.start := by
  obtain ⟨c, i, j, as, bs, hij, rfl, rfl⟩ := hpq
  rw [at?_append] at hx hy
  obtain ⟨n, hn, hx⟩ := Option.bind_eq_some_iff.mp hx
  obtain ⟨n', hn', hy⟩ := Option.bind_eq_some_iff.mp hy
  obtain rfl : n = n' := by simpa [hn] using hn'
  obtain ⟨a, ha, hx⟩ := Option.bind_eq_some_iff.mp hx
  obtain ⟨b, hb, hy⟩ := Option.bind_eq_some_iff.mp hy
  have hneat := h.subtree hn
  have hab : a.stop.le b.start := by
    obtain ⟨hi, rfl⟩ := List.getElem?_eq_some_iff.mp ha
    obtain ⟨hj, rfl⟩ := List.getElem?_eq_some_iff.mp hb
    exact List.pairwise_iff_getElem.mp hneat.here.ordered i j hi hj hij
  have hxa := within_iff.mp (within_of_below (hneat.child (List.mem_of_getElem? ha)) hx)
  have hyb := within_iff.mp (within_of_below (hneat.child (List.mem_of_getElem? hb)) hy)
  exact Point.le_trans hxa.2 (Point.le_trans hab hyb.1)

/-- In a neat tree one node lies in the span of another in four cases only: it is below the other,
it is above and has the same span, or it is beside the other and empty, where the other starts or
ends. -/
lemma within_iff_place (h : root.Each Neat) (hx : root.at? p = some x) (hy : root.at? q = some y) :
    y.within x ↔ p <+: q ∨ (q <+: p ∧ y.start = x.start ∧ y.stop = x.stop) ∨
      (Left q p ∧ y.start = x.start) ∨ (Left p q ∧ y.stop = x.stop) := by
  have hspan := (h.at hx).span
  have hspan' := (h.at hy).span
  constructor
  · intro hwithin
    obtain ⟨hstart, hstop⟩ := within_iff.mp hwithin
    rcases place_cases q p with hplace | hplace | hplace | hplace
    · -- each lies in the span of the other
      have hback := within_of_prefix h hy hx hplace
      obtain ⟨hstart', hstop'⟩ := within_iff.mp hback
      exact .inr (.inl ⟨hplace, Point.le_antisymm hstart' hstart, Point.le_antisymm hstop hstop'⟩)
    · exact .inl hplace
    · have hfront := Point.le_trans hspan' (stop_le_of_left h hy hx hplace)
      exact .inr (.inr (.inl ⟨hplace, Point.le_antisymm hfront hstart⟩))
    · have hbehind := Point.le_trans (stop_le_of_left h hx hy hplace) hspan'
      exact .inr (.inr (.inr ⟨hplace, Point.le_antisymm hstop hbehind⟩))
  · rintro (hplace | ⟨-, hstart, hstop⟩ | ⟨hplace, hstart⟩ | ⟨hplace, hstop⟩)
    · exact within_of_prefix h hx hy hplace
    · exact within_iff.mpr ⟨hstart ▸ Point.le_refl _, hstop ▸ Point.le_refl _⟩
    · exact within_iff.mpr ⟨hstart ▸ Point.le_refl _,
        Point.le_trans (stop_le_of_left h hy hx hplace) hspan⟩
    · exact within_iff.mpr ⟨Point.le_trans hspan (stop_le_of_left h hx hy hplace),
        hstop ▸ Point.le_refl _⟩

end Node

end SpecScribe.Syntax
