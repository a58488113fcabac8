import Mathlib
import SpecScribe.Analysis.Response
import SpecScribe.Proofs.Json.Extension
import SpecScribe.Proofs.Text.Splitting

/-!
An object inside an answer. Three ways of reading are tried in turn, and the second may cut the
object at a brace inside one of its texts. What is cut off is never JSON, so the third way, from
the first brace to the last, gets its turn and finds the object whole.
-/

namespace SpecScribe.Analysis

open Text Json

/-! ### The fenced block -/

lemma upToFence?_eq_some {r t : List Char} (h : upToFence? r = some t) :
    t <+: r ∧ t.getLast? = some '\x7d' := by
  induction r generalizing t with
  | nil => simp [upToFence?] at h
  | cons c r ih =>
    rw [upToFence?] at h
    split at h
    · next hc =>
      obtain rfl := Option.some.inj h
      have : c = '\x7d' := by simp at hc; exact hc.1
      subst this
      simp
    · obtain ⟨t', ht', rfl⟩ := Option.map_eq_some_iff.mp h
      obtain ⟨h1, h2⟩ := ih ht'
      refine ⟨(List.cons_prefix_cons).mpr ⟨rfl, h1⟩, ?_⟩
      rw [List.getLast?_cons, h2]; rfl

/-- A closing fence behind a part of the text is behind the text. -/
lemma upToFence?_append {a r t : List Char} (h : upToFence? r = some t) :
    ∃ t', upToFence? (a ++ r) = some t' := by
  induction a with
  | nil => exact ⟨t, h⟩
  | cons c a ih =>
    obtain ⟨t', ht'⟩ := ih
    rw [List.cons_append, upToFence?]
    split
    · exact ⟨_, rfl⟩
    · exact ⟨_, by rw [ht']; rfl⟩

lemma stripStart_append {w : List Char} (hw : isBlankText w) (r : List Char) :
    stripStart (w ++ r) = stripStart r := by
  unfold stripStart
  exact List.dropWhile_append_of_pos fun c hc => List.all_eq_true.mp hw c hc

lemma stripStart_eq_brace {t r : List Char} (h : stripStart t = '\x7b' :: r) :
    ∃ w, isBlankText w ∧ t = w ++ '\x7b' :: r := by
  refine ⟨t.takeWhile isBlank, List.all_eq_true.mpr fun c => List.mem_takeWhile_imp, ?_⟩
  rw [← h, stripStart, List.takeWhile_append_dropWhile]

/-- A fence, blanks and an opening brace: the object goes up to the closing fence. -/
lemma objectInFence?_fence {w : List Char} (hw : isBlankText w) (r : List Char) :
    objectInFence? (openingFence ++ w ++ '\x7b' :: r) = (upToFence? r).map ('\x7b' :: ·) := by
  have hafter : after? openingFence (openingFence ++ w ++ '\x7b' :: r) = some (w ++ '\x7b' :: r) :=
    after?_eq_some.mpr (List.append_assoc _ _ _)
  have hstrip : stripStart (w ++ '\x7b' :: r) = '\x7b' :: r := by
    rw [stripStart_append hw]
    exact List.dropWhile_cons_of_neg (by decide)
  rw [objectInFence?, hafter]
  simp only [hstrip]

lemma objectInFence?_eq_some {x t : List Char} (h : objectInFence? x = some t) :
    ∃ w r t', isBlankText w ∧ x = openingFence ++ w ++ '\x7b' :: r ∧ upToFence? r = some t' ∧
      t = '\x7b' :: t' := by
  unfold objectInFence? at h
  split at h
  · simp at h
  next r hr =>
  split at h
  · next r' hr' =>
    obtain ⟨t', ht', rfl⟩ := Option.map_eq_some_iff.mp h
    obtain ⟨w, hw, rfl⟩ := stripStart_eq_brace hr'
    exact ⟨w, r', t', hw, by rw [after?_eq_some.mp hr, List.append_assoc], ht', rfl⟩
  · simp at h

/-- The object found is that of the leftmost block: no block starts before it. -/
lemma fenced?_eq_some {x t : List Char} (h : fenced? x = some t) :
    ∃ a y, x = a ++ y ∧ objectInFence? y = some t ∧
      ∀ a₁ a₂, a = a₁ ++ a₂ → a₂ ≠ [] → objectInFence? (a₂ ++ y) = none := by
  induction x with
  | nil => simp [fenced?] at h
  | cons c r ih =>
    rw [fenced?] at h
    rcases ho : objectInFence? (c :: r) with _ | o
    · rw [ho] at h
      obtain ⟨a, y, rfl, hy, hfirst⟩ := ih h
      refine ⟨c :: a, y, rfl, hy, fun a₁ a₂ ha hn => ?_⟩
      rcases a₁ with _ | ⟨c', a₁⟩
      · rw [← List.nil_append a₂, ← ha]; exact ho
      · exact hfirst a₁ a₂ (List.cons.inj ha).2 hn
    · rw [ho] at h
      refine ⟨[], c :: r, rfl, ho.trans h, fun a₁ a₂ ha hn => ?_⟩
      exact absurd (List.append_eq_nil_iff.mp ha.symm).2 hn

/-! ### An object between texts without braces -/

section Between

variable {p r q : List Char}

lemma brace_notMem_fence {w : List Char} (hw : isBlankText w) : '\x7b' ∉ openingFence ++ w := by
  rw [List.mem_append, not_or]
  refine ⟨by decide, fun h => ?_⟩
  have : isBlank '\x7b' := List.all_eq_true.mp hw _ h
  exact absurd this (by decide)

/-- A part without an opening brace that ends the text before an opening brace stands whole behind
the brace before it. -/
lemma behind_brace {a f c : List Char} (hf : '\x7b' ∉ f) (h : a ++ f = p ++ '\x7b' :: c) :
    ∃ c', a = p ++ '\x7b' :: c' ∧ c = c' ++ f := by
  have h' : a ++ f = (p ++ ['\x7b']) ++ c := by simpa using h
  rcases List.append_eq_append_iff.mp h' with ⟨d, hd, rfl⟩ | ⟨d, rfl, rfl⟩
  · rcases List.eq_nil_or_concat d with rfl | ⟨d', x, rfl⟩
    · exact ⟨[], by simpa using hd.symm, by simp⟩
    · have hx : '\x7b' = x := by
        have := congrArg List.getLast? hd
        simpa [← List.append_assoc] using this
      simp [← hx] at hf
  · exact ⟨d, by simp, rfl⟩

lemma prefix_of_prefix_append {t : List Char} (hq : '\x7d' ∉ q) (ht : t.getLast? = some '\x7d')
    (h : t <+: r ++ q) : t <+: r := by
  rcases List.prefix_or_prefix_of_prefix h (List.prefix_append r q) with h' | ⟨d, rfl⟩
  · exact h'
  rcases List.eq_nil_or_concat d with rfl | ⟨d', x, rfl⟩
  · simp
  · have hx : x = '\x7d' := by simpa [← List.append_assoc] using ht
    have hd : x ∈ q := ((List.prefix_append_right_inj r).mp h).subset (by simp)
    exact absurd (hx ▸ hd) hq

/-- No block that opens inside the object is the first one: the object has no opening fence, or
the fence before the object opens a block that the same closing fence ends. -/
lemma no_block_inside {a w c r' t' : List Char} (hq : '\x7b' ∉ q)
    (hf : ¬ openingFence <:+: '\x7b' :: r ∨ ∃ a w, p = a ++ openingFence ++ w ∧ isBlankText w)
    (hw : isBlankText w) (ha : a ++ (openingFence ++ w) = p ++ '\x7b' :: c)
    (hr : r ++ q = c ++ '\x7b' :: r') (ht : upToFence? r' = some t')
    (hfirst : ∀ a₁ a₂, a = a₁ ++ a₂ → a₂ ≠ [] →
      objectInFence? (a₂ ++ (openingFence ++ w ++ '\x7b' :: r')) = none) : False := by
  obtain ⟨c', rfl, rfl⟩ := behind_brace (brace_notMem_fence hw) ha
  rcases hf with hf | ⟨a₀, w₀, rfl, hw₀⟩
  · apply hf
    rcases List.append_eq_append_iff.mp hr with ⟨d, -, rfl⟩ | ⟨d, rfl, -⟩
    · simp at hq
    · exact ⟨'\x7b' :: c', w ++ d, by simp⟩
  · have h := hfirst a₀ (openingFence ++ w₀ ++ '\x7b' :: c') (by simp) (by simp)
    obtain ⟨t'', ht''⟩ := upToFence?_append (a := c' ++ (openingFence ++ w ++ ['\x7b'])) ht
    have he := objectInFence?_fence hw₀ (c' ++ (openingFence ++ w ++ '\x7b' :: r'))
    simp only [List.append_assoc, List.cons_append, List.nil_append] at h ht'' he
    rw [he, ht''] at h
    simp at h

/-- What is found in a fenced block is a start of the object. -/
lemma fenced?_between {t : List Char} (hp : '\x7b' ∉ p) (hq : '\x7b' ∉ q) (hq' : '\x7d' ∉ q)
    (hf : ¬ openingFence <:+: '\x7b' :: r ∨ ∃ a w, p = a ++ openingFence ++ w ∧ isBlankText w)
    (h : fenced? (p ++ '\x7b' :: (r ++ q)) = some t) :
    ∃ t', t = '\x7b' :: t' ∧ t' <+: r ∧ t'.getLast? = some '\x7d' := by
  obtain ⟨a, y, hx, hy, hfirst⟩ := fenced?_eq_some h
  obtain ⟨w, r', t', hw, rfl, ht', rfl⟩ := objectInFence?_eq_some hy
  obtain ⟨hpre, hlast⟩ := upToFence?_eq_some ht'
  refine ⟨t', rfl, prefix_of_prefix_append hq' hlast ?_, hlast⟩
  -- the brace behind the fence is the one that opens the object
  suffices hr : r' = r ++ q by rwa [← hr]
  rw [← List.append_assoc] at hx
  rcases List.append_eq_append_iff.mp hx with ⟨d, ha, hd⟩ | ⟨d, rfl, hd⟩
  · rcases d with _ | ⟨x, c⟩
    · simpa using hd.symm
    · obtain ⟨rfl, hr⟩ := List.cons.inj hd
      exact (no_block_inside hq hf hw ha hr ht' hfirst).elim
  · rcases d with _ | ⟨x, c⟩
    · simpa using hd
    · obtain ⟨rfl, -⟩ := List.cons.inj hd
      simp at hp

/-- From the first brace to the last: the object. -/
lemma braced?_between (hp : '\x7b' ∉ p) (hq : '\x7d' ∉ q)
    (hlast : ('\x7b' :: r).getLast? = some '\x7d') :
    braced? (p ++ '\x7b' :: (r ++ q)) = some ('\x7b' :: r) := by
  have hfront : (p ++ '\x7b' :: (r ++ q)).dropWhile (· != '\x7b') = '\x7b' :: r ++ q := by
    rw [List.dropWhile_append_of_pos fun c hc => by
      simpa using fun h : c = '\x7b' => hp (h ▸ hc)]
    simp
  have hback : dropEndWhile (· != '\x7d') ('\x7b' :: r ++ q) = '\x7b' :: r := by
    obtain ⟨d, hd⟩ : ∃ d, '\x7b' :: r = d ++ ['\x7d'] := List.getLast?_eq_some_iff.mp hlast
    rw [dropEndWhile, hd, List.reverse_append, List.dropWhile_append_of_pos fun c hc => by
      simpa using fun h : c = '\x7d' => hq (h ▸ List.mem_reverse.mp hc)]
    simp
  simp only [braced?, hfront, hback]

end Between

/-! ### The answer -/

lemma attempt_ok {t : List Char} {d : Datum} {next : Except Fault Datum} (h : read t = .ok d) :
    attempt (some t) next = .ok d := by
  simp only [attempt, h]

lemma attempt_malformed {t : List Char} {c : Cause} {n : ℕ} {next : Except Fault Datum}
    (h : read t = .error (.malformed c n)) : attempt (some t) next = next := by
  simp only [attempt, h]

lemma attempt_digits {t : List Char} {n : ℕ} {next : Except Fault Datum}
    (h : read t = .error (.tooManyDigits n)) :
    attempt (some t) next = .error (Fault.tooManyDigits n) := by
  simp only [attempt, h, Fault.ofJson]

/-- **An embedded object is recovered.** An object between texts without braces, in an answer that
is not JSON as a whole, is what the answer is read as, whatever its texts hold. The opening fence
may stand in the object only if another one stands before it. -/
theorem parseResponse_embedded {p s q : String} {ms : Members} {c : Cause} {n : ℕ}
    (hfirst : s.toList.head? = some '\x7b') (hlast : s.toList.getLast? = some '\x7d')
    (hs : read s.toList = .ok (.record ms))
    (hp : '\x7b' ∉ p.toList) (hq : '\x7b' ∉ q.toList ∧ '\x7d' ∉ q.toList)
    (hwhole : read (p ++ s ++ q).toList = .error (.malformed c n))
    (hf : contains openingFence s.toList = false ∨
      ∃ a w, p.toList = a ++ openingFence ++ w ∧ isBlankText w) :
    parseResponse (.text (p ++ s ++ q)) = .ok (.record ms) := by
  obtain ⟨r, hr⟩ : ∃ r, s.toList = '\x7b' :: r := List.head?_eq_some_iff.mp hfirst
  have htext : (p ++ s ++ q).toList = p.toList ++ '\x7b' :: (r ++ q.toList) := by simp [hr]
  rw [hr] at hlast hs hf
  have hf' : ¬ openingFence <:+: '\x7b' :: r ∨
      ∃ a w, p.toList = a ++ openingFence ++ w ∧ isBlankText w :=
    hf.imp_left fun h => by rw [← contains_iff (by decide), h]; decide
  rw [parseResponse, parseText, attempt_malformed hwhole, htext,
    braced?_between hp hq.2 hlast, attempt_ok hs]
  rcases ht : fenced? (p.toList ++ '\x7b' :: (r ++ q.toList)) with _ | t
  · rfl
  obtain ⟨t', rfl, ⟨u, rfl⟩, hcut⟩ := fenced?_between hp hq.1 hq.2 hf' ht
  by_cases hu : u = []
  · subst hu
    rw [List.append_nil] at hs
    exact attempt_ok hs
  -- the block was cut short inside the object
  have hclosed : Closed ('\x7b' :: (t' ++ u)) := fun x hx => by
    rw [hlast] at hx; exact (Option.some.inj hx).symm
  have ht' : Closed ('\x7b' :: t') := fun x hx => by
    rw [List.getLast?_cons, hcut] at hx; exact (Option.some.inj hx).symm
  obtain ⟨c, n, hmal⟩ := read_start_malformed ht'
    (hclosed.suffix ((List.suffix_append t' u).trans (List.suffix_cons _ _))) hu hs
  exact attempt_malformed hmal

/-- The object holds a brace before a closing fence, where the fenced block is cut short. -/
theorem parseResponse_embedded_cut :
    parseResponse (.text ("Result:\n```json\n" ++ "\x7b\"a\": \"\x7d```\"\x7d" ++ "\n```\nDone."))
      = .ok (.record [("a", .text "\x7d```")]) :=
  parseResponse_embedded (c := .value) (n := 0) (by decide) (by decide) (by cbv) (by decide)
    (by decide) (by cbv) (.inr ⟨"Result:\n".toList, ['\n'], by decide, by decide⟩)

/-- A number of more digits than allowed, with an object right behind it. -/
lemma read_ones (k : ℕ) (hk : 4300 ≤ k) (r : List Char) :
    Json.read (List.replicate (k + 1) '1' ++ '\x7b' :: r) = .error (.tooManyDigits (k + 1)) := by
  set t := List.replicate (k + 1) '1' ++ '\x7b' :: r with ht
  have hcons : t = '1' :: (List.replicate k '1' ++ '\x7b' :: r) := rfl
  have hdigits : wholeDigits t = List.replicate (k + 1) '1' := by
    have hrun : wholeDigits t = t.takeWhile Char.isDigit := rfl
    rw [hrun, ht, List.takeWhile_append_of_pos fun c hc => by
      rw [List.eq_of_mem_replicate hc]; decide]
    rw [List.takeWhile_cons_of_neg (by decide), List.append_nil]
  have hspace : Input.skipSpace ⟨0, t⟩ = ⟨0, t⟩ := rfl
  have hnumber : ∀ fuel, readValue (fuel + 1) ⟨0, t⟩ = readDigits false t ⟨0, t⟩ := by
    intro fuel
    rw [hcons, readValue, readScalar]
    rfl
  have hstop : readDigits false t ⟨0, t⟩ = .error (.tooManyDigits (k + 1)) := by
    have hbehind : t.drop (k + 1) = '\x7b' :: r := by simp [ht]
    have hlong : k + 1 > 4300 := by omega
    simp only [readDigits, hdigits, List.length_replicate, hbehind]
    simp [fractionDigits, exponentPart, hlong]
  have hmark : (t.head? == some (Char.ofNat 0xFEFF)) = false := by
    rw [hcons, List.head?_cons]; decide
  rw [Json.read, hmark, hspace, hnumber, hstop]
  rfl

/-- An answer that is refused for a number of too many digits, and not as malformed, is not read
further, though an object stands in it. -/
theorem parseResponse_long_number :
    ∃ p s q : String, s.toList.head? = some '\x7b' ∧ s.toList.getLast? = some '\x7d' ∧
      Json.read s.toList = .ok (.record []) ∧
      ('\x7b' ∉ p.toList ∧ '\x7d' ∉ p.toList) ∧ ('\x7b' ∉ q.toList ∧ '\x7d' ∉ q.toList) ∧
      (∀ d, Json.read (p ++ s ++ q).toList ≠ .ok d) ∧
      contains openingFence s.toList = false ∧
      parseResponse (.text (p ++ s ++ q)) ≠ .ok (.record []) := by
  have htext : (String.ofList (List.replicate 4301 '1') ++ "\x7b\x7d" ++ "").toList
      = List.replicate (4300 + 1) '1' ++ '\x7b' :: ['\x7d'] := by
    rw [String.toList_append, String.toList_append, String.toList_ofList, List.append_assoc]
    rfl
  have hread := read_ones 4300 le_rfl ['\x7d']
  rw [← htext] at hread
  have hones : ∀ c, c ≠ '1' → c ∉ (String.ofList (List.replicate 4301 '1')).toList := by
    intro c hc h
    rw [String.toList_ofList] at h
    exact hc (List.eq_of_mem_replicate h)
  refine ⟨String.ofList (List.replicate 4301 '1'), "\x7b\x7d", "", by decide, by decide, by cbv,
    ⟨hones _ (by decide), hones _ (by decide)⟩, by decide, fun d => ?_, by decide, ?_⟩
  · rw [hread]; simp
  · rw [parseResponse, parseText, attempt_digits hread]; simp

end SpecScribe.Analysis
