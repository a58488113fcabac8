import Mathlib
import SpecScribe.Json.Parser

/-!
Reading a text that goes on. A reader that stops inside a text whose last character is a closing
brace has seen where its value ends, so that more text behind the brace changes nothing: neither
the value nor a number with too many digits. Hence no proper start of an object, cut at a
closing brace, is JSON itself.
-/

namespace SpecScribe.Json

/-- Nothing, or a text that ends in a closing brace. -/
def Closed (t : List Char) : Prop := ∀ c, t.getLast? = some c → c = '\x7d'

/-- The same place in a longer text. -/
def Input.more (i : Input) (u : List Char) : Input := ⟨i.offset, i.rest ++ u⟩

/-- What a reader gave for `rest` settles what it gives for the longer text: a value leaves the
same rest with `u` behind it. Nothing is said about a text that is not JSON. -/
inductive Extends {α : Type} (u rest : List Char) : Result α → Result α → Prop
  | malformed {c : Cause} {n : ℕ} {y : Result α} : Extends u rest (.error (.malformed c n)) y
  | digits (n : ℕ) : Extends u rest (.error (.tooManyDigits n)) (.error (.tooManyDigits n))
  | ok {v : α} {i : Input} (h : i.rest <:+ rest) : Extends u rest (.ok (v, i)) (.ok (v, i.more u))

variable {u : List Char}

lemma Closed.suffix {s t : List Char} (h : Closed t) (hs : s <:+ t) : Closed s := by
  obtain ⟨a, rfl⟩ := hs
  intro c hc
  exact h c (by rw [List.getLast?_append, hc]; rfl)

lemma Closed.tail {c : Char} {t : List Char} (h : Closed (c :: t)) : Closed t :=
  h.suffix (List.suffix_cons c t)

lemma Closed.ne_nil {c : Char} {t : List Char} (h : Closed (c :: t)) (hc : c ≠ '\x7d') :
    t ≠ [] := by
  rintro rfl
  exact hc (h c rfl)

lemma Closed.mem {t : List Char} (h : Closed t) (hn : t ≠ []) : '\x7d' ∈ t := by
  have := h _ (List.getLast?_eq_some_getLast hn)
  exact this ▸ List.getLast_mem hn

@[simp] lemma more_rest (i : Input) : (i.more u).rest = i.rest ++ u := rfl

@[simp] lemma more_offset (i : Input) : (i.more u).offset = i.offset := rfl

@[simp] lemma skip_rest (i : Input) (n : ℕ) : (i.skip n).rest = i.rest.drop n := rfl

lemma more_skip (i : Input) {n : ℕ} (h : n ≤ i.rest.length) :
    (i.more u).skip n = (i.skip n).more u := by
  simp [Input.skip, Input.more, List.drop_append_of_le_length h]

@[simp] lemma extends_fail {α : Type} {rest : List Char} {c : Cause} {n : ℕ} {y : Result α} :
    Extends u rest (fail c n) y := .malformed

lemma Extends.map {α β : Type} {rest : List Char} {x y : Result α} (f : α → β)
    (h : Extends u rest x y) :
    Extends u rest (x.map fun (a, i) => (f a, i)) (y.map fun (a, i) => (f a, i)) := by
  cases h with
  | malformed => exact .malformed
  | digits n => exact .digits n
  | ok h => exact .ok h

lemma Extends.suffix {α : Type} {s t : List Char} {x y : Result α} (h : Extends u s x y)
    (hs : s <:+ t) : Extends u t x y := by
  cases h with
  | malformed => exact .malformed
  | digits n => exact .digits n
  | ok h => exact .ok (h.trans hs)

/-! ### Runs of characters -/

section Runs

variable {p : Char → Bool} {t : List Char}

/-- A run of characters other than the brace ends before the text does. -/
lemma takeWhile_append_closed (hp : p '\x7d' = false) (ht : Closed t) (hn : t ≠ []) :
    (t ++ u).takeWhile p = t.takeWhile p := by
  induction t with
  | nil => exact absurd rfl hn
  | cons c r ih =>
    by_cases hc : p c
    · have hr : r ≠ [] := ht.ne_nil (by rintro rfl; simp [hp] at hc)
      simp [hc, ih ht.tail hr]
    · simp [hc]

lemma length_takeWhile_lt (hp : p '\x7d' = false) (ht : Closed t) (hn : t ≠ []) :
    (t.takeWhile p).length < t.length := by
  refine lt_of_le_of_ne (List.takeWhile_prefix p).length_le fun h => ?_
  have hall : ∀ c ∈ t, p c := by
    rw [← (List.takeWhile_prefix p).eq_of_length h]
    exact fun c => List.mem_takeWhile_imp
  simpa [hp] using hall _ (ht.mem hn)

end Runs

lemma rest_skipSpace_nil {i : Input} (h : i.rest = []) : i.skipSpace.rest = [] := by
  simp [Input.skipSpace, h]

lemma skipSpace_suffix (i : Input) : i.skipSpace.rest <:+ i.rest := List.drop_suffix _ _

lemma more_skipSpace {i : Input} (hc : Closed i.rest) (hn : i.rest ≠ []) :
    (i.more u).skipSpace = i.skipSpace.more u := by
  have hrun := takeWhile_append_closed (u := u) (p := isSpace) (by decide) hc hn
  rw [Input.skipSpace, more_rest, hrun]
  exact more_skip i (length_takeWhile_lt (by decide) hc hn).le

/-! ### Numbers and words -/

lemma fractionDigits_append {b : List Char} (hc : Closed b) (hn : b ≠ []) :
    fractionDigits (b ++ u) = fractionDigits b := by
  rcases b with _ | ⟨c, r⟩
  · exact absurd rfl hn
  · by_cases h : c = '.'
    · subst h
      exact takeWhile_append_closed (by decide) hc.tail (hc.ne_nil (by decide))
    · simp [fractionDigits, h]

/-- The characters of a fraction and its point end before the text does. -/
lemma fractionSize_lt {b : List Char} (hc : Closed b) (hn : b ≠ []) :
    (if (fractionDigits b).isEmpty then 0 else (fractionDigits b).length + 1) < b.length := by
  rcases b with _ | ⟨c, r⟩
  · exact absurd rfl hn
  · by_cases h : c = '.'
    · subst h
      have hlt : (fractionDigits ('.' :: r)).length < r.length :=
        length_takeWhile_lt (by decide) hc.tail (hc.ne_nil (by decide))
      split
      · simp
      · simpa using hlt
    · simp [fractionDigits, h]

lemma exponentPart_cons (e : Char) (r : List Char) :
    exponentPart (e :: r) =
      if e == 'e' || e == 'E' then
        let ds := (exponentSign r).2.2.takeWhile Char.isDigit
        if ds.isEmpty then (0, 0)
        else (if (exponentSign r).1 then -(natOf ds : Int) else natOf ds,
          1 + (exponentSign r).2.1 + ds.length)
      else (0, 0) := by
  rfl

lemma exponentSign_append {r : List Char} (hc : Closed r) (hn : r ≠ []) :
    ∃ neg k b, exponentSign r = (neg, k, b) ∧ exponentSign (r ++ u) = (neg, k, b ++ u) ∧
      Closed b ∧ b ≠ [] ∧ k + b.length = r.length := by
  rcases r with _ | ⟨c, r⟩
  · exact absurd rfl hn
  · by_cases hm : c = '-'
    · subst hm
      exact ⟨true, 1, r, rfl, rfl, hc.tail, hc.ne_nil (by decide), by simp [Nat.add_comm]⟩
    by_cases hp : c = '+'
    · subst hp
      exact ⟨false, 1, r, rfl, rfl, hc.tail, hc.ne_nil (by decide), by simp [Nat.add_comm]⟩
    · exact ⟨false, 0, c :: r, by simp [exponentSign, hm, hp], by simp [exponentSign, hm, hp],
        hc, by simp, by simp⟩

lemma exponentPart_append {b : List Char} (hc : Closed b) (hn : b ≠ []) :
    exponentPart (b ++ u) = exponentPart b ∧ (exponentPart b).2 ≤ b.length := by
  rcases b with _ | ⟨e, r⟩
  · exact absurd rfl hn
  · rw [List.cons_append, exponentPart_cons, exponentPart_cons]
    by_cases he : (e == 'e' || e == 'E')
    · have hr : r ≠ [] := hc.ne_nil (by rintro rfl; simp at he)
      obtain ⟨neg, k, b, h1, h2, hcb, hnb, hlen⟩ := exponentSign_append (u := u) hc.tail hr
      have hrun := takeWhile_append_closed (u := u) (p := Char.isDigit) (by decide) hcb hnb
      have hlt := length_takeWhile_lt (p := Char.isDigit) (by decide) hcb hnb
      simp only [he, h1, h2, hrun, if_true, true_and, List.length_cons]
      split
      · simp
      · simp only []; omega
    · simp [he]

lemma wholeDigits_append {b : List Char} (hc : Closed b) (hn : b ≠ []) :
    wholeDigits (b ++ u) = wholeDigits b ∧ (wholeDigits b).length < b.length := by
  rcases b with _ | ⟨c, r⟩
  · exact absurd rfl hn
  · by_cases h : c = '0'
    · subst h
      exact ⟨rfl, by simpa [wholeDigits] using List.length_pos_iff.mpr (hc.ne_nil (by decide))⟩
    · have hw : ∀ r, wholeDigits (c :: r) = (c :: r).takeWhile Char.isDigit := by
        intro r; simp [wholeDigits, h]
      rw [List.cons_append, hw, hw, ← List.cons_append]
      exact ⟨takeWhile_append_closed (by decide) hc hn, length_takeWhile_lt (by decide) hc hn⟩

lemma readDigits_more (negative : Bool) {body : List Char} {i : Input} (hc : Closed body)
    (hn : body ≠ []) (hlen : i.rest.length = (if negative then 1 else 0) + body.length) :
    Extends u i.rest (readDigits negative body i)
      (readDigits negative (body ++ u) (i.more u)) := by
  obtain ⟨hw, hwlt⟩ := wholeDigits_append (u := u) hc hn
  set whole := wholeDigits body with hwhole
  -- what is left behind each part is still closed and not empty
  have hbc : Closed (body.drop whole.length) := hc.suffix (List.drop_suffix _ _)
  have hbn : body.drop whole.length ≠ [] := by simpa using hwlt
  have hb : (body ++ u).drop whole.length = body.drop whole.length ++ u :=
    List.drop_append_of_le_length hwlt.le
  set behind := body.drop whole.length with hbehind
  have hf := fractionDigits_append (u := u) hbc hbn
  have hflt := fractionSize_lt hbc hbn
  set fs := fractionDigits behind with hfs
  set fsize := if fs.isEmpty then 0 else fs.length + 1 with hfsize
  have hd : (behind ++ u).drop fsize = behind.drop fsize ++ u :=
    List.drop_append_of_le_length hflt.le
  obtain ⟨he, hele⟩ := exponentPart_append (u := u) (hbc.suffix (List.drop_suffix fsize _))
    (by simpa using hflt)
  have hskip := more_skip (u := u) i
    (n := (if negative then 1 else 0) + whole.length + fsize + (exponentPart (behind.drop fsize)).2)
    (by
      have h1 : behind.length = body.length - whole.length := List.length_drop
      have h2 : (behind.drop fsize).length = behind.length - fsize := List.length_drop
      omega)
  unfold readDigits
  simp only [hw, hb, hf, hd, he, hskip, ← hwhole, ← hbehind, ← hfs, ← hfsize]
  split
  · exact .malformed
  split
  · split
    · exact .digits _
    · exact .ok (List.drop_suffix _ _)
  · exact .ok (List.drop_suffix _ _)

lemma readNumber_more {i : Input} (hc : Closed i.rest) (hn : i.rest ≠ []) :
    Extends u i.rest (readNumber i) (readNumber (i.more u)) := by
  obtain ⟨o, _ | ⟨c, r⟩⟩ := i
  · exact absurd rfl hn
  · by_cases h : c = '-'
    · subst h
      exact readDigits_more true (i := ⟨o, '-' :: r⟩) hc.tail (hc.ne_nil (by decide))
        (by simp [Nat.add_comm])
    · have hplain : ∀ r, readNumber ⟨o, c :: r⟩ = readDigits false (c :: r) ⟨o, c :: r⟩ := by
        intro r; simp [readNumber, h]
      rw [hplain, Input.more, List.cons_append, hplain]
      exact readDigits_more false (i := ⟨o, c :: r⟩) hc hn (by simp)

/-- A word without a brace that starts the longer text starts the text itself. -/
lemma isPrefixOf_append_closed {w t : List Char} (hw : '\x7d' ∉ w) (hc : Closed t) (hn : t ≠ []) :
    w.isPrefixOf (t ++ u) = w.isPrefixOf t := by
  rw [Bool.eq_iff_iff, List.isPrefixOf_iff_prefix, List.isPrefixOf_iff_prefix]
  refine ⟨fun h => ?_, fun h => h.trans (List.prefix_append t u)⟩
  rcases List.prefix_or_prefix_of_prefix h (List.prefix_append t u) with h' | h'
  · exact h'
  · exact absurd (h'.subset (hc.mem hn)) hw

lemma brace_notMem_word : ∀ w ∈ wordValues, '\x7d' ∉ w.1.toList := by
  simp [wordValues]

lemma wordAt?_append {t : List Char} (hc : Closed t) (hn : t ≠ []) :
    wordAt? (t ++ u) = wordAt? t :=
  List.find?_congr fun w hw => isPrefixOf_append_closed (brace_notMem_word w hw) hc hn

lemma length_le_of_wordAt? {t : List Char} {w : String} {v : Datum} (h : wordAt? t = some (w, v)) :
    w.length ≤ t.length := by
  unfold wordAt? at h
  have hp := List.find?_some h
  rw [← String.length_toList]
  exact (List.isPrefixOf_iff_prefix.mp hp).length_le

lemma readScalar_more {i : Input} (hc : Closed i.rest) :
    Extends u i.rest (readScalar i) (readScalar (i.more u)) := by
  by_cases hn : i.rest = []
  · obtain ⟨o, _ | ⟨c, r⟩⟩ := i
    · exact .malformed
    · simp at hn
  unfold readScalar
  rw [more_rest, wordAt?_append hc hn]
  rcases h : wordAt? i.rest with _ | ⟨w, v⟩
  · exact readNumber_more hc hn
  · simp only [more_skip i (length_le_of_wordAt? h)]
    exact .ok (List.drop_suffix _ _)

/-! ### Texts -/

lemma hex4?_append {t : List Char} (h : 4 < t.length) : hex4? (t ++ u) = hex4? t := by
  match t, h with
  | a :: b :: c :: d :: e :: r, _ => rfl

/-- Characters that were read already are dropped. -/
lemma textBody_skip (start n o : ℕ) (r : List Char) :
    textBody start n o r = textBody start 0 (o + n) (r.drop n) := by
  induction n generalizing o r with
  | zero => rfl
  | succ n ih =>
    cases r with
    | nil => simp [textBody]
    | cons c r =>
      rw [textBody, ih, List.drop_succ_cons]
      congr 1
      omega

/-- A second escape of a pair that is cut short cannot be read on its own either. -/
lemma textBody_short_escape {start o : ℕ} {r : List Char} (h : r.length ≤ 4) :
    textBody start 0 o ('\\' :: 'u' :: r) = fail .unicodeEscape (o + 1) := by
  simp [textBody, unicodeEscape, h, fail]

/-- An escape means the same in the longer text, provided the text behind it can be read. -/
lemma unicodeEscape_append {start o o' n : ℕ} {r : List Char} {ch : Char} {x : List Char × Input}
    (he : unicodeEscape r o = .ok (ch, n)) (hx : textBody start 0 o' (r.drop n) = .ok x) :
    unicodeEscape (r ++ u) o = .ok (ch, n) := by
  unfold unicodeEscape at he ⊢
  by_cases hlen : r.length ≤ 4
  · simp [hlen, fail] at he
  have hlen' : 4 < r.length := by omega
  have hlong : ¬ (r ++ u).length ≤ 4 := by simp; omega
  rw [if_neg hlen] at he
  rw [if_neg hlong, hex4?_append hlen']
  rcases hh : hex4? r with _ | high
  · simp [hh, fail] at he
  simp only [hh] at he ⊢
  rw [List.drop_append_of_le_length hlen'.le]
  have hrest : r.drop 4 ≠ [] := by simpa using hlen'
  rcases hr : r.drop 4 with _ | ⟨a, b⟩
  · exact absurd hr hrest
  rw [hr] at he
  by_cases ha : a = '\\'
  swap
  · simpa [ha] using he
  subst ha
  rcases b with _ | ⟨b, more⟩
  · -- a lone backslash at the end: nothing behind the escape can be read
    obtain ⟨-, rfl⟩ : unitChar high = ch ∧ 4 = n := by simpa using he
    rw [hr] at hx
    simp [textBody, fail] at hx
  by_cases hb : b = 'u'
  swap
  · simpa [hb] using he
  subst hb
  by_cases hm : more.length ≤ 4
  · have hn : n = 4 := by
      have hm' : ¬ 4 < more.length := by omega
      simp only [gt_iff_lt, hm', decide_false, Bool.and_false] at he
      simpa [eq_comm] using (Prod.mk.inj (Except.ok.inj he)).2
    subst hn
    rw [hr, textBody_short_escape hm] at hx
    simp [fail] at hx
  · have hm' : 4 < more.length := by omega
    have hmu : 4 < more.length + u.length := by omega
    simpa [hm', hmu, hex4?_append hm'] using he

lemma exists_of_map_ok {α β : Type} {x : Except Stop α} {f : α → β} {b : β}
    (h : x.map f = .ok b) : ∃ a, x = .ok a ∧ f a = b := by
  rcases x with _ | a
  · simp [Except.map] at h
  · exact ⟨a, rfl, by simpa [Except.map] using h⟩

lemma error_of_map_error {α β : Type} {x : Except Stop α} {f : α → β} {e : Stop}
    (h : x.map f = .error e) : x = .error e := by
  rcases x with _ | a
  · simpa [Except.map] using h
  · simp [Except.map] at h

lemma textBody_append {start skip o : ℕ} {r cs : List Char} {i : Input}
    (h : textBody start skip o r = .ok (cs, i)) :
    textBody start skip o (r ++ u) = .ok (cs, i.more u) ∧ i.rest <:+ r := by
  fun_induction textBody start skip o r generalizing cs i with
  | case1 => simp [fail] at h
  | case2 o skip c r ih =>
    obtain ⟨h1, h2⟩ := ih h
    exact ⟨by rw [List.cons_append, textBody, h1], h2.trans (List.suffix_cons c r)⟩
  | case3 o c r hc =>
    obtain ⟨rfl, rfl⟩ : [] = cs ∧ (⟨o + 1, r⟩ : Input) = i := by simpa using h
    exact ⟨by rw [List.cons_append, textBody.eq_def]; simp only [hc, if_true]; rfl,
      List.suffix_cons c r⟩
  | case4 => simp [fail] at h
  | case5 => simp at h
  | case6 o c h1 h2 e more he ch n hu ih =>
    obtain ⟨⟨cs', i'⟩, hx, hy⟩ := exists_of_map_ok h
    obtain ⟨rfl, rfl⟩ := Prod.mk.inj hy
    obtain ⟨h3, h4⟩ := ih hx
    have hx' : textBody start 0 (o + 1 + (n + 1)) (more.drop n) = .ok (cs', i') := by
      rw [← hx, textBody_skip start (n + 1)]; rfl
    have hu' := unicodeEscape_append (u := u) hu hx'
    refine ⟨?_, h4.trans (List.suffix_cons c _)⟩
    rw [List.cons_append] at h3
    rw [List.cons_append, List.cons_append, textBody, if_neg h1, if_pos h2]
    simp only [he, if_true, hu', h3]
    rfl
  | case7 => simp [fail] at h
  | case8 o c h1 h2 e more he ch hs ih =>
    obtain ⟨⟨cs', i'⟩, hx, hy⟩ := exists_of_map_ok h
    obtain ⟨rfl, rfl⟩ := Prod.mk.inj hy
    obtain ⟨h3, h4⟩ := ih hx
    refine ⟨?_, h4.trans (List.suffix_cons c _)⟩
    rw [List.cons_append] at h3
    rw [List.cons_append, List.cons_append, textBody, if_neg h1, if_pos h2]
    simp only [he, hs, h3]
    rfl
  | case9 => simp [fail] at h
  | case10 o c r h1 h2 h3 ih =>
    obtain ⟨⟨cs', i'⟩, hx, hy⟩ := exists_of_map_ok h
    obtain ⟨rfl, rfl⟩ := Prod.mk.inj hy
    obtain ⟨h4, h5⟩ := ih hx
    refine ⟨?_, h5.trans (List.suffix_cons c _)⟩
    rw [List.cons_append, textBody.eq_def]
    simp only [h1, h2, h3, if_false, Bool.false_eq_true, h4]
    rfl

lemma unicodeEscape_malformed {r : List Char} {o : ℕ} {e : Stop}
    (h : unicodeEscape r o = .error e) :
    ∃ c n, e = .malformed c n := by
  unfold unicodeEscape at h
  repeat' split at h
  all_goals simp [fail] at h
  all_goals exact ⟨_, _, h.symm⟩

/-- Reading a text never finds a number with too many digits. -/
lemma textBody_malformed {start skip o : ℕ} {r : List Char} {e : Stop}
    (h : textBody start skip o r = .error e) : ∃ c n, e = .malformed c n := by
  fun_induction textBody start skip o r with
  | case1 | case4 | case7 | case9 => exact ⟨_, _, (Except.error.inj h).symm⟩
  | case2 o skip c r ih => exact ih h
  | case3 => simp at h
  | case5 o c h1 h2 e' more he s hs =>
    exact unicodeEscape_malformed (hs.trans (congrArg _ (Except.error.inj h)))
  | case6 o c h1 h2 e' more he ch n hu ih | case8 o c h1 h2 e' more he ch hs ih
  | case10 o c r h1 h2 h3 ih =>
    exact ih (error_of_map_error h)

lemma readText_more (i : Input) : Extends u i.rest (readText i) (readText (i.more u)) := by
  unfold readText
  rcases h : textBody (i.offset - 1) 0 i.offset i.rest with e | ⟨cs, j⟩
  · obtain ⟨c, n, rfl⟩ := textBody_malformed h
    exact .malformed
  · obtain ⟨h1, h2⟩ := textBody_append (u := u) h
    rw [more_offset, more_rest, h1]
    exact .ok h2

/-! ### Values -/

/-- Behind the space the longer text stands at the same character. -/
lemma skipSpace_eq {i : Input} (hc : Closed i.rest) (hn : i.rest ≠ []) :
    ∃ o c r, i.skipSpace = ⟨o, c :: r⟩ ∧ (i.more u).skipSpace = Input.more ⟨o, c :: r⟩ u ∧
      c :: r <:+ i.rest := by
  have hm := more_skipSpace (u := u) hc hn
  have hs := skipSpace_suffix i
  have hne : i.skipSpace.rest ≠ [] := by
    simpa [Input.skipSpace] using length_takeWhile_lt (p := isSpace) (by decide) hc hn
  rw [hm]
  generalize i.skipSpace = k at hs hne
  obtain ⟨o, _ | ⟨c, r⟩⟩ := k
  · exact absurd rfl hne
  · exact ⟨o, c, r, rfl, rfl, hs⟩

lemma skipSpace_cases {i : Input} (hc : Closed i.rest) :
    i.skipSpace.rest = [] ∨ ∃ o c r, i.skipSpace = ⟨o, c :: r⟩ ∧
      (i.more u).skipSpace = Input.more ⟨o, c :: r⟩ u ∧ c :: r <:+ i.rest := by
  by_cases hn : i.rest = []
  · exact Or.inl (rest_skipSpace_nil hn)
  · exact Or.inr (skipSpace_eq hc hn)

/-- Behind a mark other than the brace the text goes on. -/
lemma behind_mark {o : ℕ} {c : Char} {r : List Char} (hc : Closed (c :: r)) (h : c ≠ '\x7d') :
    ∃ o' c' r', (Input.skip ⟨o, c :: r⟩ 1).skipSpace = ⟨o', c' :: r'⟩ ∧
      ((Input.more ⟨o, c :: r⟩ u).skip 1).skipSpace = Input.more ⟨o', c' :: r'⟩ u ∧
      c' :: r' <:+ c :: r := by
  rw [more_skip _ (by simp)]
  obtain ⟨o', c', r', h1, h2, h3⟩ := skipSpace_eq (u := u) (i := Input.skip ⟨o, c :: r⟩ 1)
    hc.tail (hc.ne_nil h)
  exact ⟨o', c', r', h1, h2, h3.trans (List.suffix_cons c r)⟩

section Step

variable {fuel fuel' : ℕ} {i : Input}
  (hvalue : ∀ i : Input, Closed i.rest →
    Extends u i.rest (readValue fuel i) (readValue fuel' (i.more u)))
  (hitems : ∀ i : Input, Closed i.rest →
    Extends u i.rest (readItems fuel i) (readItems fuel' (i.more u)))
  (hmembers : ∀ (acc : Members) (i : Input), Closed i.rest →
    Extends u i.rest (readMembers fuel acc i) (readMembers fuel' acc (i.more u)))

include hvalue hitems in
lemma readItems_step (hc : Closed i.rest) :
    Extends u i.rest (readItems (fuel + 1) i) (readItems (fuel' + 1) (i.more u)) := by
  have h := hvalue i hc
  rw [readItems, readItems]
  generalize readValue fuel i = x, readValue fuel' (i.more u) = y at h ⊢
  cases h with
  | malformed => exact .malformed
  | digits n => exact .digits n
  | @ok v j hs =>
    simp only
    rcases skipSpace_cases (u := u) (hc.suffix hs) with hk | ⟨o, c, r, hk, hku, hks⟩
    · rw [hk]; exact .malformed
    rw [hk, hku]
    replace hks := hks.trans hs
    by_cases h1 : c = ']'
    · subst h1
      exact .ok ((List.suffix_cons _ r).trans hks)
    by_cases h2 : c = ','
    · subst h2
      obtain ⟨o', c', r', h1, h2, hb⟩ := behind_mark (u := u) (o := o) (hc.suffix hks) (by decide)
      replace hb := hb.trans hks
      have h := (hitems ⟨o', c' :: r'⟩ (hc.suffix hb)).suffix hb
      simp only [more_rest, List.cons_append, h1, h2]
      exact h.map _
    · simp [h1, h2]

include hvalue hmembers in
lemma readMembers_step (acc : Members) (hc : Closed i.rest) :
    Extends u i.rest (readMembers (fuel + 1) acc i) (readMembers (fuel' + 1) acc (i.more u)) := by
  rw [readMembers, readMembers]
  obtain ⟨o, _ | ⟨c, r⟩⟩ := i
  · exact .malformed
  by_cases hq : c = '"'
  swap
  · simp [hq]
  subst hq
  have h := (readText_more (u := u) (Input.skip ⟨o, '"' :: r⟩ 1)).suffix (List.suffix_cons '"' r)
  rw [← more_skip _ (by simp)] at h
  simp only [more_rest, List.cons_append]
  generalize readText (Input.skip ⟨o, '"' :: r⟩ 1) = x,
    readText ((Input.more ⟨o, '"' :: r⟩ u).skip 1) = y at h ⊢
  cases h with
  | malformed => exact .malformed
  | digits n => exact .digits n
  | @ok key j hs =>
    simp only
    rcases skipSpace_cases (u := u) (hc.suffix hs) with hk | ⟨o, c, r', hk, hku, hks⟩
    · rw [hk]; exact .malformed
    rw [hk, hku]
    replace hks := hks.trans hs
    by_cases h1 : c = ':'
    swap
    · simp [h1]
    subst h1
    -- the value of the member
    obtain ⟨o', c', r', h1, h2, hb⟩ := behind_mark (u := u) (o := o) (hc.suffix hks) (by decide)
    replace hb := hb.trans hks
    have h := (hvalue ⟨o', c' :: r'⟩ (hc.suffix hb)).suffix hb
    simp only [more_rest, List.cons_append, h1, h2]
    generalize readValue fuel ⟨o', c' :: r'⟩ = x,
      readValue fuel' (Input.more ⟨o', c' :: r'⟩ u) = y at h ⊢
    cases h with
    | malformed => exact .malformed
    | digits n => exact .digits n
    | @ok v j hs =>
      simp only
      rcases skipSpace_cases (u := u) (hc.suffix hs) with hk | ⟨o, c, r', hk, hku, hks⟩
      · rw [hk]; exact .malformed
      rw [hk, hku]
      replace hks := hks.trans hs
      by_cases h1 : c = '\x7d'
      · subst h1
        exact .ok ((List.suffix_cons _ r').trans hks)
      by_cases h2 : c = ','
      · subst h2
        obtain ⟨o', c', r', h1, h2, hb⟩ :=
          behind_mark (u := u) (o := o) (hc.suffix hks) (by decide)
        replace hb := hb.trans hks
        simp only [more_rest, List.cons_append, h1, h2]
        exact (hmembers (acc.set key v) ⟨o', c' :: r'⟩ (hc.suffix hb)).suffix hb
      · simp [h1, h2]

include hitems hmembers in
lemma readValue_step (hc : Closed i.rest) :
    Extends u i.rest (readValue (fuel + 1) i) (readValue (fuel' + 1) (i.more u)) := by
  rw [readValue, readValue]
  obtain ⟨o, _ | ⟨c, r⟩⟩ := i
  · exact .malformed
  by_cases h1 : c = '"'
  · subst h1
    have h := (readText_more (u := u) (Input.skip ⟨o, '"' :: r⟩ 1)).suffix
      (List.suffix_cons '"' r)
    rw [← more_skip _ (by simp)] at h
    exact h.map _
  by_cases h2 : c = '\x7b'
  · subst h2
    obtain ⟨o', c', r', h2, h3, hs⟩ := behind_mark (u := u) (o := o) hc (by decide)
    have h := ((hmembers [] ⟨o', c' :: r'⟩ (hc.suffix hs)).suffix hs).map Datum.record
    simp only [more_rest, List.cons_append, h2, h3]
    by_cases h4 : c' = '\x7d'
    · subst h4
      exact .ok ((List.suffix_cons _ r').trans hs)
    · simpa [h4] using h
  by_cases h3 : c = '['
  · subst h3
    obtain ⟨o', c', r', h3, h4, hs⟩ := behind_mark (u := u) (o := o) hc (by decide)
    have h := ((hitems ⟨o', c' :: r'⟩ (hc.suffix hs)).suffix hs).map Datum.list
    simp only [more_rest, List.cons_append, h3, h4]
    by_cases h5 : c' = ']'
    · subst h5
      exact .ok ((List.suffix_cons _ r').trans hs)
    · simpa [h5] using h
  · have h := readScalar_more (u := u) (i := ⟨o, c :: r⟩) hc
    simpa [h1, h2, h3] using h

end Step

/-- The three readers, for any fuel and any more of it: the steps are put together by induction on
the fuel of the shorter text. -/
lemma readers_more (fuel : ℕ) : ∀ fuel' ≥ fuel,
    (∀ i : Input, Closed i.rest →
      Extends u i.rest (readValue fuel i) (readValue fuel' (i.more u))) ∧
    (∀ i : Input, Closed i.rest →
      Extends u i.rest (readItems fuel i) (readItems fuel' (i.more u))) ∧
    (∀ (acc : Members) (i : Input), Closed i.rest →
      Extends u i.rest (readMembers fuel acc i) (readMembers fuel' acc (i.more u))) := by
  induction fuel with
  | zero => exact fun _ _ => ⟨fun _ _ => .malformed, fun _ _ => .malformed, fun _ _ _ => .malformed⟩
  | succ fuel ih =>
    intro fuel' hle
    obtain ⟨k, rfl⟩ : ∃ k, fuel' = k + 1 := ⟨fuel' - 1, by omega⟩
    obtain ⟨hvalue, hitems, hmembers⟩ := ih k (by omega)
    exact ⟨fun _ => readValue_step hitems hmembers, fun _ => readItems_step hvalue hitems,
      fun acc _ => readMembers_step hvalue hmembers acc⟩

/-! ### Starts of an object -/

lemma read_brace (r : List Char) :
    read ('\x7b' :: r) = alone (readValue (2 * ('\x7b' :: r).length + 2) ⟨0, '\x7b' :: r⟩) := by
  have hspace : Input.skipSpace ⟨0, '\x7b' :: r⟩ = ⟨0, '\x7b' :: r⟩ := by
    simp [Input.skipSpace, Input.skip, isSpace]
  have hmark : (('\x7b' :: r).head? == some (Char.ofNat 0xFEFF)) = false := by
    rw [List.head?_cons]; decide
  rw [read, hspace, hmark]
  rfl

lemma Closed.append {t : List Char} (s : List Char) (h : Closed t) (hn : t ≠ []) :
    Closed (s ++ t) := by
  intro c hc
  rw [List.getLast?_append_of_ne_nil s hn] at hc
  exact h c hc

/-- **No proper start of an object is JSON**: if a text that ends in a closing brace is read, then
a shorter start of it, cut at a closing brace, is refused as malformed. -/
theorem read_start_malformed {r u : List Char} {d : Datum} (ht : Closed ('\x7b' :: r))
    (hu : Closed u) (hn : u ≠ []) (h : read ('\x7b' :: (r ++ u)) = .ok d) :
    ∃ c n, read ('\x7b' :: r) = .error (.malformed c n) := by
  have hx := (readers_more (u := u) (2 * ('\x7b' :: r).length + 2)
    (2 * ('\x7b' :: (r ++ u)).length + 2) (by simp)).1 ⟨0, '\x7b' :: r⟩ ht
  rw [read_brace] at h ⊢
  simp only [Input.more, List.cons_append] at hx
  generalize readValue (2 * ('\x7b' :: r).length + 2) ⟨0, '\x7b' :: r⟩ = x,
    readValue (2 * ('\x7b' :: (r ++ u)).length + 2) ⟨0, '\x7b' :: (r ++ u)⟩ = y at hx h ⊢
  cases hx with
  | @malformed c n => exact ⟨c, n, rfl⟩
  | digits n => simp [alone] at h
  | @ok v i hs =>
    -- the object ends here, so `u` would be space; but it ends in a brace
    obtain ⟨o, c, r', hk, -, -⟩ := skipSpace_eq (u := []) (i := i.more u)
      (hu.append i.rest hn) (by simp [hn])
    simp [alone, hk, fail] at h

end SpecScribe.Json
