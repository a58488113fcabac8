import Mathlib
import SpecScribe.Text.Utf8

/-!
Decoding against encoding. One character is read exactly where its bytes stand, over all ranges of
code points; so bytes are decoded to a text exactly if they are the bytes of that text, and what is
refused is the encoding of nothing.
-/

namespace SpecScribe.Text

variable {a b : UInt8} {c : Char} {t : List UInt8} {n : ℕ}

/-! ### Bytes as numbers -/

lemma isContinuation_iff : isContinuation b ↔ 0x80 ≤ b.toNat ∧ b.toNat < 0xC0 := by
  rw [isContinuation, Bool.and_eq_true, decide_eq_true_eq, decide_eq_true_eq,
    UInt8.le_iff_toNat_le, UInt8.lt_iff_toNat_lt]
  rfl

lemma mayFollow_iff : mayFollow a b ↔ (0x80 ≤ b.toNat ∧ b.toNat < 0xC0) ∧
    (a.toNat = 0xE0 → 0xA0 ≤ b.toNat) ∧ (a.toNat = 0xED → b.toNat < 0xA0) ∧
    (a.toNat = 0xF0 → 0x90 ≤ b.toNat) ∧ (a.toNat = 0xF4 → b.toNat < 0x90) := by
  have heq : ∀ x : UInt8, (a == x) = true ↔ a.toNat = x.toNat := fun x => by
    rw [beq_iff_eq, UInt8.toNat_inj]
  rw [mayFollow, Bool.and_eq_true, isContinuation_iff]
  refine and_congr_right fun _ => ?_
  split_ifs with h1 h2 h3 h4 <;> simp only [heq, UInt8.reduceToNat] at * <;>
    simp only [UInt8.reduceToNat, decide_eq_true_eq, UInt8.le_iff_toNat_le,
      UInt8.lt_iff_toNat_lt, true_iff] <;> omega

/-- The bytes of the character with a given code point. -/
lemma utf8EncodeChar_ofNat (h : n.isValidChar) :
    String.utf8EncodeChar (Char.ofNat n) =
      if n ≤ 0x7F then [.ofNat n]
      else if n ≤ 0x7FF then [.ofNat (n / 64 % 32 + 0xC0), .ofNat (n % 64 + 0x80)]
      else if n ≤ 0xFFFF then
        [.ofNat (n / 4096 % 16 + 0xE0), .ofNat (n / 64 % 64 + 0x80), .ofNat (n % 64 + 0x80)]
      else
        [.ofNat (n / 262144 % 8 + 0xF0), .ofNat (n / 4096 % 64 + 0x80),
          .ofNat (n / 64 % 64 + 0x80), .ofNat (n % 64 + 0x80)] := by
  have hval : (Char.ofNat n).val.toNat = n := by
    rw [Char.toNat_val, Char.toNat_ofNat, if_pos h]
  rw [String.utf8EncodeChar, hval]

/-! ### One character -/

lemma ofNat_eq (h : n = a.toNat) : UInt8.ofNat n = a := h ▸ UInt8.ofNat_toNat

/-- What is read as a character are its bytes. The cases are those of the first byte, which says how
many bytes there are. -/
lemma exists_of_utf8Step (h : utf8Step a t = .char c n) :
    ∃ r u, t = r ++ u ∧ String.utf8EncodeChar c = a :: r ∧ n = r.length + 1 := by
  have ha := a.toNat_lt
  unfold utf8Step at h
  simp only [UInt8.lt_iff_toNat_lt, UInt8.reduceToNat] at h
  split_ifs at h with h1 h2 h3 h4 h5
  · obtain ⟨rfl, rfl⟩ := Utf8Step.char.inj h
    refine ⟨[], t, rfl, ?_, rfl⟩
    rw [utf8EncodeChar_ofNat (by left; omega), if_pos (by omega), ofNat_eq rfl]
  · rcases t with _ | ⟨b, u⟩
    · cases h
    simp only at h
    split_ifs at h with hb
    obtain ⟨rfl, rfl⟩ := Utf8Step.char.inj h
    rw [isContinuation_iff] at hb
    refine ⟨[b], u, rfl, ?_, rfl⟩
    simp only [joinBits, List.foldl_cons, List.foldl_nil]
    rw [utf8EncodeChar_ofNat (by left; omega), if_neg (by omega), if_pos (by omega),
      ofNat_eq (a := a) (by omega), ofNat_eq (a := b) (by omega)]
  · rcases t with _ | ⟨b, _ | ⟨c, u⟩⟩ <;> simp only at h
    · cases h
    · split_ifs at h
    split_ifs at h with hb hc
    obtain ⟨rfl, rfl⟩ := Utf8Step.char.inj h
    rw [Bool.not_eq_true', Bool.not_eq_false, mayFollow_iff] at hb
    rw [isContinuation_iff] at hc
    refine ⟨[b, c], u, rfl, ?_, rfl⟩
    simp only [joinBits, List.foldl_cons, List.foldl_nil]
    rw [utf8EncodeChar_ofNat (by unfold Nat.isValidChar; omega), if_neg (by omega),
      if_neg (by omega), if_pos (by omega), ofNat_eq (a := a) (by omega),
      ofNat_eq (a := b) (by omega), ofNat_eq (a := c) (by omega)]
  · rcases t with _ | ⟨b, _ | ⟨c, _ | ⟨d, u⟩⟩⟩ <;> simp only at h
    · cases h
    · split_ifs at h
    · split_ifs at h
    split_ifs at h with hb hc hd
    obtain ⟨rfl, rfl⟩ := Utf8Step.char.inj h
    rw [Bool.not_eq_true', Bool.not_eq_false, mayFollow_iff] at hb
    rw [Bool.not_eq_true', Bool.not_eq_false, isContinuation_iff] at hc
    rw [isContinuation_iff] at hd
    refine ⟨[b, c, d], u, rfl, ?_, rfl⟩
    simp only [joinBits, List.foldl_cons, List.foldl_nil]
    rw [utf8EncodeChar_ofNat (by unfold Nat.isValidChar; omega), if_neg (by omega),
      if_neg (by omega), if_neg (by omega), ofNat_eq (a := a) (by omega),
      ofNat_eq (a := b) (by omega), ofNat_eq (a := c) (by omega), ofNat_eq (a := d) (by omega)]

/-- The bytes of a character are read as that character, whatever follows. The cases are the ranges
of code points. -/
lemma utf8Step_of_encode (c : Char) (u : List UInt8) :
    ∃ a r, String.utf8EncodeChar c = a :: r ∧ utf8Step a (r ++ u) = .char c (r.length + 1) := by
  obtain ⟨n, hn, rfl⟩ : ∃ n : ℕ, n.isValidChar ∧ c = Char.ofNat n :=
    ⟨c.toNat, c.valid, (Char.ofNat_toNat c).symm⟩
  have hbyte : ∀ k < 256, ∃ b : UInt8, UInt8.ofNat k = b ∧ b.toNat = k := fun k hk =>
    ⟨_, rfl, UInt8.toNat_ofNat_of_lt' hk⟩
  rw [utf8EncodeChar_ofNat hn]
  unfold Nat.isValidChar at hn
  split_ifs with h1 h2 h3
  · obtain ⟨a, ha, hna⟩ := hbyte n (by omega)
    refine ⟨a, [], by rw [ha], ?_⟩
    simp only [utf8Step, UInt8.lt_iff_toNat_lt, UInt8.reduceToNat, hna]
    rw [if_pos (by omega)]
    rfl
  · obtain ⟨a, ha, hna⟩ := hbyte (n / 64 % 32 + 0xC0) (by omega)
    obtain ⟨b, hb, hnb⟩ := hbyte (n % 64 + 0x80) (by omega)
    refine ⟨a, [b], by rw [ha, hb], ?_⟩
    simp only [utf8Step, UInt8.lt_iff_toNat_lt, UInt8.reduceToNat, List.cons_append]
    rw [if_neg (by omega), if_neg (by omega), if_pos (by omega),
      if_pos (isContinuation_iff.mpr (by omega))]
    have hjoin : (a.toNat - 0xC0) * 64 + (b.toNat - 0x80) = n := by omega
    simp only [joinBits, List.foldl_cons, List.foldl_nil, hjoin]
    rfl
  · obtain ⟨a, ha, hna⟩ := hbyte (n / 4096 % 16 + 0xE0) (by omega)
    obtain ⟨b, hb, hnb⟩ := hbyte (n / 64 % 64 + 0x80) (by omega)
    obtain ⟨c, hc, hnc⟩ := hbyte (n % 64 + 0x80) (by omega)
    refine ⟨a, [b, c], by rw [ha, hb, hc], ?_⟩
    simp only [utf8Step, UInt8.lt_iff_toNat_lt, UInt8.reduceToNat, List.cons_append]
    rw [if_neg (by omega), if_neg (by omega), if_neg (by omega), if_pos (by omega),
      if_neg (by simpa using mayFollow_iff.mpr (by omega)),
      if_pos (isContinuation_iff.mpr (by omega))]
    have hjoin : ((a.toNat - 0xE0) * 64 + (b.toNat - 0x80)) * 64 + (c.toNat - 0x80) = n := by omega
    simp only [joinBits, List.foldl_cons, List.foldl_nil, hjoin]
    rfl
  · obtain ⟨a, ha, hna⟩ := hbyte (n / 262144 % 8 + 0xF0) (by omega)
    obtain ⟨b, hb, hnb⟩ := hbyte (n / 4096 % 64 + 0x80) (by omega)
    obtain ⟨c, hc, hnc⟩ := hbyte (n / 64 % 64 + 0x80) (by omega)
    obtain ⟨d, hd, hnd⟩ := hbyte (n % 64 + 0x80) (by omega)
    refine ⟨a, [b, c, d], by rw [ha, hb, hc, hd], ?_⟩
    simp only [utf8Step, UInt8.lt_iff_toNat_lt, UInt8.reduceToNat, List.cons_append]
    rw [if_neg (by omega), if_neg (by omega), if_neg (by omega), if_neg (by omega),
      if_pos (by omega), if_neg (by simpa using mayFollow_iff.mpr (by omega)),
      if_neg (by simpa using isContinuation_iff.mpr (by omega)),
      if_pos (isContinuation_iff.mpr (by omega))]
    have hjoin : (((a.toNat - 0xF0) * 64 + (b.toNat - 0x80)) * 64 + (c.toNat - 0x80)) * 64 +
        (d.toNat - 0x80) = n := by omega
    simp only [joinBits, List.foldl_cons, List.foldl_nil, hjoin]
    rfl

/-! ### Texts -/

lemma decodeFrom_append (r u : List UInt8) (position : ℕ) :
    decodeFrom position r.length (r ++ u) = decodeFrom (position + r.length) 0 u := by
  induction r generalizing position with
  | nil => rfl
  | cons x r ih =>
    rw [List.length_cons, List.cons_append, decodeFrom, ih]
    congr 1
    omega

/-- The bytes of a text are decoded to that text. -/
lemma decodeFrom_encode (cs : List Char) (position : ℕ) :
    decodeFrom position 0 (encodeUtf8 cs) = .ok cs := by
  induction cs generalizing position with
  | nil => rfl
  | cons c cs ih =>
    obtain ⟨a, r, hc, hstep⟩ := utf8Step_of_encode c (encodeUtf8 cs)
    have hbytes : encodeUtf8 (c :: cs) = a :: (r ++ encodeUtf8 cs) := by
      rw [encodeUtf8, List.flatMap_cons, hc]
      rfl
    rw [hbytes, decodeFrom, hstep]
    simp only [Nat.add_sub_cancel, decodeFrom_append, ih]
    rfl

/-- Bytes that are decoded are those of the text. By induction along the decoder, which skips the
rest of each character that it has read. -/
lemma drop_eq_encode {skip position : ℕ} {bytes : List UInt8} {cs : List Char}
    (h : decodeFrom position skip bytes = .ok cs) (hskip : skip ≤ bytes.length) :
    bytes.drop skip = encodeUtf8 cs := by
  fun_induction decodeFrom position skip bytes generalizing cs with
  | case1 position skip =>
    cases h
    simp [encodeUtf8]
  | case2 position skip b r ih => exact ih h (by simpa using hskip)
  | case3 position a r c size hstep ih =>
    obtain ⟨r, u, rfl, hc, rfl⟩ := exists_of_utf8Step hstep
    rcases hrest : decodeFrom (position + 1) r.length (r ++ u) with d | cs'
    · simp [hrest, Except.map] at h
    · simp only [Nat.add_sub_cancel] at ih h
      rw [hrest] at h
      cases h
      have hu := ih hrest (by simp)
      rw [List.drop_left] at hu
      rw [List.drop_zero, encodeUtf8, List.flatMap_cons, hc, ← encodeUtf8, ← hu]
      rfl
  | case4 => cases h

/-- **Decoding inverts encoding.** Bytes are decoded to a text exactly if they are its bytes. -/
lemma decodeUtf8_eq_ok {bytes : List UInt8} {cs : List Char} :
    decodeUtf8 bytes = .ok cs ↔ bytes = encodeUtf8 cs :=
  ⟨fun h => drop_eq_encode h (Nat.zero_le _), fun h => h ▸ decodeFrom_encode cs 0⟩

end SpecScribe.Text
