import Mathlib
import SpecScribe.Proofs.Text.Utf8
import SpecScribe.Proofs.Workspace.Reading
import SpecScribe.Workspace.Reading

/-!
Byte order marks. The bytes of a mark are those of a character of its own, so a file behind a mark
is in UTF-8 whenever it would be without it. It is then read in UTF-8, which is tried first, and the
mark becomes part of the text; the encoding that knows about marks is not asked.
-/

namespace SpecScribe.Workspace

open Text

namespace Encoding

/-- The byte order mark of UTF-8. -/
def mark : List UInt8 := [0xEF, 0xBB, 0xBF]

variable {rest : List UInt8} {t : List Char}

lemma mark_append_encode (t : List Char) : mark ++ encodeUtf8 t = encodeUtf8 ('\uFEFF' :: t) := rfl

/-- Decoding reads the mark as a character and goes on behind it. -/
lemma decodeUtf8_mark_append (rest : List UInt8) :
    decodeUtf8 (mark ++ rest) = (decodeFrom 3 0 rest).map ('\uFEFF' :: ·) := rfl

/-- Bytes that are not in UTF-8 do not become so by a mark in front of them. -/
lemma mark_append_ne (h : ∀ t, rest ≠ encodeUtf8 t) (u : List Char) :
    mark ++ rest ≠ encodeUtf8 u := by
  intro hu
  have hdecoded := decodeUtf8_eq_ok.mpr hu
  rw [decodeUtf8_mark_append] at hdecoded
  rcases hrest : decodeFrom 3 0 rest with d | t
  · rw [hrest] at hdecoded
    cases hdecoded
  · exact h t (drop_eq_encode hrest (Nat.zero_le _))

lemma withoutMark_mark_append (rest : List UInt8) : withoutMark (mark ++ rest) = rest := rfl

lemma isCutMark_mark_append (rest : List UInt8) : isCutMark (mark ++ rest) = false := rfl

lemma decode?_utf8Marked (t : List Char) :
    utf8Marked.decode? (mark ++ encodeUtf8 t) = some t := by
  rw [decode?, isCutMark_mark_append, withoutMark_mark_append, decodeUtf8_eq_ok.mpr rfl]
  rfl

end Encoding

variable {s : Store} {p : Path} {c : Content} {rest : List UInt8}

/-- **A byte order mark is read as part of the text.** Let a file begin with a mark. If a text in
UTF-8 follows, the file is read as that text with the character of the mark in front of it, and so
never as the text alone, which the encoding for marked files would give. If anything else follows,
the mark is read as three characters of Latin-1. -/
theorem readText_keeps_mark (hread : s.read p = .ok c) (hmark : c.toBytes = Encoding.mark ++ rest) :
    (∀ t, rest = encodeUtf8 t →
      s.readText p = .ok ('\uFEFF' :: plainBreaks t) ∧ s.readText p ≠ .ok (plainBreaks t) ∧
      s.readAs? p .utf8Marked = some (plainBreaks t)) ∧
    ((∀ t, rest ≠ encodeUtf8 t) →
      ∃ t, t.map Char.toNat = rest.map UInt8.toNat ∧
        s.readText p = .ok ("ï»¿".toList ++ plainBreaks t)) := by
  have htext := Store.readText_of_read hread
  rw [hmark, Encoding.isCutMark_mark_append, if_neg Bool.false_ne_true] at htext
  constructor
  · rintro t rfl
    have hmarked : s.readText p = .ok ('\uFEFF' :: plainBreaks t) := by
      rw [htext, Encoding.mark_append_encode, decodeAny_encode, plainBreaks_eq]
      rfl
    refine ⟨hmarked, fun halone => ?_, ?_⟩
    · rw [hmarked] at halone
      exact List.cons_ne_self _ _ (Except.ok.inj halone)
    · rw [Store.readAs?, hread]
      simp only [hmark, Encoding.decode?_utf8Marked, Option.map_some, plainBreaks_eq]
  · intro hrest
    have hspells : Spells (Encoding.mark ++ rest) ("ï»¿".toList ++ decodeBytewise rest) := by
      refine .latin1 (Encoding.mark_append_ne hrest) ?_
      rw [List.map_append, List.map_append, points_decodeBytewise]
      rfl
    refine ⟨decodeBytewise rest, points_decodeBytewise rest, ?_⟩
    rw [htext, ← spells_iff.mp hspells, plainBreaks_eq]
    rfl

/-- A store with one file, which begins with a mark. -/
def markedStore (rest : List UInt8) : Store where
  root := .dir [("a", .file ⟨Encoding.mark ++ rest, 0⟩)]

lemma read_markedStore (rest : List UInt8) :
    (markedStore rest).read ⟨"", ["a"]⟩ = .ok ⟨Encoding.mark ++ rest, 0⟩ :=
  Store.read_of_stat (Store.stat_name rfl (by decide) (by decide) rfl)

/-- A marked file with a double line break, and one that is not in UTF-8 behind its mark. -/
theorem readText_keeps_mark_mixed :
    (markedStore (encodeUtf8 "é\r\n".toList)).readText ⟨"", ["a"]⟩ = .ok "\uFEFFé\n".toList ∧
    (markedStore [0x66, 0xFF]).read ⟨"", ["a"]⟩ = .ok ⟨[0xEF, 0xBB, 0xBF, 0x66, 0xFF], 0⟩ ∧
    (∀ t, [0x66, 0xFF] ≠ encodeUtf8 t) ∧
    ∃ t, t.map Char.toNat = [0x66, 0xFF] ∧
      (markedStore [0x66, 0xFF]).readText ⟨"", ["a"]⟩ = .ok ("ï»¿".toList ++ plainBreaks t) := by
  have hother : ∀ t, [0x66, 0xFF] ≠ encodeUtf8 t := fun t ht => by
    have hdecoded := decodeUtf8_eq_ok.mpr ht
    cases hdecoded
  obtain ⟨htext, -⟩ := readText_keeps_mark (read_markedStore _) (toBytes_text _)
  obtain ⟨-, hlatin⟩ := readText_keeps_mark (read_markedStore _) (toBytes_text _)
  exact ⟨(htext _ rfl).1, read_markedStore _, hother, hlatin hother⟩

/-- **A marked file is not read as the text behind its mark.** -/
theorem readText_of_marked_file :
    (markedStore (encodeUtf8 "abc".toList)).readText ⟨"", ["a"]⟩ = .ok "\uFEFFabc".toList ∧
    (markedStore (encodeUtf8 "abc".toList)).readText ⟨"", ["a"]⟩ ≠ .ok "abc".toList := by
  have htext : (markedStore (encodeUtf8 "abc".toList)).readText ⟨"", ["a"]⟩ =
      .ok "\uFEFFabc".toList := by
    rw [Store.readText_of_read (read_markedStore _), toBytes_text,
      Encoding.isCutMark_mark_append, if_neg Bool.false_ne_true, Encoding.mark_append_encode,
      decodeAny_encode]
    rfl
  rw [htext]
  exact ⟨rfl, by decide⟩

end SpecScribe.Workspace
