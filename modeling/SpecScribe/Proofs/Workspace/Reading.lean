import Mathlib
import SpecScribe.Processing.Basic
import SpecScribe.Proofs.Fault
import SpecScribe.Proofs.Text.Splitting
import SpecScribe.Proofs.Text.Utf8
import SpecScribe.Proofs.Workspace.Walk
import SpecScribe.Proofs.Workspace.Writing
import SpecScribe.Workspace.Reading

/-!
Texts of files, read and written. Whatever its bytes are, a file is read as a text: in UTF-8 if they
are the bytes of some text, and otherwise in Latin-1, with plain line breaks. The encoding for
marked files, tried in between, comes into it only for a mark that is cut off: that is read as no
text at all, while the file is processed with its bytes in Latin-1. A text that is written is read
back up to its line breaks.
-/

namespace SpecScribe.Workspace

/-! ### What bytes spell -/

/-- The text that the bytes of a file stand for: the one whose bytes in UTF-8 they are or, if there
is none, the one in which each byte is a code point. -/
inductive Spells (bytes : List UInt8) (t : List Char) : Prop
  | utf8 (bytes_eq : bytes = Text.encodeUtf8 t)
  | latin1 (other : ∀ u, bytes ≠ Text.encodeUtf8 u)
      (points : t.map Char.toNat = bytes.map UInt8.toNat)

variable {bytes : List UInt8} {t u : List Char}

lemma encodeUtf8_injective : Function.Injective Text.encodeUtf8 := by
  intro t u h
  have ht := Text.decodeUtf8_eq_ok.mpr (rfl : Text.encodeUtf8 t = _)
  rw [Text.decodeUtf8_eq_ok.mpr h] at ht
  exact (Except.ok.inj ht).symm

lemma Spells.unique (ht : Spells bytes t) (hu : Spells bytes u) : t = u := by
  cases ht with
  | utf8 ht =>
    cases hu with
    | utf8 hu => exact encodeUtf8_injective (ht.symm.trans hu)
    | latin1 other => exact absurd ht (other t)
  | latin1 other points =>
    cases hu with
    | utf8 hu => exact absurd hu (other u)
    | latin1 _ points' =>
      exact List.map_injective_iff.mpr (fun _ _ => Char.toNat_inj.mp) (points.trans points'.symm)

/-- Every byte is a code point. -/
lemma points_decodeBytewise (bytes : List UInt8) :
    (decodeBytewise bytes).map Char.toNat = bytes.map UInt8.toNat := by
  rw [decodeBytewise, List.map_map]
  refine List.map_congr_left fun b _ => ?_
  have hb : b.toNat.isValidChar := .inl (by have := b.toNat_lt; omega)
  rw [Function.comp_apply, Char.toNat_ofNat, if_pos hb]

lemma spells_decodeAny (bytes : List UInt8) : Spells bytes (decodeAny bytes) := by
  rw [decodeAny]
  split
  · rename_i t ht
    exact .utf8 (Text.decodeUtf8_eq_ok.mp ht)
  · rename_i d hd
    refine .latin1 (fun u hu => ?_) (points_decodeBytewise bytes)
    rw [Text.decodeUtf8_eq_ok.mpr hu] at hd
    cases hd

lemma spells_iff : Spells bytes u ↔ u = decodeAny bytes :=
  ⟨fun h => h.unique (spells_decodeAny bytes), fun h => h ▸ spells_decodeAny bytes⟩

lemma decodeAny_encode (t : List Char) : decodeAny (Text.encodeUtf8 t) = t :=
  (spells_iff.mp (.utf8 rfl)).symm

lemma toBytes_text (bytes : List UInt8) : (⟨bytes, 0⟩ : Content).toBytes = bytes :=
  List.append_nil bytes

namespace Encoding

/-- A byte order mark is a character too, so bytes that are not UTF-8 are not so behind a mark. -/
lemma withoutMark_ne (h : ∀ u, bytes ≠ Text.encodeUtf8 u) (u : List Char) :
    withoutMark bytes ≠ Text.encodeUtf8 u := by
  unfold withoutMark
  split
  · rintro rfl
    exact h ('\uFEFF' :: u) rfl
  · exact h u

lemma decode?_utf8_eq_none (h : ∀ u, bytes ≠ Text.encodeUtf8 u) :
    (Text.decodeUtf8 bytes).toOption = none := by
  rcases hd : Text.decodeUtf8 bytes with d | u
  · rfl
  · exact absurd (Text.decodeUtf8_eq_ok.mp hd) (h u)

lemma isCutMark_iff : isCutMark bytes ↔ bytes = [0xEF] ∨ bytes = [0xEF, 0xBB] := by
  simp [isCutMark]

/-- A cut mark spells something other than no text, and there is no line break in it. -/
lemma decodeAny_of_isCutMark (h : isCutMark bytes) :
    decodeAny bytes ≠ [] ∧ ∀ c ∈ decodeAny bytes, c ≠ '\n' ∧ c ≠ '\r' := by
  have hone : decodeAny [0xEF] = ['ï'] := by decide +kernel
  have htwo : decodeAny [0xEF, 0xBB] = ['ï', '»'] := by decide +kernel
  rcases isCutMark_iff.mp h with rfl | rfl
  · rw [hone]
    simp
  · rw [htwo]
    simp

/-- The first encoding that the bytes fit is UTF-8 or Latin-1, unless they are a cut mark. -/
lemma findSome?_decode? (bytes : List UInt8) :
    tried.findSome? (·.decode? bytes) =
      some (if isCutMark bytes then [] else decodeAny bytes) := by
  simp only [tried, List.findSome?_cons, decode?]
  rcases hd : Text.decodeUtf8 bytes with d | t
  · have hnone : ∀ u, bytes ≠ Text.encodeUtf8 u := fun u hu => by
      rw [Text.decodeUtf8_eq_ok.mpr hu] at hd
      cases hd
    rw [decode?_utf8_eq_none (withoutMark_ne hnone), decodeAny, hd]
    split_ifs <;> rfl
  · have hwhole : ¬ isCutMark bytes := by
      rintro hcut
      rcases isCutMark_iff.mp hcut with rfl | rfl <;> cases hd
    simp only [if_neg hwhole]
    rw [decodeAny, hd]
    rfl

end Encoding

/-- Every line break made a plain one: the double ones first, then the carriage returns. -/
def plainBreaks (t : List Char) : List Char :=
  Text.replace ['\r'] ['\n'] (Text.replace ['\r', '\n'] ['\n'] t)

lemma plainBreaks_eq (t : List Char) : plainBreaks t = Text.unifyBreaks t :=
  (Text.unifyBreaks_eq_replace t).symm

/-! ### Reading and writing -/

namespace Store

variable {s : Store} {links : ℕ} {place target steps : List String} {p : Path} {c : Content}
  {missing : List String → Except FileFault (List String)}

/-- A way over names that are there does not ask what to do about a missing one. -/
lemma follow_of_resolved
    (h : s.follow (fun _ => .error .notFound) links place steps = .ok target) :
    s.follow missing links place steps = .ok target := by
  fun_induction follow s (fun _ => .error .notFound) links place steps with
  | case1 links place =>
    cases h
    rw [follow]
  | case2 links place step rest es hes hup ih =>
    rw [follow]
    simp only [hes, hup, if_true]
    exact ih h
  | case3 => cases h
  | case4 => cases h
  | case5 => cases h
  | case6 place step rest es hes hup link hname links t ih =>
    rw [follow]
    simp only [hes, hup, Bool.false_eq_true, if_false, hname]
    exact ih h
  | case7 links place step rest es hes hup e hlink hname ih =>
    rw [follow_entry hes hup hname hlink]
    exact ih h
  | case8 => cases h

/-- The last step of a way is taken in a directory. -/
lemma exists_of_follow_append {step : String}
    (h : s.follow (fun _ => .error .notFound) links place (steps ++ [step]) = .ok target) :
    ∃ top es left, s.follow (fun _ => .error .notFound) links place steps = .ok top ∧
      s.root.at? top = some (.dir es) ∧
      s.follow (fun _ => .error .notFound) left top [step] = .ok target := by
  fun_induction follow s (fun _ => .error .notFound) links place steps with
  | case1 links place =>
    have hstep := h
    rw [List.nil_append, follow] at hstep
    split at hstep
    · rename_i es hes
      exact ⟨place, es, links, rfl, hes, h⟩
    · cases hstep
  | case2 links place step' rest es hes hup ih =>
    rw [List.cons_append, follow] at h
    simp only [hes, hup, if_true] at h
    exact ih h
  | case3 links place step' rest es hes hup hname hrest =>
    rw [List.cons_append, follow] at h
    simp [hes, hup, hname] at h
  | case4 links place step' rest es hes hup hname hrest =>
    rw [List.cons_append, follow] at h
    simp [hes, hup, hname] at h
  | case5 place step' rest es hes hup link hname =>
    rw [List.cons_append, follow] at h
    simp [hes, hup, hname] at h
  | case6 place step' rest es hes hup link hname links t ih =>
    rw [List.cons_append, follow] at h
    simp only [hes, hup, Bool.false_eq_true, if_false, hname] at h
    rw [← List.append_assoc] at h
    exact ih h
  | case7 links place step' rest es hes hup e hlink hname ih =>
    rw [List.cons_append, follow_entry hes hup hname hlink] at h
    exact ih h
  | case8 links place step' rest hdir =>
    rw [List.cons_append, follow] at h
    split at h
    · rename_i es hes
      exact absurd hes (hdir es)
    · cases h

lemma read_eq_ok : s.read p = .ok c ↔ s.stat p = .ok (.file c) := by
  refine ⟨fun h => ?_, read_of_stat⟩
  unfold read at h
  rcases hstat : s.stat p with f | e <;> rw [hstat] at h
  · cases h
  · cases e <;> cases h
    rfl

lemma isDir_iff : s.isDir p ↔ ∃ es, s.stat p = .ok (.dir es) := by
  rw [isDir]
  rcases s.stat p with f | e
  · simp
  · cases e <;> simp [Entry.isDir]

/-- What is reached by a last step is in a directory. -/
lemma exists_parent {e : Entry} (h : s.stat p = .ok e) (hsteps : p.steps ≠ []) :
    ∃ top es, s.resolve p.parent = .ok top ∧ s.root.at? top = some (.dir es) ∧
      (p.name ≠ ".." → (es.lookup p.name).isSome) := by
  obtain ⟨place, hplace, hat⟩ := s.resolve_of_stat h
  obtain ⟨hzero, hway⟩ := resolveBy_eq_ok.mp hplace
  obtain ⟨steps, name, hp⟩ : ∃ steps name, p.steps = steps ++ [name] :=
    ⟨_, _, (List.dropLast_append_getLast hsteps).symm⟩
  rw [hp] at hway hzero
  obtain ⟨top, es, left, htop, hes, hlast⟩ := exists_of_follow_append hway
  have hparent : p.parent = ⟨p.root, steps⟩ := by rw [Path.parent, hp, List.dropLast_concat]
  have hname : p.name = name := by rw [Path.name, hp, List.getLast?_concat, Option.getD_some]
  refine ⟨top, es, ?_, hes, fun hup => ?_⟩
  · rw [hparent]
    exact resolveBy_eq_ok.mpr ⟨fun h => hzero (by rw [List.any_append, h]; rfl), htop⟩
  · rw [hname] at hup ⊢
    rw [follow] at hlast
    simp only [hes, beq_iff_eq, hup, if_false] at hlast
    split at hlast
    · simp at hlast
    all_goals
      rename_i hlookup
      rw [hlookup]
      rfl

/-- A directory that is there is left as it is. -/
lemma makeDirs_of_isDir (h : s.isDir p) : s.makeDirs p = (.ok (), s) := by
  obtain ⟨es, hstat⟩ := isDir_iff.mp h
  rw [makeDirs]
  rcases hup : p.steps.reverse with _ | ⟨name, up⟩
  · rfl
  have hsteps : p.steps = (name :: up).reverse := by rw [← hup, List.reverse_reverse]
  have hexists : s.makeOne p = .error .exists := by
    rw [makeOne]
    split_ifs with hcase
    · rw [hstat]
      rfl
    · rw [Bool.or_eq_true, not_or, beq_iff_eq] at hcase
      obtain ⟨top, es, hresolve, htop, hname⟩ := exists_parent hstat (by simp [hsteps])
      rw [hresolve]
      simp only [bind, Except.bind, htop, hname hcase.2, if_true]
  have hp : (⟨p.root, (name :: up).reverse⟩ : Path) = p := by rw [← hsteps]
  rw [makeSteps]
  simp only [hp, hexists, h, if_true]

/-- A file that can be read can be written. -/
lemma writeText_of_read (h : s.read p = .ok c) (text : String) :
    (s.writeText p text).1 = .ok () := by
  have hstat := read_eq_ok.mp h
  obtain ⟨place, hplace, hat⟩ := s.resolve_of_stat hstat
  obtain ⟨hpath, hway⟩ := resolveBy_eq_ok.mp hplace
  have hdirs : s.makeDirs p.parent = (.ok (), s) := by
    by_cases hsteps : p.steps = []
    · rw [makeDirs, Path.parent, hsteps]
      rfl
    · obtain ⟨top, es, hresolve, htop, -⟩ := exists_parent hstat hsteps
      exact makeDirs_of_isDir (isDir_iff.mpr ⟨es, stat_of_resolve hresolve htop⟩)
  have hwrite : s.resolveBy .ok p = .ok place :=
    resolveBy_eq_ok.mpr ⟨hpath, follow_of_resolved hway⟩
  rw [writeText, hdirs]
  simp only [writeFile, hwrite, bind, Except.bind, hat]
  rfl

/-- Whether a text can be written depends on the place, not on the text. -/
lemma writeText_congr (s : Store) (p : Path) (text other : String) :
    (s.writeText p text).1 = (s.writeText p other).1 := by
  rw [writeText, writeText]
  rcases s.makeDirs p.parent with ⟨f | _, s'⟩
  · rfl
  simp only [writeFile]
  rcases s'.resolveBy .ok p with f | place
  · rfl
  simp only [bind, Except.bind]
  rcases s'.root.at? place with _ | _ | _ | _ <;> rfl

/-- A file that is there is read as a text. -/
lemma readText_of_read (h : s.read p = .ok c) :
    s.readText p = .ok (if Encoding.isCutMark c.toBytes then []
      else Text.unifyBreaks (decodeAny c.toBytes)) := by
  have hread : s.readAs? p = Option.map Text.unifyBreaks ∘ (·.decode? c.toBytes) := by
    funext e
    rw [readAs?, h]
    rfl
  have htried : Encoding.tried.findSome? (s.readAs? p) = some (if Encoding.isCutMark c.toBytes
      then [] else Text.unifyBreaks (decodeAny c.toBytes)) := by
    rw [hread, ← List.map_findSome?, Encoding.findSome?_decode?]
    split_ifs <;> rfl
  rw [readText, htried]

end Store

open Processing Chunk

variable {s : Store} {p : Path} {c : Content}

/-- What becomes of a file that is there and not too large. -/
lemma processFile_of_read (q : Processor) (mode : Mode) (l : Language) (h : s.read p = .ok c)
    (hsize : c.size ≤ maxFileMb * 1024 * 1024) :
    (q.processFile s mode p l).1 =
      let text := Text.unifyBreaks (decodeAny c.toBytes)
      .processed p.toString (text.count '\n' + 1)
        (if mode.elements then (ofElements q.analyzer q.parsers s p l).1
          else ofContent q.splitters (String.ofList text) p l mode.semantic) := by
  rw [Processor.processFile, Store.read_eq_ok.mp h]
  simp only [hsize.not_gt, if_false]
  split_ifs <;> rfl

lemma isCutMark_encodeUtf8 (t : List Char) : ¬ Encoding.isCutMark (Text.encodeUtf8 t) := by
  intro hcut
  have hdecoded := Text.decodeUtf8_eq_ok.mpr (rfl : Text.encodeUtf8 t = _)
  rcases Encoding.isCutMark_iff.mp hcut with h | h <;> rw [h] at hdecoded <;> cases hdecoded

/-- **Every file is read as a text, and what is written is read back.** Unless the file is a mark
that is cut off, the text is the one that the bytes spell, with plain line breaks; the bytes of a
cut mark are lost. The file is processed with the text that the bytes spell in any case. A readable
file can be written, with any text; if a text can be written at all, so can every other. A text
without carriage returns is read back as it was. -/
theorem readText_inverts_writing (s : Store) (p : Path) :
    (∀ c, s.read p = .ok c →
      ∃ t, (∀ u, Spells c.toBytes u ↔ u = t) ∧
        (s.readText p = .ok (plainBreaks t) ↔ ¬ Encoding.isCutMark c.toBytes) ∧
        (Encoding.isCutMark c.toBytes → s.readText p = .ok []) ∧
        ∀ (q : Processor) (mode : Mode) (l : Language), c.size ≤ maxFileMb * 1024 * 1024 →
          (q.processFile s mode p l).1 = .processed p.toString ((plainBreaks t).count '\n' + 1)
            (if mode.elements then (ofElements q.analyzer q.parsers s p l).1
              else ofContent q.splitters (String.ofList (plainBreaks t)) p l mode.semantic)) ∧
    ∀ text : String,
      ((s.read p).isOk → (s.writeText p text).1 = .ok ()) ∧
      (∀ other, (s.writeText p text).1 = (s.writeText p other).1) ∧
      ∀ s', s.writeText p text = (.ok (), s') →
        s'.readText p = .ok (plainBreaks text.toList) ∧
        ('\r' ∉ text.toList → s'.readText p = .ok text.toList) := by
  refine ⟨fun c h => ?_, fun text => ⟨fun h => ?_, s.writeText_congr p text, ?_⟩⟩
  · refine ⟨decodeAny c.toBytes, fun u => spells_iff, ?_, fun hcut => ?_, fun q mode l hsize => ?_⟩
    · rw [plainBreaks_eq, Store.readText_of_read h]
      by_cases hcut : Encoding.isCutMark c.toBytes
      · have hlost : Text.unifyBreaks (decodeAny c.toBytes) ≠ [] := by
          obtain ⟨hne, hbreaks⟩ := Encoding.decodeAny_of_isCutMark hcut
          rwa [Text.unifyBreaks_eq_self fun hmem => (hbreaks _ hmem).2 rfl]
        simpa [hcut] using hlost.symm
      · simp [hcut]
    · rw [Store.readText_of_read h, if_pos hcut]
    · rw [plainBreaks_eq, processFile_of_read q mode l h hsize]
  · obtain ⟨c, hc⟩ := isOk_iff.mp h
    exact Store.writeText_of_read hc text
  · intro s' hwrite
    have hread : s'.readText p = .ok (Text.unifyBreaks text.toList) := by
      rw [Store.readText_of_read (Store.read_of_writeText hwrite), toBytes_text,
        if_neg (isCutMark_encodeUtf8 _), decodeAny_encode]
    refine ⟨by rw [hread, plainBreaks_eq], fun hreturn => ?_⟩
    rw [hread, Text.unifyBreaks_eq_self hreturn]

/-- A file that is not in UTF-8, and a text with a double line break beside it. -/
theorem readText_inverts_writing_mixed :
    let s : Store := { root := .dir [("a", .file ⟨[0x66, 0xFF, 0x0D], 0⟩)] }
    s.read ⟨"", ["a"]⟩ = .ok ⟨[0x66, 0xFF, 0x0D], 0⟩ ∧
      s.readText ⟨"", ["a"]⟩ = .ok "fÿ\n".toList ∧
      (s.writeText ⟨"", ["a"]⟩ "é").1 = .ok () ∧
      ∃ s', s.writeText ⟨"", ["b"]⟩ "é\r\n" = (.ok (), s') ∧
        s'.readText ⟨"", ["b"]⟩ = .ok "é\n".toList := by
  intro s
  have hfile : s.read ⟨"", ["a"]⟩ = .ok ⟨[0x66, 0xFF, 0x0D], 0⟩ :=
    Store.read_of_stat (Store.stat_name rfl (by decide) (by decide) rfl)
  have hbytes : Spells [0x66, 0xFF, 0x0D] "fÿ\r".toList := by
    refine .latin1 (fun u hu => ?_) (by decide)
    have hdecoded := Text.decodeUtf8_eq_ok.mpr hu
    cases hdecoded
  obtain ⟨t, ht, hread, -⟩ := (readText_inverts_writing s _).1 _ hfile
  obtain ⟨s', hwrite⟩ : ∃ s', s.writeText ⟨"", ["b"]⟩ "é\r\n" = (.ok (), s') :=
    Store.writeText_name rfl (by decide) (by decide) rfl "é\r\n"
  obtain ⟨hwritable, -, -⟩ := (readText_inverts_writing s ⟨"", ["a"]⟩).2 "é"
  obtain ⟨-, -, hback⟩ := (readText_inverts_writing s ⟨"", ["b"]⟩).2 "é\r\n"
  rw [← (ht _).mp hbytes] at hread
  exact ⟨hfile, hread.mpr (by decide), hwritable (by rw [hfile]; rfl), s', hwrite,
    (hback s' hwrite).1⟩

/-- The first byte of a mark is read as no text, but the file is processed with the character that
it spells. -/
theorem readText_of_cut_mark :
    let s : Store := { root := .dir [("a", .file ⟨[0xEF], 0⟩)] }
    s.read ⟨"", ["a"]⟩ = .ok ⟨[0xEF], 0⟩ ∧ Spells [0xEF] "ï".toList ∧
      s.readText ⟨"", ["a"]⟩ = .ok [] ∧
      ∀ (q : Processor) (l : Language), (q.processFile s ⟨false, false⟩ ⟨"", ["a"]⟩ l).1 =
        .processed "a" 1 (ofContent q.splitters "ï" ⟨"", ["a"]⟩ l false) := by
  intro s
  have hfile : s.read ⟨"", ["a"]⟩ = .ok ⟨[0xEF], 0⟩ :=
    Store.read_of_stat (Store.stat_name rfl (by decide) (by decide) rfl)
  refine ⟨hfile, spells_iff.mpr (by decide +kernel), ?_, fun q l => ?_⟩
  · rw [Store.readText_of_read hfile]
    rfl
  · rw [processFile_of_read q ⟨false, false⟩ l hfile (by decide)]
    rfl

end SpecScribe.Workspace
