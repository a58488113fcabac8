import Mathlib
import SpecScribe.Generation.Basic
import SpecScribe.Proofs.Chunk.Classes
import SpecScribe.Proofs.Workspace.Normal

/-!
Chunks that know their classes are turned into plain chunks before the model is asked. For the
chunks that a file is cut into, class by class, this gives back the chunks they were made with: the
classes that they know are written out as the text that the chunk already has, and every chunk
passes the checks that it has passed before.
-/

namespace SpecScribe.Chunk

open Workspace Syntax Schema

variable {ms : Members} {c : CodeChunk} {e : EnhancedChunk} {path : Path} {l : Language}

/-- What the checks ask of a chunk. -/
structure CodeChunk.Sound (c : CodeChunk) : Prop where
  first : 1 ≤ c.startLine
  lines : c.startLine ≤ c.endLine
  path : c.path.Normal

lemma normal_of_rule {d : Datum} {p : Path} (h : Path.rule d = .ok p) : p.Normal := by
  cases d <;> cases h
  exact Path.normal_ofString _

/-- A chunk that is read passes the checks, and has the content that it is given. -/
lemma sound_of_read (h : CodeChunk.read ms = .ok c) :
    c.Sound ∧ required ms "content" text = .ok c.content := by
  unfold CodeChunk.read at h
  dsimp only at h
  split at h
  · rename_i hcontent hpath _ hstart hstop _
    cases h
    obtain ⟨d, -, hd⟩ := required_eq_ok.mp hpath
    obtain ⟨d', -, hd'⟩ := required_eq_ok.mp hstart
    obtain ⟨hstop, hordered⟩ := ensureGiven_eq_ok.mp hstop
    obtain ⟨d'', hd'', -⟩ := required_eq_ok.mp hstop
    have hlines := hordered (by simp [hd''])
    rw [hstart] at hlines
    exact ⟨⟨(atLeast_eq_ok.mp hd').2, by simpa using hlines, normal_of_rule hd⟩, hcontent⟩
  · cases h

/-- Made anew from its parts, a sound chunk is the same. -/
lemma make_of_sound (hc : c.Sound) :
    CodeChunk.make c.content c.path c.language c.startLine c.endLine c.kind = .ok c := by
  rw [make_of_lines _ _ _ _ hc.first hc.lines, Path.ofString_toString hc.path]

/-! ### The chunks of a file -/

/-- The classes of a chunk are written out as its own text. -/
structure EnhancedChunk.Faithful (e : EnhancedChunk) : Prop where
  unified : e.unified = e.chunk.content
  sound : e.chunk.Sound

lemma EnhancedChunk.Faithful.toChunk (he : e.Faithful) : e.toChunk = .ok e.chunk := by
  rw [EnhancedChunk.toChunk, he.unified]
  exact make_of_sound he.sound

/-- A chunk that does not hold whole classes keeps its text. -/
lemma faithful_of_incomplete (hc : c.Sound) (structures : List ClassStructure)
    (parent : Option String) : (⟨c, structures, false, parent⟩ : EnhancedChunk).Faithful :=
  ⟨rfl, hc⟩

lemma mem_orNothing {α : Type} {r : Except Fault (List α)} {x : α} (hx : x ∈ orNothing r) :
    ∃ xs, r = .ok xs ∧ x ∈ xs := by
  cases r with
  | ok xs => exact ⟨xs, rfl, hx⟩
  | error _ => cases hx

lemma sound_of_pieceChunk {kind : String} {piece : Datum}
    (h : pieceChunk path l kind piece = .ok c) : c.Sound := by
  unfold pieceChunk at h
  split at h
  · split at h
    · rename_i hmake
      cases h
      exact (sound_of_read hmake).1
    · cases h
  · cases h

lemma sound_of_ofContent {sp : Splitters} {content : String} {semantic : Bool}
    (hc : c ∈ ofContent sp content path l semantic) : c.Sound := by
  obtain ⟨cs, hcs, hc⟩ := mem_orNothing hc
  have hpieces : ∃ kind pieces, List.mapM (pieceChunk path l kind) pieces = .ok cs := by
    split at hcs <;>
    · obtain ⟨pieces, -, hcs⟩ := bind_eq_ok.mp hcs
      exact ⟨_, pieces, hcs⟩
  obtain ⟨kind, pieces, hpieces⟩ := hpieces
  obtain ⟨piece, -, hpiece⟩ := exists_left_of_mem (mapM_eq_ok_iff.mp hpieces) hc
  exact sound_of_pieceChunk hpiece

lemma faithful_of_splitClass {k : ClassStructure} {es : List EnhancedChunk}
    (h : splitClass k path l = .ok es) (he : e ∈ es) : e.Faithful := by
  obtain ⟨m, -, hm⟩ := exists_left_of_mem (mapM_eq_ok_iff.mp h) he
  dsimp only at hm
  split at hm
  · rename_i hread
    cases hm
    exact faithful_of_incomplete (sound_of_read hread).1 ..
  · cases hm

lemma faithful_of_classChunks {size : Datum} {k : ClassStructure} {es : List EnhancedChunk}
    (h : classChunks size path l k = .ok es) (he : e ∈ es) : e.Faithful := by
  obtain ⟨fits, -, h⟩ := bind_eq_ok.mp h
  split at h
  · split at h
    · rename_i chunk hmake
      cases h
      obtain rfl := List.mem_singleton.mp he
      obtain ⟨hsound, hcontent⟩ := sound_of_read hmake
      refine ⟨?_, hsound⟩
      -- the one class of the chunk is written out as the content that it was made with
      calc "\n\n".intercalate [k.unified] = k.unified := String.intercalate_singleton
        _ = chunk.content := Except.ok.inj hcontent
    · cases h
  · exact faithful_of_splitClass h he

lemma faithful_of_ofClasses {size : Datum} {sp : Splitters} {ps : Parsers} {s : Store}
    (he : e ∈ ofClasses size sp ps s path l) : e.Faithful := by
  obtain ⟨es, hes, he⟩ := mem_orNothing he
  split at hes
  · obtain ⟨text, -, hes⟩ := bind_eq_ok.mp hes
    cases hes
    obtain ⟨c, hc, rfl⟩ := List.mem_map.mp he
    exact faithful_of_incomplete (sound_of_ofContent hc) ..
  · obtain ⟨ess, hess, hes⟩ := bind_eq_ok.mp hes
    cases hes
    obtain ⟨es, hes, he⟩ := List.mem_flatten.mp he
    obtain ⟨k, -, hk⟩ := exists_left_of_mem (mapM_eq_ok_iff.mp hess) hes
    exact faithful_of_classChunks hk he

end SpecScribe.Chunk

namespace SpecScribe.Generation

open Chunk Model Syntax Workspace

/-- **Knowing the classes changes nothing.** However a file is cut class by class, each chunk stands
for the content that it has. So, for every project and whatever the model does, the model is asked
the same as for the plain chunks, and what comes out is the same output or the same fault. -/
theorem produceEnhanced_ofClasses (size : Datum) (sp : Splitters) (ps : Parsers) (s : Store)
    (path : Path) (l : Language) (g : Generator) (project : String) (session : Session) :
    let es := ofClasses size sp ps s path l
    es.map EnhancedChunk.unified = es.map (·.chunk.content) ∧
      (g.produceEnhanced es project).run session =
        (g.produce (es.map (·.chunk)) project).run session := by
  intro es
  have hfaithful : ∀ e ∈ es, e.Faithful := fun _ => faithful_of_ofClasses
  have hchunks : es.mapM EnhancedChunk.toChunk = .ok (es.map (·.chunk)) :=
    mapM_eq_ok_map fun e he => (hfaithful e he).toChunk
  refine ⟨List.map_congr_left fun e he => (hfaithful e he).unified, ?_⟩
  rw [Generator.produceEnhanced, hchunks]

/-- A file with one class, which fits: the chunk holds the whole class. -/
example :
    ofClasses (.int 200) ⟨fun _ => .ok [], none⟩ (parsersFor (documentedTree [])) oneFile
        ⟨"", ["a.py"]⟩ .python =
      [wholeChunk ⟨"", ["a.py"]⟩ .python (documentedClass [])] := by
  have hfile : (parsersFor (documentedTree [])).fileStructures oneFile ⟨"", ["a.py"]⟩ "a.py"
      .python = [documentedClass []] := fileStructures_oneFile rfl
  have hchunks : classChunks (.int 200) ⟨"", ["a.py"]⟩ .python (documentedClass []) =
      .ok [wholeChunk ⟨"", ["a.py"]⟩ .python (documentedClass [])] :=
    classChunks_of_fits ⟨by decide, by decide⟩ (by decide +kernel)
  have hname : Path.toString ⟨"", ["a.py"]⟩ = "a.py" := rfl
  rw [ofClasses, hname, hfile]
  simp only [List.mapM_cons, List.mapM_nil, hchunks, ok_bind]
  rfl

end SpecScribe.Generation
