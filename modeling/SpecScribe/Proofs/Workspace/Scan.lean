import Mathlib
import SpecScribe.Workspace.Scanner

/-!
What a scan finds: files with the language that they are detected to have, and this language is a
wanted one. A scan without a limit judges every file and keeps those that are found.
-/

namespace SpecScribe.Workspace.Scanner

variable {filter : Filter} {s : Store} {wanted : Wanted}

/-- A found file has its detected language, which is wanted. -/
structure Fits (s : Store) (wanted : Wanted) (f : FoundFile) : Prop where
  language : s.language? f.path = some f.language
  wanted : wanted f.language = .ok true

lemma judge_found {p : Path} {f : FoundFile} (h : judge filter s wanted p = .found f) :
    f.path = p ∧ Fits s wanted f := by
  unfold judge at h
  split at h
  case h_1 => cases h
  case h_2 => cases h
  split at h
  case h_1 => cases h
  case h_2 l hl =>
    split at h
    case h_1 => cases h
    case h_2 => cases h
    case h_3 hw => split at h <;> cases h <;> exact ⟨rfl, hl, hw⟩

lemma scanFiles_fits (filter : Filter) (s : Store) (wanted : Wanted) (limit : Int) (n : ℕ)
    (c : ScanCounts) (ps : List Path) :
    ∀ f ∈ (scanFiles filter s wanted limit n c ps).1, Fits s wanted f := by
  induction ps generalizing n c with
  | nil => simp [scanFiles]
  | cons p ps ih =>
    rw [scanFiles]
    split
    case h_1 g hg =>
      have hfit : Fits s wanted g := (judge_found hg).2
      split
      · simpa using hfit
      · exact List.forall_mem_cons.mpr ⟨hfit, ih (n + 1) _⟩
    case h_2 => exact ih n _

lemma scan_fits {sc : Scanner} {directory : Path} {limit : Int} {found : List FoundFile}
    (h : (sc.scan s directory wanted limit).1 = .ok found) : ∀ f ∈ found, Fits s wanted f := by
  unfold scan at h
  split at h
  · obtain rfl : [] = found := by simpa using h
    simp
  · have hfiles := scanFiles_fits sc.filter s wanted limit 0 sc.counts
      ((s.walk (fun d => (sc.filter.excludesDir d).map (!·)) directory).visits.flatMap Visit.paths)
    dsimp only at h
    split at h
    · split at h <;> cases h
      exact hfiles
    · cases h
      exact hfiles

/-! ### Without a limit -/

/-- The file that a verdict has found. -/
def Verdict.file? : Verdict → Option FoundFile
  | .found f => some f
  | _ => none

lemma scanFiles_unlimited (filter : Filter) (s : Store) (wanted : Wanted) (n : ℕ) (c : ScanCounts)
    (ps : List Path) :
    (scanFiles filter s wanted 0 n c ps).1 =
        ps.filterMap (fun p => (judge filter s wanted p).file?) ∧
      (scanFiles filter s wanted 0 n c ps).2.2 = false := by
  induction ps generalizing n c with
  | nil => exact ⟨rfl, rfl⟩
  | cons p ps ih =>
    rw [scanFiles, List.filterMap_cons]
    cases hv : judge filter s wanted p with
    | found f =>
      obtain ⟨hfiles, hstopped⟩ := ih (n + 1) ((Verdict.found f).count c)
      exact ⟨congrArg (f :: ·) hfiles, hstopped⟩
    | excluded => exact ih n _
    | failed => exact ih n _
    | foreign => exact ih n _

/-- The verdict on a file is that it is found, and under its own path, exactly when it is not
passed over and its language is wanted. -/
lemma judge_path_iff {p q : Path} :
    (judge filter s wanted p).file?.map FoundFile.path = some q ↔
      q = p ∧ filter.excludesFile s p = .ok false ∧
        ∃ l, s.language? p = some l ∧ wanted l = .ok true := by
  unfold judge
  rcases filter.excludesFile s p with f | (_ | _)
  · simp [Verdict.file?]
  · rcases s.language? p with _ | l
    · simp [Verdict.file?]
    · rcases hw : wanted l with f | (_ | _)
      · simp [Verdict.file?, hw]
      · simp [Verdict.file?, hw]
      · rcases s.read p with f | c <;> simp [Verdict.file?, hw, eq_comm]
  · simp [Verdict.file?]

end SpecScribe.Workspace.Scanner
