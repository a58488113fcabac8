import Mathlib
import SpecScribe.Settings.Config
import SpecScribe.Proofs.Schema.Fields

/-!
The window in which code is cut: its size and how much neighbours overlap. The overlap is held
against the size only if it is given, so a small size alone is accepted together with the larger
default overlap.
-/

namespace SpecScribe.Settings

open Schema

variable {ms : Members} {c : Config}

/-- An overlap that leaves room to move on. -/
def Config.Usable (c : Config) : Prop := 0 ≤ c.chunkOverlap ∧ c.chunkOverlap < c.chunkSize

/-- What a configuration that is accepted has from the data for its window. -/
lemma window_of_read (h : Config.read ms = .ok c) :
    withDefault ms "chunk_size" (atLeast 100 integer) 4000 = .ok c.chunkSize ∧
    withDefault ms "chunk_overlap" (atLeast 0 integer) 200 = .ok c.chunkOverlap ∧
    (ms.get? "chunk_overlap" ≠ none → c.chunkOverlap < c.chunkSize) := by
  unfold Config.read at h
  dsimp only at h
  split at h
  · rename_i hsize hoverlap _ _ _ _ _ _ _ _
    cases h
    obtain ⟨hread, hcheck⟩ := ensureGiven_eq_ok.mp hoverlap
    refine ⟨hsize, hread, fun hgiven => ?_⟩
    have := hcheck hgiven
    rw [hsize] at this
    simpa using this
  · cases h

lemma limits_of_read (h : Config.read ms = .ok c) : 100 ≤ c.chunkSize ∧ 0 ≤ c.chunkOverlap := by
  obtain ⟨hsize, hoverlap, -⟩ := window_of_read h
  constructor
  · rcases withDefault_eq_ok.mp hsize with ⟨-, hdefault⟩ | ⟨d, -, hd⟩
    · omega
    · exact (atLeast_eq_ok.mp hd).2
  · rcases withDefault_eq_ok.mp hoverlap with ⟨-, hdefault⟩ | ⟨d, -, hd⟩
    · omega
    · exact (atLeast_eq_ok.mp hd).2

/-- The data give a size of at most 200, and no overlap. -/
def SmallSizeAlone (ms : Members) : Prop :=
  ms.get? "chunk_overlap" = none ∧ ∃ d, ms.get? "chunk_size" = some d ∧ ∃ n ≤ 200, integer d = .ok n

/-- **When the window of a configuration is usable.** In every configuration that is accepted the
size is at least 100 and the overlap is not negative. The overlap is smaller than the size, unless
the data give a size of at most 200 and leave the overlap to its default. -/
theorem usable_iff_of_read (h : Config.read ms = .ok c) :
    100 ≤ c.chunkSize ∧ 0 ≤ c.chunkOverlap ∧ (c.Usable ↔ ¬ SmallSizeAlone ms) := by
  obtain ⟨hsize, hoverlap, hgiven⟩ := window_of_read h
  obtain ⟨hlow, hpos⟩ := limits_of_read h
  refine ⟨hlow, hpos, ?_⟩
  rw [Config.Usable, and_iff_right hpos, ← not_le, not_iff_not]
  rcases withDefault_eq_ok.mp hoverlap with ⟨hnone, hdefault⟩ | ⟨d, hd, -⟩
  · -- the overlap is the default, and only a size that is given can be as small
    rw [SmallSizeAlone, and_iff_right hnone, hdefault]
    rcases withDefault_eq_ok.mp hsize with ⟨habsent, hsize⟩ | ⟨d, hd, hread⟩
    · simp [habsent, hsize]
    · obtain ⟨hread, -⟩ := atLeast_eq_ok.mp hread
      constructor
      · intro hle
        exact ⟨d, hd, _, hle, hread⟩
      · rintro ⟨d', hd', n, hn, hread'⟩
        rw [hd] at hd'
        cases hd'
        rw [hread] at hread'
        cases hread'
        exact hn
  · -- the overlap is given, and was held against the size
    have hlt := hgiven (by simp [hd])
    rw [SmallSizeAlone, hd]
    simp [hlt]

/-- Size and overlap are given, as texts and close to each other. -/
theorem usable_iff_of_read_given :
    let ms : Members := [("chunk_overlap", .text " 1_49 "), ("chunk_size", .text "150")]
    ∃ c, Config.read ms = .ok c ∧ c.chunkSize = 150 ∧ c.chunkOverlap = 149 ∧ ¬ SmallSizeAlone ms ∧
      100 ≤ c.chunkSize ∧ 0 ≤ c.chunkOverlap ∧ (c.Usable ↔ ¬ SmallSizeAlone ms) := by
  intro ms
  have hread : Config.read ms = .ok { chunkSize := 150, chunkOverlap := 149 } := by cbv
  refine ⟨_, hread, rfl, rfl, ?_, usable_iff_of_read hread⟩
  rintro ⟨hnone, -⟩
  cases hnone

/-- Every size from 100 on is accepted without an overlap. -/
lemma read_size_alone {n : ℤ} (h : 100 ≤ n) :
    Config.read [("chunk_size", .int n)] = .ok { chunkSize := n } := by
  have hsize : withDefault [("chunk_size", .int n)] "chunk_size" (atLeast 100 integer) 4000 =
      .ok n :=
    withDefault_eq_ok.mpr (.inr ⟨.int n, rfl, atLeast_eq_ok.mpr ⟨rfl, h⟩⟩)
  unfold Config.read
  rw [hsize]
  rfl

/-- **A window can be unusable.** The size is 100, the overlap its default. -/
theorem read_unusable_window :
    ∃ c, Config.read [("chunk_size", .int 100)] = .ok c ∧ ¬ c.Usable := by
  refine ⟨_, read_size_alone le_rfl, ?_⟩
  rintro ⟨-, hlt⟩
  exact absurd hlt (by decide)

end SpecScribe.Settings
