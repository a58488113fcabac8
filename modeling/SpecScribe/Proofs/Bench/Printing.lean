import Mathlib
import SpecScribe.Bench.Measure
import SpecScribe.Proofs.Shell.Running

/-!
What a round of measuring prints: its report and nothing else. All that is measured before is
measured in silence.
-/

namespace SpecScribe.Bench

open Shell Effect Workspace

variable {α : Type} {s : Store} {t t' : Terminal} {e : Ending}

/-- The round that is found in a store when the measurements give the outcomes that are left in the
terminal: the first one is that of the coverage. -/
structure Found (s : Store) (t : Terminal) (r : Round) : Prop where
  coverage : ∃ text d, s.readUtf8 (repoFile "_pti_coverage.json") = .ok text ∧
    readJson text = .ok d ∧ Coverage.read d = .ok r.coverage
  time : ∃ t₁ t₂, t₁.outcomes = t.outcomes.tail ∧ (measureTime s).run t₁ = (.ok r.time, t₂)
  history : r.history = History.read s

end SpecScribe.Bench
