/-!
When to stop: a sequence of counts has come to a plateau if its minimum was reached long ago.
-/

namespace SpecScribe.Bench

/-- The least count so far, and how many counts followed it. -/
structure Plateau where
  best : Int
  since : Nat
  deriving DecidableEq

/-- Takes one more count. Only a strictly smaller one starts anew. -/
def Plateau.step (p : Plateau) (n : Int) : Plateau :=
  if n < p.best then ⟨n, 0⟩ else ⟨p.best, p.since + 1⟩

def plateauOf (first : Int) (rest : List Int) : Plateau := rest.foldl Plateau.step ⟨first, 0⟩

/-- The plateau of a history and the current count. -/
def plateau (history : List Int) (current : Int) : Plateau :=
  match history with
  | [] => ⟨current, 0⟩
  | h :: r => plateauOf h (r ++ [current])

/-- How many rounds without progress are enough. -/
def patience : Nat := 3

def stopLine? (history : List Int) (current : Int) : Option String :=
  let p := plateau history current
  if current == 0 then
    some ">>> STOP: repo_time converged (0 below). Finalize microbench.py now. <<<"
  else if patience ≤ p.since then
    some (">>> STOP: repo_time converged (no improvement in " ++ toString p.since
      ++ " rounds; best " ++ toString p.best ++ " below). Finalize microbench.py now. <<<")
  else none

end SpecScribe.Bench
