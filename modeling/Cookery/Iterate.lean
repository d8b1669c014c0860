/-!
# Loops that consume

A loop over a text or a list of tokens ends because every round leaves less than it found. `iterate`
runs such a loop and checks just that: a round that does not get smaller is refused, so the loop is
total without a bound given from outside.
-/

namespace Cookery

/-- Runs `step` until it gives a result. Each round must leave a smaller state. -/
def iterate {σ ε α : Type} (size : σ → Nat) (stuck : ε) (step : σ → Except ε (σ ⊕ α)) (s : σ) :
    Except ε α :=
  match step s with
  | .error e => .error e
  | .ok (.inr a) => .ok a
  | .ok (.inl t) => if size t < size s then iterate size stuck step t else .error stuck
termination_by size s

end Cookery
