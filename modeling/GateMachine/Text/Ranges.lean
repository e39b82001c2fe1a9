/-!
Classes of characters given by the ranges of their code points.
-/

namespace GateMachine

namespace Text

def inRanges (ranges : List (Nat × Nat)) (c : Char) : Bool :=
  ranges.any fun (low, high) => low ≤ c.toNat && c.toNat ≤ high

end Text

end GateMachine
