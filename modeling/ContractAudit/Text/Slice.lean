/-!
# Slices

Part of a list between two bounds. A negative bound counts from the end, and bounds beyond the list stand for its ends.
-/

namespace ContractAudit.Text

/-- The index that a bound stands for in a list of the given length. -/
def resolveBound (length : Nat) (bound : Int) : Nat :=
  if bound < 0 then (length + bound).toNat else bound.toNat

def slice {α : Type} (items : List α) (start stop : Int) : List α :=
  let first := resolveBound items.length start
  (items.drop first).take (resolveBound items.length stop - first)

def sliceTo {α : Type} (items : List α) (stop : Int) : List α := items.take (resolveBound items.length stop)

end ContractAudit.Text
