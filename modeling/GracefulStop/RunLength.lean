/-!
# Runs of equal items
-/

namespace GracefulStop

/-- The runs of equal neighbours in a list, each as its item and its length. -/
def runLengths {Item : Type} [DecidableEq Item] : List Item → List (Item × Nat)
  | [] => []
  | item :: rest =>
    match runLengths rest with
    | (next, count) :: others =>
      if next = item then (next, count + 1) :: others else (item, 1) :: (next, count) :: others
    | [] => [(item, 1)]

end GracefulStop
