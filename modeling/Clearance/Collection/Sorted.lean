/-
Ascending lists without repetitions: the one list that stands for a set.
The order is given by a comparison, and of values that the comparison does
not tell apart only the first one is kept.
-/

namespace Clearance

variable {α : Type}

/-- A value at its place in an ascending list. -/
def insertSorted (before : α → α → Bool) (x : α) : List α → List α
  | [] => [x]
  | y :: ys =>
    if before x y then x :: y :: ys
    else if before y x then y :: insertSorted before x ys
    else y :: ys

/-- The values of a list in ascending order, each of them once. -/
def sortDistinct (before : α → α → Bool) (xs : List α) : List α :=
  xs.foldl (fun sorted x => insertSorted before x sorted) []

end Clearance
