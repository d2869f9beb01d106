/-!
# Stable sorting

Insertion sort by a comparison. Elements that the comparison does not tell apart keep their order.
-/

namespace EtcdRoster.Sorting

variable {α : Type}

/-- Puts an element before the first one that it may precede. -/
def insert (le : α → α → Bool) (a : α) : List α → List α
  | [] => [a]
  | b :: rest => if le a b then a :: b :: rest else b :: insert le a rest

/-- Sorts; among equals the earlier stays first. -/
def sort (le : α → α → Bool) : List α → List α
  | [] => []
  | a :: rest => insert le a (sort le rest)

end EtcdRoster.Sorting
