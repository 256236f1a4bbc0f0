/-!
# Range tables

Sets of characters given by increasing ranges of their numbers, searched by halving.
-/

namespace CodeSurvey.Text

structure RangeTable where
  ranges : Array (Nat × Nat)

namespace RangeTable

def ofList (ranges : List (Nat × Nat)) : RangeTable := ⟨ranges.toArray⟩

def search (t : RangeTable) (n : Nat) : Nat → Nat → Nat → Bool
  | 0, _, _ => false
  | budget + 1, low, high =>
    if low ≥ high then false
    else
      let middle := (low + high) / 2
      let (first, last) := t.ranges.getD middle (0, 0)
      if n < first then search t n budget low middle
      else if last < n then search t n budget (middle + 1) high
      else true

def contains (t : RangeTable) (c : Char) : Bool :=
  t.search c.toNat (t.ranges.size + 1) 0 t.ranges.size

end RangeTable
end CodeSurvey.Text
