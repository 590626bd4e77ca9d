/-!
A set of code points as a table of closed ranges, in increasing order and without overlap.
Membership is decided by bisection.
-/

namespace DeclScan.Unicode

/-- The code points that lie in one of the listed ranges, given as first and last member. -/
structure RangeTable where
  ranges : Array (Nat × Nat)

namespace RangeTable

/-- Looks for `point` in the ranges with an index from `low` up to, but not including, `high`. -/
def search (table : RangeTable) (point low high : Nat) : Bool :=
  if low < high then
    let middle := low + (high - low) / 2
    match table.ranges[middle]? with
    | none => false
    | some (first, last) =>
      if point < first then search table point low middle
      else if last < point then search table point (middle + 1) high
      else true
  else false
termination_by high - low

/-- Whether the code point of `c` lies in one of the ranges. -/
def contains (table : RangeTable) (c : Char) : Bool :=
  table.search c.toNat 0 table.ranges.size

end RangeTable

end DeclScan.Unicode
