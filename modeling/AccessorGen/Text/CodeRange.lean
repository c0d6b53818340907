/- Tables of code points.
   A character class of the Unicode standard is an ascending list of code point ranges, and
   membership is one walk along it. -/

set_option autoImplicit false
set_option relaxedAutoImplicit false

namespace AccessorGen.Text

/-- The code points from `first` to `last`, both included. -/
structure CodeRange where
  first : Nat
  last : Nat
  deriving DecidableEq, Repr

/-- Membership of a code point in an ascending table. The walk ends at the first range that
starts above the code point. -/
def CodeRange.covers (table : List CodeRange) (n : Nat) : Bool :=
  match table with
  | [] => false
  | range :: rest =>
    if n < range.first then false
    else if n ≤ range.last then true
    else covers rest n

/-- A table is ascending when its ranges are non-empty, disjoint and in order. -/
def CodeRange.ascending : List CodeRange → Bool
  | [] => true
  | [range] => range.first ≤ range.last
  | range :: next :: rest =>
    range.first ≤ range.last && range.last < next.first && ascending (next :: rest)

end AccessorGen.Text
