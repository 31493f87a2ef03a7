import CompileDb.Text

/-!
# Sets of letters as ranges of code points

A class of letters is a list of closed ranges of code points; a letter belongs to the class when
some range holds its code point. Nothing here depends on a particular class: the ranges are a
parameter.
-/

namespace CompileDb.Text

/-- Membership of a letter in a list of closed ranges of code points. -/
def inRanges (ranges : List (Nat × Nat)) (a : Letter) : Bool :=
  ranges.any fun r => decide (r.1 ≤ a.code) && decide (a.code ≤ r.2)

end CompileDb.Text
