namespace Homeplan.Text

/-! Sets of code points written as closed ranges in increasing order. -/

/-- Closed ranges of code points, each below the next. -/
abbrev CodePoints := List (Nat × Nat)

namespace CodePoints

/-- Whether some range holds the code point. -/
def contains : CodePoints → Nat → Bool
  | [], _ => false
  | (first, last) :: rest, point =>
      if point < first then false
      else if point ≤ last then true
      else contains rest point

end CodePoints

end Homeplan.Text
