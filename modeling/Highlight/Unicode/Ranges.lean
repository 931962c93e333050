/-! Character classes given as increasing lists of inclusive code point ranges. -/
namespace Highlight.Unicode

/-- The search ends at the first range above `code`, so the list must be increasing. -/
def covers (code : Nat) : List (Nat × Nat) → Bool
  | [] => false
  | (low, high) :: rest =>
    if code < low then false else if code ≤ high then true else covers code rest

end Highlight.Unicode
