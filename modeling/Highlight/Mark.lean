import Highlight.Text.Quoted

/-! Marks label runs of grapheme clusters. Ranges are half-open: a mark from 2 to 5 covers the
clusters 2, 3 and 4. -/
namespace Highlight

/-- The integers from `start` to `stop - 1`. -/
def range (start stop : Int) : List Int :=
  (List.range (stop - start).toNat).map fun (i : Nat) => start + i

structure Mark where
  start : Int
  stop : Int
  label : String
  deriving DecidableEq, Repr

namespace Mark

def size (mark : Mark) : Int := max (mark.stop - mark.start) 0

def covers (mark : Mark) (i : Int) : Bool := mark.start ≤ i && i < mark.stop

def indices (mark : Mark) : List Int := range mark.start mark.stop

/-- Comparison of end points. An empty range inside the mark counts as overlapping. -/
def overlaps (mark : Mark) (start stop : Int) : Bool := start < mark.stop && mark.start < stop

def shift (mark : Mark) (distance : Int) : Mark :=
  ⟨mark.start + distance, mark.stop + distance, mark.label⟩

/-- Document order: by start, then stop, then the code points of the label. -/
def precedes (a b : Mark) : Bool :=
  a.start < b.start || (a.start == b.start &&
    (a.stop < b.stop || (a.stop == b.stop && decide (a.label < b.label))))

def describe (mark : Mark) : String :=
  "Mark(start=" ++ toString mark.start ++ ", end=" ++ toString mark.stop ++ ", label=" ++
    quotedString mark.label ++ ")"

end Mark

end Highlight
