import Highlight.Grapheme.Boundary

/-! The index between raw positions and grapheme positions. An index of a text has increasing
starts from 0; one built from given starts need not, and then `toGrapheme` answers whatever the
halving search meets. -/
namespace Highlight

structure GraphemeIndex where
  starts : List Int
  length : Int
  deriving DecidableEq, Repr

namespace GraphemeIndex

def ofText (text : Text) : GraphemeIndex :=
  ⟨(Grapheme.starts text).map Int.ofNat, text.length⟩

/-- Number of clusters. -/
def size (index : GraphemeIndex) : Int := index.starts.length

/-- Halving search among the first `width` of `starts` for how many come before the first one that
lies after `offset`. Each step narrows the width, so the width is fuel enough. -/
def search (offset : Int) : (fuel : Nat) → (starts : List Int) → (width : Nat) → Nat
  | 0, _, _ => 0
  | _ + 1, _, 0 => 0
  | fuel + 1, starts, width + 1 =>
    let half := (width + 1) / 2
    match starts.drop half with
    | [] => 0
    | start :: later =>
      if offset < start then search offset fuel starts half
      else half + 1 + search offset fuel later (width - half)

/-- The last cluster that starts at or before a raw position; 0 when there is none. -/
def toGrapheme (index : GraphemeIndex) (offset : Int) : Int :=
  let count := index.starts.length
  max ((search offset count index.starts count : Int) - 1) 0

/-- Grapheme bounds cut down to the index: `start` to `[0, size]`, then `stop` to `[start, size]`. -/
def clamp (index : GraphemeIndex) (start stop : Int) : Int × Int :=
  let low := min (max start 0) index.size
  (low, min (max stop low) index.size)

/-- Raw position where cluster `i` starts, or the end of the text past the last cluster. -/
def offset (index : GraphemeIndex) (i : Int) : Int := (index.starts[i.toNat]?).getD index.length

/-- Raw range of the clusters `start` to `stop - 1`. -/
def toRaw (index : GraphemeIndex) (start stop : Int) : Int × Int :=
  let (low, high) := index.clamp start stop
  (index.offset low, index.offset high)

/-- The clusters that cover a raw range; an empty range has none. -/
def span (index : GraphemeIndex) (rawStart rawStop : Int) : Int × Int :=
  let start := index.toGrapheme rawStart
  if rawStop ≤ rawStart then (start, start) else (start, index.toGrapheme (rawStop - 1) + 1)

/-- The index of the clusters `start` to `stop - 1`, counted from their own beginning. -/
def sub (index : GraphemeIndex) (start stop : Int) : GraphemeIndex :=
  let (rawStart, rawStop) := index.toRaw start stop
  let (low, high) := index.clamp start stop
  ⟨((index.starts.drop low.toNat).take (high - low).toNat).map (· - rawStart), rawStop - rawStart⟩

def describe (index : GraphemeIndex) : String :=
  "GraphemeIndex(graphemes=" ++ toString index.starts.length ++ ", length=" ++
    toString index.length ++ ")"

end GraphemeIndex

end Highlight
