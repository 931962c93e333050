import Highlight.Annotator

/-! Positions as callers give them. Truth values count as 0 and 1. A real number is compared with
positions like any other number, but it names no cluster, so it is of use only where no cluster has
to be found for it. -/
namespace Highlight.Position

def isAtMost (a b : Datum) : Except Fault Bool :=
  match a.isAtMost? b with
  | some result => .ok result
  | none => .error .wrongKind

/-- The position of a cluster. -/
def exact : Datum → Except Fault Int
  | .bool b => .ok (if b then 1 else 0)
  | .int n => .ok n
  | _ => .error .wrongKind

/-- The position that lies `distance` further on. -/
def shift (distance : Int) : Datum → Except Fault Datum
  | .real x => .ok (.real (x.plus distance))
  | other => do return .int ((← exact other) + distance)

/-- Bounds of a mark to record. An empty range stands for all those that no mark can have, whatever
the kind of their numbers. -/
def bounds (start stop : Datum) : Except Fault (Int × Int) := do
  let isEmpty ← isAtMost stop start
  let isInside ← isAtMost (.int 0) start
  if isEmpty || !isInside then return (0, 0)
  else return (← exact start, ← exact stop)

/-- Bounds in a text of `size` clusters, where the end of the text cuts them off. -/
def boundsWithin (size : Int) (start stop : Datum) : Except Fault (Int × Int) := do
  if ← isAtMost stop (.int size) then bounds start stop else bounds start (.int size)

/-- The cluster at a raw position. Where there are no clusters the position is not looked at. -/
def cluster (index : GraphemeIndex) (offset : Datum) : Except Fault Int :=
  if index.starts.isEmpty then .ok 0
  else
    match offset.floor? with
    | some n => .ok (index.toGrapheme n)
    | none => .error .wrongKind

/-- The clusters that cover a raw range. -/
def span (index : GraphemeIndex) (start stop : Datum) : Except Fault (Int × Int) := do
  let first ← cluster index start
  if ← isAtMost stop start then return (first, first)
  else
    let last ← cluster index (← shift (-1) stop)
    return (first, last + 1)

/-- A position held between two others. -/
def clamp (low high position : Datum) : Except Fault Datum := do
  if !(← isAtMost low position) then return low
  else if ← isAtMost position high then return position
  else return high

/-- Grapheme bounds cut down to an index. -/
def clampBoth (index : GraphemeIndex) (start stop : Datum) : Except Fault (Datum × Datum) := do
  let low ← clamp (.int 0) (.int index.size) start
  let high ← clamp low (.int index.size) stop
  return (low, high)

/-- Raw position where a cluster starts, or the end of the text past the last cluster. -/
def offset (index : GraphemeIndex) (position : Datum) : Except Fault Int := do
  if ← isAtMost (.int index.size) position then return index.length
  else return index.offset (← exact position)

/-- Raw range of the clusters between two positions. -/
def toRaw (index : GraphemeIndex) (start stop : Datum) : Except Fault (Int × Int) := do
  let (low, high) ← clampBoth index start stop
  return (← offset index low, ← offset index high)

/-- The index of the clusters between two positions. -/
def sub (index : GraphemeIndex) (start stop : Datum) : Except Fault GraphemeIndex := do
  let (low, high) ← clampBoth index start stop
  return index.sub (← exact low) (← exact high)

/-- The integer a value equals when it is looked up. A value that equals none is found nowhere, and
only one that can name an entry is looked up at all. -/
def key (value : Datum) : Except Fault (Option Int) :=
  if value.isKey then .ok value.toInt? else .error .wrongKind

/-- The mark over exactly the range between two positions. -/
def find? (marks : MarkStore) (start stop : Datum) : Except Fault (Option Mark) := do
  match ← key start, ← key stop with
  | some s, some e => return marks.get? s e
  | _, _ => return none

end Highlight.Position
