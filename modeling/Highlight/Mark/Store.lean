import Highlight.Fault

/-! The store of pairwise disjoint marks. It keeps the marks in document order and, beside them,
the clusters they take. An insertion that would touch a taken cluster is refused, so the first
writer of a cluster wins; only `replace` writes over marks, and it keeps what they cover. -/
namespace Highlight

structure MarkStore where
  marks : List Mark := []
  taken : List Int := []
  deriving DecidableEq, Repr

namespace MarkStore

def empty : MarkStore := {}

def isTaken (store : MarkStore) (i : Int) : Bool := store.taken.contains i

def anyTaken (store : MarkStore) (start stop : Int) : Bool :=
  store.taken.any fun i => start ≤ i && i < stop

/-- Records a mark unless its range is empty, starts below 0 or touches a taken cluster. -/
def insert (store : MarkStore) (start stop : Int) (label : String) : MarkStore × Bool :=
  if stop ≤ start ∨ start < 0 then (store, false)
  else if store.anyTaken start stop then (store, false)
  else (⟨Order.insert Mark.precedes ⟨start, stop, label⟩ store.marks,
    range start stop ++ store.taken⟩, true)

def insertPoint (store : MarkStore) (i : Int) (label : String) : MarkStore × Bool :=
  store.insert i (i + 1) label

def hasRange (start stop : Int) (mark : Mark) : Bool := mark.start == start && mark.stop == stop

/-- The mark over exactly this range. -/
def get? (store : MarkStore) (start stop : Int) : Option Mark :=
  store.marks.find? (hasRange start stop)

def withLabel (store : MarkStore) (label : String) : List Mark :=
  store.marks.filter fun mark => mark.label == label

/-- Labels in use, sorted. -/
def labels (store : MarkStore) : List String := Order.sortedSet (store.marks.map (·.label))

/-- Deletes the mark over exactly this range and frees its clusters. -/
def remove (store : MarkStore) (start stop : Int) : MarkStore × Option Mark :=
  match store.get? start stop with
  | none => (store, none)
  | some mark =>
    (⟨store.marks.filter fun m => !hasRange start stop m,
      store.taken.filter fun i => !(start ≤ i && i < stop)⟩, some mark)

/-- Deletes the mark over exactly this range, but its clusters stay taken. -/
def forget (store : MarkStore) (start stop : Int) : MarkStore :=
  { store with marks := store.marks.filter fun m => !hasRange start stop m }

/-- Follows tiles from `cursor`, each starting where the one before it ends. -/
def sweep (mark : Mark) : (cursor : Int) → List Mark → Except Fault Unit
  | cursor, [] => if cursor = mark.stop then .ok () else .error (.tilesStop mark cursor)
  | cursor, tile :: rest =>
    if tile.start ≠ cursor ∨ tile.stop ≤ tile.start then .error (.untiled mark cursor)
    else sweep mark tile.stop rest

/-- Swaps the mark over `mark`'s range for tiles of that range, given in any order. The taken
clusters stay as they are. Nothing changes unless all checks pass. -/
def replace (store : MarkStore) (mark : Mark) (tiles : List Mark) : Except Fault MarkStore :=
  let sorted := Order.sort Mark.precedes tiles
  match sweep mark mark.start sorted with
  | .error fault => .error fault
  | .ok () =>
    if store.marks.any (hasRange mark.start mark.stop) then
      let others := store.marks.filter fun m => !hasRange mark.start mark.stop m
      .ok { store with
        marks := sorted.foldl (fun marks tile => Order.insert Mark.precedes tile marks) others }
    else .error (.noSuchRange mark.start mark.stop)

def size (store : MarkStore) : Nat := store.marks.length

/-- The mark is recorded with its range and its label. -/
def contains (store : MarkStore) (mark : Mark) : Bool :=
  store.get? mark.start mark.stop == some mark

def describe (store : MarkStore) : String :=
  "MarkStore(marks=" ++ toString store.marks.length ++ ", taken=" ++
    toString store.taken.length ++ ")"

/-- Calls that change a store. -/
inductive Edit where
  | insert (start stop : Int) (label : String)
  | insertPoint (i : Int) (label : String)
  | remove (start stop : Int)
  | replace (mark : Mark) (tiles : List Mark)
  | clear

/-- The store after a call; a call that fails leaves it as it was. -/
def edit (store : MarkStore) : Edit → MarkStore
  | .insert start stop label => (store.insert start stop label).1
  | .insertPoint i label => (store.insertPoint i label).1
  | .remove start stop => (store.remove start stop).1
  | .replace mark tiles =>
    match store.replace mark tiles with
    | .ok next => next
    | .error _ => store
  | .clear => empty

def run (store : MarkStore) (edits : List Edit) : MarkStore := edits.foldl edit store

end MarkStore

end Highlight
