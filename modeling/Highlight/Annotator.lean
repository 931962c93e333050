import Highlight.Config
import Highlight.Grapheme.Index
import Highlight.Mark.Store
import Highlight.Presentation

/-! An annotator holds one text and its marks. Positions are grapheme positions, except where a
name says raw. -/
namespace Highlight

structure Annotator where
  text : Text := []
  index : GraphemeIndex := ⟨[], 0⟩
  marks : MarkStore := {}
  /-- 0 for documents, one more for each region scanned again on the way here. -/
  depth : Int := 0
  deriving DecidableEq, Repr

namespace Annotator

def ofText (text : Text) : Annotator := { text, index := .ofText text }

/-- The text to hold for a given one: decoded if asked for, or if the settings say so. -/
def heldText (config : Config) (normalize : Option Bool) (text : Text) : Text :=
  if normalize.getD config.normalizeInput.isTrue then Presentation.normalize text else text

/-- Replaces the text and drops every mark. -/
def setText (annotator : Annotator) (config : Config) (text : Text) (normalize : Option Bool) :
    Annotator :=
  let held := heldText config normalize text
  { annotator with text := held, index := .ofText held, marks := .empty }

/-- A document over a text. -/
def create (config : Config) (text : Text) (normalize : Option Bool) : Annotator :=
  ofText (heldText config normalize text)

def clear (annotator : Annotator) : Annotator := { annotator with marks := .empty }

def size (annotator : Annotator) : Int := annotator.index.size

/-- Inserts into the mark store as is. -/
def insert (annotator : Annotator) (start stop : Int) (label : String) : Annotator × Bool :=
  let (marks, recorded) := annotator.marks.insert start stop label
  ({ annotator with marks }, recorded)

/-- Marks the clusters `start` to `stop - 1`, cut off at the end of the text. -/
def mark (annotator : Annotator) (start stop : Int) (label : String) : Annotator × Bool :=
  annotator.insert start (min stop annotator.size) label

def markPoint (annotator : Annotator) (i : Int) (label : String) : Annotator × Bool :=
  annotator.mark i (i + 1) label

/-- Marks the clusters that cover a raw range. -/
def markRaw (annotator : Annotator) (rawStart rawStop : Int) (label : String) :
    Annotator × Bool :=
  let (start, stop) := annotator.index.span rawStart rawStop
  annotator.insert start stop label

/-- Text of the clusters `start` to `stop - 1`. -/
def slice (annotator : Annotator) (start stop : Int) : Text :=
  let (rawStart, rawStop) := annotator.index.toRaw start stop
  annotator.text.slice rawStart rawStop

def textOf (annotator : Annotator) (mark : Mark) : Text := annotator.slice mark.start mark.stop

def graphemes (annotator : Annotator) : List Text :=
  Grapheme.cut annotator.text annotator.index.starts

/-- The clusters `start` to `stop - 1` as a text of their own, one level deeper and without marks.
Cluster `i` of the child is cluster `start + i` of the parent. -/
def child (annotator : Annotator) (start stop : Int) : Annotator where
  text := annotator.slice start stop
  index := annotator.index.sub start stop
  marks := .empty
  depth := annotator.depth + 1

/-- Records ranges one after another and counts those that were not refused. -/
def record (annotator : Annotator) (label : String) : List (Int × Int) → Annotator × Int
  | [] => (annotator, 0)
  | (start, stop) :: rest =>
    let (next, recorded) := annotator.insert start stop label
    let (last, count) := next.record label rest
    (last, (if recorded then 1 else 0) + count)

def preview (text : Text) : Text :=
  if text.length ≤ 20 then text else text.take 17 ++ ['.', '.', '.']

def describe (annotator : Annotator) : String :=
  "Annotator(" ++ String.ofList (Text.quoted (preview annotator.text)) ++ ", marks=" ++
    toString annotator.marks.size ++ ", depth=" ++ toString annotator.depth ++ ")"

end Annotator

end Highlight
