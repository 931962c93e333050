import Highlight.Annotator
import Highlight.Style

/-! Annotators that are put away, to be found by name. Each keeps its place for good: a name given
to a new annotator leaves the old one where it is, so that work begun on it can still be put back.
Annotators may share a style sheet, so sheets have places of their own. -/
namespace Highlight

structure Shelf where
  sheets : List StyleSheet := []
  /-- Every annotator with the place of its style sheet. -/
  annotators : List (Annotator × Nat) := []
  /-- The place of the annotator that a name stands for. -/
  names : Table String Nat := []

namespace Shelf

/-- Puts an annotator in a new place, under a name, with the sheet at a given place. -/
def addAt (shelf : Shelf) (name : String) (annotator : Annotator) (sheet : Nat) : Shelf :=
  { shelf with
    annotators := shelf.annotators ++ [(annotator, sheet)]
    names := shelf.names.put name shelf.annotators.length }

/-- Adds an annotator with a style sheet of its own. -/
def add (shelf : Shelf) (name : String) (annotator : Annotator) (styles : StyleSheet) : Shelf :=
  { shelf with sheets := shelf.sheets ++ [styles] }.addAt name annotator shelf.sheets.length

/-- The place of a named annotator, the annotator, and the place of its sheet. -/
def find? (shelf : Shelf) (name : String) : Option (Nat × Annotator × Nat) := do
  let place ← shelf.names.find? name
  let (annotator, sheet) ← shelf.annotators[place]?
  return (place, annotator, sheet)

/-- Adds an annotator that shares the style sheet of a named one. -/
def addSharing (shelf : Shelf) (name : String) (annotator : Annotator) (owner : String) :
    Option Shelf :=
  (shelf.find? owner).map fun (_, _, sheet) => shelf.addAt name annotator sheet

/-- The sheet at a place. -/
def sheet (shelf : Shelf) (place : Nat) : StyleSheet := (shelf.sheets[place]?).getD {}

/-- Puts an annotator and its style sheet back in their places. -/
def putBack (shelf : Shelf) (place : Nat) (annotator : Annotator) (sheet : Nat)
    (styles : StyleSheet) : Shelf :=
  { shelf with
    sheets := shelf.sheets.set sheet styles
    annotators := shelf.annotators.set place (annotator, sheet) }

end Shelf

end Highlight
