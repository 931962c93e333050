import Highlight.Text.Basic

/-! Literal search. `occurrences` selects greedily from the left without overlap; `find?` and
`findLast?` give the first and the last place, where an empty target is found at the edge. -/
namespace Highlight.Text

/-- Positions where `accept`, given the character before and the rest of the text, holds. A chosen
position hides the `width - 1` positions after it. -/
def scan (accept : Option Char → Text → Bool) (width : Nat) :
    (before : Option Char) → (position skip : Nat) → Text → List Nat
  | _, _, _, [] => []
  | _, position, skip + 1, c :: rest => scan accept width (some c) (position + 1) skip rest
  | before, position, 0, c :: rest =>
    if accept before (c :: rest) then
      position :: scan accept width (some c) (position + 1) (width - 1) rest
    else scan accept width (some c) (position + 1) 0 rest

/-- Non-overlapping occurrences of a non-empty target, left to right. -/
def occurrences (text target : Text) : List Nat :=
  scan (fun _ rest => target.isPrefixOf rest) target.length none 0 0 text

/-- Occurrences whose neighbours on both sides satisfy `edge` or lie outside the text. -/
def delimitedOccurrences (text : Text) (edge : Char → Bool) (target : Text) : List Nat :=
  scan (fun before rest =>
      target.isPrefixOf rest && before.all edge && (rest.drop target.length).head?.all edge)
    target.length none 0 0 text

def findFrom (target : Text) : (position : Nat) → Text → Option Nat
  | position, [] => if target.isEmpty then some position else none
  | position, c :: rest =>
    if target.isPrefixOf (c :: rest) then some position else findFrom target (position + 1) rest

/-- First occurrence at or after `start`, for `start` inside the text or at its end. -/
def find? (text target : Text) (start : Nat) : Option Nat :=
  findFrom target start (text.drop start)

def findLastFrom (target : Text) : (position : Nat) → Text → Option Nat
  | position, [] => if target.isEmpty then some position else none
  | position, c :: rest =>
    match findLastFrom target (position + 1) rest with
    | some found => some found
    | none => if target.isPrefixOf (c :: rest) then some position else none

/-- Last occurrence that ends at or before `stop`. -/
def findLast? (text target : Text) (stop : Nat) : Option Nat :=
  findLastFrom target 0 (text.take stop)

end Highlight.Text
