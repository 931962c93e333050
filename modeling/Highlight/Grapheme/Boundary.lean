import Highlight.Grapheme.BreakProperty
import Highlight.Text.Basic

/-! Grapheme cluster boundaries, found in one pass from the left. The scan remembers the last
character, the length of the run of regional indicators that ends there, and whether a pictograph
after a joiner would continue the cluster. -/
namespace Highlight.Grapheme

open BreakProperty

structure Scan where
  last : Char
  property : BreakProperty
  regionals : Nat
  emoji : Bool

def Scan.first (c : Char) : Scan where
  last := c
  property := ofChar c
  regionals := if ofChar c = regional then 1 else 0
  emoji := isPictographic c

/-- Hangul jamo and syllables that make up one syllable block. -/
def syllablesJoin : BreakProperty → BreakProperty → Bool
  | jamoL, jamoL | jamoL, jamoV | jamoL, syllableLV | jamoL, syllableLVT => true
  | syllableLV, jamoV | syllableLV, jamoT | jamoV, jamoV | jamoV, jamoT => true
  | syllableLVT, jamoT | jamoT, jamoT => true
  | _, _ => false

def attaches (property : BreakProperty) : Bool :=
  property = extend || property = joiner || property = spacingMark

/-- No boundary falls between the scanned text and `c`. -/
def Scan.joins (scan : Scan) (c : Char) : Bool :=
  let property := ofChar c
  if scan.last == '\r' && c == '\n' then true
  else if scan.property = control ∨ property = control then false
  else if syllablesJoin scan.property property then true
  else if attaches property then true
  else if scan.property = prepend then true
  else if scan.property = joiner ∧ scan.emoji ∧ isPictographic c then true
  else if scan.property = regional ∧ property = regional then scan.regionals % 2 = 1
  else false

def Scan.advance (scan : Scan) (c : Char) : Scan where
  last := c
  property := ofChar c
  regionals := if ofChar c = regional then scan.regionals + 1 else 0
  emoji :=
    if scan.joins c && (ofChar c = extend || ofChar c = joiner) then scan.emoji
    else isPictographic c

/-- Cluster starts in the rest of a text, whose first character has raw position `position`. -/
def startsAfter : Scan → (position : Nat) → Text → List Nat
  | _, _, [] => []
  | scan, position, c :: rest =>
    if scan.joins c then startsAfter (scan.advance c) (position + 1) rest
    else position :: startsAfter (scan.advance c) (position + 1) rest

/-- Raw position of the start of every cluster. -/
def starts : Text → List Nat
  | [] => []
  | c :: rest => 0 :: startsAfter (Scan.first c) 1 rest

/-- Cuts a text at the given positions; the last piece runs to the end. -/
def cut (text : Text) : List Int → List Text
  | [] => []
  | [start] => [text.slice start text.length]
  | start :: next :: rest => text.slice start next :: cut text (next :: rest)

def split (text : Text) : List Text := cut text ((starts text).map Int.ofNat)

end Highlight.Grapheme
