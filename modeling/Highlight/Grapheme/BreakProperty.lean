import Highlight.Unicode.Combining
import Highlight.Unicode.Control
import Highlight.Unicode.Symbol

/-! Grapheme break properties of single characters. They approximate the standard's values by
general categories where those suffice for source text. -/
namespace Highlight

inductive BreakProperty where
  | control | extend | spacingMark | joiner | regional | prepend
  | jamoL | jamoV | jamoT | syllableLV | syllableLVT
  | other
  deriving DecidableEq, Repr

namespace BreakProperty

/-- Arabic number signs and a few Brahmic signs, which attach to what follows. -/
def prependRanges : List (Nat × Nat) := [
  (0x600, 0x605), (0x6dd, 0x6dd), (0x70f, 0x70f), (0x890, 0x891), (0x8e2, 0x8e2), (0xd4e, 0xd4e),
  (0x110bd, 0x110bd), (0x110cd, 0x110cd), (0x111c2, 0x111c3), (0x1193f, 0x1193f),
  (0x11941, 0x11941), (0x11a3a, 0x11a3a), (0x11a84, 0x11a89), (0x11d46, 0x11d46),
  (0x11f02, 0x11f02)]

/-- Variation selectors, emoji modifiers and tag characters. -/
def modifierRanges : List (Nat × Nat) := [
  (0xfe00, 0xfe0f), (0x1f3fb, 0x1f3ff), (0xe0020, 0xe007f), (0xe0100, 0xe01ef)]

def jamoLRanges : List (Nat × Nat) := [(0x1100, 0x115f), (0xa960, 0xa97c)]
def jamoVRanges : List (Nat × Nat) := [(0x1160, 0x11a7), (0xd7b0, 0xd7c6)]
def jamoTRanges : List (Nat × Nat) := [(0x11a8, 0x11ff), (0xd7cb, 0xd7fb)]

def ofChar (c : Char) : BreakProperty :=
  let code := c.toNat
  if c == '\r' || c == '\n' then control
  else if code = 0x200d then joiner
  else if code = 0x200c then extend
  else if 0x1f1e6 ≤ code ∧ code ≤ 0x1f1ff then regional
  else if Unicode.covers code prependRanges then prepend
  else if Unicode.covers code jamoLRanges then jamoL
  else if Unicode.covers code jamoVRanges then jamoV
  else if Unicode.covers code jamoTRanges then jamoT
  else if 0xac00 ≤ code ∧ code ≤ 0xd7a3 then
    if (code - 0xac00) % 28 = 0 then syllableLV else syllableLVT
  else if Unicode.covers code modifierRanges then extend
  else if Unicode.isNonspacing c then extend
  else if Unicode.isSpacing c then spacingMark
  else if Unicode.isControl c then control
  else other

/-- The standard's name of the property. -/
def name : BreakProperty → String
  | control => "Control"
  | extend => "Extend"
  | spacingMark => "SpacingMark"
  | joiner => "ZWJ"
  | regional => "Regional_Indicator"
  | prepend => "Prepend"
  | jamoL => "L"
  | jamoV => "V"
  | jamoT => "T"
  | syllableLV => "LV"
  | syllableLVT => "LVT"
  | other => "Other"

end BreakProperty

/-- Emoji and pictographic symbols. -/
def isPictographic (c : Char) : Bool :=
  let code := c.toNat
  (0x1f000 ≤ code && code ≤ 0x1faff) || (0x2600 ≤ code && code ≤ 0x27bf) ||
    Unicode.isOtherSymbol c

end Highlight
