import Highlight.Text.Basic
import Highlight.Unicode.Casing

/-! Full lowercasing. Two rules go beyond a mapping of single characters: the dotted capital I
becomes two characters, and a capital sigma that ends a word becomes the final form. -/
namespace Highlight.Text

def lowercaseChar (c : Char) : Char :=
  Char.ofNat (Unicode.lowercaseCode c.toNat Unicode.lowercaseRuns)

/-- The nearest character that is not case-ignorable is a cased letter. -/
def meetsCased (text : Text) : Bool :=
  match text.dropWhile Unicode.isCaseIgnorable with
  | [] => false
  | c :: _ => Unicode.isCased c

/-- `before` holds the characters already passed, nearest first. -/
def lowercaseFrom : (before : Text) → Text → Text
  | _, [] => []
  | before, c :: rest =>
    let image :=
      if c.toNat = 0x3a3 then
        if meetsCased before && !meetsCased rest then [Char.ofNat 0x3c2] else [Char.ofNat 0x3c3]
      else if c.toNat = 0x130 then [Char.ofNat 0x69, Char.ofNat 0x307]
      else [lowercaseChar c]
    image ++ lowercaseFrom (c :: before) rest

def lowercase (text : Text) : Text := lowercaseFrom [] text

end Highlight.Text

namespace Highlight

def lowercaseString (s : String) : String := String.ofList (Text.lowercase s.toList)

end Highlight
