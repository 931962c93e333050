import Highlight.Text.Basic
import Highlight.Unicode.Printable

/-! The quoted form of a text, used wherever a message shows one. -/
namespace Highlight.Text

def hexDigit (n : Nat) : Char :=
  if n < 10 then Char.ofNat (48 + n) else Char.ofNat (87 + n)

/-- The low `width` hexadecimal digits, most significant first. -/
def hex : (width : Nat) → Nat → Text
  | 0, _ => []
  | width + 1, n => hex width (n / 16) ++ [hexDigit (n % 16)]

def apostrophe : Char := '\x27'

/-- Single quotes, unless the text has a single quote and no double one. -/
def quoteFor (text : Text) : Char :=
  if text.contains apostrophe && !text.contains '"' then '"' else apostrophe

def quoteChar (quote c : Char) : Text :=
  if c == quote || c == '\\' then ['\\', c]
  else if c == '\n' then ['\\', 'n']
  else if c == '\r' then ['\\', 'r']
  else if c == '\t' then ['\\', 't']
  else if Unicode.isPrintable c then [c]
  else if c.toNat < 0x100 then '\\' :: 'x' :: hex 2 c.toNat
  else if c.toNat < 0x10000 then '\\' :: 'u' :: hex 4 c.toNat
  else '\\' :: 'U' :: hex 8 c.toNat

def quoted (text : Text) : Text :=
  let quote := quoteFor text
  quote :: text.flatMap (quoteChar quote) ++ [quote]

end Highlight.Text

namespace Highlight

def quotedString (s : String) : String := String.ofList (Text.quoted s.toList)

end Highlight
