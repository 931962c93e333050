import Highlight.Entity.Reference

/-! Text in markup. `escape` writes a text so that a page shows it unchanged, blanks and line
breaks included; `unescape` reads that back; `normalize` decodes the few forms that editors put
into source text. -/
namespace Highlight.Presentation

def escapeChar (c : Char) : Text :=
  if c == '&' then "&amp;".toList
  else if c == '<' then "&lt;".toList
  else if c == '>' then "&gt;".toList
  else if c == '"' then "&quot;".toList
  else if c == ' ' then "&nbsp;".toList
  else if c == '\n' then "<br>".toList
  else if c == '\\' then "&bsol;".toList
  else [c]

def escape (text : Text) : Text := text.flatMap escapeChar

def unescape (text : Text) : Except Fault Text :=
  let broken := text.replaceAll "<br>".toList ['\n']
  let spaced := broken.replaceAll "&nbsp;".toList [' ']
  Entity.decode (spaced.replaceAll "&bsol;".toList ['\\'])

/-- Attribute values stand in double quotes; both kinds of quote are escaped. -/
def escapeValueChar (c : Char) : Text :=
  if c == '&' then "&amp;".toList
  else if c == '<' then "&lt;".toList
  else if c == '>' then "&gt;".toList
  else if c == '"' then "&quot;".toList
  else if c == '\x27' then "&#x27;".toList
  else [c]

def escapeValue (text : Text) : Text := text.flatMap escapeValueChar

/-- The forms decoded on input. -/
def inputForms : List (Text × Text) := [
  ("</br>".toList, ['\n']), ("<br>".toList, ['\n']), ("&nbsp;".toList, [' ']),
  ("&#40;".toList, ['(']), ("&#41;".toList, [')']), ("&#34;".toList, ['"']),
  ("&#60;".toList, ['<']), ("&#62;".toList, ['>']), ("&#36;".toList, ['$']),
  ("&#61;".toList, ['=']), ("&lt;".toList, ['<']), ("&gt;".toList, ['>'])]

def firstForm (rest : Text) : List (Text × Text) → Option (Nat × Text)
  | [] => none
  | (form, written) :: forms =>
    if form.isPrefixOf rest then some (form.length, written) else firstForm rest forms

/-- One pass: what a decoded form writes is not decoded again. -/
def normalize (text : Text) : Text := Text.substitute (firstForm · inputForms) 0 text

end Highlight.Presentation
