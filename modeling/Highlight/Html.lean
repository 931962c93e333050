import Highlight.Fragment

/-! Fragments as elements with inline styles. Names of tags, attributes and style properties are
checked, because they are written as they are; values and texts are escaped. -/
namespace Highlight.Html

def isAsciiLetter (c : Char) : Bool := ('a' ≤ c && c ≤ 'z') || ('A' ≤ c && c ≤ 'Z')
def isAsciiDigit (c : Char) : Bool := '0' ≤ c && c ≤ '9'

/-- One starting character, then any number of further ones. -/
def isName (first further : Char → Bool) : Text → Bool
  | [] => false
  | c :: rest => first c && rest.all further

def isTagName : Text → Bool :=
  isName isAsciiLetter fun c => isAsciiLetter c || isAsciiDigit c || c == '-'

def isAttributeName : Text → Bool :=
  isName (fun c => isAsciiLetter c || c == '_' || c == ':') fun c =>
    isAsciiLetter c || isAsciiDigit c || c == '-' || c == '_' || c == ':' || c == '.'

/-- A property name may start with one dash. -/
def isPropertyName (name : Text) : Bool :=
  let stem := match name with
    | '-' :: rest => rest
    | _ => name
  isName (fun c => isAsciiLetter c || c == '_')
    (fun c => isAsciiLetter c || isAsciiDigit c || c == '-' || c == '_') stem

structure Renderer where
  /-- Class of every element; there is none if it does not count as true. -/
  cssClass : Datum := .text "modiftxt"
  tag : Text := "span".toList
  escape : Text → Text := Presentation.escape

/-- Only a renderer with a proper tag name can be used. -/
def Renderer.check (renderer : Renderer) : Except Fault Unit :=
  if isTagName renderer.tag then .ok () else .error (.invalidTag renderer.tag)

def quotedAttribute (name value : Text) : Text :=
  ' ' :: name ++ '=' :: '"' :: Presentation.escapeValue value ++ ['"']

/-- Only texts can be values here. -/
def extraAttribute (name : String) (value : Datum) : Except Fault Text :=
  if isAttributeName name.toList then
    match value with
    | .text written => .ok (quotedAttribute name.toList written.toList)
    | _ => .error .notText
  else .error (.invalidAttribute name)

def extraAttributes : List Attribute → Except Fault Text
  | [] => .ok []
  | (name, value) :: rest => do
    let first ← extraAttribute name value
    let later ← extraAttributes rest
    return first ++ later

/-- The first improper property name is the fault. -/
def checkProperties (label : String) : List Attribute → Except Fault Unit
  | [] => .ok ()
  | (name, _) :: rest =>
    if isPropertyName name.toList then checkProperties label rest
    else .error (.invalidProperty name label)

def styleAttribute (fragment : Fragment) : Text :=
  if fragment.style.isEmpty then [] else quotedAttribute "style".toList fragment.css

def element (tag : Text) (fragment : Fragment) : Except Fault Text := do
  checkProperties fragment.label fragment.style
  let extra ← extraAttributes fragment.extra
  return '<' :: tag ++ extra ++ styleAttribute fragment ++ '>' :: fragment.text ++
    '<' :: '/' :: tag ++ ['>']

/-- One element for each fragment, in order. -/
def elements (tag : Text) : List Fragment → Except Fault Text
  | [] => .ok []
  | fragment :: rest => do
    let first ← element tag fragment
    let later ← elements tag rest
    return first ++ later

/-- The class as an attribute of every fragment. -/
def Renderer.options (renderer : Renderer) : Fragment.Options where
  extra := if renderer.cssClass.isTrue then [("class", renderer.cssClass)] else []
  escape := renderer.escape

/-- Renders the annotator in hand. -/
def Renderer.render (renderer : Renderer) : Work Text := do
  Work.lift renderer.check
  let fragments ← Work.render renderer.options
  Work.lift (elements renderer.tag fragments)

/-- Writes fragments as they are. They are rendered before the tag name is looked at. -/
def Renderer.renderWith (renderer : Renderer) (extra : List Attribute) : Work Text := do
  let fragments ← Work.render { extra }
  Work.lift renderer.check
  Work.lift (elements renderer.tag fragments)

end Highlight.Html
