import Highlight.Desk

/-! Rendering to fragments: the marks in order, and between them the gaps, which take the default
label. -/
namespace Highlight

structure Fragment where
  /-- The text to show. -/
  text : Text
  /-- The text of the document. -/
  raw : Text
  label : String
  start : Int
  stop : Int
  style : List Attribute := []
  extra : List Attribute := []

namespace Fragment

def css (fragment : Fragment) : Text := declarations fragment.style

/-- What callers choose for a rendering: attributes shared by all fragments, and how their texts
are escaped. -/
structure Options where
  extra : List Attribute := []
  escape : Text → Text := id

def ofRange (annotator : Annotator) (styles : StyleSheet) (options : Options) (start stop : Int)
    (label : String) : Fragment :=
  let raw := annotator.slice start stop
  { text := options.escape raw, raw, label, start, stop,
    style := (styles.resolve label).attributes, extra := options.extra }

/-- Fragments of the marks and of the gaps from `cursor` to the end of the text. -/
def renderFrom (annotator : Annotator) (styles : StyleSheet) (options : Options) :
    (cursor : Int) → List Mark → List Fragment
  | cursor, [] =>
    if cursor < annotator.size then
      [ofRange annotator styles options cursor annotator.size defaultLabel]
    else []
  | cursor, mark :: rest =>
    let marked := ofRange annotator styles options mark.start mark.stop mark.label
    let later := renderFrom annotator styles options mark.stop rest
    if cursor < mark.start then
      ofRange annotator styles options cursor mark.start defaultLabel :: marked :: later
    else marked :: later

/-- An empty text has no fragments, whatever is marked. -/
def render (annotator : Annotator) (styles : StyleSheet) (options : Options) : List Fragment :=
  if annotator.text.isEmpty then []
  else renderFrom annotator styles options 0 annotator.marks.marks

end Fragment

/-- Renders the annotator in hand. Only a text that is not empty is counted. -/
def Work.render (options : Fragment.Options) : Work (List Fragment) := fun desk =>
  let fragments := Fragment.render desk.annotator desk.styles options
  if desk.annotator.text.isEmpty then .ok fragments desk
  else
    let profile := desk.studio.profile.map fun p =>
      p.recordRender desk.annotator.text.length fragments.length
    .ok fragments { desk with studio := { desk.studio with profile } }

end Highlight
