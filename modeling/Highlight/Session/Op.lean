import Highlight.Session.Call

/-! Operations on the annotator in hand, as data. -/
namespace Highlight.Session

inductive Op where
  | setText (text : Text) (normalize : Option Bool)
  | clear
  | mark (start stop : Datum) (label : String)
  | markPoint (i : Datum) (label : String)
  | markRaw (start stop : Datum) (label : String)
  | search (request : Request) (label : String)
  | apply (rules : List Rule)
  | grammarMark (name : String)
  | grammarStyle (name : String)
  | grammarHighlight (name : String)
  | store (calls : List StoreCall)
  | styles (calls : List StyleCall)
  | index (calls : List IndexCall)
  | style (label : String) (source : AttributeSource) (named : List (Datum × Datum))
  | removeStyle (label : String)
  | styleLabels
  | marksWithLabel (label : String)
  | slice (start stop : Datum)
  | texts
  | graphemes
  | info
  | render (options : Fragment.Options)
  | html (renderer : Html.Renderer)
  | htmlFragments (extra : List Attribute) (renderer : Html.Renderer)
  /-- Something that could not be read as an operation. -/
  | refused (fault : Fault)

namespace Op

/-- The operations that write text and marks through the annotator itself. The calls on its mark
store are not among them. -/
def isEdit : Op → Bool
  | setText .. | clear | mark .. | markPoint .. | markRaw .. | search .. | apply .. => true
  | grammarMark _ => true
  | _ => false

/-- Attributes in order, those with names in a mapping last; only texts can be such names. -/
def styleEntries (source : AttributeSource) (named : List (Datum × Datum)) :
    Except Fault (List (Datum × Datum)) :=
  if source.isSound && named.all fun entry => entry.1.isText then
    .ok (source.entries ++ (Table.ofEntries named).map fun (name, value) =>
      (.text (dashed name.plain), value))
  else .error .wrongKind

def grammarNamed (name : String) : Work Grammar := do
  let desk ← get
  Work.lift (desk.studio.registry.find name)

def query (f : Desk → Answer) : Work Answer := fun desk => .ok (f desk) desk

/-- Marks the clusters between two positions. -/
def markBetween (start stop : Datum) (label : String) : Work Answer := do
  let (a, b) ← Work.lift (Position.boundsWithin (← get).annotator.size start stop)
  return .flag (← Work.update fun annotator => annotator.mark a b label)

def run : Op → Work Answer
  | setText text normalize => fun desk =>
    .ok .nothing { desk with
      annotator := desk.annotator.setText desk.studio.config text normalize }
  | clear => Work.update fun a => (a.clear, .nothing)
  | mark start stop label => markBetween start stop label
  | markPoint i label => do markBetween i (← Work.lift (Position.shift 1 i)) label
  | markRaw start stop label => do
    let (a, b) ← Work.lift (Position.span (← get).annotator.index start stop)
    return .flag (← Work.update fun annotator => annotator.insert a b label)
  | search request label => do
    return .count (← Work.ask request label)
  | apply rules => do
    return .count (← Rule.applyAll rules)
  | grammarMark name => do
    let grammar ← grammarNamed name
    return .count (← grammar.mark)
  | grammarStyle name => do
    let grammar ← grammarNamed name
    modify fun desk => { desk with styles := grammar.style desk.styles }
    return .nothing
  | grammarHighlight name => do
    let grammar ← grammarNamed name
    grammar.highlight
    return .flag true
  | store calls => fun desk =>
    let (marks, answers) := runCalls StoreCall.run desk.annotator.marks calls
    .ok (.calls answers) { desk with annotator := { desk.annotator with marks } }
  | styles calls => fun desk =>
    let (sheet, answers) := runCalls StyleCall.run desk.styles calls
    .ok (.calls answers) { desk with styles := sheet }
  | index calls => query fun desk =>
    .calls (calls.map (IndexCall.run desk.annotator.index))
  | style label source named => do
    let entries ← Work.lift (styleEntries source named)
    let rule := ⟨label, (AttributeSource.pairs entries).attributes⟩
    modify fun desk => { desk with styles := desk.styles.add rule }
    return .rule (some rule)
  | removeStyle label => fun desk =>
    .ok .nothing { desk with styles := desk.styles.remove label }
  | styleLabels => query fun desk => .words desk.styles.sortedLabels
  | marksWithLabel label => query fun desk => .marks (desk.annotator.marks.withLabel label)
  | slice start stop => do
    let annotator := (← get).annotator
    let (a, b) ← Work.lift (Position.toRaw annotator.index start stop)
    return .text (annotator.text.slice a b)
  | texts => query fun desk => .texts (desk.annotator.marks.marks.map desk.annotator.textOf)
  | graphemes => query fun desk => .texts desk.annotator.graphemes
  | info => query fun desk => .annotator desk.annotator
  | render options => do
    return .fragments (← Work.render options)
  | html renderer => do
    return .text (← renderer.render)
  | htmlFragments extra renderer => do
    return .text (← renderer.renderWith extra)
  | refused fault => throw fault

end Op

end Highlight.Session
