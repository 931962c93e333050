import Highlight.Session.Answer

/-! Calls on the parts of an annotator: its index, its mark store and its style sheet. -/
namespace Highlight.Session

inductive IndexCall where
  | toGrapheme (offset : Datum)
  | toRaw (start stop : Datum)
  | span (start stop : Datum)
  | sub (start stop : Datum)
  | size
  | nonempty
  | describe
  | equalsText (text : Datum)
  /-- Comparison with a value that is no index. -/
  | equalsOther

namespace IndexCall

/-- The text to index; an empty value of another kind is an empty one. -/
def textOf : Datum → Except Fault Text
  | .text s => .ok s.toList
  | .list [] | .record [] => .ok []
  | _ => .error .wrongKind

def run (index : GraphemeIndex) : IndexCall → Except Fault Answer
  | toGrapheme offset => (Position.cluster index offset).map .count
  | toRaw start stop => (Position.toRaw index start stop).map fun (a, b) => .bounds a b
  | span start stop => (Position.span index start stop).map fun (a, b) => .bounds a b
  | sub start stop => (Position.sub index start stop).map .index
  | size => .ok (.count index.size)
  | nonempty => .ok (.flag (!index.starts.isEmpty))
  | describe => .ok (.word (some index.describe))
  | equalsText text => (textOf text).map fun t => .sameIndex (index == GraphemeIndex.ofText t)
  | equalsOther => .ok (.flag false)

end IndexCall

inductive StoreCall where
  | insert (start stop : Datum) (label : String)
  | insertPoint (i : Datum) (label : String)
  | clear
  | isTaken (i : Datum)
  | anyTaken (start stop : Datum)
  | get (start stop : Datum)
  | withLabel (label : Datum)
  | labels
  | remove (start stop : Datum)
  | replace (mark : Mark) (tiles : List Mark)
  | size
  | nonempty
  | contains (start stop label : Datum)
  /-- Membership of a value that is no mark. -/
  | containsOther
  | describe
  /-- Something that could not be read as a call. -/
  | refused (fault : Fault)

namespace StoreCall

/-- The change a call makes, if it makes one. -/
def edit? : StoreCall → Except Fault (Option MarkStore.Edit)
  | insert start stop label => do
    let (a, b) ← Position.bounds start stop
    return some (.insert a b label)
  | insertPoint i label => do
    let (a, b) ← Position.bounds i (← Position.shift 1 i)
    return some (.insert a b label)
  | clear => .ok (some .clear)
  | remove start stop => do
    match ← Position.key start, ← Position.key stop with
    | some a, some b => return some (.remove a b)
    | _, _ => return none
  | replace mark tiles => .ok (some (.replace mark tiles))
  | _ => .ok none

/-- A mark in the words of the caller who asked for it. -/
def foundAt (start stop : Datum) (mark : Option Mark) : Answer :=
  match mark with
  | some m => .found start stop m.label
  | none => .mark none

/-- What a store answers before it is changed. -/
def answer (store : MarkStore) : StoreCall → Except Fault Answer
  | insert start stop label => do
    let (a, b) ← Position.bounds start stop
    return .flag (store.insert a b label).2
  | insertPoint i label => do
    let (a, b) ← Position.bounds i (← Position.shift 1 i)
    return .flag (store.insert a b label).2
  | clear => .ok .nothing
  | isTaken i => return .flag ((← Position.key i).any store.isTaken)
  | anyTaken start stop =>
    return .flag (store.anyTaken (← Position.exact start) (← Position.exact stop))
  | get start stop => return foundAt start stop (← Position.find? store start stop)
  | withLabel label => .ok (.marks (label.text?.elim [] store.withLabel))
  | labels => .ok (.words store.labels)
  | remove start stop => do
    let mark ← Position.find? store start stop
    if mark.isSome && (start.isReal || stop.isReal) then .error .wrongKind
    else return foundAt start stop mark
  | replace mark tiles => (store.replace mark tiles).map fun _ => .nothing
  | size => .ok (.count store.size)
  | nonempty => .ok (.flag (!store.marks.isEmpty))
  | contains start stop label => do
    match ← Position.find? store start stop, label with
    | some mark, .text l => return .flag (mark.label == l)
    | none, .none => return .flag true
    | _, _ => return .flag false
  | containsOther => .ok (.flag false)
  | describe => .ok (.word (some store.describe))
  | refused fault => .error fault

/-- The store after a call. Bounds that are real numbers find a mark to remove but no clusters to
free. -/
def after (store : MarkStore) (call : StoreCall) : MarkStore :=
  match call, call.edit? with
  | remove start stop, .ok (some (.remove a b)) =>
    if start.isReal || stop.isReal then store.forget a b else store.edit (.remove a b)
  | _, .ok (some change) => store.edit change
  | _, _ => store

def run (store : MarkStore) (call : StoreCall) : MarkStore × Except Fault Answer :=
  (call.after store, call.answer store)

end StoreCall

inductive StyleCall where
  | set (label : String) (source : AttributeSource)
  | add (rule : StyleRule)
  | remove (label : Datum)
  | get (label : Datum)
  | resolve (label : Datum)
  /-- The value of an attribute, or else a given one. -/
  | value (label name default : Datum)
  | labels
  | clear
  /-- Labels of a copy to which a rule is added; the sheet itself stays as it is. -/
  | copyWith (rule : StyleRule)
  | contains (label : Datum)
  | list
  | size
  | describe

namespace StyleCall

/-- The label to look for; a value that names entries but is no text finds none. -/
def sought (label : Datum) : Except Fault (Option String) :=
  if label.isKey then .ok label.text? else .error .wrongKind

/-- The rule of a label, if there is one. -/
def ruleOf (sheet : StyleSheet) (label : Datum) : Except Fault (Option StyleRule) :=
  return (← sought label).bind sheet.get?

/-- The rule of a label, or else the one that stands in for it. -/
def resolved (sheet : StyleSheet) (label : Datum) : Except Fault StyleRule :=
  return (← ruleOf sheet label).getD sheet.fallback

def perform (sheet : StyleSheet) : StyleCall → Except Fault (StyleSheet × Answer)
  | set label source =>
    let rule := ⟨label, source.attributes⟩
    if source.isSound then .ok (sheet.add rule, .rule (some rule)) else .error .wrongKind
  | add rule => .ok (sheet.add rule, .nothing)
  | remove label => do
    let removed ← ruleOf sheet label
    return (removed.elim sheet fun rule => sheet.remove rule.label, .rule removed)
  | get label => return (sheet, .rule (← ruleOf sheet label))
  | resolve label => return (sheet, .rule (some (← resolved sheet label)))
  | value label name default => do
    let rule ← resolved sheet label
    return (sheet, .value ((name.text?.bind rule.get?).getD default))
  | labels => .ok (sheet, .words sheet.sortedLabels)
  | clear => .ok (.empty, .nothing)
  | copyWith rule => .ok (sheet, .words (sheet.add rule).labels)
  | contains label => return (sheet, .flag (← ruleOf sheet label).isSome)
  | list => .ok (sheet, .rules sheet.rules)
  | size => .ok (sheet, .count sheet.size)
  | describe => .ok (sheet, .word (some sheet.describe))

/-- A call that fails leaves the sheet as it was. -/
def run (sheet : StyleSheet) (call : StyleCall) : StyleSheet × Except Fault Answer :=
  match perform sheet call with
  | .ok (next, answer) => (next, .ok answer)
  | .error fault => (sheet, .error fault)

end StyleCall

/-- Runs calls one after another; a call that fails does not stop the next. -/
def runCalls (step : σ → κ → σ × Except Fault Answer) :
    σ → List κ → σ × List (Except Fault Answer)
  | state, [] => (state, [])
  | state, call :: rest =>
    let (next, answer) := step state call
    let (last, answers) := runCalls step next rest
    (last, answer :: answers)

end Highlight.Session
