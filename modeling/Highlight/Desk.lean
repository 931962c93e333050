import Highlight.Grammar.Registry
import Highlight.Profile
import Highlight.Shelf

/-! Work on one annotator: what it may read and change, and how it fails. A failure keeps what was
done before it. -/
namespace Highlight

/-- What all annotators share. -/
structure Studio where
  config : Config := {}
  registry : Registry := .builtin
  /-- Counters, while work is observed. -/
  profile : Option Profile := none
  /-- Annotators that are put away. -/
  shelf : Shelf := {}

/-- An annotator in hand, with its style sheet. -/
structure Desk where
  annotator : Annotator := {}
  styles : StyleSheet := {}
  studio : Studio := {}

abbrev Work := EStateM Fault Desk

namespace Work

def lift (result : Except Fault α) : Work α := fun desk =>
  match result with
  | .ok a => .ok a desk
  | .error fault => .error fault desk

/-- The outcome and the desk as it was left. -/
def attempt (work : Work α) (desk : Desk) : Except Fault α × Desk :=
  match work desk with
  | .ok a after => (.ok a, after)
  | .error fault after => (.error fault, after)

/-- Applies a function to the annotator. -/
def update (f : Annotator → Annotator × α) : Work α := fun desk =>
  let (annotator, a) := f desk.annotator
  .ok a { desk with annotator }

def search (matcher : Matcher) (label : String) : Work Int := fun desk =>
  match matcher.run desk.studio.config desk.annotator label with
  | .ok (annotator, count) => .ok count { desk with annotator }
  | .error fault => .error fault desk

/-- Places regions one after another and records them where they are placed. One that cannot be
placed ends the work, but not what was recorded before it. -/
def recordPlaced (request : Request) (label : String) : List (Int × Int) → Work Int
  | [] => pure 0
  | region :: rest => do
    let annotator := (← get).annotator
    if request.passesOver annotator.marks region then recordPlaced request label rest
    else
      let (start, stop) ← lift (request.place annotator.size region)
      let recorded ← update fun a => a.insert start stop label
      let count ← recordPlaced request label rest
      return (if recorded then 1 else 0) + count

/-- Searches as asked, unless that cannot be read as a search. -/
def ask (request : Request) (label : String) : Work Int := do
  let matcher ← lift request.matcher
  let desk ← get
  if request.isFlawed desk.studio.config && !(request.occurrences desk.annotator.text).isEmpty then
    throw .wrongKind
  else if request.hasRealExtent then
    recordPlaced request label (matcher.regions desk.studio.config desk.annotator)
  else search matcher label

end Work

end Highlight
