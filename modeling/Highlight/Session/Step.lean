import Highlight.Session.Op
import Highlight.Session.Setting

/-! Sessions: steps that open annotators, work on them and change what they share. A step at the top
finds its annotator on the shelf by name; one inside a region works on the region in hand. -/
namespace Highlight.Session

inductive Step where
  /-- Opens an annotator under a name, with the style sheet of another one if named. -/
  | create (name : String) (text : Text) (normalize : Option Bool) (stylesOf : Option String)
  /-- Opens an annotator that a grammar has marked and styled. -/
  | annotate (name : String) (source : Document.Source)
  | on (name : String) (op : Op)
  /-- Scans the regions with a label again; `steps` run on each of them. -/
  | rescan (name label : String) (limit : Option Datum) (steps : List Step)
  | setting (setting : Setting)
  /-- Runs steps under other settings and restores the present ones. -/
  | within (config : Config) (steps : List Step) (propagate : Bool)
  /-- Runs steps with counters of their own. -/
  | observe (steps : List Step) (propagate : Bool)

mutual

/-- The steps that write text and marks through the annotator they work on, and do nothing else. -/
def Step.isEdit : Step → Bool
  | .on _ op => op.isEdit
  | .rescan _ _ _ steps => areEdits steps
  | _ => false

def areEdits : List Step → Bool
  | [] => true
  | step :: rest => step.isEdit && areEdits rest

end

/-- Where steps find the annotator they work on. -/
inductive Reach where
  | byName | inHand
  deriving DecidableEq, Repr

/-- The marks to show after work on a named annotator: its own, or after a fault those of the
annotator that the name stands for by then. -/
def marksAfter (name : String) (worked : Annotator) (shelf : Shelf) :
    Except Fault Answer → Option (List Mark)
  | .ok _ => some worked.marks.marks
  | .error _ => (shelf.find? name).map fun (_, current, _) => current.marks.marks

/-- Runs work on the annotator within reach. Marks are shown also after a fault. -/
def workOn (reach : Reach) (name : String) (work : Work Answer) (desk : Desk) : Desk × Entry :=
  match reach with
  | .inHand =>
    let (answer, after) := work.attempt desk
    (after, (answer, some after.annotator.marks.marks))
  | .byName =>
    match desk.studio.shelf.find? name with
    | none => (desk, (.error (.noSuchName name), none))
    | some (place, annotator, sheet) =>
      let styles := desk.studio.shelf.sheet sheet
      let (answer, after) := work.attempt { annotator, styles, studio := desk.studio }
      let shelf := after.studio.shelf.putBack place after.annotator sheet after.styles
      ({ desk with studio := { after.studio with shelf } },
        (answer, marksAfter name after.annotator shelf answer))

/-- Runs work on what is shared; the annotator in hand stays as it is. -/
def share (work : Document.Shared α) (entry : Except Fault α → Entry) (desk : Desk) :
    Desk × Entry :=
  match work desk.studio with
  | .ok a studio => ({ desk with studio }, entry (.ok a))
  | .error fault studio => ({ desk with studio }, entry (.error fault))

/-- Text and size of an annotator that was opened, with its marks. -/
def opened : Except Fault Annotator → Entry
  | .ok annotator => (.ok (.opened annotator.text annotator.size), some annotator.marks.marks)
  | .error fault => (.error fault, none)

def create (name : String) (text : Text) (normalize : Option Bool) (stylesOf : Option String) :
    Document.Shared Annotator := fun studio =>
  let annotator := Annotator.create studio.config text normalize
  match stylesOf with
  | none => .ok annotator { studio with shelf := studio.shelf.add name annotator {} }
  | some owner =>
    match studio.shelf.addSharing name annotator owner with
    | some shelf => .ok annotator { studio with shelf }
    | none => .error (.noSuchName owner) studio

/-- If the document fails, nothing is opened. -/
def annotate (name : String) (source : Document.Source) : Document.Shared Annotator := do
  let desk ← Document.annotate source
  modify fun studio => { studio with shelf := studio.shelf.add name desk.annotator desk.styles }
  return desk.annotator

/-- Entries of a block, and the fault that ended it early. -/
structure Block where
  desk : Desk
  entries : List Entry
  fault : Option Fault

/-- The answer of a block, or the fault that ended it. -/
def Block.entry (block : Block) (answer : List Entry → Answer) : Entry :=
  match block.fault with
  | some fault => (.error fault, none)
  | none => (.ok (answer block.entries), none)

/-- Runs a block on a region. The answer tells what the region was on entry. -/
def visit (block : Desk → Block) : Work (Text × Int × Int × List Entry) := fun desk =>
  let done := block desk
  match done.fault with
  | some fault => .error fault done.desk
  | none =>
    let region := desk.annotator
    .ok (region.text, region.size, region.depth, done.entries) done.desk

def withConfig (config : Config) (desk : Desk) : Desk :=
  { desk with studio := { desk.studio with config } }

def withProfile (profile : Option Profile) (desk : Desk) : Desk :=
  { desk with studio := { desk.studio with profile } }

mutual

def Step.run (reach : Reach) : Step → Desk → Desk × Entry
  | .create name text normalize stylesOf, desk =>
    share (Session.create name text normalize stylesOf) opened desk
  | .annotate name source, desk => share (Session.annotate name source) opened desk
  | .on name op, desk => workOn reach name op.run desk
  | .rescan name label limit steps, desk =>
    let scan := Region.rescan label limit (visit fun region => runBlock .inHand true steps region)
    workOn reach name (do return .regions (← scan)) desk
  | .setting s, desk => share s.run (fun answer => (answer, none)) desk
  | .within config steps propagate, desk =>
    let block := runBlock reach propagate steps (withConfig config desk)
    (withConfig desk.studio.config block.desk, block.entry .steps)
  | .observe steps propagate, desk =>
    let block := runBlock reach propagate steps (withProfile (some {}) desk)
    let seen := block.desk.studio.profile.getD {}
    (withProfile desk.studio.profile block.desk, block.entry fun entries => .observed entries seen)

/-- Runs steps in order. A fault is an entry like any other, unless it is to propagate: then it
ends the block. -/
def runBlock (reach : Reach) (propagate : Bool) : List Step → Desk → Block
  | [], desk => ⟨desk, [], none⟩
  | step :: rest, desk =>
    match step.run reach desk with
    | (next, entry) =>
      match propagate, entry.1 with
      | true, .error fault => ⟨next, [], some fault⟩
      | _, _ =>
        let block := runBlock reach propagate rest next
        { block with entries := entry :: block.entries }

end

/-- Runs a whole session from the beginning. -/
def run (steps : List Step) : List Entry := (runBlock .byName false steps {}).entries

end Highlight.Session
