import Highlight.Region

/-! Applying rules. Grammars may name each other and themselves, so the recursion is bounded by the
levels that are left below the deepest one allowed; where none is left, the scan of regions fails
before it enters one. -/
namespace Highlight.Rule

/-- Runs rules in order and adds up their counts. -/
def applyEach (step : Rule → Work Int) : List Rule → Work Int
  | [] => pure 0
  | rule :: rest => do
    let count ← step rule
    let total ← applyEach step rest
    return count + total

/-- Rules of a grammar named by a rule; no name, or an empty one, gives none. -/
def rulesOf : Option String → Work (List Rule)
  | none => pure []
  | some name => fun desk =>
    if name.isEmpty then .ok [] desk
    else
      match desk.studio.registry.find name with
      | .ok grammar => .ok grammar.rules desk
      | .error fault => .error fault desk

/-- The name of a grammar; a value that does not count as true gives none. -/
def grammarName (grammar : Datum) : Except Fault (Option String) :=
  match grammar with
  | .text name => .ok (some name)
  | other => if other.isTrue then .error .notText else .ok none

/-- Looks the grammar up, then scans the regions labelled `target` again with its rules, and counts
them. A target that is no text is no label, so there are none. -/
def rescanWith (target : Datum) (grammar : Option String) (work : List Rule → Work Int) :
    Work Int := do
  let named ← rulesOf grammar
  match target with
  | .text label => do
    let answers ← Region.rescan label none (work named)
    return answers.length
  | _ => return 0

/-- Marks recorded by a search, or regions scanned by an inside rule. -/
def applyAt : (levels : Nat) → Rule → Work Int
  | _, find matcher label => Work.search matcher label
  | _, ask request label => Work.ask request label.plain
  | _, unknown kind _ _ => throw (.unknownRule kind)
  | 0, inside target _ grammar => rescanWith (.text target) grammar fun _ => pure 0
  | 0, insideAs target _ grammar => do
    rescanWith target (← Work.lift (grammarName grammar)) fun _ => pure 0
  | levels + 1, inside target rules grammar =>
    rescanWith (.text target) grammar fun named => do
      let _ ← applyEach (applyAt levels) rules
      applyEach (applyAt levels) named
  | levels + 1, insideAs target rules grammar => do
    rescanWith target (← Work.lift (grammarName grammar)) fun named => do
      let _ ← applyEach (applyAt levels) rules
      applyEach (applyAt levels) named

/-- Levels below an annotator's own at which regions may be scanned. -/
def levelsLeft (desk : Desk) : Nat := (desk.studio.config.levels - desk.annotator.depth).toNat

def applyAll (rules : List Rule) : Work Int := fun desk =>
  applyEach (applyAt (levelsLeft desk)) rules desk

end Highlight.Rule

namespace Highlight.Grammar

/-- Applies the rules of a grammar. -/
def mark (grammar : Grammar) : Work Int := Rule.applyAll grammar.rules

/-- Marks, then registers the styles. -/
def highlight (grammar : Grammar) : Work Unit := do
  let _ ← grammar.mark
  modify fun desk => { desk with styles := grammar.style desk.styles }

end Highlight.Grammar
