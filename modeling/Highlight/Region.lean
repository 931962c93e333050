import Highlight.Desk

/-! Scanning regions again. Each region that carries a label becomes a document of its own, one
level deeper; some work marks it; its marks move back into the parent, and what they leave free
keeps the label of the region, so that the region stays covered. -/
namespace Highlight.Region

/-- The marks of a region in the parent's positions, with the gaps from `cursor` on filled in. -/
def fillFrom (region : Mark) : (cursor : Int) → List Mark → List Mark
  | cursor, [] => if cursor < region.stop then [⟨cursor, region.stop, region.label⟩] else []
  | cursor, mark :: rest =>
    if cursor < mark.start then
      ⟨cursor, mark.start, region.label⟩ :: mark :: fillFrom region mark.stop rest
    else mark :: fillFrom region mark.stop rest

def fillGaps (region : Mark) (marks : List Mark) : List Mark := fillFrom region region.start marks

/-- Runs `work` on one region and moves its marks back. If anything fails, the region keeps its
single mark, but styles and counters keep what was done to them. -/
def rescanOne (label : String) (work : Work α) (region : Mark) : Work α := fun desk =>
  let parent := desk.annotator
  let child := parent.child region.start region.stop
  match work { desk with annotator := child } with
  | .error fault inner => .error fault { inner with annotator := parent }
  | .ok answer inner =>
    let back := { inner with annotator := parent }
    if inner.annotator.text ≠ child.text then
      .error (.regionReplaced label region.start region.stop) back
    else
      let moved := inner.annotator.marks.marks.map fun mark => mark.shift region.start
      match parent.marks.replace region (fillGaps region moved) with
      | .error fault => .error fault back
      | .ok marks =>
        let profile := inner.studio.profile.map fun p => p.recordRegion child.depth
        .ok answer { back with
          annotator := { parent with marks }
          studio := { inner.studio with profile } }

def rescanEach (label : String) (work : Work α) : List Mark → Work (List α)
  | [] => pure []
  | region :: rest => do
    let answer ← rescanOne label work region
    let answers ← rescanEach label work rest
    return answer :: answers

/-- Runs `work` on every region that carries `label`, in document order, with one answer each. The
level of the regions is checked before any of them is entered, against the given limit or else
that of the settings. -/
def rescan (label : String) (limit : Option Datum) (work : Work α) : Work (List α) := fun desk =>
  let deepest := limit.getD desk.studio.config.maxDepth
  let depth := desk.annotator.depth + 1
  let regions := desk.annotator.marks.withLabel label
  if regions.isEmpty then .ok [] desk
  else
    match deepest.floor? with
    | none => .error .wrongKind desk
    | some levels =>
      if levels < depth then .error (.tooDeep label depth deepest) desk
      else rescanEach label work regions desk

end Highlight.Region
