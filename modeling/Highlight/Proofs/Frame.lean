import Highlight.Proofs.Refinement

/-! What stays while programs run. A program changes neither the settings nor the registered grammars,
and the annotator in hand stays sound and at its level; a region is met under the same settings, one
level deeper. `Desk.Ready` puts this together. That a scan of regions fails has one of two causes: the
level of the regions, which is checked before any of them is entered, or the work on one of them. -/
namespace Highlight

variable {config : Config} {registry : Registry} {desk : Desk} {slack depth : Int}

theorem Program.run_under (program : Program α) (sound : desk.annotator.Sound slack)
    (some : 1 ≤ slack) (under : desk.Under config registry) :
    (program.run.attempt desk).2.Under config registry := by
  induction program generalizing desk slack with
  | done | fail => exact under
  | look next ih => exact ih desk sound some under
  | call c next ih =>
    obtain ⟨b, left, effect⟩ := c.run_effect sound
    have kept : (c.run.attempt desk).2.Under config registry := by
      rw [left]
      exact under
    exact ih _ (c.run_sound sound (.inr some) (by omega)) some kept
  | rescan label limit body next ihBody ih =>
    rw [attempt_rescan]
    rcases Region.rescan_cases label limit body.run desk with ⟨_, outcome, left⟩ | ⟨_, ran⟩
    · rw [left]
      exact ih outcome sound some under
    · have course := body.scan_course label sound
      have scanned := course.under (fun visit visited parent =>
        ihBody (course.enter_sound visited) (Int.le_refl 1) parent) under
      rw [ran]
      exact ih _ course.result_sound some scanned.1

theorem Program.entered_rescan {label : String} {limit : Option Datum} {body : Program β}
    {next : Except Fault (List β) → Program α} {region : Mark} {child : Annotator}
    (happened : .entered region child ∈ (rescan label limit body next).trace desk) :
    (∃ visit ∈ Region.visits label body.run (Region.admitted label limit desk) desk,
      child = (Region.enter visit.1 visit.2).annotator ∨
        .entered region child ∈ body.trace (Region.enter visit.1 visit.2)) ∨
    .entered region child ∈ (next ((Region.rescan label limit body.run).attempt desk).1).trace
      ((Region.rescan label limit body.run).attempt desk).2 := by
  simp only [trace, List.mem_append, List.mem_flatMap] at happened
  refine happened.imp_left ?_
  rintro ⟨visit, visited, inside⟩
  simp only [List.mem_cons, Event.entered.injEq, reduceCtorEq, List.not_mem_nil, or_false] at inside
  exact ⟨visit, visited, inside.imp_left And.right⟩

/-- Work can be done at a level of its own: the settings and grammars hold, and the annotator is
sound. -/
structure Desk.Ready (config : Config) (registry : Registry) (depth : Int) (desk : Desk) : Prop where
  under : desk.Under config registry
  sound : ∃ slack, 1 ≤ slack ∧ desk.annotator.Sound slack
  depth : desk.annotator.depth = depth

namespace Desk.Ready

theorem run (ready : desk.Ready config registry depth) (program : Program α) :
    (program.run.attempt desk).2.Ready config registry depth := by
  obtain ⟨slack, some, sound⟩ := ready.sound
  have after := (program.trace_sound (.inr some) sound (by omega)).2
  exact ⟨program.run_under sound some ready.under, ⟨slack, some, after⟩,
    (program.run_depth sound some).trans ready.depth⟩

theorem call (ready : desk.Ready config registry depth) (c : Call) :
    (c.run.attempt desk).2.Ready config registry depth :=
  ready.run (.call c fun _ => .done ())

theorem rescan (ready : desk.Ready config registry depth) (label : String) (limit : Option Datum)
    (body : Program α) :
    ((Region.rescan label limit body.run).attempt desk).2.Ready config registry depth :=
  ready.run (.rescan label limit body fun _ => .done ())

end Desk.Ready

namespace Region

theorem admitted_level {label : String} {limit : Option Datum} {region : Mark}
    (member : region ∈ admitted label limit desk) : ∃ levels,
      (limit.getD desk.studio.config.maxDepth).floor? = some levels ∧
        desk.annotator.depth + 1 ≤ levels := by
  simp only [admitted] at member
  split at member
  · simp at member
  next levels floor =>
    by_cases deep : levels < desk.annotator.depth + 1
    · simp [deep] at member
    · exact ⟨levels, floor, by omega⟩

theorem admitted_all {label : String} {limit : Option Datum} {region : Mark}
    (member : region ∈ admitted label limit desk) :
    admitted label limit desk = desk.annotator.marks.withLabel label := by
  obtain ⟨levels, floor, shallow⟩ := admitted_level member
  simp [admitted, floor, show ¬ levels < desk.annotator.depth + 1 by omega]

theorem exists_region_of_visit {label : String} {work : Work α} {regions : List Mark}
    {visit : Mark × Desk} (visited : visit ∈ visits label work regions desk) :
    ∃ region, region ∈ regions := by
  cases regions with
  | nil => simp [visits] at visited
  | cons region rest => exact ⟨region, List.mem_cons_self⟩

end Region

open Region (enter visits admitted)

variable {label : String} {limit : Option Datum} {visit : Mark × Desk}

/-- A region is met under the same settings, one level deeper, and at a level that is allowed. -/
theorem Desk.Ready.enter (ready : desk.Ready config registry depth) {body : Program α}
    (visited : visit ∈ visits label body.run (admitted label limit desk) desk) :
    (enter visit.1 visit.2).Ready config registry (depth + 1) ∧
      ∃ levels, (limit.getD config.maxDepth).floor? = some levels ∧ depth + 1 ≤ levels := by
  obtain ⟨slack, some, sound⟩ := ready.sound
  obtain ⟨region, member⟩ := Region.exists_region_of_visit visited
  obtain ⟨levels, floor, bound⟩ := Region.admitted_level member
  rw [ready.under.1] at floor
  rw [ready.depth] at bound
  rw [Region.admitted_all member] at visited
  have course := body.scan_course label sound
  have under := (course.under (fun visit visited parent =>
    body.run_under (course.enter_sound visited) (Int.le_refl 1) parent) ready.under).2 visit visited
  refine ⟨⟨under, ⟨1, Int.le_refl 1, course.enter_sound visited⟩, ?_⟩, levels, floor, bound⟩
  rw [course.enter_eq visited, Annotator.child, ready.depth]

theorem Desk.Ready.child (ready : desk.Ready config registry depth) {body : Program α}
    (visited : visit ∈ visits label body.run (admitted label limit desk) desk) :
    visit.1 ∈ desk.annotator.marks.withLabel label ∧
      (Region.enter visit.1 visit.2).annotator =
        desk.annotator.child visit.1.start visit.1.stop := by
  obtain ⟨slack, _, sound⟩ := ready.sound
  obtain ⟨region, member⟩ := Region.exists_region_of_visit visited
  rw [Region.admitted_all member] at visited
  have course := body.scan_course label sound
  exact ⟨course.visits_mem visit visited, course.enter_eq visited⟩

/-- A scan of regions fails where its limit is no number or does not reach their level, or with a fault
of the work on one of them. -/
theorem Region.rescan_fault (ready : desk.Ready config registry depth) (body : Program α)
    {targets : List String} (adds : body.Adds targets) {fault : Fault}
    (failed : ((rescan label limit body.run).attempt desk).1 = .error fault) :
    desk.annotator.marks.withLabel label ≠ [] ∧
    (((limit.getD config.maxDepth).floor? = none ∧ fault = .wrongKind) ∨
    (∃ levels, (limit.getD config.maxDepth).floor? = some levels ∧ levels < depth + 1 ∧
      fault = .tooDeep label (depth + 1) (limit.getD config.maxDepth)) ∨
    ∃ visit ∈ visits label body.run (admitted label limit desk) desk,
      (body.run.attempt (enter visit.1 visit.2)).1 = .error fault) := by
  obtain ⟨slack, some, sound⟩ := ready.sound
  rw [rescan_attempt, ready.depth, ready.under.1] at failed
  split at failed
  · simp at failed
  next nonempty =>
  refine ⟨nonempty, ?_⟩
  split at failed
  next floor => exact .inl ⟨floor, (Except.error.inj failed).symm⟩
  next levels floor =>
  split at failed
  next deep => exact .inr (.inl ⟨levels, floor, deep, (Except.error.inj failed).symm⟩)
  next shallow =>
  have all : admitted label limit desk = desk.annotator.marks.withLabel label := by
    simp [admitted, ready.depth, ready.under.1, floor, shallow]
  have course := body.scan_course label sound
  rw [all]
  refine .inr (.inr (course.fault failed fun visit visited answer inner ran => ?_))
  have kept := (body.run_refines adds (course.enter_sound visited) (Int.le_refl 1)).same
  rw [ran] at kept
  rw [kept]

namespace Rule

/-- An inside rule looks its grammar up, and then scans the regions of its target, if that is a label. -/
theorem rescanWith_attempt (target : Datum) (grammar : Option String) (work : List Rule → Work Int)
    (desk : Desk) : (rescanWith target grammar work).attempt desk =
      match ((rulesOf grammar).attempt desk).1, target.text? with
      | .error fault, _ => (.error fault, desk)
      | .ok _, none => (.ok 0, desk)
      | .ok named, some label =>
        (((Region.rescan label none (work named)).attempt desk).1.map fun answers => answers.length,
          ((Region.rescan label none (work named)).attempt desk).2) := by
  obtain ⟨outcome, lookup⟩ := rulesOf_attempt grammar desk.studio.registry
  rw [rescanWith, Work.attempt_bind, lookup desk rfl]
  cases outcome with
  | error fault => rfl
  | ok named =>
    cases target with
    | text label =>
      simp only [Work.attempt_bind, Datum.text?]
      cases (Region.rescan label none (work named)).attempt desk with
      | mk outcome after => cases outcome <;> rfl
    | _ => rfl

/-- What is done to a region with the levels that are left, and nothing where none is left. -/
def bodyAt : (levels : Nat) → (rules named : List Rule) → Program Int
  | 0, _, _ => .done 0
  | levels + 1, rules, named =>
    (programEach (programAt levels) rules).bind fun _ => programEach (programAt levels) named

theorem programAt_inside (levels : Nat) (target : String) (rules : List Rule)
    (grammar : Option String) : programAt levels (inside target rules grammar) =
      programRescan (.text target) grammar (bodyAt levels rules) := by
  cases levels <;> rfl

theorem programAt_insideAs (levels : Nat) (target : Datum) (rules : List Rule) (grammar : Datum) :
    programAt levels (insideAs target rules grammar) =
      programNamed grammar fun name => programRescan target name (bodyAt levels rules) := by
  cases levels <;> rfl

theorem bodyAt_adds (levels : Nat) (rules named : List Rule) :
    (bodyAt levels rules named).Adds (targets rules ++ targets named) := by
  cases levels with
  | zero => trivial
  | succ levels =>
    exact ((programEach_adds levels rules).weaken (List.subset_append_left _ _)).bind fun _ =>
      (programEach_adds levels named).weaken (List.subset_append_right _ _)

end Rule

end Highlight
