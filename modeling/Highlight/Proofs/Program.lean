import Highlight.Proofs.Growth
import Highlight.Session.Op

/-! Programs of annotator operations. A program calls operations on the annotator in hand and scans
regions again with programs of their own, to any depth; it sees the outcome of each, faults
included, and goes on as it likes. `run` hands the operations to the definitions that perform them.
`trace` lists what happens on the way: every annotator a run brings about appears in it, also those
of regions that are given up. Applying rules is such a program. -/
namespace Highlight

open Session (Answer Op)

/-- Operations on an annotator that open no region. -/
inductive Call where
  | setText (text : Text) (normalize : Option Bool)
  | clear
  | mark (start stop : Datum) (label : String)
  | markPoint (i : Datum) (label : String)
  | markRaw (start stop : Datum) (label : String)
  | find (matcher : Matcher) (label : String)
  | ask (request : Request) (label : String)

def Call.run : Call → Work Answer
  | setText text normalize => (Op.setText text normalize).run
  | clear => Op.clear.run
  | mark start stop label => (Op.mark start stop label).run
  | markPoint i label => (Op.markPoint i label).run
  | markRaw start stop label => (Op.markRaw start stop label).run
  | find matcher label => do
    return .count (← Work.search matcher label)
  | ask request label => (Op.search request label).run

inductive Program : Type → Type 1 where
  | done (a : α) : Program α
  | fail (fault : Fault) : Program α
  /-- Goes on as the desk suggests. -/
  | look (next : Desk → Program α) : Program α
  | call (call : Call) (next : Except Fault Answer → Program α) : Program α
  /-- Scans the regions with a label again, each with `body`. -/
  | rescan (label : String) (limit : Option Datum) (body : Program β)
      (next : Except Fault (List β) → Program α) : Program α

namespace Region

def enter (region : Mark) (desk : Desk) : Desk :=
  { desk with annotator := desk.annotator.child region.start region.stop }

/-- The regions that a scan enters unless it fails on the way. -/
def admitted (label : String) (limit : Option Datum) (desk : Desk) : List Mark :=
  match (limit.getD desk.studio.config.maxDepth).floor? with
  | none => []
  | some levels =>
    if levels < desk.annotator.depth + 1 then [] else desk.annotator.marks.withLabel label

/-- Each region that is entered, with the desk it is entered from. -/
def visits (label : String) (work : Work α) : List Mark → Desk → List (Mark × Desk)
  | [], _ => []
  | region :: rest, desk =>
    (region, desk) ::
      match rescanOne label work region desk with
      | .ok _ next => visits label work rest next
      | .error _ _ => []

end Region

inductive Event where
  /-- A call, whether it finished or failed. -/
  | called (before : Annotator) (call : Call) (after : Annotator)
  | entered (region : Mark) (child : Annotator)
  /-- The parent after a region, with the new marks or, if anything failed, as it was. -/
  | left (region : Mark) (parent : Annotator)

def Event.annotator : Event → Annotator
  | called _ _ after => after
  | entered _ child => child
  | left _ parent => parent

namespace Program

def run : Program α → Work α
  | done a => pure a
  | fail fault => throw fault
  | look next => fun desk => (next desk).run desk
  | call c next => fun desk =>
    let (outcome, after) := c.run.attempt desk
    (next outcome).run after
  | rescan label limit body next => fun desk =>
    let (outcome, after) := (Region.rescan label limit body.run).attempt desk
    (next outcome).run after

def trace : Program α → Desk → List Event
  | done _, _ => []
  | fail _, _ => []
  | look next, desk => (next desk).trace desk
  | call c next, desk =>
    let (outcome, after) := c.run.attempt desk
    .called desk.annotator c after.annotator :: (next outcome).trace after
  | rescan label limit body next, desk =>
    let (outcome, after) := (Region.rescan label limit body.run).attempt desk
    let visited := Region.visits label body.run (Region.admitted label limit desk) desk
    let inside := visited.flatMap fun (region, parent) =>
      let child := Region.enter region parent
      let back := ((Region.rescanOne label body.run region).attempt parent).2
      .entered region child.annotator :: body.trace child ++ [.left region back.annotator]
    inside ++ (next outcome).trace after

theorem attempt_call (c : Call) (next : Except Fault Answer → Program α) (desk : Desk) :
    (call c next).run.attempt desk =
      (next (c.run.attempt desk).1).run.attempt (c.run.attempt desk).2 := rfl

theorem attempt_rescan (label : String) (limit : Option Datum) (body : Program β)
    (next : Except Fault (List β) → Program α) (desk : Desk) :
    (rescan label limit body next).run.attempt desk =
      (next ((Region.rescan label limit body.run).attempt desk).1).run.attempt
        ((Region.rescan label limit body.run).attempt desk).2 := rfl

/-- One program after another, which sees how the first one ended. -/
def andThen : Program β → (Except Fault β → Program α) → Program α
  | done b, next => next (.ok b)
  | fail fault, next => next (.error fault)
  | look first, next => look fun desk => (first desk).andThen next
  | call c first, next => call c fun outcome => (first outcome).andThen next
  | rescan label limit body first, next =>
    rescan label limit body fun outcome => (first outcome).andThen next

def bind (program : Program β) (next : β → Program α) : Program α :=
  program.andThen fun
    | .ok b => next b
    | .error fault => fail fault

theorem run_andThen (program : Program β) (next : Except Fault β → Program α) (desk : Desk) :
    (program.andThen next).run desk =
      (next (program.run.attempt desk).1).run (program.run.attempt desk).2 := by
  induction program generalizing desk with
  | done b => rfl
  | fail fault => rfl
  | look first ih => exact ih desk next desk
  | call c first ih => exact ih _ next _
  | rescan label limit body first _ ih => exact ih _ next _

theorem run_bind (program : Program β) (next : β → Program α) :
    (program.bind next).run = program.run >>= fun b => (next b).run := by
  funext desk
  rw [bind, run_andThen]
  simp only [Work.attempt, Bind.bind, EStateM.bind]
  cases program.run desk <;> rfl

end Program

namespace Rule

/-- The count that a search answers. -/
def counted : Except Fault Answer → Program Int
  | .ok (.count n) => .done n
  | .ok _ => .done 0
  | .error fault => .fail fault

def programEach (step : Rule → Program Int) : List Rule → Program Int
  | [] => .done 0
  | rule :: rest => (step rule).bind fun count =>
    (programEach step rest).bind fun total => .done (count + total)

def programRescan (target : Datum) (grammar : Option String) (work : List Rule → Program Int) :
    Program Int :=
  .look fun desk =>
    match (rulesOf grammar).attempt desk, target with
    | (.error fault, _), _ => .fail fault
    | (.ok named, _), .text label => .rescan label none (work named) fun
      | .ok answers => .done answers.length
      | .error fault => .fail fault
    | (.ok _, _), _ => .done 0

def programNamed (grammar : Datum) (work : Option String → Program Int) : Program Int :=
  match grammarName grammar with
  | .ok name => work name
  | .error fault => .fail fault

/-- One rule as a program, with the levels that are left. -/
def programAt : (levels : Nat) → Rule → Program Int
  | _, find matcher label => .call (.find matcher label) counted
  | _, ask request label => .call (.ask request label.plain) counted
  | _, unknown kind _ _ => .fail (.unknownRule kind)
  | 0, inside target _ grammar => programRescan (.text target) grammar fun _ => .done 0
  | 0, insideAs target _ grammar =>
    programNamed grammar fun name => programRescan target name fun _ => .done 0
  | levels + 1, inside target rules grammar =>
    programRescan (.text target) grammar fun named =>
      (programEach (programAt levels) rules).bind fun _ => programEach (programAt levels) named
  | levels + 1, insideAs target rules grammar =>
    programNamed grammar fun name => programRescan target name fun named =>
      (programEach (programAt levels) rules).bind fun _ => programEach (programAt levels) named

def program (rules : List Rule) : Program Int :=
  .look fun desk => programEach (programAt (levelsLeft desk)) rules

/-- What the rules of a grammar are depends on the registry alone, and finding them changes nothing. -/
theorem rulesOf_attempt (grammar : Option String) (registry : Registry) :
    ∃ outcome, ∀ desk : Desk, desk.studio.registry = registry →
      (rulesOf grammar).attempt desk = (outcome, desk) := by
  cases grammar with
  | none => exact ⟨.ok [], fun _ _ => rfl⟩
  | some name =>
    refine ⟨if name.isEmpty then .ok [] else (registry.find name).map fun g => g.rules, ?_⟩
    rintro desk rfl
    simp only [Work.attempt, rulesOf]
    by_cases empty : name.isEmpty = true
    · simp only [empty, ↓reduceIte]
    · simp only [empty, Bool.false_eq_true, ↓reduceIte]
      cases desk.studio.registry.find name <;> rfl

theorem run_counted (work : Work Int) (call : Call)
    (counts : call.run = work >>= fun n => pure (Answer.count n)) :
    (Program.call call counted).run = work := by
  funext desk
  simp only [Program.run, Work.attempt, counts, Bind.bind, EStateM.bind]
  cases work desk <;> rfl

theorem run_programEach {step : Rule → Program Int} {work : Rule → Work Int}
    (same : ∀ rule, (step rule).run = work rule) (rules : List Rule) :
    (programEach step rules).run = applyEach work rules := by
  induction rules with
  | nil => rfl
  | cons rule rest ih =>
    simp only [programEach, applyEach, Program.run_bind, same, ih]
    rfl

theorem run_programRescan (target : Datum) (grammar : Option String)
    {step : List Rule → Program Int} {work : List Rule → Work Int}
    (same : ∀ named, (step named).run = work named) :
    (programRescan target grammar step).run = rescanWith target grammar work := by
  funext desk
  obtain ⟨outcome, found⟩ := rulesOf_attempt grammar desk.studio.registry
  have here := found desk rfl
  simp only [programRescan, Program.run, rescanWith, Bind.bind, EStateM.bind, Work.attempt] at *
  cases looked : rulesOf grammar desk with
  | error fault after =>
    simp only [looked, Prod.mk.injEq] at here
    rw [here.2]
    rfl
  | ok named after =>
    simp only [looked, Prod.mk.injEq] at here
    rw [here.2]
    cases target with
    | text label =>
      simp only [Program.run, Work.attempt, same, EStateM.bind]
      cases Region.rescan label none (work named) desk <;> rfl
    | _ => rfl

theorem run_programNamed (grammar : Datum) {step : Option String → Program Int}
    {work : Option String → Work Int} (same : ∀ name, (step name).run = work name) :
    (programNamed grammar step).run = Work.lift (grammarName grammar) >>= work := by
  funext desk
  simp only [programNamed, Work.lift, Bind.bind, EStateM.bind]
  cases grammarName grammar with
  | error fault => rfl
  | ok name => simp only [same]

theorem run_programAt (levels : Nat) (rule : Rule) :
    (programAt levels rule).run = applyAt levels rule := by
  induction levels generalizing rule with
  | zero =>
    cases rule with
    | find matcher label => exact run_counted _ _ rfl
    | ask request label => exact run_counted _ _ rfl
    | unknown => rfl
    | inside target rules grammar => exact run_programRescan _ _ fun _ => rfl
    | insideAs target rules grammar =>
      exact run_programNamed _ fun _ => run_programRescan _ _ fun _ => rfl
  | succ levels ih =>
    have nested (rules named : List Rule) :
        ((programEach (programAt levels) rules).bind fun _ =>
          programEach (programAt levels) named).run =
          (applyEach (applyAt levels) rules >>= fun _ => applyEach (applyAt levels) named) := by
      simp only [Program.run_bind, run_programEach ih]
    cases rule with
    | find matcher label => exact run_counted _ _ rfl
    | ask request label => exact run_counted _ _ rfl
    | unknown => rfl
    | inside target rules grammar => exact run_programRescan _ _ fun named => nested rules named
    | insideAs target rules grammar =>
      exact run_programNamed _ fun _ => run_programRescan _ _ fun named => nested rules named

/-- Applying rules is running their program. -/
theorem run_program (rules : List Rule) : (program rules).run = applyAll rules := by
  funext desk
  simp only [program, Program.run, applyAll, run_programEach (run_programAt _)]

end Rule

end Highlight
