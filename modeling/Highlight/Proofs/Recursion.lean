import Highlight.Proofs.Faults

/-! Rules that name grammars recur without a bound of their own: a region may hold a region with the
same label and the same text. `Ends` is that recursion as a relation, without any count of levels. What
is computed with the levels that are left is its one outcome, because the level of a region is checked
before the region is entered. -/
namespace Highlight

open Fault (Only)
open Region (enter visits admitted)

namespace Region

variable {label : String} {first second : Work α} {desk : Desk}

/-- A scan sees of its work only what the work does to the regions that are entered. -/
theorem rescanEach_congr {regions : List Mark}
    (same : ∀ visit ∈ visits label first regions desk, visit ∈ visits label second regions desk →
      first.attempt (enter visit.1 visit.2) = second.attempt (enter visit.1 visit.2)) :
    (rescanEach label first regions).attempt desk =
      (rescanEach label second regions).attempt desk := by
  induction regions generalizing desk with
  | nil => rfl
  | cons region rest ih =>
    rw [visits_cons, visits_cons] at same
    have one : (rescanOne label first region).attempt desk =
        (rescanOne label second region).attempt desk := by
      rw [rescanOne_attempt, rescanOne_attempt, same _ List.mem_cons_self List.mem_cons_self]
    rw [rescanEach_cons, rescanEach_cons, ← one]
    rw [← one] at same
    cases ran : (rescanOne label first region).attempt desk with
    | mk outcome next =>
      rw [ran] at same
      cases outcome with
      | error fault => rfl
      | ok answer =>
        simp only at same ⊢
        rw [ih fun visit inFirst inSecond =>
          same visit (List.mem_cons_of_mem _ inFirst) (List.mem_cons_of_mem _ inSecond)]

theorem rescan_congr {limit : Option Datum}
    (same : ∀ visit ∈ visits label first (admitted label limit desk) desk,
      visit ∈ visits label second (admitted label limit desk) desk →
      first.attempt (enter visit.1 visit.2) = second.attempt (enter visit.1 visit.2)) :
    (rescan label limit first).attempt desk = (rescan label limit second).attempt desk := by
  rw [rescan_attempt, rescan_attempt]
  cases floor : (limit.getD desk.studio.config.maxDepth).floor? with
  | none => rfl
  | some levels =>
    by_cases deep : levels < desk.annotator.depth + 1
    · simp only [deep, ↓reduceIte]
    · simp only [admitted, floor, deep, ↓reduceIte] at same
      simp only [deep, ↓reduceIte, rescanEach_congr same]

end Region

namespace Rule

/-- What there is to do: one rule, some rules in order, the scan of an inside rule, or what it does to
a region. -/
inductive Task where
  | one (rule : Rule)
  | each (rules : List Rule)
  | scan (target : Datum) (rules : List Rule) (grammar : Option String)
  | region (rules named : List Rule)

/-- How a task ends, if it does. A scan ends as with any work that does to each region it enters what
the rules do there; nothing bounds how deep that goes. -/
inductive Ends : Task → Desk → Except Fault Int × Desk → Prop where
  | find {matcher : Matcher} {label : String} {desk : Desk} :
      Ends (.one (find matcher label)) desk ((Work.search matcher label).attempt desk)
  | ask {request : Request} {label : Datum} {desk : Desk} :
      Ends (.one (ask request label)) desk ((Work.ask request label.plain).attempt desk)
  | unknown {kind : String} {target label : Datum} {desk : Desk} :
      Ends (.one (unknown kind target label)) desk (.error (.unknownRule kind), desk)
  | inside {target : String} {rules : List Rule} {grammar : Option String} {desk : Desk}
      {outcome : Except Fault Int × Desk} (scanned : Ends (.scan (.text target) rules grammar) desk outcome) :
      Ends (.one (inside target rules grammar)) desk outcome
  | insideAs {target value : Datum} {rules : List Rule} {grammar : Option String} {desk : Desk}
      {outcome : Except Fault Int × Desk} (named : grammarName value = .ok grammar)
      (scanned : Ends (.scan target rules grammar) desk outcome) :
      Ends (.one (insideAs target rules value)) desk outcome
  | misnamed {target value : Datum} {rules : List Rule} {desk : Desk} {fault : Fault}
      (wrong : grammarName value = .error fault) :
      Ends (.one (insideAs target rules value)) desk (.error fault, desk)
  | scan {target : Datum} {rules : List Rule} {grammar : Option String} {desk : Desk}
      (work : List Rule → Work Int)
      (regions : ∀ label named, target.text? = some label →
        ((rulesOf grammar).attempt desk).1 = .ok named →
        ∀ visit ∈ visits label (work named) (admitted label none desk) desk,
          Ends (.region rules named) (enter visit.1 visit.2)
            ((work named).attempt (enter visit.1 visit.2))) :
      Ends (.scan target rules grammar) desk ((rescanWith target grammar work).attempt desk)
  | regionStops {rules named : List Rule} {desk last : Desk} {fault : Fault}
      (failed : Ends (.each rules) desk (.error fault, last)) :
      Ends (.region rules named) desk (.error fault, last)
  | region {rules named : List Rule} {desk middle : Desk} {count : Int}
      {outcome : Except Fault Int × Desk} (first : Ends (.each rules) desk (.ok count, middle))
      (second : Ends (.each named) middle outcome) : Ends (.region rules named) desk outcome
  | nil {desk : Desk} : Ends (.each []) desk (.ok 0, desk)
  | stops {rule : Rule} {rest : List Rule} {desk last : Desk} {fault : Fault}
      (failed : Ends (.one rule) desk (.error fault, last)) :
      Ends (.each (rule :: rest)) desk (.error fault, last)
  | cons {rule : Rule} {rest : List Rule} {desk middle last : Desk} {count : Int}
      {total : Except Fault Int} (first : Ends (.one rule) desk (.ok count, middle))
      (later : Ends (.each rest) middle (total, last)) :
      Ends (.each (rule :: rest)) desk (total.map (count + ·), last)

theorem Ends.unique {task : Task} {desk : Desk} {outcome other : Except Fault Int × Desk}
    (left : Ends task desk outcome) (right : Ends task desk other) : outcome = other := by
  induction left generalizing other with
  | find => cases right; rfl
  | ask => cases right; rfl
  | unknown => cases right; rfl
  | inside _ ih =>
    cases right with
    | inside scanned => exact ih scanned
  | insideAs named _ ih =>
    cases right with
    | insideAs again scanned =>
      obtain rfl := Except.ok.inj (named.symm.trans again)
      exact ih scanned
    | misnamed wrong => simp [named] at wrong
  | misnamed wrong =>
    cases right with
    | insideAs named => simp [wrong] at named
    | misnamed again =>
      obtain rfl := Except.error.inj (wrong.symm.trans again)
      rfl
  | @scan target rules grammar desk work _ ih =>
    cases right with
    | scan other regions =>
      rw [rescanWith_attempt, rescanWith_attempt]
      split
      · rfl
      · rfl
      next named label looked isText =>
        rw [Region.rescan_congr fun visit inWork inOther =>
          ih label named isText looked visit inWork (regions label named isText looked visit inOther)]
  | regionStops _ ih =>
    cases right with
    | regionStops failed => exact ih failed
    | region first => cases ih first
  | region _ _ ihFirst ihSecond =>
    cases right with
    | regionStops failed => cases ihFirst failed
    | region first second =>
      cases ihFirst first
      exact ihSecond second
  | nil => cases right; rfl
  | stops _ ih =>
    cases right with
    | stops failed => exact ih failed
    | cons first => cases ih first
  | cons _ _ ihFirst ihLater =>
    cases right with
    | stops failed => cases ihFirst failed
    | cons first later =>
      cases ihFirst first
      cases ihLater later
      rfl

variable {config : Config} {registry : Registry} {depth : Int} {desk : Desk} {levels : Nat}

theorem applyEach_ends
    (step : ∀ rule desk, desk.Ready config registry depth →
      Ends (.one rule) desk ((applyAt levels rule).attempt desk))
    (rules : List Rule) (ready : desk.Ready config registry depth) :
    Ends (.each rules) desk ((applyEach (applyAt levels) rules).attempt desk) := by
  induction rules generalizing desk with
  | nil => exact .nil
  | cons rule rest ih =>
    have next := ready.run (programAt levels rule)
    have first := step rule desk ready
    rw [run_programAt] at next
    rw [applyEach, Work.attempt_bind]
    cases ran : (applyAt levels rule).attempt desk with
    | mk outcome middle =>
      rw [ran] at first next
      cases outcome with
      | error fault => exact .stops first
      | ok count =>
        have later := ih next
        simp only [Work.attempt_bind] at later ⊢
        cases tail : (applyEach (applyAt levels) rest).attempt middle with
        | mk total last =>
          rw [tail] at later
          have both := Ends.cons first later
          cases total <;> exact both

theorem applyAt_ends_step (rule : Rule) (ready : desk.Ready config registry depth)
    (inner : ∀ rules named child, child.Ready config registry (depth + 1) →
      (∃ top, config.maxDepth.floor? = some top ∧ depth + 1 ≤ top) →
      Ends (.region rules named) child ((bodyAt levels rules named).run.attempt child)) :
    Ends (.one rule) desk ((applyAt levels rule).attempt desk) := by
  have scans (target : Datum) (rules : List Rule) (grammar : Option String) :
      Ends (.scan target rules grammar) desk
        ((rescanWith target grammar fun named => (bodyAt levels rules named).run).attempt desk) := by
    refine .scan _ fun label named _ _ visit visited => ?_
    obtain ⟨child, level⟩ := ready.enter visited
    exact inner rules named _ child level
  rw [← run_programAt]
  cases rule with
  | find matcher label =>
    rw [run_programAt]
    cases levels <;> exact .find
  | ask request label =>
    rw [run_programAt]
    cases levels <;> exact .ask
  | unknown kind target label => cases levels <;> exact .unknown
  | inside target rules grammar =>
    rw [programAt_inside, run_programRescan _ _ fun _ => rfl]
    exact .inside (scans _ _ _)
  | insideAs target rules grammar =>
    rw [programAt_insideAs, run_programNamed _ fun _ => run_programRescan _ _ fun _ => rfl,
      Work.attempt_bind, Work.attempt_lift]
    cases named : grammarName grammar with
    | error fault => exact .misnamed named
    | ok name => exact .insideAs named (scans _ _ _)

/-- With as many levels as the limit leaves, a rule ends as it does without any count of them. -/
theorem applyAt_ends (rule : Rule) (left : levels = (config.levels - depth).toNat)
    (ready : desk.Ready config registry depth) :
    Ends (.one rule) desk ((applyAt levels rule).attempt desk) := by
  induction levels generalizing rule desk depth with
  | zero =>
    apply applyAt_ends_step rule ready
    rintro rules named child _ ⟨top, floor, bound⟩
    -- No level is left, so no region is entered.
    simp only [Config.levels, floor, Option.getD_some] at left
    omega
  | succ levels ih =>
    apply applyAt_ends_step rule ready
    intro rules named child inside _
    have step := fun rule desk ready =>
      @ih (depth + 1) desk rule (by omega) ready
    rw [bodyAt, Program.run_bind, Work.attempt_bind, ← applyEach_eq_run, ← applyEach_eq_run]
    have first := applyEach_ends step rules inside
    have after := inside.run (programEach (programAt levels) rules)
    rw [← applyEach_eq_run] at after
    cases ran : (applyEach (applyAt levels) rules).attempt child with
    | mk outcome middle =>
      rw [ran] at first after
      cases outcome with
      | error fault => exact .regionStops first
      | ok count => exact .region first (applyEach_ends step named after)

end Rule

namespace Program

/-- Programs that scan regions under no limit but that of the settings, also inside regions. -/
def UsesSettings : Program α → Prop
  | done _ | fail _ => True
  | look next => ∀ desk, (next desk).UsesSettings
  | call _ next => ∀ outcome, (next outcome).UsesSettings
  | rescan _ limit body next =>
    limit = none ∧ body.UsesSettings ∧ ∀ outcome, (next outcome).UsesSettings

theorem UsesSettings.bind {program : Program β} {next : β → Program α} (first : program.UsesSettings)
    (second : ∀ b, (next b).UsesSettings) : (program.bind next).UsesSettings := by
  unfold Program.bind
  induction program with
  | done b => exact second b
  | fail fault => trivial
  | look inner ih => exact fun desk => ih desk (first desk) second
  | call c inner ih => exact fun outcome => ih outcome (first outcome) second
  | rescan label limit body inner _ ih =>
    exact ⟨first.1, first.2.1, fun outcome => ih outcome (first.2.2 outcome) second⟩

variable {config : Config} {registry : Registry} {depth : Int} {desk : Desk}

theorem UsesSettings.trace_depth {program : Program α} (uses : program.UsesSettings)
    (ready : desk.Ready config registry depth) {limit : Int}
    (floor : config.maxDepth.floor? = some limit) {region : Mark} {child : Annotator}
    (happened : .entered region child ∈ program.trace desk) : child.depth ≤ limit := by
  induction program generalizing desk depth with
  | done | fail => simp [trace] at happened
  | look next ih => exact ih desk (uses desk) ready happened
  | call c next ih =>
    simp only [trace, List.mem_cons, reduceCtorEq, false_or] at happened
    exact ih _ (uses _) (ready.call c) happened
  | rescan label bound body next ihBody ih =>
    obtain ⟨rfl, inner, later⟩ := uses
    rcases entered_rescan happened with ⟨visit, visited, inside⟩ | after
    · obtain ⟨entered, top, read, allowed⟩ := ready.enter visited
      obtain rfl : limit = top := Option.some.inj (floor.symm.trans read)
      rcases inside with rfl | within
      · rw [entered.depth]
        exact allowed
      · exact ihBody inner entered within
    · exact ih _ (later _) (ready.rescan label none body) after

end Program

namespace Rule

theorem programEach_usesSettings {step : Rule → Program Int} (uses : ∀ rule, (step rule).UsesSettings)
    (rules : List Rule) : (programEach step rules).UsesSettings := by
  induction rules with
  | nil => trivial
  | cons rule rest ih => exact (uses rule).bind fun _ => ih.bind fun _ => trivial

theorem programRescan_usesSettings (target : Datum) (grammar : Option String)
    {work : List Rule → Program Int} (inner : ∀ named, (work named).UsesSettings) :
    (programRescan target grammar work).UsesSettings := by
  intro desk
  dsimp only
  split
  · trivial
  · refine ⟨rfl, inner _, fun outcome => ?_⟩
    cases outcome <;> trivial
  · trivial

theorem programAt_usesSettings_step {levels : Nat} (rule : Rule)
    (inner : ∀ rules named, (bodyAt levels rules named).UsesSettings) :
    (programAt levels rule).UsesSettings := by
  have counts (outcome : Except Fault Session.Answer) : (counted outcome).UsesSettings := by
    unfold counted
    split <;> trivial
  cases rule with
  | find matcher label => cases levels <;> exact counts
  | ask request label => cases levels <;> exact counts
  | unknown => cases levels <;> trivial
  | inside target rules grammar =>
    rw [programAt_inside]
    exact programRescan_usesSettings _ _ (inner rules)
  | insideAs target rules grammar =>
    rw [programAt_insideAs, programNamed]
    split
    · exact programRescan_usesSettings _ _ (inner rules)
    · trivial

theorem programAt_usesSettings (levels : Nat) (rule : Rule) : (programAt levels rule).UsesSettings := by
  induction levels generalizing rule with
  | zero => exact programAt_usesSettings_step rule fun _ _ => trivial
  | succ levels ih =>
    apply programAt_usesSettings_step rule
    intro rules named
    exact (programEach_usesSettings ih rules).bind fun _ => programEach_usesSettings ih named

inductive Typed (config : Config) : Rule → Prop where
  | find (matcher : Matcher) (label : String) : Typed config (find matcher label)
  | ask {request : Request} (label : Datum) (typed : request.Typed config) :
      Typed config (ask request label)
  | unknown (kind : String) (target label : Datum) : Typed config (unknown kind target label)
  | inside (target : String) {rules : List Rule} (grammar : Option String)
      (nested : ∀ rule ∈ rules, Typed config rule) : Typed config (inside target rules grammar)
  | insideAs (target : Datum) {rules : List Rule} {value : Datum} {grammar : Option String}
      (named : grammarName value = .ok grammar) (nested : ∀ rule ∈ rules, Typed config rule) :
      Typed config (insideAs target rules value)

def declared : List Fault.Family := [.matcher, .grammar, .depth]

theorem find_family {registry : Registry} (name : String) :
    Only (fun fault => fault.family = .grammar) (registry.find name) := by
  unfold Registry.find
  split
  · exact .ok _
  · exact .error rfl

theorem typed_licensed {config : Config} {registry : Registry}
    (registered : ∀ name grammar, registry.find name = .ok grammar →
      ∀ rule ∈ grammar.rules, rule.Typed config) (limit : Int) :
    Licensed config registry limit (Typed config) fun fault => fault.family ∈ declared where
  spoken fault matcher := by simp [declared, show fault.family = .matcher from matcher]
  ask typed := by
    cases typed with
    | ask _ typed => exact .inl typed
  inside typed := by
    cases typed with
    | inside _ _ nested => exact nested
  insideAs typed := by
    cases typed with
    | insideAs _ named nested =>
      rw [named]
      exact ⟨.ok _, nested⟩
  unregistered name := (find_family name).mono fun fault grammar => by simp [declared, grammar]
  registered found := registered _ _ found
  deep label := by simp [declared, Fault.family]

/-- A fault that reports regions too deep reports the limit and the first level below it. -/
def ReportsLimit (limit : Int) (fault : Fault) : Prop :=
  ∀ label depth carried, fault = .tooDeep label depth carried →
    carried = .int limit ∧ depth = max limit 0 + 1

theorem reportsLimit_of_family {limit : Int} {fault : Fault} (other : fault.family ≠ .depth) :
    ReportsLimit limit fault := by
  rintro label depth carried rfl
  exact absurd rfl other

theorem reportsLimit_licensed (config : Config) (registry : Registry) (limit : Int) :
    Licensed config registry limit (fun _ => True) (ReportsLimit limit) where
  spoken fault matcher :=
    reportsLimit_of_family (by simp [show fault.family = .matcher from matcher])
  ask _ := .inr (reportsLimit_of_family (by simp [Fault.family]))
  inside _ _ _ := trivial
  insideAs {target rules grammar} _ := by
    refine ⟨?_, fun _ _ => trivial⟩
    unfold grammarName
    split
    · exact .ok _
    · split
      · exact .error (reportsLimit_of_family (by simp [Fault.family]))
      · exact .ok _
  unregistered name :=
    (find_family name).mono fun fault grammar => reportsLimit_of_family (by simp [grammar])
  registered _ _ _ := trivial
  deep label := by
    rintro _ _ _ ⟨⟩
    exact ⟨rfl, rfl⟩

variable {desk : Desk}

/-- Rules end, whatever grammars they name and whatever those name in turn: the recursion without a
count of levels has exactly one outcome, and that is what is computed. It is a count or a declared
fault; no region is entered below the limit; and a fault about the level reports the limit and the
first level below it. -/
theorem applyAll_ends (handled : desk.annotator.Handled) (top : desk.annotator.depth = 0)
    {limit : Int} (limited : desk.studio.config.maxDepth = .int limit) (rules : List Rule) :
    (∀ outcome, Ends (.each rules) desk outcome ↔ (applyAll rules).attempt desk = outcome) ∧
    ((∀ rule ∈ rules, rule.Typed desk.studio.config) →
      (∀ name grammar, desk.studio.registry.find name = .ok grammar →
        ∀ rule ∈ grammar.rules, rule.Typed desk.studio.config) →
      Only (fun fault => fault.family ∈ declared) ((applyAll rules).attempt desk).1) ∧
    ((program rules).run = applyAll rules ∧
      ∀ region child, .entered region child ∈ (program rules).trace desk → child.depth ≤ limit) ∧
    ∀ label depth carried, ((applyAll rules).attempt desk).1 = .error (.tooDeep label depth carried) →
      carried = .int limit ∧ depth = max limit 0 + 1 := by
  have ready : desk.Ready desk.studio.config desk.studio.registry 0 :=
    ⟨⟨rfl, rfl⟩, handled.sound, top⟩
  have left : levelsLeft desk = (desk.studio.config.levels - 0).toNat := by rw [levelsLeft, top]
  have within : (0 : Int) ≤ 0 ∧ 0 ≤ max limit 0 := by omega
  have floor : desk.studio.config.maxDepth.floor? = some limit := by
    simp [limited, Datum.floor?, Datum.ratio?, Datum.toInt?, Int.fdiv_one]
  have ends : Ends (.each rules) desk ((applyAll rules).attempt desk) :=
    applyEach_ends (fun rule desk ready => applyAt_ends rule left ready) rules ready
  refine ⟨fun outcome => ⟨ends.unique, fun same => same ▸ ends⟩, fun typed registered => ?_,
    ⟨run_program rules, fun region child happened => ?_⟩, fun label depth carried failed => ?_⟩
  · have licensed := typed_licensed registered limit
    exact applyEach_only (fun rule desk fit ready =>
      licensed.applyAt limited _ fit ready within) typed ready
  · have uses : (program rules).UsesSettings := fun desk =>
      programEach_usesSettings (programAt_usesSettings _) rules
    exact uses.trace_depth ready floor happened
  · have licensed := reportsLimit_licensed desk.studio.config desk.studio.registry limit
    have only : Only (ReportsLimit limit) ((applyAll rules).attempt desk).1 :=
      applyEach_only (fun rule desk fit ready => licensed.applyAt limited _ fit ready within)
        (fun rule _ => trivial) ready
    exact only _ failed label depth carried rfl

/-- A grammar that scans what it has marked with itself. -/
def echo : Grammar where
  name := "echo"
  rules := [.find (.all "x".toList false) "again", .inside "again" [] (some "echo")]

def echoing : Desk where
  annotator := .create {} "x".toList (some false)
  studio := { config := { maxDepth := .int 2 }, registry := Registry.register {} echo }

theorem applyAll_ends_echo :
    echoing.annotator.Handled ∧ echoing.annotator.depth = 0 ∧
    echoing.studio.config.maxDepth = .int 2 ∧
    (∀ rule ∈ echo.rules, rule.Typed echoing.studio.config) ∧
    (∀ name grammar, echoing.studio.registry.find name = .ok grammar →
      ∀ rule ∈ grammar.rules, rule.Typed echoing.studio.config) ∧
    ∃ label last, Ends (.each echo.rules) echoing (.error (.tooDeep label 3 (.int 2)), last) := by
  have handled : echoing.annotator.Handled := .create {} _ _
  have typed : ∀ rule ∈ echo.rules, rule.Typed echoing.studio.config := by
    simp only [echo, List.forall_mem_cons, List.not_mem_nil, false_implies, implies_true, and_true]
    exact ⟨.find _ _, .inside _ _ (by simp)⟩
  have registered : ∀ name grammar, echoing.studio.registry.find name = .ok grammar →
      ∀ rule ∈ grammar.rules, rule.Typed echoing.studio.config := by
    intro name grammar found
    have only : grammar = echo := by
      simp only [Registry.find, echoing, Registry.register, Table.put, Table.find?] at found
      split at found
      next some =>
        split at some
        · exact (Except.ok.inj found).symm.trans (Option.some.inj some).symm
        · simp at some
      · simp at found
    rw [only]
    exact typed
  obtain ⟨ends, _, _, reports⟩ := applyAll_ends handled rfl rfl echo.rules
  have stops : (match ((applyAll echo.rules).attempt echoing).1 with
      | .error (.tooDeep ..) => true
      | _ => false) = true := by decide +kernel
  split at stops
  next label depth carried failed =>
    obtain ⟨rfl, rfl⟩ := reports label depth carried failed
    refine ⟨handled, rfl, rfl, typed, registered, label, ((applyAll echo.rules).attempt echoing).2, ?_⟩
    exact (ends _).mpr (Prod.ext failed rfl)
  · contradiction

end Rule

end Highlight
