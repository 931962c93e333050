import Highlight.Proofs.Coverage

/-! Regions are scanned as documents of their own. What rules do depends on the annotator, the
settings and the registered grammars, and on nothing else on the desk; they change only the
annotator. Since a region has the index that its text would have alone, an inside rule leaves on it
what the same rules leave on a new document over that text. -/
namespace Highlight

def Desk.Under (config : Config) (registry : Registry) (desk : Desk) : Prop :=
  desk.studio.config = config ∧ desk.studio.registry = registry

/-- Desks that rules cannot tell apart. -/
structure Desk.Agrees (config : Config) (registry : Registry) (d e : Desk) : Prop where
  annotator : d.annotator = e.annotator
  left : d.Under config registry
  right : e.Under config registry

/-- Work that leaves agreeing desks in agreement, with the same outcome. -/
def Work.Uniform (config : Config) (registry : Registry) (work : Work α) : Prop :=
  ∀ d e, d.Agrees config registry e → (work.attempt d).1 = (work.attempt e).1 ∧
    (work.attempt d).2.Agrees config registry (work.attempt e).2

variable {config : Config} {registry : Registry} {d e desk : Desk}

namespace Work

theorem bind_ok {work : Work α} {next : α → Work β} {b : β} {after : Desk}
    (ran : (work >>= next).attempt desk = (.ok b, after)) :
    ∃ a middle, work.attempt desk = (.ok a, middle) ∧ (next a).attempt middle = (.ok b, after) := by
  rw [attempt_bind] at ran
  cases first : work.attempt desk with
  | mk outcome middle =>
    rw [first] at ran
    cases outcome with
    | error fault => simp at ran
    | ok a => exact ⟨a, middle, rfl, ran⟩

namespace Uniform

theorem refl_agrees (under : desk.Under config registry) : desk.Agrees config registry desk :=
  ⟨rfl, under, under⟩

theorem under {work : Work α} (uniform : work.Uniform config registry)
    (under : desk.Under config registry) : (work.attempt desk).2.Under config registry :=
  (uniform desk desk (refl_agrees under)).2.left

theorem pure (a : α) : Uniform config registry (pure a : Work α) :=
  fun _ _ agrees => ⟨rfl, agrees⟩

theorem throw (fault : Fault) : Uniform config registry (throw fault : Work α) :=
  fun _ _ agrees => ⟨rfl, agrees⟩

theorem lift (result : Except Fault α) : Uniform config registry (lift result) := by
  intro d e agrees
  simp only [attempt_lift, true_and]
  exact agrees

theorem update (f : Annotator → Annotator × α) : Uniform config registry (update f) := by
  intro d e agrees
  simp only [attempt_update, agrees.annotator, true_and]
  exact ⟨rfl, agrees.left, agrees.right⟩

theorem bind {work : Work α} {next : α → Work β} (first : work.Uniform config registry)
    (rest : ∀ a, (next a).Uniform config registry) : (work >>= next).Uniform config registry := by
  intro d e agrees
  obtain ⟨same, after⟩ := first d e agrees
  simp only [attempt_bind]
  cases left : work.attempt d with
  | mk outcome d' =>
    cases right : work.attempt e with
    | mk other e' =>
      rw [left, right] at same after
      simp only at same after
      subst same
      cases outcome with
      | error fault => exact ⟨rfl, after⟩
      | ok a => exact rest a d' e' after

/-- Work that reads the desk, but only what agreeing desks share. -/
theorem get_bind {next : Desk → Work α} (uniform : ∀ desk, (next desk).Uniform config registry)
    (same : ∀ d e, d.Agrees config registry e → next d = next e) :
    (get >>= next).Uniform config registry := by
  intro d e agrees
  simp only [attempt_bind, attempt_get, same d e agrees]
  exact uniform e d e agrees

end Uniform

theorem search_uniform (matcher : Matcher) (label : String) :
    (search matcher label).Uniform config registry := by
  intro d e agrees
  simp only [attempt, search, agrees.annotator, agrees.left.1, agrees.right.1]
  cases matcher.run config e.annotator label with
  | error fault => exact ⟨rfl, agrees⟩
  | ok result => exact ⟨rfl, rfl, agrees.left, agrees.right⟩

theorem recordPlaced_uniform (request : Request) (label : String) (regions : List (Int × Int)) :
    (recordPlaced request label regions).Uniform config registry := by
  induction regions with
  | nil => exact .pure 0
  | cons region rest ih =>
    apply Uniform.get_bind
    · intro desk
      dsimp only
      split
      · exact ih
      · apply Uniform.bind (.lift _)
        intro placed
        exact (Uniform.update _).bind fun _ => ih.bind fun _ => .pure _
    · intro d e agrees
      rw [agrees.annotator]

theorem ask_uniform (request : Request) (label : String) :
    (ask request label).Uniform config registry := by
  apply Uniform.bind (.lift _)
  intro matcher
  apply Uniform.get_bind
  · intro desk
    split
    · exact .throw _
    · split
      · exact recordPlaced_uniform request label _
      · exact search_uniform matcher label
  · intro d e agrees
    rw [agrees.annotator, agrees.left.1, agrees.right.1]

end Work

namespace Region

variable {label : String} {work : Work α} {region : Mark}

theorem enter_agrees (region : Mark) (agrees : d.Agrees config registry e) :
    (enter region d).Agrees config registry (enter region e) :=
  ⟨by simp only [enter, agrees.annotator], agrees.left, agrees.right⟩

theorem rescanOne_uniform (label : String) (region : Mark) (uniform : work.Uniform config registry) :
    (rescanOne label work region).Uniform config registry := by
  intro d e agrees
  have entered := enter_agrees region agrees
  obtain ⟨same, after⟩ := uniform _ _ entered
  rw [rescanOne_attempt, rescanOne_attempt]
  cases left : work.attempt (enter region d) with
  | mk outcome d' =>
    cases right : work.attempt (enter region e) with
    | mk other e' =>
      rw [left, right] at same after
      simp only at same after
      subst same
      cases outcome with
      | error fault => exact ⟨rfl, agrees.annotator, after.left, after.right⟩
      | ok answer =>
        simp only [agrees.annotator, after.annotator, entered.annotator]
        by_cases text : e'.annotator.text = (enter region e).annotator.text
        · simp only [ne_eq, text, not_true_eq_false, ↓reduceIte]
          cases e.annotator.marks.replace region _ with
          | error fault => exact ⟨rfl, rfl, after.left, after.right⟩
          | ok marks => exact ⟨rfl, rfl, after.left, after.right⟩
        · simp only [ne_eq, text, not_false_eq_true, ↓reduceIte, true_and]
          exact ⟨rfl, after.left, after.right⟩

theorem rescanEach_uniform (label : String) (regions : List Mark)
    (uniform : work.Uniform config registry) :
    (rescanEach label work regions).Uniform config registry := by
  induction regions with
  | nil => exact .pure []
  | cons region rest ih =>
    exact (rescanOne_uniform label region uniform).bind fun _ => ih.bind fun _ => .pure _

theorem rescan_uniform (label : String) (limit : Option Datum)
    (uniform : work.Uniform config registry) :
    (rescan label limit work).Uniform config registry := by
  intro d e agrees
  have each := rescanEach_uniform label (e.annotator.marks.withLabel label) uniform d e agrees
  simp only [Work.attempt, rescan, agrees.annotator, agrees.left.1, agrees.right.1] at each ⊢
  cases (e.annotator.marks.withLabel label).isEmpty with
  | true => exact ⟨rfl, agrees⟩
  | false =>
    cases (limit.getD config.maxDepth).floor? with
    | none => exact ⟨rfl, agrees⟩
    | some levels =>
      by_cases deep : levels < e.annotator.depth + 1
      · simp only [Bool.false_eq_true, deep, ↓reduceIte, true_and]
        exact agrees
      · simpa only [Bool.false_eq_true, deep, ↓reduceIte] using each

theorem Course.under {slack : Int} {regions : List Mark}
    {result : Except Fault (List α) × Desk} {visited : List (Mark × Desk)}
    (course : Course slack label work regions desk result visited)
    (keeps : ∀ visit ∈ visited, visit.2.Under config registry →
      (work.attempt (enter visit.1 visit.2)).2.Under config registry)
    (under : desk.Under config registry) :
    result.2.Under config registry ∧ ∀ visit ∈ visited, visit.2.Under config registry := by
  induction course with
  | done => exact ⟨under, by simp⟩
  | stopped _ _ outcome =>
    have inner := keeps _ List.mem_cons_self under
    refine ⟨?_, by simpa using under⟩
    cases outcome with
    | failed ran => rwa [ran] at inner
    | replaced ran => rwa [ran] at inner
  | went _ _ outcome _ ih =>
    have inner := keeps _ List.mem_cons_self under
    cases outcome with
    | kept ran _ _ _ shared =>
      rw [ran] at inner
      subst shared
      obtain ⟨last, visits⟩ := ih (fun visit later => keeps visit (List.mem_cons_of_mem _ later)) inner
      exact ⟨last, List.forall_mem_cons.mpr ⟨under, visits⟩⟩

theorem rescan_level {limit : Option Datum} {answers : List α} {after : Desk}
    (ran : (rescan label limit work).attempt desk = (.ok answers, after))
    (some : desk.annotator.marks.withLabel label ≠ []) :
    ∃ levels, (limit.getD desk.studio.config.maxDepth).floor? = .some levels ∧
      desk.annotator.depth + 1 ≤ levels := by
  rw [rescan_attempt, if_neg some] at ran
  cases floor : (limit.getD desk.studio.config.maxDepth).floor? with
  | none => simp [floor] at ran
  | some levels =>
    refine ⟨levels, rfl, ?_⟩
    by_cases deep : levels < desk.annotator.depth + 1
    · simp [floor, deep] at ran
    · omega

end Region

/-- Where the index is that of the text, a child is a new document over its part, one level deeper. -/
theorem Annotator.child_eq_create {a : Annotator} (index : a.index = .ofText a.text)
    (config : Config) (start stop : Int) : a.child start stop =
      { create config (a.slice start stop) (some false) with depth := a.depth + 1 } := by
  have same := child_index index start stop
  simp only [child] at same ⊢
  rw [same]
  rfl

namespace Rule

theorem applyEach_uniform {step : Rule → Work Int}
    (uniform : ∀ rule, (step rule).Uniform config registry) (rules : List Rule) :
    (applyEach step rules).Uniform config registry := by
  induction rules with
  | nil => exact .pure 0
  | cons rule rest ih => exact (uniform rule).bind fun _ => ih.bind fun _ => .pure _

theorem rulesOf_uniform (grammar : Option String) :
    (rulesOf grammar).Uniform config registry := by
  intro d e agrees
  obtain ⟨outcome, found⟩ := rulesOf_attempt grammar registry
  rw [found d agrees.left.2, found e agrees.right.2]
  exact ⟨rfl, agrees⟩

theorem rescanWith_uniform (target : Datum) (grammar : Option String) {work : List Rule → Work Int}
    (uniform : ∀ named, (work named).Uniform config registry) :
    (rescanWith target grammar work).Uniform config registry := by
  apply (rulesOf_uniform grammar).bind
  intro named
  cases target with
  | text label => exact (Region.rescan_uniform label none (uniform named)).bind fun _ => .pure _
  | _ => exact .pure 0

theorem applyAt_uniform (levels : Nat) (rule : Rule) :
    (applyAt levels rule).Uniform config registry := by
  induction levels generalizing rule with
  | zero =>
    cases rule with
    | find matcher label => exact Work.search_uniform matcher label
    | ask request label => exact Work.ask_uniform request label.plain
    | unknown => exact .throw _
    | inside target rules grammar => exact rescanWith_uniform _ _ fun _ => .pure 0
    | insideAs target rules grammar =>
      exact (Work.Uniform.lift _).bind fun _ => rescanWith_uniform _ _ fun _ => .pure 0
  | succ levels ih =>
    have nested (rules named : List Rule) :=
      (applyEach_uniform ih rules).bind fun _ => applyEach_uniform ih named
    cases rule with
    | find matcher label => exact Work.search_uniform matcher label
    | ask request label => exact Work.ask_uniform request label.plain
    | unknown => exact .throw _
    | inside target rules grammar => exact rescanWith_uniform _ _ (nested rules)
    | insideAs target rules grammar =>
      exact (Work.Uniform.lift _).bind fun _ => rescanWith_uniform _ _ (nested rules)

theorem applyAll_uniform (rules : List Rule) : (applyAll rules).Uniform config registry := by
  intro d e agrees
  have levels : levelsLeft d = levelsLeft e := by
    rw [levelsLeft, levelsLeft, agrees.annotator, agrees.left.1, agrees.right.1]
  have whole (desk : Desk) : (applyAll rules).attempt desk =
      (applyEach (applyAt (levelsLeft desk)) rules).attempt desk := rfl
  rw [whole, whole, levels]
  exact applyEach_uniform (applyAt_uniform _) rules d e agrees

/-- The label, rules and grammar of an inside rule, where its values can be read as such. -/
def asInside : Rule → Option (String × List Rule × Option String)
  | inside target rules grammar => some (target, rules, grammar)
  | insideAs (.text target) rules grammar =>
    match grammarName grammar with
    | .ok name => some (target, rules, name)
    | .error _ => none
  | _ => none

def nested (levels : Nat) (rules named : List Rule) : Work Int := do
  let _ ← applyEach (applyAt levels) rules
  applyEach (applyAt levels) named

variable {rule : Rule} {target : String} {rules : List Rule} {grammar : Option String}

theorem asInside_cases (read : rule.asInside = some (target, rules, grammar)) :
    rule = inside target rules grammar ∨
      ∃ value, rule = insideAs (.text target) rules value ∧ grammarName value = .ok grammar := by
  unfold asInside at read
  split at read
  · cases read
    exact .inl rfl
  next label others value =>
    cases named : grammarName value with
    | error fault => simp [named] at read
    | ok name =>
      simp only [named, Option.some.injEq, Prod.mk.injEq] at read
      obtain ⟨rfl, rfl, rfl⟩ := read
      exact .inr ⟨value, rfl, named⟩
  · contradiction

theorem applyAt_inside (read : rule.asInside = some (target, rules, grammar)) :
    applyAt 0 rule = rescanWith (.text target) grammar (fun _ => pure 0) ∧
      ∀ levels, applyAt (levels + 1) rule =
        rescanWith (.text target) grammar (nested levels rules) := by
  rcases asInside_cases read with rfl | ⟨value, rfl, named⟩
  · exact ⟨rfl, fun _ => rfl⟩
  · simp only [applyAt, named]
    exact ⟨rfl, fun _ => rfl⟩

theorem rescanWith_ok {work : List Rule → Work Int} {count : Int} {after : Desk}
    (ran : (rescanWith (.text target) grammar work).attempt desk = (.ok count, after)) :
    ∃ named answers, (rulesOf grammar).attempt desk = (.ok named, desk) ∧
      (Region.rescan target none (work named)).attempt desk = (.ok answers, after) := by
  obtain ⟨outcome, lookup⟩ := rulesOf_attempt grammar desk.studio.registry
  obtain ⟨named, middle, found, rest⟩ := Work.bind_ok ran
  have same : desk = middle := congrArg Prod.snd ((lookup desk rfl).symm.trans found)
  subst same
  obtain ⟨answers, last, scanned, ended⟩ := Work.bind_ok rest
  have same : last = after := congrArg Prod.snd ended
  exact ⟨named, answers, found, same ▸ scanned⟩

def scan (rules : List Rule) (grammar : Option String) : Work (List Mark) := do
  let named ← rulesOf grammar
  let _ ← applyAll rules
  let _ ← applyAll named
  return (← get).annotator.marks.marks

/-- A desk with nothing but a new document on it, at a given level. -/
def alone (config : Config) (registry : Registry) (depth : Int) (text : Text) : Desk where
  annotator := { Annotator.create config text (some false) with depth }
  studio := { config, registry }

/-- The marks of a document over a text that is scanned by itself. -/
def marksAlone (config : Config) (registry : Registry) (depth : Int) (rules : List Rule)
    (grammar : Option String) (text : Text) : Except Fault (List Mark) :=
  ((scan rules grammar).attempt (alone config registry depth text)).1

theorem applyEach_eq_run (levels : Nat) (rules : List Rule) :
    applyEach (applyAt levels) rules = (programEach (programAt levels) rules).run :=
  (run_programEach (run_programAt levels) rules).symm

theorem nested_eq_run (levels : Nat) (rules named : List Rule) :
    nested levels rules named = ((programEach (programAt levels) rules).bind fun _ =>
      programEach (programAt levels) named).run := by
  simp only [nested, Program.run_bind, applyEach_eq_run]

theorem nested_uniform (levels : Nat) (rules named : List Rule) :
    (nested levels rules named).Uniform config registry :=
  (applyEach_uniform (applyAt_uniform levels) rules).bind fun _ =>
    applyEach_uniform (applyAt_uniform levels) named

/-- Rules do not change how many levels are left for those after them. -/
theorem levelsLeft_applyEach (sound : desk.annotator.Sound 1) (levels : Nat) (rules : List Rule) :
    levelsLeft ((applyEach (applyAt levels) rules).attempt desk).2 = levelsLeft desk := by
  have uniform : (applyEach (applyAt levels) rules).Uniform desk.studio.config desk.studio.registry :=
    applyEach_uniform (applyAt_uniform levels) rules
  have config := (uniform.under ⟨rfl, rfl⟩).1
  have depth := (programEach (programAt levels) rules).run_depth sound (Int.le_refl 1)
  rw [← applyEach_eq_run] at depth
  simp only [levelsLeft, config, depth]

/-- With its levels counted by itself, a scan does what is done to a region. -/
theorem scan_ok (sound : desk.annotator.Sound 1) {levels : Nat} (left : levelsLeft desk = levels)
    {named : List Rule} (found : (rulesOf grammar).attempt desk = (.ok named, desk))
    {count : Int} {last : Desk} (ran : (nested levels rules named).attempt desk = (.ok count, last)) :
    (scan rules grammar).attempt desk = (.ok last.annotator.marks.marks, last) := by
  obtain ⟨n, middle, first, second⟩ := Work.bind_ok ran
  have kept := levelsLeft_applyEach sound levels rules
  simp only [first, left] at kept
  have one : (applyAll rules).attempt desk = (.ok n, middle) := by
    rw [← first, ← left]
    rfl
  have two : (applyAll named).attempt middle = (.ok count, last) := by
    rw [← second, ← kept]
    rfl
  simp only [scan, Work.attempt_bind, found, one, two, Work.attempt_get]
  rfl

/-- What a region meets is what it would meet as a document. -/
theorem visit_agrees {work : Work Int} {regions : List Mark}
    {result : Except Fault (List Int) × Desk} {visited : List (Mark × Desk)}
    (course : Region.Course 1 target work regions desk result visited)
    (uniform : work.Uniform desk.studio.config desk.studio.registry) {visit : Mark × Desk}
    (member : visit ∈ visited) (index : desk.annotator.index = .ofText desk.annotator.text) :
    (Region.enter visit.1 visit.2).Agrees desk.studio.config desk.studio.registry
      (alone desk.studio.config desk.studio.registry (desk.annotator.depth + 1)
        (desk.annotator.textOf visit.1)) := by
  obtain ⟨_, visits⟩ := course.under (fun _ _ under => uniform.under under) ⟨rfl, rfl⟩
  refine ⟨?_, visits visit member, ⟨rfl, rfl⟩⟩
  rw [course.enter_eq member]
  exact Annotator.child_eq_create index desk.studio.config visit.1.start visit.1.stop

theorem marksAlone_of_agrees {depth : Int} {text : Text} {inside inner : Desk} {levels : Nat}
    {named : List Rule} {count : Int}
    (agrees : inside.Agrees config registry (alone config registry depth text))
    (sound : inside.annotator.Sound 1)
    (left : levelsLeft (alone config registry depth text) = levels)
    (found : (rulesOf grammar).attempt d = (.ok named, d)) (grammars : d.studio.registry = registry)
    (worked : (nested levels rules named).attempt inside = (.ok count, inner)) :
    marksAlone config registry depth rules grammar text = .ok inner.annotator.marks.marks := by
  obtain ⟨same, ended⟩ := nested_uniform levels rules named _ _ agrees
  rw [worked] at same ended
  rw [agrees.annotator] at sound
  obtain ⟨outcome, lookup⟩ := rulesOf_attempt grammar registry
  rw [lookup d grammars] at found
  obtain ⟨rfl, _⟩ := Prod.mk.inj found
  have foundAlone := lookup (alone config registry depth text) agrees.right.2
  cases ran : (nested levels rules named).attempt (alone config registry depth text) with
  | mk outcome last =>
    rw [ran] at same ended
    simp only at same ended
    subst same
    rw [marksAlone, scan_ok sound left foundAlone ran, ended.annotator]

theorem applyAll_single {count : Int} {after : Desk} (ran : applyAll [rule] desk = .ok count after) :
    ∃ n, (applyAt (levelsLeft desk) rule).attempt desk = (.ok n, after) := by
  have applied : (applyEach (applyAt (levelsLeft desk)) [rule]).attempt desk = (.ok count, after) :=
    Work.attempt_eq_ok.mpr ran
  obtain ⟨n, last, one, rest⟩ := Work.bind_ok applied
  have same : last = after := congrArg Prod.snd rest
  exact ⟨n, same ▸ one⟩

/-- Regions are scanned as independent documents. Where an inside rule succeeds, each region ends up
with the marks that its rules and its grammar leave on a new document over the text of the region,
and with its own label on the gaps. Nothing else on the desk has a part in it. -/
theorem inside_alone (reached : desk.annotator.Reached)
    (read : rule.asInside = some (target, rules, grammar)) {count : Int} {after : Desk}
    (ran : applyAll [rule] desk = .ok count after) :
    ∀ region ∈ desk.annotator.marks.withLabel target, ∃ marks,
      marksAlone desk.studio.config desk.studio.registry (desk.annotator.depth + 1) rules grammar
        (desk.annotator.textOf region) = .ok marks ∧
      Retiled region (marks.map fun mark => mark.shift region.start)
        after.annotator.marks.marks := by
  intro region member
  have sound := reached.sound
  obtain ⟨n, applied⟩ := applyAll_single ran
  obtain ⟨shallow, deeper⟩ := applyAt_inside read
  cases left : levelsLeft desk with
  | zero =>
    rw [left, shallow] at applied
    obtain ⟨named, answers, _, scanned⟩ := rescanWith_ok applied
    obtain ⟨levels, floor, bound⟩ := Region.rescan_level scanned (List.ne_nil_of_mem member)
    simp only [Option.getD_none] at floor
    simp only [levelsLeft, Config.levels, floor, Option.getD_some] at left
    omega
  | succ levels =>
    rw [left, deeper] at applied
    obtain ⟨named, answers, found, scanned⟩ := rescanWith_ok applied
    rw [Region.rescan_admitted fun some => Region.rescan_level scanned some] at scanned
    have course := ((programEach (programAt levels) rules).bind fun _ =>
      programEach (programAt levels) named).scan_course target sound
    rw [← nested_eq_run, scanned] at course
    obtain ⟨_, places, _, _, inside⟩ := course.retiled rfl
    rw [← places] at member
    obtain ⟨visit, visited, rfl⟩ := List.mem_map.mp member
    obtain ⟨answer, inner, worked, retiled⟩ := inside visit visited
    have agrees := visit_agrees course (nested_uniform levels rules named) visited sound.index
    have document := Annotator.child_sound 1 (course.visits_sound visit visited).1.index
      visit.1.start visit.1.stop
    have levelsAlone : levelsLeft (alone desk.studio.config desk.studio.registry
        (desk.annotator.depth + 1) (desk.annotator.textOf visit.1)) = levels := by
      simp only [levelsLeft, alone] at left ⊢
      omega
    have scannedAlone := marksAlone_of_agrees agrees document levelsAlone found rfl worked
    exact ⟨inner.annotator.marks.marks, scannedAlone, retiled⟩

def keyRules : List Rule := [.find (.all "k".toList false) "key"]

/-- A region with the text `k=`, scanned by a rule of its own and by the grammar of TOML. -/
theorem inside_alone_key :
    Region.marked.annotator.Reached ∧
    ∃ count after, applyAll [.inside "region" keyRules (some "toml")] Region.marked =
      .ok count after ∧
    ∃ marks, marksAlone {} .builtin 1 keyRules (some "toml") "k=".toList = .ok marks ∧
      Retiled ⟨0, 2, "region"⟩ (marks.map fun mark => mark.shift 0)
        after.annotator.marks.marks := by
  have reached : Region.marked.annotator.Reached :=
    Annotator.Reached.after (.create {} _ _) Region.markBoth
  have read : asInside (.inside "region" keyRules (some "toml")) =
      some ("region", keyRules, some "toml") := rfl
  have succeeds : ((applyAll [.inside "region" keyRules (some "toml")]).attempt
      Region.marked).1.toOption = some 1 := by decide +kernel
  have member : ⟨0, 2, "region"⟩ ∈ Region.marked.annotator.marks.withLabel "region" := by
    decide +kernel
  have text : Region.marked.annotator.textOf ⟨0, 2, "region"⟩ = "k=".toList := by decide +kernel
  have depth : Region.marked.annotator.depth + 1 = 1 := by decide +kernel
  cases ran : applyAll [.inside "region" keyRules (some "toml")] Region.marked with
  | error fault after => simp [Work.attempt, ran, Except.toOption] at succeeds
  | ok count after =>
    have scanned := inside_alone reached read ran ⟨0, 2, "region"⟩ member
    rw [text, depth] at scanned
    exact ⟨reached, count, after, rfl, scanned⟩

end Rule

end Highlight
