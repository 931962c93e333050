import Highlight.Fragment
import Highlight.Proofs.Independence
import Highlight.Session.Step

/-! Observed work. `replacements` lists the regions that give way to new marks while a program runs, at
whatever level, also inside regions that are given up afterwards. A run leaves the desk as it was but for
the annotator and for the counters, and the counters go on by these replacements, one by one. Since rules
take no notice of counters, they and what is rendered after them come out the same without. -/
namespace Highlight

open Session (withProfile)

/-- A region that has given way to new marks, with its parent before and after. -/
structure Replacement where
  region : Mark
  before : Annotator
  after : Annotator

namespace Replacement

def depth (replacement : Replacement) : Int :=
  (replacement.before.child replacement.region.start replacement.region.stop).depth

/-- The parent's store has swapped the region for tiles, and nothing else has changed. -/
def IsMade (replacement : Replacement) : Prop :=
  ∃ tiles marks, replacement.before.marks.replace replacement.region tiles = .ok marks ∧
    replacement.after = { replacement.before with marks }

end Replacement

def Region.replacement? (label : String) (work : Work α) (region : Mark) (desk : Desk) :
    Option Replacement :=
  match (rescanOne label work region).attempt desk with
  | (.ok _, after) => some ⟨region, desk.annotator, after.annotator⟩
  | (.error _, _) => none

/-- The regions that are replaced in a run, in the order in which that happens: those inside a region come
before the region itself, and stay in the list if the region is given up. -/
def Program.replacements : Program α → Desk → List Replacement
  | done _, _ => []
  | fail _, _ => []
  | look next, desk => (next desk).replacements desk
  | call c next, desk =>
    let (outcome, after) := c.run.attempt desk
    (next outcome).replacements after
  | rescan label limit body next, desk =>
    let (outcome, after) := (Region.rescan label limit body.run).attempt desk
    let visited := Region.visits label body.run (Region.admitted label limit desk) desk
    let inside := visited.flatMap fun (region, parent) =>
      body.replacements (Region.enter region parent) ++
        (Region.replacement? label body.run region parent).toList
    inside ++ (next outcome).replacements after

namespace Profile

def recordRegions (profile : Profile) (depths : List Int) : Profile := depths.foldl recordRegion profile

theorem recordRegions_eq (profile : Profile) (depths : List Int) :
    profile.recordRegions depths = { profile with
      regions := profile.regions + depths.length
      maxDepth := depths.foldl max profile.maxDepth } := by
  unfold recordRegions
  induction depths generalizing profile with
  | nil => simp
  | cons depth rest ih =>
    rw [List.foldl_cons, ih]
    simp only [recordRegion, List.length_cons, List.foldl_cons, mk.injEq, true_and, and_true]
    omega

end Profile

/-- The second desk is the first one but for its annotator, and for counters that have gone on by some
replacements. -/
structure Desk.Counts (replaced : List Replacement) (before after : Desk) : Prop where
  styles : after.styles = before.styles
  studio : after.studio = { before.studio with
    profile := before.studio.profile.map (·.recordRegions (replaced.map Replacement.depth)) }

namespace Desk.Counts

variable {first second : List Replacement} {a b c : Desk}

theorem none (styles : b.styles = a.styles) (studio : b.studio = a.studio) : Counts [] a b := by
  refine ⟨styles, ?_⟩
  rw [studio]
  simp [Profile.recordRegions]

theorem trans (left : Counts first a b) (right : Counts second b c) : Counts (first ++ second) a c := by
  refine ⟨right.styles.trans left.styles, ?_⟩
  rw [right.studio, left.studio]
  simp [Profile.recordRegions, Function.comp_def]

theorem one (replacement : Replacement) (styles : b.styles = a.styles)
    (studio : b.studio = { a.studio with
      profile := a.studio.profile.map (·.recordRegion replacement.depth) }) :
    Counts [replacement] a b :=
  ⟨styles, studio⟩

theorem eq (counts : Counts first a b) :
    b = withProfile (a.studio.profile.map (·.recordRegions (first.map Replacement.depth)))
      { a with annotator := b.annotator } := by
  obtain ⟨_, _, _⟩ := b
  obtain ⟨rfl, rfl⟩ := counts
  rfl

end Desk.Counts

namespace Work

/-- Work that changes nothing on the desk but the annotator. -/
def IsLocal (work : Work α) : Prop :=
  ∀ desk, (work.attempt desk).2.styles = desk.styles ∧ (work.attempt desk).2.studio = desk.studio

namespace IsLocal

theorem pure (a : α) : IsLocal (pure a : Work α) := fun _ => ⟨rfl, rfl⟩

theorem throw (fault : Fault) : IsLocal (throw fault : Work α) := fun _ => ⟨rfl, rfl⟩

theorem get : IsLocal (get : Work Desk) := fun _ => ⟨rfl, rfl⟩

theorem lift (result : Except Fault α) : IsLocal (lift result) := by
  intro desk
  rw [attempt_lift]
  exact ⟨rfl, rfl⟩

theorem update (f : Annotator → Annotator × α) : IsLocal (update f) := fun _ => ⟨rfl, rfl⟩

theorem bind {work : Work α} {next : α → Work β} (first : work.IsLocal)
    (rest : ∀ a, (next a).IsLocal) : (work >>= next).IsLocal := by
  intro desk
  have before := first desk
  rw [attempt_bind]
  cases ran : work.attempt desk with
  | mk outcome middle =>
    rw [ran] at before
    cases outcome with
    | error fault => exact before
    | ok a =>
      obtain ⟨styles, studio⟩ := rest a middle
      exact ⟨styles.trans before.1, studio.trans before.2⟩

end IsLocal

theorem search_local (matcher : Matcher) (label : String) : (search matcher label).IsLocal := by
  intro desk
  simp only [attempt, search]
  cases matcher.run desk.studio.config desk.annotator label <;> exact ⟨rfl, rfl⟩

theorem recordPlaced_local (request : Request) (label : String) (regions : List (Int × Int)) :
    (recordPlaced request label regions).IsLocal := by
  induction regions with
  | nil => exact .pure 0
  | cons region rest ih =>
    apply IsLocal.get.bind
    intro desk
    dsimp only
    split
    · exact ih
    · exact (IsLocal.lift _).bind fun _ => (IsLocal.update _).bind fun _ => ih.bind fun _ => .pure _

theorem ask_local (request : Request) (label : String) : (ask request label).IsLocal := by
  refine (IsLocal.lift _).bind fun matcher => IsLocal.get.bind fun desk => ?_
  split
  · exact .throw _
  · split
    · exact recordPlaced_local request label _
    · exact search_local matcher label

end Work

theorem Call.run_local (c : Call) : c.run.IsLocal := by
  have between (start stop : Datum) (label : String) :
      (Session.Op.markBetween start stop label).IsLocal :=
    Work.IsLocal.get.bind fun _ => (Work.IsLocal.lift _).bind fun _ =>
      (Work.IsLocal.update _).bind fun _ => .pure _
  cases c with
  | setText text normalize => exact fun _ => ⟨rfl, rfl⟩
  | clear => exact fun _ => ⟨rfl, rfl⟩
  | mark start stop label => exact between start stop label
  | markPoint i label => exact (Work.IsLocal.lift _).bind fun _ => between _ _ _
  | markRaw start stop label =>
    exact Work.IsLocal.get.bind fun _ => (Work.IsLocal.lift _).bind fun _ =>
      (Work.IsLocal.update _).bind fun _ => .pure _
  | find matcher label => exact (Work.search_local matcher label).bind fun _ => .pure _
  | ask request label => exact (Work.ask_local request label).bind fun _ => .pure _

namespace Region

variable {label : String} {work : Work α} {region : Mark} {desk : Desk}

/-- A region counts what is replaced inside it, and then itself, unless it is given up. -/
theorem rescanOne_counts {inside : List Replacement}
    (worked : (enter region desk).Counts inside (work.attempt (enter region desk)).2) :
    desk.Counts (inside ++ (replacement? label work region desk).toList)
      ((rescanOne label work region).attempt desk).2 := by
  unfold replacement?
  rw [rescanOne_attempt]
  cases ran : work.attempt (enter region desk) with
  | mk outcome inner =>
    rw [ran] at worked
    -- What the child has counted stays, whatever becomes of its marks.
    have inner_counts (a : Annotator) : desk.Counts inside { inner with annotator := a } :=
      ⟨worked.styles, worked.studio⟩
    cases outcome with
    | error fault => simpa using inner_counts desk.annotator
    | ok answer =>
      by_cases same : inner.annotator.text = (enter region desk).annotator.text
      · simp only [ne_eq, same, not_true_eq_false, ↓reduceIte]
        cases desk.annotator.marks.replace region _ with
        | error fault => simpa using inner_counts desk.annotator
        | ok marks => exact (inner_counts inner.annotator).trans (.one _ rfl rfl)
      · simpa [same] using inner_counts desk.annotator

theorem rescanEach_counts {inside : Mark × Desk → List Replacement} {regions : List Mark}
    (worked : ∀ visit ∈ visits label work regions desk, (enter visit.1 visit.2).Counts (inside visit)
      (work.attempt (enter visit.1 visit.2)).2) :
    desk.Counts ((visits label work regions desk).flatMap fun visit =>
        inside visit ++ (replacement? label work visit.1 visit.2).toList)
      ((rescanEach label work regions).attempt desk).2 := by
  induction regions generalizing desk with
  | nil => exact .none rfl rfl
  | cons region rest ih =>
    rw [visits_cons] at worked ⊢
    obtain ⟨here, later⟩ := List.forall_mem_cons.mp worked
    have first := @rescanOne_counts _ label work region desk _ here
    rw [rescanEach_cons, List.flatMap_cons]
    cases one : (rescanOne label work region).attempt desk with
    | mk outcome next =>
      rw [one] at first
      cases outcome with
      | error fault => simpa using first
      | ok answer =>
        simp only [one] at later ⊢
        have both := first.trans (ih later)
        cases tail : (rescanEach label work rest).attempt next with
        | mk answers last =>
          rw [tail] at both
          cases answers <;> exact both

theorem rescan_counts {inside : Mark × Desk → List Replacement} {limit : Option Datum}
    (worked : ∀ visit ∈ visits label work (admitted label limit desk) desk,
      (enter visit.1 visit.2).Counts (inside visit) (work.attempt (enter visit.1 visit.2)).2) :
    desk.Counts ((visits label work (admitted label limit desk) desk).flatMap fun visit =>
        inside visit ++ (replacement? label work visit.1 visit.2).toList)
      ((rescan label limit work).attempt desk).2 := by
  rcases rescan_cases label limit work desk with ⟨nothing, outcome, left⟩ | ⟨all, ran⟩
  · rw [nothing, left]
    exact .none rfl rfl
  · rw [all] at worked ⊢
    rw [ran]
    exact rescanEach_counts worked

theorem replacement?_isMade {replacement : Replacement}
    (listed : replacement? label work region desk = some replacement) : replacement.IsMade := by
  unfold replacement? at listed
  rw [rescanOne_attempt] at listed
  split at listed
  next answer after ran =>
    obtain rfl := Option.some.inj listed
    split at ran
    · simp at ran
    next inner _ =>
      split at ran
      · simp at ran
      · split at ran
        · simp at ran
        next marks swapped =>
          obtain ⟨_, rfl⟩ := Prod.mk.inj ran
          exact ⟨_, marks, swapped, rfl⟩
  · simp at listed

end Region

namespace Program

variable {desk : Desk}

theorem run_counts (program : Program α) (desk : Desk) :
    desk.Counts (program.replacements desk) (program.run.attempt desk).2 := by
  induction program generalizing desk with
  | done | fail => exact .none rfl rfl
  | look next ih => exact ih desk desk
  | call c next ih =>
    obtain ⟨styles, studio⟩ := c.run_local desk
    exact Desk.Counts.trans (.none styles studio) (ih _ _)
  | rescan label limit body next ihBody ih =>
    have scanned := @Region.rescan_counts _ label body.run desk
      (fun visit => body.replacements (Region.enter visit.1 visit.2)) limit
      fun visit _ => ihBody (Region.enter visit.1 visit.2)
    exact scanned.trans (ih _ _)

theorem replacements_isMade (program : Program α) {replacement : Replacement}
    (listed : replacement ∈ program.replacements desk) : replacement.IsMade := by
  induction program generalizing desk with
  | done | fail => simp [replacements] at listed
  | look next ih => exact ih desk listed
  | call c next ih => exact ih _ listed
  | rescan label limit body next ihBody ih =>
    rcases List.mem_append.mp listed with inside | later
    · obtain ⟨visit, _, inVisit⟩ := List.mem_flatMap.mp inside
      rcases List.mem_append.mp inVisit with inner | itself
      · exact ihBody inner
      · exact Region.replacement?_isMade (Option.mem_toList.mp itself)
    · exact ih _ later

end Program

theorem Work.attempt_render (options : Fragment.Options) (profile : Option Profile) (desk : Desk) :
    (render options).attempt (withProfile profile desk) =
      (.ok (Fragment.render desk.annotator desk.styles options),
        withProfile (if desk.annotator.text = [] then profile
          else profile.map fun counters => counters.recordRender desk.annotator.text.length
            (Fragment.render desk.annotator desk.styles options).length) desk) := by
  simp only [attempt, render, List.isEmpty_iff, withProfile]
  by_cases empty : desk.annotator.text = [] <;> simp only [empty, ↓reduceIte]

namespace Rule

/-- Whatever counters there are, rules come to the same outcome and leave the same annotator, and the
counters go on by what is replaced. -/
theorem applyAll_observed (rules : List Rule) (desk : Desk) :
    ∃ (outcome : Except Fault Int) (a : Annotator), ∀ profile : Option Profile,
      (applyAll rules).attempt (withProfile profile desk) = (outcome,
        withProfile (profile.map (·.recordRegions
          (((program rules).replacements (withProfile profile desk)).map Replacement.depth)))
          { desk with annotator := a }) := by
  refine ⟨((applyAll rules).attempt (withProfile none desk)).1,
    ((applyAll rules).attempt (withProfile none desk)).2.annotator, fun profile => ?_⟩
  have agrees : (withProfile profile desk).Agrees desk.studio.config desk.studio.registry
      (withProfile none desk) := ⟨rfl, ⟨rfl, rfl⟩, ⟨rfl, rfl⟩⟩
  obtain ⟨outcome, after⟩ := applyAll_uniform rules _ _ agrees
  have counts := (program rules).run_counts (withProfile profile desk)
  rw [run_program] at counts
  refine Prod.ext outcome (counts.eq.trans ?_)
  rw [after.annotator]
  rfl

def applyAndRender (rules : List Rule) (options : Fragment.Options) : Work (List Fragment) := do
  let _ ← applyAll rules
  Work.render options

/-- Observed or not, rules and the rendering after them come to the same outcome and leave the same desk,
also where they fail. Only the counters are different: they count every region that is replaced, at
whatever level and also inside a region that is given up, with the deepest of their levels, and every
rendering of a text that is not empty, with its length and the number of its fragments. -/
theorem observed_alike (rules : List Rule) (options : Fragment.Options) (desk : Desk)
    (profile : Profile) :
    let plain := (applyAndRender rules options).attempt (withProfile none desk)
    let observed := (applyAndRender rules options).attempt (withProfile (some profile) desk)
    let replaced := (program rules).replacements (withProfile (some profile) desk)
    let scanned := { profile with
      regions := profile.regions + replaced.length
      maxDepth := (replaced.map Replacement.depth).foldl max profile.maxDepth }
    observed.1 = plain.1 ∧ withProfile none observed.2 = plain.2 ∧
    (program rules).run = applyAll rules ∧ (∀ replacement ∈ replaced, replacement.IsMade) ∧
    observed.2.studio.profile = some (match observed.1 with
      | .error _ => scanned
      | .ok fragments =>
        if observed.2.annotator.text = [] then scanned
        else { scanned with
          renders := profile.renders + 1
          textLength := profile.textLength + observed.2.annotator.text.length
          fragments := profile.fragments + fragments.length }) := by
  intro plain observed replaced scanned
  obtain ⟨outcome, a, ran⟩ := applyAll_observed rules desk
  have made : ∀ replacement ∈ replaced, replacement.IsMade :=
    fun _ listed => (program rules).replacements_isMade listed
  have counted : profile.recordRegions (replaced.map Replacement.depth) = scanned := by
    rw [Profile.recordRegions_eq, List.length_map]
  have unobserved : (applyAll rules).attempt (withProfile none desk) =
      (outcome, withProfile none { desk with annotator := a }) := ran none
  have seen : (applyAll rules).attempt (withProfile (some profile) desk) =
      (outcome, withProfile (some scanned) { desk with annotator := a }) := by
    rw [ran, Option.map_some, counted]
  have plain_eq : plain = _ := Work.attempt_bind _ _ _
  have observed_eq : observed = _ := Work.attempt_bind _ _ _
  rw [unobserved] at plain_eq
  rw [seen] at observed_eq
  cases outcome with
  | error fault =>
    rw [plain_eq, observed_eq]
    exact ⟨rfl, rfl, run_program rules, made, rfl⟩
  | ok count =>
    simp only [Work.attempt_render] at plain_eq observed_eq
    rw [plain_eq, observed_eq]
    refine ⟨rfl, ?_, run_program rules, made, ?_⟩
    · simp only [Option.map_none, ite_self]
      rfl
    · by_cases empty : a.text = []
      · simp only [withProfile, empty, ↓reduceIte]
      · simp only [withProfile, empty, ↓reduceIte]
        rfl

/-- The region inside the outer one is replaced and counted; then a fault gives the outer one up. -/
example :
    let outer : Annotator := { Annotator.create {} "abc".toList (some false) with
      marks := MarkStore.empty.run [.insert 0 3 "outer"] }
    let rules := [.find (.all "b".toList false) "inner", .inside "inner" [] none, .unknown "?" .none .none]
    let after := ((applyAndRender [.inside "outer" rules none] {}).attempt
      (withProfile (some { maxDepth := 1 }) { annotator := outer })).2
    after.annotator = outer ∧ after.studio.profile = some { regions := 1, maxDepth := 2 } := by
  decide +kernel

end Rule

end Highlight
