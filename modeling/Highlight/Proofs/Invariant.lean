import Highlight.Proofs.Rescan

/-! Whole runs. Every annotator that a program brings about is sound, whether it belongs to a
document or to a region, and whether the run goes on, fails or gives the region up. With slack this
holds of every program; without slack the raw ranges of the run have to lie in their texts. -/
namespace Highlight

def Event.isInText : Event → Bool
  | called before call _ => call.isInText before.text
  | _ => true

namespace Program

variable {slack : Int} {desk : Desk}

/-- Every annotator of a run: the one it starts with, those on the way and the one it leaves. -/
def annotators (program : Program α) (desk : Desk) : List Annotator :=
  desk.annotator :: (program.trace desk).map Event.annotator ++
    [(program.run.attempt desk).2.annotator]

def apply (rules : List Rule) (next : Except Fault Int → Program α) : Program α :=
  (Rule.program rules).andThen next

theorem run_apply (rules : List Rule) (next : Except Fault Int → Program α) (desk : Desk) :
    (apply rules next).run desk =
      (next ((Rule.applyAll rules).attempt desk).1).run ((Rule.applyAll rules).attempt desk).2 := by
  rw [apply, run_andThen, Rule.run_program]

theorem visit_sound {label : String} {work : Work α} {trace : Desk → List Event} {region : Mark}
    {parent : Desk} {few : Int} (small : few ≤ 1) (sound : parent.annotator.Sound slack)
    (member : region ∈ parent.annotator.marks.marks)
    (inside : ∀ event ∈ trace (Region.enter region parent), event.annotator.Sound slack)
    (inner : (work.attempt (Region.enter region parent)).2.annotator.Sound few) :
    ∀ event ∈ Event.entered region (Region.enter region parent).annotator ::
      trace (Region.enter region parent) ++
        [.left region ((Region.rescanOne label work region).attempt parent).2.annotator],
      event.annotator.Sound slack := by
  intro event happened
  simp only [List.cons_append, List.mem_cons, List.mem_append, List.not_mem_nil, or_false] at happened
  rcases happened with rfl | within | rfl
  · exact Annotator.child_sound slack sound.index region.start region.stop
  · exact inside event within
  · exact (Region.rescanOne_outcome sound small member inner).sound sound

theorem visits_sound {label : String} {work : Work α} {trace : Desk → List Event} {few : Int}
    (small : few ≤ 1) (sound : desk.annotator.Sound slack)
    (worked : ∀ visit ∈ Region.visits label work (desk.annotator.marks.withLabel label) desk,
      visit.2.annotator.Sound slack →
      (∀ event ∈ trace (Region.enter visit.1 visit.2), event.annotator.Sound slack) ∧
        (work.attempt (Region.enter visit.1 visit.2)).2.annotator.Sound few) :
    (∀ visit ∈ Region.visits label work (desk.annotator.marks.withLabel label) desk,
      ∀ event ∈ Event.entered visit.1 (Region.enter visit.1 visit.2).annotator ::
        trace (Region.enter visit.1 visit.2) ++
          [.left visit.1 ((Region.rescanOne label work visit.1).attempt visit.2).2.annotator],
        event.annotator.Sound slack) ∧
    ((Region.rescanEach label work (desk.annotator.marks.withLabel label)).attempt
      desk).2.annotator.Sound slack := by
  have course := Region.rescanEach_course small sound (Region.withLabel_pending sound label)
    fun visit visited parent => (worked visit visited parent).2
  refine ⟨fun visit visited => ?_, course.result_sound⟩
  obtain ⟨parent, recorded, _⟩ := course.visits_sound visit visited
  obtain ⟨events, inner⟩ := worked visit visited parent
  exact visit_sound small parent recorded events inner

theorem trace_sound (small : slack = 0 ∨ 1 ≤ slack) (program : Program α)
    (sound : desk.annotator.Sound slack)
    (inText : slack = 0 → ∀ event ∈ program.trace desk, event.isInText = true) :
    (∀ event ∈ program.trace desk, event.annotator.Sound slack) ∧
      (program.run.attempt desk).2.annotator.Sound slack := by
  induction program generalizing desk slack with
  | done a => exact ⟨by simp [trace], sound⟩
  | fail fault => exact ⟨by simp [trace], sound⟩
  | look next ih => exact ih desk small sound inText
  | call c next ih =>
    have after := c.run_sound sound small fun none => inText none _ List.mem_cons_self
    have rest := ih (c.run.attempt desk).1 small after fun none event member =>
      inText none event (List.mem_cons_of_mem _ member)
    exact ⟨List.forall_mem_cons.mpr ⟨after, rest.1⟩, rest.2⟩
  | rescan label limit body next ihBody ih =>
    have later (after : ((Region.rescan label limit body.run).attempt desk).2.annotator.Sound slack) :=
      ih ((Region.rescan label limit body.run).attempt desk).1 small after fun none event member =>
        inText none event (List.mem_append_right _ member)
    rcases Region.rescan_cases label limit body.run desk with
      ⟨nothing, outcome, left⟩ | ⟨everything, ran⟩
    · have rest := later (by rw [left]; exact sound)
      refine ⟨fun event member => ?_, rest.2⟩
      simp only [trace, nothing, Region.visits, List.flatMap_nil, List.nil_append] at member
      exact rest.1 event member
    · -- A region starts without marks, so it needs no more slack than 1, whatever its parent has.
      obtain ⟨few, fewSmall, few_le, few_zero⟩ : ∃ few : Int, (few = 0 ∨ 1 ≤ few) ∧
          few ≤ min slack 1 ∧ (few = 0 → slack = 0) := ⟨min slack 1, by omega, by omega, by omega⟩
      have worked : ∀ visit ∈ Region.visits label body.run (desk.annotator.marks.withLabel label) desk,
          visit.2.annotator.Sound slack →
          (∀ event ∈ body.trace (Region.enter visit.1 visit.2), event.annotator.Sound slack) ∧
            (body.run.attempt (Region.enter visit.1 visit.2)).2.annotator.Sound few := by
        intro visit visited parent
        have inside := @ihBody few (Region.enter visit.1 visit.2) fewSmall
          (Annotator.child_sound few parent.index visit.1.start visit.1.stop) (by
            intro none event member
            apply inText (few_zero none) event
            simp only [trace, everything]
            refine List.mem_append_left _ (List.mem_flatMap.mpr ⟨visit, visited, ?_⟩)
            simp [member])
        exact ⟨fun event member => (inside.1 event member).loosen (by omega), inside.2⟩
      obtain ⟨visits, final⟩ := visits_sound (by omega) sound worked
      have rest := later (by rw [ran]; exact final)
      refine ⟨fun event member => ?_, rest.2⟩
      simp only [trace, everything] at member
      rcases List.mem_append.mp member with inside | after
      · obtain ⟨visit, visited, happened⟩ := List.mem_flatMap.mp inside
        exact visits visit visited event happened
      · exact rest.1 event after

theorem pending_course (body : Program α) (label : String) (sound : desk.annotator.Sound slack)
    {regions : List Mark} (pending : Region.Pending desk.annotator regions) :
    Region.Course slack label body.run regions desk
      ((Region.rescanEach label body.run regions).attempt desk)
      (Region.visits label body.run regions desk) := by
  apply Region.rescanEach_course (Int.le_refl 1) sound pending
  intro visit _ parent
  have child := Annotator.child_sound 1 parent.index visit.1.start visit.1.stop
  exact (trace_sound (.inr (Int.le_refl 1)) body child (by simp)).2

theorem scan_course (body : Program α) (label : String) (sound : desk.annotator.Sound slack) :
    Region.Course slack label body.run (desk.annotator.marks.withLabel label) desk
      ((Region.rescanEach label body.run (desk.annotator.marks.withLabel label)).attempt desk)
      (Region.visits label body.run (desk.annotator.marks.withLabel label) desk) :=
  body.pending_course label sound (Region.withLabel_pending sound label)

theorem run_depth (program : Program α) (sound : desk.annotator.Sound slack) (some : 1 ≤ slack) :
    (program.run.attempt desk).2.annotator.depth = desk.annotator.depth := by
  induction program generalizing desk with
  | done a => rfl
  | fail fault => rfl
  | look next ih => exact ih desk sound
  | call c next ih =>
    obtain ⟨b, left, effect⟩ := c.run_effect sound
    rw [attempt_call, ih _ (c.run_sound sound (.inr some) (by omega)), left]
    exact effect.depth
  | rescan label limit body next _ ih =>
    rw [attempt_rescan]
    rcases Region.rescan_cases label limit body.run desk with ⟨_, outcome, left⟩ | ⟨_, ran⟩
    · rw [left]
      exact ih outcome sound
    · have course := body.scan_course label sound
      rw [ran, ih _ course.result_sound, course.result_parent]

theorem annotators_sound (small : slack = 0 ∨ 1 ≤ slack) (program : Program α)
    (sound : desk.annotator.Sound slack)
    (inText : slack = 0 → ∀ event ∈ program.trace desk, event.isInText = true) {a : Annotator}
    (member : a ∈ program.annotators desk) : a.Sound slack := by
  obtain ⟨events, final⟩ := trace_sound small program sound inText
  simp only [annotators, List.cons_append, List.mem_cons, List.mem_append, List.mem_map,
    List.not_mem_nil, or_false] at member
  rcases member with rfl | ⟨event, happened, rfl⟩ | rfl
  · exact sound
  · exact events event happened
  · exact final

/-- The marks of every annotator of a run stand in document order without overlap, inside the text,
and what is taken is what they cover. -/
theorem marks_disjoint (program : Program α) (text : Text) (normalize : Option Bool)
    (styles : StyleSheet) (studio : Studio)
    (inText : ∀ event ∈ program.trace ⟨.create studio.config text normalize, styles, studio⟩,
      event.isInText = true) :
    ∀ a ∈ program.annotators ⟨.create studio.config text normalize, styles, studio⟩,
      (∀ mark ∈ a.marks.marks, 0 ≤ mark.start ∧ mark.start < mark.stop ∧ mark.stop ≤ a.size) ∧
      (a.marks.marks.Pairwise fun x y => x.stop ≤ y.start) ∧
      ∀ i, a.marks.isTaken i = true ↔ ∃ mark ∈ a.marks.marks, mark.start ≤ i ∧ i < mark.stop := by
  intro a member
  have start := Annotator.create_sound 0 studio.config text normalize
  have sound := annotators_sound (.inl rfl) program start (fun _ => inText) member
  have nonneg : 0 ≤ a.size := by simp [Annotator.size, GraphemeIndex.size]
  refine ⟨fun mark recorded => ?_, sound.marks.ordered, fun i => ?_⟩
  · have proper := sound.marks.proper mark recorded
    have bound := sound.bound mark recorded
    omega
  · rw [← sound.marks.taken i]
    simp [MarkStore.isTaken]

def bracketAndFail : Program Unit :=
  .call (.markRaw (.int 0) (.int 1) "bracket") fun _ => .fail .wrongKind

/-- Marks a group and, by a rule, the name in it; then scans what is left of the group in vain. -/
def groupTwice : Program Unit :=
  .apply [.find (.between "(".toList ")".toList) "group",
      .inside "group" [.find (.all "x".toList false) "name"] none] fun _ =>
    .call (.markRaw (.int 0) (.int 1) "head") fun _ =>
      .rescan "group" none bracketAndFail fun _ => .done ()

theorem groupTwice_marks_disjoint :
    (∀ event ∈ groupTwice.trace ⟨.create {} "f(x)".toList (some false), {}, {}⟩,
      event.isInText = true) ∧
    ∀ a ∈ groupTwice.annotators ⟨.create {} "f(x)".toList (some false), {}, {}⟩,
      a.marks.marks.Pairwise fun x y => x.stop ≤ y.start := by
  have inText : ∀ event ∈ groupTwice.trace ⟨.create {} "f(x)".toList (some false), {}, {}⟩,
      event.isInText = true := by decide +kernel
  exact ⟨inText, fun a member =>
    (marks_disjoint groupTwice "f(x)".toList (some false) {} {} inText a member).2.1⟩

end Program

namespace Annotator

/-- The annotators that exist in some run: new documents, and whatever programs make of them, with
any styles and settings around them. -/
inductive Reached : Annotator → Prop where
  | create (config : Config) (text : Text) (normalize : Option Bool) :
      Reached (create config text normalize)
  | during {desk : Desk} (program : Program α) {a : Annotator} (start : Reached desk.annotator)
      (member : a ∈ program.annotators desk) : Reached a

theorem Reached.after {desk : Desk} (reached : desk.annotator.Reached) (program : Program α) :
    (program.run.attempt desk).2.annotator.Reached :=
  .during program reached (by simp [Program.annotators])

theorem Reached.sound {a : Annotator} (reached : a.Reached) : a.Sound 1 := by
  induction reached with
  | create config text normalize => exact create_sound 1 config text normalize
  | during program _ member ih => exact Program.annotators_sound (.inr (Int.le_refl 1)) program ih (by simp) member

/-- Clusters do not depend on what stands around them. An index that is cut at cluster boundaries is
the index of the text that is cut out, so every annotator, at whatever depth, has the index that its
text would have on its own. -/
theorem segmentation_local :
    (∀ (text : Text) (start stop : Int),
      (GraphemeIndex.ofText text).sub start stop =
        .ofText (text.slice ((GraphemeIndex.ofText text).toRaw start stop).1
          ((GraphemeIndex.ofText text).toRaw start stop).2)) ∧
    ∀ a : Annotator, a.Reached → a.index = .ofText a.text ∧
      ∀ start stop, (a.child start stop).index = .ofText (a.child start stop).text := by
  refine ⟨GraphemeIndex.sub_ofText, fun a reached => ?_⟩
  have index := reached.sound.index
  exact ⟨index, fun start stop => child_index index start stop⟩

/-- Two flags, each of two regional indicators: the second one alone is still one cluster. -/
theorem segmentation_local_flags :
    (create {} "🇩🇪🇫🇷".toList (some false)).Reached ∧
      ((create {} "🇩🇪🇫🇷".toList (some false)).child 1 2).index = .ofText "🇫🇷".toList := by
  have reached : (create {} "🇩🇪🇫🇷".toList (some false)).Reached := .create {} _ _
  have text : ((create {} "🇩🇪🇫🇷".toList (some false)).child 1 2).text = "🇫🇷".toList := by
    decide +kernel
  refine ⟨reached, ?_⟩
  rw [← text]
  exact (segmentation_local.2 _ reached).2 1 2

end Annotator

end Highlight
