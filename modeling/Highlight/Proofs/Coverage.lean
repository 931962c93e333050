import Highlight.Proofs.Invariant

/-! Scanning regions again keeps what is covered. `Retiled` says what a region holds afterwards: the
marks that the work on it left, and one mark for each gap between them. `Elsewhere` is the frame:
places apart from the regions hold what they held before. Both go through the regions one by one,
since a region that is done lies elsewhere for those that follow. -/
namespace Highlight

namespace Mark

/-- The other mark lies in the range of this one. -/
def holds (place mark : Mark) : Bool := place.start ≤ mark.start && mark.stop ≤ place.stop

theorem holds_iff {place mark : Mark} :
    place.holds mark = true ↔ place.start ≤ mark.start ∧ mark.stop ≤ place.stop := by
  simp [holds]

theorem holds_apart {place region mark : Mark} (proper : mark.start < mark.stop)
    (inside : region.start ≤ mark.start ∧ mark.stop ≤ region.stop)
    (apart : place.stop ≤ region.start ∨ region.stop ≤ place.start) : place.holds mark = false := by
  rw [Bool.eq_false_iff]
  intro held
  have := holds_iff.mp held
  omega

end Mark

/-- A region holds exactly some marks and, under its own label, the maximal runs of clusters that
they leave free. These follow one another without a break from its start to its stop. -/
structure Retiled (region : Mark) (inner marks : List Mark) : Prop where
  tiles : Tiles region.start (marks.filter region.holds) region.stop
  parts : ∀ mark, mark ∈ marks.filter region.holds ↔ mark ∈ inner ∨ IsGap region inner mark

structure Elsewhere (regions before after : List Mark) : Prop where
  same : ∀ place : Mark, (∀ region ∈ regions, place.stop ≤ region.start ∨ region.stop ≤ place.start) →
    after.filter place.holds = before.filter place.holds
  origin : ∀ mark ∈ after, mark ∈ before ∨ ∃ region ∈ regions, region.holds mark = true

theorem Elsewhere.nil (marks : List Mark) : Elsewhere [] marks marks :=
  ⟨fun _ _ => rfl, fun _ member => .inl member⟩

theorem Elsewhere.cons {region : Mark} {rest first second third : List Mark}
    (step : Elsewhere [region] first second) (later : Elsewhere rest second third) :
    Elsewhere (region :: rest) first third := by
  constructor
  · intro place apart
    obtain ⟨here, others⟩ := List.forall_mem_cons.mp apart
    rw [later.same place others, step.same place (by simpa using here)]
  · intro mark member
    rcases later.origin mark member with earlier | ⟨other, inRest, held⟩
    · rcases step.origin mark earlier with old | ⟨other, isRegion, held⟩
      · exact .inl old
      · rw [List.mem_singleton.mp isRegion] at held
        exact .inr ⟨region, List.mem_cons_self, held⟩
    · exact .inr ⟨other, List.mem_cons_of_mem region inRest, held⟩

namespace MarkStore

variable {store : MarkStore} {region : Mark} {before after tiles : List Mark}

theorem Sound.apart (sound : store.Sound) {mark : Mark} (member : mark ∈ store.marks)
    (recorded : region ∈ store.marks) (different : mark ≠ region) :
    mark.stop ≤ region.start ∨ region.stop ≤ mark.start := by
  obtain ⟨before, after, marks⟩ := List.append_of_mem recorded
  obtain ⟨low, high, _, _⟩ := sound.around marks
  rw [marks] at member
  simp only [List.mem_append, List.mem_cons, different, false_or] at member
  rcases member with inBefore | inAfter
  · exact .inl (low mark inBefore).2
  · exact .inr (high mark inAfter)

theorem Sound.filter_tiles (sound : store.Sound) (marks : store.marks = before ++ region :: after)
    (tiling : Tiles region.start tiles region.stop) :
    (before ++ tiles ++ after).filter region.holds = tiles := by
  obtain ⟨low, high, _, _⟩ := sound.around marks
  have proper := sound.proper
  rw [marks] at proper
  have noneBefore : before.filter region.holds = [] := by
    apply List.filter_eq_nil_iff.mpr
    intro mark member held
    have := low mark member
    have := Mark.holds_iff.mp held
    omega
  have noneAfter : after.filter region.holds = [] := by
    apply List.filter_eq_nil_iff.mpr
    intro mark member held
    have := high mark member
    have := Mark.holds_iff.mp held
    have := (proper mark (by simp [member])).2
    omega
  have every : tiles.filter region.holds = tiles := by
    apply List.filter_eq_self.mpr
    intro mark member
    have := tiling.bounds member
    exact Mark.holds_iff.mpr ⟨this.1, this.2.2⟩
  simp [noneBefore, noneAfter, every]

theorem Sound.swap_elsewhere (sound : store.Sound)
    (marks : store.marks = before ++ region :: after)
    (tiling : Tiles region.start tiles region.stop) :
    Elsewhere [region] store.marks (before ++ tiles ++ after) := by
  obtain ⟨_, _, _, proper⟩ := sound.around marks
  rw [marks]
  constructor
  · intro place apart
    have apart := apart region List.mem_cons_self
    have noTiles : tiles.filter place.holds = [] := by
      apply List.filter_eq_nil_iff.mpr
      intro mark member
      have := tiling.bounds member
      simp [Mark.holds_apart this.2.1 ⟨this.1, this.2.2⟩ apart]
    have noRegion : place.holds region = false :=
      Mark.holds_apart proper ⟨Int.le_refl _, Int.le_refl _⟩ apart
    simp [noTiles, noRegion]
  · intro mark member
    simp only [List.mem_append] at member
    rcases member with (inBefore | inTiles) | inAfter
    · exact .inl (by simp [inBefore])
    · have := tiling.bounds inTiles
      exact .inr ⟨region, List.mem_cons_self, Mark.holds_iff.mpr ⟨this.1, this.2.2⟩⟩
    · exact .inl (by simp [inAfter])

theorem Sound.stays (sound : store.Sound) {label : String} {marks : List Mark}
    (elsewhere : Elsewhere (store.withLabel label) store.marks marks) {mark : Mark}
    (member : mark ∈ store.marks) (other : mark.label ≠ label) : mark ∈ marks := by
  have apart : ∀ region ∈ store.withLabel label,
      mark.stop ≤ region.start ∨ region.stop ≤ mark.start := by
    intro region chosen
    obtain ⟨recorded, labelled⟩ := List.mem_filter.mp chosen
    apply sound.apart member recorded
    rintro rfl
    exact other (by simpa using labelled)
  have itself : mark ∈ store.marks.filter mark.holds := by simp [member, Mark.holds_iff]
  rw [← elsewhere.same mark apart] at itself
  exact (List.mem_filter.mp itself).1

/-- What a scan of the regions with one label leaves was there before under another one, or lies in one of the
regions. -/
theorem origin {label : String} {marks : List Mark}
    (elsewhere : Elsewhere (store.withLabel label) store.marks marks) {mark : Mark}
    (member : mark ∈ marks) : (mark ∈ store.marks ∧ mark.label ≠ label) ∨
      ∃ region ∈ store.withLabel label, region.holds mark = true := by
  rcases elsewhere.origin mark member with old | held
  · by_cases labelled : mark.label = label
    · have chosen : mark ∈ store.withLabel label :=
        List.mem_filter.mpr ⟨old, by simpa using labelled⟩
      exact .inr ⟨mark, chosen, by simp [Mark.holds_iff]⟩
    · exact .inl ⟨old, labelled⟩
  · exact .inr held

end MarkStore

theorem Work.attempt_eq_ok {work : Work α} {desk after : Desk} {a : α} :
    work.attempt desk = (.ok a, after) ↔ work desk = .ok a after := by
  simp only [attempt]
  cases work desk <;> simp

namespace Region

variable {slack : Int} {label : String} {work : Work α} {region : Mark} {desk : Desk}

theorem Outcome.retiled {answer : α} {next : Desk}
    (outcome : Outcome label work region desk (.ok answer, next))
    (sound : desk.annotator.Sound slack) :
    ∃ inner, work.attempt (enter region desk) = (.ok answer, inner) ∧
      Retiled region (inner.annotator.moved region) next.annotator.marks.marks ∧
      Elsewhere [region] desk.annotator.marks.marks next.annotator.marks.marks ∧
      next.annotator.marks.taken = desk.annotator.marks.taken := by
  cases outcome with
  | @kept _ inner before after studio ran same split within shared =>
    have proper := sound.marks.proper region (by simp [split])
    have tiling := fillFrom_tiles within (Int.le_of_lt proper.2)
    have held := sound.marks.filter_tiles split tiling
    refine ⟨inner, ran, ⟨?_, ?_⟩, sound.marks.swap_elsewhere split tiling, rfl⟩
    · simpa only [fillGaps, held] using tiling
    · intro mark
      simp only [fillGaps, held]
      exact mem_fillFrom within

namespace Course

variable {regions : List Mark} {result : Except Fault (List α) × Desk}
  {visited : List (Mark × Desk)}

/-- What a scan leaves when it succeeds. Every region was visited, and none disturbs another. -/
theorem retiled (course : Course slack label work regions desk result visited) {answers : List α}
    (succeeded : result.1 = .ok answers) :
    answers.length = regions.length ∧ visited.map Prod.fst = regions ∧
    result.2.annotator.marks.taken = desk.annotator.marks.taken ∧
    Elsewhere regions desk.annotator.marks.marks result.2.annotator.marks.marks ∧
    ∀ visit ∈ visited, ∃ answer inner, work.attempt (enter visit.1 visit.2) = (.ok answer, inner) ∧
      Retiled visit.1 (inner.annotator.moved visit.1) result.2.annotator.marks.marks := by
  induction course generalizing answers with
  | done =>
    have none : [] = answers := Except.ok.inj succeeded
    exact ⟨by simp [← none], rfl, rfl, .nil _, by simp⟩
  | stopped => contradiction
  | @went region rest desk next last answer outcomes visited sound pending outcome later ih =>
    cases outcomes with
    | error fault => contradiction
    | ok others =>
      have both : answer :: others = answers := Except.ok.inj succeeded
      obtain ⟨length, places, taken, elsewhere, inside⟩ := ih rfl
      obtain ⟨inner, worked, here, step, takenHere⟩ := outcome.retiled sound
      refine ⟨by simp [← both, length], by simp [places], taken.trans takenHere,
        step.cons elsewhere, List.forall_mem_cons.mpr ⟨⟨answer, inner, worked, ?_⟩, inside⟩⟩
      -- The regions that follow lie apart, so this one keeps what it holds.
      have apart := (List.pairwise_cons.mp pending.ordered).1
      have kept := elsewhere.same region fun other member => .inl (apart other member)
      exact ⟨kept ▸ here.tiles, fun mark => kept ▸ here.parts mark⟩

/-- Where no region's text is replaced, a scan fails only with a fault of the work on a region. -/
theorem fault (course : Course slack label work regions desk result visited) {fault : Fault}
    (failed : result.1 = .error fault)
    (keeps : ∀ visit ∈ visited, ∀ answer inner,
      work.attempt (enter visit.1 visit.2) = (.ok answer, inner) →
      inner.annotator.text = (enter visit.1 visit.2).annotator.text) :
    ∃ visit ∈ visited, (work.attempt (enter visit.1 visit.2)).1 = .error fault := by
  induction course with
  | done => contradiction
  | stopped _ _ outcome =>
    refine ⟨_, List.mem_cons_self, ?_⟩
    cases outcome with
    | failed ran =>
      cases failed
      rw [ran]
    | replaced ran changed => exact absurd (keeps _ List.mem_cons_self _ _ ran) changed
  | @went region rest desk next last answer outcomes visited _ _ _ later ih =>
    cases outcomes with
    | ok others => contradiction
    | error other =>
      obtain ⟨visit, member, raised⟩ := ih failed fun visit later =>
        keeps visit (List.mem_cons_of_mem _ later)
      exact ⟨visit, List.mem_cons_of_mem _ member, raised⟩

theorem succeeds (course : Course slack label work regions desk result visited)
    (returns : ∀ visit ∈ visited, ∃ answer inner,
      work.attempt (enter visit.1 visit.2) = (.ok answer, inner) ∧
      inner.annotator.text = (enter visit.1 visit.2).annotator.text) :
    ∃ answers, result.1 = .ok answers := by
  cases ended : result.1 with
  | ok answers => exact ⟨answers, rfl⟩
  | error fault =>
    obtain ⟨visit, member, raised⟩ := course.fault ended fun visit member answer inner ran => by
      obtain ⟨_, _, worked, text⟩ := returns visit member
      obtain ⟨_, rfl⟩ := Prod.mk.inj (worked.symm.trans ran)
      exact text
    obtain ⟨_, _, worked, _⟩ := returns visit member
    simp [worked] at raised

end Course

theorem rescan_admitted {limit : Option Datum}
    (allowed : desk.annotator.marks.withLabel label ≠ [] → ∃ levels,
      (limit.getD desk.studio.config.maxDepth).floor? = some levels ∧
        desk.annotator.depth + 1 ≤ levels) :
    (rescan label limit work).attempt desk =
      (rescanEach label work (desk.annotator.marks.withLabel label)).attempt desk := by
  rw [rescan_attempt]
  by_cases empty : desk.annotator.marks.withLabel label = []
  · simp only [empty, ↓reduceIte]
    rfl
  · obtain ⟨levels, limited, shallow⟩ := allowed empty
    have inside : ¬ levels < desk.annotator.depth + 1 := by omega
    simp only [empty, limited, inside, ↓reduceIte]

/-- Scanning regions again keeps what is covered, whatever program works on them. If it returns on
each region with the text of the region in place, be it that it was replaced and put back, the scan
succeeds with one answer for each region. The taken clusters and the marks with other labels stay,
and each region holds exactly the marks that were left on it and the gaps between them. -/
theorem rescan_covers (reached : desk.annotator.Reached) (label : String) (limit : Option Datum)
    (body : Program α)
    (allowed : desk.annotator.marks.withLabel label ≠ [] → ∃ levels,
      (limit.getD desk.studio.config.maxDepth).floor? = some levels ∧
        desk.annotator.depth + 1 ≤ levels)
    (returns : ∀ visit ∈ visits label body.run (desk.annotator.marks.withLabel label) desk,
      ∃ answer inner, body.run (enter visit.1 visit.2) = .ok answer inner ∧
        inner.annotator.text = desk.annotator.textOf visit.1) :
    ∃ answers after, rescan label limit body.run desk = .ok answers after ∧
      answers.length = (desk.annotator.marks.withLabel label).length ∧
      after.annotator.marks.taken = desk.annotator.marks.taken ∧
      (∀ mark ∈ desk.annotator.marks.marks, mark.label ≠ label →
        mark ∈ after.annotator.marks.marks) ∧
      (∀ mark ∈ after.annotator.marks.marks,
        (mark ∈ desk.annotator.marks.marks ∧ mark.label ≠ label) ∨
          ∃ region ∈ desk.annotator.marks.withLabel label, region.holds mark = true) ∧
      (visits label body.run (desk.annotator.marks.withLabel label) desk).map Prod.fst =
        desk.annotator.marks.withLabel label ∧
      ∀ visit ∈ visits label body.run (desk.annotator.marks.withLabel label) desk,
        (enter visit.1 visit.2).annotator =
          desk.annotator.child visit.1.start visit.1.stop ∧
        ∃ answer inner, body.run (enter visit.1 visit.2) = .ok answer inner ∧
          Retiled visit.1 (inner.annotator.moved visit.1) after.annotator.marks.marks := by
  have sound := reached.sound
  have course := body.scan_course label sound
  have children : ∀ visit ∈ visits label body.run (desk.annotator.marks.withLabel label) desk,
      (enter visit.1 visit.2).annotator = desk.annotator.child visit.1.start visit.1.stop := by
    intro visit visited
    rw [enter, (course.visits_sound visit visited).2.2]
    rfl
  obtain ⟨answers, ended⟩ := course.succeeds fun visit visited => by
    obtain ⟨answer, inner, ran, text⟩ := returns visit visited
    refine ⟨answer, inner, Work.attempt_eq_ok.mpr ran, ?_⟩
    rw [children visit visited]
    exact text
  obtain ⟨length, places, taken, elsewhere, inside⟩ := course.retiled ended
  rw [← rescan_admitted allowed] at ended taken elsewhere inside
  cases ran : (rescan label limit body.run).attempt desk with
  | mk outcome after =>
    rw [ran] at ended taken elsewhere inside
    simp only at ended taken elsewhere inside
    subst ended
    refine ⟨answers, after, Work.attempt_eq_ok.mp ran, length, taken,
      fun mark member other => sound.marks.stays elsewhere member other,
      fun mark member => MarkStore.origin elsewhere member, places, fun visit visited => ?_⟩
    obtain ⟨answer, inner, worked, retiled⟩ := inside visit visited
    exact ⟨children visit visited, answer, inner, Work.attempt_eq_ok.mp worked, retiled⟩

def detour (other text : Text) : Program Unit :=
  .call (.setText other (some false)) fun _ => .call (.setText text (some false)) fun _ =>
    .call (.mark (.int 0) (.int 1) "inner") fun _ => .done ()

def markBoth : Program Unit :=
  .call (.mark (.int 0) (.int 2) "region") fun _ =>
    .call (.mark (.int 2) (.int 3) "other") fun _ => .done ()

def marked : Desk :=
  (markBoth.run.attempt ⟨.create {} "k=v".toList (some false), {}, {}⟩).2

/-- A region whose text was replaced and put back is still tiled. -/
theorem rescan_covers_detour :
    marked.annotator.Reached ∧
    ∃ answers after, rescan "region" none (detour "xyz".toList "k=".toList).run marked =
      .ok answers after ∧ answers.length = 1 := by
  have reached : marked.annotator.Reached := Annotator.Reached.after (.create {} _ _) markBoth
  have visited : visits "region" (detour "xyz".toList "k=".toList).run
      (marked.annotator.marks.withLabel "region") marked = [(⟨0, 2, "region"⟩, marked)] := by rfl
  have returns : ∀ visit ∈ visits "region" (detour "xyz".toList "k=".toList).run
      (marked.annotator.marks.withLabel "region") marked, ∃ answer inner,
      (detour "xyz".toList "k=".toList).run (enter visit.1 visit.2) = .ok answer inner ∧
        inner.annotator.text = marked.annotator.textOf visit.1 := by
    rw [visited]
    intro visit only
    rw [List.mem_singleton.mp only]
    exact ⟨(), _, rfl, by decide +kernel⟩
  obtain ⟨answers, after, ran, length, _⟩ := rescan_covers reached "region" none
    (detour "xyz".toList "k=".toList) (fun _ => ⟨16, rfl, by decide +kernel⟩) returns
  exact ⟨reached, answers, after, ran, length⟩

end Region

end Highlight
