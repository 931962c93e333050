import Highlight.Proofs.Soundness

/-! One region scanned again, and then all of them. `Outcome` is everything the scan of one region
can end in; that the new marks fit the region is proved here once, from the soundness of parent and
child. Its induction over the regions says what each of them meets when its turn comes. -/
namespace Highlight

namespace GraphemeIndex

theorem size_sub_le (index : GraphemeIndex) {start stop : Int} (ordered : start ≤ stop) :
    (index.sub start stop).size ≤ stop - start := by
  simp only [sub, clamp, size, List.length_map, List.length_take]
  omega

end GraphemeIndex

namespace Annotator

variable {slack few : Int} {a c : Annotator} {region : Mark}

theorem Sound.within (sound : a.Sound slack) : Within 0 (max a.size slack) a.marks.marks where
  ordered := sound.marks.ordered
  bounds mark member := by
    have := sound.marks.proper mark member
    exact ⟨this.1, this.2, sound.bound mark member⟩

def moved (c : Annotator) (region : Mark) : List Mark :=
  c.marks.marks.map fun mark => mark.shift region.start

/-- Whatever was done to a child, if its text is that of the region then its marks fit the region:
the text fixes the index, also where it was replaced and put back. The region itself may reach past
the text of the parent; then the child has less room than the region. -/
theorem Sound.moved_within (sound : a.Sound slack) (member : region ∈ a.marks.marks)
    (inner : c.Sound few) (small : few ≤ 1)
    (text : c.text = (a.child region.start region.stop).text) :
    Within region.start region.stop (c.moved region) := by
  have proper := sound.marks.proper region member
  have sameIndex : c.index = (a.child region.start region.stop).index := by
    rw [inner.index, text, child_index sound.index]
  have room : c.size ≤ region.stop - region.start := by
    rw [size, sameIndex]
    exact a.index.size_sub_le (Int.le_of_lt proper.2)
  have inside := (inner.within.shift region.start).widen
    (show max c.size few + region.start ≤ region.stop by omega)
  rwa [Int.zero_add] at inside

end Annotator

namespace Region

variable {slack few : Int} {label : String} {work : Work α} {region : Mark} {desk : Desk}

/-- All that the scan of one region can end in. The child's work fails; or it replaces the text; or
its marks, with the gaps between them filled, take the place of the region. -/
inductive Outcome (label : String) (work : Work α) (region : Mark) (desk : Desk) :
    Except Fault α × Desk → Prop where
  | failed {fault : Fault} {inner : Desk}
      (ran : work.attempt (enter region desk) = (.error fault, inner)) :
      Outcome label work region desk (.error fault, { inner with annotator := desk.annotator })
  | replaced {answer : α} {inner : Desk}
      (ran : work.attempt (enter region desk) = (.ok answer, inner))
      (changed : inner.annotator.text ≠ (enter region desk).annotator.text) :
      Outcome label work region desk (.error (.regionReplaced label region.start region.stop),
        { inner with annotator := desk.annotator })
  | kept {answer : α} {inner : Desk} {before after : List Mark} {studio : Studio}
      (ran : work.attempt (enter region desk) = (.ok answer, inner))
      (same : inner.annotator.text = (enter region desk).annotator.text)
      (split : desk.annotator.marks.marks = before ++ region :: after)
      (within : Within region.start region.stop (inner.annotator.moved region))
      (shared : studio = { inner.studio with
        profile := inner.studio.profile.map fun p => p.recordRegion (desk.annotator.depth + 1) }) :
      Outcome label work region desk (.ok answer, { inner with
        annotator := { desk.annotator with marks := { desk.annotator.marks with
          marks := before ++ fillGaps region (inner.annotator.moved region) ++ after } }
        studio })

theorem rescanOne_attempt (label : String) (work : Work α) (region : Mark) (desk : Desk) :
    (rescanOne label work region).attempt desk =
      match work.attempt (enter region desk) with
      | (.error fault, inner) => (.error fault, { inner with annotator := desk.annotator })
      | (.ok answer, inner) =>
        if inner.annotator.text ≠ (enter region desk).annotator.text then
          (.error (.regionReplaced label region.start region.stop),
            { inner with annotator := desk.annotator })
        else
          match desk.annotator.marks.replace region
              (fillGaps region (inner.annotator.moved region)) with
          | .error fault => (.error fault, { inner with annotator := desk.annotator })
          | .ok marks =>
            let profile := inner.studio.profile.map fun p => p.recordRegion (desk.annotator.depth + 1)
            (.ok answer, { inner with
              annotator := { desk.annotator with marks }
              studio := { inner.studio with profile } }) := by
  simp only [Work.attempt, rescanOne, enter, Annotator.moved, Annotator.child]
  cases work _ with
  | error fault inner => rfl
  | ok answer inner =>
    by_cases same : inner.annotator.text = desk.annotator.slice region.start region.stop
    · simp only [ne_eq, same, not_true_eq_false, ↓reduceIte]
      cases desk.annotator.marks.replace region _ <;> rfl
    · simp only [ne_eq, same, not_false_eq_true, ↓reduceIte]

theorem rescanOne_outcome (sound : desk.annotator.Sound slack) (small : few ≤ 1)
    (member : region ∈ desk.annotator.marks.marks)
    (inner : (work.attempt (enter region desk)).2.annotator.Sound few) :
    Outcome label work region desk ((rescanOne label work region).attempt desk) := by
  rw [rescanOne_attempt]
  cases ran : work.attempt (enter region desk) with
  | mk outcome after =>
    rw [ran] at inner
    cases outcome with
    | error fault => exact .failed ran
    | ok answer =>
      by_cases same : after.annotator.text = (enter region desk).annotator.text
      · have within := sound.moved_within member inner small same
        have proper := sound.marks.proper region member
        obtain ⟨before, later, split⟩ := List.append_of_mem member
        have tiling := fillFrom_tiles within (Int.le_of_lt proper.2)
        simp only [ne_eq, same, not_true_eq_false, ↓reduceIte, fillGaps,
          sound.marks.replace_eq split tiling]
        exact .kept ran same split within rfl
      · simp only [ne_eq, same, not_false_eq_true, ↓reduceIte]
        exact .replaced ran same

/-- Regions that are still marks of the annotator, in document order. -/
structure Pending (a : Annotator) (regions : List Mark) : Prop where
  ordered : regions.Pairwise fun x y => x.stop ≤ y.start
  marks : ∀ region ∈ regions, region ∈ a.marks.marks

theorem withLabel_pending {a : Annotator} (sound : a.Sound slack) (label : String) :
    Pending a (a.marks.withLabel label) where
  ordered := sound.marks.ordered.filter _
  marks _ member := (List.mem_filter.mp member).1

theorem Outcome.sound {result : Except Fault α × Desk} (outcome : Outcome label work region desk result)
    (sound : desk.annotator.Sound slack) : result.2.annotator.Sound slack := by
  cases outcome with
  | failed => exact sound
  | replaced => exact sound
  | kept ran same split within shared =>
    have member : region ∈ desk.annotator.marks.marks := by simp [split]
    have proper := sound.marks.proper region member
    have tiling := fillFrom_tiles within (Int.le_of_lt proper.2)
    refine ⟨sound.index, sound.marks.swap split tiling, fun mark inside => ?_⟩
    have bound := sound.bound
    rw [split] at bound
    simp only [List.mem_append] at inside
    rcases inside with (inBefore | inTiles) | inAfter
    · exact bound mark (by simp [inBefore])
    · exact Int.le_trans (tiling.bounds inTiles).2.2 (bound region (by simp))
    · exact bound mark (by simp [inAfter])

theorem Outcome.parent {result : Except Fault α × Desk}
    (outcome : Outcome label work region desk result) :
    result.2.annotator = { desk.annotator with marks := result.2.annotator.marks } := by
  cases outcome <;> rfl

/-- What lies outside the region stays, and so do the regions whose turn is yet to come. -/
theorem Outcome.pending {result : Except Fault α × Desk} {rest : List Mark}
    (outcome : Outcome label work region desk result) (sound : desk.annotator.Sound slack)
    (pending : Pending desk.annotator (region :: rest)) : Pending result.2.annotator rest := by
  obtain ⟨earlier, ordered⟩ := List.pairwise_cons.mp pending.ordered
  refine ⟨ordered, fun later member => ?_⟩
  have recorded := pending.marks later (List.mem_cons_of_mem region member)
  cases outcome with
  | failed => exact recorded
  | replaced => exact recorded
  | @kept answer inner before after studio ran same split within shared =>
    have proper := sound.marks.proper region (by simp [split])
    have apart : later ≠ region := by
      have := earlier later member
      rintro rfl
      omega
    have outside : later ∈ before ∨ later ∈ after := by simpa [split, apart] using recorded
    simp only [List.mem_append]
    exact outside.elim (fun inBefore => .inl (.inl inBefore)) .inr

theorem rescanEach_cons (label : String) (work : Work α) (region : Mark) (rest : List Mark)
    (desk : Desk) :
    (rescanEach label work (region :: rest)).attempt desk =
      match (rescanOne label work region).attempt desk with
      | (.error fault, after) => (.error fault, after)
      | (.ok answer, next) =>
        match (rescanEach label work rest).attempt next with
        | (.error fault, after) => (.error fault, after)
        | (.ok answers, after) => (.ok (answer :: answers), after) := by
  simp only [rescanEach, Work.attempt_bind]
  cases (rescanOne label work region).attempt desk with
  | mk outcome next =>
    cases outcome with
    | error fault => rfl
    | ok answer =>
      simp only
      cases (rescanEach label work rest).attempt next with
      | mk outcome after => cases outcome <;> rfl

theorem visits_cons (label : String) (work : Work α) (region : Mark) (rest : List Mark)
    (desk : Desk) :
    visits label work (region :: rest) desk = (region, desk) ::
      match (rescanOne label work region).attempt desk with
      | (.error _, _) => []
      | (.ok _, next) => visits label work rest next := by
  simp only [visits, Work.attempt]
  cases rescanOne label work region desk <;> rfl

theorem rescan_attempt (label : String) (limit : Option Datum) (work : Work α) (desk : Desk) :
    (rescan label limit work).attempt desk =
      if desk.annotator.marks.withLabel label = [] then (.ok [], desk)
      else
        match (limit.getD desk.studio.config.maxDepth).floor? with
        | none => (.error .wrongKind, desk)
        | some levels =>
          if levels < desk.annotator.depth + 1 then
            (.error (.tooDeep label (desk.annotator.depth + 1)
              (limit.getD desk.studio.config.maxDepth)), desk)
          else (rescanEach label work (desk.annotator.marks.withLabel label)).attempt desk := by
  simp only [Work.attempt, rescan, List.isEmpty_iff]
  by_cases empty : desk.annotator.marks.withLabel label = []
  · simp only [empty, ↓reduceIte]
  simp only [empty, ↓reduceIte]
  cases (limit.getD desk.studio.config.maxDepth).floor? with
  | none => rfl
  | some levels => by_cases deep : levels < desk.annotator.depth + 1 <;> simp only [deep, ↓reduceIte]

/-- A scan goes through the regions it admits. If it admits none it leaves the desk as it is. -/
theorem rescan_cases (label : String) (limit : Option Datum) (work : Work α) (desk : Desk) :
    (admitted label limit desk = [] ∧ ∃ outcome, (rescan label limit work).attempt desk = (outcome, desk)) ∨
    (admitted label limit desk = desk.annotator.marks.withLabel label ∧
      (rescan label limit work).attempt desk =
        (rescanEach label work (desk.annotator.marks.withLabel label)).attempt desk) := by
  rw [rescan_attempt, admitted]
  by_cases empty : desk.annotator.marks.withLabel label = []
  · simp only [empty, ↓reduceIte, ite_self]
    refine .inl ⟨?_, .ok [], rfl⟩
    cases (limit.getD desk.studio.config.maxDepth).floor? <;> rfl
  simp only [empty, ↓reduceIte]
  cases (limit.getD desk.studio.config.maxDepth).floor? with
  | none => exact .inl ⟨rfl, _, rfl⟩
  | some levels =>
    by_cases deep : levels < desk.annotator.depth + 1
    · exact .inl ⟨if_pos deep, _, if_pos deep⟩
    · exact .inr ⟨if_neg deep, if_neg deep⟩

/-- How a scan goes through its regions, with the visits it makes. It ends with the last region or
with the first that fails; until then every desk on the way is sound. -/
inductive Course (slack : Int) (label : String) (work : Work α) :
    List Mark → Desk → Except Fault (List α) × Desk → List (Mark × Desk) → Prop where
  | done {desk : Desk} (sound : desk.annotator.Sound slack) :
      Course slack label work [] desk (.ok [], desk) []
  | stopped {region : Mark} {rest : List Mark} {desk last : Desk} {fault : Fault}
      (sound : desk.annotator.Sound slack) (pending : Pending desk.annotator (region :: rest))
      (outcome : Outcome label work region desk (.error fault, last)) :
      Course slack label work (region :: rest) desk (.error fault, last) [(region, desk)]
  | went {region : Mark} {rest : List Mark} {desk next last : Desk} {answer : α}
      {answers : Except Fault (List α)} {visited : List (Mark × Desk)}
      (sound : desk.annotator.Sound slack) (pending : Pending desk.annotator (region :: rest))
      (outcome : Outcome label work region desk (.ok answer, next))
      (later : Course slack label work rest next (answers, last) visited) :
      Course slack label work (region :: rest) desk (answers.map (answer :: ·), last)
        ((region, desk) :: visited)

theorem rescanEach_course (small : few ≤ 1) {regions : List Mark}
    (sound : desk.annotator.Sound slack) (pending : Pending desk.annotator regions)
    (keeps : ∀ visit ∈ visits label work regions desk, visit.2.annotator.Sound slack →
      (work.attempt (enter visit.1 visit.2)).2.annotator.Sound few) :
    Course slack label work regions desk ((rescanEach label work regions).attempt desk)
      (visits label work regions desk) := by
  induction regions generalizing desk with
  | nil => exact .done sound
  | cons region rest ih =>
    rw [visits_cons] at keeps ⊢
    have member := pending.marks region List.mem_cons_self
    have outcome : Outcome label work region desk ((rescanOne label work region).attempt desk) :=
      rescanOne_outcome sound small member (keeps (region, desk) List.mem_cons_self sound)
    have nextSound := outcome.sound sound
    have nextPending := outcome.pending sound pending
    rw [rescanEach_cons]
    cases one : (rescanOne label work region).attempt desk with
    | mk result next =>
      rw [one] at outcome nextSound nextPending
      simp only [one] at keeps
      cases result with
      | error fault => exact .stopped sound pending outcome
      | ok answer =>
        simp only at nextSound nextPending keeps ⊢
        have later := ih nextSound nextPending fun visit visited =>
          keeps visit (List.mem_cons_of_mem _ visited)
        cases tail : (rescanEach label work rest).attempt next with
        | mk answers last =>
          rw [tail] at later
          have course := Course.went sound pending outcome later
          cases answers <;> exact course

namespace Course

variable {regions : List Mark} {result : Except Fault (List α) × Desk}
  {visited : List (Mark × Desk)}

/-- Each region is still there when its turn comes, and only marks have changed. -/
theorem visits_sound (course : Course slack label work regions desk result visited) :
    ∀ visit ∈ visited, visit.2.annotator.Sound slack ∧ visit.1 ∈ visit.2.annotator.marks.marks ∧
      visit.2.annotator = { desk.annotator with marks := visit.2.annotator.marks } := by
  induction course with
  | done => simp
  | stopped sound pending =>
    simpa using ⟨sound, pending.marks _ List.mem_cons_self⟩
  | went sound pending outcome _ ih =>
    refine List.forall_mem_cons.mpr ⟨⟨sound, pending.marks _ List.mem_cons_self, rfl⟩, ?_⟩
    intro visit later
    obtain ⟨visitSound, member, parent⟩ := ih visit later
    refine ⟨visitSound, member, ?_⟩
    rw [parent, outcome.parent]

theorem visits_mem (course : Course slack label work regions desk result visited) :
    ∀ visit ∈ visited, visit.1 ∈ regions := by
  induction course with
  | done => simp
  | stopped => simp
  | went _ _ _ _ ih =>
    exact List.forall_mem_cons.mpr ⟨List.mem_cons_self, fun visit later =>
      List.mem_cons_of_mem _ (ih visit later)⟩

theorem enter_eq (course : Course slack label work regions desk result visited) {visit : Mark × Desk}
    (member : visit ∈ visited) :
    (enter visit.1 visit.2).annotator = desk.annotator.child visit.1.start visit.1.stop := by
  rw [enter, (course.visits_sound visit member).2.2]
  rfl

theorem enter_sound (course : Course slack label work regions desk result visited)
    {visit : Mark × Desk} (member : visit ∈ visited) :
    (enter visit.1 visit.2).annotator.Sound few :=
  Annotator.child_sound few (course.visits_sound visit member).1.index visit.1.start visit.1.stop

theorem result_parent (course : Course slack label work regions desk result visited) :
    result.2.annotator = { desk.annotator with marks := result.2.annotator.marks } := by
  induction course with
  | done => rfl
  | stopped _ _ outcome => exact outcome.parent
  | went _ _ outcome _ ih => rw [ih, outcome.parent]

theorem result_sound (course : Course slack label work regions desk result visited) :
    result.2.annotator.Sound slack := by
  induction course with
  | done sound => exact sound
  | stopped sound _ outcome => exact outcome.sound sound
  | went _ _ _ _ ih => exact ih

end Course

end Region

end Highlight
