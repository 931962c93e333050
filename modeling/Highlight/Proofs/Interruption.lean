import Highlight.Proofs.Coverage

/-! Scans that fail. A scan stops at the first region that it cannot put its marks back into: the work
on it failed, or replaced its text. The regions before that one are done, as if the scan had had
nothing else to do; it and those after it still are the single marks they were. What the work did to
the region that failed, at whatever depth, is given up with it. Where the level of the regions is not
allowed, none of them is entered. -/
namespace Highlight

namespace MarkStore

variable {store : MarkStore} {region : Mark}

theorem Sound.filter_self (sound : store.Sound) (member : region ∈ store.marks) :
    store.marks.filter region.holds = [region] := by
  obtain ⟨before, after, marks⟩ := List.append_of_mem member
  obtain ⟨_, _, _, proper⟩ := sound.around marks
  have alone : Tiles region.start [region] region.stop := ⟨rfl, proper, rfl⟩
  have held := sound.filter_tiles marks alone
  rwa [List.append_assoc, List.singleton_append, ← marks] at held

end MarkStore

theorem Work.attempt_eq_error {work : Work α} {desk after : Desk} {fault : Fault} :
    work.attempt desk = (.error fault, after) ↔ work desk = .error fault after := by
  simp only [attempt]
  cases work desk <;> simp

namespace Region

variable {slack : Int} {label : String} {limit : Option Datum} {work : Work α} {region : Mark}
  {desk last : Desk} {fault : Fault}

theorem Pending.split {a : Annotator} {front back : List Mark} (pending : Pending a (front ++ back)) :
    Pending a front ∧ Pending a back := by
  obtain ⟨first, second, _⟩ := List.pairwise_append.mp pending.ordered
  exact ⟨⟨first, fun region member => pending.marks region (List.mem_append_left back member)⟩,
    ⟨second, fun region member => pending.marks region (List.mem_append_right front member)⟩⟩

theorem Course.pending {done left : List Mark} {result : Except Fault (List α) × Desk}
    {visited : List (Mark × Desk)} (course : Course slack label work done desk result visited)
    (pending : Pending desk.annotator (done ++ left)) : Pending result.2.annotator left := by
  induction course with
  | done => exact pending
  | stopped sound _ outcome => exact (outcome.pending sound pending).split.2
  | went sound _ outcome _ ih => exact ih (outcome.pending sound pending)

theorem rescanEach_error {regions : List Mark}
    (failed : (rescanEach label work regions).attempt desk = (.error fault, last)) :
    ∃ front region back answers middle, regions = front ++ region :: back ∧
      (rescanEach label work front).attempt desk = (.ok answers, middle) ∧
      (rescanOne label work region).attempt middle = (.error fault, last) := by
  induction regions generalizing desk with
  | nil => simp [rescanEach] at failed
  | cons region rest ih =>
    rw [rescanEach_cons] at failed
    cases one : (rescanOne label work region).attempt desk with
    | mk result next =>
      rw [one] at failed
      cases result with
      | error other =>
        obtain ⟨rfl, rfl⟩ : other = fault ∧ next = last := by simpa using failed
        exact ⟨[], region, rest, [], desk, rfl, rfl, one⟩
      | ok answer =>
        cases tail : (rescanEach label work rest).attempt next with
        | mk answers after =>
          simp only [tail] at failed
          cases answers with
          | ok others => simp at failed
          | error other =>
            obtain ⟨front, stuck, back, answers, middle, rfl, done, stopped⟩ := ih (tail.trans failed)
            refine ⟨region :: front, stuck, back, answer :: answers, middle, rfl, ?_, stopped⟩
            rw [rescanEach_cons, one]
            simp only [done]

/-- What a scan leaves that has done some regions and not the others. It is what a scan of the first
ones alone leaves: they hold what the work left on them, and everything else is as it was. -/
structure Interrupted (label : String) (work : Work α) (done left : List Mark)
    (desk middle after : Desk) : Prop where
  ran : ∃ answers, rescanEach label work done desk = .ok answers middle
  same : after.annotator = middle.annotator
  visited : (visits label work done desk).map Prod.fst = done
  retiled : ∀ visit ∈ visits label work done desk, ∃ answer inner,
    work (enter visit.1 visit.2) = .ok answer inner ∧
      Retiled visit.1 (inner.annotator.moved visit.1) after.annotator.marks.marks
  untouched : ∀ region ∈ left, after.annotator.marks.marks.filter region.holds = [region]
  elsewhere : Elsewhere done desk.annotator.marks.marks after.annotator.marks.marks
  taken : after.annotator.marks.taken = desk.annotator.marks.taken
  apart : after.annotator.marks.marks.Pairwise fun x y => x.stop ≤ y.start

theorem interrupted_of_ran {done left : List Mark} {body : Program α} {answers : List α}
    {middle after : Desk} (sound : desk.annotator.Sound slack)
    (pending : Pending desk.annotator (done ++ left))
    (ran : (rescanEach label body.run done).attempt desk = (.ok answers, middle))
    (same : after.annotator = middle.annotator) :
    Interrupted label body.run done left desk middle after := by
  have course := body.pending_course label sound pending.split.1
  rw [ran] at course
  obtain ⟨_, visited, taken, elsewhere, inside⟩ := course.retiled rfl
  have middleSound := course.result_sound.marks
  have waiting := course.pending pending
  simp only [← same] at taken elsewhere inside middleSound waiting
  refine ⟨⟨answers, Work.attempt_eq_ok.mp ran⟩, same, visited, fun visit member => ?_,
    fun region member => ?_, elsewhere, taken, middleSound.ordered⟩
  · obtain ⟨answer, inner, worked, retiled⟩ := inside visit member
    exact ⟨answer, inner, Work.attempt_eq_ok.mp worked, retiled⟩
  · exact middleSound.filter_self (waiting.marks region member)

/-- A region that fails leaves the parent alone. The work on it has failed, or has replaced its text. -/
theorem rescanOne_error {body : Program α} (sound : desk.annotator.Sound slack)
    (recorded : region ∈ desk.annotator.marks.marks)
    (failed : (rescanOne label body.run region).attempt desk = (.error fault, last)) :
    last.annotator = desk.annotator ∧
      ((∃ inner, body.run (enter region desk) = .error fault inner) ∨
        ∃ answer inner, body.run (enter region desk) = .ok answer inner ∧
          inner.annotator.text ≠ desk.annotator.textOf region ∧
          fault = .regionReplaced label region.start region.stop) := by
  have child : (enter region desk).annotator.Sound 1 :=
    Annotator.child_sound 1 sound.index region.start region.stop
  have inner := (Program.trace_sound (.inr (Int.le_refl 1)) body child (by simp)).2
  have outcome : Outcome label body.run region desk (.error fault, last) :=
    failed ▸ rescanOne_outcome sound (Int.le_refl 1) recorded inner
  cases outcome with
  | failed ran => exact ⟨rfl, .inl ⟨_, Work.attempt_eq_error.mp ran⟩⟩
  | replaced ran changed => exact ⟨rfl, .inr ⟨_, _, Work.attempt_eq_ok.mp ran, changed, rfl⟩⟩

def Allowed (limit : Option Datum) (desk : Desk) : Prop :=
  ∃ levels, (limit.getD desk.studio.config.maxDepth).floor? = some levels ∧
    desk.annotator.depth + 1 ≤ levels

/-- Where the level of the regions is not allowed, what would be done to them makes no difference. -/
theorem rescan_barred (barred : ¬ Allowed limit desk)
    (nonempty : desk.annotator.marks.withLabel label ≠ []) :
    ∃ fault, ((limit.getD desk.studio.config.maxDepth).floor? ≠ none → fault =
        .tooDeep label (desk.annotator.depth + 1) (limit.getD desk.studio.config.maxDepth)) ∧
      ∀ {β : Type} (other : Work β), rescan label limit other desk = .error fault desk := by
  cases floor : (limit.getD desk.studio.config.maxDepth).floor? with
  | none =>
    refine ⟨.wrongKind, by simp, fun other => Work.attempt_eq_error.mp ?_⟩
    rw [rescan_attempt, if_neg nonempty, floor]
  | some levels =>
    have deep : levels < desk.annotator.depth + 1 := by
      apply Int.lt_of_not_ge
      intro shallow
      exact barred ⟨levels, floor, shallow⟩
    refine ⟨_, fun _ => rfl, fun other => Work.attempt_eq_error.mp ?_⟩
    rw [rescan_attempt, if_neg nonempty, floor]
    exact if_pos deep

/-- A scan that fails leaves whole regions, whatever program works on them and however it fails. There
is a number `k` such that the annotator is what a scan of the first `k` regions makes of it; the one
that failed and those after it are the single marks they were. The taken clusters stay, and the marks
stay apart. A level that is not allowed is noticed before any region is entered: then `k` is 0, and
the scan fails in the same way whatever the work is. -/
theorem rescan_interrupted (reached : desk.annotator.Reached) (label : String) (limit : Option Datum)
    (body : Program α) {after : Desk} (failed : rescan label limit body.run desk = .error fault after) :
    ∃ k middle, k < (desk.annotator.marks.withLabel label).length ∧
      Interrupted label body.run ((desk.annotator.marks.withLabel label).take k)
        ((desk.annotator.marks.withLabel label).drop k) desk middle after ∧
      (¬ Allowed limit desk → k = 0 ∧
        ((limit.getD desk.studio.config.maxDepth).floor? ≠ none → fault = .tooDeep label
          (desk.annotator.depth + 1) (limit.getD desk.studio.config.maxDepth)) ∧
        ∀ {β : Type} (other : Work β), rescan label limit other desk = .error fault desk) ∧
      (Allowed limit desk → ∃ region, (desk.annotator.marks.withLabel label)[k]? = some region ∧
        ((∃ inner, body.run (enter region middle) = .error fault inner) ∨
          ∃ answer inner, body.run (enter region middle) = .ok answer inner ∧
            inner.annotator.text ≠ desk.annotator.textOf region ∧
            fault = .regionReplaced label region.start region.stop)) := by
  have sound := reached.sound
  have pending := withLabel_pending sound label
  have nonempty : desk.annotator.marks.withLabel label ≠ [] := by
    intro empty
    simp [rescan, empty] at failed
  by_cases allowed : Allowed limit desk
  · have scanned := Work.attempt_eq_error.mpr failed
    rw [rescan_admitted fun _ => allowed] at scanned
    obtain ⟨done, region, left, answers, middle, split, ran, stopped⟩ := rescanEach_error scanned
    rw [split] at pending ⊢
    have course := body.pending_course label sound pending.split.1
    rw [ran] at course
    have recorded := (course.pending pending).marks region List.mem_cons_self
    obtain ⟨same, cause⟩ := rescanOne_error course.result_sound recorded stopped
    have text : middle.annotator.textOf region = desk.annotator.textOf region := by
      rw [show middle.annotator = _ from course.result_parent]
      rfl
    rw [text] at cause
    refine ⟨done.length, middle, by simp, ?_, fun barred => absurd allowed barred,
      fun _ => ⟨region, by simp, cause⟩⟩
    rw [List.take_left, List.drop_left]
    exact interrupted_of_ran sound pending ran same
  · obtain ⟨own, level, others⟩ := rescan_barred allowed nonempty
    obtain ⟨rfl, rfl⟩ : own = fault ∧ desk = after := by simpa [others] using failed
    refine ⟨0, desk, List.length_pos_iff.mpr nonempty, ?_, fun _ => ⟨rfl, level, others⟩,
      fun reaches => absurd reaches allowed⟩
    exact interrupted_of_ran sound (by simpa using pending) rfl rfl

def markSides : Program Unit :=
  .call (.mark (.int 0) (.int 1) "region") fun _ =>
    .call (.mark (.int 2) (.int 3) "region") fun _ => .done ()

def sides : Desk :=
  (markSides.run.attempt ⟨.create {} "k=v".toList (some false), {}, {}⟩).2

def stumble (bad : Text) : Program Unit :=
  .call (.mark (.int 0) (.int 1) "inner") fun _ =>
    .look fun desk => if desk.annotator.text = bad then .fail .wrongKind else .done ()

/-- The work fails on the second of two regions; with a limit of 0 it is not begun. -/
theorem rescan_interrupted_sides :
    sides.annotator.Reached ∧
    (∃ after, rescan "region" none (stumble "v".toList).run sides = .error .wrongKind after ∧
      after.annotator.marks.marks.filter (Mark.holds ⟨2, 3, "region"⟩) = [⟨2, 3, "region"⟩] ∧
      after.annotator.marks.marks = [⟨0, 1, "inner"⟩, ⟨2, 3, "region"⟩] ∧
      after.annotator.marks.taken = sides.annotator.marks.taken) ∧
    ∀ other : Work Unit, rescan "region" (some (.int 0)) other sides =
      .error (.tooDeep "region" 1 (.int 0)) sides := by
  have reached : sides.annotator.Reached := Annotator.Reached.after (.create {} _ _) markSides
  have regions : sides.annotator.marks.withLabel "region" = [⟨0, 1, "region"⟩, ⟨2, 3, "region"⟩] := by
    decide +kernel
  refine ⟨reached, ⟨_, rfl, ?_, by decide +kernel, ?_⟩, ?_⟩
  · obtain ⟨k, middle, bound, interrupted, _⟩ := rescan_interrupted reached "region" none
      (stumble "v".toList) rfl
    rw [regions] at bound interrupted
    apply interrupted.untouched
    obtain rfl | rfl : k = 0 ∨ k = 1 := by simp at bound; omega
    · simp
    · simp
  · obtain ⟨k, middle, _, interrupted, _⟩ := rescan_interrupted reached "region" none
      (stumble "v".toList) rfl
    exact interrupted.taken
  · have barred : ¬ Allowed (some (.int 0)) sides := by
      rintro ⟨levels, floor, shallow⟩
      obtain rfl : 0 = levels := Option.some.inj floor
      exact absurd shallow (by decide +kernel)
    obtain ⟨_, _, _, _, own, _⟩ := rescan_interrupted reached "region" (some (.int 0))
      (stumble "v".toList) rfl
    exact (own barred).2.2

end Region

end Highlight
