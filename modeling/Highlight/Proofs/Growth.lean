import Highlight.Desk

/-! Searches only insert. `Grows` is a run of insertions under one label that stay inside the text;
every search, whatever its loop looks like and wherever it stops, is such a run. What later modules
keep through a search they keep through one insertion. -/
namespace Highlight

namespace GraphemeIndex

theorem search_le (offset : Int) (fuel : Nat) (starts : List Int) (width : Nat) :
    search offset fuel starts width ≤ width := by
  induction fuel generalizing starts width with
  | zero => simp [search]
  | succ fuel ih =>
    cases width with
    | zero => simp [search]
    | succ width =>
      simp only [search]
      split
      · omega
      · next start later _ =>
        split
        · have := ih starts ((width + 1) / 2)
          omega
        · have := ih later (width - (width + 1) / 2)
          omega

theorem toGrapheme_lt {index : GraphemeIndex} (nonempty : index.starts ≠ []) (offset : Int) :
    index.toGrapheme offset < index.size := by
  have found := search_le offset index.starts.length index.starts index.starts.length
  have positive := List.length_pos_iff.mpr nonempty
  simp only [toGrapheme, size]
  omega

theorem span_fst (index : GraphemeIndex) (start stop : Int) :
    (index.span start stop).1 = index.toGrapheme start := by
  simp only [span]
  split <;> rfl

theorem span_le {index : GraphemeIndex} (nonempty : index.starts ≠ []) (start stop : Int) :
    (index.span start stop).2 ≤ index.size := by
  have first := toGrapheme_lt nonempty start
  have last := toGrapheme_lt nonempty (stop - 1)
  simp only [span]
  split
  · exact Int.le_of_lt first
  · simp only
    omega

end GraphemeIndex

namespace Annotator

/-- Insertions one after another, with the number of those that were not refused. None reaches past
the text, except that `slack` clusters are allowed for where the text is shorter. -/
inductive Grows (slack : Int) (label : String) : Annotator → Annotator → Int → Prop where
  | refl (a : Annotator) : Grows slack label a a 0
  | insert {a b : Annotator} {start stop count : Int} : stop ≤ max a.size slack →
      Grows slack label (a.insert start stop label).1 b count →
      Grows slack label a b ((if (a.insert start stop label).2 then 1 else 0) + count)

namespace Grows

variable {slack : Int} {label : String} {a b c : Annotator} {m n : Int}

theorem single (start stop : Int) (bound : stop ≤ max a.size slack) :
    Grows slack label a (a.insert start stop label).1
      (if (a.insert start stop label).2 then 1 else 0) := by
  simpa using @Grows.insert slack label a _ start stop 0 bound (.refl _)

theorem same_text (grows : Grows slack label a b n) :
    b.text = a.text ∧ b.index = a.index ∧ b.depth = a.depth := by
  induction grows with
  | refl => exact ⟨rfl, rfl, rfl⟩
  | insert _ _ ih => exact ih

theorem loosen (grows : Grows slack label a b n) {wider : Int} (le : slack ≤ wider) :
    Grows wider label a b n := by
  induction grows with
  | refl => exact .refl _
  | insert bound _ ih => exact .insert (by omega) ih

theorem markRaw {start stop : Int} {recorded : Bool} (nonempty : a.index.starts ≠ [])
    (marked : a.markRaw start stop label = (b, recorded)) (rest : Grows 0 label b c n) :
    Grows 0 label a c ((if recorded then 1 else 0) + n) := by
  have bound : (a.index.span start stop).2 ≤ max a.size 0 :=
    Int.le_trans (GraphemeIndex.span_le nonempty start stop) (Int.le_max_left _ _)
  have inserted : a.insert (a.index.span start stop).1 (a.index.span start stop).2 label =
      (b, recorded) := marked
  have step := @Grows.insert 0 label a c (a.index.span start stop).1 _ n bound
  rw [inserted] at step
  exact step rest

end Grows

theorem markRaw_index {a b : Annotator} {start stop : Int} {label : String} {recorded : Bool}
    (marked : a.markRaw start stop label = (b, recorded)) : b.index = a.index :=
  congrArg (fun result => result.1.index) marked.symm

theorem record_grows {slack : Int} {label : String} {a : Annotator} {ranges : List (Int × Int)}
    (bounded : ∀ range ∈ ranges, range.2 ≤ max a.size slack) :
    Grows slack label a (a.record label ranges).1 (a.record label ranges).2 := by
  induction ranges generalizing a with
  | nil => exact .refl a
  | cons range rest ih =>
    obtain ⟨start, stop⟩ := range
    refine .insert (bounded _ List.mem_cons_self) (ih fun later member => ?_)
    exact bounded later (List.mem_cons_of_mem _ member)

end Annotator

namespace Matcher

theorem scan_nil (accept : Option Char → Text → Bool) (width : Nat) (before : Option Char)
    (position skip : Nat) : Text.scan accept width before position skip [] = [] := by
  cases skip <;> rfl

theorem widen_le {index : GraphemeIndex} (nonempty : index.starts ≠ []) (start stop : Nat)
    (left right : Int) : (widen index start stop left right).2 ≤ index.size := by
  have first := index.toGrapheme_lt nonempty start
  simp only [widen]
  split
  · simp only [GraphemeIndex.span_fst]
    omega
  · exact Int.min_le_right _ _

theorem regions_le {config : Config} {a : Annotator} (nonempty : a.text ≠ [] → a.index.starts ≠ [])
    (matcher : Matcher) {range : Int × Int} (member : range ∈ matcher.regions config a) :
    range.2 ≤ a.size := by
  by_cases empty : a.text = []
  · cases matcher <;>
      simp [regions, wordPositions, Text.occurrences, Text.delimitedOccurrences, empty, scan_nil,
        pairUp] at member
  have clusters := nonempty empty
  cases matcher with
  | all target wholeWord =>
    obtain ⟨p, _, rfl⟩ := List.mem_map.mp member
    exact GraphemeIndex.span_le clusters _ _
  | char target numeric =>
    obtain ⟨p, _, rfl⟩ := List.mem_map.mp member
    exact GraphemeIndex.span_le clusters _ _
  | between opener closer =>
    obtain ⟨pair, _, rfl⟩ := List.mem_map.mp member
    exact GraphemeIndex.span_le clusters _ _
  | before target delimiters left right =>
    obtain ⟨p, _, found⟩ := List.mem_filterMap.mp member
    simp only [Option.ite_none_left_eq_some, Option.some.injEq] at found
    rw [← found.2]
    exact widen_le clusters _ _ _ _
  | after target delimiters left right =>
    obtain ⟨p, _, rfl⟩ := List.mem_map.mp member
    exact widen_le clusters _ _ _ _
  | following target length =>
    obtain ⟨p, _, rfl⟩ := List.mem_map.mp member
    exact Int.min_le_right _ _
  | lineAfter target => simp [regions] at member
  | lineStart target =>
    obtain ⟨p, _, rfl⟩ := List.mem_map.mp member
    exact GraphemeIndex.span_le clusters _ _

theorem pairing_grows (opener closer : Text) (label : String) {a : Annotator}
    (nonempty : a.index.starts ≠ []) (position skip : Nat) (rest : Text) :
    a.Grows 0 label (pairing opener closer label a position skip rest).1
      (pairing opener closer label a position skip rest).2 := by
  fun_induction pairing opener closer label a position skip rest with
  | case1 => exact .refl _
  | case2 _ _ _ _ _ ih => exact ih nonempty
  | case3 _ _ _ _ _ ih => exact ih nonempty
  | case4 _ _ _ _ _ _ ih => exact ih nonempty
  | case5 a _ _ _ _ _ _ next marked => simpa using Annotator.Grows.markRaw nonempty marked (.refl _)
  | case6 a _ _ _ _ _ _ next marked ih =>
    have rest := ih (by rw [Annotator.markRaw_index marked]; exact nonempty)
    simpa using Annotator.Grows.markRaw nonempty marked rest
  | case7 a _ _ _ _ _ _ _ stop next marked last count done ih =>
    have rest := ih (by rw [Annotator.markRaw_index marked]; exact nonempty)
    rw [done] at rest
    simpa using Annotator.Grows.markRaw nonempty marked rest
  | case8 a _ _ _ _ _ _ _ stop next marked ih =>
    have rest := ih (by rw [Annotator.markRaw_index marked]; exact nonempty)
    simpa using Annotator.Grows.markRaw nonempty marked rest

/-- Every search is a run of insertions inside the text, and counts those that were recorded. -/
theorem mark_grows (config : Config) {a : Annotator} (nonempty : a.text ≠ [] → a.index.starts ≠ [])
    (label : String) (matcher : Matcher) :
    a.Grows 0 label (matcher.mark config a label).1 (matcher.mark config a label).2 := by
  have listed (m : Matcher) : a.Grows 0 label (a.record label (m.regions config a)).1
      (a.record label (m.regions config a)).2 := by
    apply Annotator.record_grows
    intro range member
    exact Int.le_trans (regions_le nonempty m member) (Int.le_max_left _ _)
  have paired (opener closer : Text) : a.Grows 0 label
      (pairing opener closer label a 0 0 a.text).1 (pairing opener closer label a 0 0 a.text).2 := by
    by_cases empty : a.text = []
    · simpa only [empty, pairing] using .refl a
    · exact pairing_grows opener closer label (nonempty empty) 0 0 a.text
  unfold mark
  split
  · exact paired _ _
  · exact paired _ _
  · exact listed _

theorem run_grows {config : Config} {a b : Annotator} {label : String} {matcher : Matcher}
    {count : Int} (nonempty : a.text ≠ [] → a.index.starts ≠ [])
    (ran : matcher.run config a label = .ok (b, count)) : a.Grows 0 label b count := by
  simp only [run] at ran
  split at ran
  · contradiction
  · have grown := mark_grows config nonempty label matcher
    rw [Except.ok.inj ran] at grown
    exact grown

end Matcher

namespace Work

@[simp] theorem attempt_pure (a : α) (desk : Desk) :
    attempt (pure a) desk = (.ok a, desk) := rfl

@[simp] theorem attempt_get (desk : Desk) : attempt get desk = (.ok desk, desk) := rfl

@[simp] theorem attempt_update (f : Annotator → Annotator × α) (desk : Desk) :
    attempt (update f) desk =
      (.ok (f desk.annotator).2, { desk with annotator := (f desk.annotator).1 }) := rfl

@[simp] theorem attempt_lift (result : Except Fault α) (desk : Desk) :
    attempt (lift result) desk = (result, desk) := by
  cases result <;> rfl

/-- Work that is followed by more: a fault ends it, and the desk stays as it is then. -/
theorem attempt_bind (work : Work α) (next : α → Work β) (desk : Desk) :
    attempt (work >>= next) desk =
      match attempt work desk with
      | (.ok a, after) => attempt (next a) after
      | (.error fault, after) => (.error fault, after) := by
  simp only [attempt, bind, EStateM.bind]
  cases work desk <;> rfl

/-- The work leaves the desk as it was but for the annotator, which has grown by what is counted. -/
def Grows (label : String) (work : Work Int) (desk : Desk) : Prop :=
  ∃ b n, (work.attempt desk).2 = { desk with annotator := b } ∧ desk.annotator.Grows 0 label b n ∧
    ∀ count, (work.attempt desk).1 = .ok count → count = n

theorem Grows.of_fault {label : String} {work : Work Int} {desk : Desk} {fault : Fault}
    (failed : work.attempt desk = (.error fault, desk)) : Grows label work desk :=
  ⟨desk.annotator, 0, by rw [failed], .refl _, by simp [failed]⟩

theorem search_grows (matcher : Matcher) (label : String) {desk : Desk}
    (nonempty : desk.annotator.text ≠ [] → desk.annotator.index.starts ≠ []) :
    Grows label (search matcher label) desk := by
  cases ran : matcher.run desk.studio.config desk.annotator label with
  | error fault =>
    have failed : attempt (search matcher label) desk = (.error fault, desk) := by
      simp [attempt, search, ran]
    exact .of_fault failed
  | ok result =>
    obtain ⟨b, n⟩ := result
    refine ⟨b, n, by simp [attempt, search, ran], Matcher.run_grows nonempty ran, ?_⟩
    intro count counted
    simpa [attempt, search, ran] using counted.symm

theorem reachRight_le {extent : Datum} {size stop reached : Int} (bound : stop ≤ size)
    (done : Request.reachRight extent size stop = .ok reached) : reached ≤ size := by
  simp only [Request.reachRight] at done
  split at done
  · split at done
    · exact Int.le_of_eq (Except.ok.inj done).symm
    · contradiction
  · exact Except.ok.inj done ▸ bound

theorem place_le {request : Request} {size : Int} {region placed : Int × Int}
    (bound : region.2 ≤ size) (done : request.place size region = .ok placed) : placed.2 ≤ size := by
  have reaches {extent : Datum} {start : Int}
      (ended : (Request.reachRight extent size region.2).map (fun stop => (start, stop)) =
        .ok placed) : placed.2 ≤ size := by
    cases right : Request.reachRight extent size region.2 with
    | error fault => simp [right, Except.map] at ended
    | ok stop =>
      simp only [right, Except.map, Except.ok.injEq] at ended
      exact ended ▸ reachRight_le bound right
  cases kind : request.kind <;> simp only [Request.place, kind] at done
  case before =>
    cases left : Request.reachLeft request.left region.1 with
    | error fault => simp [left, bind, Except.bind] at done
    | ok start => simp only [left] at done; exact reaches done
  case after =>
    cases left : Request.reachLeft request.left region.1 with
    | error fault => simp [left, bind, Except.bind] at done
    | ok start => simp only [left] at done; exact reaches done
  case following => exact reaches done
  all_goals exact Except.ok.inj done ▸ bound

/-- One region: it is passed over, cannot be placed, or is inserted before the others are tried. -/
theorem recordPlaced_cons (request : Request) (label : String) (region : Int × Int)
    (rest : List (Int × Int)) (desk : Desk) :
    attempt (recordPlaced request label (region :: rest)) desk =
      if request.passesOver desk.annotator.marks region then
        attempt (recordPlaced request label rest) desk
      else
        match request.place desk.annotator.size region with
        | .error fault => (.error fault, desk)
        | .ok (start, stop) =>
          let inserted := desk.annotator.insert start stop label
          match attempt (recordPlaced request label rest)
              { desk with annotator := inserted.1 } with
          | (.ok count, after) => (.ok ((if inserted.2 then 1 else 0) + count), after)
          | (.error fault, after) => (.error fault, after) := by
  simp only [recordPlaced, attempt_bind, attempt_get]
  split
  · rfl
  · simp only [attempt_bind, attempt_lift]
    cases request.place desk.annotator.size region with
    | error fault => rfl
    | ok placed =>
      simp only [attempt_update]
      cases attempt (recordPlaced request label rest) _ with
      | mk outcome after => cases outcome <;> rfl

theorem recordPlaced_grows (request : Request) (label : String) {regions : List (Int × Int)}
    {desk : Desk} (bounded : ∀ region ∈ regions, region.2 ≤ desk.annotator.size) :
    Grows label (recordPlaced request label regions) desk := by
  induction regions generalizing desk with
  | nil => exact ⟨desk.annotator, 0, rfl, .refl _, by simp [recordPlaced]⟩
  | cons region rest ih =>
    have later : ∀ other ∈ rest, other.2 ≤ desk.annotator.size :=
      fun other member => bounded other (List.mem_cons_of_mem region member)
    have step := recordPlaced_cons request label region rest desk
    by_cases passed : request.passesOver desk.annotator.marks region
    · rw [if_pos passed] at step
      simpa only [Grows, step] using ih later
    rw [if_neg passed] at step
    cases placed : request.place desk.annotator.size region with
    | error fault => exact .of_fault (step.trans (by rw [placed]))
    | ok range =>
      obtain ⟨start, stop⟩ := range
      have bound := place_le (bounded region List.mem_cons_self) placed
      have within : stop ≤ max desk.annotator.size 0 := Int.le_trans bound (Int.le_max_left _ _)
      obtain ⟨b, n, left, grown, counted⟩ :=
        @ih { desk with annotator := (desk.annotator.insert start stop label).1 } later
      simp only [placed] at step
      cases tried : attempt (recordPlaced request label rest)
          { desk with annotator := (desk.annotator.insert start stop label).1 } with
      | mk outcome after =>
        simp only [tried] at left counted step
        refine ⟨b, _, ?_, .insert within grown, ?_⟩
        · cases outcome <;> simp [step, left]
        · intro count ended
          cases outcome with
          | error fault => simp [step] at ended
          | ok total =>
            simp only [step, Except.ok.injEq] at ended
            rw [← ended, counted total rfl]

theorem ask_grows (request : Request) (label : String) {desk : Desk}
    (nonempty : desk.annotator.text ≠ [] → desk.annotator.index.starts ≠ []) :
    Grows label (ask request label) desk := by
  cases read : request.matcher with
  | error fault =>
    have failed : attempt (ask request label) desk = (.error fault, desk) := by
      simp [ask, attempt_bind, read]
    exact .of_fault failed
  | ok matcher =>
    have step : attempt (ask request label) desk =
        if request.isFlawed desk.studio.config &&
            !(request.occurrences desk.annotator.text).isEmpty then (.error .wrongKind, desk)
        else if request.hasRealExtent then
          attempt (recordPlaced request label (matcher.regions desk.studio.config desk.annotator)) desk
        else attempt (search matcher label) desk := by
      simp only [ask, attempt_bind, attempt_lift, read, attempt_get]
      split
      · rfl
      · split <;> rfl
    by_cases flawed : (request.isFlawed desk.studio.config &&
        !(request.occurrences desk.annotator.text).isEmpty) = true
    · rw [if_pos flawed] at step
      exact .of_fault step
    rw [if_neg flawed] at step
    by_cases real : request.hasRealExtent = true
    · rw [if_pos real] at step
      have placed := @recordPlaced_grows request label
        (matcher.regions desk.studio.config desk.annotator) desk
        fun region member => Matcher.regions_le nonempty matcher member
      simpa only [Grows, step] using placed
    · rw [if_neg real] at step
      simpa only [Grows, step] using search_grows matcher label nonempty

end Work

end Highlight
