import Highlight.Proofs.Coverage

/-! Histories of a mark store. Whatever calls are made on it, in whatever order, a store stays sound;
a call that fails changes nothing. `Handled` are the annotators in any state that callers can bring
about, by programs and by calls on the store itself. The store takes marks past the end of the text,
so nothing is said about where the marks of such an annotator end. `Reached` are the stores in any such
state, with or without an annotator around them. -/
namespace Highlight

namespace MarkStore

variable {store next : MarkStore} {start stop : Int} {mark : Mark} {tiles : List Mark}

theorem Sound.eq_of_covers (sound : store.Sound) {a b : Mark} (first : a ∈ store.marks)
    (second : b ∈ store.marks) {i : Int} (inFirst : a.start ≤ i ∧ i < a.stop)
    (inSecond : b.start ≤ i ∧ i < b.stop) : a = b := by
  apply Classical.byContradiction
  intro different
  have := sound.apart first second different
  omega

theorem hasRange_iff : hasRange start stop mark = true ↔ mark.start = start ∧ mark.stop = stop := by
  simp [hasRange]

theorem Sound.remove (sound : store.Sound) (start stop : Int) :
    (store.remove start stop).1.Sound := by
  cases found : store.get? start stop with
  | none => simpa only [MarkStore.remove, found] using sound
  | some old =>
    have range := hasRange_iff.mp (List.find?_some found)
    have recorded : old ∈ store.marks := List.mem_of_find?_eq_some found
    simp only [MarkStore.remove, found]
    constructor
    · exact sound.ordered.filter _
    · intro mark member
      exact sound.proper mark (List.mem_filter.mp member).1
    · intro i
      simp only [List.mem_filter, sound.taken i, Bool.not_eq_eq_eq_not, Bool.not_true,
        Bool.and_eq_false_imp, decide_eq_true_eq, decide_eq_false_iff_not]
      constructor
      · rintro ⟨⟨mark, member, inside⟩, outside⟩
        refine ⟨mark, ⟨member, Bool.eq_false_iff.mpr fun same => ?_⟩, inside⟩
        have := hasRange_iff.mp same
        have := outside (by omega)
        omega
      · rintro ⟨mark, ⟨member, kept⟩, inside⟩
        refine ⟨⟨mark, member, inside⟩, fun low high => ?_⟩
        -- A mark that covers a cluster of the removed one is the removed one.
        have same := sound.eq_of_covers recorded member (by omega) inside
        rw [same] at range
        rw [hasRange_iff.mpr range] at kept
        contradiction
    · exact sound.distinct.filter _

/-- A replacement that succeeds has put tiles in the place of a mark over the same range, which may
carry another label. -/
theorem Sound.replace_ok (sound : store.Sound) (done : store.replace mark tiles = .ok next) :
    ∃ region before after, region.start = mark.start ∧ region.stop = mark.stop ∧
      store.marks = before ++ region :: after ∧
      Tiles mark.start (Order.sort Mark.precedes tiles) mark.stop ∧
      next = { store with marks := before ++ Order.sort Mark.precedes tiles ++ after } := by
  cases swept : sweep mark mark.start (Order.sort Mark.precedes tiles) with
  | error fault => simp [replace, swept] at done
  | ok =>
    have tiling := sweep_eq_ok_iff.mp swept
    by_cases recorded : store.marks.any (hasRange mark.start mark.stop) = true
    · obtain ⟨region, member, range⟩ := List.any_eq_true.mp recorded
      obtain ⟨sameStart, sameStop⟩ := hasRange_iff.mp range
      obtain ⟨before, after, split⟩ := List.append_of_mem member
      refine ⟨region, before, after, sameStart, sameStop, split, tiling, ?_⟩
      rw [← sameStart, ← sameStop] at tiling
      have swapped := sound.replace_eq split tiling
      have sweptRegion := (@sweep_eq_ok_iff region _ _).mpr tiling
      simp only [replace, tiling.sorted, sweptRegion] at swapped
      simp only [replace, swept] at done
      rw [← sameStart, ← sameStop] at done
      exact (Except.ok.inj (swapped.symm.trans done)).symm
    · simp [replace, swept, recorded] at done

theorem Sound.edit (sound : store.Sound) (edit : Edit) : (store.edit edit).Sound := by
  cases edit with
  | insert start stop label => exact sound.insert start stop label
  | insertPoint i label => exact sound.insert i (i + 1) label
  | remove start stop => exact sound.remove start stop
  | replace mark tiles =>
    cases done : store.replace mark tiles with
    | error fault => simpa only [MarkStore.edit, done] using sound
    | ok next =>
      obtain ⟨region, before, after, sameStart, sameStop, split, tiling, rfl⟩ := sound.replace_ok done
      rw [← sameStart, ← sameStop] at tiling
      simpa only [MarkStore.edit, done] using sound.swap split tiling
  | clear => exact empty_sound

/-- Every history keeps a store sound. -/
theorem Sound.run (sound : store.Sound) (edits : List Edit) : (store.run edits).Sound := by
  induction edits generalizing store with
  | nil => exact sound
  | cons first rest ih => exact ih (sound.edit first)

end MarkStore

namespace Annotator

theorem sound_of_marks {a : Annotator} (index : a.index = .ofText a.text) (marks : a.marks.Sound) :
    ∃ slack, 1 ≤ slack ∧ a.Sound slack := by
  have bounded (list : List Mark) : ∃ top : Int, 1 ≤ top ∧ ∀ mark ∈ list, mark.stop ≤ top := by
    induction list with
    | nil => exact ⟨1, Int.le_refl 1, by simp⟩
    | cons head rest ih =>
      obtain ⟨top, least, above⟩ := ih
      refine ⟨max top head.stop, by omega, List.forall_mem_cons.mpr ⟨by omega, ?_⟩⟩
      intro mark member
      have := above mark member
      omega
  obtain ⟨top, least, above⟩ := bounded a.marks.marks
  refine ⟨top, least, index, marks, fun mark member => ?_⟩
  have := above mark member
  omega

/-- The annotators in all states that callers bring about: new documents, what programs make of them
and of their regions, and what calls on the mark store make of those. -/
inductive Handled : Annotator → Prop where
  | create (config : Config) (text : Text) (normalize : Option Bool) :
      Handled (create config text normalize)
  | during {desk : Desk} (program : Program α) {a : Annotator} (start : Handled desk.annotator)
      (member : a ∈ program.annotators desk) : Handled a
  | edited {a : Annotator} (start : Handled a) (edits : List MarkStore.Edit) :
      Handled { a with marks := a.marks.run edits }

theorem Reached.handled {a : Annotator} (reached : a.Reached) : a.Handled := by
  induction reached with
  | create config text normalize => exact .create config text normalize
  | during program _ member ih => exact .during program ih member

theorem Handled.sound {a : Annotator} (handled : a.Handled) : ∃ slack, 1 ≤ slack ∧ a.Sound slack := by
  induction handled with
  | create config text normalize => exact ⟨1, Int.le_refl 1, create_sound 1 config text normalize⟩
  | during program _ member ih =>
    obtain ⟨slack, some, sound⟩ := ih
    exact ⟨slack, some, Program.annotators_sound (.inr some) program sound (by omega) member⟩
  | edited _ edits ih =>
    obtain ⟨slack, _, sound⟩ := ih
    exact sound_of_marks sound.index (sound.marks.run edits)

end Annotator

namespace MarkStore

/-- The stores in all states that callers bring about: new ones after any calls, and those of
annotators. -/
inductive Reached : MarkStore → Prop where
  | run (edits : List Edit) : Reached (empty.run edits)
  | held {a : Annotator} (handled : a.Handled) : Reached a.marks

theorem Reached.sound {store : MarkStore} (reached : store.Reached) : store.Sound := by
  cases reached with
  | run edits => exact empty_sound.run edits
  | held handled =>
    obtain ⟨_, _, sound⟩ := handled.sound
    exact sound.marks

end MarkStore

end Highlight
