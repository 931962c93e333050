import Highlight.Proofs.History

/-! The mark store as a set of disjoint intervals. What is taken is the disjoint union of the marks; an
insertion is accepted if it keeps them disjoint, and adds its mark and nothing else; a removal gives
back what an insertion of its mark would take. `Inserts` and `Removes` say so without reference to the
order of the marks or to the list of what is taken, and hold after every history. A range is tested
against the marks in two ways: by its clusters, and by its end points. The two differ on ranges that have
no clusters. -/
namespace Highlight

namespace MarkStore

variable {store : MarkStore} {start stop : Int} {label : String} {mark : Mark}

theorem Sound.taken_perm (sound : store.Sound) :
    store.taken.Perm (store.marks.flatMap Mark.indices) := by
  have distinct : (store.marks.flatMap Mark.indices).Nodup := by
    apply List.pairwise_flatMap.mpr
    refine ⟨fun mark _ => range_nodup mark.start mark.stop, ?_⟩
    apply sound.ordered.imp
    intro a b before i inFirst j inSecond same
    have := mem_range.mp inFirst
    have := mem_range.mp inSecond
    omega
  apply (List.perm_ext_iff_of_nodup sound.distinct distinct).mpr
  intro i
  rw [sound.taken i]
  simp only [List.mem_flatMap, Mark.indices, mem_range]

theorem Sound.increasing (sound : store.Sound) :
    store.marks.Pairwise fun a b => a.start < b.start ∧ a.stop ≤ b.start := by
  apply sound.ordered.imp_of_mem
  intro a b first _ before
  have := (sound.proper a first).2
  exact ⟨by omega, before⟩

/-- What an insertion of a mark has to do: record the mark if it has clusters and shares none with
another mark, and otherwise leave everything as it is. -/
structure Inserts (store : MarkStore) (mark : Mark) (result : MarkStore × Bool) : Prop where
  accepted : result.2 = true ↔ 0 ≤ mark.start ∧ mark.start < mark.stop ∧
    ∀ other ∈ store.marks, ∀ i ∈ other.indices, i ∉ mark.indices
  added : result.2 = true → result.1.marks.Perm (mark :: store.marks) ∧
    result.1.taken.Perm (mark.indices ++ store.taken)
  refused : result.2 = false → result.1 = store

theorem Sound.inserts (sound : store.Sound) (start stop : Int) (label : String) :
    Inserts store ⟨start, stop, label⟩ (store.insert start stop label) := by
  rcases sound.insert_cases start stop label with
    ⟨refused, reason⟩ | ⟨nonneg, proper, free, before, after, marks, _, _, placed⟩
  · rw [refused]
    refine ⟨⟨by simp, ?_⟩, by simp, fun _ => rfl⟩
    rintro ⟨nonneg, proper, apart⟩
    rcases reason with empty | negative | touched
    · exact absurd proper (by simpa using empty)
    · exact absurd nonneg (by simpa using negative)
    · obtain ⟨i, taken, inside⟩ : ∃ i ∈ store.taken, start ≤ i ∧ i < stop := by
        simpa [anyTaken] using touched
      obtain ⟨other, member, covers⟩ := (sound.taken i).mp taken
      exact absurd (mem_range.mpr inside) (apart other member i (mem_range.mpr covers))
  · rw [placed]
    refine ⟨⟨fun _ => ⟨nonneg, proper, ?_⟩, fun _ => rfl⟩, fun _ => ⟨?_, .refl _⟩, by simp⟩
    · intro other member i inOther inNew
      have taken := (sound.taken i).mpr ⟨other, member, mem_range.mp inOther⟩
      exact anyTaken_eq_false_iff.mp free i taken (mem_range.mp inNew)
    · rw [marks]
      exact List.perm_middle

/-- What a removal has to do: find the mark over exactly the range, take it out and free its clusters,
and otherwise leave everything as it is. -/
structure Removes (store : MarkStore) (start stop : Int) (result : MarkStore × Option Mark) : Prop where
  found : ∀ mark, result.2 = some mark ↔ mark ∈ store.marks ∧ mark.start = start ∧ mark.stop = stop
  removed : ∀ mark, result.2 = some mark → store.marks.Perm (mark :: result.1.marks) ∧
    store.taken.Perm (mark.indices ++ result.1.taken)
  missing : result.2 = none → result.1 = store

theorem Sound.get?_eq_some_iff (sound : store.Sound) :
    store.get? start stop = some mark ↔ mark ∈ store.marks ∧ mark.start = start ∧ mark.stop = stop := by
  constructor
  · intro found
    exact ⟨List.mem_of_find?_eq_some found, hasRange_iff.mp (List.find?_some found)⟩
  · rintro ⟨member, sameStart, sameStop⟩
    cases found : store.get? start stop with
    | none =>
      have missed := List.find?_eq_none.mp found mark member
      exact absurd (hasRange_iff.mpr ⟨sameStart, sameStop⟩) missed
    | some other =>
      obtain ⟨otherStart, otherStop⟩ := hasRange_iff.mp (List.find?_some found)
      have proper := (sound.proper mark member).2
      have same := sound.eq_of_covers (List.mem_of_find?_eq_some found) member
        (show other.start ≤ start ∧ start < other.stop by omega) (by omega)
      rw [same]

theorem Sound.removes (sound : store.Sound) (start stop : Int) :
    Removes store start stop (store.remove start stop) := by
  have rest := sound.remove start stop
  cases found : store.get? start stop with
  | none =>
    have result : store.remove start stop = (store, none) := by
      simp only [MarkStore.remove, found]
    rw [result]
    refine ⟨fun mark => ?_, by simp, fun _ => rfl⟩
    rw [← sound.get?_eq_some_iff, found]
  | some mark =>
    obtain ⟨member, rfl, rfl⟩ := sound.get?_eq_some_iff.mp found
    obtain ⟨before, after, marks⟩ := List.append_of_mem member
    have result : (store.remove mark.start mark.stop).2 = some mark := by
      simp only [MarkStore.remove, found]
    have left : (store.remove mark.start mark.stop).1.marks = before ++ after := by
      simp only [MarkStore.remove, found]
      exact sound.filter_others marks
    have perm : store.marks.Perm (mark :: (store.remove mark.start mark.stop).1.marks) := by
      rw [left, marks]
      exact List.perm_middle
    refine ⟨fun other => ?_, fun other same => ?_, by simp [result]⟩
    · rw [result, ← found, sound.get?_eq_some_iff]
    · obtain rfl : mark = other := Option.some.inj (result.symm.trans same)
      refine ⟨perm, ?_⟩
      calc List.Perm store.taken (store.marks.flatMap Mark.indices) := sound.taken_perm
        List.Perm _ ((mark :: (store.remove mark.start mark.stop).1.marks).flatMap Mark.indices) :=
          perm.flatMap_right _
        List.Perm _ (mark.indices ++ (store.remove mark.start mark.stop).1.taken) :=
          rest.taken_perm.symm.append_left _

/-- After every history a store is a set of disjoint intervals. -/
theorem run_intervals (edits : List Edit) :
    let store := empty.run edits
    store.taken.Nodup ∧ store.taken.Perm (store.marks.flatMap Mark.indices) ∧
    (∀ mark ∈ store.marks, 0 ≤ mark.start ∧ mark.start < mark.stop) ∧
    (store.marks.Pairwise fun a b => a.start < b.start ∧ a.stop ≤ b.start) ∧
    (∀ label, ((store.withLabel label).Pairwise fun a b => a.start < b.start ∧ a.stop ≤ b.start) ∧
      ∀ mark, mark ∈ store.withLabel label ↔ mark ∈ store.marks ∧ mark.label = label) ∧
    (∀ start stop label, Inserts store ⟨start, stop, label⟩ (store.insert start stop label)) ∧
    ∀ start stop, Removes store start stop (store.remove start stop) := by
  intro store
  have sound : store.Sound := empty_sound.run edits
  refine ⟨sound.distinct, sound.taken_perm, sound.proper, sound.increasing, fun label => ⟨?_, ?_⟩,
    sound.inserts, sound.removes⟩
  · exact sound.increasing.filter _
  · simp [withLabel]

example :
    (empty.run [.insert 4 6 "b", .insert 0 2 "a", .insert 1 5 "x",
      .replace ⟨4, 6, "b"⟩ [⟨5, 6, "d"⟩, ⟨4, 5, "c"⟩], .remove 0 1]).marks =
      [⟨0, 2, "a"⟩, ⟨4, 5, "c"⟩, ⟨5, 6, "d"⟩] := by
  decide

end MarkStore

/-- Both ends of an empty or inverted range lie inside the mark, although the range has no clusters. -/
def Mark.Encloses (mark : Mark) (start stop : Int) : Prop :=
  mark.start < stop ∧ stop ≤ start ∧ start < mark.stop

theorem Mark.overlaps_iff {mark : Mark} (proper : mark.start < mark.stop) (start stop : Int) :
    mark.overlaps start stop = true ↔
      (∃ i ∈ range start stop, mark.covers i = true) ∨ mark.Encloses start stop := by
  simp only [overlaps, covers, Encloses, MarkStore.mem_range, Bool.and_eq_true, decide_eq_true_eq]
  constructor
  · rintro ⟨startsBefore, endsBehind⟩
    by_cases nonempty : start < stop
    · exact .inl ⟨max mark.start start, by omega, by omega⟩
    · exact .inr ⟨endsBehind, by omega, startsBefore⟩
  · rintro (⟨i, inRange, inMark⟩ | ⟨low, _, high⟩)
    · omega
    · exact ⟨high, low⟩

namespace MarkStore

variable {store : MarkStore}

theorem Sound.anyTaken_iff (sound : store.Sound) (start stop : Int) :
    store.anyTaken start stop = true ↔
      ∃ i ∈ range start stop, ∃ mark ∈ store.marks, mark.covers i = true := by
  simp only [anyTaken, List.any_eq_true, sound.taken, mem_range, Mark.covers, Bool.and_eq_true,
    decide_eq_true_eq]
  constructor
  · rintro ⟨i, covered, inRange⟩
    exact ⟨i, inRange, covered⟩
  · rintro ⟨i, inRange, covered⟩
    exact ⟨i, covered, inRange⟩

/-- The store finds a range taken if a mark covers one of its clusters. Asking the marks one by one gives
the same answer exactly if none of them encloses the range, so always for a range with clusters. -/
theorem overlap_tests_agree_iff (reached : store.Reached) (start stop : Int) :
    (store.anyTaken start stop = true ↔
      ∃ i ∈ range start stop, ∃ mark ∈ store.marks, mark.covers i = true) ∧
    ((store.anyTaken start stop = true ↔ ∃ mark ∈ store.marks, mark.overlaps start stop = true) ↔
      ¬ ∃ mark ∈ store.marks, mark.Encloses start stop) := by
  have sound := reached.sound
  have taken := sound.anyTaken_iff start stop
  refine ⟨taken, fun agree => ?_, fun enclosed => ?_⟩
  · rintro ⟨mark, member, enclosing⟩
    have overlapping := (Mark.overlaps_iff (sound.proper mark member).2 start stop).mpr (.inr enclosing)
    obtain ⟨i, inRange, _⟩ := taken.mp (agree.mpr ⟨mark, member, overlapping⟩)
    have := mem_range.mp inRange
    have := enclosing.2.1
    omega
  · rw [taken]
    constructor
    · rintro ⟨i, inRange, mark, member, covered⟩
      exact ⟨mark, member,
        (Mark.overlaps_iff (sound.proper mark member).2 start stop).mpr (.inl ⟨i, inRange, covered⟩)⟩
    · rintro ⟨mark, member, overlapping⟩
      rcases (Mark.overlaps_iff (sound.proper mark member).2 start stop).mp overlapping with
        ⟨i, inRange, covered⟩ | enclosing
      · exact ⟨i, inRange, mark, member, covered⟩
      · exact absurd ⟨mark, member, enclosing⟩ enclosed

def lone : MarkStore := empty.run [.insert 2 5 "name"]

theorem overlap_tests_agree_touching :
    lone.Reached ∧ (¬ ∃ mark ∈ lone.marks, mark.Encloses 4 8) ∧
      (lone.anyTaken 4 8 = true ↔ ∃ mark ∈ lone.marks, mark.overlaps 4 8 = true) := by
  have reached : lone.Reached := .run _
  have apart : ¬ ∃ mark ∈ lone.marks, mark.Encloses 4 8 := by
    rintro ⟨mark, _, enclosing⟩
    have := enclosing.2.1
    omega
  exact ⟨reached, apart, (overlap_tests_agree_iff reached 4 8).2.mpr apart⟩

/-- The empty range at 3 has no cluster, and yet it overlaps the mark. -/
theorem overlap_tests_agree_empty :
    lone.Reached ∧ range 3 3 = [] ∧ lone.anyTaken 3 3 = false ∧
      ∃ mark ∈ lone.marks, mark.overlaps 3 3 = true :=
  ⟨.run _, by decide⟩

end MarkStore

end Highlight
