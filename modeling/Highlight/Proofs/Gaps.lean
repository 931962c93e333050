import Highlight.Proofs.Disjointness
import Highlight.Region

/-! Filling the gaps of a region. The marks of a region that was scanned again, together with one
mark for each maximal run of clusters they leave free, tile the region. `IsGap` says which runs are
meant without reference to the sweep that finds them. -/
namespace Highlight

def Covered (marks : List Mark) (i : Int) : Prop := ∃ mark ∈ marks, mark.start ≤ i ∧ i < mark.stop

theorem not_covered_nil (i : Int) : ¬ Covered [] i := by simp [Covered]

theorem covered_cons {mark : Mark} {rest : List Mark} {i : Int} :
    Covered (mark :: rest) i ↔ (mark.start ≤ i ∧ i < mark.stop) ∨ Covered rest i := by
  simp [Covered]

/-- Marks in document order, none of them empty, between two positions. -/
structure Within (start stop : Int) (marks : List Mark) : Prop where
  ordered : marks.Pairwise fun a b => a.stop ≤ b.start
  bounds : ∀ mark ∈ marks, start ≤ mark.start ∧ mark.start < mark.stop ∧ mark.stop ≤ stop

namespace Within

theorem tail {start stop : Int} {mark : Mark} {rest : List Mark}
    (within : Within start stop (mark :: rest)) : Within mark.stop stop rest := by
  obtain ⟨first, ordered⟩ := List.pairwise_cons.mp within.ordered
  refine ⟨ordered, fun later member => ?_⟩
  have := within.bounds later (List.mem_cons_of_mem mark member)
  exact ⟨first later member, this.2⟩

theorem covered {start stop : Int} {marks : List Mark} (within : Within start stop marks) {i : Int}
    (here : Covered marks i) : start ≤ i ∧ i < stop := by
  obtain ⟨mark, member, low, high⟩ := here
  have := within.bounds mark member
  omega

theorem shift {start stop : Int} {marks : List Mark} (within : Within start stop marks)
    (distance : Int) :
    Within (start + distance) (stop + distance) (marks.map fun mark => mark.shift distance) := by
  constructor
  · apply within.ordered.map
    intro a b before
    simp only [Mark.shift]
    omega
  · intro moved member
    obtain ⟨mark, inMarks, rfl⟩ := List.mem_map.mp member
    have := within.bounds mark inMarks
    simp only [Mark.shift]
    omega

theorem widen {start stop wider : Int} {marks : List Mark} (within : Within start stop marks)
    (le : stop ≤ wider) : Within start wider marks := by
  refine ⟨within.ordered, fun mark member => ?_⟩
  have := within.bounds mark member
  omega

end Within

/-- A maximal run of clusters of a region that no mark covers, with the label of the region. -/
structure IsGap (region : Mark) (marks : List Mark) (gap : Mark) : Prop where
  label : gap.label = region.label
  proper : gap.start < gap.stop
  inside : region.start ≤ gap.start ∧ gap.stop ≤ region.stop
  free : ∀ i, gap.start ≤ i → i < gap.stop → ¬ Covered marks i
  left : gap.start = region.start ∨ Covered marks (gap.start - 1)
  right : gap.stop = region.stop ∨ Covered marks gap.stop

theorem IsGap.not_mem {region gap : Mark} {marks : List Mark} (isGap : IsGap region marks gap) :
    gap ∉ marks := fun member =>
  isGap.free gap.start (Int.le_refl _) isGap.proper ⟨gap, member, Int.le_refl _, isGap.proper⟩

namespace Region

theorem fillFrom_tiles {region : Mark} {cursor : Int} {marks : List Mark}
    (within : Within cursor region.stop marks) (bound : cursor ≤ region.stop) :
    Tiles cursor (fillFrom region cursor marks) region.stop := by
  induction marks generalizing cursor with
  | nil =>
    simp only [fillFrom]
    split
    · exact ⟨rfl, by assumption, rfl⟩
    · have : cursor = region.stop := by omega
      exact this
  | cons mark rest ih =>
    have here := within.bounds mark List.mem_cons_self
    have next := ih within.tail here.2.2
    simp only [fillFrom]
    split
    · exact ⟨rfl, by assumption, rfl, here.2.1, next⟩
    · exact ⟨by omega, here.2.1, next⟩

theorem isGap_nil {region gap : Mark} : IsGap region [] gap ↔
    region.start < region.stop ∧ gap = region := by
  constructor
  · rintro ⟨label, proper, inside, _, left, right⟩
    have start : gap.start = region.start := left.resolve_right (not_covered_nil _)
    have stop : gap.stop = region.stop := right.resolve_right (not_covered_nil _)
    cases gap; cases region
    simp_all
  · rintro ⟨proper, rfl⟩
    exact ⟨rfl, proper, ⟨Int.le_refl _, Int.le_refl _⟩, fun i _ _ => not_covered_nil i,
      .inl rfl, .inl rfl⟩

/-- The gaps of a region are the one before its first mark and those after it. -/
theorem isGap_cons {cursor stop : Int} {label : String} {mark gap : Mark} {rest : List Mark}
    (within : Within cursor stop (mark :: rest)) :
    IsGap ⟨cursor, stop, label⟩ (mark :: rest) gap ↔
      (cursor < mark.start ∧ gap = ⟨cursor, mark.start, label⟩) ∨
        IsGap ⟨mark.stop, stop, label⟩ rest gap := by
  have here := within.bounds mark List.mem_cons_self
  have later {i : Int} := @Within.covered _ _ _ within.tail i
  constructor
  · rintro ⟨sameLabel, proper, inside, free, left, right⟩
    simp only [covered_cons] at left right
    have freeStart := free gap.start (Int.le_refl _) proper
    simp only [covered_cons, not_or] at inside freeStart
    by_cases early : gap.start < mark.start
    · left
      have start : gap.start = cursor := by
        rcases left with same | covered | covered
        · exact same
        · omega
        · have := later covered
          omega
      have short : gap.stop ≤ mark.start := by
        have := free mark.start (by omega)
        simp only [covered_cons, not_or] at this
        omega
      have stop : gap.stop = mark.start := by
        rcases right with same | covered | covered
        · omega
        · omega
        · have := later covered
          omega
      refine ⟨by omega, ?_⟩
      cases gap
      simp_all
    · right
      have past : mark.stop ≤ gap.start := by omega
      refine ⟨sameLabel, proper, ⟨past, inside.2⟩, fun i low high covered => ?_, ?_, ?_⟩
      · exact free i low high (covered_cons.mpr (.inr covered))
      · rcases left with same | covered | covered
        · omega
        · left; simp only; omega
        · exact .inr covered
      · rcases right with same | covered | covered
        · exact .inl same
        · omega
        · exact .inr covered
  · rintro (⟨proper, rfl⟩ | ⟨sameLabel, proper, inside, free, left, right⟩)
    · refine ⟨rfl, proper, ⟨Int.le_refl _, by simp only; omega⟩, fun i low high covered => ?_,
        .inl rfl, .inr (covered_cons.mpr (.inl ⟨Int.le_refl _, here.2.1⟩))⟩
      rcases covered_cons.mp covered with onMark | onRest
      · simp only at high
        omega
      · have := later onRest
        simp only at high
        omega
    · simp only at inside left right
      refine ⟨sameLabel, proper, ⟨by simp only; omega, inside.2⟩, fun i low high covered => ?_, .inr ?_, ?_⟩
      · rcases covered_cons.mp covered with onMark | onRest
        · omega
        · exact free i low high onRest
      · rcases left with same | covered
        · exact covered_cons.mpr (.inl (by omega))
        · exact covered_cons.mpr (.inr covered)
      · exact right.imp_right fun covered => covered_cons.mpr (.inr covered)

/-- Filling adds exactly the gaps. -/
theorem mem_fillFrom {region mark : Mark} {cursor : Int} {marks : List Mark}
    (within : Within cursor region.stop marks) :
    mark ∈ fillFrom region cursor marks ↔
      mark ∈ marks ∨ IsGap ⟨cursor, region.stop, region.label⟩ marks mark := by
  induction marks generalizing cursor with
  | nil =>
    simp only [fillFrom, isGap_nil]
    split
    next gap => simp [gap]
    next noGap => simp [noGap]
  | cons head rest ih =>
    rw [isGap_cons within, List.mem_cons]
    simp only [fillFrom]
    split
    next gap =>
      simp only [List.mem_cons, ih within.tail, gap, true_and]
      constructor
      · rintro (isGap | isHead | inRest | later)
        · exact .inr (.inl isGap)
        · exact .inl (.inl isHead)
        · exact .inl (.inr inRest)
        · exact .inr (.inr later)
      · rintro ((isHead | inRest) | isGap | later)
        · exact .inr (.inl isHead)
        · exact .inr (.inr (.inl inRest))
        · exact .inl isGap
        · exact .inr (.inr (.inr later))
    next noGap => simp only [List.mem_cons, ih within.tail, noGap, false_and, false_or, or_assoc]

end Region

end Highlight
