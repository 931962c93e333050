import Highlight.Proofs.Selection

/-! One delimiter that opens and closes. Its occurrences in free clusters are paired by rank, and the
regions of the pairs are tried one after another. Which occurrences count is decided before any region is
recorded; a recorded region nevertheless holds no other occurrence, because one that did not count would
stand in a taken cluster, and the region would have been refused. -/
namespace Highlight.Matcher

variable {a : Annotator} {delimiter : Text} {width length : Nat} {positions : List Nat}

theorem pairUp_getElem? (width length : Nat) (positions : List Nat) (k : Nat) :
    (pairUp width length positions)[k]? = positions[2 * k]?.map fun start =>
      (start, (positions[2 * k + 1]?.map (· + width)).getD length) := by
  fun_induction pairUp width length positions generalizing k with
  | case1 => simp
  | case2 start => cases k <;> simp [Nat.mul_add]
  | case3 start close rest ih =>
    cases k with
    | zero => simp
    | succ k => simp [ih, Nat.mul_add]

theorem pairUp_bounds (increasing : positions.Pairwise (· < ·)) (positive : 0 < width)
    (inside : ∀ p ∈ positions, p + width ≤ length) {region : Nat × Nat}
    (member : region ∈ pairUp width length positions) : region.1 < region.2 ∧ region.2 ≤ length := by
  obtain ⟨k, here⟩ := List.mem_iff_getElem?.mp member
  rw [pairUp_getElem?] at here
  obtain ⟨start, first, rfl⟩ := Option.map_eq_some_iff.mp here
  have low := inside start (List.mem_of_getElem? first)
  cases second : positions[2 * k + 1]? with
  | none => simp; omega
  | some close =>
    have high := inside close (List.mem_of_getElem? second)
    have before : start < close := by
      obtain ⟨_, rfl⟩ := List.getElem?_eq_some_iff.mp first
      obtain ⟨_, rfl⟩ := List.getElem?_eq_some_iff.mp second
      exact List.pairwise_iff_getElem.mp increasing _ _ _ _ (Nat.lt_succ_self _)
    simp
    omega

theorem next_le (increasing : positions.Pairwise (· < ·)) {i p q : Nat} (here : positions[i]? = some p)
    (member : q ∈ positions) (behind : p < q) : (positions[i + 1]?).getD length ≤ q := by
  obtain ⟨j, there⟩ := List.mem_iff_getElem?.mp member
  obtain ⟨iInside, rfl⟩ := List.getElem?_eq_some_iff.mp here
  obtain ⟨jInside, rfl⟩ := List.getElem?_eq_some_iff.mp there
  have ordered := List.pairwise_iff_getElem.mp increasing
  have later : i < j := by
    apply Nat.lt_of_not_le
    intro le
    rcases Nat.eq_or_lt_of_le le with rfl | before
    · omega
    · have := ordered j i jInside iInside before
      omega
  rw [List.getElem?_eq_getElem (by omega), Option.getD_some]
  rcases Nat.eq_or_lt_of_le (show i + 1 ≤ j from later) with rfl | after
  · exact Nat.le_refl _
  · exact Nat.le_of_lt (ordered (i + 1) j _ jInside after)

/-- Those of some positions whose cluster is free. -/
def unshielded (a : Annotator) (positions : List Nat) : List Nat :=
  positions.filter fun p : Nat => !a.marks.isTaken (a.index.toGrapheme p)

theorem next_le_of_free (index : a.index = .ofText a.text) (increasing : positions.Pairwise (· < ·))
    {k : Nat} {region : Nat × Nat}
    (paired : (pairUp width a.text.length (unshielded a positions))[k]? = some region)
    (inside : region.2 ≤ a.text.length)
    (free : ∀ i, (a.index.span region.1 region.2).1 ≤ i → i < (a.index.span region.1 region.2).2 →
      a.marks.isTaken i = false)
    {q : Nat} (member : q ∈ positions) (behind : region.1 < q) :
    ((unshielded a positions)[2 * k + 1]?).getD a.text.length ≤ q := by
  rw [pairUp_getElem?] at paired
  obtain ⟨start, first, rfl⟩ := Option.map_eq_some_iff.mp paired
  simp only at inside free behind
  by_cases within : q < ((unshielded a positions)[2 * k + 1]?.map (· + width)).getD a.text.length
  · -- The cluster of such a position is one of the region, so the position takes part in the pairing.
    have covered := GraphemeIndex.toGrapheme_mem_span (Nat.le_of_lt behind) within inside
    rw [← index] at covered
    have counts : q ∈ unshielded a positions :=
      List.mem_filter.mpr ⟨member, by rw [free _ covered.1 covered.2]; rfl⟩
    exact next_le (increasing.filter _) first counts behind
  · cases second : (unshielded a positions)[2 * k + 1]? with
    | none =>
      rw [second] at within
      exact Nat.le_of_not_lt within
    | some close =>
      rw [second] at within
      simp only [Option.map_some, Option.getD_some] at within ⊢
      omega

/-- A search with one delimiter pairs by rank those of its occurrences whose first cluster is free, and
tries the regions of the pairs; one that is left alone runs to the end of the text. A region is recorded
unless one of its clusters is taken from the start or by a region recorded before, and no occurrence
starts between the two delimiters of a recorded one. -/
theorem alternating_ranks (handled : a.Handled) (config : Config) (label : String)
    (nonempty : delimiter ≠ []) :
    ∃ (occurrences : List Nat) (after : Annotator) (tried : List ((Nat × Nat) × Bool)),
      let free := unshielded a occurrences
      let place := fun region : Nat × Nat => a.index.span region.1 region.2
      Text.Selects (a.text.Stands delimiter) delimiter.length 0 occurrences ∧
      (between delimiter none).run config a label = .ok (after, (tried.countP (·.2) : Int)) ∧
      Annotator.Tries place label a tried after ∧
      (∀ k, (tried.map (·.1))[k]? = free[2 * k]?.map fun start =>
        (start, (free[2 * k + 1]?.map (· + delimiter.length)).getD a.text.length)) ∧
      (∀ earlier region recorded later, tried = earlier ++ (region, recorded) :: later →
        (recorded = true ↔ ∀ i, (place region).1 ≤ i → i < (place region).2 →
          a.marks.isTaken i = false ∧
            ∀ other, (other, true) ∈ earlier → ¬ ((place other).1 ≤ i ∧ i < (place other).2))) ∧
      ∀ k region, tried[k]? = some (region, true) → ∀ q ∈ occurrences, region.1 < q →
        (free[2 * k + 1]?).getD a.text.length ≤ q := by
  obtain ⟨slack, _, sound⟩ := handled.sound
  have chosen := @Text.occurrences_selects a.text delimiter nonempty
  have width := List.length_pos_iff.mpr nonempty
  have increasing : (a.text.occurrences delimiter).Pairwise (· < ·) :=
    chosen.apart.imp fun apart => by omega
  have bounds : ∀ region ∈ pairUp delimiter.length a.text.length
      (unshielded a (a.text.occurrences delimiter)),
        region.1 < region.2 ∧ region.2 ≤ a.text.length := fun region =>
    pairUp_bounds (increasing.filter _) width fun p member =>
      (chosen.mem (List.mem_filter.mp member).1).2.le nonempty
  obtain ⟨tried, listed, tries, count⟩ := @Annotator.record_tries a (Nat × Nat)
    (fun region => a.index.span region.1 region.2) sound.marks label _ fun region member =>
      span_proper sound.index (bounds region member).1 (bounds region member).2
  refine ⟨_, _, tried, chosen, ?_, tries, ?_, ?_, ?_⟩
  · have checked : (between delimiter none).check = .ok () := by
      simp [check_eq_ok_iff, IsRefused, targets, counts, nonempty]
    rw [← count]
    simp only [run, checked, mark, regions]
    rfl
  · intro k
    rw [listed]
    exact pairUp_getElem? _ _ _ k
  · intro earlier region recorded later split
    exact tries.recorded_iff split
  · intro k region here q member behind
    have paired : (pairUp delimiter.length a.text.length
        (unshielded a (a.text.occurrences delimiter)))[k]? = some region := by
      rw [← listed, List.getElem?_map, here]
      rfl
    refine next_le_of_free sound.index increasing paired (bounds region (List.mem_of_getElem? paired)).2
      (fun i low high => ?_) member behind
    exact tries.free (List.mem_of_getElem? here) low high

def barred : Annotator :=
  { Annotator.create {} "|a|b|c|d|e".toList (some false) with
    marks := MarkStore.empty.run [.insert 1 2 "other"] }

/-- The first pair is refused for the mark; the second pair and the bar that is left are recorded. -/
theorem alternating_ranks_barred :
    barred.Handled ∧
    ∃ (occurrences : List Nat) (after : Annotator) (tried : List ((Nat × Nat) × Bool)),
      Text.Selects (barred.text.Stands ['|']) 1 0 occurrences ∧
      (between ['|'] none).run {} barred "cell" = .ok (after, (tried.countP (·.2) : Int)) ∧
      tried.countP (·.2) = 2 ∧
      Annotator.Tries (fun region : Nat × Nat => barred.index.span region.1 region.2) "cell" barred tried
        after ∧
      ∀ k region, tried[k]? = some (region, true) → ∀ q ∈ occurrences, region.1 < q →
        ((unshielded barred occurrences)[2 * k + 1]?).getD barred.text.length ≤ q := by
  have handled : barred.Handled := .edited (.create {} _ _) _
  obtain ⟨occurrences, after, tried, chosen, ran, tries, _, _, gap⟩ :=
    @alternating_ranks barred ['|'] handled {} "cell" (by simp)
  have count : ((between ['|'] none).run {} barred "cell").toOption.map (·.2) = some 2 := by
    decide +kernel
  rw [ran] at count
  have two : (tried.countP (·.2) : Int) = 2 := by simpa [Except.toOption] using count
  exact ⟨handled, occurrences, after, tried, chosen, ran, by omega, tries, gap⟩

end Highlight.Matcher
