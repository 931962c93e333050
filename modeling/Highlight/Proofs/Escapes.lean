import Highlight.Proofs.Boundaries
import Highlight.Proofs.Selection

/-! Escapes. An escape character takes the cluster behind it along, so a search for it that goes on by one
cluster marks every other one of a row. A cluster with the character is marked exactly if the one before it
was not, and this rule alone, from the left to the right, decides by the length of the row before. -/
namespace Highlight

namespace Grapheme

variable {text : Text} {c : Char} {g : Nat}

/-- How many clusters right before cluster `g` have a character, in a row. -/
def escapesBefore (clusters : List Text) (c : Char) (g : Nat) : Nat :=
  ((clusters.take g).reverse.takeWhile fun cluster => decide (c ∈ cluster)).length

theorem escapesBefore_succ {clusters : List Text} {cluster : Text} (here : clusters[g]? = some cluster) :
    escapesBefore clusters c (g + 1) = if c ∈ cluster then escapesBefore clusters c g + 1 else 0 := by
  simp only [escapesBefore, length_takeWhile_reverse_take here, decide_eq_true_eq]

theorem holds_iff_mem : Holds text g c ↔ c ∈ between text g (g + 1) := by
  rw [List.mem_iff_getElem?, between]
  simp only [List.getElem?_drop, List.getElem?_take]
  constructor
  · rintro ⟨p, here, low, high⟩
    refine ⟨p - startAt text g, ?_⟩
    rw [Nat.add_sub_cancel' low, if_pos high, here]
  · rintro ⟨k, here⟩
    split at here
    next high => exact ⟨_, here, Nat.le_add_right _ _, high⟩
    next => contradiction

theorem split_getElem? (inside : g < (starts text).length) :
    (split text)[g]? = some (between text g (g + 1)) := by
  rw [split_eq, List.getElem?_map, List.getElem?_range inside, Option.map_some]

theorem holds_iff_split : Holds text g c ↔ ∃ cluster, (split text)[g]? = some cluster ∧ c ∈ cluster := by
  constructor
  · intro holds
    exact ⟨_, split_getElem? holds.lt, holds_iff_mem.mp holds⟩
  · rintro ⟨cluster, here, member⟩
    have inside : g < (starts text).length := by
      have := (List.getElem?_eq_some_iff.mp here).1
      rwa [split_eq, List.length_map, List.length_range] at this
    rw [split_getElem? inside, Option.some.injEq] at here
    rw [holds_iff_mem, here]
    exact member

end Grapheme

open Grapheme (Holds escapesBefore)

theorem MarkStore.Sound.isTaken_unmarked {store : MarkStore} (sound : store.Sound)
    (unmarked : store.marks = []) (i : Int) : store.isTaken i = false := by
  rw [Bool.eq_false_iff]
  intro taken
  simp only [isTaken, List.contains_iff_mem, sound.taken i, unmarked, List.not_mem_nil, false_and,
    exists_false] at taken

theorem GraphemeIndex.span_single (index : GraphemeIndex) (p : Nat) :
    index.span p (p + 1) = (index.toGrapheme p, index.toGrapheme p + 1) := by
  have proper : ¬ (p : Int) + 1 ≤ p := by omega
  simp only [span, proper, if_false, Int.add_sub_cancel]

theorem GraphemeIndex.toGrapheme_lt_size {text : Text} {p : Nat} (inside : p < text.length) :
    (ofText text).toGrapheme p < (ofText text).size := by
  have nonempty : text ≠ [] := List.ne_nil_of_length_pos (by omega)
  exact (ofText text).toGrapheme_lt (by simpa [ofText] using nonempty) p

namespace Matcher

variable {a b : Annotator} {c : Char} {label : String} {slack : Int} {tried : List (Nat × Bool)} {g : Nat}

def escapeAt (a : Annotator) (p : Nat) : Int × Int :=
  (a.index.toGrapheme p, min (a.index.toGrapheme p + 2) a.size)

/-- The course of a search for an escape character and one cluster more, on a text without marks: the
escapes at all places of the character are tried from the left to the right. -/
structure TriesEscapes (a : Annotator) (c : Char) (label : String) (tried : List (Nat × Bool))
    (b : Annotator) : Prop where
  index : a.index = .ofText a.text
  free : ∀ i, a.marks.isTaken i = false
  listed : tried.map (·.1) = a.text.occurrences [c]
  tries : Annotator.Tries (escapeAt a) label a tried b

theorem run_escapes (sound : a.Sound slack) (unmarked : a.marks.marks = []) (config : Config)
    (label : String) (c : Char) :
    ∃ (after : Annotator) (tried : List (Nat × Bool)),
      (following [c] 1).run config a label = .ok (after, (tried.countP (·.2) : Int)) ∧
      TriesEscapes a c label tried after := by
  have checked : (following [c] 1).check = .ok () := by
    simp [check_eq_ok_iff, IsRefused, targets, counts]
  have marked : (following [c] 1).mark config a label =
      a.record label ((a.text.occurrences [c]).map (escapeAt a)) := by
    simp only [mark, regions, List.length_singleton, Int.natCast_one, GraphemeIndex.span_single,
      Int.add_assoc]
    rfl
  obtain ⟨after, tried, ran, listed, tries⟩ := run_tries sound.marks checked marked fun p member => by
    have below := GraphemeIndex.toGrapheme_lt_size (Text.stands_of_mem_occurrences member).1
    have nonneg := a.index.toGrapheme_nonneg p
    rw [← sound.index] at below
    simp only [escapeAt, Annotator.size]
    omega
  exact ⟨after, tried, ran, sound.index, sound.marks.isTaken_unmarked unmarked, listed, tries⟩

/-- An escape that starts with cluster `g` is recorded. -/
def Escapes (a : Annotator) (tried : List (Nat × Bool)) (g : Nat) : Prop :=
  ∃ p, (p, true) ∈ tried ∧ a.index.toGrapheme p = g

namespace TriesEscapes

variable {earlier later : List (Nat × Bool)} {p q : Nat} {recorded : Bool}

theorem stands (course : TriesEscapes a c label tried b) {entry : Nat × Bool} (member : entry ∈ tried) :
    a.text[entry.1]? = some c := by
  have occurs : entry.1 ∈ a.text.occurrences [c] := course.listed ▸ List.mem_map_of_mem member
  exact Text.mem_occurrences_single.mp occurs

theorem inside (course : TriesEscapes a c label tried b) {entry : Nat × Bool} (member : entry ∈ tried) :
    entry.1 < a.text.length := (List.getElem?_eq_some_iff.mp (course.stands member)).1

theorem mem_earlier_iff (course : TriesEscapes a c label tried b)
    (split : tried = earlier ++ (p, recorded) :: later) {entry : Nat × Bool} :
    entry ∈ earlier ↔ entry ∈ tried ∧ entry.1 < p := by
  have ordered : tried.Pairwise fun x y => x.1 < y.1 := by
    rw [← List.pairwise_map, course.listed]
    exact Text.scan_increasing _ _ _ _
  rw [split] at ordered ⊢
  obtain ⟨_, behind, before⟩ := List.pairwise_append.mp ordered
  constructor
  · exact fun member => ⟨List.mem_append_left _ member, before entry member _ List.mem_cons_self⟩
  · rintro ⟨member, less⟩
    refine (List.mem_append.mp member).resolve_right fun last => ?_
    rcases List.mem_cons.mp last with rfl | last
    · exact Nat.lt_irrefl _ less
    · exact Nat.lt_asymm less ((List.pairwise_cons.mp behind).1 entry last)

theorem recorded_iff (course : TriesEscapes a c label tried b) (tested : (p, recorded) ∈ tried) :
    recorded = true ↔
      ∀ q, (q, true) ∈ tried → q < p → a.index.toGrapheme q + 2 ≤ a.index.toGrapheme p := by
  obtain ⟨earlier, later, split⟩ := List.append_of_mem tested
  have inside : p < a.text.length := course.inside tested
  have below : a.index.toGrapheme p < a.size := by
    rw [Annotator.size, course.index]
    exact GraphemeIndex.toGrapheme_lt_size inside
  rw [course.tries.recorded_iff split]
  simp only [escapeAt]
  constructor
  · intro apart q other before
    have := (apart (a.index.toGrapheme p) (Int.le_refl _) (by omega)).2 q
      ((course.mem_earlier_iff split).mpr ⟨other, before⟩)
    have ordered := GraphemeIndex.toGrapheme_mono (Nat.le_of_lt before) inside
    rw [← course.index] at ordered
    omega
  · intro behind i low high
    refine ⟨course.free i, fun q first => ?_⟩
    obtain ⟨other, before⟩ := (course.mem_earlier_iff split).mp first
    have := behind q other before
    omega

/-- A cluster with the character starts an escape exactly if the cluster before it does not. -/
theorem escapes_iff (course : TriesEscapes a c label tried b) :
    Escapes a tried g ↔ Holds a.text g c ∧ ∀ h, h + 1 = g → ¬ Escapes a tried h := by
  have ordered {p q : Nat} (le : p ≤ q) (inside : q < a.text.length) :
      a.index.toGrapheme p ≤ a.index.toGrapheme q := by
    rw [course.index]
    exact GraphemeIndex.toGrapheme_mono le inside
  constructor
  · rintro ⟨p, tested, here⟩
    have holds := GraphemeIndex.holds_toGrapheme (course.stands tested)
    rw [← course.index, here] at holds
    refine ⟨holds, ?_⟩
    rintro h rfl ⟨q, other, there⟩
    have before : q < p := by
      apply Nat.lt_of_not_le
      intro le
      have := ordered le (course.inside other)
      omega
    have := (course.recorded_iff tested).mp rfl q other before
    omega
  · rintro ⟨⟨p, here, low, high⟩, previous⟩
    have cluster : a.index.toGrapheme p = g := by
      rw [course.index]
      exact GraphemeIndex.toGrapheme_eq low high
    have occurs : p ∈ tried.map (·.1) := by
      rw [course.listed]
      exact Text.mem_occurrences_single.mpr here
    obtain ⟨⟨place, recorded⟩, tested, same⟩ := List.mem_map.mp occurs
    obtain rfl : place = p := same
    apply Classical.byContradiction
    intro missing
    -- Refused, it would follow an escape that starts with its own cluster or with the one before.
    have refused : recorded ≠ true := by
      rintro rfl
      exact missing ⟨place, tested, cluster⟩
    refine refused ((course.recorded_iff tested).mpr fun q other before => ?_)
    have le := ordered (Nat.le_of_lt before) (course.inside tested)
    obtain ⟨h, found⟩ := Int.eq_ofNat_of_zero_le (a.index.toGrapheme_nonneg q)
    have own : h ≠ g := by
      rintro rfl
      exact missing ⟨q, other, found⟩
    have next : h + 1 ≠ g := fun next => previous h next ⟨q, other, found⟩
    omega

/-- Escapes start with every other cluster of a row. -/
theorem escapes_iff_even (course : TriesEscapes a c label tried b) :
    Escapes a tried g ↔
      Holds a.text g c ∧ escapesBefore (Grapheme.split a.text) c g % 2 = 0 := by
  induction g with
  | zero =>
    rw [course.escapes_iff]
    simp [escapesBefore]
  | succ g ih =>
    rw [course.escapes_iff]
    simp only [Nat.add_right_cancel_iff, forall_eq, ih]
    refine and_congr_right fun holds => ?_
    have inside : g < (Grapheme.starts a.text).length := Nat.lt_of_succ_lt holds.lt
    rw [Grapheme.escapesBefore_succ (Grapheme.split_getElem? inside), Grapheme.holds_iff_mem]
    by_cases escape : c ∈ Grapheme.between a.text g (g + 1)
    · simp only [escape, true_and, if_true]
      omega
    · simp [escape]

theorem mem_marks_iff (course : TriesEscapes a c label tried b) (unmarked : a.marks.marks = [])
    {mark : Mark} : mark ∈ b.marks.marks ↔ ∃ g : Nat, Escapes a tried g ∧
      mark = ⟨g, min ((g : Int) + 2) a.size, label⟩ := by
  rw [course.tries.marks.mem_iff, unmarked, List.nil_append, Annotator.Tries.marksOver]
  simp only [List.mem_map, List.mem_filter, Prod.exists, escapeAt]
  constructor
  · rintro ⟨p, recorded, ⟨tested, rfl⟩, rfl⟩
    obtain ⟨g, here⟩ := Int.eq_ofNat_of_zero_le (a.index.toGrapheme_nonneg p)
    exact ⟨g, ⟨p, tested, here⟩, by rw [here]⟩
  · rintro ⟨g, ⟨p, tested, here⟩, rfl⟩
    exact ⟨p, true, ⟨tested, rfl⟩, by rw [here]⟩

end TriesEscapes

/-- On a text without marks, escapes are consumed in pairs. A search for an escape character and one cluster
more marks, of each row of clusters that have the character, the first, the third and so on. Each mark covers
its cluster and the next one, unless the text ends before. -/
theorem escapes_pairwise (handled : a.Handled) (unmarked : a.marks.marks = []) (config : Config)
    (label : String) (c : Char) :
    ∃ after : Annotator,
      (following [c] 1).run config a label = .ok (after, (after.marks.marks.length : Int)) ∧
      after = { a with marks := after.marks } ∧
      (∀ g : Nat, (∃ mark ∈ after.marks.marks, mark.start = g) ↔
        ∃ cluster, a.graphemes[g]? = some cluster ∧ c ∈ cluster ∧
          escapesBefore a.graphemes c g % 2 = 0) ∧
      ∀ mark ∈ after.marks.marks,
        0 ≤ mark.start ∧ mark.stop = min (mark.start + 2) a.size ∧ mark.label = label := by
  obtain ⟨slack, _, sound⟩ := handled.sound
  obtain ⟨after, tried, ran, course⟩ := run_escapes sound unmarked config label c
  have clusters : a.graphemes = Grapheme.split a.text := by
    rw [Annotator.graphemes, sound.index]
    rfl
  refine ⟨after, ?_, course.tries.same, fun g => ?_, fun mark member => ?_⟩
  · have length := course.tries.marks.length_eq
    rw [unmarked, List.nil_append, Annotator.Tries.marksOver, List.length_map,
      ← List.countP_eq_length_filter] at length
    rw [ran, length]
  · have starts : (∃ mark ∈ after.marks.marks, mark.start = g) ↔ Escapes a tried g := by
      constructor
      · rintro ⟨mark, member, start⟩
        obtain ⟨h, escapes, rfl⟩ := (course.mem_marks_iff unmarked).mp member
        rwa [Int.ofNat_inj.mp start] at escapes
      · intro escapes
        exact ⟨_, (course.mem_marks_iff unmarked).mpr ⟨g, escapes, rfl⟩, rfl⟩
    rw [starts, course.escapes_iff_even, Grapheme.holds_iff_split, clusters]
    simp only [exists_and_right, ← and_assoc]
  · obtain ⟨g, _, rfl⟩ := (course.mem_marks_iff unmarked).mp member
    exact ⟨Int.natCast_nonneg g, rfl, rfl⟩

def slashed : Annotator := .create {} "\\\\\\n\\\u0301a\\".toList (some false)

/-- The second backslash of the row is taken along by the first, and the last one has nothing to take. -/
theorem escapes_pairwise_slashed :
    slashed.Handled ∧ slashed.marks.marks = [] ∧
    ∃ after : Annotator, (following ['\\'] 1).run {} slashed "escape" = .ok (after, 4) ∧
      after.marks.marks =
        [⟨0, 2, "escape"⟩, ⟨2, 4, "escape"⟩, ⟨4, 6, "escape"⟩, ⟨6, 7, "escape"⟩] ∧
      ∀ g : Nat, (∃ mark ∈ after.marks.marks, mark.start = g) ↔
        ∃ cluster, slashed.graphemes[g]? = some cluster ∧ '\\' ∈ cluster ∧
          escapesBefore slashed.graphemes '\\' g % 2 = 0 := by
  have handled : slashed.Handled := .create {} _ _
  obtain ⟨after, ran, _, starts, _⟩ := @escapes_pairwise slashed handled rfl {} "escape" '\\'
  have evaluated : ((following ['\\'] 1).run {} slashed "escape").toOption.map (·.1.marks.marks) =
      some [⟨0, 2, "escape"⟩, ⟨2, 4, "escape"⟩, ⟨4, 6, "escape"⟩, ⟨6, 7, "escape"⟩] := by
    decide +kernel
  rw [ran] at evaluated
  have marks : after.marks.marks =
      [⟨0, 2, "escape"⟩, ⟨2, 4, "escape"⟩, ⟨4, 6, "escape"⟩, ⟨6, 7, "escape"⟩] := by
    simpa [Except.toOption] using evaluated
  exact ⟨handled, rfl, after, by rw [ran, marks]; rfl, marks, starts⟩

end Matcher

end Highlight
