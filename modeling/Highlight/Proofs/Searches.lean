import Highlight.Proofs.Clusters
import Highlight.Proofs.Soundness

/-! What searches mark. A new mark takes clusters that were free, and starts in the cluster where its
target stands. Of delimiters that open and close in turn, a recorded region holds none but those in
its first and last cluster: any other one would stand in a cluster that was free, and would have been
paired. -/
namespace Highlight

open Grapheme (starts startAt Holds)

namespace Text

variable {accept : Option Char → Text → Bool} {width : Nat}

theorem scan_bounds {before : Option Char} {position skip p : Nat} {text : Text}
    (member : p ∈ scan accept width before position skip text) :
    position ≤ p ∧ p < position + text.length ∧ ∃ left, accept left (text.drop (p - position)) = true := by
  have shift {position : Nat} {c : Char} {rest : Text}
      (found : position + 1 ≤ p ∧ p < position + 1 + rest.length ∧
        ∃ left, accept left (rest.drop (p - (position + 1))) = true) :
      position ≤ p ∧ p < position + (c :: rest).length ∧
        ∃ left, accept left ((c :: rest).drop (p - position)) = true := by
    obtain ⟨low, high, left, accepted⟩ := found
    refine ⟨by omega, by simp only [List.length_cons]; omega, left, ?_⟩
    rwa [show p - position = p - (position + 1) + 1 by omega, List.drop_succ_cons]
  fun_induction scan accept width before position skip text with
  | case1 => simp at member
  | case2 before position skip c rest ih => exact shift (ih member)
  | case3 before position c rest accepted ih =>
    rcases List.mem_cons.mp member with rfl | later
    · exact ⟨Nat.le_refl _, by simp, before, by simpa using accepted⟩
    · exact shift (ih later)
  | case4 before position c rest _ ih => exact shift (ih member)

theorem scan_increasing (before : Option Char) (position skip : Nat) (text : Text) :
    (scan accept width before position skip text).Pairwise (· < ·) := by
  fun_induction scan accept width before position skip text with
  | case1 => exact .nil
  | case2 _ _ _ _ _ ih => exact ih
  | case3 before position c rest _ ih =>
    refine List.pairwise_cons.mpr ⟨fun later member => ?_, ih⟩
    exact (scan_bounds member).1
  | case4 _ _ _ _ _ ih => exact ih

theorem stands_of_mem_occurrences {text target : Text} {p : Nat} (member : p ∈ text.occurrences target) :
    p < text.length ∧ target.isPrefixOf (text.drop p) = true := by
  obtain ⟨_, high, _, accepted⟩ := scan_bounds member
  exact ⟨by simpa using high, accepted⟩

theorem rest_eq_drop {text rest : Text} {c : Char} {position : Nat}
    (here : c :: rest = text.drop position) : rest = text.drop (position + 1) := by
  rw [← List.tail_drop, ← here]
  rfl

theorem head_of_isPrefixOf {text target : Text} {c : Char} {p : Nat}
    (found : (c :: target).isPrefixOf (text.drop p) = true) : text[p]? = some c := by
  obtain ⟨rest, same⟩ := List.isPrefixOf_iff_prefix.mp found
  rw [← List.head?_drop, ← same]
  rfl

theorem mem_occurrences_single {text : Text} {c : Char} {p : Nat} :
    p ∈ text.occurrences [c] ↔ text[p]? = some c := by
  constructor
  · intro member
    exact head_of_isPrefixOf (stands_of_mem_occurrences member).2
  · have found (before : Option Char) (position : Nat) (text : Text) {q : Nat}
        (here : text[q]? = some c) : position + q ∈
          scan (fun _ rest => [c].isPrefixOf rest) 1 before position 0 text := by
      induction text generalizing before position q with
      | nil => simp at here
      | cons d rest ih =>
        simp only [scan, List.isPrefixOf_cons_cons, List.isPrefixOf_nil_left, Bool.and_true, beq_iff_eq]
        cases q with
        | zero =>
          obtain rfl : d = c := by simpa using here
          simp
        | succ q =>
          have later := ih (some d) (position + 1) (by simpa using here)
          rw [show position + 1 + q = position + (q + 1) by omega] at later
          split
          · exact List.mem_cons_of_mem _ later
          · exact later
    intro here
    simpa [occurrences] using found none 0 text here

end Text

namespace GraphemeIndex

variable {text : Text} {p q : Nat} {c : Char}

theorem toGrapheme_nonneg (index : GraphemeIndex) (offset : Int) : 0 ≤ index.toGrapheme offset :=
  Int.le_max_right _ _

theorem toGrapheme_mono (le : p ≤ q) (inside : q < text.length) :
    (ofText text).toGrapheme p ≤ (ofText text).toGrapheme q := by
  obtain ⟨i, here⟩ := Int.eq_ofNat_of_zero_le ((ofText text).toGrapheme_nonneg p)
  have first : startAt text i ≤ p := (le_toGrapheme_iff (by omega)).mp (by omega)
  rw [here]
  exact (le_toGrapheme_iff inside).mpr (by omega)

theorem startAt_toGrapheme (inside : p < text.length) :
    startAt text ((ofText text).toGrapheme p).toNat ≤ p ∧
      p < startAt text (((ofText text).toGrapheme p).toNat + 1) := by
  obtain ⟨i, found⟩ := Int.eq_ofNat_of_zero_le ((ofText text).toGrapheme_nonneg p)
  rw [found, Int.toNat_natCast]
  refine ⟨(le_toGrapheme_iff inside).mp (by omega), Nat.lt_of_not_le fun later => ?_⟩
  have := (le_toGrapheme_iff inside).mpr later
  omega

theorem holds_toGrapheme (here : text[p]? = some c) :
    Holds text ((ofText text).toGrapheme p).toNat c :=
  ⟨p, here, startAt_toGrapheme (List.getElem?_eq_some_iff.mp here).1⟩

end GraphemeIndex

/-- Positions that are paired by rank follow each other: between the two of a pair there is none. -/
theorem Matcher.pairUp_gap {length : Nat} {positions : List Nat}
    (increasing : positions.Pairwise (· < ·)) (inside : ∀ p ∈ positions, p < length) {start stop : Nat}
    (member : (start, stop) ∈ pairUp 1 length positions) :
    start ∈ positions ∧ start < stop ∧ stop ≤ length ∧ ∀ p ∈ positions, p ≤ start ∨ stop ≤ p + 1 := by
  fun_induction pairUp 1 length positions with
  | case1 => simp at member
  | case2 only =>
    obtain ⟨rfl, rfl⟩ : start = only ∧ stop = length := by simpa using member
    have := inside start (by simp)
    simpa using this
  | case3 first second rest ih =>
    obtain ⟨low, high⟩ := List.pairwise_cons.mp increasing
    obtain ⟨middle, later⟩ := List.pairwise_cons.mp high
    have firstLow := low second (by simp)
    rcases List.mem_cons.mp member with pair | inRest
    · obtain ⟨rfl, rfl⟩ := Prod.mk.inj pair
      have := inside second (by simp)
      refine ⟨by simp, by omega, by omega, ?_⟩
      intro p inPositions
      simp only [List.mem_cons] at inPositions
      rcases inPositions with rfl | rfl | inRest
      · omega
      · omega
      · have := middle p inRest
        omega
    · obtain ⟨recorded, proper, bounded, gap⟩ := ih later
        (fun p inRest => inside p (by simp [inRest])) inRest
      refine ⟨by simp [recorded], proper, bounded, ?_⟩
      have after := middle start recorded
      intro p inPositions
      simp only [List.mem_cons] at inPositions
      rcases inPositions with rfl | rfl | inRest
      · omega
      · omega
      · exact gap p inRest

/-- A mark that an insertion adds takes clusters that were free. -/
theorem MarkStore.Sound.insert_new {store : MarkStore} (sound : store.Sound) {start stop : Int}
    {label : String} {mark : Mark} (member : mark ∈ (store.insert start stop label).1.marks) :
    mark ∈ store.marks ∨ (mark = ⟨start, stop, label⟩ ∧ store.anyTaken start stop = false) := by
  rcases sound.insert_cases start stop label with ⟨refused, _⟩ | ⟨_, _, free, _⟩
  · rw [refused] at member
    exact .inl member
  · exact (sound.mem_insert member).imp_right fun same => ⟨same, free⟩

theorem MarkStore.Sound.anyTaken_insert {store : MarkStore} (sound : store.Sound) {start stop : Int}
    {label : String} {low high : Int}
    (free : (store.insert start stop label).1.anyTaken low high = false) :
    store.anyTaken low high = false := by
  rcases sound.insert_cases start stop label with ⟨refused, _⟩ | ⟨_, _, _, _, _, _, _, _, placed⟩
  · rwa [refused] at free
  · rw [placed] at free
    exact anyTaken_eq_false_iff.mpr fun i member =>
      anyTaken_eq_false_iff.mp free i (List.mem_append_right _ member)

namespace Annotator

variable {slack : Int} {label : String} {a b : Annotator} {mark : Mark}

theorem Grows.mem_cases {n : Int} (grown : a.Grows slack label b n) (sound : a.marks.Sound)
    (member : mark ∈ b.marks.marks) :
    mark ∈ a.marks.marks ∨ (mark.label = label ∧ mark.stop ≤ max a.size slack) := by
  induction grown with
  | refl => exact .inl member
  | insert within _ ih =>
    rcases ih (sound.insert _ _ _) member with earlier | new
    · rcases sound.mem_insert earlier with old | rfl
      · exact .inl old
      · exact .inr ⟨rfl, within⟩
    · exact .inr new

/-- Ranges that are recorded were free from the start. -/
theorem record_mem {ranges : List (Int × Int)} (sound : a.marks.Sound)
    (member : mark ∈ (a.record label ranges).1.marks.marks) :
    mark ∈ a.marks.marks ∨ (mark.label = label ∧ (mark.start, mark.stop) ∈ ranges ∧
      a.marks.anyTaken mark.start mark.stop = false) := by
  induction ranges generalizing a with
  | nil => exact .inl member
  | cons range rest ih =>
    rcases ih (sound.insert range.1 range.2 label) member with earlier | ⟨named, inRest, free⟩
    · rcases sound.insert_new earlier with old | ⟨rfl, free⟩
      · exact .inl old
      · exact .inr ⟨rfl, List.mem_cons_self, free⟩
    · exact .inr ⟨named, List.mem_cons_of_mem _ inRest, sound.anyTaken_insert free⟩

end Annotator

/-- A mark starts in a cluster where a target stands. -/
def Annotator.Begins (a : Annotator) (target : Text) (mark : Mark) : Prop :=
  ∃ p : Nat, target.isPrefixOf (a.text.drop p) = true ∧ mark.start = a.index.toGrapheme p

theorem Annotator.Begins.holds {a : Annotator} {c : Char} {target : Text} {mark : Mark}
    (begins : a.Begins (c :: target) mark) (index : a.index = .ofText a.text) :
    Holds a.text mark.start.toNat c := by
  obtain ⟨p, found, start⟩ := begins
  rw [start, index]
  exact GraphemeIndex.holds_toGrapheme (Text.head_of_isPrefixOf found)

namespace Matcher

variable {slack : Int} {label : String} {a : Annotator} {mark : Mark}

/-- A region that is tried at an opener starts there, whether it is recorded or refused, and so do
those after it. -/
theorem markRaw_mem {opener : Text} {next : Annotator} {position : Nat} {stop : Int} {recorded : Bool}
    (sound : a.marks.Sound) (found : opener.isPrefixOf (a.text.drop position) = true)
    (marked : a.markRaw position stop label = (next, recorded)) :
    next.marks.Sound ∧ next.text = a.text ∧
      (mark ∈ next.marks.marks ∨ (mark.label = label ∧ next.Begins opener mark) →
        mark ∈ a.marks.marks ∨ (mark.label = label ∧ a.Begins opener mark)) := by
  obtain rfl : (a.insert (a.index.span position stop).1 (a.index.span position stop).2 label).1 = next :=
    congrArg Prod.fst marked
  refine ⟨sound.insert _ _ _, rfl, ?_⟩
  rintro (recorded | later)
  · refine (sound.mem_insert recorded).imp_right ?_
    rintro rfl
    exact ⟨rfl, position, found, GraphemeIndex.span_fst _ _ _⟩
  · exact .inr later

theorem pairing_mem {opener closer : Text} (position skip : Nat) {rest : Text}
    (here : rest = a.text.drop position) (sound : a.marks.Sound)
    (member : mark ∈ (pairing opener closer label a position skip rest).1.marks.marks) :
    mark ∈ a.marks.marks ∨ (mark.label = label ∧ a.Begins opener mark) := by
  fun_induction pairing opener closer label a position skip rest with
  | case1 => exact .inl member
  | case2 a position skip c rest ih => exact ih (Text.rest_eq_drop here) sound member
  | case3 a position c rest _ ih => exact ih (Text.rest_eq_drop here) sound member
  | case4 a position c rest _ _ ih => exact ih (Text.rest_eq_drop here) sound member
  | case5 a position c rest found _ _ after marked =>
    obtain ⟨_, _, back⟩ := markRaw_mem sound (by simpa [← here] using found) marked
    exact back (.inl member)
  | case6 a position c rest found _ _ after marked ih =>
    obtain ⟨afterSound, text, back⟩ := markRaw_mem sound (by simpa [← here] using found) marked
    exact back (ih (by rw [text]; exact Text.rest_eq_drop here) afterSound member)
  | case7 a position c rest found _ _ _ stop after marked last count done ih =>
    obtain ⟨afterSound, text, back⟩ := markRaw_mem sound (by simpa [← here] using found) marked
    rw [done] at ih
    exact back (ih (by rw [text]; exact Text.rest_eq_drop here) afterSound member)
  | case8 a position c rest found _ _ _ stop after marked ih =>
    obtain ⟨afterSound, text, back⟩ := markRaw_mem sound (by simpa [← here] using found) marked
    exact back (ih (by rw [text]; exact Text.rest_eq_drop here) afterSound member)

theorem mark_between_mem {config : Config} {opener closer : Text} (sound : a.marks.Sound)
    (member : mark ∈ ((between opener (some closer)).mark config a label).1.marks.marks) :
    mark ∈ a.marks.marks ∨ (mark.label = label ∧ a.Begins opener mark) :=
  pairing_mem 0 0 rfl sound member

theorem widen_fst (index : GraphemeIndex) (start stop : Nat) (right : Int) :
    (widen index start stop 0 right).1 = index.toGrapheme start := by
  have nonneg := index.toGrapheme_nonneg start
  simp only [widen, GraphemeIndex.span_fst]
  split
  · rfl
  · simp only
    omega

theorem mark_after_mem {config : Config} {target : Text} {delimiters : List Text} {right : Int}
    (sound : a.marks.Sound)
    (member : mark ∈ ((after target delimiters 0 right).mark config a label).1.marks.marks) :
    mark ∈ a.marks.marks ∨ (mark.label = label ∧ a.Begins target mark) := by
  refine (Annotator.record_mem sound member).imp_right ?_
  rintro ⟨named, inRegions, _⟩
  obtain ⟨p, occurs, placed⟩ := List.mem_map.mp inRegions
  refine ⟨named, p, (Text.stands_of_mem_occurrences occurs).2, ?_⟩
  rw [← widen_fst a.index p _ right]
  exact (congrArg Prod.fst placed).symm

/-- Where a character opens and closes regions in turn, a recorded region has one in its first cluster
and none but there and in its last. -/
theorem mark_alternating_mem {config : Config} {c : Char} (sound : a.Sound slack)
    (member : mark ∈ ((between [c] none).mark config a label).1.marks.marks) :
    mark ∈ a.marks.marks ∨ (mark.label = label ∧ Holds a.text mark.start.toNat c ∧
      ∀ i : Nat, mark.start ≤ i → i < mark.stop → Holds a.text i c →
        (i : Int) = mark.start ∨ (i : Int) + 1 = mark.stop) := by
  refine (Annotator.record_mem sound.marks member).imp_right ?_
  rintro ⟨named, inRegions, free⟩
  obtain ⟨⟨first, last⟩, paired, placed⟩ := List.mem_map.mp inRegions
  simp only [List.length_singleton] at paired
  have increasing : ((a.text.occurrences [c]).filter fun p : Nat =>
      !a.marks.isTaken (a.index.toGrapheme p)).Pairwise (· < ·) :=
    (Text.scan_increasing _ _ _ _).filter _
  have inside : ∀ p ∈ (a.text.occurrences [c]).filter fun p : Nat =>
      !a.marks.isTaken (a.index.toGrapheme p), p < a.text.length := fun p occurs =>
    (Text.stands_of_mem_occurrences (List.mem_filter.mp occurs).1).1
  obtain ⟨opens, proper, bounded, gap⟩ := pairUp_gap increasing inside paired
  have here := Text.mem_occurrences_single.mp (List.mem_filter.mp opens).1
  have start : mark.start = a.index.toGrapheme first :=
    (congrArg Prod.fst placed).symm.trans (GraphemeIndex.span_fst _ _ _)
  have stop : mark.stop = a.index.toGrapheme ((last - 1 : Nat) : Int) + 1 := by
    have := (congrArg Prod.snd placed).symm
    simp only [GraphemeIndex.span, show ¬ (last : Int) ≤ first by omega, ↓reduceIte] at this
    rw [this, show ((last - 1 : Nat) : Int) = (last : Int) - 1 by omega]
  rw [sound.index] at start stop
  refine ⟨named, start ▸ GraphemeIndex.holds_toGrapheme here, fun i low high holds => ?_⟩
  obtain ⟨p, atP, lowP, highP⟩ := holds
  have cluster := GraphemeIndex.toGrapheme_eq lowP highP
  have within : p < a.text.length := (List.getElem?_eq_some_iff.mp atP).1
  have taken : a.marks.isTaken i = false := by
    simp only [MarkStore.isTaken, List.contains_eq_mem, decide_eq_false_iff_not]
    exact fun inTaken => MarkStore.anyTaken_eq_false_iff.mp free i inTaken ⟨low, high⟩
  have listed := gap p (List.mem_filter.mpr ⟨Text.mem_occurrences_single.mpr atP, by
    rw [sound.index, cluster, taken]
    rfl⟩)
  rcases listed with before | behind
  · have := @GraphemeIndex.toGrapheme_mono a.text p first before (by omega)
    omega
  · have := @GraphemeIndex.toGrapheme_mono a.text (last - 1) p (by omega) within
    omega

end Matcher

end Highlight
