import Highlight.Fragment
import Highlight.Proofs.Clusters
import Highlight.Proofs.History

/-! Rendering loses and duplicates nothing. The fragments are the marks and, under the default label,
the gaps between them, as the whole text would be filled if it were a region: so what is known of
filling gaps carries over. A run of tiles has the text from its start to its end, also where tiles lie
past the end of the text and have none. -/
namespace Highlight

namespace Region

variable {region : Mark} {cursor : Int} {marks : List Mark}

/-- Filled marks follow one another without a break, also where they reach past the region. -/
theorem exists_fillFrom_tiles {top : Int} (within : Within cursor top marks) :
    ∃ stop, cursor ≤ stop ∧ region.stop ≤ stop ∧ Tiles cursor (fillFrom region cursor marks) stop := by
  induction marks generalizing cursor with
  | nil =>
    simp only [fillFrom]
    split
    next short => exact ⟨region.stop, Int.le_of_lt short, Int.le_refl _, rfl, short, rfl⟩
    next reached => exact ⟨cursor, Int.le_refl _, by omega, rfl⟩
  | cons mark rest ih =>
    have here := within.bounds mark List.mem_cons_self
    obtain ⟨stop, low, past, tiling⟩ := ih within.tail
    refine ⟨stop, by omega, past, ?_⟩
    simp only [fillFrom]
    split
    next gap => exact ⟨rfl, gap, rfl, here.2.1, tiling⟩
    next => exact ⟨by omega, here.2.1, tiling⟩

theorem fillFrom_filter {p : Mark → Bool} (within : Within cursor region.stop marks)
    (marked : ∀ mark ∈ marks, p mark = true)
    (gaps : ∀ gap, IsGap ⟨cursor, region.stop, region.label⟩ marks gap → p gap = false) :
    (fillFrom region cursor marks).filter p = marks := by
  induction marks generalizing cursor with
  | nil =>
    simp only [fillFrom]
    split
    next short => simp [gaps _ (isGap_nil.mpr ⟨short, rfl⟩)]
    next => rfl
  | cons mark rest ih =>
    obtain ⟨here, later⟩ := List.forall_mem_cons.mp marked
    have tail := ih within.tail later fun gap isGap => gaps gap ((isGap_cons within).mpr (.inr isGap))
    simp only [fillFrom]
    split
    next short =>
      have skipped := gaps _ ((isGap_cons within).mpr (.inl ⟨short, rfl⟩))
      simp [skipped, here, tail]
    next => simp [here, tail]

end Region

namespace Fragment

variable {a : Annotator} {styles : StyleSheet} {options : Options}

def place (fragment : Fragment) : Mark := ⟨fragment.start, fragment.stop, fragment.label⟩

def ofMark (a : Annotator) (styles : StyleSheet) (options : Options) (mark : Mark) : Fragment :=
  ofRange a styles options mark.start mark.stop mark.label

@[simp] theorem place_ofMark (a : Annotator) (styles : StyleSheet) (options : Options) (mark : Mark) :
    (ofMark a styles options mark).place = mark := rfl

/-- The text as one region that carries the default label. -/
def document (a : Annotator) : Mark := ⟨0, a.size, defaultLabel⟩

theorem renderFrom_eq (cursor : Int) (marks : List Mark) :
    renderFrom a styles options cursor marks =
      (Region.fillFrom (document a) cursor marks).map (ofMark a styles options) := by
  induction marks generalizing cursor with
  | nil =>
    by_cases short : cursor < a.size
    · simp [renderFrom, Region.fillFrom, document, short, ofMark]
    · simp [renderFrom, Region.fillFrom, document, short]
  | cons mark rest ih =>
    by_cases gap : cursor < mark.start
    · simp [renderFrom, Region.fillFrom, gap, ih, ofMark, document]
    · simp [renderFrom, Region.fillFrom, gap, ih, ofMark]

theorem map_place_render (nonempty : a.text ≠ []) : (render a styles options).map place =
    Region.fillFrom (document a) 0 a.marks.marks := by
  simp [render, nonempty, renderFrom_eq, Function.comp_def]

theorem render_mem {fragment : Fragment} (member : fragment ∈ render a styles options) :
    fragment = ofMark a styles options fragment.place := by
  unfold render at member
  split at member
  · simp at member
  · rw [renderFrom_eq] at member
    obtain ⟨mark, _, rfl⟩ := List.mem_map.mp member
    rfl

theorem flatMap_slice (index : a.index = .ofText a.text) {start stop : Int} {tiles : List Mark}
    (nonneg : 0 ≤ start) (tiling : Tiles start tiles stop) :
    tiles.flatMap (fun tile => a.slice tile.start tile.stop) =
      Grapheme.between a.text start.toNat stop.toNat := by
  induction tiles generalizing start with
  | nil =>
    have same : start = stop := tiling
    simp [same, Grapheme.between]
  | cons tile rest ih =>
    obtain ⟨rfl, proper, next⟩ := tiling
    rw [List.flatMap_cons, ih (by omega) next,
      Annotator.slice_eq_between index nonneg (Int.le_of_lt proper)]
    have := next.le
    exact Grapheme.between_append (by omega) (by omega)

theorem flatMap_raw_render (nonempty : a.text ≠ []) : (render a styles options).flatMap raw =
    (Region.fillFrom (document a) 0 a.marks.marks).flatMap fun mark =>
      a.slice mark.start mark.stop := by
  simp [render, nonempty, renderFrom_eq, List.flatMap_map, ofMark, ofRange]

/-- Rendering loses and duplicates nothing, whatever marks the store has. The ranges of the fragments
follow one another from the first cluster on, and their texts make up the text. Where no mark reaches
past the end of a text, the fragments end with it, none is empty, the marks are among them once each,
in order and under the style of their label or else the default one, and all others are gaps between
marks. -/
theorem render_lossless (handled : a.Handled) (styles : StyleSheet) (options : Options) :
    (∃ stop, Tiles 0 ((render a styles options).map place) stop) ∧
    (render a styles options).flatMap raw = a.text ∧
    (a.text ≠ [] → (∀ mark ∈ a.marks.marks, mark.stop ≤ a.size) →
      Tiles 0 ((render a styles options).map place) a.size ∧
      ((render a styles options).map place).filter (fun place => place ∈ a.marks.marks) =
        a.marks.marks ∧
      ∀ fragment ∈ render a styles options, fragment.raw ≠ [] ∧
        fragment.raw = a.slice fragment.start fragment.stop ∧
        (∀ rule, styles.get? fragment.label = some rule → fragment.style = rule.attributes) ∧
        (styles.get? fragment.label = none → fragment.style = styles.fallback.attributes) ∧
        (fragment.place ∉ a.marks.marks →
          IsGap (document a) a.marks.marks fragment.place)) := by
  obtain ⟨slack, _, sound⟩ := handled.sound
  by_cases empty : a.text = []
  · have none : render a styles options = [] := by simp [render, empty]
    simp only [none]
    exact ⟨⟨0, rfl⟩, by simp [empty], fun some => absurd empty some⟩
  obtain ⟨stop, _, past, tiling⟩ := @Region.exists_fillFrom_tiles (document a) _ _ _ sound.within
  have size : a.size = (Grapheme.starts a.text).length := by
    rw [Annotator.size, sound.index, GraphemeIndex.size_ofText]
  refine ⟨⟨stop, by rw [map_place_render empty]; exact tiling⟩, ?_, fun _ inside => ?_⟩
  · rw [flatMap_raw_render empty, flatMap_slice sound.index (Int.le_refl 0) tiling]
    apply Grapheme.between_all
    simp only [document] at past
    omega
  · have within : Within 0 a.size a.marks.marks := by
      refine ⟨sound.marks.ordered, fun mark member => ?_⟩
      have proper := sound.marks.proper mark member
      exact ⟨proper.1, proper.2, inside mark member⟩
    have whole : Tiles 0 (Region.fillFrom (document a) 0 a.marks.marks) a.size :=
      @Region.fillFrom_tiles (document a) _ _ within (by simp only [document]; omega)
    rw [map_place_render empty]
    refine ⟨whole, ?_, fun fragment member => ?_⟩
    · apply @Region.fillFrom_filter (document a) _ _ _ within
      · simp
      · intro gap isGap
        simpa using isGap.not_mem
    · have placed : fragment.place ∈ Region.fillFrom (document a) 0 a.marks.marks := by
        rw [← map_place_render empty]
        exact List.mem_map_of_mem member
      have bounds : 0 ≤ fragment.start ∧ fragment.start < fragment.stop ∧ fragment.stop ≤ a.size :=
        whole.bounds placed
      have text : fragment.raw = a.slice fragment.start fragment.stop :=
        congrArg raw (render_mem member)
      have style : fragment.style = (styles.resolve fragment.label).attributes :=
        congrArg Fragment.style (render_mem member)
      refine ⟨?_, text, ?_, ?_, ?_⟩
      · rw [text, Annotator.slice_eq_between sound.index bounds.1 (by omega)]
        exact Grapheme.between_ne_nil (by omega) (by omega)
      · intro rule found
        simp [style, StyleSheet.resolve, found]
      · intro missing
        simp [style, StyleSheet.resolve, missing]
      · exact ((@Region.mem_fillFrom (document a) _ _ _ within).mp placed).resolve_left

/-- A text with a mark, after another one past its end was recorded and removed. -/
def noted : Annotator :=
  { Annotator.create {} "k=v".toList (some false) with
    marks := MarkStore.empty.run [.insert 1 2 "op", .insert 5 7 "late", .remove 5 7] }

theorem render_lossless_noted :
    noted.Handled ∧ noted.text ≠ [] ∧ (∀ mark ∈ noted.marks.marks, mark.stop ≤ noted.size) ∧
    (render noted .empty {}).flatMap raw = "k=v".toList ∧
    Tiles 0 ((render noted .empty {}).map place) 3 ∧
    ∀ fragment ∈ render noted .empty {}, fragment.raw ≠ [] := by
  have handled : noted.Handled := .edited (.create {} "k=v".toList (some false)) _
  have nonempty : noted.text ≠ [] := by decide
  have inside : ∀ mark ∈ noted.marks.marks, mark.stop ≤ noted.size := by decide +kernel
  obtain ⟨_, whole, rest⟩ := render_lossless handled .empty {}
  obtain ⟨tiling, _, fragments⟩ := rest nonempty inside
  exact ⟨handled, nonempty, inside, whole, tiling, fun fragment member => (fragments fragment member).1⟩

end Fragment

end Highlight
