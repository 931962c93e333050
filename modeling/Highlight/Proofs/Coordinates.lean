import Highlight.Proofs.Intervals
import Highlight.Proofs.Searches

/-! Raw positions and cluster positions. Looking a raw position up and asking for the raw range of a
cluster are inverse to each other, and the clusters over a raw range are the fewest that cover it. The
clusters of a text, listed one by one, make it up, and any slice is the run of them between its
clamped bounds. A raw range may lie anywhere; where there are clusters at all, what is marked for it lies
inside the text. -/
namespace Highlight

open Grapheme (startAt startAt_lt startAt_zero between)

namespace GraphemeIndex

variable {text : Text}

theorem toRaw_ofText (text : Text) (start stop : Int) :
    (ofText text).toRaw start stop =
      ((startAt text start.toNat : Int), (startAt text (max start stop).toNat : Int)) := by
  have nonneg : (ofText text).toRaw start stop =
      (ofText text).toRaw (max start 0) (max stop (max start 0)) := by
    have low : min (max (max start 0) 0) (ofText text).size = min (max start 0) (ofText text).size := by
      omega
    have high : min (max (max stop (max start 0)) (min (max start 0) (ofText text).size))
          (ofText text).size =
        min (max stop (min (max start 0) (ofText text).size)) (ofText text).size := by
      omega
    simp only [toRaw, clamp, low, high]
  have first : (max start 0).toNat = start.toNat := by omega
  have last : (max stop (max start 0)).toNat = (max start stop).toNat := by omega
  rw [nonneg, toRaw_of_le (by omega) (by omega), first, last]

/-- A range of clusters whose raw range contains another raw range. -/
def Covers (index : GraphemeIndex) (range : Int × Int) (rawStart rawStop : Int) : Prop :=
  (index.toRaw range.1 range.2).1 ≤ rawStart ∧ rawStop ≤ (index.toRaw range.1 range.2).2

/-- The narrowest range of clusters over a raw range: it is a range of the index, covers the raw range,
and is contained in every other that does. -/
structure IsNarrowest (index : GraphemeIndex) (rawStart rawStop : Int) (range : Int × Int) : Prop where
  nonneg : 0 ≤ range.1
  proper : range.1 < range.2
  within : range.2 ≤ index.size
  covers : index.Covers range rawStart rawStop
  least : ∀ start stop, index.Covers (start, stop) rawStart rawStop →
    start ≤ range.1 ∧ range.2 ≤ stop

theorem toGrapheme_eq_iff {p : Nat} (inside : p < text.length) (g : Int) :
    (ofText text).toGrapheme p = g ↔
      ((ofText text).toRaw g (g + 1)).1 ≤ p ∧ (p : Int) < ((ofText text).toRaw g (g + 1)).2 := by
  rw [toRaw_ofText]
  have nonneg := (ofText text).toGrapheme_nonneg p
  by_cases negative : g < 0
  · have none : (max g (g + 1)).toNat = 0 := by omega
    simp only [none, startAt_zero]
    omega
  · obtain ⟨i, rfl⟩ := Int.eq_ofNat_of_zero_le (show 0 ≤ g by omega)
    have here := @le_toGrapheme_iff text p i inside
    have next := @le_toGrapheme_iff text p (i + 1) inside
    have bound : (max (i : Int) (i + 1)).toNat = i + 1 := by omega
    simp only [bound, Int.toNat_natCast]
    omega

/-- The clusters over a raw range, told by where clusters start: the first bound is the last cluster that
starts at or before the range, the second the first one that starts at or after its end. -/
theorem span_bounds {a b : Nat} (proper : a < b) (inside : b ≤ text.length) :
    ∃ s e : Nat, (ofText text).span a b = ((s : Int), (e : Int)) ∧ s < e ∧
      e ≤ (Grapheme.starts text).length ∧ (∀ i, i ≤ s ↔ startAt text i ≤ a) ∧
      ∀ i, e ≤ i ↔ b ≤ startAt text i := by
  have clusters : (ofText text).starts ≠ [] := by
    have nonempty : text ≠ [] := List.ne_nil_of_length_pos (by omega)
    simpa [ofText] using nonempty
  -- The range ends with the cluster of its last character, which need not end there.
  obtain ⟨s, first⟩ := Int.eq_ofNat_of_zero_le ((ofText text).toGrapheme_nonneg a)
  obtain ⟨e, last⟩ := Int.eq_ofNat_of_zero_le ((ofText text).toGrapheme_nonneg ((b - 1 : Nat) : Int))
  have ordered := @toGrapheme_mono text a (b - 1) (by omega) (by omega)
  have below := (ofText text).toGrapheme_lt clusters ((b - 1 : Nat) : Int)
  rw [first, last] at ordered
  rw [last, size_ofText] at below
  refine ⟨s, e + 1, ?_, by omega, by omega, fun i => ?_, fun i => ?_⟩
  · have nonempty : ¬ (b : Int) ≤ a := by omega
    have before : (b : Int) - 1 = ((b - 1 : Nat) : Int) := by omega
    simp only [span, nonempty, if_false, before, first, last]
    rfl
  · rw [← le_toGrapheme_iff (by omega), first, Int.ofNat_le]
  · have here := @le_toGrapheme_iff text (b - 1) i (by omega)
    rw [last] at here
    omega

theorem span_isNarrowest {a b : Nat} (proper : a < b) (inside : b ≤ text.length) :
    (ofText text).IsNarrowest a b ((ofText text).span a b) := by
  obtain ⟨s, e, range, ordered, within, atStart, atStop⟩ := span_bounds proper inside
  rw [range]
  constructor
  · exact Int.natCast_nonneg s
  · exact Int.ofNat_lt.mpr ordered
  · rw [size_ofText]
    exact Int.ofNat_le.mpr within
  · have start := (atStart s).mp (Nat.le_refl s)
    have stop := (atStop e).mp (Nat.le_refl e)
    simp only [Covers, toRaw_of_le (Int.natCast_nonneg s) (Int.ofNat_le.mpr (Nat.le_of_lt ordered)),
      Int.toNat_natCast]
    omega
  · intro start stop covers
    simp only [Covers, toRaw_ofText] at covers
    have low := (atStart start.toNat).mpr (by omega)
    have high := (atStop (max start stop).toNat).mpr (by omega)
    simp only
    omega

theorem toGrapheme_mem_span {a b p : Nat} (low : a ≤ p) (high : p < b) (inside : b ≤ text.length) :
    ((ofText text).span a b).1 ≤ (ofText text).toGrapheme p ∧
      (ofText text).toGrapheme p < ((ofText text).span a b).2 := by
  obtain ⟨s, e, range, _, _, atStart, atStop⟩ := @span_bounds text a b (by omega) inside
  have start := (atStart s).mp (Nat.le_refl s)
  have stop := (atStop e).mp (Nat.le_refl e)
  have first := (@le_toGrapheme_iff text p s (by omega)).mpr (by omega)
  have last := mt (@le_toGrapheme_iff text p e (by omega)).mp (by omega)
  rw [range]
  exact ⟨first, Int.lt_of_not_ge last⟩

theorem span_toRaw {s e : Nat} (proper : s < e) (within : e ≤ (Grapheme.starts text).length) :
    (ofText text).span ((ofText text).toRaw s e).1 ((ofText text).toRaw s e).2 = ((s : Int), (e : Int)) := by
  have first := @startAt_lt text s e proper (by omega)
  have last := @startAt_lt text (e - 1) e (by omega) (by omega)
  have start : (ofText text).toGrapheme (startAt text s) = s :=
    toGrapheme_eq (Nat.le_refl _) (startAt_lt (Nat.lt_succ_self s) (by omega))
  have stop : (ofText text).toGrapheme ((startAt text e - 1 : Nat) : Int) = (e - 1 : Nat) :=
    toGrapheme_eq (by omega) (by rw [Nat.sub_add_cancel (by omega)]; omega)
  have nonempty : ¬ (startAt text e : Int) ≤ startAt text s := by omega
  have before : (startAt text e : Int) - 1 = ((startAt text e - 1 : Nat) : Int) := by omega
  rw [toRaw_of_le (by omega) (by omega)]
  simp only [Int.toNat_natCast, span, nonempty, if_false, start, before, stop, Prod.mk.injEq, true_and]
  omega

/-- Coordinates convert exactly: a raw position lies in the one cluster that it is looked up to, the
clusters over a raw range are the narrowest ones, and whole clusters come back as they were. -/
theorem conversion_exact (text : Text) :
    (∀ o g : Int, 0 ≤ o → o < text.length →
      ((ofText text).toGrapheme o = g ↔
        ((ofText text).toRaw g (g + 1)).1 ≤ o ∧ o < ((ofText text).toRaw g (g + 1)).2)) ∧
    (∀ a b : Int, 0 ≤ a → a < b → b ≤ text.length →
      (ofText text).IsNarrowest a b ((ofText text).span a b)) ∧
    (∀ s e : Int, 0 ≤ s → s < e → e ≤ (ofText text).size →
      (ofText text).span ((ofText text).toRaw s e).1 ((ofText text).toRaw s e).2 = (s, e)) := by
  refine ⟨fun o g nonneg inside => ?_, fun a b nonneg proper inside => ?_,
    fun s e nonneg proper within => ?_⟩
  · obtain ⟨p, rfl⟩ := Int.eq_ofNat_of_zero_le nonneg
    exact toGrapheme_eq_iff (by omega) g
  · obtain ⟨a, rfl⟩ := Int.eq_ofNat_of_zero_le nonneg
    obtain ⟨b, rfl⟩ := Int.eq_ofNat_of_zero_le (show 0 ≤ b by omega)
    exact span_isNarrowest (by omega) (by omega)
  · obtain ⟨s, rfl⟩ := Int.eq_ofNat_of_zero_le nonneg
    obtain ⟨e, rfl⟩ := Int.eq_ofNat_of_zero_le (show 0 ≤ e by omega)
    rw [size_ofText] at within
    exact span_toRaw (by omega) (by omega)

def flagged : Text := "a🇩🇪🇫🇷".toList

/-- The raw range from the middle of one flag to the middle of the next. -/
theorem conversion_exact_flagged :
    (0 ≤ (2 : Int) ∧ (2 : Int) < 4 ∧ (4 : Int) ≤ flagged.length) ∧
      (ofText flagged).IsNarrowest 2 4 (1, 3) ∧
      (ofText flagged).span ((ofText flagged).toRaw 1 3).1 ((ofText flagged).toRaw 1 3).2 = (1, 3) := by
  have inside : (0 ≤ (2 : Int) ∧ (2 : Int) < 4 ∧ (4 : Int) ≤ flagged.length) ∧
      (ofText flagged).span 2 4 = (1, 3) ∧ 3 ≤ (ofText flagged).size := by decide +kernel
  obtain ⟨⟨nonneg, proper, bound⟩, range, within⟩ := inside
  obtain ⟨_, narrowest, back⟩ := conversion_exact flagged
  refine ⟨⟨nonneg, proper, bound⟩, ?_, back 1 3 (by omega) (by omega) within⟩
  rw [← range]
  exact narrowest 2 4 nonneg proper bound

end GraphemeIndex

namespace Grapheme

variable {text : Text}

theorem cut_cons (text : Text) (start : Int) (rest : List Int) :
    cut text (start :: rest) = text.slice start (rest.head?.getD text.length) :: cut text rest := by
  cases rest <;> rfl

theorem cut_drop (text : Text) {i count : Nat} (all : i + count = (starts text).length) :
    cut text (((starts text).drop i).map Int.ofNat) =
      (List.range' i count).map fun k => between text k (k + 1) := by
  induction count generalizing i with
  | zero =>
    rw [List.drop_eq_nil_of_le (by omega)]
    rfl
  | succ count ih =>
    have within : i < (starts text).length := by omega
    have here : Int.ofNat (starts text)[i] = startAt text i := by simp [startAt, within]
    have next : ((((starts text).drop (i + 1)).map Int.ofNat).head?).getD (text.length : Int) =
        startAt text (i + 1) := by
      rw [List.head?_map, List.head?_drop, startAt]
      cases (starts text)[i + 1]? <;> rfl
    rw [List.drop_eq_getElem_cons within, List.map_cons, cut_cons, here, next, slice_startAt,
      ih (by omega), List.range'_succ]
    rfl

theorem split_eq (text : Text) :
    split text = (List.range (starts text).length).map fun i => between text i (i + 1) := by
  rw [List.range_eq_range', ← cut_drop text (Nat.zero_add _)]
  rfl

theorem flatten_between (i count : Nat) :
    ((List.range' i count).map fun k => between text k (k + 1)).flatten = between text i (i + count) := by
  induction count generalizing i with
  | zero => simp [between]
  | succ count ih =>
    rw [List.range'_succ, List.map_cons, List.flatten_cons, ih,
      between_append (Nat.le_succ i) (Nat.le_add_right (i + 1) count)]
    congr 1
    omega

/-- Those of the clusters whose numbers lie in a range that is cut down to the list. -/
def pick (clusters : List Text) (start stop : Int) : List Text :=
  let low := min (max start 0) clusters.length
  let high := min (max stop low) clusters.length
  (clusters.take high.toNat).drop low.toNat

theorem flatten_pick (text : Text) (start stop : Int) :
    (pick (split text) start stop).flatten = between text start.toNat (max start stop).toNat := by
  have length : (split text).length = (starts text).length := by simp [split_eq]
  have low : (min (max start 0) (starts text).length).toNat = min start.toNat (starts text).length := by
    omega
  have high : (min (max stop (min (max start 0) (starts text).length)) (starts text).length).toNat =
      min (max start stop).toNat (starts text).length := by
    omega
  have run : min start.toNat (starts text).length +
      (min (max start stop).toNat (starts text).length - min start.toNat (starts text).length) =
      min (max start stop).toNat (starts text).length := by
    omega
  simp only [pick, length, low, high]
  rw [split_eq, ← List.map_take, ← List.map_drop, List.take_range, Nat.min_assoc, Nat.min_self,
    List.range_eq_range', List.drop_range', Nat.zero_add, Nat.mul_one, flatten_between, run]
  simp only [between, startAt_min]

end Grapheme

namespace Annotator

/-- All views of the clusters agree. An annotator, at whatever level, lists the clusters that its text is
split into; they make up the text, and its slices are runs of them. -/
theorem clusters_agree {a : Annotator} (reached : a.Reached) :
    a.graphemes = Grapheme.split a.text ∧ (∀ cluster ∈ a.graphemes, cluster ≠ []) ∧
    a.graphemes.flatten = a.text ∧ (a.graphemes.length : Int) = a.size ∧
    ∀ start stop, a.slice start stop = (Grapheme.pick a.graphemes start stop).flatten := by
  have index := reached.sound.index
  have same : a.graphemes = Grapheme.split a.text := by
    rw [graphemes, index]
    rfl
  rw [same]
  refine ⟨rfl, ?_, ?_, ?_, ?_⟩
  · intro cluster member
    rw [Grapheme.split_eq] at member
    obtain ⟨i, inside, rfl⟩ := List.mem_map.mp member
    exact Grapheme.between_ne_nil (Nat.lt_succ_self i) (List.mem_range.mp inside)
  · rw [Grapheme.split_eq, List.range_eq_range', Grapheme.flatten_between]
    exact Grapheme.between_all a.text (by omega)
  · rw [Grapheme.split_eq, size, index, GraphemeIndex.size_ofText]
    simp
  · intro start stop
    rw [Grapheme.flatten_pick]
    simp only [slice, index, GraphemeIndex.toRaw_ofText, Grapheme.slice_startAt]

def enterFlags : Program Unit :=
  .call (.mark (.int 1) (.int 3) "flags") fun _ => .rescan "flags" none (.done ()) fun _ => .done ()

def flags : Annotator := (create {} "a🇩🇪🇫🇷".toList (some false)).child 1 3

theorem clusters_agree_flags :
    flags.Reached ∧ flags.graphemes = ["🇩🇪".toList, "🇫🇷".toList] ∧
      flags.slice (-1) 9 = (Grapheme.pick flags.graphemes (-1) 9).flatten := by
  have member : flags ∈ enterFlags.annotators
      { annotator := create {} "a🇩🇪🇫🇷".toList (some false) } := by decide +kernel
  have reached : flags.Reached := .during enterFlags (.create {} _ _) member
  have views := clusters_agree reached
  have listed : Grapheme.split flags.text = ["🇩🇪".toList, "🇫🇷".toList] := by decide +kernel
  exact ⟨reached, views.1.trans listed, views.2.2.2.2 (-1) 9⟩

end Annotator

theorem GraphemeIndex.toGrapheme_nil {index : GraphemeIndex} (empty : index.starts = []) (offset : Int) :
    index.toGrapheme offset = 0 := by
  simp only [toGrapheme, empty, List.length_nil, search]
  rfl

namespace Position

theorem cluster_int (index : GraphemeIndex) (offset : Int) :
    cluster index (.int offset) = .ok (index.toGrapheme offset) := by
  rw [cluster]
  split
  next empty => rw [index.toGrapheme_nil (by simpa using empty)]
  next => simp [Datum.floor?, Datum.ratio?, Datum.toInt?]

theorem span_int (index : GraphemeIndex) (start stop : Int) :
    span index (.int start) (.int stop) = .ok (index.span start stop) := by
  have compared : isAtMost (.int stop) (.int start) = .ok (decide (stop ≤ start)) := by
    simp [isAtMost, Datum.isAtMost?, Datum.ratio?, Datum.toInt?]
  have before : shift (-1) (.int stop) = .ok (.int (stop - 1)) := rfl
  simp only [span, cluster_int, compared, before, bind, Except.bind, GraphemeIndex.span]
  by_cases empty : stop ≤ start <;> simp [empty, pure, Except.pure]

end Position

namespace Call

theorem attempt_markRaw (start stop : Int) (label : String) (desk : Desk) :
    (Call.markRaw (.int start) (.int stop) label).run.attempt desk =
      (.ok (.flag (desk.annotator.markRaw start stop label).2),
        { desk with annotator := (desk.annotator.markRaw start stop label).1 }) := by
  simp only [Call.run, Session.Op.run, Work.attempt_bind, Work.attempt_get, Work.attempt_lift,
    Position.span_int]
  rfl

/-- Wherever a raw range lies, a mark that is recorded for it starts at 0 or later and is not empty. It ends
inside the text exactly if the text is not empty; an empty text gets a mark over a cluster that it has not. -/
theorem markRaw_inside_iff {desk after : Desk} (reached : desk.annotator.Reached) {start stop : Int}
    {label : String} (recorded : (Call.markRaw (.int start) (.int stop) label).run.attempt desk =
      (.ok (.flag true), after)) :
    ∃ mark : Mark, after.annotator.marks.marks.Perm (mark :: desk.annotator.marks.marks) ∧
      mark.label = label ∧ 0 ≤ mark.start ∧ mark.start < mark.stop ∧
      (mark.stop ≤ desk.annotator.size ↔ desk.annotator.text ≠ []) ∧
      (desk.annotator.text = [] → mark = ⟨0, 1, label⟩) := by
  have sound := reached.sound
  rw [attempt_markRaw] at recorded
  obtain ⟨flag, rfl⟩ := Prod.mk.inj recorded
  have accepted : (desk.annotator.markRaw start stop label).2 = true := by simpa using flag
  have inserts := sound.marks.inserts (desk.annotator.index.span start stop).1
    (desk.annotator.index.span start stop).2 label
  obtain ⟨nonneg, proper, _⟩ := inserts.accepted.mp accepted
  refine ⟨_, (inserts.added accepted).1, rfl, nonneg, proper, ⟨fun inside empty => ?_, fun nonempty => ?_⟩,
    fun empty => ?_⟩
  · have noSize : desk.annotator.size = 0 := by
      simp [Annotator.size, GraphemeIndex.size, sound.index, GraphemeIndex.ofText, empty]
    omega
  · exact GraphemeIndex.span_le (sound.starts_ne_nil nonempty) start stop
  · have noClusters : desk.annotator.index.starts = [] := by
      simp [sound.index, GraphemeIndex.ofText, empty]
    simp only [GraphemeIndex.span, GraphemeIndex.toGrapheme_nil noClusters] at proper ⊢
    by_cases backwards : stop ≤ start
    · simp [backwards] at proper
    · simp [backwards]

def letters : Desk := { annotator := .create {} "abc".toList (some false) }

theorem markRaw_inside_behind :
    letters.annotator.Reached ∧ ∃ after,
      (Call.markRaw (.int 7) (.int 9) "end").run.attempt letters = (.ok (.flag true), after) ∧
      ∃ mark : Mark, after.annotator.marks.marks.Perm [mark] ∧ 0 ≤ mark.start ∧ mark.start < mark.stop ∧
        mark.stop ≤ letters.annotator.size := by
  have reached : letters.annotator.Reached := .create {} _ _
  have marked : letters.annotator.text ≠ [] ∧ (letters.annotator.markRaw 7 9 "end").2 = true := by
    decide +kernel
  have recorded := attempt_markRaw 7 9 "end" letters
  rw [marked.2] at recorded
  obtain ⟨mark, added, _, nonneg, proper, inside, _⟩ := markRaw_inside_iff reached recorded
  exact ⟨reached, _, recorded, mark, added, nonneg, proper, inside.mpr marked.1⟩

def blank : Desk := { annotator := .create {} [] (some false) }

/-- One cluster of a text without clusters is marked. -/
theorem markRaw_inside_blank :
    blank.annotator.Reached ∧ blank.annotator.size = 0 ∧ ∃ after,
      (Call.markRaw (.int 0) (.int 1) "name").run.attempt blank = (.ok (.flag true), after) ∧
      after.annotator.marks.marks = [⟨0, 1, "name"⟩] :=
  ⟨.create {} _ _, rfl, _, attempt_markRaw 0 1 "name" blank, rfl⟩

end Call

end Highlight
