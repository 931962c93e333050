import Highlight.Mark.Store
import Highlight.Proofs.Order

/-! The mark store as a set of disjoint ranges. `Sound` is what every history keeps: the marks stand
in document order without overlap, and the taken clusters are those they cover. An insertion splits
the marks into those before and those after the new one; a replacement puts tiles where the replaced
mark stood. -/
namespace Highlight

namespace Mark

theorem precedes_of_before {a b : Mark} (proper : a.start < a.stop) (before : a.stop ≤ b.start) :
    a.precedes b = true := by
  have : a.start < b.start := by omega
  simp [precedes, this]

theorem not_precedes_of_before {a b : Mark} (proper : a.start < a.stop)
    (before : a.stop ≤ b.start) : b.precedes a = false := by
  have below : ¬ b.start < a.start := by omega
  have apart : b.start ≠ a.start := by omega
  simp [precedes, below, apart]

end Mark

/-- Tiles lead from one position to another, none empty, each starting where the last one ends. -/
def Tiles : (start : Int) → List Mark → (stop : Int) → Prop
  | start, [], stop => start = stop
  | start, tile :: rest, stop => tile.start = start ∧ tile.start < tile.stop ∧
      Tiles tile.stop rest stop

namespace Tiles

theorem le {start stop : Int} {tiles : List Mark} (tiling : Tiles start tiles stop) :
    start ≤ stop := by
  induction tiles generalizing start with
  | nil => exact Int.le_of_eq tiling
  | cons tile rest ih =>
    obtain ⟨here, proper, next⟩ := tiling
    have := ih next
    omega

theorem bounds {start stop : Int} {tiles : List Mark} (tiling : Tiles start tiles stop)
    {tile : Mark} (member : tile ∈ tiles) :
    start ≤ tile.start ∧ tile.start < tile.stop ∧ tile.stop ≤ stop := by
  induction tiles generalizing start with
  | nil => simp at member
  | cons head rest ih =>
    obtain ⟨here, proper, next⟩ := tiling
    rcases List.mem_cons.mp member with rfl | later
    · have := next.le
      omega
    · have := ih next later
      omega

theorem ordered {start stop : Int} {tiles : List Mark} (tiling : Tiles start tiles stop) :
    tiles.Pairwise fun a b => a.stop ≤ b.start := by
  induction tiles generalizing start with
  | nil => simp
  | cons head rest ih =>
    obtain ⟨_, _, next⟩ := tiling
    exact List.pairwise_cons.mpr ⟨fun tile member => (next.bounds member).1, ih next⟩

theorem sorted {start stop : Int} {tiles : List Mark} (tiling : Tiles start tiles stop) :
    Order.sort Mark.precedes tiles = tiles := by
  rw [Order.sort_eq_insertionSort]
  apply List.Pairwise.insertionSort_eq
  apply tiling.ordered.imp_of_mem
  intro a b first _ before
  exact Mark.not_precedes_of_before (tiling.bounds first).2.1 before

theorem covers_iff {start stop : Int} {tiles : List Mark} (tiling : Tiles start tiles stop)
    (i : Int) : (∃ tile ∈ tiles, tile.start ≤ i ∧ i < tile.stop) ↔ start ≤ i ∧ i < stop := by
  induction tiles generalizing start with
  | nil =>
    have : start = stop := tiling
    simp
    omega
  | cons head rest ih =>
    obtain ⟨here, proper, next⟩ := tiling
    have := next.le
    simp only [List.mem_cons, exists_eq_or_imp, ih next]
    omega

end Tiles

namespace MarkStore

theorem sweep_eq_ok_iff {mark : Mark} {cursor : Int} {tiles : List Mark} :
    sweep mark cursor tiles = .ok () ↔ Tiles cursor tiles mark.stop := by
  induction tiles generalizing cursor with
  | nil => simp only [sweep, Tiles]; split <;> simp_all
  | cons tile rest ih =>
    simp only [sweep, Tiles]
    split
    · simp; omega
    · rw [ih]; constructor
      · intro tiling; exact ⟨by omega, by omega, tiling⟩
      · intro tiling; exact tiling.2.2

structure Sound (store : MarkStore) : Prop where
  ordered : store.marks.Pairwise fun a b => a.stop ≤ b.start
  proper : ∀ mark ∈ store.marks, 0 ≤ mark.start ∧ mark.start < mark.stop
  taken : ∀ i, i ∈ store.taken ↔ ∃ mark ∈ store.marks, mark.start ≤ i ∧ i < mark.stop
  distinct : store.taken.Nodup

theorem empty_sound : empty.Sound where
  ordered := List.Pairwise.nil
  proper := by simp [empty]
  taken := by simp [empty]
  distinct := List.nodup_nil

theorem mem_range {start stop i : Int} : i ∈ range start stop ↔ start ≤ i ∧ i < stop := by
  simp only [range, List.mem_map, List.mem_range]
  constructor
  · rintro ⟨n, bound, rfl⟩
    omega
  · rintro ⟨low, high⟩
    exact ⟨(i - start).toNat, by omega, by omega⟩

theorem range_nodup (start stop : Int) : (range start stop).Nodup := by
  apply List.Pairwise.map (fun (i : Nat) => start + (i : Int)) _ List.nodup_range
  intro a b apart same
  omega

theorem anyTaken_eq_false_iff {store : MarkStore} {start stop : Int} :
    store.anyTaken start stop = false ↔ ∀ i ∈ store.taken, ¬ (start ≤ i ∧ i < stop) := by
  simp [anyTaken]

theorem anyTaken_eq_true_iff {store : MarkStore} {start stop : Int} :
    store.anyTaken start stop = true ↔ ∃ i, start ≤ i ∧ i < stop ∧ store.isTaken i = true := by
  simp only [anyTaken, isTaken, List.any_eq_true, List.contains_iff_mem, Bool.and_eq_true, decide_eq_true_eq]
  constructor
  · rintro ⟨i, taken, low, high⟩
    exact ⟨i, low, high, taken⟩
  · rintro ⟨i, low, high, taken⟩
    exact ⟨i, taken, low, high⟩

/-- A range that touches no taken cluster divides the marks into those before and those after it. -/
theorem Sound.split {store : MarkStore} (sound : store.Sound) {start stop : Int}
    (proper : start < stop) (free : store.anyTaken start stop = false) :
    ∃ before after, store.marks = before ++ after ∧ (∀ mark ∈ before, mark.stop ≤ start) ∧
      (∀ mark ∈ after, stop ≤ mark.start) := by
  have apart : ∀ mark ∈ store.marks, mark.stop ≤ start ∨ stop ≤ mark.start := by
    intro mark member
    have := (sound.proper mark member).2
    have covered := (sound.taken (max mark.start start)).mpr
    have outside := anyTaken_eq_false_iff.mp free (max mark.start start)
    by_cases overlapping : start < mark.stop ∧ mark.start < stop
    · exact absurd (by omega) (outside (covered ⟨mark, member, by omega, by omega⟩))
    · omega
  have ordered := sound.ordered
  have nonempty : ∀ mark ∈ store.marks, mark.start < mark.stop :=
    fun mark member => (sound.proper mark member).2
  generalize store.marks = marks at apart ordered nonempty
  induction marks with
  | nil => exact ⟨[], [], rfl, by simp, by simp⟩
  | cons head rest ih =>
    obtain ⟨headBefore, restOrdered⟩ := List.pairwise_cons.mp ordered
    rcases apart head List.mem_cons_self with earlier | later
    · obtain ⟨before, after, rfl, low, high⟩ := ih
        (fun mark member => apart mark (List.mem_cons_of_mem head member)) restOrdered
        (fun mark member => nonempty mark (List.mem_cons_of_mem head member))
      exact ⟨head :: before, after, rfl, List.forall_mem_cons.mpr ⟨earlier, low⟩, high⟩
    · refine ⟨[], head :: rest, rfl, by simp, List.forall_mem_cons.mpr ⟨later, ?_⟩⟩
      intro mark member
      have := headBefore mark member
      have := nonempty head List.mem_cons_self
      omega

/-- All that an insertion can do: refuse and change nothing, or put a mark in its place. -/
theorem Sound.insert_cases {store : MarkStore} (sound : store.Sound) (start stop : Int)
    (label : String) :
    (store.insert start stop label = (store, false) ∧
      (stop ≤ start ∨ start < 0 ∨ store.anyTaken start stop = true)) ∨
    (0 ≤ start ∧ start < stop ∧ store.anyTaken start stop = false ∧
      ∃ before after, store.marks = before ++ after ∧ (∀ mark ∈ before, mark.stop ≤ start) ∧
        (∀ mark ∈ after, stop ≤ mark.start) ∧ store.insert start stop label =
          (⟨before ++ ⟨start, stop, label⟩ :: after, range start stop ++ store.taken⟩, true)) := by
  unfold insert
  split
  next refused => exact .inl ⟨rfl, by omega⟩
  next admitted =>
    cases free : store.anyTaken start stop with
    | true => exact .inl ⟨by simp, by simp⟩
    | false =>
      obtain ⟨before, after, marks, low, high⟩ := sound.split (by omega) free
      have place : Order.insert Mark.precedes ⟨start, stop, label⟩ store.marks =
          before ++ ⟨start, stop, label⟩ :: after := by
        rw [marks]
        apply Order.insert_between
        · intro mark member
          have proper := sound.proper mark (marks ▸ List.mem_append_left after member)
          exact Mark.precedes_of_before proper.2 (low mark member)
        · intro mark member
          have proper : start < stop := by omega
          exact Mark.not_precedes_of_before proper (high mark member)
      exact .inr ⟨by omega, by omega, rfl, before, after, marks, low, high, by simp [place]⟩

theorem Sound.insert {store : MarkStore} (sound : store.Sound) (start stop : Int)
    (label : String) : (store.insert start stop label).1.Sound := by
  rcases sound.insert_cases start stop label with
    ⟨refused, _⟩ | ⟨nonneg, proper, free, before, after, marks, low, high, placed⟩
  · rw [refused]
    exact sound
  · rw [placed]
    have ordered := sound.ordered
    have nonempty := sound.proper
    have taken := sound.taken
    rw [marks] at ordered nonempty taken
    obtain ⟨first, second, across⟩ := List.pairwise_append.mp ordered
    constructor
    · refine List.pairwise_append.mpr ⟨first, List.pairwise_cons.mpr ⟨high, second⟩, ?_⟩
      intro a inBefore b inRest
      rcases List.mem_cons.mp inRest with rfl | inAfter
      · exact low a inBefore
      · exact across a inBefore b inAfter
    · intro mark member
      rcases List.mem_append.mp member with inBefore | inRest
      · exact nonempty mark (List.mem_append_left after inBefore)
      · rcases List.mem_cons.mp inRest with rfl | inAfter
        · exact ⟨nonneg, proper⟩
        · exact nonempty mark (List.mem_append_right before inAfter)
    · intro i
      simp only [List.mem_append, List.mem_cons, mem_range, taken]
      constructor
      · rintro (here | ⟨mark, inBefore | inAfter, covered⟩)
        · exact ⟨_, .inr (.inl rfl), here⟩
        · exact ⟨mark, .inl inBefore, covered⟩
        · exact ⟨mark, .inr (.inr inAfter), covered⟩
      · rintro ⟨mark, inBefore | rfl | inAfter, covered⟩
        · exact .inr ⟨mark, .inl inBefore, covered⟩
        · exact .inl covered
        · exact .inr ⟨mark, .inr inAfter, covered⟩
    · refine List.nodup_append.mpr ⟨range_nodup start stop, sound.distinct, ?_⟩
      intro i inRange j inTaken same
      subst same
      exact anyTaken_eq_false_iff.mp free i inTaken (mem_range.mp inRange)

theorem Sound.mem_insert {store : MarkStore} (sound : store.Sound) {start stop : Int}
    {label : String} {mark : Mark} (member : mark ∈ (store.insert start stop label).1.marks) :
    mark ∈ store.marks ∨ mark = ⟨start, stop, label⟩ := by
  rcases sound.insert_cases start stop label with
    ⟨refused, _⟩ | ⟨_, _, _, before, after, marks, _, _, placed⟩
  · rw [refused] at member
    exact .inl member
  · rw [placed] at member
    rw [marks]
    simp only [List.mem_append, List.mem_cons] at member ⊢
    rcases member with inBefore | rfl | inAfter
    · exact .inl (.inl inBefore)
    · exact .inr rfl
    · exact .inl (.inr inAfter)

/-- Tiles that are inserted one after another stand together, between the marks around them. -/
theorem insert_tiles {start stop : Int} {tiles before after : List Mark}
    (tiling : Tiles start tiles stop) (low : ∀ mark ∈ before, mark.start < mark.stop ∧ mark.stop ≤ start)
    (high : ∀ mark ∈ after, stop ≤ mark.start) :
    tiles.foldl (fun marks tile => Order.insert Mark.precedes tile marks) (before ++ after) =
      before ++ tiles ++ after := by
  induction tiles generalizing start before with
  | nil => simp
  | cons tile rest ih =>
    obtain ⟨here, proper, next⟩ := tiling
    have end_le := next.le
    have placed : Order.insert Mark.precedes tile (before ++ after) = before ++ tile :: after := by
      apply Order.insert_between
      · intro mark member
        have := low mark member
        exact Mark.precedes_of_before this.1 (by omega)
      · intro mark member
        have := high mark member
        exact Mark.not_precedes_of_before proper (by omega)
    have lower : ∀ mark ∈ before ++ [tile], mark.start < mark.stop ∧ mark.stop ≤ tile.stop := by
      intro mark member
      rcases List.mem_append.mp member with inBefore | isTile
      · have := low mark inBefore
        omega
      · rw [List.mem_singleton.mp isTile]
        exact ⟨proper, Int.le_refl _⟩
    rw [List.foldl_cons, placed]
    simpa using ih next lower

theorem hasRange_eq_false {start stop : Int} {mark : Mark} (apart : mark.start ≠ start) :
    hasRange start stop mark = false := by
  simp [hasRange, apart]

theorem Sound.around {store : MarkStore} (sound : store.Sound) {region : Mark}
    {before after : List Mark} (marks : store.marks = before ++ region :: after) :
    (∀ mark ∈ before, mark.start < mark.stop ∧ mark.stop ≤ region.start) ∧
      (∀ mark ∈ after, region.stop ≤ mark.start) ∧ 0 ≤ region.start ∧ region.start < region.stop := by
  have ordered := sound.ordered
  have proper := sound.proper
  rw [marks] at ordered proper
  obtain ⟨_, rest, across⟩ := List.pairwise_append.mp ordered
  refine ⟨?_, (List.pairwise_cons.mp rest).1, proper region (by simp)⟩
  intro mark member
  exact ⟨(proper mark (by simp [member])).2, across mark member region List.mem_cons_self⟩

theorem Sound.filter_others {store : MarkStore} (sound : store.Sound) {region : Mark}
    {before after : List Mark} (marks : store.marks = before ++ region :: after) :
    store.marks.filter (fun mark => !hasRange region.start region.stop mark) = before ++ after := by
  obtain ⟨low, high, _, proper⟩ := sound.around marks
  have keep (list : List Mark) (apart : ∀ mark ∈ list, mark.start ≠ region.start) :
      list.filter (fun mark => !hasRange region.start region.stop mark) = list := by
    apply List.filter_eq_self.mpr
    intro mark member
    simp [hasRange_eq_false (apart mark member)]
  have itself : hasRange region.start region.stop region = true := by simp [hasRange]
  rw [marks, List.filter_append, List.filter_cons, keep before, keep after]
  · simp [itself]
  · intro mark member
    have := high mark member
    omega
  · intro mark member
    have := low mark member
    omega

/-- A recorded mark can be swapped for any tiles of its range. They take its place in the list. -/
theorem Sound.replace_eq {store : MarkStore} (sound : store.Sound) {region : Mark}
    {before after tiles : List Mark} (marks : store.marks = before ++ region :: after)
    (tiling : Tiles region.start tiles region.stop) :
    store.replace region tiles = .ok { store with marks := before ++ tiles ++ after } := by
  obtain ⟨low, high, _, _⟩ := sound.around marks
  have found : store.marks.any (hasRange region.start region.stop) = true := by
    simp [marks, hasRange]
  simp only [replace, tiling.sorted, sweep_eq_ok_iff.mpr tiling, found, ↓reduceIte,
    sound.filter_others marks, insert_tiles tiling low high]

/-- Swapping a mark for tiles keeps the store sound, and what is taken stays taken. -/
theorem Sound.swap {store : MarkStore} (sound : store.Sound) {region : Mark}
    {before after tiles : List Mark} (marks : store.marks = before ++ region :: after)
    (tiling : Tiles region.start tiles region.stop) :
    Sound { store with marks := before ++ tiles ++ after } := by
  obtain ⟨low, high, nonneg, proper⟩ := sound.around marks
  have ordered := sound.ordered
  have nonempty := sound.proper
  have taken := sound.taken
  rw [marks] at ordered nonempty taken
  obtain ⟨first, rest, across⟩ := List.pairwise_append.mp ordered
  constructor
  · refine List.pairwise_append.mpr ⟨List.pairwise_append.mpr ⟨first, tiling.ordered, ?_⟩,
      (List.pairwise_cons.mp rest).2, ?_⟩
    · intro a inBefore b inTiles
      have := low a inBefore
      have := tiling.bounds inTiles
      omega
    · intro a inFront b inAfter
      rcases List.mem_append.mp inFront with inBefore | inTiles
      · exact across a inBefore b (List.mem_cons_of_mem region inAfter)
      · have := tiling.bounds inTiles
        have := high b inAfter
        omega
  · intro mark member
    simp only [List.mem_append] at member
    rcases member with (inBefore | inTiles) | inAfter
    · exact nonempty mark (by simp [inBefore])
    · have := tiling.bounds inTiles
      omega
    · exact nonempty mark (by simp [inAfter])
  · intro i
    have covered := tiling.covers_iff i
    simp only [taken, List.mem_append, List.mem_cons]
    constructor
    · rintro ⟨mark, inBefore | rfl | inAfter, here⟩
      · exact ⟨mark, .inl (.inl inBefore), here⟩
      · obtain ⟨tile, inTiles, inside⟩ := covered.mpr here
        exact ⟨tile, .inl (.inr inTiles), inside⟩
      · exact ⟨mark, .inr inAfter, here⟩
    · rintro ⟨mark, (inBefore | inTiles) | inAfter, here⟩
      · exact ⟨mark, .inl inBefore, here⟩
      · exact ⟨region, .inr (.inl rfl), covered.mp ⟨mark, inTiles, here⟩⟩
      · exact ⟨mark, .inr (.inr inAfter), here⟩
  · exact sound.distinct

end MarkStore

end Highlight
