import Highlight.Proofs.Intervals
import Highlight.Session.Call

/-! Replacements in a mark store. Tiles are sorted before they are followed from the start of the mark, so
the order they are given in does not matter, and the sweep over the sorted tiles finds a chain if there is one
in any order. `TiledBy` and `Records` are what a replacement needs, said without the sweep and without the
order of the store; `Replaces` says what it does then, and that it does nothing otherwise. -/
namespace Highlight

namespace Mark

theorem precedes_eq_false_iff {a b : Mark} :
    b.precedes a = false ↔ a.start < b.start ∨ (a.start = b.start ∧
      (a.stop < b.stop ∨ (a.stop = b.stop ∧ a.label ≤ b.label))) := by
  simp only [precedes, Bool.or_eq_false_iff, Bool.and_eq_false_imp, decide_eq_false_iff_not, beq_iff_eq,
    String.not_lt]
  constructor
  · rintro ⟨start, later⟩
    rcases Int.lt_or_eq_of_le (Int.not_lt.mp start) with before | same
    · exact .inl before
    obtain ⟨stop, last⟩ := later same.symm
    rcases Int.lt_or_eq_of_le (Int.not_lt.mp stop) with shorter | equal
    · exact .inr ⟨same, .inl shorter⟩
    · exact .inr ⟨same, .inr ⟨equal, last equal.symm⟩⟩
  · rintro (before | ⟨same, shorter | ⟨equal, label⟩⟩)
    · exact ⟨by omega, by omega⟩
    · exact ⟨by omega, fun _ => ⟨by omega, by omega⟩⟩
    · exact ⟨by omega, fun _ => ⟨by omega, fun _ => label⟩⟩

theorem precedes_asymm (a b : Mark) (before : a.precedes b = true) : b.precedes a = false := by
  simp only [precedes, Bool.or_eq_true, Bool.and_eq_true, decide_eq_true_eq, beq_iff_eq] at before
  rw [precedes_eq_false_iff]
  rcases before with start | ⟨same, stop | ⟨equal, label⟩⟩
  · exact .inl start
  · exact .inr ⟨same, .inl stop⟩
  · exact .inr ⟨same, .inr ⟨equal, String.not_lt.mp (String.lt_asymm label)⟩⟩

theorem precedes_total (a b : Mark) : b.precedes a = false ∨ a.precedes b = false := by
  cases before : a.precedes b with
  | true => exact .inl (precedes_asymm a b before)
  | false => exact .inr rfl

theorem precedes_trans (a b c : Mark) (first : b.precedes a = false) (second : c.precedes b = false) :
    c.precedes a = false := by
  rw [precedes_eq_false_iff] at *
  rcases first with start | ⟨same, stop | ⟨equal, label⟩⟩
  · exact .inl (by omega)
  · omega
  · rcases second with start | ⟨sameNext, stop | ⟨equalNext, labelNext⟩⟩
    · exact .inl (by omega)
    · exact .inr ⟨by omega, .inl (by omega)⟩
    · exact .inr ⟨by omega, .inr ⟨by omega, String.le_trans label labelNext⟩⟩

theorem precedes_antisymm (a b : Mark) (first : b.precedes a = false) (second : a.precedes b = false) :
    a = b := by
  rw [precedes_eq_false_iff] at *
  rcases first with start | ⟨same, stop | ⟨equal, label⟩⟩
  · omega
  · omega
  · have back : b.label ≤ a.label := by
      rcases second with start | ⟨_, stop | ⟨_, label⟩⟩
      · omega
      · omega
      · exact label
    cases a
    cases b
    rw [mk.injEq]
    exact ⟨same, equal, String.le_antisymm label back⟩

theorem sort_eq_of_perm {marks other : List Mark} (perm : marks.Perm other) :
    Order.sort precedes marks = Order.sort precedes other := by
  have total : Std.Total fun a b : Mark => b.precedes a = false := ⟨precedes_total⟩
  have trans : IsTrans Mark fun a b => b.precedes a = false := ⟨precedes_trans⟩
  have sorted (list : List Mark) : (Order.sort precedes list).Pairwise fun a b => b.precedes a = false := by
    rw [Order.sort_eq_insertionSort]
    exact List.pairwise_insertionSort _ list
  apply List.Perm.eq_of_pairwise (fun a b _ _ => precedes_antisymm a b) (sorted marks) (sorted other)
  calc List.Perm (Order.sort precedes marks) marks := Order.sort_perm _ marks
    List.Perm _ other := perm
    List.Perm _ (Order.sort precedes other) := (Order.sort_perm _ other).symm

/-- The tiles, in some order, lead from the start of the mark to its end. -/
def TiledBy (mark : Mark) (tiles : List Mark) : Prop :=
  ∃ chain, chain.Perm tiles ∧ Tiles mark.start chain mark.stop

/-- If the tiles can be put in a row, then in document order. -/
theorem tiledBy_iff {mark : Mark} {tiles : List Mark} :
    mark.TiledBy tiles ↔ Tiles mark.start (Order.sort precedes tiles) mark.stop := by
  constructor
  · rintro ⟨chain, perm, tiling⟩
    rwa [← sort_eq_of_perm perm, tiling.sorted]
  · intro tiling
    exact ⟨_, Order.sort_perm _ tiles, tiling⟩

theorem not_tiledBy_of_inverted {mark : Mark} (inverted : mark.stop < mark.start) (tiles : List Mark) :
    ¬ mark.TiledBy tiles := by
  rintro ⟨chain, _, tiling⟩
  have := tiling.le
  omega

end Mark

namespace MarkStore

open Session (Answer StoreCall)

variable {store next : MarkStore} {mark : Mark} {tiles : List Mark} {fault : Fault}

/-- A mark over the same range is recorded, under whatever label. -/
def Records (store : MarkStore) (mark : Mark) : Prop :=
  ∃ old ∈ store.marks, old.start = mark.start ∧ old.stop = mark.stop

theorem any_hasRange_iff : store.marks.any (hasRange mark.start mark.stop) = true ↔ store.Records mark := by
  simp [Records, hasRange_iff]

theorem sweep_fault {cursor : Int} (failed : sweep mark cursor tiles = .error fault) :
    fault.family = .tiling := by
  fun_induction sweep mark cursor tiles with
  | case1 => simp at failed
  | case2 => rw [← Except.error.inj failed]; rfl
  | case3 => rw [← Except.error.inj failed]; rfl
  | case4 cursor tile rest _ ih => exact ih failed

theorem run_replace_ok (done : store.replace mark tiles = .ok next) :
    (StoreCall.replace mark tiles).run store = (next, .ok .nothing) := by
  simp [StoreCall.run, StoreCall.after, StoreCall.edit?, StoreCall.answer, edit, done, Except.map]

theorem run_replace_error (failed : store.replace mark tiles = .error fault) :
    (StoreCall.replace mark tiles).run store = (store, .error fault) := by
  simp [StoreCall.run, StoreCall.after, StoreCall.edit?, StoreCall.answer, edit, failed, Except.map]

theorem Sound.replace_perm (sound : store.Sound) (done : store.replace mark tiles = .ok next) :
    next.taken = store.taken ∧
      next.marks.Perm (tiles ++ store.marks.filter fun old => !hasRange mark.start mark.stop old) := by
  obtain ⟨region, before, after, sameStart, sameStop, split, _, rfl⟩ := sound.replace_ok done
  refine ⟨rfl, ?_⟩
  rw [← sameStart, ← sameStop, sound.filter_others split]
  have perm := Order.sort_perm Mark.precedes tiles
  generalize Order.sort Mark.precedes tiles = sorted at perm ⊢
  calc List.Perm (before ++ sorted ++ after) (sorted ++ before ++ after) :=
        List.perm_append_comm.append_right after
    List.Perm _ (tiles ++ before ++ after) := (perm.append_right before).append_right after
    _ = tiles ++ (before ++ after) := List.append_assoc ..

/-- All that a replacement can do: find that the tiles are no chain, find no mark over the range, or put the
tiles in the place of that mark. -/
theorem Sound.replace_cases (sound : store.Sound) (mark : Mark) (tiles : List Mark) :
    (¬ mark.TiledBy tiles ∧ ∃ fault, fault.family = .tiling ∧
      (StoreCall.replace mark tiles).run store = (store, .error fault)) ∨
    (mark.TiledBy tiles ∧ ¬ store.Records mark ∧
      (StoreCall.replace mark tiles).run store = (store, .error (.noSuchRange mark.start mark.stop))) ∨
    (mark.TiledBy tiles ∧ store.Records mark ∧
      ∃ next, (StoreCall.replace mark tiles).run store = (next, .ok .nothing) ∧ next.taken = store.taken ∧
        next.marks.Perm (tiles ++ store.marks.filter fun old => !hasRange mark.start mark.stop old)) := by
  cases swept : sweep mark mark.start (Order.sort Mark.precedes tiles) with
  | error fault =>
    have untiled : ¬ mark.TiledBy tiles := by
      rw [Mark.tiledBy_iff, ← sweep_eq_ok_iff, swept]
      simp
    have failed : store.replace mark tiles = .error fault := by simp only [replace, swept]
    exact .inl ⟨untiled, fault, sweep_fault swept, run_replace_error failed⟩
  | ok =>
    have tiled : mark.TiledBy tiles := Mark.tiledBy_iff.mpr (sweep_eq_ok_iff.mp swept)
    by_cases recorded : store.Records mark
    · refine .inr (.inr ⟨tiled, recorded, ?_⟩)
      obtain ⟨next, done⟩ : ∃ next, store.replace mark tiles = .ok next := by
        simp only [replace, swept, any_hasRange_iff.mpr recorded, ↓reduceIte]
        exact ⟨_, rfl⟩
      exact ⟨next, run_replace_ok done, sound.replace_perm done⟩
    · have failed : store.replace mark tiles = .error (.noSuchRange mark.start mark.stop) := by
        have missing : ¬ store.marks.any (hasRange mark.start mark.stop) = true :=
          mt any_hasRange_iff.mp recorded
        simp only [replace, swept, missing, Bool.false_eq_true, ↓reduceIte]
      exact .inr (.inl ⟨tiled, recorded, run_replace_error failed⟩)

/-- What a replacement has to do: swap the mark over the range for the tiles if there is one and the tiles
lead from its start to its end, and otherwise say what is wrong and leave everything as it is. -/
structure Replaces (store : MarkStore) (mark : Mark) (tiles : List Mark)
    (result : MarkStore × Except Fault Answer) : Prop where
  accepted : (∃ answer, result.2 = .ok answer) ↔ store.Records mark ∧ mark.TiledBy tiles
  swapped : ∀ answer, result.2 = .ok answer → result.1.taken = store.taken ∧
    result.1.marks.Perm (tiles ++ store.marks.filter fun old => !hasRange mark.start mark.stop old)
  untiled : ¬ mark.TiledBy tiles → ∃ fault, result.2 = .error fault ∧ fault.family = .tiling
  inverted : mark.stop < mark.start → ∃ fault, result.2 = .error fault ∧ fault.family = .tiling
  missing : mark.TiledBy tiles → ¬ store.Records mark →
    ∃ fault, result.2 = .error fault ∧ fault.family = .range
  refused : ∀ fault, result.2 = .error fault → result.1 = store

theorem Sound.replaces (sound : store.Sound) (mark : Mark) (tiles : List Mark) :
    Replaces store mark tiles ((StoreCall.replace mark tiles).run store) := by
  have inverted := fun inverted => @Mark.not_tiledBy_of_inverted mark inverted tiles
  rcases sound.replace_cases mark tiles with
    ⟨untiled, fault, family, result⟩ | ⟨tiled, missing, result⟩ | ⟨tiled, recorded, next, result, taken, perm⟩
  · rw [result]
    exact ⟨by simp [untiled], by simp, fun _ => ⟨fault, rfl, family⟩, fun _ => ⟨fault, rfl, family⟩,
      fun tiled => absurd tiled untiled, fun _ _ => rfl⟩
  · rw [result]
    exact ⟨by simp [missing], by simp, fun untiled => absurd tiled untiled,
      fun low => absurd tiled (inverted low), fun _ _ => ⟨_, rfl, rfl⟩, fun _ _ => rfl⟩
  · rw [result]
    exact ⟨by simp [tiled, recorded], fun _ _ => ⟨taken, perm⟩, fun untiled => absurd tiled untiled,
      fun low => absurd tiled (inverted low), fun _ missing => absurd recorded missing, by simp⟩

/-- In every state a replacement accepts the tilings of a recorded range, in any order and no others, and
is all or nothing. -/
theorem replace_tilings (reached : store.Reached) (mark : Mark) (tiles : List Mark) :
    Replaces store mark tiles ((StoreCall.replace mark tiles).run store) ∧
    ∀ other, other.Perm tiles →
      (StoreCall.replace mark other).run store = (StoreCall.replace mark tiles).run store := by
  refine ⟨reached.sound.replaces mark tiles, fun other perm => ?_⟩
  have same : store.replace mark other = store.replace mark tiles := by
    simp only [replace, Mark.sort_eq_of_perm perm]
  cases done : store.replace mark tiles with
  | ok next => rw [run_replace_ok done, run_replace_ok (same.trans done)]
  | error fault => rw [run_replace_error done, run_replace_error (same.trans done)]

def sideBySide : MarkStore := empty.run [.insert 2 8 "string", .insert 0 2 "name"]

def shuffled : List Mark := [⟨5, 8, "string"⟩, ⟨2, 3, "string"⟩, ⟨3, 5, "message"⟩]

/-- The range counts and not the label, and the order of the tiles does not. -/
theorem replace_tilings_shuffled :
    sideBySide.Reached ∧ sideBySide.Records ⟨2, 8, "text"⟩ ∧ Mark.TiledBy ⟨2, 8, "text"⟩ shuffled ∧
      (∃ answer, ((StoreCall.replace ⟨2, 8, "text"⟩ shuffled).run sideBySide).2 = .ok answer) ∧
      (StoreCall.replace ⟨2, 8, "text"⟩ shuffled.reverse).run sideBySide =
        (StoreCall.replace ⟨2, 8, "text"⟩ shuffled).run sideBySide := by
  have reached : sideBySide.Reached := .run _
  have recorded : sideBySide.Records ⟨2, 8, "text"⟩ := ⟨⟨2, 8, "string"⟩, by decide, rfl, rfl⟩
  have tiled : Mark.TiledBy ⟨2, 8, "text"⟩ shuffled :=
    ⟨[⟨2, 3, "string"⟩, ⟨3, 5, "message"⟩, ⟨5, 8, "string"⟩], by decide, by simp [Tiles]⟩
  obtain ⟨replaced, anyOrder⟩ := replace_tilings reached ⟨2, 8, "text"⟩ shuffled
  exact ⟨reached, recorded, tiled, replaced.accepted.mpr ⟨recorded, tiled⟩,
    anyOrder shuffled.reverse (List.reverse_perm shuffled)⟩

end MarkStore

end Highlight
