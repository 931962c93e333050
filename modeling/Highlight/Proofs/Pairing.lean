import Highlight.Proofs.Coordinates
import Highlight.Proofs.Counting

/-! Regions from an opener to a closer. `Delimits` says what the region of an opener is, without a
search; `Pairs` is the course of the search from one opener to the next, with a case for each way it
goes on. The search takes this course, and everything about its marks follows by induction on it: they
lie over regions of openers, one after another, and no opener is left whose region could be marked. -/
namespace Highlight

namespace Text

variable {text target : Text} {start position p : Nat}

def Stands (text target : Text) (p : Nat) : Prop := target <+: text.drop p

theorem stands_iff : text.Stands target p ↔ target.isPrefixOf (text.drop p) = true :=
  List.isPrefixOf_iff_prefix.symm

/-- The first place from `start` on where a target stands. -/
structure IsFirst (text target : Text) (start p : Nat) : Prop where
  after : start ≤ p
  stands : text.Stands target p
  least : ∀ q, start ≤ q → text.Stands target q → p ≤ q

theorem Stands.le (stands : text.Stands target p) (nonempty : target ≠ []) :
    p + target.length ≤ text.length := by
  have short := List.IsPrefix.length_le stands
  have positive := List.length_pos_iff.mpr nonempty
  rw [List.length_drop] at short
  omega

theorem Stands.gt (stands : text.Stands target p) (missing : ¬ text.Stands target start)
    (after : start ≤ p) : start < p := by
  apply Nat.lt_of_le_of_ne after
  rintro rfl
  exact missing stands

theorem Stands.isFirst (stands : text.Stands target p) : text.IsFirst target p p :=
  ⟨Nat.le_refl p, stands, fun _ after _ => after⟩

theorem IsFirst.back (first : text.IsFirst target (start + 1) p) (missing : ¬ text.Stands target start) :
    text.IsFirst target start p where
  after := Nat.le_of_succ_le first.after
  stands := first.stands
  least := fun q after stands => first.least q (stands.gt missing after) stands

theorem IsFirst.unique {q : Nat} (first : text.IsFirst target start p) (other : text.IsFirst target start q) :
    p = q :=
  Nat.le_antisymm (first.least q other.after other.stands) (other.least p first.after first.stands)

theorem findFrom_cases {rest : Text} (nonempty : target ≠ []) (here : rest = text.drop position) :
    match findFrom target position rest with
    | some p => text.IsFirst target position p
    | none => ∀ p, position ≤ p → ¬ text.Stands target p := by
  fun_induction findFrom target position rest with
  | case1 position empty => simp [nonempty] at empty
  | case2 position _ =>
    intro p after stands
    have past := List.drop_eq_nil_iff.mp here.symm
    have := stands.le nonempty
    have := List.length_pos_iff.mpr nonempty
    omega
  | case3 position c rest found =>
    rw [here, List.isPrefixOf_iff_prefix] at found
    exact Stands.isFirst found
  | case4 position c rest missed ih =>
    rw [here, List.isPrefixOf_iff_prefix] at missed
    have later := ih (rest_eq_drop here)
    split at later
    · exact later.back missed
    · exact fun p after stands => later p (stands.gt missed after) stands

/-- A search finds the first place, or there is none. -/
theorem find?_cases (text : Text) (nonempty : target ≠ []) (start : Nat) :
    match text.find? target start with
    | some p => text.IsFirst target start p
    | none => ∀ p, start ≤ p → ¬ text.Stands target p :=
  findFrom_cases nonempty rfl

def Unclosed (text opener closer : Text) (p : Nat) : Prop :=
  ∀ q, p + opener.length ≤ q → ¬ text.Stands closer q

/-- The region of the opener at `p`: it ends with the first closer that stands behind the opener, or with
the text. -/
inductive Delimits (text opener closer : Text) (p : Nat) : (stop : Nat) → Prop where
  | closed {close : Nat} (opens : text.Stands opener p)
      (closes : text.IsFirst closer (p + opener.length) close) :
      Delimits text opener closer p (close + closer.length)
  | unclosed (opens : text.Stands opener p) (unclosed : text.Unclosed opener closer p) :
      Delimits text opener closer p text.length

namespace Delimits

variable {opener closer : Text} {stop : Nat}

theorem opens (delimits : text.Delimits opener closer p stop) : text.Stands opener p := by
  cases delimits with
  | closed opens _ => exact opens
  | unclosed opens _ => exact opens

theorem bounds (delimits : text.Delimits opener closer p stop) (opener_ne : opener ≠ [])
    (closer_ne : closer ≠ []) : p < stop ∧ stop ≤ text.length := by
  have inside := delimits.opens.le opener_ne
  have positive := List.length_pos_iff.mpr opener_ne
  cases delimits with
  | closed _ closes =>
    have := closes.after
    have := closes.stands.le closer_ne
    omega
  | unclosed => omega

theorem stop_of_unclosed (delimits : text.Delimits opener closer p stop)
    (unclosed : text.Unclosed opener closer p) : stop = text.length := by
  cases delimits with
  | closed _ closes => exact absurd closes.stands (unclosed _ closes.after)
  | unclosed => rfl

end Delimits

end Text

theorem MarkStore.insert_refused {store : MarkStore} {start stop : Int} {label : String}
    (refused : (store.insert start stop label).2 = false) :
    (store.insert start stop label).1 = store := by
  unfold insert at refused ⊢
  split
  · rfl
  · split <;> simp_all

def GraphemeIndex.markOver (index : GraphemeIndex) (label : String) (range : Nat × Nat) : Mark :=
  ⟨(index.span range.1 range.2).1, (index.span range.1 range.2).2, label⟩

namespace Matcher

variable {opener closer : Text} {label : String} {a b next : Annotator} {cursor p stop : Nat}
  {ranges : List (Nat × Nat)}

/-- The course of a search from a cursor on, with the raw ranges that it records. Each time the next opener
is found, it is shielded by a mark, or its region is refused, or its region is recorded and read over. -/
inductive Pairs (opener closer : Text) (label : String) :
    (before : Annotator) → (cursor : Nat) → (after : Annotator) → (ranges : List (Nat × Nat)) → Prop where
  | done {a : Annotator} {cursor : Nat}
      (missing : ∀ p, cursor ≤ p → ¬ a.text.Stands opener p) :
      Pairs opener closer label a cursor a []
  | shielded {a b : Annotator} {cursor p : Nat} {ranges : List (Nat × Nat)}
      (first : a.text.IsFirst opener cursor p)
      (taken : a.marks.isTaken (a.index.toGrapheme p) = true)
      (rest : Pairs opener closer label a (p + opener.length) b ranges) :
      Pairs opener closer label a cursor b ranges
  | refused {a b : Annotator} {cursor p stop : Nat} {ranges : List (Nat × Nat)}
      (first : a.text.IsFirst opener cursor p)
      (free : a.marks.isTaken (a.index.toGrapheme p) = false)
      (delimits : a.text.Delimits opener closer p stop)
      (refused : a.markRaw p stop label = (a, false))
      (rest : Pairs opener closer label a (p + opener.length) b ranges) :
      Pairs opener closer label a cursor b ranges
  | recorded {a b next : Annotator} {cursor p stop : Nat} {ranges : List (Nat × Nat)}
      (first : a.text.IsFirst opener cursor p)
      (free : a.marks.isTaken (a.index.toGrapheme p) = false)
      (delimits : a.text.Delimits opener closer p stop)
      (recorded : a.markRaw p stop label = (next, true))
      (rest : Pairs opener closer label next stop b ranges) :
      Pairs opener closer label a cursor b ((p, stop) :: ranges)

theorem Pairs.back (pairs : Pairs opener closer label a (cursor + 1) b ranges)
    (missing : ¬ a.text.Stands opener cursor) : Pairs opener closer label a cursor b ranges := by
  generalize start : cursor + 1 = later at pairs
  cases pairs with
  | done none => exact .done fun p after stands => none p (start ▸ stands.gt missing after) stands
  | shielded first taken rest => exact .shielded ((start ▸ first).back missing) taken rest
  | refused first free delimits refused rest =>
    exact .refused ((start ▸ first).back missing) free delimits refused rest
  | recorded first free delimits recorded rest =>
    exact .recorded ((start ▸ first).back missing) free delimits recorded rest

theorem markRaw_refused {start stop : Int} (refused : a.markRaw start stop label = (next, false)) :
    next = a := by
  have same : (a.marks.insert (a.index.span start stop).1 (a.index.span start stop).2 label).1 = a.marks :=
    MarkStore.insert_refused (congrArg Prod.snd refused)
  calc next = (a.markRaw start stop label).1 := (congrArg Prod.fst refused).symm
    _ = { a with marks := (a.marks.insert (a.index.span start stop).1
          (a.index.span start stop).2 label).1 } := rfl
    _ = a := by rw [same]

theorem markRaw_same {start stop : Int} {recorded : Bool}
    (marked : a.markRaw start stop label = (next, recorded)) : next = { a with marks := next.marks } := by
  obtain rfl : (a.markRaw start stop label).1 = next := congrArg Prod.fst marked
  rfl

theorem delimits_of_find? (closes : closer ≠ []) {text : Text} (stands : text.Stands opener p) :
    match text.find? closer (p + opener.length) with
    | some close => text.Delimits opener closer p (close + closer.length)
    | none => text.Delimits opener closer p text.length := by
  have found := Text.find?_cases text closes (p + opener.length)
  split at found
  · exact .closed stands found
  · exact .unclosed stands found

theorem exists_delimits (closes : closer ≠ []) {text : Text} (stands : text.Stands opener p) :
    ∃ stop, text.Delimits opener closer p stop := by
  have region := delimits_of_find? closes stands
  split at region
  · exact ⟨_, region⟩
  · exact ⟨_, region⟩

theorem pairing_pairs (opens : opener ≠ []) (closes : closer ≠ []) {position skip : Nat} {rest : Text}
    (here : rest = a.text.drop position) :
    ∃ ranges, Pairs opener closer label a (position + skip)
        (pairing opener closer label a position skip rest).1 ranges ∧
      (pairing opener closer label a position skip rest).2 = (ranges.length : Int) := by
  have width := List.length_pos_iff.mpr opens
  have behind (position : Nat) : position + 1 + (opener.length - 1) = position + opener.length := by
    omega
  have past {text : Text} {cursor : Nat} (past : text.length ≤ cursor) (p : Nat) (after : cursor ≤ p) :
      ¬ text.Stands opener p := by
    intro stands
    have := stands.le opens
    omega
  have stands {text rest : Text} {position : Nat} (here : rest = text.drop position)
      (found : ¬ (!opener.isPrefixOf rest) = true) : text.Stands opener position := by
    rw [Bool.not_eq_true, Bool.not_eq_false'] at found
    rw [Text.Stands, ← here]
    exact List.isPrefixOf_iff_prefix.mp found
  -- The cursor is where the skipping ends: characters that are skipped leave it in its place.
  fun_induction pairing opener closer label a position skip rest with
  | case1 a position skip =>
    have ended := List.drop_eq_nil_iff.mp here.symm
    exact ⟨[], .done (past (by omega)), rfl⟩
  | case2 a position skip c rest ih =>
    have cursor : position + (skip + 1) = position + 1 + skip := by omega
    rw [cursor]
    exact ih (Text.rest_eq_drop here)
  | case3 a position c rest missed ih =>
    obtain ⟨ranges, pairs, count⟩ := ih (Text.rest_eq_drop here)
    have missing : ¬ a.text.Stands opener position := by
      intro found
      rw [Text.Stands, ← here, ← List.isPrefixOf_iff_prefix] at found
      simp [found] at missed
    exact ⟨ranges, pairs.back missing, count⟩
  | case4 a position c rest found taken ih =>
    obtain ⟨ranges, pairs, count⟩ := ih (Text.rest_eq_drop here)
    rw [behind] at pairs
    exact ⟨ranges, .shielded (stands here found).isFirst taken pairs, count⟩
  | case5 a position c rest found free unclosed after marked =>
    have region := delimits_of_find? closes (stands here found)
    rw [unclosed] at region
    have text : after.text = a.text := by rw [markRaw_same marked]
    -- The search stops here; there is no opener behind a region that ends with the text.
    have ended : Pairs opener closer label after a.text.length after [] :=
      .done (past (Nat.le_of_eq (by rw [text])))
    exact ⟨_, .recorded (stands here found).isFirst (by simpa using free) region marked ended, rfl⟩
  | case6 a position c rest found free unclosed after marked ih =>
    have region := delimits_of_find? closes (stands here found)
    rw [unclosed] at region
    obtain rfl := markRaw_refused marked
    obtain ⟨ranges, pairs, count⟩ := ih (Text.rest_eq_drop here)
    rw [behind] at pairs
    exact ⟨ranges, .refused (stands here found).isFirst (by simpa using free) region marked pairs, count⟩
  | case7 a position c rest found free close closed stop after marked last count done ih =>
    have region := delimits_of_find? closes (stands here found)
    rw [closed] at region
    have text : after.text = a.text := by rw [markRaw_same marked]
    obtain ⟨ranges, pairs, counted⟩ := ih (by rw [text]; exact Text.rest_eq_drop here)
    have proper := (region.bounds opens closes).1
    have cursor : position + 1 + (stop - position - 1) = stop := by omega
    rw [done] at pairs counted
    rw [cursor] at pairs
    refine ⟨_, .recorded (stands here found).isFirst (by simpa using free) region marked pairs, ?_⟩
    simp only [List.length_cons]
    omega
  | case8 a position c rest found free close closed stop after marked ih =>
    have region := delimits_of_find? closes (stands here found)
    rw [closed] at region
    obtain rfl := markRaw_refused marked
    obtain ⟨ranges, pairs, count⟩ := ih (Text.rest_eq_drop here)
    rw [behind] at pairs
    exact ⟨ranges, .refused (stands here found).isFirst (by simpa using free) region marked pairs, count⟩

/-- What a raw range that is not refused adds. -/
theorem markRaw_recorded (sound : a.marks.Sound) (recorded : a.markRaw p stop label = (next, true)) :
    next.marks.Sound ∧
    next.marks.marks.Perm (a.index.markOver label (p, stop) :: a.marks.marks) ∧
    ∀ i, next.marks.isTaken i = true ↔
      ((a.index.span p stop).1 ≤ i ∧ i < (a.index.span p stop).2) ∨ a.marks.isTaken i = true := by
  obtain rfl : (a.markRaw p stop label).1 = next := congrArg Prod.fst recorded
  have inserts := sound.inserts (a.index.span p stop).1 (a.index.span p stop).2 label
  obtain ⟨marks, taken⟩ := inserts.added (congrArg Prod.snd recorded)
  refine ⟨sound.insert _ _ _, marks, fun i => ?_⟩
  simp only [MarkStore.isTaken, List.contains_iff_mem]
  rw [← MarkStore.mem_range, ← List.mem_append]
  exact taken.mem_iff

theorem exists_taken_of_refused (index : a.index = .ofText a.text) (proper : p < stop)
    (inside : stop ≤ a.text.length) (refused : a.markRaw p stop label = (next, false)) :
    ∃ i, (a.index.span p stop).1 ≤ i ∧ i < (a.index.span p stop).2 ∧ a.marks.isTaken i = true := by
  have narrowest := GraphemeIndex.span_isNarrowest proper inside
  rw [← index] at narrowest
  have nonneg := narrowest.nonneg
  have nonempty := narrowest.proper
  have outcome : (a.marks.insert (a.index.span p stop).1 (a.index.span p stop).2 label).2 = false :=
    congrArg Prod.snd refused
  have touched : a.marks.anyTaken (a.index.span p stop).1 (a.index.span p stop).2 = true := by
    apply Classical.byContradiction
    intro free
    have admitted : ¬ ((a.index.span p stop).2 ≤ (a.index.span p stop).1 ∨
        (a.index.span p stop).1 < 0) := by omega
    simp [MarkStore.insert, admitted, free] at outcome
  exact MarkStore.anyTaken_eq_true_iff.mp touched

namespace Pairs

theorem same (pairs : Pairs opener closer label a cursor b ranges) : b = { a with marks := b.marks } := by
  induction pairs with
  | done => rfl
  | shielded _ _ _ ih => exact ih
  | refused _ _ _ _ _ ih => exact ih
  | recorded _ _ _ recorded _ ih =>
    rw [markRaw_same recorded] at ih
    exact ih

theorem marks (pairs : Pairs opener closer label a cursor b ranges) (sound : a.marks.Sound) :
    b.marks.marks.Perm (a.marks.marks ++ ranges.map (a.index.markOver label)) := by
  induction pairs with
  | done => simp
  | shielded _ _ _ ih => exact ih sound
  | refused _ _ _ _ _ ih => exact ih sound
  | @recorded a b next cursor p stop ranges _ _ _ recorded _ ih =>
    obtain ⟨nextSound, added, _⟩ := markRaw_recorded sound recorded
    have index : next.index = a.index := by rw [markRaw_same recorded]
    have later := ih nextSound
    rw [index] at later
    calc List.Perm b.marks.marks (next.marks.marks ++ ranges.map (a.index.markOver label)) := later
      List.Perm _ (a.index.markOver label (p, stop) :: a.marks.marks ++
          ranges.map (a.index.markOver label)) := added.append_right _
      List.Perm _ (a.marks.marks ++ ((p, stop) :: ranges).map (a.index.markOver label)) :=
        List.perm_middle.symm

theorem kept (pairs : Pairs opener closer label a cursor b ranges) (sound : a.marks.Sound) {i : Int}
    (taken : a.marks.isTaken i = true) : b.marks.isTaken i = true := by
  induction pairs with
  | done => exact taken
  | shielded _ _ _ ih => exact ih sound taken
  | refused _ _ _ _ _ ih => exact ih sound taken
  | recorded _ _ _ recorded _ ih =>
    obtain ⟨nextSound, _, isTaken⟩ := markRaw_recorded sound recorded
    exact ih nextSound ((isTaken i).mpr (.inr taken))

theorem delimits (pairs : Pairs opener closer label a cursor b ranges) (opens : opener ≠ [])
    (closes : closer ≠ []) :
    ∀ range ∈ ranges, cursor ≤ range.1 ∧ a.text.Delimits opener closer range.1 range.2 := by
  induction pairs with
  | done => simp
  | @shielded a b cursor p ranges first _ _ ih =>
    intro range member
    obtain ⟨later, region⟩ := ih range member
    have := first.after
    exact ⟨by omega, region⟩
  | @refused a b cursor p stop ranges first _ _ _ _ ih =>
    intro range member
    obtain ⟨later, region⟩ := ih range member
    have := first.after
    exact ⟨by omega, region⟩
  | @recorded a b next cursor p stop ranges first _ region recorded _ ih =>
    have text : next.text = a.text := by rw [markRaw_same recorded]
    have proper := (region.bounds opens closes).1
    have := first.after
    rw [text] at ih
    refine List.forall_mem_cons.mpr ⟨⟨first.after, region⟩, fun range member => ?_⟩
    obtain ⟨later, other⟩ := ih range member
    exact ⟨by omega, other⟩

theorem apart (pairs : Pairs opener closer label a cursor b ranges) (opens : opener ≠ [])
    (closes : closer ≠ []) : ranges.Pairwise fun x y => x.2 ≤ y.1 := by
  induction pairs with
  | done => exact .nil
  | shielded _ _ _ ih => exact ih
  | refused _ _ _ _ _ ih => exact ih
  | recorded _ _ _ _ rest ih =>
    exact List.pairwise_cons.mpr ⟨fun later member => (rest.delimits opens closes later member).1, ih⟩

end Pairs

/-- The region of the opener at `p` has a taken cluster. That of an opener in a taken cluster does. -/
def Meets (opener closer : Text) (a : Annotator) (p : Nat) : Prop :=
  ∃ stop, a.text.Delimits opener closer p stop ∧ ∃ i, (a.index.span p stop).1 ≤ i ∧
    i < (a.index.span p stop).2 ∧ a.marks.isTaken i = true

theorem meets_of_taken (opens : opener ≠ []) (closes : closer ≠ []) (index : a.index = .ofText a.text)
    (stands : a.text.Stands opener p) (taken : a.marks.isTaken (a.index.toGrapheme p) = true) :
    Meets opener closer a p := by
  obtain ⟨stop, region⟩ := exists_delimits closes stands
  obtain ⟨proper, inside⟩ := region.bounds opens closes
  have covered := GraphemeIndex.toGrapheme_mem_span (Nat.le_refl p) proper inside
  rw [← index] at covered
  exact ⟨stop, region, _, covered.1, covered.2, taken⟩

/-- No opener of one character is passed over before its region has a taken cluster. -/
theorem Pairs.meets (pairs : Pairs opener closer label a cursor b ranges) (single : opener.length = 1)
    (closes : closer ≠ []) (index : a.index = .ofText a.text) (sound : a.marks.Sound)
    (after : cursor ≤ p) (stands : a.text.Stands opener p) : Meets opener closer b p := by
  have opens : opener ≠ [] := List.ne_nil_of_length_pos (by omega)
  -- An opener of one character hides no other one, so behind it the next one is still ahead.
  induction pairs with
  | done missing => exact absurd stands (missing p after)
  | @shielded a b cursor q ranges first taken rest ih =>
    rcases Nat.eq_or_lt_of_le (first.least p after stands) with rfl | later
    · rw [rest.same]
      exact meets_of_taken opens closes index stands (rest.kept sound taken)
    · exact ih index sound (by omega) stands
  | @refused a b cursor q stop ranges first _ region refused rest ih =>
    rcases Nat.eq_or_lt_of_le (first.least p after stands) with rfl | later
    · obtain ⟨proper, inside⟩ := region.bounds opens closes
      obtain ⟨i, low, high, taken⟩ := exists_taken_of_refused index proper inside refused
      rw [rest.same]
      exact ⟨stop, region, i, low, high, rest.kept sound taken⟩
    · exact ih index sound (by omega) stands
  | @recorded a b next cursor q stop ranges first _ region recorded rest ih =>
    obtain ⟨nextSound, _, isTaken⟩ := markRaw_recorded sound recorded
    have same := markRaw_same recorded
    by_cases inside : p < stop
    · -- The opener stands in the region that was recorded.
      have within := (region.bounds opens closes).2
      have covered := GraphemeIndex.toGrapheme_mem_span (first.least p after stands) inside within
      rw [← index] at covered
      rw [rest.same, same]
      exact meets_of_taken opens closes index stands
        (rest.kept nextSound ((isTaken _).mpr (.inl covered)))
    · refine ih ?_ nextSound (by omega) ?_
      · rw [same]
        exact index
      · rw [same]
        exact stands

/-- A region without a closer ends with the text, so none comes after it. -/
theorem Pairs.closed (pairs : Pairs opener closer label a cursor b ranges) (opens : opener ≠ [])
    (closes : closer ≠ []) :
    ranges.Pairwise fun x _ => ¬ a.text.Unclosed opener closer x.1 := by
  have regions := pairs.delimits opens closes
  apply (pairs.apart opens closes).imp_of_mem
  intro x y inX inY before unclosed
  have ends := (regions x inX).2.stop_of_unclosed unclosed
  have starts := (regions y inY).2.bounds opens closes
  omega

/-- A search with two delimiters pairs each opener with the first closer behind it. The marks that it
adds lie over regions of openers, one region after another, of which only the last can be without a
closer. Where the opener is one character, no opener keeps a region that is free. -/
theorem between_pairs (handled : a.Handled) (config : Config) (label : String) (opens : opener ≠ [])
    (closes : closer ≠ []) :
    ∃ (after : Annotator) (ranges : List (Nat × Nat)),
      (between opener (some closer)).run config a label = .ok (after, (ranges.length : Int)) ∧
      after = { a with marks := after.marks } ∧
      after.marks.marks.Perm (a.marks.marks ++ ranges.map (a.index.markOver label)) ∧
      (∀ range ∈ ranges, a.text.Delimits opener closer range.1 range.2) ∧
      (ranges.Pairwise fun x y => x.2 ≤ y.1) ∧
      (ranges.Pairwise fun x _ => ¬ a.text.Unclosed opener closer x.1) ∧
      (opener.length = 1 → ∀ p, a.text.Stands opener p → Meets opener closer after p) := by
  obtain ⟨slack, _, sound⟩ := handled.sound
  obtain ⟨ranges, pairs, count⟩ := @pairing_pairs opener closer label a opens closes 0 0 a.text rfl
  refine ⟨_, ranges, ?_, pairs.same, pairs.marks sound.marks, ?_, pairs.apart opens closes,
    pairs.closed opens closes, ?_⟩
  · have checked : (between opener (some closer)).check = .ok () := by
      simp [check_eq_ok_iff, IsRefused, targets, counts, opens, closes]
    simp only [run, checked, mark, ← count]
  · exact fun range member => (pairs.delimits opens closes range member).2
  · exact fun single p stands =>
      pairs.meets single closes sound.index sound.marks (Nat.zero_le p) stands

/-- A text of brackets with a mark on one that opens. -/
def bracketed : Annotator :=
  { Annotator.create {} "[a] [b] [c".toList (some false) with
    marks := MarkStore.empty.run [.insert 4 5 "other"] }

theorem between_pairs_bracketed :
    bracketed.Handled ∧
    ∃ (after : Annotator) (ranges : List (Nat × Nat)),
      (between ['['] (some [']'])).run {} bracketed "group" = .ok (after, (ranges.length : Int)) ∧
      ranges.length = 2 ∧ (ranges.Pairwise fun x y => x.2 ≤ y.1) ∧
      ∀ p, bracketed.text.Stands ['['] p → Meets ['['] [']'] after p := by
  have handled : bracketed.Handled := .edited (.create {} _ _) _
  obtain ⟨after, ranges, ran, _, _, _, apart, _, meets⟩ :=
    @between_pairs ['['] [']'] bracketed handled {} "group" (by simp) (by simp)
  have count : ((between ['['] (some [']'])).run {} bracketed "group").toOption.map (·.2) = some 2 := by
    decide +kernel
  rw [ran] at count
  have two : (ranges.length : Int) = 2 := by simpa [Except.toOption] using count
  exact ⟨handled, after, ranges, ran, by omega, apart, meets rfl⟩

end Matcher

end Highlight
