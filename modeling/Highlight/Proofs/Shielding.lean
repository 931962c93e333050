import Highlight.Proofs.Pairing

/-! Closers inside marks. A search with two delimiters passes over openers in taken clusters, but takes
the first closer behind an opener, wherever it stands. It does as if it passed over closers in taken
clusters too: a region that reaches to such a closer, or past it, is refused, and after a refusal the
search goes on behind the opener whatever the region was. `pairingBy` is the loop with the search for
closers left open, so that the two ways of looking for them can be compared. -/
namespace Highlight

def Annotator.findFree? (a : Annotator) (target : Text) (start : Nat) : Option Nat :=
  (List.range' start (a.text.length - start)).find? fun p =>
    target.isPrefixOf (a.text.drop p) && !a.marks.isTaken (a.index.toGrapheme p)

namespace Matcher

variable {opener closer : Text} {label : String} {a next : Annotator}

/-- Records regions from an opener through a closer of `width` characters that `seek` finds, given the
annotator at that moment and the position behind the opener. All else is as in `pairing`. -/
def pairingBy (seek : Annotator → Nat → Option Nat) (opener : Text) (width : Nat) (label : String) :
    Annotator → (position skip : Nat) → (rest : Text) → Annotator × Int
  | annotator, _, _, [] => (annotator, 0)
  | annotator, position, skip + 1, _ :: rest =>
    pairingBy seek opener width label annotator (position + 1) skip rest
  | annotator, position, 0, c :: rest =>
    if !opener.isPrefixOf (c :: rest) then
      pairingBy seek opener width label annotator (position + 1) 0 rest
    else if annotator.marks.isTaken (annotator.index.toGrapheme position) then
      pairingBy seek opener width label annotator (position + 1) (opener.length - 1) rest
    else
      match seek annotator (position + opener.length) with
      | none =>
        match annotator.markRaw position annotator.text.length label with
        | (next, true) => (next, 1)
        | (next, false) =>
          pairingBy seek opener width label next (position + 1) (opener.length - 1) rest
      | some close =>
        let stop := close + width
        match annotator.markRaw position stop label with
        | (next, true) =>
          let (last, count) :=
            pairingBy seek opener width label next (position + 1) (stop - position - 1) rest
          (last, 1 + count)
        | (next, false) =>
          pairingBy seek opener width label next (position + 1) (opener.length - 1) rest

/-- A way of looking for closers that passes over none but shielded ones: it finds the first closer, or
this stands in a taken cluster and what is found instead, if anything, is a closer behind it. -/
def Seeks (closer : Text) (seek : Annotator → Nat → Option Nat) : Prop :=
  ∀ (b : Annotator) (start : Nat), seek b start = b.text.find? closer start ∨
    ∃ close, b.text.find? closer start = some close ∧
      b.marks.isTaken (b.index.toGrapheme close) = true ∧
      ∀ later, seek b start = some later → close ≤ later ∧ b.text.Stands closer later

theorem seeks_find? (closer : Text) : Seeks closer fun b start => b.text.find? closer start :=
  fun _ _ => .inl rfl

theorem seeks_findFree? (closes : closer ≠ []) : Seeks closer fun b start => b.findFree? closer start := by
  intro b start
  have accepts (p : Nat) : (closer.isPrefixOf (b.text.drop p) &&
      !b.marks.isTaken (b.index.toGrapheme p)) = true ↔
        b.text.Stands closer p ∧ b.marks.isTaken (b.index.toGrapheme p) = false := by
    rw [Bool.and_eq_true, Bool.not_eq_true', Text.stands_iff]
  have found_stands {p : Nat} (found : b.findFree? closer start = some p) :
      start ≤ p ∧ b.text.Stands closer p := by
    obtain ⟨accepted, inside, _⟩ := List.find?_range'_eq_some.mp found
    exact ⟨(List.mem_range'_1.mp inside).1, ((accepts p).mp accepted).1⟩
  have first := Text.find?_cases b.text closes start
  split at first
  next close closed =>
    cases taken : b.marks.isTaken (b.index.toGrapheme close) with
    | true =>
      refine .inr ⟨close, closed, taken, fun later found => ?_⟩
      obtain ⟨after, stands⟩ := found_stands found
      exact ⟨first.least later after stands, stands⟩
    | false =>
      left
      rw [closed]
      have := first.after
      have := first.stands.le closes
      have := List.length_pos_iff.mpr closes
      refine List.find?_range'_eq_some.mpr ⟨(accepts close).mpr ⟨first.stands, taken⟩,
        List.mem_range'_1.mpr (by omega), fun p after before => ?_⟩
      rw [Bool.not_eq_true', Bool.eq_false_iff]
      intro accepted
      have := first.least p after ((accepts p).mp accepted).1
      omega
  next missing =>
    left
    rw [missing]
    apply Option.eq_none_iff_forall_ne_some.mpr
    intro p found
    exact first p (found_stands found).1 (found_stands found).2

theorem markRaw_shielded {p q stop : Nat} (index : a.index = .ofText a.text) (low : p ≤ q)
    (high : q < stop) (inside : stop ≤ a.text.length)
    (taken : a.marks.isTaken (a.index.toGrapheme q) = true) : a.markRaw p stop label = (a, false) := by
  have covered := GraphemeIndex.toGrapheme_mem_span low high inside
  rw [← index] at covered
  have touched := MarkStore.anyTaken_eq_true_iff.mpr ⟨_, covered.1, covered.2, taken⟩
  simp [Annotator.markRaw, Annotator.insert, MarkStore.insert, touched]

theorem Seeks.same_or_refused {seek : Annotator → Nat → Option Nat} (seeks : Seeks closer seek)
    (closes : closer ≠ []) (index : a.index = .ofText a.text) (label : String) {position start : Nat}
    (behind : position ≤ start) :
    seek a start = a.text.find? closer start ∨
      ∃ close, a.text.find? closer start = some close ∧
        a.markRaw position (close + closer.length : Nat) label = (a, false) ∧
        a.markRaw position a.text.length label = (a, false) ∧
        ∀ later, seek a start = some later →
          a.markRaw position (later + closer.length : Nat) label = (a, false) := by
  rcases seeks a start with same | ⟨close, closed, taken, passed⟩
  · exact .inl same
  have first := Text.find?_cases a.text closes start
  rw [closed] at first
  have low : position ≤ close := Nat.le_trans behind first.after
  have inside := first.stands.le closes
  have width := List.length_pos_iff.mpr closes
  refine .inr ⟨close, closed, ?_, ?_, fun later found => ?_⟩
  · exact markRaw_shielded index low (by omega) inside taken
  · exact markRaw_shielded index low (by omega) (Nat.le_refl _) taken
  · obtain ⟨after, stands⟩ := passed later found
    exact markRaw_shielded index low (by omega) (stands.le closes) taken

theorem pairingBy_refused {seek : Annotator → Nat → Option Nat} {width position : Nat} {c : Char}
    {rest : Text} (found : ¬ (!opener.isPrefixOf (c :: rest)) = true)
    (free : ¬ a.marks.isTaken (a.index.toGrapheme position) = true)
    (unclosed : seek a (position + opener.length) = none →
      a.markRaw position a.text.length label = (a, false))
    (closed : ∀ close, seek a (position + opener.length) = some close →
      a.markRaw position (close + width : Nat) label = (a, false)) :
    pairingBy seek opener width label a position 0 (c :: rest) =
      pairingBy seek opener width label a (position + 1) (opener.length - 1) rest := by
  rw [pairingBy, if_neg found, if_neg free]
  cases sought : seek a (position + opener.length) with
  | none => simp only [unclosed sought]
  | some close => simp only [closed close sought]

theorem pairing_eq_pairingBy {seek : Annotator → Nat → Option Nat} (seeks : Seeks closer seek)
    (closes : closer ≠ []) (index : a.index = .ofText a.text) (position skip : Nat) (rest : Text) :
    pairing opener closer label a position skip rest =
      pairingBy seek opener closer.length label a position skip rest := by
  have behind (position : Nat) : position ≤ position + opener.length := Nat.le_add_right _ _
  fun_induction pairing opener closer label a position skip rest with
  | case1 => rw [pairingBy]
  | case2 a position skip c rest ih =>
    rw [pairingBy]
    exact ih index
  | case3 a position c rest missed ih =>
    rw [pairingBy, if_pos missed]
    exact ih index
  | case4 a position c rest found taken ih =>
    rw [pairingBy, if_neg found, if_pos taken]
    exact ih index
  | case5 a position c rest found free unclosed after marked =>
    rcases seeks.same_or_refused closes index label (behind position) with same | ⟨_, closed, _⟩
    · rw [pairingBy, if_neg found, if_neg free, same, unclosed]
      simp only [marked]
    · rw [unclosed] at closed
      contradiction
  | case6 a position c rest found free unclosed after marked ih =>
    obtain rfl := markRaw_refused marked
    rw [ih index]
    symm
    apply pairingBy_refused found free (fun _ => marked)
    intro close sought
    rcases seeks.same_or_refused closes index label (behind position) with same | ⟨_, closed, _⟩
    · rw [same, unclosed] at sought
      contradiction
    · rw [unclosed] at closed
      contradiction
  | case7 a position c rest found free close closed stop after marked last count done ih =>
    have after_index : after.index = .ofText after.text := by
      rw [markRaw_same marked]
      exact index
    have tail := (ih after_index).symm.trans done
    rcases seeks.same_or_refused closes index label (behind position) with same | ⟨_, shielded, refused, _⟩
    · rw [pairingBy, if_neg found, if_neg free, same, closed]
      simp only
      rw [marked]
      simp only
      rw [tail]
    · obtain rfl : close = _ := Option.some.inj (closed.symm.trans shielded)
      rw [marked] at refused
      simp at refused
  | case8 a position c rest found free close closed stop after marked ih =>
    obtain rfl := markRaw_refused marked
    rw [ih index]
    symm
    rcases seeks.same_or_refused closes index label (behind position) with
      same | ⟨_, _, _, refused, refusedLater⟩
    · rw [closed] at same
      apply pairingBy_refused found free
      · intro sought
        rw [same] at sought
        contradiction
      · intro other sought
        obtain rfl : close = other := Option.some.inj (same.symm.trans sought)
        exact marked
    · exact pairingBy_refused found free (fun _ => refused) refusedLater

/-- A search with two delimiters runs a loop that takes the first closer behind an opener. The loop that
takes the first closer whose cluster is free at that moment, and the end of the text if there is none,
leads to the same marks and the same count. -/
theorem between_ignores_shielded (handled : a.Handled) (config : Config) (label : String)
    (opens : opener ≠ []) (closes : closer ≠ []) :
    (between opener (some closer)).run config a label =
      .ok (pairingBy (fun b start => b.text.find? closer start) opener closer.length label a 0 0 a.text) ∧
    (between opener (some closer)).run config a label =
      .ok (pairingBy (fun b start => b.findFree? closer start) opener closer.length label a 0 0 a.text) := by
  obtain ⟨slack, _, sound⟩ := handled.sound
  have checked : (between opener (some closer)).check = .ok () := by
    simp [check_eq_ok_iff, IsRefused, targets, counts, opens, closes]
  have run : (between opener (some closer)).run config a label =
      .ok (pairing opener closer label a 0 0 a.text) := by
    simp only [Matcher.run, checked, mark]
  constructor
  · rw [run, pairing_eq_pairingBy (seeks_find? closer) closes sound.index]
  · rw [run, pairing_eq_pairingBy (seeks_findFree? closes) closes sound.index]

def halfShielded : Annotator :=
  { Annotator.create {} "[a] [b]".toList (some false) with
    marks := MarkStore.empty.run [.insert 2 3 "other"] }

/-- The two ways of looking for a closer part here, and the regions recorded are the same. -/
theorem between_ignores_shielded_half :
    halfShielded.Handled ∧ halfShielded.text.find? [']'] 1 = some 2 ∧
    halfShielded.findFree? [']'] 1 = some 6 ∧
    (between ['['] (some [']'])).run {} halfShielded "group" =
      .ok (pairingBy (fun b start => b.findFree? [']'] start) ['['] 1 "group" halfShielded 0 0
        halfShielded.text) ∧
    (pairingBy (fun b start => b.findFree? [']'] start) ['['] 1 "group" halfShielded 0 0
      halfShielded.text).1.marks.marks = [⟨2, 3, "other"⟩, ⟨4, 7, "group"⟩] := by
  have handled : halfShielded.Handled := .edited (.create {} _ _) _
  have same := (@between_ignores_shielded ['['] [']'] halfShielded handled {} "group" (by simp)
    (by simp)).2
  exact ⟨handled, by decide +kernel, by decide +kernel, same, by decide +kernel⟩

end Matcher

end Highlight
