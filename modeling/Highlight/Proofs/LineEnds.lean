import Highlight.Proofs.Lines

/-! Regions through the end of the line. They are regions from an opener to a closer, the line feed, and the
course of that search is followed here from line to line: nothing is taken ahead of it, so the first place in
a line is recorded, its region is read over, and with it every other place in the line. -/
namespace Highlight

namespace Text

variable {text target : Text} {line : Line} {start p : Nat}

namespace Line

/-- The first place in a line, counted from its start, that has a target. -/
def first (target : Text) (line : Line) : Nat := line.body.tails.findIdx fun rest => target.isPrefixOf rest

def rangeFrom (target : Text) (line : Line) : Nat × Nat := (line.start + line.first target, line.stop)

theorem first_spec (contains : target <:+: line.body) :
    target <+: line.body.drop (line.first target) ∧
      ∀ k < line.first target, ¬ target <+: line.body.drop k := by
  have found : ∃ rest ∈ line.body.tails, target.isPrefixOf rest = true := by
    obtain ⟨rest, starts, tail⟩ := List.infix_iff_prefix_suffix.mp contains
    exact ⟨rest, (List.mem_tails _ _).mpr tail, List.isPrefixOf_iff_prefix.mpr starts⟩
  have here := @List.findIdx_getElem _ _ _ (List.findIdx_lt_length_of_exists found)
  rw [List.getElem_tails, List.isPrefixOf_iff_prefix] at here
  refine ⟨here, fun k before starts => ?_⟩
  have missed := List.not_of_lt_findIdx before
  rw [List.getElem_tails, List.isPrefixOf_iff_prefix.mpr starts] at missed
  contradiction

theorem first_le (nonempty : target ≠ []) (contains : target <:+: line.body) :
    line.first target + target.length ≤ line.body.length := by
  have short := (Line.first_spec contains).1.length_le
  have width := List.length_pos_iff.mpr nonempty
  rw [List.length_drop] at short
  omega

theorem includes_rangeFrom (nonempty : target ≠ []) (contains : target <:+: line.body) :
    line.Includes (line.rangeFrom target) := by
  have within := Line.first_le nonempty contains
  have width := List.length_pos_iff.mpr nonempty
  constructor
  · exact Nat.le_add_right _ _
  · simp only [Line.rangeFrom, Line.stop]
    omega
  · exact Nat.le_refl _

end Line

namespace IsLine

theorem isFirst (isLine : text.IsLine line) (nonempty : target ≠ []) (plain : '\n' ∉ target)
    (contains : target <:+: line.body) :
    text.IsFirst target line.start (line.start + line.first target) := by
  obtain ⟨here, none⟩ := Line.first_spec contains
  have within := Line.first_le nonempty contains
  refine ⟨Nat.le_add_right _ _, (isLine.stands_iff nonempty plain (by omega)).mpr here, ?_⟩
  intro q after stands
  apply Nat.le_of_not_lt
  intro before
  rw [← Nat.add_sub_cancel' after] at stands
  exact none (q - line.start) (by omega) ((isLine.stands_iff nonempty plain (by omega)).mp stands)

theorem not_stands (isLine : text.IsLine line) (nonempty : target ≠ []) (plain : '\n' ∉ target)
    (lacks : ¬ target <:+: line.body) (after : line.start ≤ p) (before : p < line.stop) :
    ¬ text.Stands target p := by
  intro stands
  have within : p - line.start ≤ line.body.length := by
    rcases isLine.stop_cases with ⟨_, stop, _⟩ | ⟨_, stop, _⟩ <;> omega
  rw [← Nat.add_sub_cancel' after, isLine.stands_iff nonempty plain within] at stands
  exact lacks (stands.isInfix.trans (List.drop_suffix _ _).isInfix)

theorem stop_eq (isLine : text.IsLine line) (nonempty : target ≠ []) (contains : target <:+: line.body)
    {stop : Nat} (delimits : text.Delimits target ['\n'] (line.start + line.first target) stop) :
    stop = line.stop := by
  have within := Line.first_le nonempty contains
  cases delimits with
  | @closed close _ closes =>
    have low := isLine.lineFeed_le (Nat.le_trans (by omega) closes.after)
      (stands_single_iff.mp closes.stands)
    have inside := closes.stands.lt (by simp)
    rw [List.length_singleton]
    rcases isLine.stop_cases with ⟨_, stop, feed⟩ | ⟨_, stop, last⟩
    · have high := closes.least _ (by omega) (stands_single_iff.mpr feed)
      omega
    · omega
  | unclosed _ none =>
    rcases isLine.stop_cases with ⟨_, _, feed⟩ | ⟨_, _, last⟩
    · exact absurd (stands_single_iff.mpr feed) (none _ (by omega))
    · exact last.symm

end IsLine

theorem IsFirst.forward {later : Nat} (first : text.IsFirst target start p) (le : start ≤ later)
    (missing : ∀ q, start ≤ q → q < later → ¬ text.Stands target q) : text.IsFirst target later p where
  after := Nat.le_of_not_lt fun before => missing p first.after before first.stands
  stands := first.stands
  least := fun q after => first.least q (Nat.le_trans le after)

end Text

namespace Matcher

variable {a b next : Annotator} {opener closer target : Text} {label : String} {cursor later p stop : Nat}
  {ranges : List (Nat × Nat)}

theorem Pairs.forward (pairs : Pairs opener closer label a cursor b ranges) (le : cursor ≤ later)
    (missing : ∀ q, cursor ≤ q → q < later → ¬ a.text.Stands opener q) :
    Pairs opener closer label a later b ranges := by
  cases pairs with
  | done none => exact .done fun p after => none p (Nat.le_trans le after)
  | shielded first taken rest => exact .shielded (first.forward le missing) taken rest
  | refused first free delimits refused rest =>
    exact .refused (first.forward le missing) free delimits refused rest
  | recorded first free delimits recorded rest =>
    exact .recorded (first.forward le missing) free delimits recorded rest

theorem Pairs.ranges_nil (pairs : Pairs opener closer label a cursor b ranges) (opens : opener ≠ [])
    (past : a.text.length ≤ cursor) : ranges = [] := by
  have nowhere {p : Nat} (first : a.text.IsFirst opener cursor p) : False :=
    Nat.lt_irrefl _ (Nat.lt_of_lt_of_le (first.stands.lt opens) (Nat.le_trans past first.after))
  cases pairs with
  | done => rfl
  | shielded first => exact (nowhere first).elim
  | refused first => exact (nowhere first).elim
  | recorded first => exact (nowhere first).elim

/-- Every cluster that is taken lies before those from a position on. -/
def Ahead (a : Annotator) (cursor : Nat) : Prop :=
  ∀ i, a.marks.isTaken i = true → ∀ p : Nat, cursor ≤ p → p < a.text.length → i < a.index.toGrapheme p

theorem Pairs.next_recorded (pairs : Pairs opener closer label a cursor b ranges) (opens : opener ≠ [])
    (closes : closer ≠ []) (index : a.index = .ofText a.text) (ahead : Ahead a cursor)
    (first : a.text.IsFirst opener cursor p) :
    ∃ next stop rest, a.text.Delimits opener closer p stop ∧ a.markRaw p stop label = (next, true) ∧
      Pairs opener closer label next stop b rest ∧ ranges = (p, stop) :: rest := by
  have free {i : Int} (taken : a.marks.isTaken i = true) : i < a.index.toGrapheme p :=
    ahead i taken p first.after (first.stands.lt opens)
  cases pairs with
  | done missing => exact absurd first.stands (missing p first.after)
  | shielded other taken =>
    obtain rfl := first.unique other
    exact absurd (free taken) (Int.lt_irrefl _)
  | @refused _ _ _ _ stop _ other _ delimits refused =>
    -- Some cluster of the region is taken, and none of them lies before the opener.
    obtain rfl := first.unique other
    obtain ⟨proper, inside⟩ := delimits.bounds opens closes
    obtain ⟨i, low, _, taken⟩ := exists_taken_of_refused index proper inside refused
    rw [GraphemeIndex.span_fst] at low
    exact absurd (free taken) (Int.not_lt.mpr low)
  | recorded other _ delimits recorded rest =>
    obtain rfl := first.unique other
    exact ⟨_, _, _, delimits, recorded, rest, rfl⟩

theorem Ahead.behind {line : Text.Line} (ahead : Ahead a line.start) (sound : a.marks.Sound)
    (index : a.index = .ofText a.text) (isLine : a.text.IsLine line) (includes : line.Includes (p, line.stop))
    (recorded : a.markRaw p line.stop label = (next, true)) : Ahead next line.stop := by
  obtain ⟨_, _, isTaken⟩ := markRaw_recorded sound recorded
  intro i taken q after inside
  rw [markRaw_same recorded] at inside ⊢
  have low := includes.low
  have proper := includes.proper
  simp only at low proper inside ⊢
  rcases (isTaken i).mp taken with ⟨_, high⟩ | before
  · rcases isLine.stop_boundary with ends | starts
    · omega
    · have apart := @GraphemeIndex.span_apart a.text p line.stop line.stop q (q + 1) proper (Nat.le_refl _)
        after (Nat.lt_succ_self q) inside starts
      rw [← index, GraphemeIndex.span_fst] at apart
      omega
  · exact ahead i before q (by omega) inside

/-- The search goes from line to line: of each line that has the target it records the region from the first
place on, and all others it passes over. -/
theorem Pairs.ranges_eq {text : Text} {start : Nat} {lines : List Text.Line} (lined : text.Lined start lines)
    (pairs : Pairs target ['\n'] label a start b ranges) (same : a.text = text) (nonempty : target ≠ [])
    (plain : '\n' ∉ target) (index : a.index = .ofText a.text) (sound : a.marks.Sound)
    (ahead : Ahead a start) :
    ranges = (lines.filter fun line => decide (target <:+: line.body)).map (Text.Line.rangeFrom target) := by
  -- From line to line; that nothing is taken ahead holds at the start of each of them.
  induction lined generalizing a ranges with
  | done => exact pairs.ranges_nil nonempty (by rw [same])
  | @line line rest isLine _ ih =>
    subst same
    by_cases contains : target <:+: line.body
    · obtain ⟨next, stop, others, delimits, recorded, later, rfl⟩ :=
        pairs.next_recorded nonempty (by simp) index ahead (isLine.isFirst nonempty plain contains)
      obtain rfl := isLine.stop_eq nonempty contains delimits
      have kept := markRaw_same recorded
      have behind := ahead.behind sound index isLine (Text.Line.includes_rangeFrom nonempty contains) recorded
      rw [List.filter_cons_of_pos (by simpa using contains), List.map_cons]
      rw [ih later (by rw [kept]) (by rw [kept]; exact index) (markRaw_recorded sound recorded).1 behind]
      rfl
    · rw [List.filter_cons_of_neg (by simpa using contains)]
      have le : line.start ≤ line.stop := Nat.le_trans (Nat.le_add_right _ _) (Nat.le_add_right _ _)
      have later := pairs.forward le fun q => isLine.not_stands nonempty plain contains
      exact ih later rfl index sound fun i taken q after => ahead i taken q (Nat.le_trans le after)

/-- The mark over a region through the end of its line ends with the line, and begins in the line, with the
cluster that the target begins in. -/
theorem toRaw_markOver_rangeFrom {line : Text.Line} (index : a.index = .ofText a.text)
    (isLine : a.text.IsLine line) (nonempty : target ≠ []) (contains : target <:+: line.body) (label : String) :
    let mark := a.index.markOver label (line.rangeFrom target)
    ∃ first : Nat, line.start ≤ first ∧ first ≤ line.start + line.first target ∧
      a.index.toRaw mark.start mark.stop = ((first : Int), (line.stop : Int)) := by
  have raw := GraphemeIndex.toRaw_markOver isLine (Text.Line.includes_rangeFrom nonempty contains) label
    isLine.stop_boundary
  rw [← index] at raw
  exact raw

/-- On a text without marks, a search through the end of the line marks every line that has the target once,
from the first place in it on. -/
theorem lines_containing (handled : a.Handled) (unmarked : a.marks.marks = []) (config : Config)
    (label : String) (nonempty : target ≠ []) (plain : '\n' ∉ target) :
    let found := a.text.lines.filter fun line => decide (target <:+: line.body)
    ∃ after : Annotator,
      (lineAfter target).run config a label = .ok (after, (found.length : Int)) ∧
      after = { a with marks := after.marks } ∧
      after.marks.marks = found.map (fun line => a.index.markOver label (line.rangeFrom target)) ∧
      (after.marks.marks.Pairwise fun x y => x.stop ≤ y.start) ∧
      ∀ line ∈ found,
        let mark := a.index.markOver label (line.rangeFrom target)
        a.text.IsFirst target line.start (line.start + line.first target) ∧
        line.first target + target.length ≤ line.body.length ∧
        ∃ first : Nat, line.start ≤ first ∧ first ≤ line.start + line.first target ∧
          a.index.toRaw mark.start mark.stop = ((first : Int), (line.stop : Int)) := by
  intro found
  obtain ⟨slack, positive, sound⟩ := handled.sound
  have lined := a.text.lines_lined
  have isLine : ∀ line ∈ found, a.text.IsLine line := fun line member =>
    lined.isLine (List.mem_filter.mp member).1
  have contains : ∀ line ∈ found, target <:+: line.body := fun line member =>
    of_decide_eq_true (List.mem_filter.mp member).2
  obtain ⟨ranges, pairs, count⟩ :=
    @pairing_pairs target ['\n'] label a nonempty (List.cons_ne_nil _ _) 0 0 a.text rfl
  have ahead : Ahead a 0 := by
    intro i taken
    rw [sound.marks.isTaken_unmarked unmarked i] at taken
    contradiction
  obtain rfl := pairs.ranges_eq lined rfl nonempty plain sound.index sound.marks ahead
  have ordered := GraphemeIndex.markOver_ordered (lined.ordered.filter _) isLine
    (fun line member => Text.Line.includes_rangeFrom nonempty (contains line member)) label
  rw [← sound.index] at ordered
  have marks : ((lineAfter target).mark config a label).1.marks.marks =
      found.map fun line => a.index.markOver label (line.rangeFrom target) := by
    have grown := (mark_grows config sound.starts_ne_nil label (lineAfter target)).loosen
      (Int.le_trans Int.one_nonneg positive)
    have listed := pairs.marks sound.marks
    rw [unmarked, List.nil_append, List.map_map] at listed
    exact (sound.grows grown).marks.marks_eq listed ordered
  refine ⟨((lineAfter target).mark config a label).1, ?_, pairs.same, marks, marks ▸ ordered, ?_⟩
  · have checked : (lineAfter target).check = .ok () := by
      simp [check_eq_ok_iff, IsRefused, targets, counts, nonempty]
    rw [List.length_map] at count
    simp only [run, checked, mark]
    rw [← count]
  · exact fun line member => ⟨(isLine line member).isFirst nonempty plain (contains line member),
      Text.Line.first_le nonempty (contains line member),
      toRaw_markOver_rangeFrom sound.index (isLine line member) nonempty (contains line member) label⟩

/-- A line that has an accent and a number sign twice, one that has none, and one that begins with them. -/
def accented : Annotator := .create {} "e\u0301# e\u0301#\r\nplain\r\n\u0301#".toList (some false)

theorem lines_containing_accented :
    accented.Handled ∧ accented.marks.marks = [] ∧ '\n' ∉ "\u0301#".toList ∧
    ∃ after : Annotator, (lineAfter "\u0301#".toList).run {} accented "comment" = .ok (after, 2) ∧
      after.marks.marks.map accented.textOf = ["e\u0301# e\u0301#\r\n".toList, "\u0301#".toList] := by
  have handled : accented.Handled := .create {} _ _
  have plain : '\n' ∉ "\u0301#".toList := by simp
  obtain ⟨after, ran, _, marks, _⟩ :=
    @lines_containing accented "\u0301#".toList handled rfl {} "comment" (by simp) plain
  have texts : ((accented.text.lines.filter fun line => decide ("\u0301#".toList <:+: line.body)).map
      fun line => accented.index.markOver "comment" (line.rangeFrom "\u0301#".toList)).map accented.textOf =
      ["e\u0301# e\u0301#\r\n".toList, "\u0301#".toList] := by
    decide +kernel
  have count := congrArg List.length texts
  rw [List.length_map, List.length_map] at count
  rw [count] at ran
  rw [← marks] at texts
  exact ⟨handled, rfl, plain, after, ran, texts⟩

end Matcher

end Highlight
