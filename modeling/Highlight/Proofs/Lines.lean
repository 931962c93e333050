import Mathlib.Data.List.Infix
import Mathlib.Data.List.Sort
import Highlight.Proofs.Configured
import Highlight.Proofs.Escapes
import Highlight.Proofs.Vocabulary

/-! Searches line by line. Line feeds separate the lines of a text. No cluster reaches over a line feed, and
the one that holds it holds at most a carriage return besides, so the clusters of a line are its own and a
boundary falls before its end. Raw ranges in different lines can therefore all be marked, and a search for a
beginning of lines marks just the lines that begin so. -/
namespace Highlight

open BreakProperty

namespace Grapheme

variable {text : Text} {i : Nat}

/-- Control characters are alone in their clusters, but for a carriage return before a line feed. -/
theorem mem_starts_of_control {b c : Char} (before : text[i - 1]? = some b) (here : text[i]? = some c)
    (controls : ofChar b = control ∨ ofChar c = control) (apart : b = '\r' → c ≠ '\n') :
    i ∈ starts text := by
  rw [mem_starts_iff (List.getElem?_eq_some_iff.mp here).1]
  right
  rintro ⟨_, _, same, alike, joined⟩
  obtain rfl := Option.some.inj (before.symm.trans same)
  obtain rfl := Option.some.inj (here.symm.trans alike)
  rcases joined with ⟨carriage, feed⟩ | ⟨first, second, _⟩
  · exact apart carriage feed
  · exact controls.elim first second

theorem mem_starts_of_lineFeed (inside : i < text.length)
    (left : i = 0 ∨ text[i - 1]? = some '\n') : i ∈ starts text := by
  rcases left with zero | feed
  · exact (mem_starts_iff inside).mpr (.inl zero)
  · exact mem_starts_of_control feed (List.getElem?_eq_getElem inside) (.inl rfl) (by simp)

end Grapheme

namespace GraphemeIndex

variable {text : Text} {start stop bound : Nat}

theorem toRaw_span (proper : start < stop) (inside : stop ≤ text.length)
    (starts : bound ∈ Grapheme.starts text) (before : bound ≤ start)
    (ends : stop = text.length ∨ stop ∈ Grapheme.starts text) :
    ∃ first : Nat, bound ≤ first ∧ first ≤ start ∧
      (ofText text).toRaw ((ofText text).span start stop).1 ((ofText text).span start stop).2 =
        ((first : Int), (stop : Int)) := by
  have placed {p : Nat} (member : p ∈ Grapheme.starts text) : ∃ i, Grapheme.startAt text i = p := by
    obtain ⟨i, here⟩ := List.mem_iff_getElem?.mp member
    exact ⟨i, by simp [Grapheme.startAt, here]⟩
  obtain ⟨s, e, range, ordered, within, atStart, atStop⟩ := span_bounds proper inside
  rw [range, toRaw_of_le (Int.natCast_nonneg s) (Int.ofNat_le.mpr (Nat.le_of_lt ordered))]
  simp only [Int.toNat_natCast, Prod.mk.injEq, Int.ofNat_inj]
  obtain ⟨i, rfl⟩ := placed starts
  refine ⟨Grapheme.startAt text s, ?_, (atStart s).mp (Nat.le_refl s), rfl, ?_⟩
  · exact Grapheme.startAt_mono ((atStart i).mpr before)
  · have covered := (atStop e).mp (Nat.le_refl e)
    rcases ends with rfl | boundary
    · exact Nat.le_antisymm (Grapheme.startAt_le text e) covered
    · obtain ⟨j, rfl⟩ := placed boundary
      exact Nat.le_antisymm (Grapheme.startAt_mono ((atStop j).mpr (Nat.le_refl _))) covered

end GraphemeIndex

namespace Text

/-- A line: the position of its first character, its characters up to the line feed, and whether there is
one. -/
structure Line where
  start : Nat
  body : Text
  ended : Bool

namespace Line

def stop (line : Line) : Nat := line.start + line.body.length + if line.ended then 1 else 0

/-- The line without a carriage return that stands before the line feed. -/
def content (line : Line) : Text :=
  if line.ended ∧ line.body.getLast? = some '\r' then line.body.dropLast else line.body

def contentRange (line : Line) : Nat × Nat := (line.start, line.start + line.content.length)

/-- A raw range that is not empty and lies in the line or its line feed. -/
structure Includes (line : Line) (range : Nat × Nat) : Prop where
  low : line.start ≤ range.1
  proper : range.1 < range.2
  high : range.2 ≤ line.stop

end Line

/-- Pieces of a text as its lines from a position on: all but the last one end with a line feed. -/
def linesFrom (start : Nat) : List Text → List Line
  | [] => []
  | [body] => [⟨start, body, false⟩]
  | body :: next :: rest =>
    ⟨start, body, true⟩ :: linesFrom (start + body.length + 1) (next :: rest)

/-- The lines of a text, of which there is one more than line feeds. -/
def lines (text : Text) : List Line := linesFrom 0 (text.splitOn '\n')

structure IsLine (text : Text) (line : Line) : Prop where
  left : line.start = 0 ∨ text[line.start - 1]? = some '\n'
  plain : '\n' ∉ line.body
  stands : text.Stands line.body line.start
  closed : line.ended = true → text[line.start + line.body.length]? = some '\n'
  unclosed : line.ended = false → line.start + line.body.length = text.length

inductive Lined (text : Text) : (start : Nat) → List Line → Prop where
  | done : Lined text text.length []
  | line {line : Line} {rest : List Line} (isLine : text.IsLine line) (later : Lined text line.stop rest) :
      Lined text line.start (line :: rest)

variable {text target : Text} {line : Line} {lines : List Line} {start p k : Nat} {range : Nat × Nat}

theorem Stands.getElem? (stands : text.Stands target p) (inside : k < target.length) :
    text[p + k]? = target[k]? := by
  obtain ⟨rest, split⟩ := stands
  rw [← List.getElem?_drop, ← split, List.getElem?_append_left inside]

theorem Stands.slice_eq (stands : text.Stands target p) :
    text.slice (p : Int) ((p + target.length : Nat) : Int) = target := by
  have width : (((p + target.length : Nat) : Int) - p).toNat = target.length := by omega
  rw [slice, Int.toNat_natCast, width]
  exact (List.prefix_iff_eq_take.mp stands).symm

theorem not_mem_of_mem_splitOn {c : Char} {piece : Text} (member : piece ∈ text.splitOn c) :
    c ∉ piece := by
  rw [List.splitOn_eq_splitOnP] at member
  induction text generalizing piece with
  | nil => simp_all
  | cons d rest ih =>
    rw [List.splitOnP_cons_eq_if_modifyHead] at member
    split at member
    · rcases List.mem_cons.mp member with rfl | later
      · exact List.not_mem_nil
      · exact ih later
    next other =>
      obtain ⟨head, tail, split⟩ := List.exists_cons_of_ne_nil (List.splitOnP_ne_nil (· == c) rest)
      rw [split, List.modifyHead_cons] at member
      rcases List.mem_cons.mp member with rfl | later
      · refine List.not_mem_cons_of_ne_of_not_mem ?_ (ih (by simp [split]))
        rintro rfl
        exact other (beq_self_eq_true c)
      · exact @ih piece (by simp [split, later])

theorem linesFrom_lined {pieces : List Text} (nonempty : pieces ≠ [])
    (plain : ∀ piece ∈ pieces, '\n' ∉ piece) (left : start = 0 ∨ text[start - 1]? = some '\n')
    (inside : start ≤ text.length) (here : text.drop start = ['\n'].intercalate pieces) :
    Lined text start (linesFrom start pieces) := by
  fun_induction linesFrom start pieces with
  | case1 => contradiction
  | case2 start body =>
    rw [List.intercalate_singleton] at here
    have ends : start + body.length = text.length := by
      rw [← here, List.length_drop]
      omega
    have isLine : text.IsLine ⟨start, body, false⟩ :=
      ⟨left, plain body (by simp), by rw [Stands, here], by simp, fun _ => ends⟩
    refine .line isLine ?_
    simp only [Line.stop, ends]
    exact .done
  | case3 start body next rest ih =>
    rw [List.intercalate_cons_cons, List.append_assoc, List.singleton_append] at here
    have behind : text.drop (start + body.length + 1) = ['\n'].intercalate (next :: rest) := by
      rw [Nat.add_assoc, ← List.drop_drop, here, List.drop_append, List.drop_eq_nil_of_le (by omega)]
      simp
    have feed : text[start + body.length]? = some '\n' := by
      rw [← List.getElem?_drop, here, List.getElem?_append_right (Nat.le_refl _)]
      simp
    have isLine : text.IsLine ⟨start, body, true⟩ :=
      ⟨left, plain body (by simp), by rw [Stands, here]; exact List.prefix_append _ _, fun _ => feed,
        by simp⟩
    exact .line isLine (ih (by simp) (fun piece member => plain piece (List.mem_cons_of_mem _ member))
      (.inr feed) (List.getElem?_eq_some_iff.mp feed).1 behind)

theorem lines_lined (text : Text) : Lined text 0 text.lines :=
  linesFrom_lined (List.splitOn_ne_nil _ _) (fun _ => not_mem_of_mem_splitOn) (.inl rfl) (Nat.zero_le _)
    (List.intercalate_splitOn _).symm

namespace IsLine

theorem stop_cases (isLine : text.IsLine line) :
    (line.ended = true ∧ line.stop = line.start + line.body.length + 1 ∧
      text[line.start + line.body.length]? = some '\n') ∨
    (line.ended = false ∧ line.stop = line.start + line.body.length ∧ line.stop = text.length) := by
  cases ended : line.ended with
  | false =>
    have last := isLine.unclosed ended
    exact .inr ⟨rfl, by simp [Line.stop, ended], by simp [Line.stop, ended, last]⟩
  | true => exact .inl ⟨rfl, by simp [Line.stop, ended], isLine.closed ended⟩

theorem stop_le (isLine : text.IsLine line) : line.stop ≤ text.length := by
  rcases isLine.stop_cases with ⟨_, stop, feed⟩ | ⟨_, _, last⟩
  · have inside := (List.getElem?_eq_some_iff.mp feed).1
    omega
  · exact Nat.le_of_eq last

theorem lineFeed_le (isLine : text.IsLine line) (after : line.start ≤ p) (feed : text[p]? = some '\n') :
    line.start + line.body.length ≤ p := by
  apply Nat.le_of_not_lt
  intro inside
  have spelled := isLine.stands.getElem? (show p - line.start < line.body.length by omega)
  rw [Nat.add_sub_cancel' after, feed] at spelled
  exact isLine.plain (List.mem_of_getElem? spelled.symm)

theorem stands_iff (isLine : text.IsLine line) (nonempty : target ≠ []) (plain : '\n' ∉ target)
    (inside : k ≤ line.body.length) :
    text.Stands target (line.start + k) ↔ target <+: line.body.drop k := by
  have part : line.body.drop k <+: text.drop (line.start + k) := by
    rw [← List.drop_drop]
    exact isLine.stands.drop k
  constructor
  · intro stands
    refine List.prefix_of_prefix_length_le stands part (Nat.le_of_not_lt fun longer => ?_)
    rw [List.length_drop] at longer
    -- A longer target would have the line feed in it, or reach past the text.
    rcases isLine.stop_cases with ⟨_, _, feed⟩ | ⟨_, stop, last⟩
    · have spelled := stands.getElem? longer
      rw [Nat.add_assoc, Nat.add_sub_cancel' inside, feed] at spelled
      exact plain (List.mem_of_getElem? spelled.symm)
    · have := stands.le nonempty
      omega
  · exact fun starts => starts.trans part

theorem mem_starts (isLine : text.IsLine line) (includes : line.Includes range) :
    line.start ∈ Grapheme.starts text := by
  have := includes.low
  have := includes.proper
  have := includes.high
  have := isLine.stop_le
  exact Grapheme.mem_starts_of_lineFeed (by omega) isLine.left

theorem stop_boundary (isLine : text.IsLine line) :
    line.stop = text.length ∨ line.stop ∈ Grapheme.starts text := by
  rcases Nat.eq_or_lt_of_le isLine.stop_le with ends | inside
  · exact .inl ends
  · rcases isLine.stop_cases with ⟨_, stop, feed⟩ | ⟨_, _, last⟩
    · rw [stop] at inside ⊢
      exact .inr (Grapheme.mem_starts_of_lineFeed inside (.inr feed))
    · exact .inl last

end IsLine

namespace Lined

theorem le (lined : Lined text start lines) (member : line ∈ lines) : start ≤ line.start := by
  induction lined with
  | done => simp at member
  | line _ _ ih =>
    rcases List.mem_cons.mp member with rfl | later
    · exact Nat.le_refl _
    · have := ih later
      simp only [Line.stop] at this
      omega

theorem isLine (lined : Lined text start lines) (member : line ∈ lines) : text.IsLine line := by
  induction lined with
  | done => simp at member
  | line isLine _ ih =>
    rcases List.mem_cons.mp member with rfl | later
    · exact isLine
    · exact ih later

theorem ordered (lined : Lined text start lines) : lines.Pairwise fun x y => x.stop ≤ y.start := by
  induction lined with
  | done => exact .nil
  | line _ later ih => exact List.pairwise_cons.mpr ⟨fun _ member => later.le member, ih⟩

theorem exists_line (lined : Lined text start lines) (after : start ≤ p) (inside : p < text.length)
    (left : p = 0 ∨ text[p - 1]? = some '\n') : ∃ line ∈ lines, line.start = p := by
  induction lined with
  | done => omega
  | @line line rest isLine _ ih =>
    by_cases behind : line.stop ≤ p
    · obtain ⟨found, member, here⟩ := ih behind
      exact ⟨found, List.mem_cons_of_mem line member, here⟩
    · refine ⟨line, List.mem_cons_self, Nat.le_antisymm after (Nat.le_of_not_lt fun before => ?_)⟩
      rcases left with rfl | feed
      · omega
      · have := isLine.lineFeed_le (by omega) feed
        rcases isLine.stop_cases with ⟨_, stop, _⟩ | ⟨_, stop, _⟩ <;> omega

end Lined

namespace IsLine

theorem find?_lineFeed (isLine : text.IsLine line) :
    text.find? ['\n'] line.start = if line.ended then some (line.start + line.body.length) else none := by
  have found := find?_cases text (List.cons_ne_nil '\n' []) line.start
  rcases isLine.stop_cases with ⟨ended, _, feed⟩ | ⟨ended, stop, last⟩
  · rw [if_pos ended]
    have stands := stands_single_iff.mpr feed
    split at found
    next p search =>
      have low := isLine.lineFeed_le found.after (stands_single_iff.mp found.stands)
      have high := found.least _ (Nat.le_add_right _ _) stands
      rw [search, Nat.le_antisymm high low]
    next => exact absurd stands (found _ (Nat.le_add_right _ _))
  · rw [if_neg (by simp [ended])]
    split at found
    next p search =>
      have low := isLine.lineFeed_le found.after (stands_single_iff.mp found.stands)
      have := found.stands.lt (by simp)
      omega
    next search => exact search

theorem getLast?_body (isLine : text.IsLine line) (nonempty : line.body ≠ []) :
    line.body.getLast? = text[line.start + line.body.length - 1]? := by
  have width := List.length_pos_iff.mpr nonempty
  rw [List.getLast?_eq_getElem?, ← isLine.stands.getElem? (by omega), Nat.add_sub_assoc width]

end IsLine

/-- What a line is without its end: all of it, unless it ends with a carriage return and a line feed. -/
theorem Line.content_cases (line : Line) :
    (line.ended = true ∧ line.body.getLast? = some '\r' ∧ line.content = line.body.dropLast) ∨
    ((line.ended = true → line.body.getLast? ≠ some '\r') ∧ line.content = line.body) := by
  by_cases carriage : line.ended = true ∧ line.body.getLast? = some '\r'
  · exact .inl ⟨carriage.1, carriage.2, if_pos carriage⟩
  · exact .inr ⟨fun ended last => carriage ⟨ended, last⟩, if_neg carriage⟩

theorem Line.content_prefix (line : Line) : line.content <+: line.body := by
  rcases line.content_cases with ⟨_, _, content⟩ | ⟨_, content⟩
  · exact content ▸ List.dropLast_prefix _
  · exact content ▸ List.prefix_rfl

theorem Line.prefix_content (starts : target <+: line.body) (plain : '\r' ∉ target) :
    target <+: line.content := by
  rcases line.content_cases with ⟨_, last, content⟩ | ⟨_, content⟩
  · rw [content]
    refine List.prefix_of_prefix_length_le starts (List.dropLast_prefix _) (Nat.le_of_not_lt fun longer => ?_)
    have short := starts.length_le
    rw [List.length_dropLast] at longer
    have whole : target = line.body := starts.eq_of_length (by omega)
    exact plain (whole ▸ List.mem_of_getLast? last)
  · rwa [content]

namespace IsLine

theorem lineStop_eq (isLine : text.IsLine line) (nonempty : target ≠ []) (starts : target <+: line.body)
    (plain : '\r' ∉ target) :
    Matcher.lineStop text line.start target.length = line.start + line.content.length := by
  have width := List.length_pos_iff.mpr nonempty
  have short := starts.length_le
  have held := (Line.prefix_content starts plain).length_le
  have last := isLine.getLast?_body (List.ne_nil_of_length_pos (by omega))
  rw [Matcher.lineStop, isLine.find?_lineFeed]
  rcases line.content_cases with ⟨ended, carriage, content⟩ | ⟨other, content⟩
  · rw [content, List.length_dropLast] at held
    rw [if_pos ended]
    simp only
    rw [if_pos ⟨by omega, last ▸ carriage⟩, content, List.length_dropLast]
    omega
  · rw [content]
    cases ended : line.ended with
    | false => exact (isLine.unclosed ended).symm
    | true => exact if_neg fun carriage => other ended (last.trans carriage.2)

theorem includes_content (nonempty : target ≠ []) (starts : target <+: line.body)
    (plain : '\r' ∉ target) : line.Includes line.contentRange := by
  have width := List.length_pos_iff.mpr nonempty
  have held := (Line.prefix_content starts plain).length_le
  have short := line.content_prefix.length_le
  constructor
  · exact Nat.le_refl _
  · simp only [Line.contentRange]
    omega
  · simp only [Line.contentRange, Line.stop]
    omega

theorem content_boundary (isLine : text.IsLine line) (nonempty : line.body ≠ []) :
    line.start + line.content.length = text.length ∨
      line.start + line.content.length ∈ Grapheme.starts text := by
  have width := List.length_pos_iff.mpr nonempty
  have last := isLine.getLast?_body nonempty
  rcases line.content_cases with ⟨ended, carriage, content⟩ | ⟨other, content⟩
  · right
    rw [content, List.length_dropLast, ← Nat.add_sub_assoc width]
    rw [last] at carriage
    have inside := (List.getElem?_eq_some_iff.mp carriage).1
    exact Grapheme.mem_starts_of_control (List.getElem?_eq_getElem (by omega)) carriage (.inr rfl) (by simp)
  · rw [content]
    cases ended : line.ended with
    | false => exact .inl (isLine.unclosed ended)
    | true =>
      right
      have feed := isLine.closed ended
      have inside := (List.getElem?_eq_some_iff.mp feed).1
      have before := List.getElem?_eq_getElem (show line.start + line.body.length - 1 < text.length by omega)
      refine Grapheme.mem_starts_of_control before feed (.inr rfl) fun carriage => ?_
      rw [carriage, ← last] at before
      exact absurd before (other ended)

end IsLine

/-- Where a target without line feeds begins a line, it occurs: no other occurrence reaches over the line
feed before it. -/
theorem filter_startsLine (nonempty : target ≠ []) (plain : '\n' ∉ target) :
    (text.occurrences target).filter (Matcher.startsLine text) =
      (text.lines.filter fun line => target.isPrefixOf line.body).map Line.start := by
  have lined := text.lines_lined
  have chosen := @occurrences_selects text target nonempty
  have startsLine_iff {p : Nat} : Matcher.startsLine text p = true ↔ p = 0 ∨ text[p - 1]? = some '\n' := by
    simp [Matcher.startsLine]
  refine List.Pairwise.eq_of_mem_iff (r := (· < ·)) ((scan_increasing _ _ _ _).filter _) ?_ fun p => ?_
  · rw [List.pairwise_map]
    apply (lined.ordered.filter _).imp_of_mem
    intro x y member _ before
    have width := (List.isPrefixOf_iff_prefix.mp (List.mem_filter.mp member).2).length_le
    have := List.length_pos_iff.mpr nonempty
    simp only [Line.stop] at before
    omega
  · simp only [List.mem_filter, List.mem_map, startsLine_iff, List.isPrefixOf_iff_prefix]
    constructor
    · rintro ⟨occurs, left⟩
      have stands := (chosen.mem occurs).2
      obtain ⟨line, member, rfl⟩ := lined.exists_line (Nat.zero_le p) (stands.lt nonempty) left
      have within := (lined.isLine member).stands_iff nonempty plain (Nat.zero_le _)
      exact ⟨line, ⟨member, within.mp stands⟩, rfl⟩
    · rintro ⟨line, ⟨member, starts⟩, rfl⟩
      have isLine := lined.isLine member
      have stands : text.Stands target line.start :=
        (isLine.stands_iff nonempty plain (Nat.zero_le _)).mpr starts
      refine ⟨?_, isLine.left⟩
      obtain ⟨q, other, low, high⟩ := chosen.covers (Nat.zero_le _) stands
      rcases Nat.eq_or_lt_of_le low with rfl | before
      · exact other
      · rcases isLine.left with zero | feed
        · omega
        · have spelled := (chosen.mem other).2.getElem? (show line.start - 1 - q < target.length by omega)
          rw [show q + (line.start - 1 - q) = line.start - 1 by omega, feed] at spelled
          exact absurd (List.mem_of_getElem? spelled.symm) plain

end Text

namespace GraphemeIndex

variable {text : Text} {line : Text.Line} {range : Nat × Nat}

/-- The mark over a raw range of a line lies in the line, and ends with the range if that ends at a boundary. -/
theorem toRaw_markOver (isLine : text.IsLine line) (includes : line.Includes range) (label : String)
    (ends : range.2 = text.length ∨ range.2 ∈ Grapheme.starts text) :
    ∃ first : Nat, line.start ≤ first ∧ first ≤ range.1 ∧
      (ofText text).toRaw ((ofText text).markOver label range).start
        ((ofText text).markOver label range).stop = ((first : Int), (range.2 : Int)) :=
  toRaw_span includes.proper (Nat.le_trans includes.high isLine.stop_le) (isLine.mem_starts includes)
    includes.low ends

/-- Marks over raw ranges of different lines follow one another as the lines do. -/
theorem markOver_ordered {found : List Text.Line} (ordered : found.Pairwise fun x y => x.stop ≤ y.start)
    (isLine : ∀ line ∈ found, text.IsLine line) {place : Text.Line → Nat × Nat}
    (includes : ∀ line ∈ found, line.Includes (place line)) (label : String) :
    (found.map fun line => (ofText text).markOver label (place line)).Pairwise
      fun x y => x.stop ≤ y.start := by
  rw [List.pairwise_map]
  apply ordered.imp_of_mem
  intro x y first second before
  have inFirst := includes x first
  have inSecond := includes y second
  exact span_apart inFirst.proper (Nat.le_trans inFirst.high before) inSecond.low inSecond.proper
    (Nat.le_trans inSecond.high (isLine y second).stop_le) ((isLine y second).mem_starts inSecond)

end GraphemeIndex

theorem MarkStore.Sound.marks_eq {store : MarkStore} (sound : store.Sound) {marks : List Mark}
    (perm : store.marks.Perm marks) (ordered : marks.Pairwise fun x y => x.stop ≤ y.start) :
    store.marks = marks :=
  Mark.eq_of_ordered sound.ordered ordered (fun mark member => (sound.proper mark member).2)
    fun _ => perm.mem_iff

namespace Annotator

variable {a : Annotator} {slack : Int} {line : Text.Line} {target : Text}

theorem record_lines (sound : a.Sound slack) (unmarked : a.marks.marks = []) (label : String)
    {found : List Text.Line} (ordered : found.Pairwise fun x y => x.stop ≤ y.start)
    (isLine : ∀ line ∈ found, a.text.IsLine line) {place : Text.Line → Nat × Nat}
    (includes : ∀ line ∈ found, line.Includes (place line)) :
    ∃ after : Annotator,
      a.record label (found.map fun line => a.index.span (place line).1 (place line).2) =
        (after, (found.length : Int)) ∧
      after = { a with marks := after.marks } ∧
      after.marks.marks = found.map fun line => a.index.markOver label (place line) := by
  have inside : ∀ line ∈ found, (place line).2 ≤ a.text.length := fun line member =>
    Nat.le_trans (includes line member).high (isLine line member).stop_le
  have sorted := GraphemeIndex.markOver_ordered ordered isLine includes label
  rw [← sound.index] at sorted
  obtain ⟨tried, listed, tries, count⟩ := @record_tries a _
    (fun line : Text.Line => a.index.span (place line).1 (place line).2) sound.marks label found
    fun line member => Matcher.span_proper sound.index (includes line member).proper (inside line member)
  have recorded : ∀ entry ∈ tried, entry.2 = true := by
    refine tries.all_recorded (fun _ _ i _ _ => sound.marks.isTaken_unmarked unmarked i) ?_
    rw [← listed, List.pairwise_map, List.pairwise_map] at sorted
    exact sorted.imp .inl
  refine ⟨_, Prod.ext rfl ?_, tries.same, ?_⟩
  · rw [count, List.countP_eq_length.mpr recorded, ← listed, List.length_map]
  · have bounded : ∀ range ∈ found.map fun line => a.index.span (place line).1 (place line).2,
        range.2 ≤ max a.size slack := by
      simp only [List.mem_map]
      rintro _ ⟨line, member, rfl⟩
      have within := (GraphemeIndex.span_isNarrowest (includes line member).proper (inside line member)).within
      rw [← sound.index] at within
      exact Int.le_trans within (Int.le_max_left _ _)
    have marks := tries.marks_of_recorded recorded
    rw [listed, unmarked, List.nil_append] at marks
    exact (sound.grows (@record_grows slack label a _ bounded)).marks.marks_eq marks sorted

theorem markOver_content (index : a.index = .ofText a.text) (isLine : a.text.IsLine line)
    (nonempty : target ≠ []) (starts : target <+: line.body) (plain : '\r' ∉ target) (label : String) :
    let mark := a.index.markOver label line.contentRange
    a.index.toRaw mark.start mark.stop = ((line.contentRange.1 : Int), (line.contentRange.2 : Int)) ∧
      a.textOf mark = line.content := by
  intro mark
  have body : line.body ≠ [] := by
    intro empty
    exact nonempty (List.prefix_nil.mp (empty ▸ starts))
  have raw : a.index.toRaw mark.start mark.stop =
      ((line.contentRange.1 : Int), (line.contentRange.2 : Int)) := by
    obtain ⟨first, low, high, raw⟩ := GraphemeIndex.toRaw_markOver isLine
      (Text.IsLine.includes_content nonempty starts plain) label (isLine.content_boundary body)
    rw [← index, Nat.le_antisymm high low] at raw
    exact raw
  have stands : a.text.Stands line.content line.start := line.content_prefix.trans isLine.stands
  refine ⟨raw, ?_⟩
  simp only [textOf, slice, raw]
  exact stands.slice_eq

end Annotator

namespace Matcher

variable {a : Annotator} {target : Text}

/-- On a text without marks, a search for a beginning of lines marks the lines that begin so, in their order,
each without its line end. A mark holds neither more nor less of the line than that. -/
theorem lines_beginning (handled : a.Handled) (unmarked : a.marks.marks = []) (config : Config)
    (label : String) (nonempty : target ≠ []) (plain : '\n' ∉ target ∧ '\r' ∉ target) :
    let found := a.text.lines.filter fun line => target.isPrefixOf line.body
    ∃ after : Annotator,
      (lineStart target).run config a label = .ok (after, (found.length : Int)) ∧
      after = { a with marks := after.marks } ∧
      after.marks.marks.map a.textOf = found.map Text.Line.content ∧
      after.marks.marks.map (fun mark => a.index.toRaw mark.start mark.stop) =
        found.map (fun line => ((line.contentRange.1 : Int), (line.contentRange.2 : Int))) ∧
      ∀ mark ∈ after.marks.marks, mark.label = label := by
  intro found
  obtain ⟨slack, _, sound⟩ := handled.sound
  have lined := a.text.lines_lined
  have isLine : ∀ line ∈ found, a.text.IsLine line := fun line member =>
    lined.isLine (List.mem_filter.mp member).1
  have starts : ∀ line ∈ found, target <+: line.body := fun line member =>
    List.isPrefixOf_iff_prefix.mp (List.mem_filter.mp member).2
  have holds := fun line (member : line ∈ found) => Annotator.markOver_content sound.index
    (isLine line member) nonempty (starts line member) plain.2 label
  obtain ⟨after, recorded, same, marks⟩ := Annotator.record_lines sound unmarked label
    (lined.ordered.filter _) isLine fun line member =>
      Text.IsLine.includes_content nonempty (starts line member) plain.2
  have marked : (lineStart target).mark config a label = (after, (found.length : Int)) := by
    rw [← recorded]
    simp only [mark, regions, Text.filter_startsLine nonempty plain.1, List.map_map]
    congr 1
    refine List.map_congr_left fun line member => ?_
    simp only [Function.comp_apply, Text.Line.contentRange,
      (isLine line member).lineStop_eq nonempty (starts line member) plain.2]
  refine ⟨after, ?_, same, ?_, ?_, ?_⟩
  · have checked : (lineStart target).check = .ok () := by
      simp [check_eq_ok_iff, IsRefused, targets, counts, nonempty]
    simp only [run, checked, marked]
  · rw [marks, List.map_map]
    exact List.map_congr_left fun line member => (holds line member).2
  · rw [marks, List.map_map]
    exact List.map_congr_left fun line member => (holds line member).1
  · rw [marks]
    intro mark member
    obtain ⟨line, _, rfl⟩ := List.mem_map.mp member
    rfl

/-- A quotation, a line that is none, and a quotation that begins with an accent and ends with a carriage
return. -/
def quoted : Annotator := .create {} "> q\r\nz> \r\n> \u0301r\r".toList (some false)

theorem lines_beginning_quoted :
    quoted.Handled ∧ quoted.marks.marks = [] ∧ ('\n' ∉ "> ".toList ∧ '\r' ∉ "> ".toList) ∧
    ∃ after : Annotator, (lineStart "> ".toList).run {} quoted "quote" = .ok (after, 2) ∧
      after.marks.marks.map quoted.textOf = ["> q".toList, "> \u0301r\r".toList] := by
  have handled : quoted.Handled := .create {} _ _
  have plain : '\n' ∉ "> ".toList ∧ '\r' ∉ "> ".toList := by simp
  obtain ⟨after, ran, _, texts, _⟩ := @lines_beginning quoted "> ".toList handled rfl {} "quote" (by simp) plain
  have contents : (quoted.text.lines.filter fun line => "> ".toList.isPrefixOf line.body).map
      Text.Line.content = ["> q".toList, "> \u0301r\r".toList] := by
    decide +kernel
  have count := congrArg List.length contents
  rw [List.length_map] at count
  rw [count] at ran
  rw [contents] at texts
  exact ⟨handled, rfl, plain, after, ran, texts⟩

end Matcher

end Highlight
