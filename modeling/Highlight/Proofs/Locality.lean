import Highlight.Grapheme.Index

/-! Segmentation is local to cluster boundaries: a run of whole clusters that is segmented on its own
has the clusters it had in the text around it. The scan from the left remembers more than the last
character, so this needs that its memory at a boundary agrees with that of a fresh scan in all that
later decisions read. -/
namespace Highlight.Grapheme

open BreakProperty

def Scan.advanceAll (scan : Scan) (text : Text) : Scan := text.foldl Scan.advance scan

/-- Scans that decide alike from here on. Only the parity of the run of regional indicators is
ever looked at. -/
structure Scan.Alike (a b : Scan) : Prop where
  last : a.last = b.last
  property : a.property = b.property
  parity : a.regionals % 2 = b.regionals % 2
  emoji : a.emoji = b.emoji

theorem Scan.Alike.joins_eq {a b : Scan} (alike : a.Alike b) (c : Char) : a.joins c = b.joins c := by
  simp only [Scan.joins, alike.last, alike.property, alike.parity, alike.emoji]

theorem Scan.Alike.advance {a b : Scan} (alike : a.Alike b) (c : Char) :
    (a.advance c).Alike (b.advance c) := by
  have parity := alike.parity
  constructor
  · rfl
  · rfl
  · simp only [Scan.advance]
    split <;> omega
  · simp only [Scan.advance, alike.joins_eq c, alike.emoji]

theorem startsAfter_alike {a b : Scan} (alike : a.Alike b) (position : Nat) (text : Text) :
    startsAfter a position text = startsAfter b position text := by
  induction text generalizing a b position with
  | nil => rfl
  | cons c rest ih =>
    simp only [startsAfter, alike.joins_eq c, ih (alike.advance c)]

theorem startsAfter_add (scan : Scan) (position distance : Nat) (text : Text) :
    startsAfter scan (position + distance) text =
      (startsAfter scan position text).map (· + distance) := by
  induction text generalizing scan position with
  | nil => rfl
  | cons c rest ih =>
    have next : position + distance + 1 = position + 1 + distance := by omega
    simp only [startsAfter, next, ih]
    split <;> simp

theorem startsAfter_append (scan : Scan) (position : Nat) (first second : Text) :
    startsAfter scan position (first ++ second) =
      startsAfter scan position first ++
        startsAfter (scan.advanceAll first) (position + first.length) second := by
  induction first generalizing scan position with
  | nil => simp [startsAfter, Scan.advanceAll]
  | cons c rest ih =>
    have next : position + (c :: rest).length = position + 1 + rest.length := by simp; omega
    simp only [List.cons_append, startsAfter, ih, next]
    split <;> simp [Scan.advanceAll]

theorem startsAfter_bounds {scan : Scan} {position found : Nat} {text : Text}
    (member : found ∈ startsAfter scan position text) :
    position ≤ found ∧ found < position + text.length := by
  induction text generalizing scan position with
  | nil => simp [startsAfter] at member
  | cons c rest ih =>
    simp only [startsAfter] at member
    simp only [List.length_cons]
    split at member
    · have := ih member; omega
    · rcases List.mem_cons.mp member with rfl | later
      · omega
      · have := ih later; omega

theorem startsAfter_increasing (scan : Scan) (position : Nat) (text : Text) :
    (startsAfter scan position text).Pairwise (· < ·) := by
  induction text generalizing scan position with
  | nil => simp [startsAfter]
  | cons c rest ih =>
    simp only [startsAfter]
    split
    · exact ih _ _
    · refine List.pairwise_cons.mpr ⟨?_, ih _ _⟩
      intro later member
      have := startsAfter_bounds member
      omega

/-- Outside a run of regional indicators the counter rests at 0. -/
def Scan.Counted (scan : Scan) : Prop := scan.property ≠ regional → scan.regionals = 0

theorem Scan.first_counted (c : Char) : (Scan.first c).Counted := by
  intro other
  exact if_neg other

theorem Scan.advance_counted (scan : Scan) (c : Char) : (scan.advance c).Counted := by
  intro other
  exact if_neg other

theorem Scan.advanceAll_counted {scan : Scan} (counted : scan.Counted) (text : Text) :
    (scan.advanceAll text).Counted := by
  induction text generalizing scan with
  | nil => exact counted
  | cons c rest ih => exact ih (scan.advance_counted c)

/-- A second indicator that does not join ends a pair, so the run behind it has even length. -/
theorem Scan.even_of_apart {scan : Scan} {c : Char} (apart : scan.joins c = false)
    (before : scan.property = regional) (here : ofChar c = regional) : scan.regionals % 2 = 0 := by
  simp only [Scan.joins, before, here] at apart
  split at apart
  · contradiction
  · simp [syllablesJoin, attaches] at apart
    omega

/-- After a boundary a scan decides like one that starts there. -/
theorem Scan.advance_alike_first {scan : Scan} {c : Char} (counted : scan.Counted)
    (apart : scan.joins c = false) : (scan.advance c).Alike (Scan.first c) := by
  constructor
  · rfl
  · rfl
  · simp only [Scan.advance, Scan.first]
    split
    next here =>
      by_cases before : scan.property = regional
      · have := even_of_apart apart before here
        omega
      · rw [counted before]
    next => rfl
  · simp [Scan.advance, Scan.first, apart]

theorem startsAfter_boundary {scan : Scan} {c : Char} (counted : scan.Counted)
    (apart : scan.joins c = false) (position : Nat) (rest : Text) :
    startsAfter scan position (c :: rest) = (starts (c :: rest)).map (· + position) := by
  have shifted := startsAfter_add (Scan.first c) 1 position rest
  rw [Nat.add_comm 1 position] at shifted
  simp [startsAfter, starts, apart, startsAfter_alike (Scan.advance_alike_first counted apart), shifted]

theorem starts_bound {text : Text} {found : Nat} (member : found ∈ starts text) :
    found < text.length := by
  cases text with
  | nil => simp [starts] at member
  | cons c rest =>
    rcases List.mem_cons.mp member with rfl | later
    · simp
    · have := startsAfter_bounds later
      simp only [List.length_cons]
      omega

theorem starts_increasing (text : Text) : (starts text).Pairwise (· < ·) := by
  cases text with
  | nil => simp [starts]
  | cons c rest =>
    refine List.pairwise_cons.mpr ⟨?_, startsAfter_increasing _ _ _⟩
    intro later member
    have := startsAfter_bounds member
    omega

@[simp] theorem starts_eq_nil {text : Text} : starts text = [] ↔ text = [] := by
  cases text <;> simp [starts]

/-- Cutting a text at a boundary cuts its list of starts. The end of the text is a boundary too. -/
theorem starts_append {first second : Text}
    (boundary : second = [] ∨ first.length ∈ starts (first ++ second)) :
    starts (first ++ second) = starts first ++ (starts second).map (· + first.length) := by
  cases first with
  | nil => simp [starts]
  | cons head tail =>
    cases second with
    | nil => simp [starts]
    | cons c rest =>
      have split := startsAfter_append (Scan.first head) 1 tail (c :: rest)
      have counted := (Scan.first head).advanceAll_counted (Scan.first_counted head) tail
      have place : 1 + tail.length = (head :: tail).length := by simp; omega
      have apart : ((Scan.first head).advanceAll tail).joins c = false := by
        -- If `c` joined, no start would lie at its place: earlier ones are below, later ones above.
        cases joined : ((Scan.first head).advanceAll tail).joins c with
        | false => rfl
        | true =>
          simp only [reduceCtorEq, false_or, List.cons_append, starts, split] at boundary
          rcases List.mem_cons.mp boundary with zero | inside
          · simp at zero
          rw [← place] at inside
          simp only [startsAfter, joined, ↓reduceIte] at inside
          rcases List.mem_append.mp inside with earlier | later
          · have := startsAfter_bounds earlier; omega
          · have := startsAfter_bounds later; omega
      rw [startsAfter_boundary counted apart, place] at split
      simp only [List.cons_append, starts, split]

/-- Position of cluster `i`, or the end of the text when there is none. -/
def startAt (text : Text) (i : Nat) : Nat := ((starts text)[i]?).getD text.length

theorem startAt_le (text : Text) (i : Nat) : startAt text i ≤ text.length := by
  unfold startAt
  cases found : (starts text)[i]? with
  | none => simp
  | some start =>
    have := starts_bound (List.mem_of_getElem? found)
    simp only [Option.getD_some]
    omega

theorem startAt_boundary (text : Text) (i : Nat) :
    text.drop (startAt text i) = [] ∨ startAt text i ∈ starts text := by
  cases found : (starts text)[i]? with
  | none => left; simp [startAt, found]
  | some start =>
    right
    simpa [startAt, found] using List.mem_of_getElem? found

theorem starts_split (text : Text) (i : Nat) :
    starts text = starts (text.take (startAt text i)) ++
      (starts (text.drop (startAt text i))).map (· + startAt text i) := by
  have length : (text.take (startAt text i)).length = startAt text i := by
    rw [List.length_take]
    exact Nat.min_eq_left (startAt_le text i)
  have cut := @starts_append (text.take (startAt text i)) (text.drop (startAt text i))
  rw [List.take_append_drop, length] at cut
  exact cut (startAt_boundary text i)

theorem starts_take_length (text : Text) {i : Nat} (within : i ≤ (starts text).length) :
    (starts (text.take (startAt text i))).length = i := by
  have split := starts_split text i
  cases found : (starts text)[i]? with
  | none =>
    have full : (starts text).length = i := by
      have := List.getElem?_eq_none_iff.mp found
      omega
    simpa [startAt, found] using full
  | some start =>
    have place : startAt text i = start := by simp [startAt, found]
    have inside : start < text.length := starts_bound (List.mem_of_getElem? found)
    rw [place] at split ⊢
    -- The first start after the cut is the cut itself, and starts are distinct.
    obtain ⟨c, rest, after⟩ : ∃ c rest, text.drop start = c :: rest :=
      List.exists_cons_of_length_pos (by simp; omega)
    have here : (starts text)[(starts (text.take start)).length]? = some start := by
      rw [split, after]
      simp [starts]
    have distinct : (starts text).Nodup := (starts_increasing text).imp Nat.ne_of_lt
    have below := (List.getElem?_eq_some_iff.mp here).1
    exact (List.getElem?_inj below distinct).mp (here.trans found.symm)

theorem starts_take (text : Text) {i : Nat} (within : i ≤ (starts text).length) :
    starts (text.take (startAt text i)) = (starts text).take i := by
  conv => rhs; rw [starts_split text i]
  exact (List.take_left' (starts_take_length text within)).symm

theorem starts_drop (text : Text) {i : Nat} (within : i ≤ (starts text).length) :
    (starts (text.drop (startAt text i))).map (· + startAt text i) = (starts text).drop i := by
  conv => rhs; rw [starts_split text i]
  exact (List.drop_left' (starts_take_length text within)).symm

theorem startAt_add (text : Text) {i : Nat} (within : i ≤ (starts text).length) (count : Nat) :
    startAt text (i + count) = startAt text i + startAt (text.drop (startAt text i)) count := by
  have bound := startAt_le text i
  have after : (starts text)[i + count]? =
      ((starts (text.drop (startAt text i)))[count]?).map (· + startAt text i) := by
    rw [← List.getElem?_drop, ← starts_drop text within, List.getElem?_map]
  conv => lhs; rw [startAt, after]
  conv => rhs; rhs; rw [startAt]
  cases (starts (text.drop (startAt text i)))[count]? with
  | none => simp; omega
  | some start => simp; omega

end Highlight.Grapheme

namespace Highlight.GraphemeIndex

open Grapheme (startAt startAt_add startAt_le)

theorem size_ofText (text : Text) : (ofText text).size = (Grapheme.starts text).length := by
  simp [size, ofText]

theorem offset_ofText (text : Text) (i : Nat) : (ofText text).offset i = startAt text i := by
  simp only [offset, ofText, startAt, List.getElem?_map, Int.toNat_natCast]
  cases (Grapheme.starts text)[i]? <;> rfl

theorem clamp_ofText (text : Text) (start stop : Int) :
    ∃ low high : Nat, (ofText text).clamp start stop = ((low : Int), (high : Int)) ∧ low ≤ high ∧
      high ≤ (Grapheme.starts text).length := by
  refine ⟨((ofText text).clamp start stop).1.toNat, ((ofText text).clamp start stop).2.toNat, ?_⟩
  simp only [clamp, size_ofText]
  refine ⟨Prod.ext ?_ ?_, ?_, ?_⟩
  · simp only; omega
  · simp only; omega
  · omega
  · omega

/-- A run of whole clusters, segmented on its own, has the clusters it has in the text. -/
theorem sub_ofText (text : Text) (start stop : Int) :
    (ofText text).sub start stop =
      ofText (text.slice ((ofText text).toRaw start stop).1 ((ofText text).toRaw start stop).2) := by
  obtain ⟨low, high, clamped, ordered, within⟩ := clamp_ofText text start stop
  obtain ⟨count, rfl⟩ := Nat.exists_eq_add_of_le ordered
  have start_within : low ≤ (Grapheme.starts text).length := by omega
  have rebased := Grapheme.starts_drop text start_within
  have advanced := startAt_add text start_within count
  have bound := startAt_le (text.drop (startAt text low)) count
  have inner : Grapheme.starts ((text.drop (startAt text low)).take
      (startAt (text.drop (startAt text low)) count)) =
      (Grapheme.starts (text.drop (startAt text low))).take count := by
    apply Grapheme.starts_take
    have := congrArg List.length rebased
    simp only [List.length_map, List.length_drop] at this
    omega
  have width : ((low + count : Nat) - low : Int).toNat = count := by omega
  have extent : ((startAt text low + startAt (text.drop (startAt text low)) count : Nat) -
      startAt text low : Int).toNat = startAt (text.drop (startAt text low)) count := by omega
  simp only [sub, toRaw, clamped, offset_ofText, Text.slice, advanced, width, extent,
    Int.toNat_natCast]
  simp only [ofText, inner, mk.injEq]
  constructor
  · rw [← List.map_drop, ← rebased, ← List.map_take, ← List.map_take, List.map_map, List.map_map]
    apply List.map_congr_left
    intro found _
    simp only [Function.comp_apply, Int.ofNat_eq_natCast]
    omega
  · rw [List.length_take, Nat.min_eq_left bound]
    omega

end Highlight.GraphemeIndex
