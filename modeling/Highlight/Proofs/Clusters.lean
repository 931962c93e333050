import Highlight.Proofs.Growth
import Highlight.Proofs.Locality

/-! Clusters and raw positions. Looking a raw position up finds the last cluster that starts at or
before it, so lookup and `startAt` determine each other; a run of clusters is the text between two
starts, and what its clusters hold is what they held in the text around them. A plain character is
the only one of its kind in its cluster: in front of it stand at most characters that attach to what
follows, and behind it those that attach to what precedes. -/
namespace Highlight.Grapheme

open BreakProperty

variable {text : Text}

@[simp] theorem startAt_zero (text : Text) : startAt text 0 = 0 := by
  cases text <;> simp [startAt, starts]

theorem startAt_past {i : Nat} (past : (starts text).length ≤ i) : startAt text i = text.length := by
  simp [startAt, List.getElem?_eq_none past]

theorem startAt_lt {i j : Nat} (before : i < j) (within : i < (starts text).length) :
    startAt text i < startAt text j := by
  have here : startAt text i = (starts text)[i] := by simp [startAt, within]
  have member := List.getElem_mem within
  by_cases inside : j < (starts text).length
  · have there : startAt text j = (starts text)[j] := by simp [startAt, inside]
    rw [here, there]
    exact List.pairwise_iff_getElem.mp (starts_increasing text) i j within inside before
  · rw [here, startAt_past (by omega)]
    exact starts_bound member

theorem startAt_mono {i j : Nat} (le : i ≤ j) : startAt text i ≤ startAt text j := by
  by_cases within : i < j ∧ i < (starts text).length
  · exact Nat.le_of_lt (startAt_lt within.1 within.2)
  · by_cases same : i = j
    · exact Nat.le_of_eq (congrArg (startAt text) same)
    · exact Nat.le_of_eq ((startAt_past (by omega)).trans (startAt_past (by omega)).symm)

theorem startAt_min (text : Text) (i : Nat) :
    startAt text (min i (starts text).length) = startAt text i := by
  by_cases past : (starts text).length ≤ i
  · rw [Nat.min_eq_right past, startAt_past past, startAt_past (Nat.le_refl _)]
  · rw [Nat.min_eq_left (by omega)]

/-- The text of the clusters `i` to `j - 1`. -/
def between (text : Text) (i j : Nat) : Text :=
  (text.take (startAt text j)).drop (startAt text i)

theorem slice_startAt (text : Text) (i j : Nat) :
    text.slice (startAt text i) (startAt text j) = between text i j := by
  simp only [Text.slice, between, Int.toNat_natCast]
  rw [List.drop_take]
  congr 1
  omega

theorem between_append {i j k : Nat} (first : i ≤ j) (second : j ≤ k) :
    between text i j ++ between text j k = between text i k := by
  have low := @startAt_mono text _ _ first
  have high := @startAt_mono text _ _ second
  have front : (text.take (startAt text k)).take (startAt text j) = text.take (startAt text j) := by
    rw [List.take_take, Nat.min_eq_left high]
  have long : startAt text i ≤ ((text.take (startAt text k)).take (startAt text j)).length := by
    have := startAt_le text j
    rw [front, List.length_take]
    omega
  rw [between, between, ← front, ← List.drop_append_of_le_length long, List.take_append_drop]
  rfl

theorem between_all (text : Text) {n : Nat} (past : (starts text).length ≤ n) :
    between text 0 n = text := by
  simp [between, startAt_past past]

theorem between_ne_nil {i j : Nat} (before : i < j) (within : i < (starts text).length) :
    between text i j ≠ [] := by
  have := @startAt_lt text _ _ before within
  have := startAt_le text j
  apply List.ne_nil_of_length_pos
  simp only [between, List.length_drop, List.length_take]
  omega

theorem startAt_take {i j : Nat} (le : i ≤ j) (within : j ≤ (starts text).length) :
    startAt (text.take (startAt text j)) i = startAt text i := by
  have length : (text.take (startAt text j)).length = startAt text j := by
    rw [List.length_take]
    exact Nat.min_eq_left (startAt_le text j)
  by_cases last : i = j
  · subst last
    rw [startAt_past (Nat.le_of_eq (starts_take_length text within)), length]
  · have below : i < j := by omega
    have inside : i < (starts text).length := by omega
    rw [startAt, starts_take text within, List.getElem?_take, if_pos below]
    simp [startAt, inside]

theorem startAt_between {i j k : Nat} (inside : i + k ≤ j) (within : j ≤ (starts text).length) :
    startAt text i + startAt (between text i j) k = startAt text (i + k) := by
  have cut := @startAt_take text i j (by omega) within
  have counted : i ≤ (starts (text.take (startAt text j))).length := by
    rw [starts_take_length text within]
    omega
  have added := startAt_add (text.take (startAt text j)) counted k
  rw [cut, startAt_take inside within] at added
  exact added.symm

theorem length_starts_between {i j : Nat} (le : i ≤ j) (within : j ≤ (starts text).length) :
    (starts (between text i j)).length = j - i := by
  have counted := starts_take_length text within
  have rebased := starts_drop (text.take (startAt text j)) (i := i) (by omega)
  rw [startAt_take le within] at rebased
  have := congrArg List.length rebased
  simpa [between, counted] using this

/-- A cluster has a character. -/
def Holds (text : Text) (i : Nat) (c : Char) : Prop :=
  ∃ p, text[p]? = some c ∧ startAt text i ≤ p ∧ p < startAt text (i + 1)

theorem Holds.lt {i : Nat} {c : Char} (holds : Holds text i c) : i < (starts text).length := by
  obtain ⟨p, _, low, high⟩ := holds
  apply Nat.lt_of_not_le
  intro past
  rw [startAt_past past] at low
  rw [startAt_past (by omega)] at high
  omega

theorem holds_between {i j k : Nat} {c : Char} (le : i ≤ j) (within : j ≤ (starts text).length) :
    Holds (between text i j) k c ↔ i + k < j ∧ Holds text (i + k) c := by
  constructor
  · intro holds
    have inside := holds.lt
    rw [length_starts_between le within] at inside
    obtain ⟨p, here, low, high⟩ := holds
    have first := @startAt_between text i j k (by omega) within
    have next := @startAt_between text i j (k + 1) (by omega) within
    rw [between, List.getElem?_drop, List.getElem?_take] at here
    split at here
    · exact ⟨by omega, startAt text i + p, here, by omega, by rw [Nat.add_assoc]; omega⟩
    · contradiction
  · rintro ⟨inside, p, here, low, high⟩
    have first := @startAt_between text i j k (by omega) within
    have next := @startAt_between text i j (k + 1) (by omega) within
    have start := @startAt_mono text i (i + k) (by omega)
    have stop := @startAt_mono text (i + k + 1) j (by omega)
    refine ⟨p - startAt text i, ?_, by omega, by rw [← Nat.add_assoc] at next; omega⟩
    rw [between, List.getElem?_drop, List.getElem?_take, if_pos (by omega)]
    rw [← here]
    congr 1
    omega

theorem covers_mem {code : Nat} {ranges : List (Nat × Nat)} (covered : Unicode.covers code ranges = true) :
    ∃ range ∈ ranges, range.1 ≤ code ∧ code ≤ range.2 := by
  induction ranges with
  | nil => simp [Unicode.covers] at covered
  | cons range rest ih =>
    simp only [Unicode.covers] at covered
    split at covered
    · contradiction
    · split at covered
      · exact ⟨range, List.mem_cons_self, by omega, by assumption⟩
      · obtain ⟨later, member, bounds⟩ := ih covered
        exact ⟨later, List.mem_cons_of_mem range member, bounds⟩

/-- Characters that no cluster takes in, except right after one that attaches to what follows. -/
def IsPlain (c : Char) : Prop :=
  (ofChar c = other ∨ ofChar c = prepend) ∧ isPictographic c = false

instance (c : Char) : Decidable (IsPlain c) := inferInstanceAs (Decidable (_ ∧ _))

theorem ofChar_prepend {c : Char} (attaches : ofChar c = prepend) :
    Unicode.covers c.toNat prependRanges = true := by
  apply Classical.byContradiction
  intro uncovered
  simp only [ofChar, uncovered, apply_ite (· = prepend), reduceCtorEq, ite_self, if_false] at attaches

def pictographRanges : List (Nat × Nat) :=
  (0x1f000, 0x1faff) :: (0x2600, 0x27bf) :: Unicode.otherSymbolRanges

theorem exists_pictographRange {c : Char} (picture : isPictographic c = true) :
    ∃ range ∈ pictographRanges, range.1 ≤ c.toNat ∧ c.toNat ≤ range.2 := by
  simp only [isPictographic, Unicode.isOtherSymbol, Bool.or_eq_true, Bool.and_eq_true,
    decide_eq_true_eq] at picture
  rcases picture with (emoji | sign) | symbol
  · exact ⟨_, List.mem_cons_self, emoji⟩
  · exact ⟨_, List.mem_cons_of_mem _ List.mem_cons_self, sign⟩
  · obtain ⟨range, member, bounds⟩ := covers_mem symbol
    exact ⟨range, List.mem_cons_of_mem _ (List.mem_cons_of_mem _ member), bounds⟩

theorem not_pictographic_of_covers {ranges : List (Nat × Nat)} {c : Char}
    (apart : ∀ range ∈ ranges, ∀ other ∈ pictographRanges, range.2 < other.1 ∨ other.2 < range.1)
    (covered : Unicode.covers c.toNat ranges = true) : isPictographic c = false := by
  rw [Bool.eq_false_iff]
  intro picture
  obtain ⟨range, member, bounds⟩ := covers_mem covered
  obtain ⟨other, recorded, inside⟩ := exists_pictographRange picture
  have := apart range member other recorded
  omega

theorem isPlain_of_prepend {c : Char} (attaches : ofChar c = prepend) : IsPlain c :=
  ⟨.inr attaches, not_pictographic_of_covers (by decide +kernel) (ofChar_prepend attaches)⟩

theorem Scan.joins_plain {scan : Scan} {c : Char} (plain : IsPlain c)
    (joined : scan.joins c = true) : scan.property = prepend := by
  have lineFeed : c ≠ '\n' := by
    rintro rfl
    revert plain
    decide
  obtain ⟨property, picture⟩ := plain
  simp only [Scan.joins, lineFeed, picture, beq_iff_eq, Bool.and_eq_true, and_false, ↓reduceIte,
    Bool.false_eq_true] at joined
  rcases property with property | property <;>
    cases before : scan.property <;>
    simp [property, before, attaches, syllablesJoin] at joined ⊢

/-- After a character that is not of those that attach to what follows, a plain one starts a cluster,
or one has started before it. -/
theorem exists_startsAfter {scan : Scan} (settled : scan.property ≠ prepend) (position : Nat)
    (middle : Text) {c : Char} (plain : IsPlain c) (rest : Text) :
    ∃ start ∈ startsAfter scan position (middle ++ c :: rest),
      position ≤ start ∧ start ≤ position + middle.length := by
  induction middle generalizing scan position with
  | nil =>
    have apart : scan.joins c = false := Bool.eq_false_iff.mpr fun joined =>
      settled (Scan.joins_plain plain joined)
    exact ⟨position, by simp [startsAfter, apart], by simp⟩
  | cons x middle ih =>
    cases joined : scan.joins x with
    | false => exact ⟨position, by simp [startsAfter, joined], by simp⟩
    | true =>
      have next : (scan.advance x).property ≠ prepend := fun attaches =>
        settled (Scan.joins_plain (isPlain_of_prepend attaches) joined)
      obtain ⟨start, member, low, high⟩ := ih next (position + 1)
      refine ⟨start, by simpa [startsAfter, joined] using member, by omega, ?_⟩
      simp only [List.length_cons]
      omega

theorem exists_split {p : Nat} {c : Char} (here : text[p]? = some c) :
    ∃ before after, text = before ++ c :: after ∧ before.length = p := by
  obtain ⟨inside, same⟩ := List.getElem?_eq_some_iff.mp here
  refine ⟨text.take p, text.drop (p + 1), ?_, ?_⟩
  · rw [← same, ← List.drop_eq_getElem_cons inside, List.take_append_drop]
  · rw [List.length_take]
    omega

theorem Scan.advanceAll_concat (scan : Scan) (text : Text) (c : Char) :
    (scan.advanceAll (text ++ [c])).property = ofChar c := by
  simp [Scan.advanceAll, Scan.advance]

theorem exists_start_between {p q : Nat} {c d : Char} (before : p < q) (first : text[p]? = some c)
    (settled : ofChar c ≠ prepend) (second : text[q]? = some d) (plain : IsPlain d) :
    ∃ start ∈ starts text, p < start ∧ start ≤ q := by
  obtain ⟨front, back, rfl, length⟩ := exists_split first
  obtain ⟨middle, rest, rfl, distance⟩ : ∃ middle rest, back = middle ++ d :: rest ∧
      middle.length = q - p - 1 := by
    apply exists_split
    rw [List.getElem?_append_right (by omega), List.getElem?_cons, if_neg (by omega), length] at second
    exact second
  cases front with
  | nil =>
    obtain ⟨start, member, low, high⟩ :=
      @exists_startsAfter (Scan.first c) settled 1 middle d plain rest
    refine ⟨start, List.mem_cons_of_mem 0 member, ?_, ?_⟩
    · simp only [List.length_nil] at length
      omega
    · omega
  | cons head tail =>
    have split := startsAfter_append (Scan.first head) 1 (tail ++ [c]) (middle ++ d :: rest)
    have last : ((Scan.first head).advanceAll (tail ++ [c])).property ≠ prepend := by
      rw [Scan.advanceAll_concat]
      exact settled
    obtain ⟨start, member, low, high⟩ :=
      exists_startsAfter last (1 + (tail ++ [c]).length) middle plain rest
    simp only [List.length_cons, List.length_append, List.length_nil] at length low high
    refine ⟨start, List.mem_cons_of_mem 0 ?_, by omega, by omega⟩
    have same : tail ++ c :: (middle ++ d :: rest) = (tail ++ [c]) ++ (middle ++ d :: rest) := by simp
    rw [show tail.append (c :: (middle ++ d :: rest)) = (tail ++ [c]) ++ (middle ++ d :: rest) from same,
      split]
    exact List.mem_append_right _ member

theorem startAt_succ_le {i start : Nat} (member : start ∈ starts text) (after : startAt text i < start) :
    startAt text (i + 1) ≤ start := by
  obtain ⟨k, inside, same⟩ := List.mem_iff_getElem.mp member
  have here : startAt text k = start := by simp [startAt, inside, same]
  rw [← here] at after ⊢
  apply startAt_mono
  apply Nat.lt_of_not_le
  intro le
  have := @startAt_mono text _ _ le
  omega

/-- Characters that stand for themselves: plain ones that do not attach to what follows. -/
def IsSolid (c : Char) : Prop := ofChar c = other ∧ isPictographic c = false

instance (c : Char) : Decidable (IsSolid c) := inferInstanceAs (Decidable (_ ∧ _))

theorem IsSolid.place_le {i p q : Nat} {c d : Char} (first : text[p]? = some c) (solid : IsSolid c)
    (low : startAt text i ≤ p) (second : text[q]? = some d) (plain : IsSolid d)
    (high : q < startAt text (i + 1)) : q ≤ p := by
  apply Nat.le_of_not_lt
  intro before
  have settled : ofChar c ≠ prepend := by simp [solid.1]
  obtain ⟨start, member, after, le⟩ :=
    exists_start_between before first settled second ⟨.inl plain.1, plain.2⟩
  have := startAt_succ_le member (show startAt text i < start by omega)
  omega

/-- A cluster has at most one solid character. -/
theorem Holds.eq_of_solid {i : Nat} {c d : Char} (first : Holds text i c) (second : Holds text i d)
    (solid : IsSolid c) (other : IsSolid d) : c = d := by
  obtain ⟨p, atP, lowP, highP⟩ := first
  obtain ⟨q, atQ, lowQ, highQ⟩ := second
  have le := solid.place_le atP lowP atQ other highQ
  have ge := other.place_le atQ lowQ atP solid highP
  have same : p = q := by omega
  rw [same, atQ] at atP
  exact (Option.some.inj atP).symm

end Highlight.Grapheme

namespace Highlight.GraphemeIndex

open Grapheme (startAt startAt_le startAt_zero startAt_past startAt_mono between)

theorem le_of_sorted {starts : List Int} (sorted : starts.Pairwise (· < ·)) {j k : Nat} {x y : Int}
    (first : starts[j]? = some x) (second : starts[k]? = some y) (before : j ≤ k) : x ≤ y := by
  obtain ⟨boundJ, rfl⟩ := List.getElem?_eq_some_iff.mp first
  obtain ⟨boundK, rfl⟩ := List.getElem?_eq_some_iff.mp second
  by_cases same : j = k
  · simp [same]
  · exact Int.le_of_lt (List.pairwise_iff_getElem.mp sorted j k boundJ boundK (by omega))

/-- The halving search counts the starts that do not lie after the offset. -/
theorem lt_search_iff {offset : Int} {fuel width : Nat} {starts : List Int}
    (sorted : starts.Pairwise (· < ·)) (enough : width ≤ fuel) (within : width ≤ starts.length)
    {i : Nat} (inside : i < width) {start : Int} (here : starts[i]? = some start) :
    i < search offset fuel starts width ↔ start ≤ offset := by
  induction fuel generalizing starts width i with
  | zero => omega
  | succ fuel ih =>
    cases width with
    | zero => omega
    | succ width =>
      simp only [search]
      cases middle : starts.drop ((width + 1) / 2) with
      | nil =>
        have := List.drop_eq_nil_iff.mp middle
        omega
      | cons pivot later =>
        have atHalf : starts[(width + 1) / 2]? = some pivot := by
          rw [← List.head?_drop, middle]
          rfl
        have tail : later = starts.drop ((width + 1) / 2 + 1) := by
          rw [← List.drop_drop, middle]
          rfl
        simp only
        split
        next below =>
          by_cases low : i < (width + 1) / 2
          · exact ih sorted (by omega) (by omega) low here
          · have bound := search_le offset fuel starts ((width + 1) / 2)
            have above := le_of_sorted sorted atHalf here (by omega)
            omega
        next above =>
          by_cases high : (width + 1) / 2 < i
          · obtain ⟨k, rfl⟩ := Nat.exists_eq_add_of_le (show (width + 1) / 2 + 1 ≤ i by omega)
            have shorter : later.length = starts.length - ((width + 1) / 2 + 1) := by
              rw [tail, List.length_drop]
            have tailSorted : later.Pairwise (· < ·) := by
              rw [tail]
              exact sorted.drop
            have step := @ih (width - (width + 1) / 2) later tailSorted (by omega) (by omega) k
              (by omega) (by rw [tail, List.getElem?_drop]; exact here)
            omega
          · have le := le_of_sorted sorted here atHalf (by omega)
            omega

variable {text : Text}

/-- A raw position lies in cluster `i` or a later one exactly if that cluster starts no later. -/
theorem le_toGrapheme_iff {p i : Nat} (inside : p < text.length) :
    (i : Int) ≤ (ofText text).toGrapheme p ↔ startAt text i ≤ p := by
  have sorted : ((Grapheme.starts text).map Int.ofNat).Pairwise (· < ·) := by
    apply (Grapheme.starts_increasing text).map
    intro x y before
    exact Int.ofNat_lt.mpr before
  have counts (k : Nat) (within : k < (Grapheme.starts text).length) :
      k < search p (Grapheme.starts text).length ((Grapheme.starts text).map Int.ofNat)
        (Grapheme.starts text).length ↔ startAt text k ≤ p := by
    have here : ((Grapheme.starts text).map Int.ofNat)[k]? = some (startAt text k : Int) := by
      simp [startAt, within]
    have found := @lt_search_iff p (Grapheme.starts text).length (Grapheme.starts text).length _
      sorted (Nat.le_refl _) (by simp) k within _ here
    rw [found]
    omega
  have bound := search_le p (Grapheme.starts text).length
    ((Grapheme.starts text).map Int.ofNat) (Grapheme.starts text).length
  have nonempty : 0 < (Grapheme.starts text).length := by
    apply List.length_pos_iff.mpr
    rw [ne_eq, Grapheme.starts_eq_nil]
    exact List.ne_nil_of_length_pos (by omega)
  have first := (counts 0 nonempty).mpr (by simp)
  simp only [toGrapheme, ofText, List.length_map]
  by_cases within : i < (Grapheme.starts text).length
  · rw [← counts i within]
    omega
  · rw [startAt_past (by omega)]
    omega

theorem toGrapheme_eq {p i : Nat} (low : startAt text i ≤ p) (high : p < startAt text (i + 1)) :
    (ofText text).toGrapheme p = i := by
  have inside : p < text.length := Nat.lt_of_lt_of_le high (startAt_le text (i + 1))
  have atLeast := (@le_toGrapheme_iff text p i inside).mpr low
  have below := mt (@le_toGrapheme_iff text p (i + 1) inside).mp (by omega)
  omega

theorem toRaw_of_le {start stop : Int} (nonneg : 0 ≤ start) (ordered : start ≤ stop) :
    (ofText text).toRaw start stop =
      ((startAt text start.toNat : Int), (startAt text stop.toNat : Int)) := by
  have place (i : Int) (low : 0 ≤ i) :
      (ofText text).offset (min i (ofText text).size) = startAt text i.toNat := by
    obtain ⟨n, rfl⟩ := Int.eq_ofNat_of_zero_le low
    rw [size_ofText, Int.toNat_natCast, ← Grapheme.startAt_min, ← offset_ofText]
    congr 1
    omega
  have clamped : (ofText text).clamp start stop =
      (min start (ofText text).size, min stop (ofText text).size) := by
    have : 0 ≤ (ofText text).size := by simp [size]
    simp only [clamp, Prod.mk.injEq]
    omega
  simp only [toRaw, clamped, place start nonneg, place stop (by omega)]

end Highlight.GraphemeIndex

namespace Highlight.Annotator

open Grapheme (between)

theorem slice_eq_between {a : Annotator} (index : a.index = .ofText a.text) {start stop : Int}
    (nonneg : 0 ≤ start) (ordered : start ≤ stop) :
    a.slice start stop = between a.text start.toNat stop.toNat := by
  simp only [slice, index, GraphemeIndex.toRaw_of_le nonneg ordered, Grapheme.slice_startAt]

end Highlight.Annotator
