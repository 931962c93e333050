import Highlight.Proofs.Boundaries
import Highlight.Proofs.Clusters

/-! Emoji tied together by joiners. The rule of the standard is that a pictograph continues the cluster
where a pictograph, extending characters and one joiner stand before it. The scan keeps its flag over
extending characters and joiners alike, so it looks back over any mixture of the two. The results part
from the rule exactly where a second joiner comes before the last one. -/
namespace Highlight.Grapheme

open BreakProperty

variable {text : Text} {i j k : Nat} {c d : Char}

def Throughout (kind : Char → Prop) (text : Text) (j i : Nat) : Prop :=
  ∀ k, j < k → k < i → ∃ c, text[k]? = some c ∧ kind c

/-- The joiner right before position `i` ends the sequence of the standard: a pictograph, extending
characters, a joiner. -/
def AfterEmoji (text : Text) (i : Nat) : Prop :=
  ∃ j c, j + 1 < i ∧ text[j]? = some c ∧ isPictographic c = true ∧
    Throughout (ofChar · = extend) text j (i - 1)

/-- Before the joiner that stands right before position `i` comes another one, with no more than
extending characters between the two, none of them a pictograph. -/
def AfterJoiner (text : Text) (i : Nat) : Prop :=
  ∃ j, j + 1 < i ∧ text[j]? = some '\u200d' ∧
    Throughout (fun c => ofChar c = extend ∧ isPictographic c = false) text j (i - 1)

theorem Throughout.drop {kind : Char → Prop} (all : Throughout kind text j i) (le : j ≤ k) :
    Throughout kind text k i :=
  fun l low high => all l (by omega) high

theorem Throughout.concat {kind : Char → Prop} (all : Throughout kind text j i)
    (here : text[i]? = some c) (is : kind c) : Throughout kind text j (i + 1) := by
  intro k low high
  by_cases last : k = i
  · exact last ▸ ⟨c, here, is⟩
  · exact all k low (by omega)

theorem Throughout.extend_or_joiner (links : Throughout IsLink text j i) :
    Throughout (ofChar · = extend) text j i ∨
      ∃ k, j < k ∧ k < i ∧ text[k]? = some '\u200d' ∧ Throughout (ofChar · = extend) text k i := by
  induction i with
  | zero => exact .inl fun k low high => by omega
  | succ i ih =>
    by_cases inside : j < i
    · obtain ⟨c, here, extending | joining⟩ := links i inside (by omega)
      · rcases ih fun k low high => links k low (by omega) with all | ⟨k, low, high, joiner, all⟩
        · exact .inl (all.concat here extending)
        · exact .inr ⟨k, low, by omega, joiner, all.concat here extending⟩
      · rw [ofChar_eq_joiner.mp joining] at here
        exact .inr ⟨i, inside, by omega, here, fun k low high => by omega⟩
    · exact .inl fun k low high => by omega

theorem isControl_of_ofChar (controls : ofChar c = control) : Unicode.isControl c = true := by
  apply Classical.byContradiction
  intro uncovered
  have carriage : c ≠ '\r' := by
    rintro rfl
    exact uncovered rfl
  have feed : c ≠ '\n' := by
    rintro rfl
    exact uncovered rfl
  simp [ofChar, carriage, feed, uncovered, apply_ite (· = control)] at controls

theorem not_pictographic_of_isControl (controls : Unicode.isControl c = true) :
    isPictographic c = false :=
  not_pictographic_of_covers (by decide +kernel) controls

theorem ofChar_ne_control (picture : isPictographic c = true) : ofChar c ≠ control := by
  intro controls
  rw [not_pictographic_of_isControl (isControl_of_ofChar controls)] at picture
  contradiction

theorem kind_of_joiner (joiner : text[k]? = some '\u200d') (here : text[k]? = some c) :
    isPictographic c = false ∧ ofChar c = BreakProperty.joiner := by
  obtain rfl : '\u200d' = c := Option.some.inj (joiner.symm.trans here)
  exact ⟨not_pictographic_of_isControl rfl, ofChar_eq_joiner.mpr rfl⟩

theorem mem_starts_iff (within : i < text.length) : i ∈ starts text ↔ i = 0 ∨ ¬ Unbroken text i := by
  obtain ⟨c, rest, shape⟩ := List.exists_cons_of_length_pos (Nat.zero_lt_of_lt within)
  by_cases first : i = 0
  · simp [first, shape, starts]
  · have ahead : text.drop 1 = rest := by simp [shape]
    have agree : ∀ k, 1 ≤ k → (k ∈ starts text ↔ k ∈ startsAfter (Scan.first c) 1 rest) := by
      intro k low
      have later : k ≠ 0 := by omega
      simp [shape, starts, later]
    have rule := (Scan.first_tracks shape).unbroken_iff ahead agree (show 1 ≤ i by omega) within
    simp only [first, false_or]
    rw [← rule, Classical.not_not]

theorem IsLink.not_mem_starts (link : IsLink d) (here : text[k + 1]? = some d)
    (before : text[k]? = some c) (settled : ofChar c ≠ control) : k + 1 ∉ starts text := by
  obtain ⟨within, _⟩ := List.getElem?_eq_some_iff.mp here
  have solid : ofChar d ≠ control := by
    rcases link with same | same <;> simp [same]
  have attached : Bond text (k + 1) c d := .attached (link.imp_right .inl)
  rw [mem_starts_iff within]
  rintro (zero | broken)
  · contradiction
  · exact broken ⟨c, d, before, here, .inr ⟨settled, solid, attached⟩⟩

theorem reaches_iff (before : text[i]? = some '\u200d') :
    Reaches text (i + 1) ↔ ∃ j c, j < i ∧ text[j]? = some c ∧ isPictographic c = true ∧
      (j ∈ starts text ∨ ¬ IsLink c) ∧ Throughout IsLink text j i := by
  constructor
  · rintro ⟨j, c, low, there, picture, own, between⟩
    have apart : j ≠ i := by
      rintro rfl
      simp [(kind_of_joiner before there).1] at picture
    exact ⟨j, c, by omega, there, picture, own, fun k low high => (between k low (by omega)).2⟩
  · rintro ⟨j, c, low, there, picture, own, links⟩
    have linked (k : Nat) (after : j < k) (le : k < i + 1) : ∃ d, text[k]? = some d ∧ IsLink d := by
      by_cases last : k = i
      · exact last ▸ ⟨'\u200d', before, .inr (ofChar_eq_joiner.mpr rfl)⟩
      · exact links k after (by omega)
    -- Before each link stands the pictograph or another link, so no link starts a cluster.
    refine ⟨j, c, by omega, there, picture, own, fun k after le => ⟨?_, linked k after le⟩⟩
    obtain ⟨d, here, link⟩ := linked k after le
    obtain ⟨k, rfl⟩ := Nat.exists_eq_add_of_lt (Nat.zero_lt_of_lt after)
    rw [Nat.zero_add] at here after le ⊢
    by_cases first : k = j
    · exact link.not_mem_starts here (first ▸ there) (ofChar_ne_control picture)
    · obtain ⟨e, previous, other⟩ := linked k (by omega) (by omega)
      refine link.not_mem_starts here previous ?_
      rcases other with same | same <;> simp [same]

theorem unbroken_after_joiner (before : text[i]? = some '\u200d') (here : text[i + 1]? = some c)
    (picture : isPictographic c = true) (plain : ofChar c = other) :
    Unbroken text (i + 1) ↔ Reaches text (i + 1) := by
  have joiner : ofChar '\u200d' = joiner := ofChar_eq_joiner.mpr rfl
  constructor
  · rintro ⟨a, b, first, second, rule⟩
    obtain rfl : '\u200d' = a := Option.some.inj (before.symm.trans first)
    obtain rfl : c = b := Option.some.inj (here.symm.trans second)
    rcases rule with ⟨carriage, _⟩ | ⟨_, _, bond⟩
    · contradiction
    · -- Every other reason asks for another property of the joiner or of the pictograph.
      cases bond with
      | emoji _ _ behind => exact behind
      | _ => simp_all
  · intro behind
    have bond : Bond text (i + 1) '\u200d' c := .emoji rfl picture behind
    exact ⟨_, c, before, here, .inr ⟨by simp [joiner], by simp [plain], bond⟩⟩

/-- Where links lead from a pictograph to a joiner, the sequence of the standard ends there unless the
joiner follows another one. -/
theorem afterEmoji_iff (before : j < i) (there : text[j]? = some d) (picture : isPictographic d = true)
    (links : Throughout IsLink text j i) : AfterEmoji text (i + 1) ↔ ¬ AfterJoiner text (i + 1) := by
  constructor
  · rintro ⟨k, c, low, here, isPicture, extending⟩ ⟨l, lower, joiner, plain⟩
    simp only [Nat.add_sub_cancel] at extending plain
    -- The pictograph is none of the plain characters, and the joiner none of the extending ones.
    rcases Nat.lt_trichotomy k l with behind | rfl | ahead
    · obtain ⟨e, same, stretched⟩ := extending l behind (by omega)
      simp [(kind_of_joiner joiner same).2] at stretched
    · simp [(kind_of_joiner joiner here).1] at isPicture
    · obtain ⟨e, same, _, notPicture⟩ := plain k ahead (by omega)
      obtain rfl : c = e := Option.some.inj (here.symm.trans same)
      simp [isPicture] at notPicture
  · intro single
    rcases links.extend_or_joiner with extending | ⟨k, low, high, joiner, extending⟩
    · exact ⟨j, d, by omega, there, picture, extending⟩
    · apply Classical.byContradiction
      intro none
      refine single ⟨k, by omega, joiner, fun l after below => ?_⟩
      obtain ⟨e, here, stretched⟩ := extending l after (by omega)
      refine ⟨e, here, stretched, Bool.eq_false_iff.mpr fun isPicture => none ?_⟩
      exact ⟨l, e, by omega, here, isPicture, extending.drop (by omega)⟩

/-- What a pictograph after a joiner joins to: a pictograph that is followed by links only. This is the
rule of the standard, unless a second joiner comes before the last one. -/
theorem emoji_joined_iff (positive : 0 < i) (before : text[i - 1]? = some '\u200d')
    (here : text[i]? = some c) (picture : isPictographic c = true) (plain : ofChar c = other) :
    (i ∉ starts text ↔ ∃ j d, j + 1 < i ∧ text[j]? = some d ∧ isPictographic d = true ∧
      (j ∈ starts text ∨ ¬ IsLink d) ∧ Throughout IsLink text j (i - 1)) ∧
    (i ∉ starts text → (AfterEmoji text i ↔ ¬ AfterJoiner text i)) := by
  obtain ⟨i, rfl⟩ := Nat.exists_eq_add_of_lt positive
  simp only [Nat.zero_add, Nat.add_sub_cancel, Nat.add_lt_add_iff_right] at before here ⊢
  obtain ⟨within, _⟩ := List.getElem?_eq_some_iff.mp here
  have joined : i + 1 ∉ starts text ↔ Reaches text (i + 1) := by
    rw [mem_starts_iff within, ← unbroken_after_joiner before here picture plain]
    simp
  rw [joined, reaches_iff before]
  refine ⟨Iff.rfl, ?_⟩
  rintro ⟨j, d, low, there, isPicture, _, links⟩
  exact afterEmoji_iff low there isPicture links

/-- A woman with a skin tone, a joiner and a man. -/
def couple : Text :=
  [Char.ofNat 0x1f469, Char.ofNat 0x1f3fd, Char.ofNat 0x200d, Char.ofNat 0x1f468]

theorem emoji_joined_couple :
    (0 < 3 ∧ couple[3 - 1]? = some '\u200d' ∧ couple[3]? = some (Char.ofNat 0x1f468) ∧
      isPictographic (Char.ofNat 0x1f468) = true ∧ ofChar (Char.ofNat 0x1f468) = other ∧
      3 ∉ starts couple) ∧
    (∃ j d, j + 1 < 3 ∧ couple[j]? = some d ∧ isPictographic d = true ∧
      (j ∈ starts couple ∨ ¬ IsLink d) ∧ Throughout IsLink couple j (3 - 1)) ∧
    (AfterEmoji couple 3 ↔ ¬ AfterJoiner couple 3) := by
  have inside : 0 < 3 ∧ couple[3 - 1]? = some '\u200d' ∧ couple[3]? = some (Char.ofNat 0x1f468) ∧
      isPictographic (Char.ofNat 0x1f468) = true ∧ ofChar (Char.ofNat 0x1f468) = other ∧
      3 ∉ starts couple := by decide +kernel
  obtain ⟨positive, before, here, picture, plain, joined⟩ := inside
  obtain ⟨behind, rule⟩ := emoji_joined_iff positive before here picture plain
  exact ⟨⟨positive, before, here, picture, plain, joined⟩, behind.mp joined, rule joined⟩

/-- A woman, two joiners and a man. -/
def twiceJoined : Text :=
  [Char.ofNat 0x1f469, Char.ofNat 0x200d, Char.ofNat 0x200d, Char.ofNat 0x1f468]

/-- The man continues the cluster although the rule of the standard puts a boundary before him. -/
theorem emoji_joined_twice :
    (0 < 3 ∧ 3 < twiceJoined.length ∧ twiceJoined[3 - 1]? = some '\u200d' ∧
      twiceJoined[3]? = some (Char.ofNat 0x1f468) ∧ isPictographic (Char.ofNat 0x1f468) = true ∧
      ofChar (Char.ofNat 0x1f468) = other ∧ 3 ∉ starts twiceJoined) ∧
    ¬ AfterEmoji twiceJoined 3 := by
  refine ⟨by decide +kernel, ?_⟩
  rintro ⟨j, c, low, here, picture, extending⟩
  have second : j ≠ 1 := by
    rintro rfl
    simp [(kind_of_joiner rfl here).1] at picture
  obtain ⟨d, same, stretched⟩ := extending 1 (by omega) (by omega)
  simp [(kind_of_joiner rfl same).2] at stretched

end Highlight.Grapheme
