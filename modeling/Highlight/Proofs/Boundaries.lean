import Highlight.Proofs.Locality

/-! The rules of segmentation, stated without a scan. Whether two neighbours stand in one cluster depends
on their properties, on the run of regional indicators before them, and on whether a pictograph lies
before a joiner with nothing but links between. The scan computes these rules: after every character
its counter is the length of that run, and its flag says that such a pictograph lies behind. -/
namespace Highlight.Grapheme

open BreakProperty

variable {text : Text} {i : Nat} {scan : Scan}

def regionalRun (text : Text) (i : Nat) : Nat :=
  ((text.take i).reverse.takeWhile fun c => ofChar c = regional).length

def IsLink (c : Char) : Prop := ofChar c = extend ∨ ofChar c = joiner

/-- A pictograph lies before position `i`, and all that follows it up to there are links of its own
cluster. Emoji modifiers are pictographs and links at once; one of them counts as the pictograph only
where it starts a cluster. -/
def Reaches (text : Text) (i : Nat) : Prop :=
  ∃ j c, j < i ∧ text[j]? = some c ∧ isPictographic c = true ∧ (j ∈ starts text ∨ ¬ IsLink c) ∧
    ∀ k, j < k → k < i → k ∉ starts text ∧ ∃ d, text[k]? = some d ∧ IsLink d

/-- Reasons why `b` at position `i` continues the cluster of `a` before it, none of them a control
character. -/
inductive Bond (text : Text) (i : Nat) (a b : Char) : Prop where
  | leading (first : ofChar a = jamoL)
      (second : ofChar b = jamoL ∨ ofChar b = jamoV ∨ ofChar b = syllableLV ∨ ofChar b = syllableLVT)
  | vowel (first : ofChar a = syllableLV ∨ ofChar a = jamoV)
      (second : ofChar b = jamoV ∨ ofChar b = jamoT)
  | trailing (first : ofChar a = syllableLVT ∨ ofChar a = jamoT) (second : ofChar b = jamoT)
  | attached (second : ofChar b = extend ∨ ofChar b = joiner ∨ ofChar b = spacingMark)
  | prepended (first : ofChar a = prepend)
  | emoji (first : a = '\u200d') (second : isPictographic b = true) (behind : Reaches text i)
  | flag (first : ofChar a = regional) (second : ofChar b = regional)
      (odd : regionalRun text i % 2 = 1)

def Unbroken (text : Text) (i : Nat) : Prop :=
  ∃ a b, text[i - 1]? = some a ∧ text[i]? = some b ∧
    ((a = '\r' ∧ b = '\n') ∨ (ofChar a ≠ control ∧ ofChar b ≠ control ∧ Bond text i a b))

theorem ofChar_eq_joiner {c : Char} : ofChar c = joiner ↔ c = '\u200d' := by
  constructor
  · intro joins
    apply Classical.byContradiction
    intro different
    have code : c.toNat ≠ 0x200d := fun same => different (Char.toNat_inj.mp same)
    simp only [ofChar, code, apply_ite (· = joiner), reduceCtorEq, ite_self, if_false] at joins
  · rintro rfl
    decide

theorem syllablesJoin_iff {p q : BreakProperty} : syllablesJoin p q = true ↔
    (p = jamoL ∧ (q = jamoL ∨ q = jamoV ∨ q = syllableLV ∨ q = syllableLVT)) ∨
    ((p = syllableLV ∨ p = jamoV) ∧ (q = jamoV ∨ q = jamoT)) ∨
    ((p = syllableLVT ∨ p = jamoT) ∧ q = jamoT) := by
  cases p <;> cases q <;> decide

theorem attaches_iff {p : BreakProperty} :
    attaches p = true ↔ p = extend ∨ p = joiner ∨ p = spacingMark := by
  simp [attaches, or_assoc]

/-- What the scan remembers, read off the text before position `i`. -/
structure Scan.Tracks (scan : Scan) (text : Text) (i : Nat) : Prop where
  last : text[i - 1]? = some scan.last
  property : scan.property = ofChar scan.last
  regionals : scan.regionals = regionalRun text i
  emoji : scan.emoji = true ↔ Reaches text i

theorem length_takeWhile_reverse_take {α : Type} {keep : α → Bool} {items : List α} {x : α}
    (here : items[i]? = some x) :
    ((items.take (i + 1)).reverse.takeWhile keep).length =
      if keep x = true then ((items.take i).reverse.takeWhile keep).length + 1 else 0 := by
  have read : items.take (i + 1) = items.take i ++ [x] := by
    rw [List.take_add_one, here]
    rfl
  simp only [read, List.reverse_append, List.reverse_singleton, List.singleton_append,
    List.takeWhile_cons]
  split <;> rfl

theorem regionalRun_succ {c : Char} (here : text[i]? = some c) :
    regionalRun text (i + 1) = if ofChar c = regional then regionalRun text i + 1 else 0 := by
  simp only [regionalRun, length_takeWhile_reverse_take here, decide_eq_true_eq]

theorem reaches_succ {c : Char} (here : text[i]? = some c) :
    Reaches text (i + 1) ↔
      (i ∉ starts text ∧ IsLink c ∧ Reaches text i) ∨
      ((i ∈ starts text ∨ ¬ IsLink c) ∧ isPictographic c = true) := by
  constructor
  · rintro ⟨j, d, before, there, picture, own, between⟩
    by_cases last : j = i
    · subst last
      obtain rfl : c = d := Option.some.inj (here.symm.trans there)
      exact .inr ⟨own, picture⟩
    · obtain ⟨inside, e, same, link⟩ := between i (by omega) (by omega)
      obtain rfl : c = e := Option.some.inj (here.symm.trans same)
      exact .inl ⟨inside, link, j, d, by omega, there, picture, own, fun k low high =>
        between k low (by omega)⟩
  · rintro (⟨inside, link, j, d, before, there, picture, own, between⟩ | ⟨own, picture⟩)
    · refine ⟨j, d, by omega, there, picture, own, fun k low high => ?_⟩
      by_cases last : k = i
      · exact last ▸ ⟨inside, c, here, link⟩
      · exact between k low (by omega)
    · exact ⟨i, c, by omega, here, picture, own, fun k low high => by omega⟩

theorem Scan.first_tracks {c : Char} {rest : Text} (nonempty : text = c :: rest) :
    (Scan.first c).Tracks text 1 := by
  subst nonempty
  have here : (c :: rest)[0]? = some c := rfl
  refine ⟨here, rfl, ?_, ?_⟩
  · rw [regionalRun_succ here]
    rfl
  · rw [reaches_succ here]
    simp [Scan.first, starts]

/-- The decision of the scan as one condition: its tests only ever add reasons to join, once control
characters are out of the way. -/
theorem Scan.joins_iff (scan : Scan) (c : Char) : scan.joins c = true ↔
    (scan.last = '\r' ∧ c = '\n') ∨
    (scan.property ≠ control ∧ ofChar c ≠ control ∧
      (syllablesJoin scan.property (ofChar c) = true ∨ attaches (ofChar c) = true ∨
        scan.property = prepend ∨
        (scan.property = joiner ∧ scan.emoji = true ∧ isPictographic c = true) ∨
        (scan.property = regional ∧ ofChar c = regional ∧ scan.regionals % 2 = 1))) := by
  by_cases lineEnd : scan.last = '\r' ∧ c = '\n'
  · simp [Scan.joins, lineEnd]
  by_cases controls : scan.property = control ∨ ofChar c = control
  · have barred : ¬ (scan.property ≠ control ∧ ofChar c ≠ control) := fun both =>
      controls.elim both.1 both.2
    simp only [Scan.joins, Bool.and_eq_true, beq_iff_eq, lineEnd, controls, if_true, if_false]
    grind
  · have allowed := not_or.mp controls
    simp only [Scan.joins, Bool.and_eq_true, beq_iff_eq, lineEnd, controls, if_false]
    grind

theorem Scan.Tracks.bond_iff (tracks : scan.Tracks text i) (c : Char) :
    Bond text i scan.last c ↔
      syllablesJoin scan.property (ofChar c) = true ∨ attaches (ofChar c) = true ∨
      scan.property = prepend ∨
      (scan.property = joiner ∧ scan.emoji = true ∧ isPictographic c = true) ∨
      (scan.property = regional ∧ ofChar c = regional ∧ scan.regionals % 2 = 1) := by
  rw [tracks.property, tracks.regionals, tracks.emoji, syllablesJoin_iff, attaches_iff]
  constructor
  · intro bond
    cases bond with
    | leading first second => exact .inl (.inl ⟨first, second⟩)
    | vowel first second => exact .inl (.inr (.inl ⟨first, second⟩))
    | trailing first second => exact .inl (.inr (.inr ⟨first, second⟩))
    | attached second => exact .inr (.inl second)
    | prepended first => exact .inr (.inr (.inl first))
    | emoji first second behind =>
      exact .inr (.inr (.inr (.inl ⟨ofChar_eq_joiner.mpr first, behind, second⟩)))
    | flag first second odd => exact .inr (.inr (.inr (.inr ⟨first, second, odd⟩)))
  · rintro ((⟨first, second⟩ | ⟨first, second⟩ | ⟨first, second⟩) | second | first |
      ⟨first, behind, second⟩ | ⟨first, second, odd⟩)
    · exact .leading first second
    · exact .vowel first second
    · exact .trailing first second
    · exact .attached second
    · exact .prepended first
    · exact .emoji (ofChar_eq_joiner.mp first) second behind
    · exact .flag first second odd

theorem Scan.Tracks.joins_iff (tracks : scan.Tracks text i) {c : Char} (here : text[i]? = some c) :
    scan.joins c = true ↔ Unbroken text i := by
  rw [Scan.joins_iff, ← tracks.bond_iff, tracks.property]
  constructor
  · exact fun rule => ⟨scan.last, c, tracks.last, here, rule⟩
  · rintro ⟨a, b, before, after, rule⟩
    obtain rfl : scan.last = a := Option.some.inj (tracks.last.symm.trans before)
    obtain rfl : c = b := Option.some.inj (here.symm.trans after)
    exact rule

theorem Scan.advance_emoji_iff (scan : Scan) (c : Char) : (scan.advance c).emoji = true ↔
    (scan.joins c = true ∧ IsLink c ∧ scan.emoji = true) ∨
    ((¬ scan.joins c = true ∨ ¬ IsLink c) ∧ isPictographic c = true) := by
  simp only [Scan.advance, Bool.and_eq_true, Bool.or_eq_true, decide_eq_true_eq, IsLink]
  split
  next kept => simp [kept]
  next renewed =>
    have anew := Classical.not_and_iff_not_or_not.mp renewed
    constructor
    · exact fun picture => .inr ⟨anew, picture⟩
    · rintro (⟨joins, link, _⟩ | ⟨_, picture⟩)
      · exact absurd ⟨joins, link⟩ renewed
      · exact picture

/-- One character on, the memory of the scan still matches the text, if its decision is what the list of
starts says. -/
theorem Scan.Tracks.advance (tracks : scan.Tracks text i) {c : Char} (here : text[i]? = some c)
    (decided : i ∉ starts text ↔ scan.joins c = true) : (scan.advance c).Tracks text (i + 1) := by
  refine ⟨here, rfl, ?_, ?_⟩
  · rw [regionalRun_succ here, ← tracks.regionals]
    rfl
  · have boundary : i ∈ starts text ↔ ¬ scan.joins c = true := by rw [← decided, Classical.not_not]
    rw [reaches_succ here, decided, boundary, ← tracks.emoji]
    exact scan.advance_emoji_iff c

theorem Scan.Tracks.unbroken_iff {rest : Text} (tracks : scan.Tracks text i) (ahead : text.drop i = rest)
    (agree : ∀ k, i ≤ k → (k ∈ starts text ↔ k ∈ startsAfter scan i rest)) {k : Nat} (low : i ≤ k)
    (high : k < text.length) : k ∉ starts text ↔ Unbroken text k := by
  induction rest generalizing scan i with
  | nil =>
    have := List.drop_eq_nil_iff.mp ahead
    omega
  | cons c rest ih =>
    have here : text[i]? = some c := by
      rw [← List.head?_drop, ahead]
      rfl
    have next : text.drop (i + 1) = rest := by
      rw [← List.drop_drop, ahead]
      rfl
    have decided : i ∉ starts text ↔ scan.joins c = true := by
      rw [agree i (Nat.le_refl i)]
      have apart : i ∉ startsAfter (scan.advance c) (i + 1) rest := by
        intro later
        have := startsAfter_bounds later
        omega
      cases joined : scan.joins c <;> simp [startsAfter, joined, apart]
    by_cases now : k = i
    · rw [now, decided]
      exact tracks.joins_iff here
    · apply ih (tracks.advance here decided) next _ (by omega)
      intro later after
      have different : later ≠ i := by omega
      rw [agree later (by omega)]
      cases joined : scan.joins c <;> simp [startsAfter, joined, different]

/-- The starts of a text are where the rules put a boundary. -/
theorem starts_boundaries (text : Text) :
    (∀ i, 0 < i → i < text.length → (i ∉ starts text ↔ Unbroken text i)) ∧
    (starts text).Pairwise (· < ·) ∧ (text ≠ [] → (starts text).head? = some 0) := by
  refine ⟨fun i positive within => ?_, starts_increasing text, fun nonempty => ?_⟩
  · cases shape : text with
    | nil => simp [shape] at within
    | cons c rest =>
      rw [← shape]
      have tracks := Scan.first_tracks shape
      have ahead : text.drop 1 = rest := by simp [shape]
      refine tracks.unbroken_iff ahead (fun k low => ?_) positive within
      have later : k ≠ 0 := by omega
      simp [shape, starts, later]
  · obtain ⟨c, rest, rfl⟩ := List.exists_cons_of_ne_nil nonempty
    rfl

/-- A skin tone that stands alone, a joiner and a woman. -/
def toneFirst : Text := [Char.ofNat 0x1f3fd, Char.ofNat 0x200d, Char.ofNat 0x1f469]

/-- A modifier that starts a cluster is the pictograph behind the joiner, although it is a link too. -/
theorem starts_boundaries_toneFirst :
    (0 < 2 ∧ 2 < toneFirst.length ∧ 2 ∉ starts toneFirst) ∧ Unbroken toneFirst 2 := by
  have inside : 0 < 2 ∧ 2 < toneFirst.length ∧ 2 ∉ starts toneFirst := by decide +kernel
  exact ⟨inside, ((starts_boundaries toneFirst).1 2 inside.1 inside.2.1).mp inside.2.2⟩

end Highlight.Grapheme
