import Highlight.Proofs.Escapes
import Highlight.Proofs.Vocabulary
import Mathlib.Data.List.Perm.Basic
import Mathlib.Data.Nat.Find

/-! Numbers. Whether a digit continues a name is decided by what stands before its run of digits, so one
verdict holds for the whole run, whatever other digits the run has. A cluster has at most one of the ten
digits, and the ten searches never compete for it. What they leave is therefore the same in every order. -/
namespace Highlight

namespace Text

variable {edge : Char → Prop} {text : Text} {p start stop : Nat} {c : Char}

theorem exists_run (here : text[p]? = some c) (plain : ¬ edge c) :
    ∃ start stop, text.IsRun edge start stop ∧ start ≤ p ∧ p < stop := by
  classical
  have inside : p < text.length := (List.getElem?_eq_some_iff.mp here).1
  have reaches : ∃ start, start ≤ p ∧ ∀ q d, start ≤ q → q ≤ p → text[q]? = some d → ¬ edge d := by
    refine ⟨p, Nat.le_refl p, fun q d low high there => ?_⟩
    obtain rfl : q = p := Nat.le_antisymm high low
    obtain rfl : c = d := Option.some.inj (here.symm.trans there)
    exact plain
  have ends : ∃ stop, p < stop ∧ (stop = text.length ∨ ∃ c, text[stop]? = some c ∧ edge c) :=
    ⟨text.length, inside, .inl rfl⟩
  obtain ⟨low, before⟩ := Nat.find_spec reaches
  obtain ⟨high, right⟩ := Nat.find_spec ends
  refine ⟨Nat.find reaches, Nat.find ends,
    ⟨Nat.lt_of_le_of_lt low high, ?_, fun q d after below there => ?_, ?_, right⟩, low, high⟩
  · exact Nat.find_min' ends ⟨inside, .inl rfl⟩
  · by_cases le : q ≤ p
    · exact before q d after le there
    · intro edge
      exact Nat.find_min ends below ⟨by omega, .inr ⟨d, there, edge⟩⟩
  · rcases Nat.eq_zero_or_pos (Nat.find reaches) with zero | positive
    · exact .inl zero
    right
    obtain ⟨b, there⟩ : ∃ b, text[Nat.find reaches - 1]? = some b :=
      ⟨_, List.getElem?_eq_getElem (by omega)⟩
    refine ⟨b, there, Classical.byContradiction fun plainBefore => ?_⟩
    refine Nat.find_min reaches (Nat.sub_one_lt_of_lt positive) ⟨by omega, fun q d after le again => ?_⟩
    by_cases first : q = Nat.find reaches - 1
    · subst first
      obtain rfl : b = d := Option.some.inj (there.symm.trans again)
      exact plainBefore
    · exact before q d (by omega) le again

def EndsNumber (c : Char) : Prop := Unicode.isDigit c = false

/-- A character that makes the digits behind it part of a name. -/
def ContinuesName (c : Char) : Prop :=
  c = '_' ∨ Unicode.isLetter c = true ∨ Unicode.isCombining c = true

/-- A maximal run of digits that does not continue a name. -/
structure IsNumber (text : Text) (start stop : Nat) : Prop where
  run : text.IsRun EndsNumber start stop
  free : start = 0 ∨ ∃ c, text[start - 1]? = some c ∧ ¬ ContinuesName c

theorem IsRun.dropWhile_digits (run : text.IsRun EndsNumber start stop) (low : start ≤ p)
    (high : p < stop) : (text.take p).reverse.dropWhile Unicode.isDigit = (text.take start).reverse := by
  have stops : (text.take start).reverse.dropWhile Unicode.isDigit = (text.take start).reverse := by
    cases start with
    | zero => rfl
    | succ before =>
      obtain ⟨c, there, ends⟩ := run.left.resolve_left (Nat.succ_ne_zero before)
      have ends : Unicode.isDigit c = false := ends
      rw [List.take_add_one, ← Nat.add_sub_cancel before 1, there]
      simp [ends]
  induction low with
  | refl => exact stops
  | @step p low ih =>
    obtain ⟨c, here⟩ : ∃ c, text[p]? = some c := by
      have := run.inside
      exact ⟨_, List.getElem?_eq_getElem (by omega)⟩
    have digit : Unicode.isDigit c = true := by
      simpa [EndsNumber] using run.plain p c low (by omega) here
    rw [List.take_add_one, here]
    simp [digit, ih (by omega)]

/-- One verdict holds for all digits of a run. -/
theorem IsRun.digitRunIsFree_iff (run : text.IsRun EndsNumber start stop) (low : start ≤ p)
    (high : p < stop) : Matcher.digitRunIsFree text p = true ↔ text.IsNumber start stop := by
  have verdict : Matcher.digitRunIsFree text p = (text.take start).getLast?.all fun c =>
      !(c == '_' || Unicode.isLetter c || Unicode.isCombining c) := by
    rw [Matcher.digitRunIsFree, run.dropWhile_digits low high, ← List.head?_reverse]
    cases (text.take start).reverse <;> rfl
  rw [verdict, all_getLast?_iff (Nat.le_trans (Nat.le_of_lt run.proper) run.inside)]
  constructor
  · intro free
    exact ⟨run, by simpa [ContinuesName, and_assoc] using free⟩
  · intro number
    simpa [ContinuesName, and_assoc] using number.free

end Text

theorem Rule.mem_digitChars {c : Char} : c ∈ digitChars ↔ c.isDigit = true := by
  constructor
  · have all : digitChars.all Char.isDigit = true := by decide
    exact List.all_eq_true.mp all c
  · intro digit
    simp only [Char.isDigit, Bool.and_eq_true, decide_eq_true_eq, ge_iff_le, UInt32.le_iff_toNat_le] at digit
    have code : 48 + (c.toNat - 48) = c.toNat := Nat.add_sub_cancel' digit.1
    refine List.mem_map.mpr ⟨c.toNat - 48, List.mem_range.mpr ?_, by rw [code, Char.ofNat_toNat]⟩
    have : c.toNat ≤ 57 := digit.2
    omega

/-- The ten digits are digits among others, and each of them stands for itself. -/
theorem Rule.digit_plain {c : Char} (digit : c.isDigit = true) :
    Unicode.isDigit c = true ∧ Grapheme.IsSolid c := by
  have plain : digitChars.all (fun c => Unicode.isDigit c = true ∧ Grapheme.IsSolid c) = true := by
    decide +kernel
  simpa using List.all_eq_true.mp plain c (mem_digitChars.mpr digit)

namespace Text

variable {text : Text} {p : Nat} {c : Char}

def digitPlaces (text : Text) (c : Char) : List Nat :=
  (text.occurrences [c]).filter (Matcher.digitRunIsFree text)

theorem mem_digitPlaces :
    p ∈ text.digitPlaces c ↔ text[p]? = some c ∧ Matcher.digitRunIsFree text p = true := by
  rw [digitPlaces, List.mem_filter, mem_occurrences_single]

def numerals (text : Text) : List Nat :=
  (List.range text.length).filter fun p =>
    text[p]?.any Char.isDigit && Matcher.digitRunIsFree text p

theorem mem_numerals : p ∈ text.numerals ↔
    ∃ c, text[p]? = some c ∧ c.isDigit = true ∧ Matcher.digitRunIsFree text p = true := by
  rw [numerals, List.mem_filter, List.mem_range]
  constructor
  · rintro ⟨inside, accepted⟩
    have here := List.getElem?_eq_getElem inside
    rw [here] at accepted
    exact ⟨_, here, by simpa using accepted⟩
  · rintro ⟨c, here, digit, free⟩
    exact ⟨(List.getElem?_eq_some_iff.mp here).1, by simp [here, digit, free]⟩

theorem solid_of_mem_numerals (member : p ∈ text.numerals) :
    ∃ c, text[p]? = some c ∧ Grapheme.IsSolid c := by
  obtain ⟨c, here, digit, _⟩ := mem_numerals.mp member
  exact ⟨c, here, (Rule.digit_plain digit).2⟩

theorem numerals_increasing (text : Text) : text.numerals.Pairwise (· < ·) :=
  List.pairwise_lt_range.filter _

theorem digitPlaces_perm (text : Text) :
    (Rule.digitChars.flatMap text.digitPlaces).Perm text.numerals := by
  have distinct : (Rule.digitChars.flatMap text.digitPlaces).Nodup := by
    have each (c : Char) : (text.digitPlaces c).Nodup :=
      ((scan_increasing _ _ _ _).imp Nat.ne_of_lt).filter _
    refine List.pairwise_flatMap.mpr ⟨fun c _ => each c, ?_⟩
    have chars : Rule.digitChars.Nodup := by decide
    apply chars.imp
    rintro c d different p first q second rfl
    exact different (Option.some.inj
      ((mem_digitPlaces.mp first).1.symm.trans (mem_digitPlaces.mp second).1))
  refine (List.perm_ext_iff_of_nodup distinct (text.numerals_increasing.imp Nat.ne_of_lt)).mpr fun p => ?_
  simp only [List.mem_flatMap, mem_digitPlaces, mem_numerals, Rule.mem_digitChars]
  grind

/-- A digit is a numeral if its run is a number. -/
theorem mem_numerals_iff : p ∈ text.numerals ↔
    (∃ c, text[p]? = some c ∧ c.isDigit = true) ∧
      ∃ start stop, text.IsNumber start stop ∧ start ≤ p ∧ p < stop := by
  rw [mem_numerals]
  constructor
  · rintro ⟨c, here, digit, free⟩
    have plain : ¬ EndsNumber c := by simp [EndsNumber, (Rule.digit_plain digit).1]
    obtain ⟨start, stop, run, low, high⟩ := exists_run here plain
    exact ⟨⟨c, here, digit⟩, start, stop, (run.digitRunIsFree_iff low high).mp free, low, high⟩
  · rintro ⟨⟨c, here, digit⟩, start, stop, number, low, high⟩
    exact ⟨c, here, digit, (number.run.digitRunIsFree_iff low high).mpr number⟩

end Text

namespace GraphemeIndex

variable {text : Text} {p q : Nat} {c d : Char}

theorem eq_of_toGrapheme_eq (first : text[p]? = some c) (solid : Grapheme.IsSolid c)
    (second : text[q]? = some d) (other : Grapheme.IsSolid d)
    (same : (ofText text).toGrapheme p = (ofText text).toGrapheme q) : p = q := by
  obtain ⟨lowP, highP⟩ := startAt_toGrapheme (List.getElem?_eq_some_iff.mp first).1
  obtain ⟨lowQ, highQ⟩ := startAt_toGrapheme (List.getElem?_eq_some_iff.mp second).1
  rw [← same] at lowQ highQ
  exact Nat.le_antisymm (other.place_le second lowQ first solid highP)
    (solid.place_le first lowP second other highQ)

end GraphemeIndex

namespace Annotator

theorem record_same (a : Annotator) (label : String) (ranges : List (Int × Int)) :
    (a.record label ranges).1 = { a with marks := (a.record label ranges).1.marks } := by
  induction ranges generalizing a with
  | nil => rfl
  | cons range ranges ih => exact ih (a.insert range.1 range.2 label).1

theorem record_append (a : Annotator) (label : String) (first second : List (Int × Int)) :
    a.record label (first ++ second) =
      (((a.record label first).1.record label second).1,
        (a.record label first).2 + ((a.record label first).1.record label second).2) := by
  induction first generalizing a with
  | nil => simp [record]
  | cons range first ih => simp [record, ih, Int.add_assoc]

def clusterAt (a : Annotator) (p : Nat) : Int × Int :=
  (a.index.toGrapheme p, a.index.toGrapheme p + 1)

def clusterMark (a : Annotator) (label : String) (p : Nat) : Mark :=
  ⟨a.index.toGrapheme p, a.index.toGrapheme p + 1, label⟩

variable {a : Annotator} {label : String} {slack : Int} {places : List Nat}

/-- Solid characters at different places of a text without marks all get a mark on their cluster, whatever
the order of the places is. -/
theorem record_solid (sound : a.Sound slack) (unmarked : a.marks.marks = []) (distinct : places.Nodup)
    (solid : ∀ p ∈ places, ∃ c, a.text[p]? = some c ∧ Grapheme.IsSolid c) :
    ∃ store : MarkStore, a.record label (places.map a.clusterAt) =
        ({ a with marks := store }, (places.length : Int)) ∧ store.Sound ∧
      store.marks.Perm (places.map (a.clusterMark label)) := by
  obtain ⟨tried, listed, tries, count⟩ :=
    @record_tries a Nat a.clusterAt sound.marks label places fun p _ => by
      have := a.index.toGrapheme_nonneg p
      simp only [clusterAt]
      omega
  have recorded : ∀ entry ∈ tried, entry.2 = true := by
    apply tries.all_recorded fun _ _ i _ _ => sound.marks.isTaken_unmarked unmarked i
    have different : tried.Pairwise fun x y => x.1 ≠ y.1 := by
      rw [← List.pairwise_map, listed]
      exact distinct
    apply different.imp_of_mem
    intro x y first second apart
    obtain ⟨c, here, solidHere⟩ := solid x.1 (listed ▸ List.mem_map_of_mem first)
    obtain ⟨d, there, solidThere⟩ := solid y.1 (listed ▸ List.mem_map_of_mem second)
    have clusters := mt (GraphemeIndex.eq_of_toGrapheme_eq here solidHere there solidThere) apart
    rw [← sound.index] at clusters
    simp only [clusterAt]
    omega
  have bounded : ∀ range ∈ places.map a.clusterAt, range.2 ≤ max a.size slack := by
    intro range member
    obtain ⟨p, listed, rfl⟩ := List.mem_map.mp member
    obtain ⟨c, here, _⟩ := solid p listed
    have below := GraphemeIndex.toGrapheme_lt_size (List.getElem?_eq_some_iff.mp here).1
    rw [← sound.index] at below
    simp only [clusterAt, size]
    omega
  refine ⟨_, Prod.ext (a.record_same label _) ?_, (sound.grows (record_grows bounded)).marks, ?_⟩
  · rw [count, List.countP_eq_length.mpr recorded, ← listed, List.length_map]
  · have marks := tries.marks_of_recorded recorded
    rw [listed, unmarked, List.nil_append] at marks
    exact marks

end Annotator

def Annotator.digitClusters (a : Annotator) (digits : List Char) : List (Int × Int) :=
  (digits.flatMap a.text.digitPlaces).map a.clusterAt

theorem Matcher.run_digit (config : Config) (a : Annotator) (label : String) (c : Char) :
    (char [c] true).run config a label = .ok (a.record label (a.digitClusters [c])) := by
  have checked : (char [c] true).check = .ok () := by
    simp [check_eq_ok_iff, IsRefused, targets, counts]
  simp only [run, checked, mark, regions, GraphemeIndex.span_single, Bool.not_true, Bool.false_or,
    Annotator.digitClusters, List.flatMap_singleton]
  rfl

namespace Rule

/-- A rule that marks a digit, as grammars have it or as callers ask for it. -/
inductive IsDigitRule (c : Char) (label : String) : Rule → Prop where
  | written : IsDigitRule c label (.find (.char [c] true) label)
  | asked : IsDigitRule c label (.ask (Matcher.request (.char [c] true)) (.text label))

variable {c : Char} {label : String} {rule : Rule} {order : List Char} {desk : Desk} {slack : Int}

theorem IsDigitRule.applyAt (isRule : IsDigitRule c label rule) (levels : Nat) (desk : Desk) :
    applyAt levels rule desk = Work.search (.char [c] true) label desk := by
  cases isRule with
  | written => cases levels <;> rfl
  | asked =>
    have read : (Matcher.request (.char [c] true)).matcher = .ok (.char [c] true) := by
      simp only [Matcher.request, Request.matcher, Matcher.readText_text]
      rfl
    have asking : Rule.applyAt levels (.ask (Matcher.request (.char [c] true)) (.text label)) =
        Work.ask (Matcher.request (.char [c] true)) label := by
      cases levels <;> rfl
    have flawless (config : Config) : (Matcher.request (.char [c] true)).isFlawed config = false := rfl
    have whole : (Matcher.request (.char [c] true)).hasRealExtent = false := rfl
    rw [asking]
    apply Work.eq_of_attempt
    simp [Work.ask, Work.attempt_bind, read, flawless, whole]

theorem applyEach_digits (levels : Nat) {rule : Char → Rule} (isRule : ∀ c, IsDigitRule c label (rule c))
    (order : List Char) (desk : Desk) :
    applyEach (Rule.applyAt levels) (order.map rule) desk =
      .ok (desk.annotator.record label (desk.annotator.digitClusters order)).2
        { desk with annotator := (desk.annotator.record label (desk.annotator.digitClusters order)).1 } := by
  induction order generalizing desk with
  | nil => rfl
  | cons c order ih =>
    let next := (desk.annotator.record label (desk.annotator.digitClusters [c])).1
    have searched : Rule.applyAt levels (rule c) desk =
        .ok (desk.annotator.record label (desk.annotator.digitClusters [c])).2
          { desk with annotator := next } := by
      rw [(isRule c).applyAt]
      simp only [Work.search, Matcher.run_digit, next]
    have later := applyEach_cons_ok searched (ih { desk with annotator := next })
    have kept : next.digitClusters order = desk.annotator.digitClusters order := by
      simp only [next]
      rw [Annotator.record_same]
      rfl
    have joined : desk.annotator.digitClusters (c :: order) =
        desk.annotator.digitClusters [c] ++ desk.annotator.digitClusters order := by
      simp [Annotator.digitClusters]
    rw [List.map_cons, later, joined, Annotator.record_append]
    simp only [kept, next]

theorem numerals_ordered {a : Annotator} (index : a.index = .ofText a.text) :
    (a.text.numerals.map (a.clusterMark label)).Pairwise fun x y => x.stop ≤ y.start := by
  rw [List.pairwise_map]
  apply a.text.numerals_increasing.imp_of_mem
  intro p q first second before
  obtain ⟨c, here, solidHere⟩ := Text.solid_of_mem_numerals first
  obtain ⟨d, there, solidThere⟩ := Text.solid_of_mem_numerals second
  have ordered := GraphemeIndex.toGrapheme_mono (Nat.le_of_lt before) (List.getElem?_eq_some_iff.mp there).1
  have different := mt (GraphemeIndex.eq_of_toGrapheme_eq here solidHere there solidThere) (by omega)
  rw [← index] at ordered different
  simp only [Annotator.clusterMark]
  omega

theorem digits_leave (sound : desk.annotator.Sound slack) (unmarked : desk.annotator.marks.marks = [])
    {rule : Char → Rule} (isRule : ∀ c, IsDigitRule c label (rule c)) (same : order.Perm digitChars) :
    Leaves (order.map rule) desk
      (desk.annotator.text.numerals.map (desk.annotator.clusterMark label)) := by
  have places : (order.flatMap desk.annotator.text.digitPlaces).Perm desk.annotator.text.numerals :=
    (same.flatMap_right _).trans (Text.digitPlaces_perm _)
  have distinct := places.nodup_iff.mpr (desk.annotator.text.numerals_increasing.imp Nat.ne_of_lt)
  obtain ⟨store, recorded, storeSound, marks⟩ := @Annotator.record_solid _ label _ _ sound unmarked distinct
    fun p member => Text.solid_of_mem_numerals (places.mem_iff.mp member)
  have listed : store.marks = desk.annotator.text.numerals.map (desk.annotator.clusterMark label) := by
    refine Mark.eq_of_ordered storeSound.ordered (numerals_ordered sound.index)
      (fun mark member => (storeSound.proper mark member).2) fun mark => ?_
    exact (marks.trans (places.map _)).mem_iff
  refine ⟨store, listed, ?_⟩
  have applied := applyEach_digits (levelsLeft desk) isRule order desk
  rw [Annotator.digitClusters, recorded] at applied
  rw [List.length_map, ← places.length_eq]
  exact applied

theorem exists_order {α : Type} {make : α → Rule} {items : List α} {rules : List Rule}
    (same : rules.Perm (items.map make)) : ∃ order : List α, order.Perm items ∧ rules = order.map make := by
  have made : List.Forall₂ (fun rule item => rule = make item) (items.map make) items :=
    List.forall₂_map_left_iff.mpr (List.forall₂_same.mpr fun _ _ => rfl)
  obtain ⟨order, each, perm⟩ := List.perm_comp_forall₂ same made
  refine ⟨order, perm, ?_⟩
  rw [← List.forall₂_eq_eq_eq, List.forall₂_map_right_iff]
  exact each

/-- Rules for the ten digits, in any order and on a text without marks, mark digits run by run. A digit
gets a mark on its cluster exactly if the maximal run of digits around it, those of other scripts
included, does not continue a name. So either all of the ten digits in a run are marked or none is. -/
theorem digits_any_order (handled : desk.annotator.Handled) (unmarked : desk.annotator.marks.marks = [])
    (label : String) :
    ∃ found : List Nat, found.Pairwise (· < ·) ∧
      (∀ p, p ∈ found ↔ (∃ c, desk.annotator.text[p]? = some c ∧ c.isDigit = true) ∧
        ∃ start stop, desk.annotator.text.IsNumber start stop ∧ start ≤ p ∧ p < stop) ∧
      let marks := found.map (desk.annotator.clusterMark label)
      (∀ rules : List Rule, rules.Perm (digits label) ∨ rules.Perm (digitsAs (.text label)) →
        Leaves rules desk marks) ∧
      ∀ start stop, desk.annotator.text.IsRun Text.EndsNumber start stop →
        (∀ p c, start ≤ p → p < stop → desk.annotator.text[p]? = some c → c.isDigit = true →
          desk.annotator.clusterMark label p ∈ marks) ∨
        ∀ p c, start ≤ p → p < stop → desk.annotator.text[p]? = some c → c.isDigit = true →
          ∀ mark ∈ marks, mark.start ≠ desk.annotator.index.toGrapheme p := by
  obtain ⟨slack, _, sound⟩ := handled.sound
  refine ⟨desk.annotator.text.numerals, Text.numerals_increasing _, fun p => Text.mem_numerals_iff,
    fun rules same => ?_, fun start stop run => ?_⟩
  · rcases same with same | same
    · obtain ⟨order, perm, rfl⟩ := exists_order same
      exact digits_leave sound unmarked (fun _ => .written) perm
    · obtain ⟨order, perm, rfl⟩ := exists_order same
      exact digits_leave sound unmarked (fun _ => .asked) perm
  · by_cases number : desk.annotator.text.IsNumber start stop
    · left
      intro p c low high here digit
      have free := (run.digitRunIsFree_iff low high).mpr number
      exact List.mem_map_of_mem (Text.mem_numerals.mpr ⟨c, here, digit, free⟩)
    · right
      intro p c low high here digit mark member same
      obtain ⟨q, found, rfl⟩ := List.mem_map.mp member
      obtain ⟨d, there, otherDigit, free⟩ := Text.mem_numerals.mp found
      -- No other digit stands in the cluster, so the mark would be that of this one.
      simp only [Annotator.clusterMark, sound.index] at same
      obtain rfl := GraphemeIndex.eq_of_toGrapheme_eq there (digit_plain otherDigit).2 here
        (digit_plain digit).2 same
      exact number ((run.digitRunIsFree_iff low high).mp free)

/-- Digits behind a letter, around a digit of another script, behind an accent, and in the cluster of a
number sign. -/
def numbered : Desk where
  annotator := .create {} "x1 2\u06634 e\u03017 \u06008".toList (some false)

/-- The first and the third of them continue names. -/
theorem digits_any_order_numbered :
    numbered.annotator.Handled ∧ numbered.annotator.marks.marks = [] ∧
    Leaves (digits "number") numbered [⟨3, 4, "number"⟩, ⟨5, 6, "number"⟩, ⟨10, 11, "number"⟩] ∧
    Leaves (digits "number").reverse numbered
      [⟨3, 4, "number"⟩, ⟨5, 6, "number"⟩, ⟨10, 11, "number"⟩] := by
  have handled : numbered.annotator.Handled := .create {} _ _
  obtain ⟨found, _, _, leaves, _⟩ := digits_any_order handled rfl "number"
  have given := leaves (digits "number") (.inl (.refl _))
  have reversed := leaves (digits "number").reverse (.inl (List.reverse_perm _))
  have marks : found.map (numbered.annotator.clusterMark "number") =
      [⟨3, 4, "number"⟩, ⟨5, 6, "number"⟩, ⟨10, 11, "number"⟩] := by
    obtain ⟨store, listed, applied⟩ := given
    have evaluated : ((applyAll (digits "number")).attempt numbered).2.annotator.marks.marks =
        [⟨3, 4, "number"⟩, ⟨5, 6, "number"⟩, ⟨10, 11, "number"⟩] := by
      decide +kernel
    rw [← listed, ← evaluated, Work.attempt, applied]
  rw [marks] at given reversed
  exact ⟨handled, rfl, given, reversed⟩

end Rule

end Highlight
