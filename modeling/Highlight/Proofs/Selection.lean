import Highlight.Proofs.Pairing
import Highlight.Proofs.Pattern

/-! Choosing places and recording what lies over them. `Selects` is the choice from the left without
overlap among the places that are eligible; the scans of a text make it, and so do searches in a row
(`Searches`). `Tries` is the course of recording ranges one after another, with what becomes of each: a
range is refused if one of its clusters is taken at that moment, and recorded otherwise. A search for
whole words is the one after the other. -/
namespace Highlight

namespace Text

/-- Places chosen from a cursor on: the first one that is eligible, then the first one that is eligible
and at least `width` characters behind it, and so on until none is left. -/
inductive Selects (eligible : Nat → Prop) (width : Nat) : (cursor : Nat) → (chosen : List Nat) → Prop where
  | done {cursor : Nat} (missing : ∀ p, cursor ≤ p → ¬ eligible p) : Selects eligible width cursor []
  | next {cursor p : Nat} {chosen : List Nat} (after : cursor ≤ p) (fits : eligible p)
      (least : ∀ q, cursor ≤ q → eligible q → p ≤ q)
      (rest : Selects eligible width (p + width) chosen) : Selects eligible width cursor (p :: chosen)

namespace Selects

variable {eligible other : Nat → Prop} {width cursor p : Nat} {chosen : List Nat}

theorem back (selects : Selects eligible width (cursor + 1) chosen) (misfit : ¬ eligible cursor) :
    Selects eligible width cursor chosen := by
  have past {q : Nat} (after : cursor ≤ q) (fits : eligible q) : cursor + 1 ≤ q := by
    apply Nat.lt_of_le_of_ne after
    rintro rfl
    exact misfit fits
  generalize start : cursor + 1 = later at selects
  cases selects with
  | done missing => exact .done fun q after fits => missing q (start ▸ past after fits) fits
  | next after fits least rest =>
    exact .next (by omega) fits (fun q after fits => least q (start ▸ past after fits) fits) rest

theorem congr (selects : Selects eligible width cursor chosen) (same : ∀ p, eligible p ↔ other p) :
    Selects other width cursor chosen := by
  obtain rfl : eligible = other := funext fun p => propext (same p)
  exact selects

theorem mem (selects : Selects eligible width cursor chosen) (member : p ∈ chosen) :
    cursor ≤ p ∧ eligible p := by
  induction selects with
  | done => simp at member
  | next after fits _ _ ih =>
    rcases List.mem_cons.mp member with rfl | later
    · exact ⟨after, fits⟩
    · obtain ⟨behind, fits⟩ := ih later
      exact ⟨by omega, fits⟩

theorem apart (selects : Selects eligible width cursor chosen) :
    chosen.Pairwise fun p q => p + width ≤ q := by
  induction selects with
  | done => exact .nil
  | next _ _ _ rest ih => exact List.pairwise_cons.mpr ⟨fun q later => (rest.mem later).1, ih⟩

/-- An eligible place is hidden by none but a chosen one. -/
theorem covers (selects : Selects eligible width cursor chosen) (after : cursor ≤ p) (fits : eligible p) :
    ∃ q ∈ chosen, q ≤ p ∧ p < q + width := by
  induction selects with
  | done missing => exact absurd fits (missing p after)
  | @next cursor q chosen _ _ least rest ih =>
    have low := least p after fits
    by_cases hidden : p < q + width
    · exact ⟨q, List.mem_cons_self, low, hidden⟩
    · obtain ⟨r, member, bounds⟩ := ih (by omega)
      exact ⟨r, List.mem_cons_of_mem q member, bounds⟩

end Selects

variable {text target rest : Text} {width p : Nat}

theorem scan_selects {accept : Option Char → Text → Bool} {before : Option Char} {position skip : Nat}
    (positive : 0 < width) (here : rest = text.drop position)
    (left : before = (text.take position).getLast?) :
    Selects (fun p => p < text.length ∧ accept (text.take p).getLast? (text.drop p) = true) width
      (position + skip) (scan accept width before position skip rest) := by
  have inside {c : Char} {rest : Text} {position : Nat} (here : c :: rest = text.drop position) :
      position < text.length := by
    have := congrArg List.length here
    simp only [List.length_cons, List.length_drop] at this
    omega
  have step {c : Char} {rest : Text} {position : Nat} (here : c :: rest = text.drop position) :
      some c = (text.take (position + 1)).getLast? := by
    rw [List.take_add_one, ← List.head?_drop, ← here]
    simp
  -- As in the loop with two delimiters, the cursor is where the skipping ends.
  fun_induction scan accept width before position skip rest with
  | case1 before position skip =>
    have ended := List.drop_eq_nil_iff.mp here.symm
    exact .done fun p after fits => by omega
  | case2 before position skip c rest ih =>
    have cursor : position + (skip + 1) = position + 1 + skip := by omega
    rw [cursor]
    exact ih (rest_eq_drop here) (step here)
  | case3 before position c rest accepted ih =>
    have behind : position + 1 + (width - 1) = position + width := by omega
    have later := ih (rest_eq_drop here) (step here)
    rw [behind] at later
    rw [left, here] at accepted
    exact .next (Nat.le_refl _) ⟨inside here, accepted⟩ (fun _ after _ => after) later
  | case4 before position c rest missed ih =>
    have later := ih (rest_eq_drop here) (step here)
    rw [left, here] at missed
    exact later.back fun fits => missed fits.2

theorem Stands.lt (stands : text.Stands target p) (nonempty : target ≠ []) : p < text.length := by
  have := stands.le nonempty
  have := List.length_pos_iff.mpr nonempty
  omega

theorem occurrences_selects (nonempty : target ≠ []) :
    Selects (text.Stands target) target.length 0 (text.occurrences target) := by
  have scanned := @scan_selects text text target.length (fun _ rest => target.isPrefixOf rest) none 0 0
    (List.length_pos_iff.mpr nonempty) rfl rfl
  refine scanned.congr fun p => ?_
  rw [← stands_iff]
  exact ⟨And.right, fun stands => ⟨stands.lt nonempty, stands⟩⟩

/-- Searches in a row: each begins behind what the one before it found, and the first that finds nothing
is the last. -/
inductive Searches (text target : Text) : (cursor : Nat) → (found : List Nat) → Prop where
  | done {cursor : Nat} (missing : text.find? target cursor = none) : Searches text target cursor []
  | next {cursor p : Nat} {found : List Nat} (here : text.find? target cursor = some p)
      (rest : Searches text target (p + target.length) found) : Searches text target cursor (p :: found)

theorem Searches.unique {cursor : Nat} {found other : List Nat}
    (left : Searches text target cursor found) (right : Searches text target cursor other) :
    found = other := by
  induction left generalizing other with
  | done missing =>
    cases right with
    | done => rfl
    | next here => simp [missing] at here
  | next here _ ih =>
    cases right with
    | done missing => simp [missing] at here
    | next again rest =>
      obtain rfl := Option.some.inj (here.symm.trans again)
      rw [ih rest]

theorem Selects.searches {cursor : Nat} {chosen : List Nat} (nonempty : target ≠ [])
    (selects : Selects (text.Stands target) target.length cursor chosen) :
    Searches text target cursor chosen := by
  induction selects with
  | @done cursor missing =>
    have searched := find?_cases text nonempty cursor
    cases found : text.find? target cursor with
    | none => exact .done found
    | some p =>
      rw [found] at searched
      exact absurd searched.stands (missing p searched.after)
  | @next cursor p chosen after fits least _ ih =>
    have searched := find?_cases text nonempty cursor
    cases found : text.find? target cursor with
    | none =>
      rw [found] at searched
      exact absurd fits (searched p after)
    | some q =>
      rw [found] at searched
      obtain rfl := searched.unique ⟨after, fits, least⟩
      exact .next found ih

/-- The searches in a row end, with the occurrences of their target and in no other way. Occurrences lie
apart from left to right, the target stands at each of them, and wherever else it stands, an occurrence
reaches over its first character. -/
theorem occurrences_cover (text : Text) {target : Text} (nonempty : target ≠ []) :
    (∀ found, Searches text target 0 found ↔ found = text.occurrences target) ∧
    ((text.occurrences target).Pairwise fun p q => p < q ∧ p + target.length ≤ q) ∧
    (∀ p ∈ text.occurrences target, text.Stands target p) ∧
    ∀ q, text.Stands target q → ∃ p ∈ text.occurrences target, p ≤ q ∧ q < p + target.length := by
  have chosen := @occurrences_selects text target nonempty
  have width := List.length_pos_iff.mpr nonempty
  refine ⟨fun found => ⟨fun searches => searches.unique (chosen.searches nonempty), ?_⟩,
    chosen.apart.imp fun apart => ⟨by omega, apart⟩, fun p member => (chosen.mem member).2,
    fun q stands => chosen.covers (Nat.zero_le q) stands⟩
  rintro rfl
  exact chosen.searches nonempty

/-- A target that overlaps itself: it also stands at 1 and 3, which the occurrences hide. -/
theorem occurrences_cover_run :
    "aa".toList ≠ [] ∧ Text.occurrences "aaaaab".toList "aa".toList = [0, 2] ∧
    Searches "aaaaab".toList "aa".toList 0 [0, 2] ∧ Text.Stands "aaaaab".toList "aa".toList 3 ∧
    ∃ p ∈ [0, 2], p ≤ 3 ∧ 3 < p + 2 := by
  have nonempty : "aa".toList ≠ [] := by decide
  have found : Text.occurrences "aaaaab".toList "aa".toList = [0, 2] := by decide
  have stands : Text.Stands "aaaaab".toList "aa".toList 3 := stands_iff.mpr (by decide)
  obtain ⟨searches, _, _, covers⟩ := occurrences_cover "aaaaab".toList nonempty
  have covered := covers 3 stands
  rw [found] at covered
  exact ⟨nonempty, found, (searches _).mpr found.symm, stands, covered⟩

/-- A target stands at a position between ends of words: on either side of it is one, or the text ends. -/
structure Delimited (edge : Char → Prop) (text target : Text) (p : Nat) : Prop where
  stands : text.Stands target p
  left : p = 0 ∨ ∃ c, text[p - 1]? = some c ∧ edge c
  right : p + target.length = text.length ∨ ∃ c, text[p + target.length]? = some c ∧ edge c

theorem all_getLast?_iff {edge : Char → Bool} (inside : p ≤ text.length) :
    (text.take p).getLast?.all edge = true ↔ p = 0 ∨ ∃ c, text[p - 1]? = some c ∧ edge c = true := by
  cases p with
  | zero => simp
  | succ p =>
    obtain ⟨c, here⟩ : ∃ c, text[p]? = some c := ⟨_, List.getElem?_eq_getElem (by omega)⟩
    simp [List.take_add_one, here]

theorem all_head?_iff {edge : Char → Bool} (inside : p ≤ text.length) :
    (text.drop p).head?.all edge = true ↔ p = text.length ∨ ∃ c, text[p]? = some c ∧ edge c = true := by
  rw [List.head?_drop]
  rcases Nat.eq_or_lt_of_le inside with rfl | inside
  · simp
  · obtain ⟨c, here⟩ : ∃ c, text[p]? = some c := ⟨_, List.getElem?_eq_getElem inside⟩
    simp [here, Nat.ne_of_lt inside]

theorem delimitedOccurrences_selects (edge : Char → Bool) (nonempty : target ≠ []) :
    Selects (text.Delimited (fun c => edge c = true) target) target.length 0
      (text.delimitedOccurrences edge target) := by
  have scanned := @scan_selects text text target.length (fun before rest =>
      target.isPrefixOf rest && before.all edge && (rest.drop target.length).head?.all edge) none 0 0
    (List.length_pos_iff.mpr nonempty) rfl rfl
  refine scanned.congr fun p => ?_
  simp only [Bool.and_eq_true, List.drop_drop, ← stands_iff]
  constructor
  · rintro ⟨inside, ⟨stands, left⟩, right⟩
    exact ⟨stands, (all_getLast?_iff (by omega)).mp left, (all_head?_iff (stands.le nonempty)).mp right⟩
  · rintro ⟨stands, left, right⟩
    have inside := stands.lt nonempty
    exact ⟨inside, ⟨stands, (all_getLast?_iff (by omega)).mpr left⟩,
      (all_head?_iff (stands.le nonempty)).mpr right⟩

end Text

namespace Annotator

variable {label : String} {a b next : Annotator} {mark : Mark}

/-- One mark more, on clusters that were free. -/
structure Records (a : Annotator) (mark : Mark) (next : Annotator) : Prop where
  same : next = { a with marks := next.marks }
  free : ∀ i, mark.start ≤ i → i < mark.stop → a.marks.isTaken i = false
  marks : next.marks.marks.Perm (mark :: a.marks.marks)
  taken : ∀ i, next.marks.isTaken i = true ↔
    (mark.start ≤ i ∧ i < mark.stop) ∨ a.marks.isTaken i = true

theorem insert_outcome (sound : a.marks.Sound) (label : String) {start stop : Int} (nonneg : 0 ≤ start)
    (proper : start < stop) :
    ((a.insert start stop label).2 = true ∧
      a.Records ⟨start, stop, label⟩ (a.insert start stop label).1) ∨
    (a.insert start stop label = (a, false) ∧
      ∃ i, start ≤ i ∧ i < stop ∧ a.marks.isTaken i = true) := by
  rcases sound.insert_cases start stop label with
    ⟨refused, reason⟩ | ⟨_, _, free, before, after, split, _, _, placed⟩
  · right
    refine ⟨by simp only [Annotator.insert, refused], ?_⟩
    rcases reason with empty | negative | touched
    · omega
    · omega
    · exact MarkStore.anyTaken_eq_true_iff.mp touched
  · left
    have inserted : a.insert start stop label = ({ a with marks :=
        ⟨before ++ ⟨start, stop, label⟩ :: after, range start stop ++ a.marks.taken⟩ }, true) := by
      simp only [Annotator.insert, placed]
    rw [inserted]
    refine ⟨rfl, rfl, fun i low high => ?_, ?_, fun i => ?_⟩
    · rw [Bool.eq_false_iff]
      intro taken
      simp only [MarkStore.isTaken, List.contains_iff_mem] at taken
      exact MarkStore.anyTaken_eq_false_iff.mp free i taken ⟨low, high⟩
    · simp only [split]
      exact List.perm_middle
    · simp [MarkStore.isTaken, MarkStore.mem_range]

/-- The course of recording what lies over places one after another, with what becomes of each: it is
refused for a cluster that is taken at that moment, or recorded. -/
inductive Tries (place : α → Int × Int) (label : String) :
    (before : Annotator) → (tried : List (α × Bool)) → (after : Annotator) → Prop where
  | done {a : Annotator} : Tries place label a [] a
  | refused {a b : Annotator} {x : α} {tried : List (α × Bool)}
      (touched : ∃ i, (place x).1 ≤ i ∧ i < (place x).2 ∧ a.marks.isTaken i = true)
      (rest : Tries place label a tried b) : Tries place label a ((x, false) :: tried) b
  | recorded {a next b : Annotator} {x : α} {tried : List (α × Bool)}
      (records : a.Records ⟨(place x).1, (place x).2, label⟩ next)
      (rest : Tries place label next tried b) : Tries place label a ((x, true) :: tried) b

theorem record_tries {place : α → Int × Int} (sound : a.marks.Sound) (label : String)
    {places : List α} (proper : ∀ x ∈ places, 0 ≤ (place x).1 ∧ (place x).1 < (place x).2) :
    ∃ tried : List (α × Bool), tried.map (·.1) = places ∧
      Tries place label a tried (a.record label (places.map place)).1 ∧
      (a.record label (places.map place)).2 = (tried.countP (·.2) : Int) := by
  induction places generalizing a with
  | nil => exact ⟨[], rfl, .done, rfl⟩
  | cons x places ih =>
    obtain ⟨here, later⟩ := List.forall_mem_cons.mp proper
    rcases insert_outcome sound label here.1 here.2 with ⟨outcome, records⟩ | ⟨refused, touched⟩
    · obtain ⟨tried, listed, rest, count⟩ :=
        @ih (a.insert (place x).1 (place x).2 label).1 (sound.insert _ _ label) later
      refine ⟨(x, true) :: tried, by simp [listed], .recorded records rest, ?_⟩
      simp only [List.map_cons, record, outcome, count, List.countP_cons, ↓reduceIte]
      omega
    · obtain ⟨tried, listed, rest, count⟩ := ih sound later
      refine ⟨(x, false) :: tried, by simp [listed], ?_, ?_⟩
      · simp only [List.map_cons, record, refused]
        exact .refused touched rest
      · simp [record, refused, count]

namespace Tries

variable {place : α → Int × Int} {tried : List (α × Bool)}

def marksOver (place : α → Int × Int) (label : String) (tried : List (α × Bool)) : List Mark :=
  (tried.filter (·.2)).map fun entry => ⟨(place entry.1).1, (place entry.1).2, label⟩

theorem same (tries : Tries place label a tried b) : b = { a with marks := b.marks } := by
  induction tries with
  | done => rfl
  | refused _ _ ih => exact ih
  | recorded records _ ih =>
    rw [records.same] at ih
    exact ih

theorem marks (tries : Tries place label a tried b) :
    b.marks.marks.Perm (a.marks.marks ++ marksOver place label tried) := by
  induction tries with
  | done => simp [marksOver]
  | refused _ _ ih => exact ih
  | @recorded a next b x tried records _ ih =>
    calc List.Perm b.marks.marks (next.marks.marks ++ marksOver place label tried) := ih
      List.Perm _ (⟨(place x).1, (place x).2, label⟩ :: a.marks.marks ++ marksOver place label tried) :=
        records.marks.append_right _
      List.Perm _ (a.marks.marks ++ marksOver place label ((x, true) :: tried)) :=
        List.perm_middle.symm

theorem recorded_iff (tries : Tries place label a tried b) {earlier later : List (α × Bool)} {x : α}
    {recorded : Bool} (split : tried = earlier ++ (x, recorded) :: later) :
    recorded = true ↔ ∀ i, (place x).1 ≤ i → i < (place x).2 →
      a.marks.isTaken i = false ∧ ∀ y, (y, true) ∈ earlier → ¬ ((place y).1 ≤ i ∧ i < (place y).2) := by
  induction tries generalizing earlier with
  | done => simp at split
  | @refused a b y tried touched _ ih =>
    cases earlier with
    | nil =>
      obtain ⟨rfl, rfl⟩ : y = x ∧ false = recorded := by simpa using (List.cons.inj split).1
      obtain ⟨i, low, high, taken⟩ := touched
      simp only [Bool.false_eq_true, false_iff]
      intro free
      rw [(free i low high).1] at taken
      contradiction
    | cons first earlier =>
      obtain ⟨rfl, tail⟩ := List.cons.inj split
      rw [ih tail]
      simp
  | @recorded a next b y tried records _ ih =>
    cases earlier with
    | nil =>
      obtain ⟨rfl, rfl⟩ : y = x ∧ true = recorded := by simpa using (List.cons.inj split).1
      simp only [true_iff]
      exact fun i low high => ⟨records.free i low high, by simp⟩
    | cons first earlier =>
      obtain ⟨rfl, tail⟩ := List.cons.inj split
      rw [ih tail]
      refine forall_congr' fun i => forall_congr' fun low => forall_congr' fun high => ?_
      have free : next.marks.isTaken i = false ↔
          a.marks.isTaken i = false ∧ ¬ ((place y).1 ≤ i ∧ i < (place y).2) := by
        rw [← Bool.not_eq_true, records.taken i, not_or, Bool.not_eq_true, and_comm]
      simp only [free, List.mem_cons, Prod.mk.injEq, and_true, forall_eq_or_imp, and_assoc]

theorem free (tries : Tries place label a tried b) {x : α} (member : (x, true) ∈ tried) {i : Int}
    (low : (place x).1 ≤ i) (high : i < (place x).2) : a.marks.isTaken i = false := by
  obtain ⟨earlier, later, split⟩ := List.append_of_mem member
  exact ((tries.recorded_iff split).mp rfl i low high).1

/-- Ranges that are free from the start and do not overlap are all recorded. -/
theorem all_recorded (tries : Tries place label a tried b)
    (free : ∀ entry ∈ tried, ∀ i, (place entry.1).1 ≤ i → i < (place entry.1).2 →
      a.marks.isTaken i = false)
    (apart : tried.Pairwise fun x y =>
      (place x.1).2 ≤ (place y.1).1 ∨ (place y.1).2 ≤ (place x.1).1) :
    ∀ entry ∈ tried, entry.2 = true := by
  intro entry member
  obtain ⟨earlier, later, split⟩ := List.append_of_mem member
  refine (tries.recorded_iff split).mpr fun i low high => ⟨free entry member i low high, fun y before => ?_⟩
  rw [split] at apart
  have disjoint := (List.pairwise_append.mp apart).2.2 (y, true) before entry List.mem_cons_self
  simp only at disjoint
  omega

theorem marks_of_recorded (tries : Tries place label a tried b)
    (recorded : ∀ entry ∈ tried, entry.2 = true) :
    b.marks.marks.Perm (a.marks.marks ++
      (tried.map (·.1)).map fun x => ⟨(place x).1, (place x).2, label⟩) := by
  have marks := tries.marks
  rw [marksOver, List.filter_eq_self.mpr recorded] at marks
  rw [List.map_map]
  exact marks

end Tries

end Annotator

namespace Matcher

variable {a : Annotator} {target : Text} {label : String}

theorem isBoundary_iff {config : Config} {c : Char} :
    config.isBoundary c = true ↔ ∃ element ∈ config.boundary, c ∈ element.toList := by
  simp [Config.isBoundary]

theorem span_proper {start stop : Nat} (index : a.index = .ofText a.text) (proper : start < stop)
    (inside : stop ≤ a.text.length) :
    0 ≤ (a.index.span start stop).1 ∧ (a.index.span start stop).1 < (a.index.span start stop).2 := by
  have narrowest := GraphemeIndex.span_isNarrowest proper inside
  rw [← index] at narrowest
  exact ⟨narrowest.nonneg, narrowest.proper⟩

theorem span_stands {p : Nat} (index : a.index = .ofText a.text) (nonempty : target ≠ [])
    (stands : a.text.Stands target p) :
    0 ≤ (a.index.span p (p + target.length)).1 ∧
      (a.index.span p (p + target.length)).1 < (a.index.span p (p + target.length)).2 := by
  have width := List.length_pos_iff.mpr nonempty
  exact_mod_cast span_proper index (by omega) (stands.le nonempty)

theorem run_tries {α : Type} {place : α → Int × Int} {places : List α} {matcher : Matcher} {config : Config}
    (sound : a.marks.Sound) (checked : matcher.check = .ok ())
    (marked : matcher.mark config a label = a.record label (places.map place))
    (proper : ∀ x ∈ places, 0 ≤ (place x).1 ∧ (place x).1 < (place x).2) :
    ∃ (after : Annotator) (tried : List (α × Bool)),
      matcher.run config a label = .ok (after, (tried.countP (·.2) : Int)) ∧ tried.map (·.1) = places ∧
      Annotator.Tries place label a tried after := by
  obtain ⟨tried, listed, tries, count⟩ := Annotator.record_tries sound label proper
  refine ⟨_, tried, ?_, listed, tries⟩
  simp only [run, checked, marked, ← count]

theorem run_words {slack : Int} (sound : a.Sound slack) {config : Config}
    (boundary : config.hasBlankBoundary = false) (label : String) (nonempty : target ≠ []) :
    ∃ (after : Annotator) (tried : List (Nat × Bool)),
      (all target true).run config a label = .ok (after, (tried.countP (·.2) : Int)) ∧
      tried.map (·.1) = a.text.delimitedOccurrences config.isBoundary target ∧
      Annotator.Tries (fun p : Nat => a.index.span p (p + target.length)) label a tried after := by
  have chosen := @Text.delimitedOccurrences_selects a.text target config.isBoundary nonempty
  apply run_tries sound.marks
  · simp [check_eq_ok_iff, IsRefused, targets, counts, nonempty]
  · simp [mark, regions, wordPositions, boundary]
  · exact fun p member => span_stands sound.index nonempty (chosen.mem member).2.stands

/-- A search for whole words tries the matches of its pattern: the places where its target stands between ends
of words, chosen from the left without overlap. It records the clusters over each unless one of them is taken
at that moment. Every character of every element of the boundary ends a word; only a boundary of nothing but
empty elements is left out. -/
theorem words_tried (handled : a.Handled) (config : Config) (label : String) (nonempty : target ≠ [])
    (boundary : ¬ (config.boundary ≠ [] ∧ ∀ element ∈ config.boundary, element = "")) :
    ∃ (after : Annotator) (tried : List (Nat × Bool)),
      (all target true).run config a label = .ok (after, (tried.countP (·.2) : Int)) ∧
      tried.map (·.1) = (Pattern.word config target).findAll a.text ∧
      Text.Selects (a.text.Delimited (fun c => ∃ element ∈ config.boundary, c ∈ element.toList) target)
        target.length 0 (tried.map (·.1)) ∧
      Annotator.Tries (fun p : Nat => a.index.span p (p + target.length)) label a tried after := by
  obtain ⟨slack, _, sound⟩ := handled.sound
  have notBlank : config.hasBlankBoundary = false := by
    rw [Bool.eq_false_iff]
    intro blank
    exact boundary (by simpa [Config.hasBlankBoundary] using blank)
  obtain ⟨after, tried, ran, listed, tries⟩ := run_words sound notBlank label nonempty
  refine ⟨after, tried, ran, listed.trans (Pattern.findAll_word config a.text target).symm, ?_, tries⟩
  rw [listed]
  exact (Text.delimitedOccurrences_selects _ nonempty).congr fun p => by simp only [isBoundary_iff]

def lettered : Annotator :=
  { Annotator.create {} "xaaaaa".toList (some false) with
    marks := MarkStore.empty.run [.insert 4 5 "other"] }

/-- A target that overlaps itself and ends words itself. It stands at 1 behind a letter that ends no word,
and at 2 and 4 between letters that do; the mark is on the second of these. -/
theorem words_tried_lettered :
    lettered.Handled ∧
    ¬ (["a", ""] ≠ ([] : List String) ∧ ∀ element ∈ ["a", ""], element = "") ∧
    ∃ (after : Annotator) (tried : List (Nat × Bool)),
      (all "aa".toList true).run { boundary := ["a", ""] } lettered "pair" = .ok (after, 1) ∧
      tried.map (·.1) = (Pattern.word { boundary := ["a", ""] } "aa".toList).findAll lettered.text ∧
      Text.Selects (lettered.text.Delimited (fun c => ∃ element ∈ ["a", ""], c ∈ element.toList)
        "aa".toList) 2 0 (tried.map (·.1)) ∧
      Annotator.Tries (fun p : Nat => lettered.index.span p (p + 2)) "pair" lettered tried after := by
  have handled : lettered.Handled := .edited (.create {} _ _) _
  have boundary : ¬ (["a", ""] ≠ ([] : List String) ∧ ∀ element ∈ ["a", ""], element = "") := by decide
  obtain ⟨after, tried, ran, found, chosen, tries⟩ :=
    @words_tried lettered "aa".toList handled { boundary := ["a", ""] } "pair" (by decide) boundary
  have count : ((all "aa".toList true).run { boundary := ["a", ""] } lettered "pair").toOption.map (·.2) =
      some 1 := by
    decide +kernel
  rw [ran] at count
  have one : (tried.countP (·.2) : Int) = 1 := by simpa [Except.toOption] using count
  rw [one] at ran
  exact ⟨handled, boundary, after, tried, ran, found, chosen, tries⟩

end Matcher

end Highlight
