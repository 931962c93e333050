import Highlight.Proofs.Selection
import Mathlib.Data.List.Basic

/-! The text beside a target, up to a delimiter. A region before a target starts with the largest end of a
delimiter that lies before it, and one after a target stops with the least start of a delimiter behind it.
Both are told by the set of delimiters alone, so neither their order nor repetition matters. The loops that
look for one delimiter after another keep such a bound for those looked for so far. -/
namespace Highlight

namespace Text

variable {text target : Text} {delimiters others seen : List Text} {p start stop : Nat}

structure IsLast (text target : Text) (stop p : Nat) : Prop where
  stands : text.Stands target p
  within : p + target.length ≤ stop
  greatest : ∀ q, text.Stands target q → q + target.length ≤ stop → q ≤ p

theorem findLastFrom_cases {position : Nat} {rest : Text} (here : rest = text.drop position)
    (inside : position ≤ text.length) :
    match findLastFrom target position rest with
    | some p => position ≤ p ∧ p ≤ text.length ∧ text.Stands target p ∧
        ∀ q, q ≤ text.length → text.Stands target q → q ≤ p
    | none => ∀ q, position ≤ q → q ≤ text.length → ¬ text.Stands target q := by
  have next {c : Char} {rest : Text} {position : Nat} (here : c :: rest = text.drop position) :
      position + 1 ≤ text.length := by
    have := congrArg List.length here
    simp only [List.length_cons, List.length_drop] at this
    omega
  -- What is found further on comes last, so a place counts only where nothing is found behind it.
  fun_induction findLastFrom target position rest with
  | case1 position empty =>
    have ended := List.drop_eq_nil_iff.mp here.symm
    obtain rfl := List.isEmpty_iff.mp empty
    exact ⟨Nat.le_refl _, inside, List.nil_prefix, fun q le _ => by omega⟩
  | case2 position nonempty =>
    intro q after le stands
    have ended := List.drop_eq_nil_iff.mp here.symm
    rw [Stands, List.drop_eq_nil_of_le (by omega), List.prefix_nil] at stands
    simp [stands] at nonempty
  | case3 position c rest p found ih =>
    have later := ih (rest_eq_drop here) (next here)
    rw [found] at later
    exact ⟨Nat.le_of_succ_le later.1, later.2⟩
  | case4 position c rest missed found ih =>
    have later := ih (rest_eq_drop here) (next here)
    rw [missed] at later
    rw [here, ← stands_iff] at found
    refine ⟨Nat.le_refl _, inside, found, fun q le stands => Nat.le_of_not_lt fun behind => ?_⟩
    exact later q behind le stands
  | case5 position c rest missed absent ih =>
    have later := ih (rest_eq_drop here) (next here)
    rw [missed] at later
    rw [here, ← stands_iff] at absent
    exact fun q after le stands => later q (stands.gt absent after) le stands

theorem findLast?_cases (target : Text) (inside : stop ≤ text.length) :
    match text.findLast? target stop with
    | some p => text.IsLast target stop p
    | none => ∀ q, text.Stands target q → ¬ q + target.length ≤ stop := by
  have length : (text.take stop).length = stop := by
    rw [List.length_take]
    omega
  have cut (q : Nat) : Stands (text.take stop) target q ∧ q ≤ stop ↔
      text.Stands target q ∧ q + target.length ≤ stop := by
    simp only [Stands, List.drop_take, List.prefix_take_iff, and_assoc, and_congr_right_iff]
    omega
  have searched := @findLastFrom_cases (text.take stop) target 0 (text.take stop) rfl (Nat.zero_le _)
  rw [length] at searched
  rw [findLast?]
  cases found : findLastFrom target 0 (text.take stop) with
  | none =>
    rw [found] at searched
    intro q there before
    obtain ⟨there, before⟩ := (cut q).mpr ⟨there, before⟩
    exact searched q (Nat.zero_le q) before there
  | some p =>
    rw [found] at searched
    obtain ⟨_, le, stands, greatest⟩ := searched
    obtain ⟨here, within⟩ := (cut p).mp ⟨stands, le⟩
    refine ⟨here, within, fun q there before => ?_⟩
    obtain ⟨there, before⟩ := (cut q).mpr ⟨there, before⟩
    exact greatest q before there

/-- A search from the left finds the first place, also of an empty target. -/
theorem find?_first (text target : Text) (start : Nat) :
    match text.find? target start with
    | some p => text.IsFirst target start p
    | none => ∀ p, start ≤ p → ¬ text.Stands target p := by
  cases target with
  | nil =>
    have found : text.find? [] start = some start := by
      rw [find?]
      cases text.drop start <;> rfl
    rw [found]
    exact Stands.isFirst List.nil_prefix
  | cons c target => exact find?_cases text (List.cons_ne_nil c target) start

/-- The largest end of a delimiter that lies wholly before a position, or the start of the text. -/
structure IsLeftBound (text : Text) (delimiters : List Text) (p start : Nat) : Prop where
  within : start ≤ p
  ends : start = 0 ∨ ∃ d ∈ delimiters, ∃ q, text.Stands d q ∧ q + d.length = start
  greatest : ∀ d ∈ delimiters, ∀ q, text.Stands d q → q + d.length ≤ p → q + d.length ≤ start

/-- The least start of a delimiter at or behind a position, or the end of the text. -/
structure IsRightBound (text : Text) (delimiters : List Text) (p stop : Nat) : Prop where
  after : p ≤ stop
  within : stop ≤ text.length
  starts : stop = text.length ∨ ∃ d ∈ delimiters, text.Stands d stop
  least : ∀ d ∈ delimiters, ∀ q, p ≤ q → text.Stands d q → stop ≤ q

namespace IsLeftBound

theorem unique (first : text.IsLeftBound delimiters p start) (second : text.IsLeftBound delimiters p stop) :
    start = stop := by
  have le {x y : Nat} (first : text.IsLeftBound delimiters p x) (second : text.IsLeftBound delimiters p y) :
      x ≤ y := by
    rcases first.ends with rfl | ⟨d, member, q, stands, rfl⟩
    · exact Nat.zero_le y
    · exact second.greatest d member q stands first.within
  exact Nat.le_antisymm (le first second) (le second first)

theorem congr (bound : text.IsLeftBound delimiters p start) (same : ∀ d, d ∈ delimiters ↔ d ∈ others) :
    text.IsLeftBound others p start := by
  refine ⟨bound.within, bound.ends.imp_right ?_, fun d member => bound.greatest d ((same d).mpr member)⟩
  rintro ⟨d, member, ends⟩
  exact ⟨d, (same d).mp member, ends⟩

theorem step (bound : text.IsLeftBound seen p start) (inside : p ≤ text.length) (d : Text) :
    text.IsLeftBound (seen ++ [d]) p (match text.findLast? d p with
      | some found => max start (found + d.length)
      | none => start) := by
  have searched := findLast?_cases d inside
  have ends : start = 0 ∨ ∃ other ∈ seen ++ [d], ∃ q, text.Stands other q ∧ q + other.length = start := by
    refine bound.ends.imp_right ?_
    rintro ⟨other, member, ends⟩
    exact ⟨other, List.mem_append_left _ member, ends⟩
  cases found : text.findLast? d p with
  | none =>
    rw [found] at searched
    refine ⟨bound.within, ends, fun other member q stands before => ?_⟩
    rcases List.mem_append.mp member with old | new
    · exact bound.greatest other old q stands before
    · obtain rfl := List.mem_singleton.mp new
      exact absurd before (searched q stands)
  | some last =>
    rw [found] at searched
    dsimp only at searched ⊢
    refine ⟨Nat.max_le.mpr ⟨bound.within, searched.within⟩, ?_, fun other member q stands before => ?_⟩
    · rcases Nat.le_total start (last + d.length) with le | le
      · rw [Nat.max_eq_right le]
        exact .inr ⟨d, by simp, last, searched.stands, rfl⟩
      · rw [Nat.max_eq_left le]
        exact ends
    · rcases List.mem_append.mp member with old | new
      · exact Nat.le_trans (bound.greatest other old q stands before) (Nat.le_max_left _ _)
      · obtain rfl := List.mem_singleton.mp new
        have := searched.greatest q stands before
        omega

end IsLeftBound

theorem regionStart_isLeftBound (inside : p ≤ text.length) (delimiters : List Text) :
    text.IsLeftBound delimiters p (Matcher.regionStart text delimiters p) := by
  have run (rest seen : List Text) (start : Nat) (bound : text.IsLeftBound seen p start) :
      text.IsLeftBound (seen ++ rest) p (rest.foldl (fun start d =>
        match text.findLast? d p with
        | some found => max start (found + d.length)
        | none => start) start) := by
    induction rest generalizing seen start with
    | nil => simpa using bound
    | cons d rest ih =>
      have later := ih (seen ++ [d]) _ (bound.step inside d)
      rwa [List.append_assoc] at later
  exact run delimiters [] 0 ⟨Nat.zero_le p, .inl rfl, by simp⟩

namespace IsRightBound

theorem unique (first : text.IsRightBound delimiters p start)
    (second : text.IsRightBound delimiters p stop) : start = stop := by
  have le {x y : Nat} (first : text.IsRightBound delimiters p x)
      (second : text.IsRightBound delimiters p y) : x ≤ y := by
    rcases second.starts with rfl | ⟨d, member, stands⟩
    · exact first.within
    · exact first.least d member y second.after stands
  exact Nat.le_antisymm (le first second) (le second first)

theorem congr (bound : text.IsRightBound delimiters p stop) (same : ∀ d, d ∈ delimiters ↔ d ∈ others) :
    text.IsRightBound others p stop := by
  refine ⟨bound.after, bound.within, bound.starts.imp_right ?_,
    fun d member => bound.least d ((same d).mpr member)⟩
  rintro ⟨d, member, stands⟩
  exact ⟨d, (same d).mp member, stands⟩

theorem step (bound : text.IsRightBound seen p stop) (d : Text) :
    text.IsRightBound (seen ++ [d]) p (match text.find? d p with
      | some found => min stop found
      | none => stop) := by
  have searched := find?_first text d p
  have starts : stop = text.length ∨ ∃ other ∈ seen ++ [d], text.Stands other stop := by
    refine bound.starts.imp_right ?_
    rintro ⟨other, member, stands⟩
    exact ⟨other, List.mem_append_left _ member, stands⟩
  cases found : text.find? d p with
  | none =>
    rw [found] at searched
    refine ⟨bound.after, bound.within, starts, fun other member q after stands => ?_⟩
    rcases List.mem_append.mp member with old | new
    · exact bound.least other old q after stands
    · obtain rfl := List.mem_singleton.mp new
      exact absurd stands (searched q after)
  | some first =>
    rw [found] at searched
    dsimp only at searched ⊢
    refine ⟨Nat.le_min.mpr ⟨bound.after, searched.after⟩,
      Nat.le_trans (Nat.min_le_left _ _) bound.within, ?_, fun other member q after stands => ?_⟩
    · rcases Nat.le_total stop first with le | le
      · rw [Nat.min_eq_left le]
        exact starts
      · rw [Nat.min_eq_right le]
        exact .inr ⟨d, by simp, searched.stands⟩
    · rcases List.mem_append.mp member with old | new
      · exact Nat.le_trans (Nat.min_le_left _ _) (bound.least other old q after stands)
      · obtain rfl := List.mem_singleton.mp new
        exact Nat.le_trans (Nat.min_le_right _ _) (searched.least q after stands)

end IsRightBound

theorem regionStop_isRightBound (inside : p ≤ text.length) (delimiters : List Text) :
    text.IsRightBound delimiters p (Matcher.regionStop text delimiters p) := by
  have run (rest seen : List Text) (stop : Nat) (bound : text.IsRightBound seen p stop) :
      text.IsRightBound (seen ++ rest) p (rest.foldl (fun stop d =>
        match text.find? d p with
        | some found => min stop found
        | none => stop) stop) := by
    induction rest generalizing seen stop with
    | nil => simpa using bound
    | cons d rest ih =>
      have later := ih (seen ++ [d]) _ (bound.step d)
      rwa [List.append_assoc] at later
  exact run delimiters [] text.length ⟨inside, Nat.le_refl _, .inl rfl, by simp⟩

end Text

/-- The clusters over a raw range, and so many more on both sides as far as the text goes. -/
def GraphemeIndex.stretch (index : GraphemeIndex) (left right : Int) (range : Nat × Nat) : Int × Int :=
  (max ((index.span range.1 range.2).1 - left) 0, min ((index.span range.1 range.2).2 + right) index.size)

namespace Matcher

variable {a : Annotator} {target : Text} {delimiters others : List Text} {label : String}
  {left right slack : Int} {config other : Config} {p start stop : Nat}

theorem stretch_proper (index : a.index = .ofText a.text) (proper : start < stop)
    (inside : stop ≤ a.text.length) (atLeft : 0 ≤ left) (atRight : 0 ≤ right) :
    0 ≤ (a.index.stretch left right (start, stop)).1 ∧
      (a.index.stretch left right (start, stop)).1 < (a.index.stretch left right (start, stop)).2 := by
  have narrowest := GraphemeIndex.span_isNarrowest proper inside
  rw [← index] at narrowest
  have := narrowest.nonneg
  have := narrowest.proper
  have := narrowest.within
  simp only [GraphemeIndex.stretch]
  omega

theorem widen_eq_stretch (index : a.index = .ofText a.text) (proper : start < stop)
    (inside : stop ≤ a.text.length) (left right : Int) :
    widen a.index start stop left right = a.index.stretch left right (start, stop) := by
  have narrowest := GraphemeIndex.span_isNarrowest proper inside
  rw [← index] at narrowest
  have nonempty : ¬ (a.index.span start stop).2 ≤ (a.index.span start stop).1 :=
    Int.not_le.mpr narrowest.proper
  simp only [widen, nonempty, if_false, GraphemeIndex.stretch]

theorem mem_occurrences_bound (member : p ∈ a.text.occurrences target) :
    p ≤ a.text.length ∧ p + target.length ≤ a.text.length := by
  obtain ⟨inside, found⟩ := Text.stands_of_mem_occurrences member
  have short := (List.isPrefixOf_iff_prefix.mp found).length_le
  rw [List.length_drop] at short
  omega

theorem regions_before (index : a.index = .ofText a.text) :
    (before target delimiters left right).regions config a =
      ((a.text.occurrences target).filter fun p =>
        regionStart a.text (effectiveDelimiters config delimiters) p ≠ p).map fun p =>
          a.index.stretch left right (regionStart a.text (effectiveDelimiters config delimiters) p, p) := by
  rw [← List.filterMap_eq_map, List.filterMap_filter]
  apply List.filterMap_congr
  intro p member
  have inside := (mem_occurrences_bound member).1
  have within := (Text.regionStart_isLeftBound inside (effectiveDelimiters config delimiters)).within
  by_cases empty : regionStart a.text (effectiveDelimiters config delimiters) p = p
  · simp [empty]
  · have proper : regionStart a.text (effectiveDelimiters config delimiters) p < p :=
      Nat.lt_of_le_of_ne within empty
    simp [empty, Nat.not_le_of_lt proper, widen_eq_stretch index proper inside]

theorem regions_after (index : a.index = .ofText a.text) (nonempty : target ≠ []) :
    (after target delimiters left right).regions config a =
      (a.text.occurrences target).map fun p => a.index.stretch left right
        (p, regionStop a.text (effectiveDelimiters config delimiters) (p + target.length)) := by
  apply List.map_congr_left
  intro p member
  have bound := Text.regionStop_isRightBound (mem_occurrences_bound member).2
    (effectiveDelimiters config delimiters)
  have := bound.after
  have := List.length_pos_iff.mpr nonempty
  exact widen_eq_stretch index (by omega) bound.within left right

theorem check_beside (nonempty : target ≠ []) (atLeft : 0 ≤ left) (atRight : 0 ≤ right)
    (delimiters : List Text) :
    (before target delimiters left right).check = .ok () ∧
      (after target delimiters left right).check = .ok () := by
  simp [check_eq_ok_iff, IsRefused, targets, counts, nonempty, atLeft, atRight]

theorem run_before (sound : a.Sound slack) (config : Config) (label : String) (delimiters : List Text)
    (nonempty : target ≠ []) (atLeft : 0 ≤ left) (atRight : 0 ≤ right) :
    let start := regionStart a.text (effectiveDelimiters config delimiters)
    ∃ (after : Annotator) (tried : List (Nat × Bool)),
      (before target delimiters left right).run config a label =
        .ok (after, (tried.countP (·.2) : Int)) ∧
      tried.map (·.1) = (a.text.occurrences target).filter (fun p => start p ≠ p) ∧
      Annotator.Tries (fun p => a.index.stretch left right (start p, p)) label a tried after := by
  intro start
  apply run_tries sound.marks (check_beside nonempty atLeft atRight delimiters).1
  · simp only [mark, regions_before sound.index]
    rfl
  · intro p member
    obtain ⟨occurs, room⟩ := List.mem_filter.mp member
    have inside := (mem_occurrences_bound occurs).1
    have within := (Text.regionStart_isLeftBound inside (effectiveDelimiters config delimiters)).within
    have proper : start p < p := Nat.lt_of_le_of_ne within (by simpa using room)
    exact stretch_proper sound.index proper inside atLeft atRight

theorem run_after (sound : a.Sound slack) (config : Config) (label : String) (delimiters : List Text)
    (nonempty : target ≠ []) (atLeft : 0 ≤ left) (atRight : 0 ≤ right) :
    let stop := fun p => regionStop a.text (effectiveDelimiters config delimiters) (p + target.length)
    ∃ (after : Annotator) (tried : List (Nat × Bool)),
      (Matcher.after target delimiters left right).run config a label =
        .ok (after, (tried.countP (·.2) : Int)) ∧
      tried.map (·.1) = a.text.occurrences target ∧
      Annotator.Tries (fun p => a.index.stretch left right (p, stop p)) label a tried after := by
  intro stop
  apply run_tries sound.marks (check_beside nonempty atLeft atRight delimiters).2
  · simp only [mark, regions_after sound.index nonempty]
    rfl
  · intro p member
    have bound := Text.regionStop_isRightBound (mem_occurrences_bound member).2
      (effectiveDelimiters config delimiters)
    have width := List.length_pos_iff.mpr nonempty
    have proper : p < stop p := Nat.lt_of_lt_of_le (by omega) bound.after
    exact stretch_proper sound.index proper bound.within atLeft atRight

theorem run_congr (target : Text) (label : String) (left right : Int)
    (starts : ∀ p ≤ a.text.length, regionStart a.text (effectiveDelimiters config delimiters) p =
      regionStart a.text (effectiveDelimiters other others) p)
    (stops : ∀ p ≤ a.text.length, regionStop a.text (effectiveDelimiters config delimiters) p =
      regionStop a.text (effectiveDelimiters other others) p) :
    (before target delimiters left right).run config a label =
        (before target others left right).run other a label ∧
      (after target delimiters left right).run config a label =
        (after target others left right).run other a label := by
  have regionsBefore : (before target delimiters left right).regions config a =
      (before target others left right).regions other a := by
    apply List.filterMap_congr
    intro p member
    rw [starts p (mem_occurrences_bound member).1]
  have regionsAfter : (after target delimiters left right).regions config a =
      (after target others left right).regions other a := by
    apply List.map_congr_left
    intro p member
    rw [stops (p + target.length) (mem_occurrences_bound member).2]
  constructor
  · simp only [run, check, mark, regionsBefore]
  · simp only [run, check, mark, regionsAfter]

/-- Where delimiters are given, the settings are not asked. -/
theorem effectiveDelimiters_given (given : ∃ d ∈ delimiters, d ≠ []) (config : Config) :
    effectiveDelimiters config delimiters = delimiters.filter fun d => !d.isEmpty := by
  obtain ⟨d, member, nonempty⟩ := given
  have some : (delimiters.filter fun d => !d.isEmpty) ≠ [] :=
    List.ne_nil_of_mem (List.mem_filter.mpr ⟨member, by simpa using nonempty⟩)
  simp only [effectiveDelimiters, List.isEmpty_iff, some, if_false]

/-- Searches beside a target go to the nearest of all delimiters that are given and not empty. Before an
occurrence, the region starts with the largest end of a delimiter that lies wholly before it, and there is
none if that is where the occurrence starts; after an occurrence, the region stops with the least start of a
delimiter behind it. The clusters over a region, and more of them on both sides as asked, are recorded
unless one of them is taken at that moment. Only the set of the delimiters matters. -/
theorem nearest_delimiters (handled : a.Handled) (config : Config) (label : String) (nonempty : target ≠ [])
    (given : ∃ d ∈ delimiters, d ≠ []) (atLeft : 0 ≤ left) (atRight : 0 ≤ right) :
    ∃ (occurrences : List Nat) (start stop : Nat → Nat),
      Text.Selects (a.text.Stands target) target.length 0 occurrences ∧
      (∀ p ∈ occurrences,
        a.text.IsLeftBound (delimiters.filter fun d => !d.isEmpty) p (start p) ∧
        a.text.IsRightBound (delimiters.filter fun d => !d.isEmpty) (p + target.length) (stop p)) ∧
      (∃ (after : Annotator) (tried : List (Nat × Bool)),
        (before target delimiters left right).run config a label =
          .ok (after, (tried.countP (·.2) : Int)) ∧
        tried.map (·.1) = occurrences.filter (fun p => start p ≠ p) ∧
        Annotator.Tries (fun p => a.index.stretch left right (start p, p)) label a tried after) ∧
      (∃ (after : Annotator) (tried : List (Nat × Bool)),
        (Matcher.after target delimiters left right).run config a label =
          .ok (after, (tried.countP (·.2) : Int)) ∧
        tried.map (·.1) = occurrences ∧
        Annotator.Tries (fun p => a.index.stretch left right (p, stop p)) label a tried after) ∧
      ∀ (other : Config) (others : List Text), (∀ d, d ≠ [] → (d ∈ others ↔ d ∈ delimiters)) →
        (before target others left right).run other a label =
            (before target delimiters left right).run config a label ∧
          (Matcher.after target others left right).run other a label =
            (Matcher.after target delimiters left right).run config a label := by
  obtain ⟨slack, _, sound⟩ := handled.sound
  have searchedBefore := run_before sound config label delimiters nonempty atLeft atRight
  have searchedAfter := run_after sound config label delimiters nonempty atLeft atRight
  rw [effectiveDelimiters_given given] at searchedBefore searchedAfter
  refine ⟨_, _, _, Text.occurrences_selects nonempty, fun p member => ?_, searchedBefore, searchedAfter,
    fun other others same => ?_⟩
  · obtain ⟨inside, ended⟩ := mem_occurrences_bound member
    exact ⟨Text.regionStart_isLeftBound inside _, Text.regionStop_isRightBound ended _⟩
  · have othersGiven : ∃ d ∈ others, d ≠ [] := by
      obtain ⟨d, member, proper⟩ := given
      exact ⟨d, (same d proper).mpr member, proper⟩
    have members (d : Text) : d ∈ others.filter (fun d => !d.isEmpty) ↔
        d ∈ delimiters.filter fun d => !d.isEmpty := by
      simp only [List.mem_filter, Bool.not_eq_true', List.isEmpty_eq_false_iff]
      exact and_congr_left (same d)
    apply run_congr
    · intro p inside
      rw [effectiveDelimiters_given given, effectiveDelimiters_given othersGiven]
      exact ((Text.regionStart_isLeftBound inside _).congr members).unique
        (Text.regionStart_isLeftBound inside _)
    · intro p inside
      rw [effectiveDelimiters_given given, effectiveDelimiters_given othersGiven]
      exact ((Text.regionStop_isRightBound inside _).congr members).unique
        (Text.regionStop_isRightBound inside _)

/-- Arrows that overlap one another, and a mark behind a bracket. -/
def arrows : Annotator :=
  { Annotator.create {} "ab->c->>d(e)".toList (some false) with
    marks := MarkStore.empty.run [.insert 10 11 "other"] }

def arrowHeads : List Text := ["->".toList, "->>".toList, "".toList, ">".toList]

/-- The region before the bracket is one letter, with the bracket as asked; the region after it has the
mark. The delimiters the other way round do the same. -/
theorem nearest_delimiters_arrows :
    arrows.Handled ∧ (∃ d ∈ arrowHeads, d ≠ []) ∧
    ∃ (occurrences : List Nat) (start stop : Nat → Nat),
      Text.Selects (arrows.text.Stands ['(']) 1 0 occurrences ∧
      (∀ p ∈ occurrences,
        arrows.text.IsLeftBound (arrowHeads.filter fun d => !d.isEmpty) p (start p) ∧
        arrows.text.IsRightBound (arrowHeads.filter fun d => !d.isEmpty) (p + 1) (stop p)) ∧
      (∃ (after : Annotator) (tried : List (Nat × Bool)),
        (before ['('] arrowHeads 0 1).run {} arrows "name" = .ok (after, 1) ∧
        Annotator.Tries (fun p => arrows.index.stretch 0 1 (start p, p)) "name" arrows tried after) ∧
      (∃ (after : Annotator) (tried : List (Nat × Bool)),
        (Matcher.after ['('] arrowHeads 0 1).run {} arrows "name" = .ok (after, 0) ∧
        Annotator.Tries (fun p => arrows.index.stretch 0 1 (p, stop p)) "name" arrows tried after) ∧
      (before ['('] (arrowHeads.reverse ++ arrowHeads) 0 1).run {} arrows "name" =
        (before ['('] arrowHeads 0 1).run {} arrows "name" := by
  have handled : arrows.Handled := .edited (.create {} _ _) _
  have given : ∃ d ∈ arrowHeads, d ≠ [] := by decide
  obtain ⟨occurrences, start, stop, chosen, bounds, ⟨first, triedFirst, ranFirst, _, triesFirst⟩,
      ⟨second, triedSecond, ranSecond, _, triesSecond⟩, same⟩ :=
    @nearest_delimiters arrows ['('] arrowHeads 0 1 handled {} "name" (by simp) given (by decide) (by decide)
  have counts : ((before ['('] arrowHeads 0 1).run {} arrows "name").toOption.map (·.2) = some 1 ∧
      ((Matcher.after ['('] arrowHeads 0 1).run {} arrows "name").toOption.map (·.2) = some 0 := by
    decide +kernel
  rw [ranFirst, ranSecond] at counts
  have one : (triedFirst.countP (·.2) : Int) = 1 := by simpa [Except.toOption] using counts.1
  have none : (triedSecond.countP (·.2) : Int) = 0 := by simpa [Except.toOption] using counts.2
  rw [one] at ranFirst
  rw [none] at ranSecond
  refine ⟨handled, given, occurrences, start, stop, chosen, bounds, ⟨first, triedFirst, ranFirst, triesFirst⟩,
    ⟨second, triedSecond, ranSecond, triesSecond⟩, (same {} _ fun d _ => ?_).1⟩
  simp

end Matcher

end Highlight
