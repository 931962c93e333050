import Highlight.Proofs.Delimiters

/-! Delimiters of the settings. Searches beside a target that are given no delimiters use those of the
settings. Given ones are looked through for empty ones first, those of the settings are not; and since an
empty delimiter stands everywhere, it leaves no room for a region. So the two mean the same only where no
delimiter is empty, or where there is no room anyway. -/
namespace Highlight

namespace Text

variable {text : Text} {delimiters : List Text} {p : Nat}

/-- At every position a delimiter ends and a delimiter starts: there is an empty one, or each character is
one. -/
def Crowded (delimiters : List Text) : Prop := [] ∈ delimiters ∨ ∀ c, [c] ∈ delimiters

theorem stands_single_iff {c : Char} : text.Stands [c] p ↔ text[p]? = some c := by
  refine ⟨fun stands => head_of_isPrefixOf (stands_iff.mp stands), fun here => ?_⟩
  obtain ⟨inside, rfl⟩ := List.getElem?_eq_some_iff.mp here
  rw [Stands, List.drop_eq_getElem_cons inside]
  exact List.prefix_append [_] _

theorem Crowded.regionStart_eq (crowded : Crowded delimiters) (inside : p ≤ text.length) :
    Matcher.regionStart text delimiters p = p := by
  have bound := regionStart_isLeftBound inside delimiters
  apply Nat.le_antisymm bound.within
  rcases crowded with empty | every
  · exact bound.greatest [] empty p List.nil_prefix (Nat.le_refl p)
  · cases p with
    | zero => exact Nat.zero_le _
    | succ q =>
      have stands := stands_single_iff.mpr (List.getElem?_eq_getElem inside)
      exact bound.greatest _ (every _) q stands (Nat.le_refl _)

theorem Crowded.regionStop_eq (crowded : Crowded delimiters) (inside : p ≤ text.length) :
    Matcher.regionStop text delimiters p = p := by
  have bound := regionStop_isRightBound inside delimiters
  refine Nat.le_antisymm ?_ bound.after
  rcases crowded with empty | every
  · exact bound.least [] empty p (Nat.le_refl p) List.nil_prefix
  · rcases Nat.eq_or_lt_of_le inside with rfl | inside
    · exact bound.within
    · exact bound.least _ (every _) p (Nat.le_refl p) (stands_single_iff.mpr (List.getElem?_eq_getElem inside))

end Text

def Config.withDelimiters (config : Config) (delimiters : List Text) : Config :=
  { config with delimiters := delimiters.map fun d => .text (.ofList d) }

namespace Matcher

variable {a : Annotator} {target : Text} {delimiters : List Text} {left right slack : Int}

theorem effectiveDelimiters_settings (config : Config) (delimiters : List Text) :
    effectiveDelimiters (config.withDelimiters delimiters) [] = delimiters := by
  simp [effectiveDelimiters, Config.withDelimiters, Function.comp_def, Datum.plain]

theorem run_before_crowded (index : a.index = .ofText a.text) (config : Config) (label : String)
    (nonempty : target ≠ []) (atLeft : 0 ≤ left) (atRight : 0 ≤ right)
    (crowded : Text.Crowded (effectiveDelimiters config delimiters)) :
    (before target delimiters left right).run config a label = .ok (a, 0) := by
  have nothing : (a.text.occurrences target).filter (fun p =>
      regionStart a.text (effectiveDelimiters config delimiters) p ≠ p) = [] := by
    apply List.filter_eq_nil_iff.mpr
    intro p member
    simp [crowded.regionStart_eq (mem_occurrences_bound member).1]
  simp only [run, (check_beside nonempty atLeft atRight delimiters).1, mark, regions_before index, nothing]
  rfl

theorem run_after_crowded (sound : a.Sound slack) (config : Config) (label : String) (nonempty : target ≠ [])
    (atLeft : 0 ≤ left) (atRight : 0 ≤ right)
    (crowded : Text.Crowded (effectiveDelimiters config delimiters)) :
    ∃ (last : Annotator) (tried : List (Nat × Bool)),
      (after target delimiters left right).run config a label =
        .ok (last, (tried.countP (·.2) : Int)) ∧
      tried.map (·.1) = a.text.occurrences target ∧
      Annotator.Tries (fun p => a.index.stretch left right (p, p + target.length)) label a tried last := by
  have regions : (after target delimiters left right).regions config a =
      (a.text.occurrences target).map fun p =>
        a.index.stretch left right (p, p + target.length) := by
    rw [regions_after sound.index nonempty]
    apply List.map_congr_left
    intro p member
    rw [crowded.regionStop_eq (mem_occurrences_bound member).2]
  apply run_tries sound.marks (check_beside nonempty atLeft atRight delimiters).2
  · simp only [mark, regions]
  · intro p member
    have width := List.length_pos_iff.mpr nonempty
    exact stretch_proper sound.index (by omega) (mem_occurrences_bound member).2 atLeft atRight

/-- Under settings with these delimiters, searches that are given none do as those that are given them. -/
def SettingsAgree (delimiters : List Text) : Prop :=
  ∀ (a : Annotator) (config : Config) (target : Text) (label : String) (left right : Int), a.Handled →
    (before target [] left right).run (config.withDelimiters delimiters) a label =
        (before target delimiters left right).run config a label ∧
      (after target [] left right).run (config.withDelimiters delimiters) a label =
        (after target delimiters left right).run config a label

theorem run_before_pair {c d : Char} (different : c ≠ d) (given : ∃ x ∈ delimiters, x ≠ [])
    (room : [c] ∉ delimiters) :
    ∃ last, (before [d] delimiters 0 0).run {} (.ofText [c, d]) "" = .ok (last, 1) := by
  have occurrences : Text.occurrences [c, d] [d] = [1] := by
    simp [Text.occurrences, Text.scan, different.symm]
  have start : regionStart [c, d] (effectiveDelimiters {} delimiters) 1 = 0 := by
    rw [effectiveDelimiters_given given]
    have bound := @Text.regionStart_isLeftBound [c, d] 1 (by simp) (delimiters.filter fun x => !x.isEmpty)
    refine bound.ends.resolve_right ?_
    rintro ⟨x, member, q, stands, ends⟩
    obtain ⟨member, proper⟩ := List.mem_filter.mp member
    have short := bound.within
    have long := List.length_pos_iff.mpr (show x ≠ [] by simpa using proper)
    obtain ⟨y, rfl⟩ := List.length_eq_one_iff.mp (show x.length = 1 by omega)
    obtain rfl : q = 0 := by
      rw [List.length_singleton] at ends
      omega
    obtain rfl : y = c := by simpa [Text.Stands] using stands
    exact room member
  obtain ⟨last, tried, ran, listed, tries⟩ := @run_before (.ofText [c, d]) [d] 0 0 0
    (Annotator.ofText_sound 0 [c, d]) {} "" delimiters (by simp) (by simp) (by simp)
  have one : tried.map (·.1) = [1] := by
    rw [listed]
    simp only [Annotator.ofText, occurrences, List.filter_cons, start]
    rfl
  obtain ⟨⟨p, recorded⟩, rfl⟩ := List.length_eq_one_iff.mp
    ((List.length_map _).symm.trans (congrArg List.length one))
  have free : recorded = true := tries.all_recorded (fun _ _ _ _ _ => rfl) (List.pairwise_singleton _ _)
    (p, recorded) List.mem_cons_self
  exact ⟨last, by simpa [free] using ran⟩

/-- Configured delimiters mean what given ones mean exactly if none of them is empty, or if every character
is one of them, so that there is no room for a region either way. An empty one among those of the settings
keeps searches before a target from finding anything, and those after a target to the target itself. -/
theorem settings_agree_iff (given : ∃ d ∈ delimiters, d ≠ []) :
    (SettingsAgree delimiters ↔ [] ∉ delimiters ∨ ∀ c, [c] ∈ delimiters) ∧
    ([] ∈ delimiters → ∀ (a : Annotator) (config : Config) (target : Text) (label : String)
      (left right : Int), a.Handled → target ≠ [] → 0 ≤ left → 0 ≤ right →
        (before target [] left right).run (config.withDelimiters delimiters) a label = .ok (a, 0) ∧
        ∃ (last : Annotator) (tried : List (Nat × Bool)),
          (after target [] left right).run (config.withDelimiters delimiters) a label =
            .ok (last, (tried.countP (·.2) : Int)) ∧
          Text.Selects (a.text.Stands target) target.length 0 (tried.map (·.1)) ∧
          Annotator.Tries (fun p => a.index.stretch left right (p, p + target.length)) label a tried
            last) := by
  refine ⟨⟨fun agree => ?_, ?_⟩, fun empty a config target label left right handled nonempty atLeft
    atRight => ?_⟩
  · apply Classical.byContradiction
    intro neither
    obtain ⟨empty, c, room⟩ : [] ∈ delimiters ∧ ∃ c, [c] ∉ delimiters := by simpa using neither
    obtain ⟨d, different⟩ : ∃ d : Char, c ≠ d := by
      by_cases same : c = 'a'
      · exact ⟨'b', by simp [same]⟩
      · exact ⟨'a', same⟩
    obtain ⟨last, found⟩ := run_before_pair different given room
    have nothing := @run_before_crowded (.ofText [c, d]) [d] [] 0 0 rfl
      (Config.withDelimiters {} delimiters) "" (by simp) (by simp) (by simp)
      (.inl (by rwa [effectiveDelimiters_settings]))
    have same := (agree (.ofText [c, d]) {} [d] "" 0 0 (.create {} [c, d] (some false))).1
    rw [found, nothing] at same
    simp at same
  · rintro proper a config target label left right _
    have alike : (delimiters.filter fun d => !d.isEmpty) = delimiters ∨
        (Text.Crowded delimiters ∧ Text.Crowded (delimiters.filter fun d => !d.isEmpty)) := by
      rcases proper with proper | every
      · left
        apply List.filter_eq_self.mpr
        intro d member
        have nonempty : d ≠ [] := fun empty => proper (empty ▸ member)
        simpa using nonempty
      · exact .inr ⟨.inr every, .inr fun c => List.mem_filter.mpr ⟨every c, rfl⟩⟩
    apply run_congr
    · intro p inside
      rw [effectiveDelimiters_settings, effectiveDelimiters_given given]
      rcases alike with same | ⟨whole, kept⟩
      · rw [same]
      · rw [whole.regionStart_eq inside, kept.regionStart_eq inside]
    · intro p inside
      rw [effectiveDelimiters_settings, effectiveDelimiters_given given]
      rcases alike with same | ⟨whole, kept⟩
      · rw [same]
      · rw [whole.regionStop_eq inside, kept.regionStop_eq inside]
  · obtain ⟨slack, _, sound⟩ := handled.sound
    have crowded : Text.Crowded (effectiveDelimiters (config.withDelimiters delimiters) []) := by
      rw [effectiveDelimiters_settings]
      exact .inl empty
    refine ⟨run_before_crowded sound.index _ label nonempty atLeft atRight crowded, ?_⟩
    obtain ⟨last, tried, ran, listed, tries⟩ :=
      run_after_crowded sound _ label nonempty atLeft atRight crowded
    exact ⟨last, tried, ran, listed ▸ Text.occurrences_selects nonempty, tries⟩

theorem settings_agree_comma :
    (∃ d ∈ [[','], [' ']], d ≠ ([] : Text)) ∧ SettingsAgree [[','], [' ']] := by
  have given : ∃ d ∈ [[','], [' ']], d ≠ ([] : Text) := by decide
  exact ⟨given, (settings_agree_iff given).1.mpr (.inl (by decide))⟩

/-- With an empty delimiter beside the blank, the settings find no name before a bracket. -/
theorem settings_agree_bracket :
    (∃ d ∈ [[' '], []], d ≠ ([] : Text)) ∧ ¬ SettingsAgree [[' '], []] := by
  refine ⟨by decide, fun agree => ?_⟩
  have counts :
      ((before ['('] [] 0 0).run (Config.withDelimiters {} [[' '], []])
        (.create {} "f(x)".toList (some false)) "call").toOption.map (·.2) = some 0 ∧
      ((before ['('] [[' '], []] 0 0).run {}
        (.create {} "f(x)".toList (some false)) "call").toOption.map (·.2) = some 1 := by
    decide +kernel
  have same := (agree (.create {} "f(x)".toList (some false)) {} ['('] "call" 0 0 (.create {} _ _)).1
  rw [same] at counts
  simpa using counts.1.symm.trans counts.2

end Matcher

end Highlight
