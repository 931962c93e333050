import Highlight.Proofs.Order
import Highlight.Session.Call

/-! The style phase of a grammar. A sheet is seen through its labels in order and through the rule it finds
for each label; where no label stands twice, these two determine it. One added rule keeps the place of a
label and takes the place of its rule, and for a whole table the same follows by induction: the labels are
those of before and then the new ones, and the last rule for a label is the one that is found. -/
namespace Highlight

namespace StyleRule

def IsLast (rules : List StyleRule) (rule : StyleRule) : Prop :=
  ∃ front back, rules = front ++ rule :: back ∧ ∀ later ∈ back, later.label ≠ rule.label

theorem isLast_of_find? {rules : List StyleRule} {rule : StyleRule} {label : String}
    (found : rules.reverse.find? (fun rule => rule.label == label) = some rule) :
    rule.label = label ∧ rule.IsLast rules := by
  obtain ⟨named, back, front, split, others⟩ := List.find?_eq_some_iff_append.mp found
  obtain rfl : rule.label = label := beq_iff_eq.mp named
  refine ⟨rfl, front.reverse, back.reverse, ?_, fun later member => ?_⟩
  · rw [← List.reverse_reverse rules, split]
    simp
  · simpa using others later (List.mem_reverse.mp member)

theorem find?_eq_none_iff {rules : List StyleRule} {label : String} :
    rules.reverse.find? (fun rule => rule.label == label) = none ↔ label ∉ rules.map (·.label) := by
  simp

end StyleRule

namespace StyleSheet

variable {sheet other : StyleSheet} {rule : StyleRule} {label : String}

theorem contains_iff : sheet.contains label = true ↔ label ∈ sheet.labels := by
  simp [contains, get?, labels]

theorem get?_add (sheet : StyleSheet) (rule : StyleRule) (label : String) :
    (sheet.add rule).get? label = if rule.label = label then some rule else sheet.get? label := by
  obtain ⟨rules⟩ := sheet
  simp only [add, get?]
  induction rules with
  | nil => by_cases sought : rule.label = label <;> simp [putRule, sought]
  | cons known rest ih =>
    simp only [putRule, beq_iff_eq]
    by_cases same : known.label = rule.label
    · by_cases sought : rule.label = label <;> simp [same, sought]
    · by_cases sought : known.label = label
      · have different : rule.label ≠ label := fun equal => same (sought.trans equal.symm)
        simp [different.symm, sought, different]
      · simp [same, sought, ih]

/-- A label that is known keeps its place; a new one comes last. -/
theorem labels_add (sheet : StyleSheet) (rule : StyleRule) :
    (sheet.add rule).labels =
      if rule.label ∈ sheet.labels then sheet.labels else sheet.labels ++ [rule.label] := by
  obtain ⟨rules⟩ := sheet
  simp only [add, labels]
  induction rules with
  | nil => simp [putRule]
  | cons known rest ih =>
    simp only [putRule, beq_iff_eq]
    by_cases same : known.label = rule.label
    · simp [same]
    · by_cases old : rule.label ∈ rest.map (·.label)
      · simp only [same, ↓reduceIte, List.map_cons, ih, old, List.mem_cons_of_mem]
      · have new : rule.label ∉ (known :: rest).map (·.label) := by
          simpa [Ne.symm same] using old
        simp only [same, ↓reduceIte, List.map_cons, ih, old] at new ⊢
        simp only [new, ↓reduceIte, List.cons_append]

theorem nodup_empty : empty.labels.Nodup := List.nodup_nil

theorem nodup_add (distinct : sheet.labels.Nodup) (rule : StyleRule) :
    (sheet.add rule).labels.Nodup := by
  rw [labels_add]
  split
  · exact distinct
  next new =>
    refine List.nodup_append.mpr ⟨distinct, by simp, ?_⟩
    intro known member added isNew
    rw [List.mem_singleton.mp isNew]
    rintro rfl
    exact new member

theorem nodup_remove (distinct : sheet.labels.Nodup) (label : String) :
    (sheet.remove label).labels.Nodup :=
  distinct.sublist (List.filter_sublist.map _)

theorem get?_of_mem (distinct : sheet.labels.Nodup) (member : rule ∈ sheet.rules) :
    sheet.get? rule.label = some rule := by
  obtain ⟨rules⟩ := sheet
  simp only [labels, get?] at distinct member ⊢
  induction rules with
  | nil => simp at member
  | cons known rest ih =>
    obtain ⟨new, later⟩ := List.nodup_cons.mp distinct
    rcases List.mem_cons.mp member with rfl | inRest
    · simp
    · have different : known.label ≠ rule.label := by
        intro equal
        exact new (List.mem_map.mpr ⟨rule, inRest, equal.symm⟩)
      simp only [List.find?_cons, beq_eq_false_iff_ne.mpr different]
      exact ih later inRest

theorem filterMap_get?_labels (distinct : sheet.labels.Nodup) :
    sheet.labels.filterMap sheet.get? = sheet.rules := by
  rw [labels, List.filterMap_map]
  calc sheet.rules.filterMap (sheet.get? ∘ (·.label))
    _ = sheet.rules.filterMap some :=
        List.filterMap_congr fun rule member => get?_of_mem distinct member
    _ = sheet.rules := List.filterMap_some

theorem eq_of_get? (distinct : sheet.labels.Nodup) (ordered : sheet.labels = other.labels)
    (found : ∀ label, sheet.get? label = other.get? label) : sheet = other := by
  have rules : sheet.rules = other.rules := by
    rw [← filterMap_get?_labels distinct, ← filterMap_get?_labels (ordered ▸ distinct), ordered,
      funext found]
  obtain ⟨_⟩ := sheet
  exact congrArg StyleSheet.mk rules

theorem nodup_foldl_add (distinct : sheet.labels.Nodup) (rules : List StyleRule) :
    (rules.foldl add sheet).labels.Nodup := by
  induction rules generalizing sheet with
  | nil => exact distinct
  | cons rule rest ih => exact ih (nodup_add distinct rule)

theorem get?_foldl_add (sheet : StyleSheet) (rules : List StyleRule) (label : String) :
    (rules.foldl add sheet).get? label =
      (rules.reverse.find? fun rule => rule.label == label).or (sheet.get? label) := by
  induction rules generalizing sheet with
  | nil => rfl
  | cons rule rest ih =>
    rw [List.foldl_cons, ih, get?_add, List.reverse_cons, List.find?_append, Option.or_assoc]
    by_cases here : rule.label = label <;> simp [here]

/-- The labels of a table come last, as far as they are new, in the order of their first rules. -/
theorem labels_foldl_add (sheet : StyleSheet) (rules : List StyleRule) :
    (rules.foldl add sheet).labels = sheet.labels ++
      (Order.distinct (rules.map (·.label))).filter fun label => !sheet.contains label := by
  induction rules generalizing sheet with
  | nil => simp [Order.distinct]
  | cons rule rest ih =>
    have unknown : (fun label => !(sheet.add rule).contains label) =
        fun label => !sheet.contains label && !(label == rule.label) := by
      funext label
      simp only [contains, get?_add]
      by_cases here : rule.label = label
      · simp [here]
      · simp [here, Ne.symm here]
    rw [List.foldl_cons, ih, unknown, labels_add, List.map_cons, Order.distinct, List.filter_cons,
      List.filter_filter]
    by_cases old : rule.label ∈ sheet.labels
    · simp [old, contains_iff.mpr old]
    · have new : sheet.contains rule.label = false := by
        rw [Bool.eq_false_iff]
        exact fun had => old (contains_iff.mp had)
      simp [old, new]

theorem exists_last (sheet : StyleSheet) {rules : List StyleRule}
    (member : label ∈ rules.map (·.label)) :
    ∃ rule, (rules.foldl add sheet).get? label = some rule ∧ rule.label = label ∧
      rule.IsLast rules := by
  cases search : rules.reverse.find? fun rule => rule.label == label with
  | none => exact absurd member (StyleRule.find?_eq_none_iff.mp search)
  | some rule =>
    refine ⟨rule, ?_, StyleRule.isLast_of_find? search⟩
    rw [get?_foldl_add, search, Option.some_or]

theorem get?_foldl_add_other (sheet : StyleSheet) {rules : List StyleRule}
    (missing : label ∉ rules.map (·.label)) : (rules.foldl add sheet).get? label = sheet.get? label := by
  rw [get?_foldl_add, StyleRule.find?_eq_none_iff.mpr missing, Option.none_or]

/-- A table changes a sheet once. On the way through it again, a rule may give way to an earlier one of the
table, but not for long. -/
theorem foldl_add_twice (distinct : sheet.labels.Nodup) (rules : List StyleRule) :
    rules.foldl add (rules.foldl add sheet) = rules.foldl add sheet := by
  refine (eq_of_get? (nodup_foldl_add distinct rules) ?_ fun label => ?_).symm
  · have known : (Order.distinct (rules.map (·.label))).filter
        (fun label => !(rules.foldl add sheet).contains label) = [] := by
      refine List.filter_eq_nil_iff.mpr fun label member => ?_
      obtain ⟨rule, found, _⟩ := exists_last sheet (Order.mem_distinct.mp member)
      simp [contains, found]
    rw [labels_foldl_add (rules.foldl add sheet), known, List.append_nil]
  · rw [get?_foldl_add (rules.foldl add sheet), get?_foldl_add sheet, ← Option.or_assoc, Option.or_self]

end StyleSheet

namespace Session

theorem runCalls_keeps (holds : σ → Prop) {step : σ → κ → σ × Except Fault Answer}
    (keeps : ∀ state call, holds state → holds (step state call).1) {state : σ} (first : holds state)
    (calls : List κ) : holds (runCalls step state calls).1 := by
  induction calls generalizing state with
  | nil => exact first
  | cons call rest ih => exact ih (keeps state call first)

namespace StyleCall

theorem run_cases (sheet : StyleSheet) (call : StyleCall) :
    (run sheet call).1 = sheet ∨ (∃ rule, (run sheet call).1 = sheet.add rule) ∨
      (∃ label, (run sheet call).1 = sheet.remove label) ∨ (run sheet call).1 = .empty := by
  cases call with
  | set label source =>
    simp only [run, perform]
    split
    next done =>
      split at done
      · simp only [Except.ok.injEq, Prod.mk.injEq] at done
        exact .inr (.inl ⟨_, done.1.symm⟩)
      · simp at done
    · exact .inl rfl
  | add rule => exact .inr (.inl ⟨rule, rfl⟩)
  | remove label =>
    simp only [run, perform]
    cases ruleOf sheet label with
    | error fault => exact .inl rfl
    | ok removed =>
      cases removed with
      | none => exact .inl rfl
      | some rule => exact .inr (.inr (.inl ⟨rule.label, rfl⟩))
  | get label =>
    simp only [run, perform]
    cases ruleOf sheet label <;> exact .inl rfl
  | resolve label =>
    simp only [run, perform]
    cases resolved sheet label <;> exact .inl rfl
  | value label name default =>
    simp only [run, perform]
    cases resolved sheet label <;> exact .inl rfl
  | contains label =>
    simp only [run, perform]
    cases ruleOf sheet label <;> exact .inl rfl
  | clear => exact .inr (.inr (.inr rfl))
  | labels | copyWith rule | list | size | describe => exact .inl rfl

theorem nodup_run {sheet : StyleSheet} (distinct : sheet.labels.Nodup) (call : StyleCall) :
    (run sheet call).1.labels.Nodup := by
  rcases run_cases sheet call with same | ⟨rule, added⟩ | ⟨label, removed⟩ | cleared
  · rwa [same]
  · rw [added]
    exact StyleSheet.nodup_add distinct rule
  · rw [removed]
    exact StyleSheet.nodup_remove distinct label
  · rw [cleared]
    exact StyleSheet.nodup_empty

end StyleCall

end Session

namespace Grammar

open Session (StyleCall runCalls)

/-- The style phase, on any sheet that calls can bring about and with any table. A second time it changes
nothing. A label of the table has its last rule there; every other one has the rule it had, or still none.
The labels are those of before, in their order, and then the new ones in the order of their first rules;
and no label stands twice. -/
theorem style_settles (grammar : Grammar) (calls : List StyleCall) :
    let sheet := (runCalls StyleCall.run .empty calls).1
    let styled := grammar.style sheet
    grammar.style styled = styled ∧
    (∀ label ∈ grammar.styles.map (·.label),
      (styled.resolve label).label = label ∧ (styled.resolve label).IsLast grammar.styles) ∧
    (∀ label ∉ grammar.styles.map (·.label), styled.get? label = sheet.get? label ∧
      (sheet.contains label = true → styled.resolve label = sheet.resolve label)) ∧
    styled.labels = sheet.labels ++ (Order.distinct (grammar.styles.map (·.label))).filter
      (fun label => !sheet.contains label) ∧
    styled.labels.Nodup ∧ ∀ rule ∈ styled.rules, styled.get? rule.label = some rule := by
  intro sheet styled
  have known : sheet.labels.Nodup := Session.runCalls_keeps (fun sheet : StyleSheet => sheet.labels.Nodup)
    (fun _ call kept => StyleCall.nodup_run kept call) StyleSheet.nodup_empty calls
  have distinct : styled.labels.Nodup := StyleSheet.nodup_foldl_add known grammar.styles
  refine ⟨StyleSheet.foldl_add_twice known grammar.styles, fun label member => ?_, fun label missing => ?_,
    StyleSheet.labels_foldl_add sheet grammar.styles, distinct,
    fun rule member => StyleSheet.get?_of_mem distinct member⟩
  · obtain ⟨rule, found, isLast⟩ := StyleSheet.exists_last sheet member
    have resolved : styled.resolve label = rule := by
      rw [StyleSheet.resolve, show styled.get? label = some rule from found, Option.getD_some]
    rw [resolved]
    exact isLast
  · have same : styled.get? label = sheet.get? label := StyleSheet.get?_foldl_add_other sheet missing
    refine ⟨same, fun registered => ?_⟩
    obtain ⟨rule, found⟩ := Option.isSome_iff_exists.mp registered
    simp only [StyleSheet.resolve, same, found, Option.getD_some]

/-- "b" is removed and set again, so that it follows "a"; the table sets "c" twice, before and after "a". -/
example :
    let sheet := (runCalls StyleCall.run .empty [.add ⟨"b", []⟩, .add ⟨"a", []⟩, .remove (.text "b"),
      .set "b" (.pairs [])]).1
    let table := colors [("c", "red"), ("a", "blue"), ("c", "green"), ("d", "red")]
    let styled := style { name := "", rules := [], styles := table } sheet
    styled.labels = ["a", "b", "c", "d"] ∧ (styled.resolve "c").css = "color:green;".toList := by
  decide

end Grammar

end Highlight
