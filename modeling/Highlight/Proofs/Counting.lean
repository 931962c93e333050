import Highlight.Proofs.Faults
import Highlight.Proofs.Intervals

/-! Searches only add, and count what they add. Which searches are refused is read off their arguments
alone, and a refused one changes nothing. Any other is a run of insertions, whatever its loop looks
like, so what one insertion adds and counts is added and counted by the whole of it. Callers ask for
searches by loose values; where these are texts and whole numbers, asking is searching. -/
namespace Highlight

namespace Annotator

variable {label : String} {a b : Annotator} {n : Int}

/-- What one annotator has more than another with the same text: marks under one label, on clusters
of the text that were free, beside all the marks that were there. -/
structure Gains (label : String) (a b : Annotator) (added : List Mark) : Prop where
  same : b = { a with marks := b.marks }
  marks : b.marks.marks.Perm (a.marks.marks ++ added)
  label : ∀ mark ∈ added, mark.label = label
  inside : ∀ mark ∈ added, 0 ≤ mark.start ∧ mark.start < mark.stop ∧ mark.stop ≤ a.size
  free : ∀ mark ∈ added, ∀ i ∈ mark.indices, a.marks.isTaken i = false

theorem Gains.refl (a : Annotator) : Gains label a a [] where
  same := rfl
  marks := by simp
  label := by simp
  inside := by simp
  free := by simp

theorem Gains.insert {start stop : Int} {added : List Mark} (sound : a.marks.Sound)
    (within : stop ≤ a.size) (recorded : (a.insert start stop label).2 = true)
    (later : Gains label (a.insert start stop label).1 b added) :
    Gains label a b (⟨start, stop, label⟩ :: added) := by
  have inserts := sound.inserts start stop label
  obtain ⟨nonneg, proper, apart⟩ := inserts.accepted.mp recorded
  obtain ⟨perm, taken⟩ := inserts.added recorded
  constructor
  · exact later.same
  · calc List.Perm b.marks.marks ((a.insert start stop label).1.marks.marks ++ added) := later.marks
      List.Perm _ (⟨start, stop, label⟩ :: a.marks.marks ++ added) := perm.append_right added
      List.Perm _ (a.marks.marks ++ ⟨start, stop, label⟩ :: added) := List.perm_middle.symm
  · exact List.forall_mem_cons.mpr ⟨rfl, later.label⟩
  · exact List.forall_mem_cons.mpr ⟨⟨nonneg, proper, within⟩, later.inside⟩
  · refine List.forall_mem_cons.mpr ⟨fun i inside => ?_, fun mark member i inside => ?_⟩
    · rw [Bool.eq_false_iff]
      intro before
      obtain ⟨other, recorded, covers⟩ := (sound.taken i).mp (by simpa [MarkStore.isTaken] using before)
      exact apart other recorded i (MarkStore.mem_range.mpr covers) inside
    · have after := later.free mark member i inside
      rw [Bool.eq_false_iff] at after ⊢
      intro before
      apply after
      simp only [MarkStore.isTaken, List.contains_iff_mem] at before ⊢
      exact taken.mem_iff.mpr (List.mem_append_right _ before)

theorem Grows.gains (grown : a.Grows 0 label b n) (sound : a.marks.Sound) :
    ∃ added : List Mark, Gains label a b added ∧ (added.length : Int) = n := by
  induction grown with
  | refl a => exact ⟨[], .refl a, rfl⟩
  | @insert a b start stop count within _ ih =>
    obtain ⟨added, gains, length⟩ := ih (sound.insert start stop label)
    have inserts := sound.inserts start stop label
    cases recorded : (a.insert start stop label).2 with
    | false =>
      have same : (a.insert start stop label).1 = a := by
        simp only [Annotator.insert, inserts.refused recorded]
      rw [same] at gains
      exact ⟨added, gains, by simp [length]⟩
    | true =>
      have nonneg := (inserts.accepted.mp recorded).1
      have proper := (inserts.accepted.mp recorded).2.1
      simp only at nonneg proper
      refine ⟨_, gains.insert sound (by omega) recorded, ?_⟩
      simp only [List.length_cons, ↓reduceIte]
      omega

end Annotator

namespace Matcher

/-- The texts that a search looks for, a closer included. -/
def targets : Matcher → List Text
  | all target _ | char target _ | before target .. | after target .. | following target _
  | lineAfter target | lineStart target => [target]
  | between opener closer => opener :: closer.toList

def counts : Matcher → List Int
  | before _ _ left right | after _ _ left right => [left, right]
  | following _ length => [length]
  | _ => []

/-- A search has nothing to look for, looks for something other than one character where it must not, or
counts below zero. -/
def IsRefused (matcher : Matcher) : Prop :=
  (∃ target ∈ matcher.targets, target = []) ∨
    (∃ target numeric, matcher = char target numeric ∧ target.length ≠ 1) ∨
    ∃ n ∈ matcher.counts, n < 0

@[simp] theorem requireText_eq_ok_iff {what : String} {target : Text} :
    requireText what target = .ok () ↔ target ≠ [] := by
  cases target <;> simp [requireText]

@[simp] theorem requireCount_eq_ok_iff {what : String} {n : Int} :
    requireCount what n = .ok () ↔ 0 ≤ n := by
  simp only [requireCount]
  split <;> simp <;> omega

theorem requires_both_iff {first second : Except Fault Unit} :
    (first >>= fun _ => second) = .ok () ↔ first = .ok () ∧ second = .ok () := by
  cases first <;> simp [bind, Except.bind]

theorem check_eq_ok_iff {matcher : Matcher} : matcher.check = .ok () ↔ ¬ matcher.IsRefused := by
  cases matcher with
  | all target wholeWord => simp [check, IsRefused, targets, counts]
  | char target numeric => simp [check, requires_both_iff, IsRefused, targets, counts]
  | between opener closer =>
    cases closer <;> simp [check, requires_both_iff, IsRefused, targets, counts]
  | before target delimiters left right =>
    simp [check, requireExtents, requires_both_iff, IsRefused, targets, counts]
  | after target delimiters left right =>
    simp [check, requireExtents, requires_both_iff, IsRefused, targets, counts]
  | following target length => simp [check, requires_both_iff, IsRefused, targets, counts]
  | lineAfter target => simp [check, IsRefused, targets, counts]
  | lineStart target => simp [check, IsRefused, targets, counts]

/-- A search as callers ask for it, with texts, whole numbers and truth values. -/
def request : Matcher → Request
  | all target wholeWord =>
    { kind := .all, target := .text (.ofList target), wholeWord := .bool wholeWord }
  | char target numeric => { kind := .char, target := .text (.ofList target), numeric := .bool numeric }
  | between opener closer =>
    { kind := .between, target := .text (.ofList opener),
      closer := (closer.map fun closer => .text (.ofList closer)).getD .none }
  | before target delimiters left right =>
    { kind := .before, target := .text (.ofList target), left := .int left, right := .int right,
      delimiters := .list (delimiters.map fun delimiter => .text (.ofList delimiter)) }
  | after target delimiters left right =>
    { kind := .after, target := .text (.ofList target), left := .int left, right := .int right,
      delimiters := .list (delimiters.map fun delimiter => .text (.ofList delimiter)) }
  | following target length =>
    { kind := .following, target := .text (.ofList target), length := .int length }
  | lineAfter target => { kind := .lineAfter, target := .text (.ofList target) }
  | lineStart target => { kind := .lineStart, target := .text (.ofList target) }

/-- What is read from a request: the search that it was made from, without empty delimiters. -/
def read : Matcher → Matcher
  | before target delimiters left right =>
    before target (delimiters.filter fun delimiter => !delimiter.isEmpty) left right
  | after target delimiters left right =>
    after target (delimiters.filter fun delimiter => !delimiter.isEmpty) left right
  | matcher => matcher

theorem effectiveDelimiters_filter (config : Config) (delimiters : List Text) :
    effectiveDelimiters config (delimiters.filter fun delimiter => !delimiter.isEmpty) =
      effectiveDelimiters config delimiters := by
  simp [effectiveDelimiters]

theorem run_read (config : Config) (a : Annotator) (label : String) (matcher : Matcher) :
    matcher.read.run config a label = matcher.run config a label := by
  cases matcher <;> simp [run, read, mark, regions, check, effectiveDelimiters_filter]

theorem readText_text (what : String) (target : Text) :
    Request.readText what (.text (.ofList target)) = do requireText what target; return target := by
  cases target with
  | nil => rfl
  | cons c rest => simp [Request.readText, requireText, bind, Except.bind, pure, Except.pure]

theorem readCount_int (what : String) (n : Int) :
    Request.readCount what (.int n) = do requireCount what n; return n := by
  simp only [Request.readCount, requireCount, Datum.toInt?, Option.getD_some]
  by_cases negative : n < 0
  · simp only [negative, ↓reduceIte]
    rfl
  · simp only [negative, ↓reduceIte]
    rfl

theorem readDelimiters_texts (delimiters : List Text) :
    Request.readDelimiters (.list (delimiters.map fun delimiter => .text (.ofList delimiter))) =
      pure ((delimiters.filter fun delimiter => !delimiter.isEmpty).map fun delimiter =>
        .text (.ofList delimiter)) := by
  have counts (delimiter : Text) :
      (Datum.text (.ofList delimiter)).isTrue = !delimiter.isEmpty := by
    cases delimiter <;> simp [Datum.isTrue]
  simp only [Request.readDelimiters, Datum.items?, List.filter_map, Function.comp_def, counts]
  rfl

theorem plain_texts (delimiters : List Text) :
    (delimiters.map fun delimiter => Datum.text (.ofList delimiter)).map
      (fun delimiter => delimiter.plain.toList) = delimiters := by
  simp [Function.comp_def, Datum.plain]

theorem neighbour_texts (kind : SearchKind) (target : Text) (delimiters : List Text)
    (left right : Int) :
    Request.neighbour
      { kind, target := .text (.ofList target), left := .int left, right := .int right,
        delimiters := .list (delimiters.map fun delimiter => .text (.ofList delimiter)) } = do
      requireExtents target left right
      return (target, delimiters.filter fun delimiter => !delimiter.isEmpty, left, right) := by
  simp only [Request.neighbour, readText_text, readCount_int, readDelimiters_texts, requireExtents,
    bind_assoc, pure_bind, plain_texts]

/-- Reading a request gives back its search, unless the checks of the search fail. -/
theorem matcher_request (matcher : Matcher) : ∃ early : Except Fault Unit,
    (∀ fault, early = .error fault → matcher.check = .error fault) ∧
      matcher.request.matcher = do early; return matcher.read := by
  cases matcher with
  | all target wholeWord =>
    refine ⟨_, fun _ failed => failed, ?_⟩
    simp only [request, Request.matcher, readText_text, bind_assoc, pure_bind]
    rfl
  | char target numeric =>
    refine ⟨requireText "char" target, fun fault failed => ?_, ?_⟩
    · simp only [check, failed]
      rfl
    · simp only [request, Request.matcher, readText_text, bind_assoc, pure_bind]
      rfl
  | between opener closer =>
    refine ⟨_, fun _ failed => failed, ?_⟩
    cases closer with
    | none =>
      simp only [request, Request.matcher, readText_text, bind_assoc, pure_bind]
      rfl
    | some closer => simp [request, Request.matcher, readText_text, Request.readCloser, check, read]
  | before target delimiters left right =>
    refine ⟨_, fun _ failed => failed, ?_⟩
    simp only [request, Request.matcher, neighbour_texts, check, bind_assoc, pure_bind, read]
  | after target delimiters left right =>
    refine ⟨_, fun _ failed => failed, ?_⟩
    simp only [request, Request.matcher, neighbour_texts, check, bind_assoc, pure_bind, read]
  | following target length =>
    refine ⟨_, fun _ failed => failed, ?_⟩
    simp only [request, Request.matcher, readText_text, readCount_int, check, bind_assoc, pure_bind]
    rfl
  | lineAfter target =>
    refine ⟨_, fun _ failed => failed, ?_⟩
    simp only [request, Request.matcher, readText_text, bind_assoc, pure_bind]
    rfl
  | lineStart target =>
    refine ⟨_, fun _ failed => failed, ?_⟩
    simp only [request, Request.matcher, readText_text, bind_assoc, pure_bind]
    rfl

theorem request_typed {config : Config}
    (texts : ∀ delimiter ∈ config.delimiters, delimiter.isText = true) (matcher : Matcher) :
    matcher.request.Typed config := by
  constructor
  · cases matcher <;> simp [request, Datum.items?, Datum.isText]
  · exact texts
  all_goals cases matcher <;> rfl

end Matcher

namespace Work

theorem eq_of_attempt {first second : Work α} {desk : Desk}
    (same : first.attempt desk = second.attempt desk) : first desk = second desk := by
  simp only [attempt] at same
  cases one : first desk <;> cases two : second desk <;> simp_all

/-- Asking with texts and whole numbers is searching, faults included. -/
theorem ask_request (matcher : Matcher) (label : String) {desk : Desk}
    (texts : ∀ delimiter ∈ desk.studio.config.delimiters, delimiter.isText = true) :
    ask matcher.request label desk = search matcher label desk := by
  have typed := Matcher.request_typed texts matcher
  obtain ⟨early, refused, reading⟩ := matcher.matcher_request
  apply eq_of_attempt
  cases early with
  | error fault =>
    have unread : matcher.request.matcher = .error fault := reading
    have failed : attempt (search matcher label) desk = (.error fault, desk) := by
      simp [attempt, search, Matcher.run, refused fault rfl]
    simp [ask, attempt_bind, unread, failed]
  | ok =>
    have read : matcher.request.matcher = .ok matcher.read := reading
    have asked : attempt (ask matcher.request label) desk =
        attempt (search matcher.read label) desk := by
      simp [ask, attempt_bind, read, typed.not_flawed, typed.not_real]
    rw [asked, attempt, attempt, search, search, Matcher.run_read]

/-- A search that its arguments rule out fails and changes nothing. Any other keeps all marks, and
answers how many it added. Asking for it with texts and whole numbers comes to the same. -/
theorem search_counts {desk : Desk} (handled : desk.annotator.Handled) (matcher : Matcher)
    (label : String) :
    ((matcher.IsRefused ∧ ∃ fault, fault.IsMatcher ∧ search matcher label desk = .error fault desk) ∨
      (¬ matcher.IsRefused ∧ ∃ after added, desk.annotator.Gains label after added ∧
        search matcher label desk = .ok (added.length : Int) { desk with annotator := after })) ∧
    ((∀ delimiter ∈ desk.studio.config.delimiters, delimiter.isText = true) →
      ask matcher.request label desk = search matcher label desk) := by
  refine ⟨?_, ask_request matcher label⟩
  obtain ⟨slack, _, sound⟩ := handled.sound
  cases checked : matcher.check with
  | error fault =>
    left
    have refused : matcher.IsRefused := by
      apply Classical.byContradiction
      intro accepted
      rw [Matcher.check_eq_ok_iff.mpr accepted] at checked
      contradiction
    refine ⟨refused, fault, matcher.check_only fault checked, ?_⟩
    simp only [search, Matcher.run, checked]
  | ok =>
    right
    have grown := Matcher.mark_grows desk.studio.config sound.starts_ne_nil label matcher
    obtain ⟨added, gains, length⟩ := grown.gains sound.marks
    refine ⟨Matcher.check_eq_ok_iff.mp checked, _, added, gains, ?_⟩
    simp only [search, Matcher.run, checked, length]

def halved : Desk :=
  { annotator := { Annotator.create {} "aa".toList (some false) with
      marks := MarkStore.empty.run [.insert 1 2 "op"] } }

theorem search_counts_halved :
    halved.annotator.Handled ∧
    (∃ after added, halved.annotator.Gains "name" after added ∧ added.length = 1 ∧
      ask (Matcher.request (.all ['a'] false)) "name" halved =
        .ok 1 { halved with annotator := after }) ∧
    ∃ fault, fault.IsMatcher ∧ search (.following ['a'] (-1)) "name" halved = .error fault halved := by
  have handled : halved.annotator.Handled := .edited (.create {} "aa".toList (some false)) _
  refine ⟨handled, ?_, ?_⟩
  · obtain ⟨either, asking⟩ := search_counts handled (.all ['a'] false) "name"
    have found : ∃ after, search (.all ['a'] false) "name" halved = .ok 1 after := ⟨_, rfl⟩
    rcases either with ⟨refused, _⟩ | ⟨_, after, added, gains, done⟩
    · simp [Matcher.IsRefused, Matcher.targets, Matcher.counts] at refused
    · obtain ⟨_, counted⟩ := found
      have one : (added.length : Int) = 1 := by
        simp only [done, EStateM.Result.ok.injEq] at counted
        exact counted.1
      refine ⟨after, added, gains, by omega, ?_⟩
      rw [asking (by decide), done, one]
  · rcases (search_counts handled (.following ['a'] (-1)) "name").1 with ⟨_, failed⟩ | ⟨accepted, _⟩
    · exact failed
    · simp [Matcher.IsRefused, Matcher.targets, Matcher.counts] at accepted

end Work

end Highlight
