import Highlight.Proofs.History
import Highlight.Proofs.Counting

/-! Searches made twice. Most searches find their regions in the text alone. Each of these regions is either
recorded or refused, and refused ever after: a region stays blocked, because searches take clusters and never
free one. So the search finds nothing to record when it comes back, whatever was searched for in the
meantime. -/
namespace Highlight

namespace MarkStore

variable {store : MarkStore} {start stop : Int} {label : String}

/-- Nothing can be inserted over a range. -/
def Blocks (store : MarkStore) (range : Int × Int) : Prop :=
  range.2 ≤ range.1 ∨ range.1 < 0 ∨ ∃ i, range.1 ≤ i ∧ i < range.2 ∧ store.isTaken i = true

theorem Blocks.insert (blocks : store.Blocks (start, stop)) (label : String) :
    store.insert start stop label = (store, false) := by
  rcases blocks with empty | below | touched
  · simp [MarkStore.insert, empty]
  · simp [MarkStore.insert, below]
  · simp [MarkStore.insert, anyTaken_eq_true_iff.mpr touched]

theorem isTaken_insert {i : Int} (taken : store.isTaken i = true) :
    (store.insert start stop label).1.isTaken i = true := by
  unfold insert
  split
  · exact taken
  · split
    · exact taken
    · simp only [isTaken, List.contains_iff_mem] at taken ⊢
      exact List.mem_append_right _ taken

theorem insert_blocks (store : MarkStore) (start stop : Int) (label : String) :
    (store.insert start stop label).1.Blocks (start, stop) := by
  unfold insert
  split
  next refused => exact refused.imp_right .inl
  next proper =>
    right; right
    split
    next touched => exact anyTaken_eq_true_iff.mp touched
    next free =>
      refine ⟨start, Int.le_refl start, by omega, ?_⟩
      simp only [isTaken, List.contains_iff_mem]
      exact List.mem_append_left _ (mem_range.mpr ⟨Int.le_refl start, by omega⟩)

end MarkStore

namespace Annotator

variable {a b c : Annotator} {label : String} {slack count : Int} {ranges : List (Int × Int)}

/-- Nothing but the marks has changed, and what was taken is so still. -/
structure Keeps (a b : Annotator) : Prop where
  same : b = { a with marks := b.marks }
  taken : ∀ i, a.marks.isTaken i = true → b.marks.isTaken i = true

namespace Keeps

theorem refl (a : Annotator) : Keeps a a := ⟨rfl, fun _ taken => taken⟩

theorem trans (first : Keeps a b) (second : Keeps b c) : Keeps a c where
  same := by rw [second.same, first.same]
  taken := fun i taken => second.taken i (first.taken i taken)

theorem blocks (keeps : Keeps a b) {range : Int × Int} (blocks : a.marks.Blocks range) :
    b.marks.Blocks range := by
  refine blocks.imp_right fun later => later.imp_right ?_
  rintro ⟨i, low, high, taken⟩
  exact ⟨i, low, high, keeps.taken i taken⟩

end Keeps

theorem insert_keeps (a : Annotator) (start stop : Int) (label : String) :
    Keeps a (a.insert start stop label).1 :=
  ⟨rfl, fun _ taken => MarkStore.isTaken_insert taken⟩

theorem insert_blocked {start stop : Int} (blocks : a.marks.Blocks (start, stop)) (label : String) :
    a.insert start stop label = (a, false) := by
  rw [insert, blocks.insert]

theorem Grows.keeps (grows : a.Grows slack label b count) : Keeps a b := by
  induction grows with
  | refl a => exact .refl a
  | insert _ _ ih => exact (insert_keeps _ _ _ label).trans ih

theorem record_keeps (a : Annotator) (label : String) (ranges : List (Int × Int)) :
    Keeps a (a.record label ranges).1 := by
  induction ranges generalizing a with
  | nil => exact .refl a
  | cons range rest ih => exact (insert_keeps a range.1 range.2 label).trans (ih _)

theorem record_blocks (a : Annotator) (label : String) :
    ∀ range ∈ ranges, (a.record label ranges).1.marks.Blocks range := by
  induction ranges generalizing a with
  | nil => simp
  | cons range rest ih =>
    have inserted : (a.insert range.1 range.2 label).1.marks.Blocks range :=
      a.marks.insert_blocks range.1 range.2 label
    exact List.forall_mem_cons.mpr ⟨(record_keeps _ label rest).blocks inserted, ih _⟩

theorem record_blocked (blocked : ∀ range ∈ ranges, a.marks.Blocks range) (label : String) :
    a.record label ranges = (a, 0) := by
  induction ranges with
  | nil => rfl
  | cons range rest ih =>
    obtain ⟨here, later⟩ := List.forall_mem_cons.mp blocked
    simp only [record, insert_blocked here, ih later]
    rfl

/-- Marks ranges with more clusters behind each of them, but passes over a range that has a taken cluster. -/
def markUnlessTaken (length : Int) (label : String) : Annotator → List (Int × Int) → Annotator × Int
  | a, [] => (a, 0)
  | a, (start, stop) :: rest =>
    if a.marks.anyTaken start stop then markUnlessTaken length label a rest
    else
      let (next, recorded) := a.mark start (stop + length) label
      let (last, count) := markUnlessTaken length label next rest
      (last, (if recorded then 1 else 0) + count)

/-- It does not matter that the marks are looked at, as the longer range is refused in any case. -/
theorem markUnlessTaken_eq_record {length : Int} (nonneg : 0 ≤ length) (label : String)
    (within : ∀ range ∈ ranges, range.2 ≤ a.size) :
    markUnlessTaken length label a ranges =
      a.record label (ranges.map fun range => (range.1, min (range.2 + length) a.size)) := by
  induction ranges generalizing a with
  | nil => rfl
  | cons range rest ih =>
    obtain ⟨here, later⟩ := List.forall_mem_cons.mp within
    rw [markUnlessTaken, List.map_cons, record]
    split
    next touched =>
      obtain ⟨i, low, high, taken⟩ := MarkStore.anyTaken_eq_true_iff.mp touched
      have blocks : a.marks.Blocks (range.1, min (range.2 + length) a.size) :=
        .inr (.inr ⟨i, low, by simp only; omega, taken⟩)
      simp [insert_blocked blocks, ih later]
    next free =>
      simp only [mark, ih (show ∀ other ∈ rest, other.2 ≤ (a.insert _ _ label).1.size from later)]
      rfl

structure Call where
  config : Config
  request : Request
  label : String

def answer (a : Annotator) (call : Call) : Annotator :=
  ((Work.ask call.request call.label).attempt
    { annotator := a, studio := { config := call.config } }).2.annotator

def answerAll (a : Annotator) (calls : List Call) : Annotator := calls.foldl answer a

theorem answer_grows (sound : a.Sound slack) (call : Call) :
    ∃ count, a.Grows 0 call.label (a.answer call) count := by
  obtain ⟨b, count, left, grown, _⟩ := @Work.ask_grows call.request call.label
    { annotator := a, studio := { config := call.config } } sound.starts_ne_nil
  refine ⟨count, ?_⟩
  rw [answer, left]
  exact grown

theorem answerAll_keeps (sound : a.Sound slack) (nonneg : 0 ≤ slack) (calls : List Call) :
    Keeps a (a.answerAll calls) := by
  induction calls generalizing a with
  | nil => exact .refl a
  | cons call rest ih =>
    obtain ⟨_, grown⟩ := answer_grows sound call
    exact grown.keeps.trans (ih (sound.grows (grown.loosen nonneg)))

end Annotator

namespace Matcher

variable {a b : Annotator} {matcher : Matcher} {slack : Int}

/-- The search looks at the text only. Those for two delimiters pass over what is marked. -/
def ignoresMarks : Matcher → Bool
  | between .. | lineAfter .. => false
  | _ => true

theorem mark_eq_record (ignores : matcher.ignoresMarks = true) (config : Config) (a : Annotator)
    (label : String) : matcher.mark config a label = a.record label (matcher.regions config a) := by
  cases matcher <;> first | rfl | contradiction

theorem regions_keeps (ignores : matcher.ignoresMarks = true) (config : Config)
    (keeps : Annotator.Keeps a b) : matcher.regions config b = matcher.regions config a := by
  rw [keeps.same]
  cases matcher <;> first | rfl | contradiction

/-- A search for a target and what follows passes over targets that touch a mark, and finds what it would find
without looking. -/
theorem mark_following (sound : a.Sound slack) (config : Config) (target : Text) {length : Int}
    (nonneg : 0 ≤ length) (label : String) :
    (following target length).mark config a label =
      a.markUnlessTaken length label ((all target false).regions config a) := by
  rw [Annotator.markUnlessTaken_eq_record nonneg label fun range member =>
    regions_le sound.starts_ne_nil (all target false) member]
  simp [mark, regions, wordPositions, Function.comp_def]

/-- A search that looks at no mark records nothing when it is made again, whatever is searched for in
between. -/
theorem run_again (handled : a.Handled) (ignores : matcher.ignoresMarks = true)
    (accepted : ¬ matcher.IsRefused) (config : Config) (label : String) :
    ∃ (after : Annotator) (count : Int), matcher.run config a label = .ok (after, count) ∧
      ∀ calls : List Annotator.Call, matcher.run config (after.answerAll calls) label =
        .ok (after.answerAll calls, 0) := by
  obtain ⟨slack, positive, sound⟩ := handled.sound
  have nonneg : 0 ≤ slack := Int.le_trans Int.one_nonneg positive
  have ran (b : Annotator) : matcher.run config b label = .ok (b.record label (matcher.regions config b)) := by
    simp only [run, check_eq_ok_iff.mpr accepted, mark_eq_record ignores]
  have grown := (mark_grows config sound.starts_ne_nil label matcher).loosen nonneg
  rw [mark_eq_record ignores] at grown
  refine ⟨_, _, ran a, fun calls => ?_⟩
  have keeps := Annotator.answerAll_keeps (sound.grows grown) nonneg calls
  rw [ran, regions_keeps ignores config (grown.keeps.trans keeps), Annotator.record_blocked]
  intro range member
  exact keeps.blocks (Annotator.record_blocks a label range member)

/-- Escapes, the first of which is marked as something else. -/
def spelled : Annotator :=
  { Annotator.create {} "\\a\\\\b\\".toList (some false) with
    marks := MarkStore.empty.run [.insert 0 1 "other"] }

def asides : List Annotator.Call :=
  [⟨{}, { kind := .char, target := .text "b" }, "letter"⟩,
    ⟨{}, { kind := .between, target := .text "a" }, "rest"⟩]

theorem run_again_spelled :
    spelled.Handled ∧
    ∃ after : Annotator, (following ['\\'] 1).run {} spelled "escape" = .ok (after, 2) ∧
      (following ['\\'] 1).run {} (after.answerAll asides) "escape" = .ok (after.answerAll asides, 0) := by
  have handled : spelled.Handled := .edited (.create {} _ _) _
  obtain ⟨after, count, ran, again⟩ := @run_again spelled (following ['\\'] 1) handled rfl
    (check_eq_ok_iff.mp rfl) {} "escape"
  have two : ((following ['\\'] 1).run {} spelled "escape").toOption.map (·.2) = some 2 := by
    decide +kernel
  rw [ran] at two
  obtain rfl : count = 2 := Option.some.inj two
  exact ⟨handled, after, ran, again asides⟩

end Matcher

end Highlight
