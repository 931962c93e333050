import Highlight.Proofs.Gaps
import Highlight.Proofs.Locality
import Highlight.Proofs.Program

/-! What every annotator keeps, whatever program it and the regions around it were put through: its
index is that of its text, its marks are disjoint and in order, and they lie inside the text. Raw
ranges that do not lie in the text can record one cluster of an empty text, and the mark store itself
takes marks anywhere, so the last part is stated with a `slack`: 0 where all lies in the text, 1 for
any program, and more where a store was written directly. -/
namespace Highlight

namespace Annotator

structure Sound (slack : Int) (a : Annotator) : Prop where
  index : a.index = .ofText a.text
  marks : a.marks.Sound
  bound : ∀ mark ∈ a.marks.marks, mark.stop ≤ max a.size slack

variable {slack : Int} {a b : Annotator}

theorem ofText_sound (slack : Int) (text : Text) : (ofText text).Sound slack where
  index := rfl
  marks := MarkStore.empty_sound
  bound := by simp [ofText]

theorem create_sound (slack : Int) (config : Config) (text : Text) (normalize : Option Bool) :
    (create config text normalize).Sound slack := ofText_sound slack _

theorem clear_sound (sound : a.Sound slack) : a.clear.Sound slack where
  index := sound.index
  marks := MarkStore.empty_sound
  bound := by simp [clear, MarkStore.empty]

theorem setText_sound (slack : Int) (a : Annotator) (config : Config) (text : Text)
    (normalize : Option Bool) : (a.setText config text normalize).Sound slack where
  index := rfl
  marks := MarkStore.empty_sound
  bound := by simp [setText, MarkStore.empty]

theorem child_index (index : a.index = .ofText a.text) (start stop : Int) :
    (a.child start stop).index = .ofText (a.child start stop).text := by
  simp only [child, slice, index]
  exact GraphemeIndex.sub_ofText a.text start stop

theorem child_sound (slack : Int) (index : a.index = .ofText a.text) (start stop : Int) :
    (a.child start stop).Sound slack where
  index := child_index index start stop
  marks := MarkStore.empty_sound
  bound := by simp [child, MarkStore.empty]

theorem Sound.starts_ne_nil (sound : a.Sound slack) (nonempty : a.text ≠ []) :
    a.index.starts ≠ [] := by
  simpa [sound.index, GraphemeIndex.ofText] using nonempty

theorem Sound.grows (sound : a.Sound slack) {label : String} {n : Int}
    (grown : a.Grows slack label b n) : b.Sound slack := by
  induction grown with
  | refl => exact sound
  | insert within _ ih =>
    refine ih ⟨sound.index, sound.marks.insert _ _ _, fun mark member => ?_⟩
    rcases sound.marks.mem_insert member with old | rfl
    · exact sound.bound mark old
    · exact within

theorem Sound.loosen (sound : a.Sound slack) {wider : Int} (le : slack ≤ wider) : a.Sound wider := by
  refine ⟨sound.index, sound.marks, fun mark member => ?_⟩
  have := sound.bound mark member
  omega

end Annotator

namespace Position

theorem cluster_lt {index : GraphemeIndex} {offset : Datum} {found : Int}
    (done : cluster index offset = .ok found) : found + 1 ≤ max index.size 1 := by
  simp only [cluster] at done
  split at done
  · have := Except.ok.inj done
    omega
  next nonempty =>
    split at done
    next n _ =>
      have below := index.toGrapheme_lt (by simpa using nonempty) n
      rw [Except.ok.inj done] at below
      omega
    next => contradiction

theorem span_le {index : GraphemeIndex} {start stop : Datum} {range : Int × Int}
    (done : span index start stop = .ok range) : range.2 ≤ max index.size 1 := by
  simp only [span, bind, Except.bind] at done
  split at done
  · contradiction
  next first atStart =>
  split at done
  · contradiction
  next empty _ =>
  have low := cluster_lt atStart
  cases empty with
  | true =>
    have := congrArg Prod.snd (Except.ok.inj done)
    simp only at this
    omega
  | false =>
    simp only [Bool.false_eq_true, ↓reduceIte] at done
    split at done
    · contradiction
    split at done
    · contradiction
    next last atStop =>
    have high := cluster_lt atStop
    have := congrArg Prod.snd (Except.ok.inj done)
    simp only at this
    omega

theorem span_nil {index : GraphemeIndex} (empty : index.starts = []) {start stop : Int}
    (le : stop ≤ start) : span index (.int start) (.int stop) = .ok (0, 0) := by
  have atMost : isAtMost (.int stop) (.int start) = .ok true := by
    simp [isAtMost, Datum.isAtMost?, Datum.ratio?, Datum.toInt?, le]
  have first : cluster index (.int start) = .ok 0 := by simp [cluster, empty]
  simp only [span, bind, Except.bind, first, atMost]
  rfl

end Position

namespace Call

/-- Raw ranges lie in the text; other calls may have any arguments. -/
def isInText (text : Text) : Call → Bool
  | markRaw (.int start) (.int stop) _ => 0 ≤ start && stop ≤ text.length
  | markRaw .. => false
  | _ => true

theorem markRaw_isInText {text : Text} {start stop : Datum} {label : String}
    (inText : (markRaw start stop label).isInText text = true) :
    ∃ low high : Int, start = .int low ∧ stop = .int high ∧ 0 ≤ low ∧ high ≤ text.length := by
  cases start with
  | int low =>
    cases stop with
    | int high => exact ⟨low, high, rfl, rfl, by simpa [isInText] using inText⟩
    | _ => simp [isInText] at inText
  | _ => simp [isInText] at inText

/-- All that a call can do to the annotator in hand, whether it finishes or fails: replace the text,
drop the marks, or grow. Nothing else on the desk changes. -/
inductive Effect (config : Config) (a : Annotator) : Call → Annotator → Prop where
  | setText (text : Text) (normalize : Option Bool) :
      Effect config a (.setText text normalize) (a.setText config text normalize)
  | clear : Effect config a .clear a.clear
  | grow {call : Call} {b : Annotator} {label : String} {n : Int} (loose : a.Grows 1 label b n)
      (strict : call.isInText a.text = true → a.Grows 0 label b n) : Effect config a call b

theorem Effect.depth {config : Config} {a b : Annotator} {call : Call}
    (effect : Effect config a call b) : b.depth = a.depth := by
  cases effect with
  | setText => rfl
  | clear => rfl
  | grow loose => exact loose.same_text.2.2

theorem Effect.none {config : Config} {a : Annotator} {call : Call} : Effect config a call a :=
  @Effect.grow config a call a "" 0 (.refl a) fun _ => .refl a

theorem Effect.of_grows {config : Config} {a b : Annotator} {call : Call} {label : String} {n : Int}
    (grown : a.Grows 0 label b n) : Effect config a call b :=
  .grow (grown.loosen (by omega)) fun _ => grown

theorem markBetween_effect (start stop : Datum) (label : String) (call : Call) (desk : Desk) :
    ∃ b, ((Session.Op.markBetween start stop label).attempt desk).2 = { desk with annotator := b } ∧
      Effect desk.studio.config desk.annotator call b := by
  simp only [Session.Op.markBetween, Work.attempt_bind, Work.attempt_get, Work.attempt_lift]
  cases Position.boundsWithin desk.annotator.size start stop with
  | error fault => exact ⟨desk.annotator, rfl, .none⟩
  | ok range =>
    obtain ⟨start, stop⟩ := range
    have within : min stop desk.annotator.size ≤ max desk.annotator.size 0 := by omega
    exact ⟨_, rfl, .of_grows (.single start (min stop desk.annotator.size) within)⟩

theorem markRaw_effect (start stop : Datum) (label : String) {slack : Int} {desk : Desk}
    (sound : desk.annotator.Sound slack) :
    ∃ b, ((Call.markRaw start stop label).run.attempt desk).2 = { desk with annotator := b } ∧
      Effect desk.studio.config desk.annotator (.markRaw start stop label) b := by
  simp only [Call.run, Session.Op.run, Work.attempt_bind, Work.attempt_get, Work.attempt_lift]
  cases found : Position.span desk.annotator.index start stop with
  | error fault => exact ⟨desk.annotator, rfl, .none⟩
  | ok range =>
    obtain ⟨first, last⟩ := range
    have loose := Position.span_le found
    refine ⟨_, rfl, .grow (.single first last loose) ?_⟩
    intro inText
    obtain ⟨low, high, rfl, rfl, nonneg, inside⟩ := markRaw_isInText inText
    by_cases empty : desk.annotator.text = []
    · have noClusters : desk.annotator.index.starts = [] := by
        simp [sound.index, GraphemeIndex.ofText, empty]
      rw [empty] at inside
      rw [Position.span_nil noClusters (Int.le_trans inside nonneg)] at found
      obtain ⟨rfl, rfl⟩ := Prod.mk.inj (Except.ok.inj found)
      exact .single 0 0 (Int.le_max_right _ _)
    · have clusters := List.length_pos_iff.mpr (sound.starts_ne_nil empty)
      refine .single first last ?_
      simp only [Annotator.size, GraphemeIndex.size] at loose ⊢
      omega

theorem run_effect (call : Call) {slack : Int} {desk : Desk} (sound : desk.annotator.Sound slack) :
    ∃ b, (call.run.attempt desk).2 = { desk with annotator := b } ∧
      Effect desk.studio.config desk.annotator call b := by
  have searched (work : Work Int) {label : String} (grown : work.Grows label desk) :
      ∃ b, ((work >>= fun n => pure (Session.Answer.count n)).attempt desk).2 =
        { desk with annotator := b } ∧ Effect desk.studio.config desk.annotator call b := by
    obtain ⟨b, n, left, grows, _⟩ := grown
    refine ⟨b, ?_, .of_grows grows⟩
    rw [Work.attempt_bind, ← left]
    cases work.attempt desk with
    | mk outcome after => cases outcome <;> rfl
  cases call with
  | setText text normalize => exact ⟨_, rfl, .setText text normalize⟩
  | clear => exact ⟨_, rfl, .clear⟩
  | mark start stop label => exact markBetween_effect start stop label _ desk
  | markPoint i label =>
    simp only [Call.run, Session.Op.run, Work.attempt_bind, Work.attempt_lift]
    cases Position.shift 1 i with
    | error fault => exact ⟨desk.annotator, rfl, .none⟩
    | ok next => exact markBetween_effect i next label _ desk
  | markRaw start stop label => exact markRaw_effect start stop label sound
  | find matcher label => exact searched _ (Work.search_grows matcher label sound.starts_ne_nil)
  | ask request label => exact searched _ (Work.ask_grows request label sound.starts_ne_nil)

/-- A call keeps an annotator sound. Without slack its raw range has to lie in the text. -/
theorem run_sound (call : Call) {slack : Int} {desk : Desk} (sound : desk.annotator.Sound slack)
    (small : slack = 0 ∨ 1 ≤ slack) (inText : slack = 0 → call.isInText desk.annotator.text = true) :
    (call.run.attempt desk).2.annotator.Sound slack := by
  obtain ⟨b, left, effect⟩ := call.run_effect sound
  rw [left]
  cases effect with
  | setText text normalize => exact Annotator.setText_sound slack _ _ text normalize
  | clear => exact Annotator.clear_sound sound
  | grow loose strict =>
    rcases small with rfl | some
    · exact sound.grows (strict (inText rfl))
    · exact sound.grows (loose.loosen some)

end Call

end Highlight
