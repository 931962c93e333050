import Highlight.Proofs.History
import Highlight.Proofs.Independence

/-! Rules only refine. An insertion takes nothing away, and a region that is scanned again is cut into
tiles, so after any number of rules, and after any fault, each earlier mark is still covered by marks
inside it. That two such steps make one is shown cluster by cluster: in a sound store, marks that lie
in a range and cover all of it tile it. -/
namespace Highlight

theorem Within.tiles {start stop : Int} {marks : List Mark} (within : Within start stop marks)
    (ordered : start ≤ stop) (covered : ∀ i, start ≤ i → i < stop → Covered marks i) :
    Tiles start marks stop := by
  induction marks generalizing start with
  | nil =>
    by_cases short : start < stop
    · exact absurd (covered start (Int.le_refl _) short) (not_covered_nil start)
    · exact Int.le_antisymm ordered (by omega)
  | cons mark rest ih =>
    have here := within.bounds mark List.mem_cons_self
    have first : mark.start = start := by
      rcases covered_cons.mp (covered start (Int.le_refl _) (by omega)) with inMark | later
      · omega
      · have := within.tail.covered later
        omega
    refine ⟨first, here.2.1, ih within.tail here.2.2 fun i low high => ?_⟩
    rcases covered_cons.mp (covered i (by omega) high) with inMark | later
    · omega
    · exact later

namespace MarkStore

variable {before middle after : MarkStore} {targets wider : List String}

theorem Sound.tiles_of_covered (sound : after.Sound) {mark : Mark} (proper : mark.start ≤ mark.stop)
    (covered : ∀ i, mark.start ≤ i → i < mark.stop → Covered (after.marks.filter mark.holds) i) :
    Tiles mark.start (after.marks.filter mark.holds) mark.stop := by
  refine Within.tiles ⟨sound.ordered.filter _, fun part member => ?_⟩ proper covered
  obtain ⟨recorded, held⟩ := List.mem_filter.mp member
  have inside := Mark.holds_iff.mp held
  exact ⟨inside.1, (sound.proper part recorded).2, inside.2⟩

/-- What one store has become of another: each mark is tiled by marks that lie in it, and only those
whose label is among the targets need not be there as they were. -/
structure Refined (targets : List String) (before after : MarkStore) : Prop where
  tiled : ∀ mark ∈ before.marks, Tiles mark.start (after.marks.filter mark.holds) mark.stop
  kept : ∀ mark ∈ before.marks, mark.label ∉ targets → mark ∈ after.marks
  taken : ∀ i, before.isTaken i = true → after.isTaken i = true

theorem Refined.of_subset (first : before.Sound) (sound : after.Sound)
    (subset : ∀ mark ∈ before.marks, mark ∈ after.marks) : Refined targets before after where
  tiled mark member := by
    have proper := (first.proper mark member).2
    apply sound.tiles_of_covered (Int.le_of_lt proper)
    intro i low high
    exact ⟨mark, List.mem_filter.mpr ⟨subset mark member, by simp [Mark.holds_iff]⟩, low, high⟩
  kept mark member _ := subset mark member
  taken i inBefore := by
    simp only [isTaken, List.contains_iff_mem] at inBefore ⊢
    obtain ⟨mark, member, covers⟩ := (first.taken i).mp inBefore
    exact (sound.taken i).mpr ⟨mark, subset mark member, covers⟩

theorem Refined.refl (sound : before.Sound) : Refined targets before before :=
  .of_subset sound sound fun _ member => member

theorem Refined.weaken (refined : Refined targets before after) (subset : targets ⊆ wider) :
    Refined wider before after :=
  ⟨refined.tiled, fun mark member other => refined.kept mark member fun inside => other (subset inside),
    refined.taken⟩

theorem Refined.trans (first : Refined targets before middle) (second : Refined targets middle after)
    (start : before.Sound) (sound : after.Sound) : Refined targets before after where
  tiled mark member := by
    have proper := (start.proper mark member).2
    apply sound.tiles_of_covered (Int.le_of_lt proper)
    intro i low high
    -- The cluster lies in a tile of the mark, and there in a tile of that tile.
    obtain ⟨part, inPart, coversPart⟩ := ((first.tiled mark member).covers_iff i).mpr ⟨low, high⟩
    obtain ⟨recorded, held⟩ := List.mem_filter.mp inPart
    obtain ⟨piece, inPiece, covers⟩ := ((second.tiled part recorded).covers_iff i).mpr coversPart
    obtain ⟨present, heldPiece⟩ := List.mem_filter.mp inPiece
    refine ⟨piece, List.mem_filter.mpr ⟨present, ?_⟩, covers⟩
    simp only [Mark.holds_iff] at held heldPiece ⊢
    omega
  kept mark member other := second.kept mark (first.kept mark member other) other
  taken i inBefore := second.taken i (first.taken i inBefore)

theorem mem_insert_of_mem {mark : Mark} (member : mark ∈ before.marks) (start stop : Int)
    (label : String) : mark ∈ (before.insert start stop label).1.marks := by
  unfold insert
  split
  · exact member
  · split
    · exact member
    · rw [Order.insert_eq_orderedInsert]
      exact (List.mem_orderedInsert _).mpr (.inr member)

/-- A mark that is swapped for tiles is refined by them. -/
theorem Sound.swap_refined (sound : before.Sound) {region : Mark} {front back tiles : List Mark}
    (split : before.marks = front ++ region :: back) (tiling : Tiles region.start tiles region.stop) :
    Refined [region.label] before { before with marks := front ++ tiles ++ back } := by
  have swapped := sound.swap split tiling
  have others : ∀ mark ∈ before.marks, mark ≠ region → mark ∈ front ++ tiles ++ back := by
    intro mark member different
    rw [split] at member
    simp only [List.mem_append, List.mem_cons, different, false_or] at member ⊢
    exact member.imp_left .inl
  refine ⟨fun mark member => ?_, fun mark member other => ?_, fun i inBefore => inBefore⟩
  · by_cases same : mark = region
    · rw [same, sound.filter_tiles split tiling]
      exact tiling
    · apply swapped.tiles_of_covered (Int.le_of_lt (sound.proper mark member).2)
      intro i low high
      exact ⟨mark, List.mem_filter.mpr ⟨others mark member same, by simp [Mark.holds_iff]⟩, low, high⟩
  · apply others mark member
    rintro rfl
    simp at other

end MarkStore

open MarkStore (Refined)

namespace Annotator

variable {slack : Int} {targets : List String} {a b c : Annotator}

theorem Grows.mem {label : String} {n : Int} (grown : a.Grows slack label b n) {mark : Mark}
    (member : mark ∈ a.marks.marks) : mark ∈ b.marks.marks := by
  induction grown with
  | refl => exact member
  | insert _ _ ih => exact ih (MarkStore.mem_insert_of_mem member _ _ _)

structure Refines (slack : Int) (targets : List String) (a b : Annotator) : Prop where
  same : b = { a with marks := b.marks }
  sound : b.Sound slack
  marks : Refined targets a.marks b.marks

theorem Refines.refl (sound : a.Sound slack) : Refines slack targets a a :=
  ⟨rfl, sound, .refl sound.marks⟩

theorem Refines.trans (start : a.Sound slack) (first : Refines slack targets a b)
    (second : Refines slack targets b c) : Refines slack targets a c where
  same := by rw [second.same, first.same]
  sound := second.sound
  marks := first.marks.trans second.marks start.marks second.sound.marks

theorem Refines.weaken {wider : List String} (refines : Refines slack targets a b)
    (subset : targets ⊆ wider) : Refines slack wider a b :=
  ⟨refines.same, refines.sound, refines.marks.weaken subset⟩

theorem Grows.refines {label : String} {n : Int} (grown : a.Grows slack label b n)
    (sound : a.Sound slack) : Refines slack targets a b where
  same := by
    obtain ⟨text, index, depth⟩ := grown.same_text
    cases a
    cases b
    simp_all
  sound := sound.grows grown
  marks := .of_subset sound.marks (sound.grows grown).marks fun _ member => grown.mem member

end Annotator

namespace Region

variable {slack : Int} {label : String} {work : Work α} {desk : Desk}

theorem Outcome.refines {region : Mark} {result : Except Fault α × Desk}
    (outcome : Outcome label work region desk result) (sound : desk.annotator.Sound slack) :
    Annotator.Refines slack [region.label] desk.annotator result.2.annotator := by
  refine ⟨outcome.parent, outcome.sound sound, ?_⟩
  cases outcome with
  | failed => exact .refl sound.marks
  | replaced => exact .refl sound.marks
  | kept ran same split within shared =>
    have proper := sound.marks.proper region (by simp [split])
    exact sound.marks.swap_refined split (fillFrom_tiles within (Int.le_of_lt proper.2))

/-- Wherever a scan stops, the regions it went through have become tiles. -/
theorem Course.refines {regions : List Mark} {result : Except Fault (List α) × Desk}
    {visited : List (Mark × Desk)} (course : Course slack label work regions desk result visited)
    (labelled : ∀ region ∈ regions, region.label = label) :
    Annotator.Refines slack [label] desk.annotator result.2.annotator := by
  induction course with
  | done sound => exact .refl sound
  | stopped sound _ outcome =>
    rw [← labelled _ List.mem_cons_self]
    exact outcome.refines sound
  | went sound _ outcome later ih =>
    obtain ⟨here, others⟩ := List.forall_mem_cons.mp labelled
    have step := outcome.refines sound
    rw [here] at step
    exact step.trans sound (ih others)

end Region

namespace Program

variable {slack : Int} {targets : List String} {desk : Desk}

/-- Programs that take nothing away: they insert marks, and scan again only regions whose label is
among the targets. What is done to such a region is left open. -/
def Adds (targets : List String) : Program α → Prop
  | done _ | fail _ => True
  | look next => ∀ desk, (next desk).Adds targets
  | call (.setText _ _) _ | call .clear _ => False
  | call _ next => ∀ outcome, (next outcome).Adds targets
  | rescan label _ _ next => label ∈ targets ∧ ∀ outcome, (next outcome).Adds targets

theorem Adds.andThen {program : Program β} {next : Except Fault β → Program α}
    (first : program.Adds targets) (second : ∀ outcome, (next outcome).Adds targets) :
    (program.andThen next).Adds targets := by
  induction program with
  | done b => exact second (.ok b)
  | fail fault => exact second (.error fault)
  | look inner ih => exact fun desk => ih desk (first desk) second
  | call c inner ih =>
    cases c with
    | setText | clear => exact first.elim
    | _ => exact fun outcome => ih outcome (first outcome) second
  | rescan label limit body inner _ ih =>
    exact ⟨first.1, fun outcome => ih outcome (first.2 outcome) second⟩

theorem Adds.bind {program : Program β} {next : β → Program α} (first : program.Adds targets)
    (second : ∀ b, (next b).Adds targets) : (program.bind next).Adds targets :=
  first.andThen fun
    | .ok b => second b
    | .error _ => trivial

theorem Adds.weaken {wider : List String} {program : Program α} (adds : program.Adds targets)
    (subset : targets ⊆ wider) : program.Adds wider := by
  induction program with
  | done | fail => trivial
  | look next ih => exact fun desk => ih desk (adds desk)
  | call c next ih =>
    cases c with
    | setText | clear => exact adds.elim
    | _ => exact fun outcome => ih outcome (adds outcome)
  | rescan label limit body next _ ih =>
    exact ⟨subset adds.1, fun outcome => ih outcome (adds.2 outcome)⟩

theorem run_call_refines (c : Call) (sound : desk.annotator.Sound slack) (some : 1 ≤ slack)
    {next : Except Fault Session.Answer → Program α} (adds : (call c next).Adds targets) :
    Annotator.Refines slack targets desk.annotator (c.run.attempt desk).2.annotator ∧
      ∀ outcome, (next outcome).Adds targets := by
  obtain ⟨b, left, effect⟩ := c.run_effect sound
  rw [left]
  cases effect with
  | setText | clear => exact adds.elim
  | grow loose =>
    refine ⟨(loose.loosen some).refines sound, ?_⟩
    cases c with
    | setText | clear => exact adds.elim
    | _ => exact adds

/-- A program that only adds refines, whether it finishes or fails. -/
theorem run_refines (program : Program α) (adds : program.Adds targets)
    (sound : desk.annotator.Sound slack) (some : 1 ≤ slack) :
    Annotator.Refines slack targets desk.annotator (program.run.attempt desk).2.annotator := by
  induction program generalizing desk with
  | done | fail => exact .refl sound
  | look next ih => exact ih desk (adds desk) sound
  | call c next ih =>
    obtain ⟨step, later⟩ := run_call_refines c sound some adds
    rw [attempt_call]
    exact step.trans sound (ih _ (later _) step.sound)
  | rescan label limit body next _ ih =>
    rw [attempt_rescan]
    rcases Region.rescan_cases label limit body.run desk with ⟨_, outcome, left⟩ | ⟨_, ran⟩
    · rw [left]
      exact ih outcome (adds.2 outcome) sound
    · have scanned := (body.scan_course label sound).refines fun region member =>
        beq_iff_eq.mp (List.mem_filter.mp member).2
      rw [ran]
      have step := scanned.weaken (List.cons_subset.mpr ⟨adds.1, List.nil_subset _⟩)
      exact step.trans sound (ih _ (adds.2 _) step.sound)

end Program

namespace Rule

variable {slack : Int} {desk : Desk}

/-- The label whose regions a rule scans again. A target that is no text is no label. -/
def target? : Rule → Option String
  | inside target _ _ => some target
  | insideAs target _ _ => target.text?
  | _ => none

def targets (rules : List Rule) : List String := rules.filterMap target?

theorem programRescan_adds (target : Datum) (grammar : Option String)
    (work : List Rule → Program Int) :
    (programRescan target grammar work).Adds target.text?.toList := by
  intro desk
  dsimp only
  split
  · trivial
  · refine ⟨by simp [Datum.text?], fun outcome => ?_⟩
    cases outcome <;> trivial
  · trivial

theorem programNamed_adds {targets : List String} (grammar : Datum) {work : Option String → Program Int}
    (adds : ∀ name, (work name).Adds targets) : (programNamed grammar work).Adds targets := by
  unfold programNamed
  split
  · exact adds _
  · trivial

theorem programAt_adds (levels : Nat) (rule : Rule) :
    (programAt levels rule).Adds rule.target?.toList := by
  have counts (outcome : Except Fault Session.Answer) : (counted outcome).Adds [] := by
    unfold counted
    split <;> trivial
  cases rule with
  | find matcher label => cases levels <;> exact counts
  | ask request label => cases levels <;> exact counts
  | unknown => cases levels <;> trivial
  | inside target rules grammar => cases levels <;> exact programRescan_adds (.text target) _ _
  | insideAs target rules grammar =>
    cases levels <;> exact programNamed_adds _ fun _ => programRescan_adds _ _ _

theorem programEach_adds (levels : Nat) (rules : List Rule) :
    (programEach (programAt levels) rules).Adds (targets rules) := by
  induction rules with
  | nil => trivial
  | cons rule rest ih =>
    have here : rule.target?.toList ⊆ targets (rule :: rest) := by
      intro label member
      have found : rule.target? = some label := by simpa using member
      simp [targets, found]
    have later : targets rest ⊆ targets (rule :: rest) := by
      intro label member
      obtain ⟨other, inRest, found⟩ := List.mem_filterMap.mp member
      exact List.mem_filterMap.mpr ⟨other, List.mem_cons_of_mem rule inRest, found⟩
    exact ((programAt_adds levels rule).weaken here).bind fun _ =>
      (ih.weaken later).bind fun _ => trivial

theorem applyEach_refines (levels : Nat) (rules : List Rule) (sound : desk.annotator.Sound slack)
    (some : 1 ≤ slack) : Annotator.Refines slack (targets rules) desk.annotator
      ((applyEach (applyAt levels) rules).attempt desk).2.annotator := by
  rw [applyEach_eq_run]
  exact Program.run_refines _ (programEach_adds levels rules) sound some

/-- The desk that the first rules leave is what the others start from, unless a fault ended it all. -/
theorem applyEach_append_desk (step : Rule → Work Int) (first second : List Rule) (desk : Desk) :
    ((applyEach step (first ++ second)).attempt desk).2 =
      match (applyEach step first).attempt desk with
      | (.ok _, middle) => ((applyEach step second).attempt middle).2
      | (.error _, last) => last := by
  have after (work : Work Int) (next : Int → Int) (desk : Desk) :
      ((work >>= fun n => pure (next n)).attempt desk).2 = (work.attempt desk).2 := by
    rw [Work.attempt_bind]
    split <;> simp_all
  induction first generalizing desk with
  | nil => rfl
  | cons rule rest ih =>
    simp only [List.cons_append, applyEach, Work.attempt_bind]
    cases (step rule).attempt desk with
    | mk outcome middle =>
      cases outcome with
      | error fault => rfl
      | ok count =>
        simp only [← Work.attempt_bind, after, ih]
        rw [Work.attempt_bind]
        cases (applyEach step rest).attempt middle with
        | mk outcome last => cases outcome <;> rfl

/-- Rules only refine, whether they finish or fail: every mark stays taken and tiled, and stays as it
is unless a rule scans its label again. The same holds between any two places in a list of rules, so
the order of the rules is their priority. -/
theorem applyAll_refines (handled : desk.annotator.Handled) (rules : List Rule) :
    Refined (targets rules) desk.annotator.marks
      ((applyAll rules).attempt desk).2.annotator.marks ∧
    ∀ first second, rules = first ++ second →
      Refined (targets second) ((applyAll first).attempt desk).2.annotator.marks
        ((applyAll rules).attempt desk).2.annotator.marks := by
  obtain ⟨slack, some, sound⟩ := handled.sound
  refine ⟨(applyEach_refines _ rules sound some).marks, ?_⟩
  rintro first second rfl
  have earlier := applyEach_refines (levelsLeft desk) first sound some
  have split := applyEach_append_desk (applyAt (levelsLeft desk)) first second desk
  have whole (rules : List Rule) : (applyAll rules).attempt desk =
      (applyEach (applyAt (levelsLeft desk)) rules).attempt desk := rfl
  rw [whole, whole, split]
  cases ran : (applyEach (applyAt (levelsLeft desk)) first).attempt desk with
  | mk outcome middle =>
    rw [ran] at earlier
    cases outcome with
    | error fault => exact .refl earlier.sound.marks
    | ok count => exact (applyEach_refines _ second earlier.sound some).marks

/-- A scan by an inside rule, and then a fault. -/
theorem applyAll_refines_fault :
    Region.marked.annotator.Handled ∧
    ∃ fault after, applyAll [.inside "region" keyRules none, .unknown "?" .none .none]
      Region.marked = .error fault after ∧
    ⟨2, 3, "other"⟩ ∈ after.annotator.marks.marks ∧
    Tiles 0 (after.annotator.marks.marks.filter (Mark.holds ⟨0, 2, "region"⟩)) 2 := by
  have handled : Region.marked.annotator.Handled :=
    (Annotator.Reached.after (.create {} _ _) Region.markBoth).handled
  obtain ⟨refined, _⟩ := applyAll_refines handled
    [.inside "region" keyRules none, .unknown "?" .none .none]
  have failed : ((applyAll [.inside "region" keyRules none, .unknown "?" .none .none]).attempt
      Region.marked).1.toOption = none := by decide +kernel
  have region : ⟨0, 2, "region"⟩ ∈ Region.marked.annotator.marks.marks := by decide +kernel
  have other : ⟨2, 3, "other"⟩ ∈ Region.marked.annotator.marks.marks := by decide +kernel
  cases ran : applyAll [.inside "region" keyRules none, .unknown "?" .none .none]
      Region.marked with
  | ok count after => simp [Work.attempt, ran, Except.toOption] at failed
  | error fault after =>
    simp only [Work.attempt, ran] at refined
    exact ⟨handled, fault, after, rfl, refined.kept _ other (by decide), refined.tiled _ region⟩

end Rule

end Highlight
