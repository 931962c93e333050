import Highlight.Document
import Highlight.Proofs.Completion
import Highlight.Proofs.Searches

/-! The grammar of Julia names itself for what strings interpolate, and still goes no deeper than three
levels. A recorded string has quotes only in its first and its last cluster. What it interpolates starts
at a dollar sign, after the first cluster, so at most its last cluster has a quote. The string found in
there is that one cluster, which has no room for a dollar sign beside the quote. -/
namespace Highlight

namespace Grapheme

variable {text : Text} {s e : Nat}

/-- A part of a text that is made of whole clusters and is not empty. -/
structure IsPart (text : Text) (s e : Nat) : Prop where
  proper : s < e
  inside : e ≤ (starts text).length

theorem IsPart.length (part : IsPart text s e) : (starts (between text s e)).length = e - s :=
  length_starts_between (Nat.le_of_lt part.proper) part.inside

theorem IsPart.holds (part : IsPart text s e) {i : Nat} {c : Char} :
    Holds (between text s e) i c ↔ s + i < e ∧ Holds text (s + i) c :=
  holds_between (Nat.le_of_lt part.proper) part.inside

end Grapheme

open Grapheme (Holds IsPart IsSolid between starts)

namespace Grammar.Julia

variable {text : Text} {s e : Nat}

/-- A quote stands in the first cluster, and none elsewhere but in the last. -/
structure IsString (text : Text) : Prop where
  opens : Holds text 0 '"'
  quotes : ∀ i, Holds text i '"' → i = 0 ∨ i + 1 = (starts text).length

def IsInterpolation (text : Text) : Prop := ∀ i, Holds text i '"' → i + 1 = (starts text).length

theorem isString_between (part : IsPart text s e) (opens : Holds text s '"')
    (quotes : ∀ i, s ≤ i → i < e → Holds text i '"' → i = s ∨ i + 1 = e) :
    IsString (between text s e) := by
  constructor
  · rw [part.holds]
    exact ⟨part.proper, opens⟩
  · intro i here
    rw [part.holds] at here
    rw [part.length]
    have := quotes (s + i) (by omega) here.1 here.2
    omega

theorem not_both {i : Nat} (quote : Holds text i '"') : ¬ Holds text i '$' := fun dollar => by
  have quoteSolid : IsSolid '"' := by decide +kernel
  have dollarSolid : IsSolid '$' := by decide +kernel
  exact absurd (quote.eq_of_solid dollar quoteSolid dollarSolid) (by decide)

theorem IsString.isInterpolation (string : IsString text) (part : IsPart text s e)
    (dollar : Holds text s '$') : IsInterpolation (between text s e) := by
  have later : s ≠ 0 := by
    rintro rfl
    exact not_both string.opens dollar
  intro i here
  rw [part.holds] at here
  rw [part.length]
  have := string.quotes (s + i) here.2
  have := part.inside
  omega

/-- A string in an interpolation is one cluster. -/
theorem IsInterpolation.length_string (interpolation : IsInterpolation text) (part : IsPart text s e)
    (opens : Holds text s '"') : (starts (between text s e)).length = 1 := by
  have := interpolation s opens
  have := part.proper
  have := part.inside
  rw [part.length]
  omega

end Grammar.Julia

namespace Rule

variable {config : Config} {registry : Registry} {depth : Int} {desk : Desk}

theorem ready_find (levels : Nat) (ready : desk.Ready config registry depth) {matcher : Matcher}
    (checked : matcher.check = .ok ()) (label : String) :
    ∃ after : Desk, ((programAt levels (find matcher label)).run.attempt desk).2 = after ∧
      after.Ready config registry depth ∧ after.annotator.text = desk.annotator.text ∧
      after.annotator = (matcher.mark config desk.annotator label).1 ∧
      ∀ mark ∈ after.annotator.marks.marks, mark ∈ desk.annotator.marks.marks ∨
        (mark.label = label ∧ mark.stop ≤ (starts desk.annotator.text).length) := by
  obtain ⟨slack, _, sound⟩ := ready.sound
  have grown := Matcher.mark_grows config sound.starts_ne_nil label matcher
  have next := ready.run (programAt levels (find matcher label))
  rw [attempt_find checked, ready.under.1] at next
  refine ⟨_, rfl, ?_⟩
  rw [attempt_find checked, ready.under.1]
  refine ⟨next, grown.same_text.1, rfl, fun mark member => ?_⟩
  have size : desk.annotator.size = (starts desk.annotator.text).length := by
    rw [Annotator.size, sound.index, GraphemeIndex.size_ofText]
  refine (grown.mem_cases sound.marks member).imp_right fun new => ⟨new.1, ?_⟩
  omega

theorem region_part {a b : Annotator} {label : String} {region : Mark} {slack : Int}
    (sound : b.Sound slack) (text : b.text = a.text)
    (fresh : ∀ mark ∈ a.marks.marks, mark.label ≠ label)
    (marks : ∀ mark ∈ b.marks.marks, mark ∈ a.marks.marks ∨
      (mark.label = label ∧ mark.stop ≤ (starts a.text).length))
    (member : region ∈ b.marks.withLabel label) :
    region ∈ b.marks.marks ∧ region ∉ a.marks.marks ∧
      ∃ s e : Nat, region.start = s ∧ region.stop = e ∧ IsPart a.text s e ∧
        (b.child region.start region.stop).text = between a.text s e := by
  obtain ⟨recorded, isLabel⟩ := List.mem_filter.mp member
  have named : region.label = label := beq_iff_eq.mp isLabel
  have new : region ∉ a.marks.marks := fun old => fresh region old named
  have proper := sound.marks.proper region recorded
  obtain ⟨_, bounded⟩ := (marks region recorded).resolve_left new
  refine ⟨recorded, new, region.start.toNat, region.stop.toNat, by omega, by omega,
    ⟨by omega, by omega⟩, ?_⟩
  rw [← text]
  exact Annotator.slice_eq_between sound.index proper.1 (by omega)

end Rule

theorem Document.annotate_ok {source : Source} {studio : Studio} {grammar : Grammar} {count : Int}
    {after : Desk} (found : studio.registry.find source.language = .ok grammar)
    (ran : Rule.applyAll grammar.rules
      ⟨.create studio.config source.text source.normalize, .empty, studio⟩ = .ok count after) :
    annotate source studio =
      .ok { after with styles := grammar.style after.styles } after.studio := by
  have looked : findGrammar source.language studio = .ok grammar studio := by
    simp only [findGrammar, found]
  have marked : onDesk (.create studio.config source.text source.normalize) .empty
      (do grammar.highlight; pure ()) studio =
      .ok ((), { after with styles := grammar.style after.styles }) after.studio := by
    simp only [onDesk, Grammar.highlight, Grammar.mark, Bind.bind, EStateM.bind, ran]
    rfl
  have read : (get : Shared Studio) studio = .ok studio studio := rfl
  simp only [Bind.bind] at marked
  simp only [annotate, annotateThen, Bind.bind, EStateM.bind, looked, read, marked]
  rfl

namespace Grammar.Julia

open Rule

variable {config : Config} {bound depth : Int} {desk : Desk} {levels : Nat}

def Room (config : Config) (bound depth : Int) : Prop :=
  (∃ top, config.maxDepth.floor? = some top ∧ depth ≤ top) ∧ depth ≤ bound

/-- Work completes on a region with a given text. -/
def CompletesOn (config : Config) (bound depth : Int) (body : Program Int) (text : Text) : Prop :=
  Room config bound depth ∧ ∀ child : Desk, child.Ready config .builtin depth →
    child.annotator.text = text → child.annotator.marks = .empty → body.Completes bound child

theorem rules_eq : rules =
    .find (.between "#=".toList (some "=#".toList)) "comment" ::
    .find (.lineAfter "#".toList) "comment" ::
    .find (.between ['"'] none) "string" ::
    .inside "string" stringBody none :: rules.drop 4 := rfl

theorem stringBody_eq : stringBody = [
    .find (.between ['$', '('] (some [')'])) "interp",
    .find (.after ['$'] interpolationDelimiters 0 0) "interp",
    .inside "interp" [.find (.all "$(".toList false) "interp"] (some "julia"),
    .find (.following "\\".toList 1) "exit"] := rfl

theorem find_julia : Registry.builtin.find "julia" = .ok julia := by rfl

theorem rulesOf_julia (under : desk.Under config .builtin) :
    ((rulesOf (some "julia")).attempt desk).1 = .ok rules := by
  have named : "julia".isEmpty = false := by decide
  simp only [rulesOf, Work.attempt, named, Bool.false_eq_true, ↓reduceIte, under.2, find_julia]
  rfl

theorem rules_complete (ready : desk.Ready config .builtin depth)
    (fresh : ∀ mark ∈ desk.annotator.marks.marks, mark.label ≠ "string")
    (inner : ∀ s e, IsPart desk.annotator.text s e → Holds desk.annotator.text s '"' →
      IsString (between desk.annotator.text s e) →
      CompletesOn config bound (depth + 1) (bodyAt levels stringBody [])
        (between desk.annotator.text s e)) :
    (programEach (programAt levels) rules).Completes bound desk := by
  obtain ⟨one, ran1, ready1, text1, _, marks1⟩ := ready_find levels ready
    (show (Matcher.between "#=".toList (some "=#".toList)).check = .ok () from rfl) "comment"
  obtain ⟨two, ran2, ready2, text2, _, marks2⟩ := ready_find levels ready1
    (show (Matcher.lineAfter "#".toList).check = .ok () from rfl) "comment"
  obtain ⟨three, ran3, ready3, text3, marked, marks3⟩ := ready_find levels ready2
    (show (Matcher.between ['"'] none).check = .ok () from rfl) "string"
  have plain : ∀ mark ∈ two.annotator.marks.marks, mark.label ≠ "string" := by
    intro mark member
    rcases marks2 mark member with earlier | ⟨comment, _⟩
    · rcases marks1 mark earlier with old | ⟨comment, _⟩
      · exact fresh mark old
      · simp [comment]
    · simp [comment]
  rw [rules_eq]
  refine completes_cons (completes_find rfl _ _) ?_
  rw [ran1]
  refine completes_cons (completes_find rfl _ _) ?_
  rw [ran2]
  refine completes_cons (completes_find rfl _ _) ?_
  rw [ran3]
  refine completes_cons (completes_inside ready3 rfl fun region member => ?_)
    (completes_searches (by decide +kernel) _)
  obtain ⟨_, _, sound2⟩ := ready2.sound
  obtain ⟨_, _, sound3⟩ := ready3.sound
  obtain ⟨recorded, new, s, e, start, stop, part, text⟩ := region_part sound3 text3 plain marks3 member
  rw [marked] at recorded
  obtain ⟨_, opens, quotes⟩ := (Matcher.mark_alternating_mem sound2 recorded).resolve_left new
  simp only [start, stop, Int.toNat_natCast, Int.ofNat_le, Int.ofNat_lt] at opens quotes
  rw [text2.trans text1] at part text opens quotes
  obtain ⟨⟨room, low⟩, completes⟩ := inner s e part opens (isString_between part opens
    fun i above below quote => by
      have := quotes i above below quote
      omega)
  exact ⟨room, low, fun child childReady same =>
    completes child childReady (same ▸ text) (same ▸ rfl)⟩

theorem stringBody_complete (ready : desk.Ready config .builtin depth)
    (fresh : ∀ mark ∈ desk.annotator.marks.marks, mark.label ≠ "interp")
    (inner : ∀ s e, IsPart desk.annotator.text s e → Holds desk.annotator.text s '$' →
      CompletesOn config bound (depth + 1)
        (bodyAt levels [.find (.all "$(".toList false) "interp"] rules)
        (between desk.annotator.text s e)) :
    (programEach (programAt levels) stringBody).Completes bound desk := by
  obtain ⟨one, ran1, ready1, text1, marked1, marks1⟩ := ready_find levels ready
    (show (Matcher.between ['$', '('] (some [')'])).check = .ok () from rfl) "interp"
  obtain ⟨two, ran2, ready2, text2, marked2, marks2⟩ := ready_find levels ready1
    (show (Matcher.after ['$'] interpolationDelimiters 0 0).check = .ok () from rfl) "interp"
  obtain ⟨_, _, sound⟩ := ready.sound
  obtain ⟨_, _, sound1⟩ := ready1.sound
  obtain ⟨_, _, sound2⟩ := ready2.sound
  have new : ∀ mark ∈ two.annotator.marks.marks, mark ∈ desk.annotator.marks.marks ∨
      (mark.label = "interp" ∧ mark.stop ≤ (starts desk.annotator.text).length) := by
    intro mark member
    rcases marks2 mark member with earlier | later
    · exact marks1 mark earlier
    · exact .inr (text1 ▸ later)
  rw [stringBody_eq]
  refine completes_cons (completes_find rfl _ _) ?_
  rw [ran1]
  refine completes_cons (completes_find rfl _ _) ?_
  rw [ran2]
  refine completes_cons (completes_inside ready2 (rulesOf_julia ready2.under) fun region member => ?_)
    (completes_searches (by decide +kernel) _)
  obtain ⟨recorded, absent, s, e, start, stop, part, text⟩ :=
    region_part sound2 (text2.trans text1) fresh new member
  have dollar : Holds desk.annotator.text region.start.toNat '$' := by
    rw [marked2] at recorded
    rcases Matcher.mark_after_mem sound1.marks recorded with earlier | ⟨_, begins⟩
    · rw [marked1] at earlier
      obtain ⟨_, begins⟩ := (Matcher.mark_between_mem sound.marks earlier).resolve_left absent
      exact begins.holds sound.index
    · rw [← text1]
      exact begins.holds sound1.index
  rw [start, Int.toNat_natCast] at dollar
  obtain ⟨⟨room, low⟩, completes⟩ := inner s e part dollar
  exact ⟨room, low, fun child childReady same =>
    completes child childReady (same ▸ text) (same ▸ rfl)⟩

/-- A cluster with a quote interpolates nothing. -/
theorem cluster_complete (room : Room config bound depth) {text : Text} (opens : Holds text 0 '"')
    (single : (starts text).length = 1) :
    CompletesOn config bound depth (bodyAt (levels + 1) stringBody []) text := by
  refine ⟨room, fun child ready same empty => ?_⟩
  refine .bind (stringBody_complete ready (by simp [empty, MarkStore.empty]) ?_) fun _ => .done 0
  intro s e part dollar
  rw [same] at part dollar
  have first : s = 0 := by
    have := part.proper
    have := part.inside
    omega
  rw [first] at dollar
  exact absurd dollar (not_both opens)

theorem interpolation_complete (room : Room config bound depth)
    (deeper : Room config bound (depth + 1)) {text : Text} (interpolation : IsInterpolation text) :
    CompletesOn config bound depth
      (bodyAt (levels + 2) [.find (.all "$(".toList false) "interp"] rules) text := by
  refine ⟨room, fun child ready same empty => ?_⟩
  obtain ⟨after, ran, next, kept, _, marks⟩ := ready_find (levels + 1) ready
    (show (Matcher.all "$(".toList false).check = .ok () from rfl) "interp"
  refine .bind (completes_searches (by decide +kernel) child) fun _ => ?_
  rw [attempt_single, ran]
  refine rules_complete next ?_ ?_
  · intro mark member
    rcases marks mark member with old | ⟨interp, _⟩
    · simp [empty, MarkStore.empty] at old
    · simp [interp]
  · intro s e part opens string
    rw [kept, same] at part opens string ⊢
    exact cluster_complete deeper string.opens (interpolation.length_string part opens)

theorem string_complete (room : Room config bound depth) (deeper : Room config bound (depth + 1))
    (deepest : Room config bound (depth + 2)) {text : Text} (string : IsString text) :
    CompletesOn config bound depth (bodyAt (levels + 3) stringBody []) text := by
  refine ⟨room, fun child ready same empty => ?_⟩
  refine .bind (stringBody_complete ready (by simp [empty, MarkStore.empty]) ?_) fun _ => .done 0
  intro s e part dollar
  rw [same] at part dollar ⊢
  have interpolation := string.isInterpolation part dollar
  exact interpolation_complete deeper (Int.add_assoc depth 1 1 ▸ deepest) interpolation

/-- Three levels are enough for every text. -/
theorem program_complete (ready : desk.Ready config .builtin 0)
    (fresh : ∀ mark ∈ desk.annotator.marks.marks, mark.label ≠ "string") {limit : Int}
    (limited : config.maxDepth = .int limit) (enough : 3 ≤ limit) :
    (program rules).Completes 3 desk := by
  have floor : config.maxDepth.floor? = some limit := by
    simp [limited, Datum.floor?, Datum.ratio?, Datum.toInt?, Int.fdiv_one]
  have room {depth : Int} (low : depth ≤ 3) : Room config 3 depth :=
    ⟨⟨limit, floor, by omega⟩, low⟩
  have left : levelsLeft desk = (limit - 3).toNat + 3 := by
    simp only [levelsLeft, ready.under.1, ready.depth, Config.levels, floor, Option.getD_some]
    omega
  have completes : (programEach (programAt (levelsLeft desk)) rules).Completes 3 desk := by
    rw [left]
    exact rules_complete ready fresh fun s e part opens string =>
      string_complete (room (by omega)) (room (by omega)) (room (by omega)) string
  exact ⟨completes.returns, completes.shallow⟩

/-- Every text can be marked as Julia source, under any limit from 3 on, and no region is entered below
level 3. -/
theorem annotate_total (text : Text) (normalize : Option Bool) {studio : Studio}
    (grammars : studio.registry = .builtin) {limit : Int}
    (limited : studio.config.maxDepth = .int limit) (enough : 3 ≤ limit) :
    ∃ desk shared, Document.annotate { text, language := "julia", normalize } studio = .ok desk shared ∧
      desk.annotator = ((program rules).run.attempt
        ⟨.create studio.config text normalize, .empty, studio⟩).2.annotator ∧
      ∀ region child, .entered region child ∈ (program rules).trace
          ⟨.create studio.config text normalize, .empty, studio⟩ → child.depth ≤ 3 := by
  have ready : Desk.Ready studio.config .builtin 0
      ⟨.create studio.config text normalize, .empty, studio⟩ :=
    ⟨⟨rfl, grammars⟩, ⟨1, Int.le_refl 1, Annotator.create_sound 1 _ _ _⟩, rfl⟩
  have completes := program_complete ready (by simp [Annotator.create, Annotator.ofText]) limited enough
  obtain ⟨count, returned⟩ := completes.returns
  cases ran : applyAll rules ⟨.create studio.config text normalize, .empty, studio⟩ with
  | error fault after => simp [run_program, Work.attempt, ran] at returned
  | ok total after =>
    refine ⟨{ after with styles := julia.style after.styles }, after.studio,
      Document.annotate_ok (grammars ▸ find_julia) ran, ?_, completes.shallow⟩
    simp only [run_program, Work.attempt, ran]

def enteredLevel : Event → Option Int
  | .entered _ child => some child.depth
  | _ => none

def tight : Studio := { config := { maxDepth := .int 3 } }

/-- A string that interpolates a string, both without an end: the third level is reached. -/
theorem annotate_total_nested :
    tight.registry = .builtin ∧ tight.config.maxDepth = .int 3 ∧
    (∃ desk shared, Document.annotate { text := "\"$(\"".toList, language := "julia" } tight =
      .ok desk shared) ∧
    ((program rules).trace ⟨.create tight.config "\"$(\"".toList none, .empty, tight⟩).filterMap
      enteredLevel = [1, 2, 3] := by
  have enters : ((program rules).trace ⟨.create tight.config "\"$(\"".toList none, .empty,
      tight⟩).filterMap enteredLevel = [1, 2, 3] := by decide +kernel
  have grammars : tight.registry = .builtin := rfl
  obtain ⟨desk, shared, marked, _⟩ := annotate_total "\"$(\"".toList none grammars rfl (Int.le_refl 3)
  exact ⟨rfl, rfl, ⟨desk, shared, marked⟩, enters⟩

end Grammar.Julia

end Highlight
