import Highlight.Proofs.Frame

/-! Where faults come from. Rules fail in searches, in the look-up of grammars and where regions lie too
deep, and a scan of regions passes on what failed inside. So a class of faults that holds of these
sources holds of every fault that comes out, however grammars name each other. -/
namespace Highlight

open Session (Answer)

/-- Whatever fails, fails with an allowed fault. -/
def Fault.Only (allowed : Fault → Prop) (outcome : Except Fault α) : Prop :=
  ∀ fault, outcome = .error fault → allowed fault

open Fault (Only)

variable {allowed : Fault → Prop}

namespace Fault.Only

theorem ok (a : α) : Only allowed (.ok a) := fun _ failed => nomatch failed

theorem error {fault : Fault} (holds : allowed fault) : Only allowed (.error fault : Except Fault α) := by
  rintro _ ⟨⟩
  exact holds

theorem bind {outcome : Except Fault α} {next : α → Except Fault β} (first : Only allowed outcome)
    (rest : ∀ a, outcome = .ok a → Only allowed (next a)) : Only allowed (outcome >>= next) := by
  cases outcome with
  | error fault => exact error (first fault rfl)
  | ok a => exact rest a rfl

theorem map {outcome : Except Fault α} (f : α → β) (only : Only allowed outcome) :
    Only allowed (f <$> outcome) := by
  cases outcome with
  | error fault => exact error (only fault rfl)
  | ok a => exact ok (f a)

theorem mono {wider : Fault → Prop} {outcome : Except Fault α} (only : Only allowed outcome)
    (weaker : ∀ fault, allowed fault → wider fault) : Only wider outcome :=
  fun fault failed => weaker fault (only fault failed)

theorem work_bind {work : Work α} {next : α → Work β} {desk : Desk}
    (first : Only allowed (work.attempt desk).1)
    (rest : ∀ a, (work.attempt desk).1 = .ok a →
      Only allowed ((next a).attempt (work.attempt desk).2).1) :
    Only allowed ((work >>= next).attempt desk).1 := by
  rw [Work.attempt_bind]
  cases ran : work.attempt desk with
  | mk outcome after =>
    rw [ran] at first rest
    cases outcome with
    | error fault => exact error (first fault rfl)
    | ok a => exact rest a rfl

end Fault.Only

def Fault.IsMatcher (fault : Fault) : Prop := fault.family = .matcher

namespace Matcher

theorem requireText_only (what : String) (target : Text) :
    Only Fault.IsMatcher (requireText what target) := by
  unfold requireText
  split
  · exact .error rfl
  · exact .ok ()

theorem requireCount_only (what : String) (n : Int) :
    Only Fault.IsMatcher (requireCount what n) := by
  unfold requireCount
  split
  · exact .error rfl
  · exact .ok ()

theorem check_only (matcher : Matcher) : Only Fault.IsMatcher matcher.check := by
  have extents (target : Text) (left right : Int) :
      Only Fault.IsMatcher (requireExtents target left right) :=
    (requireText_only _ _).bind fun _ _ => (requireCount_only _ _).bind fun _ _ =>
      requireCount_only _ _
  cases matcher with
  | all target wholeWord => exact requireText_only _ _
  | char target numeric =>
    refine (requireText_only _ _).bind fun _ _ => ?_
    split
    · exact .error rfl
    · exact .ok ()
  | between opener closer =>
    cases closer with
    | none => exact requireText_only _ _
    | some closer => exact (requireText_only _ _).bind fun _ _ => requireText_only _ _
  | before target delimiters left right => exact extents target left right
  | after target delimiters left right => exact extents target left right
  | following target length => exact (requireText_only _ _).bind fun _ _ => requireCount_only _ _
  | lineAfter target => exact requireText_only _ _
  | lineStart target => exact requireText_only _ _

end Matcher

theorem Work.search_only (matcher : Matcher) (label : String) (desk : Desk) :
    Only Fault.IsMatcher ((search matcher label).attempt desk).1 := by
  simp only [attempt, search, Matcher.run]
  cases checked : matcher.check with
  | error fault => exact .error (matcher.check_only fault checked)
  | ok _ => exact .ok _

/-- A whole number; truth values count as such. -/
def Datum.isWhole : Datum → Bool
  | .int _ | .bool _ => true
  | _ => false

namespace Request

/-- The values of a request, and those of the settings that stand in for them, are of the kinds that
are read without further ado. What they say may still be refused. -/
structure Typed (config : Config) (request : Request) : Prop where
  delimiters : ∃ items, request.delimiters.items? = some items ∧ ∀ item ∈ items, item.isText = true
  defaults : ∀ delimiter ∈ config.delimiters, delimiter.isText = true
  left : request.left.isWhole = true
  right : request.right.isWhole = true
  length : request.length.isWhole = true

theorem Typed.not_flawed {config : Config} {request : Request} (typed : request.Typed config) :
    request.isFlawed config = false := by
  obtain ⟨items, listed, texts⟩ := typed.delimiters
  have all : ∀ delimiter ∈ request.delimitersUnder config, delimiter.isText = true := by
    simp only [delimitersUnder, listed, Option.getD_some]
    split
    · exact typed.defaults
    · exact fun delimiter member => texts delimiter (List.mem_filter.mp member).1
  have none_flawed :
      (request.delimitersUnder config).any (fun delimiter => !delimiter.isText) = false := by
    simpa using all
  unfold isFlawed
  split <;> first | exact none_flawed | rfl

theorem Typed.not_real {config : Config} {request : Request} (typed : request.Typed config) :
    request.hasRealExtent = false := by
  have whole {value : Datum} (isWhole : value.isWhole = true) : value.isReal = false := by
    cases value <;> simp_all [Datum.isWhole, Datum.isReal]
  unfold hasRealExtent
  split <;> simp [whole typed.left, whole typed.right, whole typed.length]

variable {request : Request} (spoken : ∀ fault : Fault, fault.IsMatcher → allowed fault)

include spoken

theorem readText_only (what : String) (value : Datum) : Only allowed (readText what value) := by
  unfold readText
  split
  · split
    · exact .error (spoken _ rfl)
    · exact .ok _
  · exact .error (spoken _ rfl)

theorem readCount_only (what : String) {value : Datum}
    (loose : value.isWhole = true ∨ allowed .wrongKind) : Only allowed (readCount what value) := by
  have counted (n : Int) : Only allowed
      (if n < 0 then .error (.negativeCount what value) else .ok n : Except Fault Int) := by
    split
    · exact .error (spoken _ rfl)
    · exact .ok _
  cases value with
  | bool b => exact counted _
  | int n => exact counted n
  | real x =>
    simp only [readCount]
    split
    · exact .error (spoken _ rfl)
    · exact .ok _
  | _ => exact .error (loose.resolve_left (by simp [Datum.isWhole]))

theorem matcher_only {config : Config} (loose : request.Typed config ∨ allowed .wrongKind) :
    Only allowed request.matcher := by
  have neighbour : Only allowed request.neighbour := by
    refine (readText_only spoken _ _).bind fun _ _ =>
      (readCount_only spoken _ (loose.imp_left Typed.left)).bind fun _ _ =>
      (readCount_only spoken _ (loose.imp_left Typed.right)).bind fun _ _ => .bind ?_ fun _ _ => .ok _
    unfold readDelimiters
    split
    · exact .ok _
    next unlisted =>
      refine .error (loose.resolve_left fun typed => ?_)
      obtain ⟨items, listed, _⟩ := typed.delimiters
      simp [listed] at unlisted
  have closer : Only allowed (readCloser request.closer) := by
    unfold readCloser
    split
    · exact .ok _
    · exact (readText_only spoken "closer" _).map some
  have text (what : String) := readText_only spoken what request.target
  unfold matcher
  split
  · exact (text _).bind fun _ _ => .ok _
  · exact (text _).bind fun _ _ => .ok _
  · exact (text _).bind fun _ _ => closer.bind fun _ _ => .ok _
  · exact neighbour.bind fun _ _ => .ok _
  · exact neighbour.bind fun _ _ => .ok _
  · exact (text _).bind fun _ _ =>
      (readCount_only spoken _ (loose.imp_left Typed.length)).bind fun _ _ => .ok _
  · exact (text _).bind fun _ _ => .ok _
  · exact (text _).bind fun _ _ => .ok _

end Request

theorem Request.place_only (request : Request) (size : Int) (region : Int × Int)
    (broken : allowed .wrongKind) : Only allowed (request.place size region) := by
  have left (extent : Datum) (start : Int) : Only allowed (reachLeft extent start) := by
    unfold reachLeft
    split
    · split
      · exact .ok _
      · exact .error broken
    · exact .ok _
  have right (extent : Datum) (stop : Int) : Only allowed (reachRight extent size stop) := by
    unfold reachRight
    split
    · split
      · exact .ok _
      · exact .error broken
    · exact .ok _
  unfold place
  split
  · exact (left _ _).bind fun _ _ => (right _ _).bind fun _ _ => .ok _
  · exact (left _ _).bind fun _ _ => (right _ _).bind fun _ _ => .ok _
  · exact (right _ _).bind fun _ _ => .ok _
  · exact .ok _

theorem Work.recordPlaced_only (request : Request) (label : String) (regions : List (Int × Int))
    (broken : allowed .wrongKind) (desk : Desk) :
    Only allowed ((recordPlaced request label regions).attempt desk).1 := by
  induction regions generalizing desk with
  | nil => exact .ok 0
  | cons region rest ih =>
    rw [recordPlaced_cons]
    split
    · exact ih desk
    · cases placed : request.place desk.annotator.size region with
      | error fault => exact .error (request.place_only _ _ broken fault placed)
      | ok range =>
        have later := ih { desk with annotator := (desk.annotator.insert range.1 range.2 label).1 }
        simp only
        split
        · exact .ok _
        next fault after failed => exact .error (later fault (by rw [failed]))

theorem Work.ask_only {request : Request} (spoken : ∀ fault : Fault, fault.IsMatcher → allowed fault)
    (label : String) {desk : Desk}
    (loose : request.Typed desk.studio.config ∨ allowed .wrongKind) :
    Only allowed ((ask request label).attempt desk).1 := by
  refine Only.work_bind ?_ fun matcher _ => ?_
  · simpa using Request.matcher_only spoken loose
  simp only [attempt_lift, attempt_bind, attempt_get]
  split
  next flawed =>
    refine .error (loose.resolve_left fun typed => ?_)
    simp [typed.not_flawed] at flawed
  split
  next real =>
    refine recordPlaced_only request label _ (loose.resolve_left fun typed => ?_) desk
    simp [typed.not_real] at real
  · exact (search_only matcher label desk).mono spoken

namespace Rule

/-- A class of rules, closed under what they nest and name, whose own faults are allowed. -/
structure Licensed (config : Config) (registry : Registry) (limit : Int) (fits : Rule → Prop)
    (allowed : Fault → Prop) : Prop where
  spoken : ∀ fault : Fault, fault.IsMatcher → allowed fault
  ask : ∀ {request label}, fits (.ask request label) → request.Typed config ∨ allowed .wrongKind
  inside : ∀ {target rules grammar}, fits (.inside target rules grammar) → ∀ rule ∈ rules, fits rule
  insideAs : ∀ {target rules grammar}, fits (.insideAs target rules grammar) →
    Only allowed (grammarName grammar) ∧ ∀ rule ∈ rules, fits rule
  unregistered : ∀ name, Only allowed (registry.find name)
  registered : ∀ {name grammar}, registry.find name = .ok grammar → ∀ rule ∈ grammar.rules, fits rule
  deep : ∀ label, allowed (.tooDeep label (max limit 0 + 1) (.int limit))

variable {config : Config} {registry : Registry} {limit depth : Int} {fits : Rule → Prop} {desk : Desk}

theorem Licensed.rulesOf (licensed : Licensed config registry limit fits allowed)
    (under : desk.Under config registry) (grammar : Option String) :
    Only allowed ((rulesOf grammar).attempt desk).1 ∧
      ∀ named, ((Rule.rulesOf grammar).attempt desk).1 = .ok named → ∀ rule ∈ named, fits rule := by
  cases grammar with
  | none => exact ⟨.ok [], by rintro _ ⟨⟩; simp⟩
  | some name =>
    by_cases empty : name.isEmpty = true
    · simp only [Rule.rulesOf, Work.attempt, empty, ↓reduceIte]
      exact ⟨.ok [], by rintro _ ⟨⟩; simp⟩
    · simp only [Rule.rulesOf, Work.attempt, empty, under.2, Bool.false_eq_true, ↓reduceIte]
      cases found : registry.find name with
      | error fault => exact ⟨.error (licensed.unregistered name fault found), by simp⟩
      | ok grammar =>
        refine ⟨.ok _, ?_⟩
        rintro _ ⟨⟩
        exact licensed.registered found

/-- Regions that lie too deep are one level below the limit, or below the document if the limit is
negative. Other faults of a scan come from the work on a region. -/
theorem Licensed.rescanWith (licensed : Licensed config registry limit fits allowed)
    (limited : config.maxDepth = .int limit) (ready : desk.Ready config registry depth)
    (within : 0 ≤ depth ∧ depth ≤ max limit 0) (target : Datum) (grammar : Option String)
    {levels : Nat} {rules : List Rule}
    (inner : ∀ named child, (∀ rule ∈ named, fits rule) → child.Ready config registry (depth + 1) →
      depth + 1 ≤ limit → Only allowed ((bodyAt levels rules named).run.attempt child).1) :
    Only allowed ((rescanWith target grammar fun named => (bodyAt levels rules named).run).attempt
      desk).1 := by
  obtain ⟨missing, found⟩ := licensed.rulesOf ready.under grammar
  rw [rescanWith_attempt]
  split
  next failed => exact .error (missing _ failed)
  · exact .ok 0
  next named label looked _ =>
  refine Only.map _ fun fault failed => ?_
  have floor : config.maxDepth.floor? = some limit := by
    simp [limited, Datum.floor?, Datum.ratio?, Datum.toInt?, Int.fdiv_one]
  rcases (Region.rescan_fault ready _ (bodyAt_adds levels rules named) failed).2 with
    ⟨unread, _⟩ | ⟨top, read, above, rfl⟩ | ⟨visit, visited, raised⟩
  · simp [floor] at unread
  · obtain rfl : limit = top := by simpa [floor] using read
    have exactly : depth + 1 = max limit 0 + 1 := by omega
    rw [exactly, Option.getD_none, limited]
    exact licensed.deep label
  · obtain ⟨child, top, read, allows⟩ := ready.enter visited
    obtain rfl : limit = top := by simpa [floor] using read
    exact inner named _ (found named looked) child allows fault raised

theorem applyEach_only {levels : Nat}
    (step : ∀ rule desk, fits rule → desk.Ready config registry depth →
      Only allowed ((applyAt levels rule).attempt desk).1)
    {rules : List Rule} (fit : ∀ rule ∈ rules, fits rule) (ready : desk.Ready config registry depth) :
    Only allowed ((applyEach (applyAt levels) rules).attempt desk).1 := by
  induction rules generalizing desk with
  | nil => exact .ok 0
  | cons rule rest ih =>
    obtain ⟨first, later⟩ := List.forall_mem_cons.mp fit
    refine Only.work_bind (step rule desk first ready) fun _ _ => ?_
    have next := ready.run (programAt levels rule)
    rw [run_programAt] at next
    exact Only.work_bind (ih later next) fun _ _ => .ok _

theorem Licensed.applyAt_step (licensed : Licensed config registry limit fits allowed)
    (limited : config.maxDepth = .int limit) {levels : Nat} {rule : Rule} (fit : fits rule)
    (ready : desk.Ready config registry depth) (within : 0 ≤ depth ∧ depth ≤ max limit 0)
    (inner : ∀ rules named child, (∀ rule ∈ rules, fits rule) → (∀ rule ∈ named, fits rule) →
      child.Ready config registry (depth + 1) → depth + 1 ≤ limit →
      Only allowed ((bodyAt levels rules named).run.attempt child).1) :
    Only allowed ((applyAt levels rule).attempt desk).1 := by
  rw [← run_programAt]
  cases rule with
  | find matcher label =>
    rw [run_programAt]
    cases levels <;> exact (Work.search_only matcher label desk).mono licensed.spoken
  | ask request label =>
    rw [run_programAt]
    have loose := licensed.ask fit
    rw [← ready.under.1] at loose
    cases levels <;> exact Work.ask_only licensed.spoken label.plain loose
  | unknown kind target label => cases levels <;> exact .error (licensed.spoken _ rfl)
  | inside target rules grammar =>
    rw [programAt_inside, run_programRescan _ _ fun _ => rfl]
    exact licensed.rescanWith limited ready within _ _ fun named child =>
      inner rules named child (licensed.inside fit)
  | insideAs target rules grammar =>
    obtain ⟨misnamed, nested⟩ := licensed.insideAs fit
    rw [programAt_insideAs, run_programNamed _ fun _ => run_programRescan _ _ fun _ => rfl]
    refine Only.work_bind (by simpa using misnamed) fun name _ => ?_
    rw [Work.attempt_lift]
    exact licensed.rescanWith limited ready within _ _ fun named child =>
      inner rules named child nested

/-- Every fault that a rule raises is allowed, however deep it was raised. -/
theorem Licensed.applyAt (licensed : Licensed config registry limit fits allowed)
    (limited : config.maxDepth = .int limit) (levels : Nat) {rule : Rule} (fit : fits rule)
    (ready : desk.Ready config registry depth) (within : 0 ≤ depth ∧ depth ≤ max limit 0) :
    Only allowed ((applyAt levels rule).attempt desk).1 := by
  induction levels generalizing rule desk depth with
  | zero => exact licensed.applyAt_step limited fit ready within fun _ _ _ _ _ _ _ => .ok 0
  | succ levels ih =>
    apply licensed.applyAt_step limited fit ready within
    intro rules named child first second inside allows
    have deeper : 0 ≤ depth + 1 ∧ depth + 1 ≤ max limit 0 := by omega
    have step := fun rule desk fit ready => @ih (depth + 1) desk rule fit ready deeper
    rw [bodyAt, Program.run_bind]
    refine Only.work_bind ?_ fun _ _ => ?_
    · rw [← applyEach_eq_run]
      exact applyEach_only step first inside
    · have after := inside.run (programEach (programAt levels) rules)
      rw [← applyEach_eq_run]
      exact applyEach_only step second after

end Rule

end Highlight
