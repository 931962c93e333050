import Highlight.Proofs.Frame

/-! Rules that run to their end. `Completes` says that no fault comes out of a program and that it
enters no region below a bound. Searches with sound arguments complete; a list of rules completes if
each of them does where it starts; and an inside rule does if its grammar is known, its regions lie
within the limits, and what is done to each of them completes. -/
namespace Highlight

namespace Program

variable {bound : Int} {desk : Desk}

theorem trace_andThen (program : Program β) (next : Except Fault β → Program α) (desk : Desk) :
    (program.andThen next).trace desk = program.trace desk ++
      (next (program.run.attempt desk).1).trace (program.run.attempt desk).2 := by
  induction program generalizing desk with
  | done b => rfl
  | fail fault => rfl
  | look first ih => exact ih desk next desk
  | call c first ih =>
    simp only [andThen, trace, ih, List.cons_append]
    rfl
  | rescan label limit body first _ ih =>
    simp only [andThen, trace, ih, List.append_assoc]
    rfl

/-- The program returns, and enters no region below a bound. -/
structure Completes (bound : Int) (program : Program α) (desk : Desk) : Prop where
  returns : ∃ a, (program.run.attempt desk).1 = .ok a
  shallow : ∀ region child, .entered region child ∈ program.trace desk → child.depth ≤ bound

theorem Completes.done (a : α) : (done a).Completes bound desk :=
  ⟨⟨a, rfl⟩, by simp [trace]⟩

theorem Completes.bind {program : Program β} {next : β → Program α}
    (first : program.Completes bound desk)
    (rest : ∀ b, (next b).Completes bound (program.run.attempt desk).2) :
    (program.bind next).Completes bound desk := by
  obtain ⟨b, ended⟩ := first.returns
  constructor
  · obtain ⟨a, returned⟩ := (rest b).returns
    refine ⟨a, ?_⟩
    rw [run_bind, Work.attempt_bind, ← returned]
    cases ran : program.run.attempt desk with
    | mk outcome after =>
      rw [ran] at ended
      simp only at ended
      subst ended
      rfl
  · intro region child happened
    rw [Program.bind, trace_andThen, ended] at happened
    rcases List.mem_append.mp happened with early | late
    · exact first.shallow region child early
    · exact (rest b).shallow region child late

end Program

namespace Rule

variable {config : Config} {registry : Registry} {bound depth : Int} {desk : Desk} {levels : Nat}

theorem completes_cons {rule : Rule} {rest : List Rule}
    (first : (programAt levels rule).Completes bound desk)
    (later : (programEach (programAt levels) rest).Completes bound
      ((programAt levels rule).run.attempt desk).2) :
    (programEach (programAt levels) (rule :: rest)).Completes bound desk :=
  first.bind fun _ => later.bind fun _ => .done _

theorem attempt_single (rule : Rule) (desk : Desk) :
    ((programEach (programAt levels) [rule]).run.attempt desk).2 =
      ((programAt levels rule).run.attempt desk).2 := by
  simp only [programEach, Program.run_bind, Work.attempt_bind]
  cases (programAt levels rule).run.attempt desk with
  | mk outcome after => cases outcome <;> rfl

theorem attempt_find {matcher : Matcher} (checked : matcher.check = .ok ()) (label : String)
    (desk : Desk) : (programAt levels (find matcher label)).run.attempt desk =
      (.ok (matcher.mark desk.studio.config desk.annotator label).2,
        { desk with annotator := (matcher.mark desk.studio.config desk.annotator label).1 }) := by
  rw [run_programAt]
  cases levels <;> simp [applyAt, Work.attempt, Work.search, Matcher.run, checked]

theorem completes_find {matcher : Matcher} (checked : matcher.check = .ok ()) (label : String)
    (desk : Desk) : (programAt levels (find matcher label)).Completes bound desk := by
  refine ⟨⟨_, by rw [attempt_find checked]⟩, fun region child happened => ?_⟩
  have trace : (programAt levels (find matcher label)).trace desk =
      .called desk.annotator (.find matcher label)
          ((Call.find matcher label).run.attempt desk).2.annotator ::
        (counted ((Call.find matcher label).run.attempt desk).1).trace
          ((Call.find matcher label).run.attempt desk).2 := by
    cases levels <;> rfl
  have nothing (outcome : Except Fault Session.Answer) (desk : Desk) :
      (counted outcome).trace desk = [] := by
    unfold counted
    split <;> rfl
  simp [trace, nothing] at happened

/-- A search that is not refused. -/
def isSearch : Rule → Bool
  | find matcher _ => matcher.check.toBool
  | _ => false

theorem check_of_isSearch {matcher : Matcher} {label : String}
    (search : (find matcher label).isSearch = true) : matcher.check = .ok () := by
  cases checked : matcher.check with
  | error fault => simp [isSearch, checked, Except.toBool] at search
  | ok _ => rfl

theorem completes_searches {rules : List Rule} (searches : ∀ rule ∈ rules, rule.isSearch = true)
    (desk : Desk) : (programEach (programAt levels) rules).Completes bound desk := by
  induction rules generalizing desk with
  | nil => exact .done 0
  | cons rule rest ih =>
    obtain ⟨first, later⟩ := List.forall_mem_cons.mp searches
    refine completes_cons ?_ (ih later _)
    cases rule with
    | find matcher label => exact completes_find (check_of_isSearch first) label desk
    | _ => simp [isSearch] at first

theorem completes_inside {target : String} {rules named : List Rule} {grammar : Option String}
    (ready : desk.Ready config registry depth)
    (found : ((rulesOf grammar).attempt desk).1 = .ok named)
    (inner : ∀ region ∈ desk.annotator.marks.withLabel target,
      (∃ top, config.maxDepth.floor? = some top ∧ depth + 1 ≤ top) ∧ depth + 1 ≤ bound ∧
      ∀ child : Desk, child.Ready config registry (depth + 1) →
        child.annotator = desk.annotator.child region.start region.stop →
        (bodyAt levels rules named).Completes bound child) :
    (programAt levels (inside target rules grammar)).Completes bound desk := by
  have regions {visit : Mark × Desk} (visited : visit ∈ Region.visits target
      (bodyAt levels rules named).run (Region.admitted target none desk) desk) :
      depth + 1 ≤ bound ∧ (Region.enter visit.1 visit.2).Ready config registry (depth + 1) ∧
        (bodyAt levels rules named).Completes bound (Region.enter visit.1 visit.2) := by
    obtain ⟨member, child⟩ := ready.child visited
    obtain ⟨entered, _⟩ := ready.enter visited
    obtain ⟨_, low, completes⟩ := inner visit.1 member
    exact ⟨low, entered, completes _ entered child⟩
  rw [programAt_inside]
  constructor
  · rw [run_programRescan _ _ fun _ => rfl, rescanWith_attempt, found]
    simp only [Datum.text?]
    cases ended : ((Region.rescan target none (bodyAt levels rules named).run).attempt desk).1 with
    | ok answers => exact ⟨answers.length, rfl⟩
    | error fault =>
      obtain ⟨nonempty, causes⟩ := Region.rescan_fault ready _ (bodyAt_adds levels rules named) ended
      obtain ⟨region, member⟩ := List.exists_mem_of_ne_nil _ nonempty
      obtain ⟨⟨top, floor, room⟩, _⟩ := inner region member
      simp only [Option.getD_none, floor] at causes
      rcases causes with ⟨unread, _⟩ | ⟨levels, read, above, _⟩ | ⟨visit, visited, raised⟩
      · contradiction
      · obtain rfl := Option.some.inj read
        omega
      · obtain ⟨a, returned⟩ := (regions visited).2.2.returns
        simp [returned] at raised
  · intro region child happened
    obtain ⟨outcome, lookup⟩ := rulesOf_attempt grammar desk.studio.registry
    rw [lookup desk rfl] at found
    simp only at found
    subst found
    rw [programRescan, Program.trace, lookup desk rfl] at happened
    rcases Program.entered_rescan happened with ⟨visit, visited, inside⟩ | after
    · obtain ⟨low, entered, completes⟩ := regions visited
      rcases inside with rfl | within
      · rw [entered.depth]
        exact low
      · exact completes.shallow region child within
    · split at after <;> simp [Program.trace] at after

end Rule

end Highlight
