import Highlight.Proofs.Registration

/-! What a lookup answers. A registration writes the name and the aliases of its grammar and clears
nothing, while a lookup reads aliases before names. Two things follow that callers may not expect: a
grammar whose name is an alias of another one is not found under that name, and a grammar that replaces
another one also answers to the aliases of that one. For both it is shown exactly when they happen. -/
namespace Highlight

/-- A word, in any case, is the name of a grammar or one of its aliases. -/
def Grammar.AnswersTo (grammar : Grammar) (word : String) : Prop :=
  lowercaseString word = lowercaseString grammar.name ∨
    lowercaseString word ∈ grammar.aliases.map lowercaseString

instance (grammar : Grammar) (word : String) : Decidable (grammar.AnswersTo word) :=
  inferInstanceAs (Decidable (_ ∨ _))

namespace Registry

variable {registry : Registry} {grammar : Grammar} {source : Grammar → Prop} {word : String}

theorem Sound.find_cases (sound : registry.Sound source) (answer : registry.find word = .ok grammar) :
    registry.grammars.find? (lowercaseString grammar.name) = some grammar ∧
    (lowercaseString word = lowercaseString grammar.name ∨
      registry.aliases.find? (lowercaseString word) = some (lowercaseString grammar.name)) := by
  have stored := find_eq_ok_iff.mp answer
  have name : lowercaseString grammar.name = registry.key word :=
    (sound.named _ (Table.mem_of_find? stored)).2
  rw [name]
  refine ⟨stored, ?_⟩
  cases found : registry.aliases.find? (lowercaseString word) with
  | none => exact .inl (key_of_none found).symm
  | some target => exact .inr (congrArg some (key_of_alias found).symm)

theorem Sound.find_alias (sound : registry.Sound source) {target : String}
    (found : registry.aliases.find? (lowercaseString word) = some target) :
    ∃ grammar, registry.find word = .ok grammar ∧ lowercaseString grammar.name = target := by
  obtain ⟨grammar, answer⟩ := sound.find_known (.inr (Table.mem_keys (Table.mem_of_find? found)))
  have stored := find_eq_ok_iff.mp answer
  rw [key_of_alias found] at stored
  exact ⟨grammar, answer, (sound.named _ (Table.mem_of_find? stored)).2⟩

/-- The name of a grammar is an alias of another one, and the grammar does not take it over. -/
def Shadows (registry : Registry) (grammar : Grammar) : Prop :=
  lowercaseString grammar.name ∉ grammar.aliases.map lowercaseString ∧
    ∃ target, registry.aliases.find? (lowercaseString grammar.name) = some target ∧
      target ≠ lowercaseString grammar.name

theorem find_register (leads : (registry.register grammar).key word = lowercaseString grammar.name) :
    (registry.register grammar).find word = .ok grammar := by
  rw [find_eq_ok_iff, leads]
  exact Table.find?_put_self

theorem find_register_alias (listed : word ∈ grammar.aliases) :
    (registry.register grammar).find word = .ok grammar :=
  find_register (key_of_alias (find?_addAliases (List.mem_map_of_mem listed)))

theorem find_register_name (free : ¬ registry.Shadows grammar) :
    (registry.register grammar).find grammar.name = .ok grammar := by
  apply find_register
  by_cases listed : lowercaseString grammar.name ∈ grammar.aliases.map lowercaseString
  · exact key_of_alias (find?_addAliases listed)
  · have same : (registry.register grammar).aliases.find? (lowercaseString grammar.name) =
        registry.aliases.find? (lowercaseString grammar.name) := find?_addAliases_other listed
    cases found : registry.aliases.find? (lowercaseString grammar.name) with
    | none => exact key_of_none (same.trans found)
    | some target =>
      rw [key_of_alias (same.trans found)]
      apply Classical.byContradiction
      intro different
      exact free ⟨listed, target, found, different⟩

theorem Sound.find_register_shadowed (sound : registry.Sound source)
    (shadowed : registry.Shadows grammar) :
    ∃ other, (registry.register grammar).find grammar.name = .ok other ∧
      registry.find grammar.name = .ok other ∧
      lowercaseString other.name ≠ lowercaseString grammar.name := by
  obtain ⟨unlisted, target, found, different⟩ := shadowed
  obtain ⟨other, answer, name⟩ := sound.find_alias found
  have kept : (registry.register grammar).aliases.find? (lowercaseString grammar.name) =
      some target := (find?_addAliases_other unlisted).trans found
  subst name
  refine ⟨other, ?_, answer, different⟩
  rw [find_eq_ok_iff, key_of_alias kept]
  exact (Table.find?_put_other (Ne.symm different)).trans (sound.find_cases answer).1

/-- In every state a grammar that was just registered is found under each of its aliases, and it is
found under its own name exactly if that is not an alias of another grammar. -/
theorem find_registered (edits : List Edit) (grammar : Grammar) :
    let registry := builtin.run edits
    (∀ word ∈ grammar.aliases, (registry.register grammar).find word = .ok grammar) ∧
    ((registry.register grammar).find grammar.name = .ok grammar ↔ ¬ registry.Shadows grammar) ∧
    (registry.Shadows grammar → ∃ other, (registry.register grammar).find grammar.name = .ok other ∧
      registry.find grammar.name = .ok other ∧
      lowercaseString other.name ≠ lowercaseString grammar.name) := by
  intro registry
  have sound : registry.Sound fun _ => True := run_builtin_sound edits
  refine ⟨fun word listed => find_register_alias listed, ⟨?_, find_register_name⟩,
    sound.find_register_shadowed⟩
  intro answer shadowed
  obtain ⟨other, instead, _, different⟩ := sound.find_register_shadowed shadowed
  have same : grammar = other := Except.ok.inj (answer.symm.trans instead)
  rw [same] at different
  contradiction

def memo : Grammar where
  name := "md"
  rules := []

theorem find_registered_memo :
    (builtin.run []).Shadows memo ∧
    (((builtin.run []).register memo).find memo.name).toOption.map Grammar.name = some "markdown" ∧
    ((builtin.run []).register memo).find memo.name ≠ .ok memo := by
  have unlisted : lowercaseString memo.name ∉ memo.aliases.map lowercaseString := by decide +kernel
  have found : (builtin.run []).aliases.find? (lowercaseString memo.name) = some "markdown" := by
    decide +kernel
  have different : "markdown" ≠ lowercaseString memo.name := by decide +kernel
  have markdown : (((builtin.run []).register memo).find memo.name).toOption.map Grammar.name =
      some "markdown" := by decide +kernel
  refine ⟨⟨unlisted, "markdown", found, different⟩, markdown, fun answer => ?_⟩
  rw [answer] at markdown
  revert markdown
  decide

def Justified (registry : Registry) : Prop :=
  ∀ word grammar, registry.find word = .ok grammar → grammar.AnswersTo word

/-- A grammar lists all aliases that lead to its name; one that repeats the name needs no listing. -/
def InheritedBy (registry : Registry) (grammar : Grammar) : Prop :=
  ∀ shorter, registry.aliases.find? shorter = some (lowercaseString grammar.name) →
    shorter = lowercaseString grammar.name ∨ shorter ∈ grammar.aliases.map lowercaseString

/-- Lookups by name are always justified, so the aliases of the grammars in place decide. -/
theorem Sound.justified_iff (sound : registry.Sound source) :
    registry.Justified ↔ ∀ grammar,
      registry.grammars.find? (lowercaseString grammar.name) = some grammar →
        registry.InheritedBy grammar := by
  constructor
  · intro justified grammar stored shorter found
    obtain ⟨_, _, _, listed⟩ := sound.origin _ (Table.mem_of_find? found)
    obtain ⟨word, _, rfl⟩ := List.mem_map.mp listed
    apply justified word grammar
    rw [find_eq_ok_iff, key_of_alias found]
    exact stored
  · intro inherited word grammar answer
    obtain ⟨stored, name | found⟩ := sound.find_cases answer
    · exact .inl name
    · exact inherited grammar stored _ found

theorem Sound.justified_register_iff (sound : registry.Sound fun _ => True)
    (justified : registry.Justified) :
    (registry.register grammar).Justified ↔ registry.InheritedBy grammar := by
  have next : (registry.register grammar).Sound fun _ => True := sound.register trivial
  rw [next.justified_iff]
  constructor
  · intro inherited shorter found
    by_cases listed : shorter ∈ grammar.aliases.map lowercaseString
    · exact .inr listed
    · exact inherited grammar Table.find?_put_self shorter
        ((find?_addAliases_other listed).trans found)
  · intro inherited other stored shorter found
    by_cases same : lowercaseString grammar.name = lowercaseString other.name
    · have equal : grammar = other := by
        rw [← same] at stored
        exact Option.some.inj (Table.find?_put_self.symm.trans stored)
      subst equal
      by_cases listed : shorter ∈ grammar.aliases.map lowercaseString
      · exact .inr listed
      · exact inherited shorter ((find?_addAliases_other listed).symm.trans found)
    · -- An alias of another grammar is as old as that grammar.
      have unlisted : shorter ∉ grammar.aliases.map lowercaseString := by
        intro listed
        exact same (Option.some.inj ((find?_addAliases listed).symm.trans found))
      exact sound.justified_iff.mp justified other
        ((Table.find?_put_other same).symm.trans stored) shorter
        ((find?_addAliases_other unlisted).symm.trans found)

theorem Sound.justified_unregister (sound : registry.Sound source) (justified : registry.Justified)
    (name : String) : (registry.unregister name).1.Justified := by
  rw [(sound.unregister name).justified_iff]
  rw [sound.justified_iff] at justified
  intro grammar stored shorter found
  simp only [Registry.unregister] at stored found
  split at stored
  next missing =>
    simp only [missing] at found
    exact justified grammar stored shorter found
  next removed present =>
    simp only [present] at found
    exact justified grammar (Table.find?_of_filter sound.names stored) shorter
      (Table.find?_of_filter sound.distinct found)

theorem Sound.inheritedBy_new (sound : registry.Sound source)
    (new : lowercaseString grammar.name ∉ registry.grammars.keys) : registry.InheritedBy grammar := by
  intro shorter found
  exact absurd (sound.targets _ (Table.mem_of_find? found)) new

theorem builtin_justified : builtin.Justified := by
  have empty : Justified {} := by
    intro word grammar found
    simp [find, Table.find?] at found
  have none : Sound (fun _ => True) {} := empty_sound _
  have one : (Registry.register {} Grammar.julia).Sound fun _ => True := none.register trivial
  have two : (Registry.register (Registry.register {} Grammar.julia) Grammar.markdown).Sound
    fun _ => True := one.register trivial
  have first : (Registry.register {} Grammar.julia).Justified :=
    (none.justified_register_iff empty).mpr (none.inheritedBy_new (by decide +kernel))
  have second := (one.justified_register_iff first).mpr
    (one.inheritedBy_new (by decide +kernel : lowercaseString Grammar.markdown.name ∉ _))
  exact (two.justified_register_iff second).mpr (two.inheritedBy_new (by decide +kernel))

/-- A history in which every replacement takes over the aliases keeps the lookups justified. -/
theorem Sound.justified_run (sound : registry.Sound fun _ => True) (justified : registry.Justified)
    {edits : List Edit} (inherited : ∀ before grammar, before ++ [.register grammar] <+: edits →
      (registry.run before).InheritedBy grammar) : (registry.run edits).Justified := by
  induction edits generalizing registry with
  | nil => exact justified
  | cons first rest ih =>
    have later : ∀ before grammar, before ++ [.register grammar] <+: rest →
        ((registry.edit first).run before).InheritedBy grammar := fun before grammar ahead =>
      inherited (first :: before) grammar (List.cons_prefix_cons.mpr ⟨rfl, ahead⟩)
    cases first with
    | register grammar =>
      have now : registry.InheritedBy grammar := inherited [] grammar (by simp)
      exact ih (sound.register trivial) ((sound.justified_register_iff justified).mpr now) later
    | unregister name => exact ih (sound.unregister name) (sound.justified_unregister justified name) later

theorem Sound.find_traced (sound : registry.Sound source) (answer : registry.find word = .ok grammar) :
    ∃ earlier, source earlier ∧ lowercaseString earlier.name = lowercaseString grammar.name ∧
      earlier.AnswersTo word := by
  obtain ⟨stored, name | found⟩ := sound.find_cases answer
  · exact ⟨grammar, (sound.named _ (Table.mem_of_find? stored)).1, rfl, .inl name⟩
  · obtain ⟨earlier, registered, name, listed⟩ := sound.origin _ (Table.mem_of_find? found)
    exact ⟨earlier, registered, name, .inr listed⟩

def Registered (edits : List Edit) (grammar : Grammar) : Prop :=
  grammar ∈ [Grammar.julia, Grammar.markdown, Grammar.toml] ∨ .register grammar ∈ edits

/-- Every lookup is justified by a grammar that the history registered under the name of the answer. That
is the answer itself, throughout a history, exactly if each registration in it lists the aliases that
lead to its name at that moment. -/
theorem lookups_justified_iff (edits : List Edit) :
    (∀ word grammar, (builtin.run edits).find word = .ok grammar →
      ∃ earlier, Registered edits earlier ∧
        lowercaseString earlier.name = lowercaseString grammar.name ∧ earlier.AnswersTo word) ∧
    ((∀ before, before <+: edits → (builtin.run before).Justified) ↔
      ∀ before grammar, before ++ [.register grammar] <+: edits →
        (builtin.run before).InheritedBy grammar) := by
  have traced : (builtin.run edits).Sound (Registered edits) :=
    (builtin_sound fun _ => .inl).run fun _ => .inr
  refine ⟨fun word grammar answer => traced.find_traced answer, ?_, ?_⟩
  · intro justified before grammar ahead
    have last : (builtin.run (before ++ [.register grammar])).Justified := justified _ ahead
    rw [run, List.foldl_append] at last
    exact ((run_builtin_sound before).justified_register_iff
      (justified before ((List.prefix_append before _).trans ahead))).mp last
  · intro inherited before ahead
    apply (builtin_sound fun _ _ => trivial).justified_run builtin_justified
    intro earlier grammar within
    exact inherited earlier grammar (within.trans ahead)

/-- A grammar that replaces the built-in Julia and lists no alias. -/
def plainJulia : Grammar where
  name := "Julia"
  rules := []

theorem lookups_justified_plainJulia :
    (builtin.run [.register plainJulia]).find "JL" = .ok plainJulia ∧ ¬ plainJulia.AnswersTo "JL" ∧
    ¬ (builtin.run []).InheritedBy plainJulia := by
  have answer : (builtin.run [.register plainJulia]).find "JL" = .ok plainJulia :=
    find_register (by decide +kernel)
  have foreign : ¬ plainJulia.AnswersTo "JL" := by decide +kernel
  refine ⟨answer, foreign, fun inherited => ?_⟩
  have left : "jl" = lowercaseString plainJulia.name ∨
      "jl" ∈ plainJulia.aliases.map lowercaseString := inherited "jl" (by decide +kernel)
  revert left
  decide +kernel

end Registry

end Highlight
