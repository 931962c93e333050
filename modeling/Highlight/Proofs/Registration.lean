import Highlight.Grammar.Registry

/-! Histories of a registry. Whatever is registered and removed, in whatever order, grammars stand under
their own names and aliases lead to registered names. So a word is found exactly if it is a name or an
alias, and a registration under new words is undone by its removal. -/
namespace Highlight.Table

variable {κ : Type u} {ν : Type v} {table : Table κ ν} {key other : κ} {value : ν}

theorem mem_keys {entry : κ × ν} (member : entry ∈ table) : entry.1 ∈ table.keys :=
  List.mem_map_of_mem member

variable [BEq κ] [LawfulBEq κ]

theorem find?_put_self : (table.put key value).find? key = some value := by
  induction table with
  | nil => simp [put, find?]
  | cons entry rest ih =>
    simp only [put]
    split
    next same => simp [find?, same]
    next different => simp [find?, different, ih]

theorem find?_put_other (different : key ≠ other) :
    (table.put key value).find? other = table.find? other := by
  induction table with
  | nil => simp [put, find?, different]
  | cons entry rest ih =>
    simp only [put]
    split
    next same =>
      have apart : entry.1 ≠ other := fun equal => different ((eq_of_beq same).symm.trans equal)
      simp [find?, apart]
    next => simp only [find?, ih]

theorem mem_keys_put : other ∈ (table.put key value).keys ↔ other = key ∨ other ∈ table.keys := by
  induction table with
  | nil => simp [put, keys]
  | cons entry rest ih =>
    simp only [put]
    split
    next same =>
      have equal := eq_of_beq same
      simp [keys, equal]
    next =>
      simp only [keys, List.map_cons, List.mem_cons] at ih ⊢
      rw [ih]
      exact or_left_comm

theorem mem_put {entry : κ × ν} (member : entry ∈ table.put key value) :
    entry = (key, value) ∨ entry ∈ table := by
  induction table with
  | nil => exact .inl (List.mem_singleton.mp member)
  | cons head rest ih =>
    simp only [put] at member
    split at member
    next same =>
      rcases List.mem_cons.mp member with rfl | later
      · exact .inl (Prod.ext (eq_of_beq same) rfl)
      · exact .inr (List.mem_cons_of_mem head later)
    next =>
      rcases List.mem_cons.mp member with rfl | later
      · exact .inr List.mem_cons_self
      · exact (ih later).imp_right (List.mem_cons_of_mem head)

theorem find?_eq_none_iff : table.find? key = none ↔ key ∉ table.keys := by
  induction table with
  | nil => simp [find?, keys]
  | cons entry rest ih =>
    simp only [find?]
    split
    next same => simp [keys, eq_of_beq same]
    next different =>
      have apart : key ≠ entry.1 := fun equal => different (beq_iff_eq.mpr equal.symm)
      rw [ih]
      simp [keys, apart]

theorem mem_of_find? (found : table.find? key = some value) : (key, value) ∈ table := by
  induction table with
  | nil => simp [find?] at found
  | cons entry rest ih =>
    simp only [find?] at found
    split at found
    next same =>
      have equal : entry = (key, value) := Prod.ext (eq_of_beq same) (Option.some.inj found)
      exact equal ▸ List.mem_cons_self
    next => exact List.mem_cons_of_mem entry (ih found)

theorem find?_of_mem (distinct : table.keys.Nodup) (member : (key, value) ∈ table) :
    table.find? key = some value := by
  induction table with
  | nil => simp at member
  | cons entry rest ih =>
    obtain ⟨new, distinct⟩ := List.nodup_cons.mp distinct
    rcases List.mem_cons.mp member with rfl | later
    · simp [find?]
    · have apart : entry.1 ≠ key := by
        rintro rfl
        have known := mem_keys later
        exact new known
      simp only [find?, beq_iff_eq, apart, if_false]
      exact ih distinct later

theorem find?_of_filter (distinct : table.keys.Nodup) {keep : κ × ν → Bool}
    (found : Table.find? key (table.filter keep) = some value) : table.find? key = some value :=
  find?_of_mem distinct (List.mem_filter.mp (mem_of_find? found)).1

theorem nodup_keys_put (distinct : table.keys.Nodup) : (table.put key value).keys.Nodup := by
  induction table with
  | nil => simp [put, keys]
  | cons entry rest ih =>
    obtain ⟨new, later⟩ := List.nodup_cons.mp distinct
    simp only [put]
    split
    next => exact distinct
    next different =>
      refine List.nodup_cons.mpr ⟨fun member => ?_, ih later⟩
      rcases mem_keys_put.mp member with equal | old
      · exact different (beq_iff_eq.mpr equal)
      · exact new old

/-- What is filtered out anyway may be written over. -/
theorem filter_put {keep : κ × ν → Bool} (written : keep (key, value) = false)
    (overwritten : ∀ entry ∈ table, entry.1 = key → keep entry = false) :
    (table.put key value).filter keep = table.filter keep := by
  induction table with
  | nil => simp [put, written]
  | cons entry rest ih =>
    simp only [put]
    split
    next same =>
      have equal := eq_of_beq same
      have dropped := overwritten entry List.mem_cons_self equal
      simp [equal, written, dropped]
    next =>
      have later := ih fun other member => overwritten other (List.mem_cons_of_mem entry member)
      simp only [List.filter_cons, later]

end Highlight.Table

namespace Highlight.Registry

variable {registry : Registry} {grammar : Grammar} {source : Grammar → Prop} {word : String}

inductive Edit where
  | register (grammar : Grammar)
  | unregister (name : String)

def edit (registry : Registry) : Edit → Registry
  | .register grammar => registry.register grammar
  | .unregister name => (registry.unregister name).1

def run (registry : Registry) (edits : List Edit) : Registry := edits.foldl edit registry

/-- A word, in any case, is a registered name or an alias. -/
def Knows (registry : Registry) (word : String) : Prop :=
  lowercaseString word ∈ registry.grammars.keys ∨ lowercaseString word ∈ registry.aliases.keys

instance (registry : Registry) (word : String) : Decidable (registry.Knows word) :=
  inferInstanceAs (Decidable (_ ∨ _))

/-- What every history keeps, where `source` tells the grammars that were ever registered. -/
structure Sound (source : Grammar → Prop) (registry : Registry) : Prop where
  named : ∀ entry ∈ registry.grammars, source entry.2 ∧ lowercaseString entry.2.name = entry.1
  targets : ∀ entry ∈ registry.aliases, entry.2 ∈ registry.grammars.keys
  origin : ∀ entry ∈ registry.aliases, ∃ grammar, source grammar ∧
    lowercaseString grammar.name = entry.2 ∧ entry.1 ∈ grammar.aliases.map lowercaseString
  names : registry.grammars.keys.Nodup
  distinct : registry.aliases.keys.Nodup

theorem mem_addAliases {name : String} {aliases : List String} {table : Table String String}
    {entry : String × String} (member : entry ∈ addAliases name aliases table) :
    (entry.1 ∈ aliases.map lowercaseString ∧ entry.2 = name) ∨ entry ∈ table := by
  induction aliases generalizing table with
  | nil => exact .inr member
  | cons first rest ih =>
    rcases ih member with ⟨listed, target⟩ | earlier
    · exact .inl ⟨List.mem_cons_of_mem _ listed, target⟩
    · rcases Table.mem_put earlier with rfl | old
      · exact .inl ⟨List.mem_cons_self, rfl⟩
      · exact .inr old

theorem nodup_addAliases (name : String) (aliases : List String) {table : Table String String}
    (distinct : table.keys.Nodup) : (addAliases name aliases table).keys.Nodup := by
  induction aliases generalizing table with
  | nil => exact distinct
  | cons first rest ih => exact ih (Table.nodup_keys_put distinct)

theorem find?_addAliases_other {name key : String} {aliases : List String}
    {table : Table String String} (unlisted : key ∉ aliases.map lowercaseString) :
    (addAliases name aliases table).find? key = table.find? key := by
  induction aliases generalizing table with
  | nil => rfl
  | cons first rest ih =>
    obtain ⟨different, later⟩ := not_or.mp (mt List.mem_cons.mpr unlisted)
    exact (ih later).trans (Table.find?_put_other (Ne.symm different))

theorem find?_addAliases {name key : String} {aliases : List String} {table : Table String String}
    (listed : key ∈ aliases.map lowercaseString) :
    (addAliases name aliases table).find? key = some name := by
  induction aliases generalizing table with
  | nil => simp at listed
  | cons first rest ih =>
    by_cases later : key ∈ rest.map lowercaseString
    · exact ih later
    · have first : key = lowercaseString first :=
        (List.mem_cons.mp listed).resolve_right later
      subst first
      exact (find?_addAliases_other later).trans Table.find?_put_self

/-- Filtering out one name makes up for aliases of that name that were not in use. -/
theorem filter_addAliases {name : String} {aliases : List String} {table : Table String String}
    (unused : ∀ entry ∈ table, entry.1 ∈ aliases.map lowercaseString → entry.2 = name) :
    (addAliases name aliases table).filter (fun entry => !(entry.2 == name)) =
      table.filter (fun entry => !(entry.2 == name)) := by
  induction aliases generalizing table with
  | nil => rfl
  | cons first rest ih =>
    have written : (table.put (lowercaseString first) name).filter (fun entry => !(entry.2 == name)) =
        table.filter (fun entry => !(entry.2 == name)) := by
      apply Table.filter_put
      · simp
      · intro entry member same
        simp [unused entry member (same ▸ List.mem_cons_self)]
    refine Eq.trans (ih ?_) written
    intro entry member listed
    rcases Table.mem_put member with rfl | old
    · rfl
    · exact unused entry old (List.mem_cons_of_mem _ listed)

theorem empty_sound (source : Grammar → Prop) : Sound source {} := by
  constructor
  · simp
  · simp
  · simp
  · exact List.nodup_nil
  · exact List.nodup_nil

theorem Sound.register (sound : registry.Sound source) (allowed : source grammar) :
    (registry.register grammar).Sound source := by
  constructor
  · intro entry member
    rcases Table.mem_put member with rfl | old
    · exact ⟨allowed, rfl⟩
    · exact sound.named entry old
  · intro entry member
    apply Table.mem_keys_put.mpr
    rcases mem_addAliases member with ⟨_, target⟩ | old
    · exact .inl target
    · exact .inr (sound.targets entry old)
  · intro entry member
    rcases mem_addAliases member with ⟨listed, target⟩ | old
    · exact ⟨grammar, allowed, target.symm, listed⟩
    · exact sound.origin entry old
  · exact Table.nodup_keys_put sound.names
  · exact nodup_addAliases _ _ sound.distinct

theorem Sound.unregister (sound : registry.Sound source) (name : String) :
    (registry.unregister name).1.Sound source := by
  simp only [Registry.unregister]
  split
  next => exact sound
  next =>
    constructor
    · intro entry member
      exact sound.named entry (List.mem_filter.mp member).1
    · intro entry member
      obtain ⟨old, kept⟩ := List.mem_filter.mp member
      obtain ⟨stored, there, same⟩ := List.mem_map.mp (sound.targets entry old)
      rw [← same] at kept ⊢
      exact List.mem_map_of_mem (List.mem_filter.mpr ⟨there, kept⟩)
    · intro entry member
      exact sound.origin entry (List.mem_filter.mp member).1
    · exact sound.names.sublist (List.filter_sublist.map Prod.fst)
    · exact sound.distinct.sublist (List.filter_sublist.map Prod.fst)

/-- Every history keeps a registry sound. -/
theorem Sound.run (sound : registry.Sound source) {edits : List Edit}
    (allowed : ∀ grammar, .register grammar ∈ edits → source grammar) :
    (registry.run edits).Sound source := by
  induction edits generalizing registry with
  | nil => exact sound
  | cons first rest ih =>
    have later := fun grammar member => allowed grammar (List.mem_cons_of_mem first member)
    cases first with
    | register grammar => exact ih (sound.register (allowed grammar List.mem_cons_self)) later
    | unregister name => exact ih (sound.unregister name) later

theorem builtin_sound (known : ∀ grammar ∈ [Grammar.julia, Grammar.markdown, Grammar.toml],
    source grammar) : builtin.Sound source := by
  have first := (empty_sound source).register (known Grammar.julia (by simp))
  have second := first.register (known Grammar.markdown (by simp))
  exact second.register (known Grammar.toml (by simp))

theorem run_builtin_sound (edits : List Edit) : (builtin.run edits).Sound fun _ => True :=
  (builtin_sound fun _ _ => trivial).run fun _ _ => trivial

theorem find_eq_ok_iff :
    registry.find word = .ok grammar ↔ registry.grammars.find? (registry.key word) = some grammar := by
  unfold find
  cases registry.grammars.find? (registry.key word) <;> simp

theorem key_of_alias {target : String}
    (found : registry.aliases.find? (lowercaseString word) = some target) :
    registry.key word = target := by
  simp [key, found]

theorem key_of_none (unused : registry.aliases.find? (lowercaseString word) = none) :
    registry.key word = lowercaseString word := by
  simp [key, unused]

theorem Sound.find_known (sound : registry.Sound source) (known : registry.Knows word) :
    ∃ grammar, registry.find word = .ok grammar := by
  have registered : registry.key word ∈ registry.grammars.keys := by
    cases found : registry.aliases.find? (lowercaseString word) with
    | none =>
      rw [key_of_none found]
      exact known.resolve_right (Table.find?_eq_none_iff.mp found)
    | some target =>
      rw [key_of_alias found]
      exact sound.targets _ (Table.mem_of_find? found)
  cases found : registry.grammars.find? (registry.key word) with
  | none => exact absurd registered (Table.find?_eq_none_iff.mp found)
  | some grammar => exact ⟨grammar, find_eq_ok_iff.mpr found⟩

theorem find_unknown (unknown : ¬ registry.Knows word) :
    registry.find word = .error (.unknownGrammar word registry.available) := by
  obtain ⟨noName, noAlias⟩ := not_or.mp unknown
  have same := key_of_none (Table.find?_eq_none_iff.mpr noAlias)
  simp [find, same, Table.find?_eq_none_iff.mpr noName]

/-- A registration under new words is undone by its removal. -/
theorem Sound.unregister_register (sound : registry.Sound source)
    (new : ∀ word ∈ grammar.name :: grammar.aliases, ¬ registry.Knows word) :
    (registry.register grammar).unregister grammar.name = (registry, some grammar) := by
  have noName : lowercaseString grammar.name ∉ registry.grammars.keys := fun name =>
    new grammar.name List.mem_cons_self (.inl name)
  have grammars : (registry.grammars.put (lowercaseString grammar.name) grammar).erase
      (lowercaseString grammar.name) = registry.grammars := by
    rw [Table.erase, Table.filter_put (by simp) (by simp), List.filter_eq_self]
    intro entry member
    have different : entry.1 ≠ lowercaseString grammar.name := fun same =>
      noName (same ▸ Table.mem_keys member)
    simp [different]
  have aliases : (addAliases (lowercaseString grammar.name) grammar.aliases registry.aliases).filter
      (fun entry => !(entry.2 == lowercaseString grammar.name)) = registry.aliases := by
    rw [filter_addAliases, List.filter_eq_self]
    · intro entry member
      have different : entry.2 ≠ lowercaseString grammar.name := fun same =>
        noName (same ▸ sound.targets entry member)
      simp [different]
    · intro entry member listed
      obtain ⟨word, inside, same⟩ := List.mem_map.mp listed
      have used : lowercaseString word ∈ registry.aliases.keys :=
        same ▸ Table.mem_keys member
      exact absurd (.inr used) (new word (List.mem_cons_of_mem _ inside))
  simp [Registry.unregister, Registry.register, Table.find?_put_self, grammars, aliases]

/-- After every history the two tables fit together: aliases lead to names, lookup finds exactly names
and aliases, and a new grammar leaves no trace once it is removed. -/
theorem run_consistent (edits : List Edit) :
    let registry := builtin.run edits
    (∀ entry ∈ registry.aliases, entry.2 ∈ registry.grammars.keys) ∧
    (∀ word, ((∃ grammar, registry.find word = .ok grammar) ↔ registry.Knows word) ∧
      (¬ registry.Knows word →
        registry.find word = .error (.unknownGrammar word registry.available))) ∧
    ∀ grammar : Grammar, (∀ word ∈ grammar.name :: grammar.aliases, ¬ registry.Knows word) →
      (registry.register grammar).unregister grammar.name = (registry, some grammar) := by
  intro registry
  have sound : registry.Sound fun _ => True := run_builtin_sound edits
  refine ⟨sound.targets, fun word => ⟨⟨?_, sound.find_known⟩, find_unknown⟩, fun grammar new =>
    sound.unregister_register new⟩
  rintro ⟨grammar, found⟩
  apply Classical.byContradiction
  intro unknown
  rw [find_unknown unknown] at found
  contradiction

/-- Its aliases repeat its own name and each other, and one of them was the name of a grammar that is
gone. -/
def settings : Grammar where
  name := "Ini"
  rules := []
  aliases := ["CFG", "cfg", "ini", "toml"]

theorem run_consistent_settings :
    (∀ word ∈ settings.name :: settings.aliases, ¬ (builtin.run [.unregister "TOML"]).Knows word) ∧
    ((builtin.run [.unregister "TOML"]).register settings).unregister "Ini" =
      (builtin.run [.unregister "TOML"], some settings) := by
  have new : ∀ word ∈ settings.name :: settings.aliases,
      ¬ (builtin.run [.unregister "TOML"]).Knows word := by decide +kernel
  exact ⟨new, (run_consistent [.unregister "TOML"]).2.2 settings new⟩

end Highlight.Registry
