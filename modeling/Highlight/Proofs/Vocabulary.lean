import Highlight.Proofs.Joiners
import Highlight.Proofs.Registration
import Highlight.Proofs.Selection

/-! Tables of whole words. A word stands between ends of words exactly where a maximal run of other
characters is the word. Runs are told apart by the ends between them, and behind an end a cluster starts,
unless the run begins with a character that attaches to whatever comes before it. So no two words of a
table compete for a cluster, and the order in which they are searched for does not matter. -/
namespace Highlight

open BreakProperty

namespace Text

/-- A maximal run of characters none of which ends a word. -/
structure IsRun (edge : Char → Prop) (text : Text) (start stop : Nat) : Prop where
  proper : start < stop
  inside : stop ≤ text.length
  plain : ∀ p c, start ≤ p → p < stop → text[p]? = some c → ¬ edge c
  left : start = 0 ∨ ∃ c, text[start - 1]? = some c ∧ edge c
  right : stop = text.length ∨ ∃ c, text[stop]? = some c ∧ edge c

variable {edge : Char → Prop} {text target : Text} {p start stop first last : Nat}

theorem IsRun.stop_lt (run : text.IsRun edge start stop) (other : text.IsRun edge first last)
    (before : start < first) : stop < first := by
  rcases other.left with zero | ⟨c, here, ends⟩
  · omega
  · apply Nat.lt_of_not_le
    intro reaches
    exact run.plain (first - 1) c (by omega) (by omega) here ends

theorem IsRun.stop_le (run : text.IsRun edge start stop) (other : text.IsRun edge start last) :
    last ≤ stop := by
  apply Nat.le_of_not_lt
  intro longer
  rcases run.right with ended | ⟨c, here, ends⟩
  · have := other.inside
    omega
  · exact other.plain stop c (Nat.le_of_lt run.proper) longer here ends

theorem IsRun.stop_eq (run : text.IsRun edge start stop) (other : text.IsRun edge start last) :
    stop = last :=
  Nat.le_antisymm (other.stop_le run) (run.stop_le other)

theorem delimited_iff (nonempty : target ≠ []) (plain : ∀ c ∈ target, ¬ edge c) :
    text.Delimited edge target p ↔
      text.IsRun edge p (p + target.length) ∧ (text.drop p).take target.length = target := by
  have stands_iff_take : text.Stands target p ↔ (text.drop p).take target.length = target := by
    rw [Stands, List.prefix_iff_eq_take]
    exact eq_comm
  constructor
  · rintro ⟨stands, left, right⟩
    have width := List.length_pos_iff.mpr nonempty
    refine ⟨⟨by omega, stands.le nonempty, fun q c low high here => ?_, left, right⟩,
      stands_iff_take.mp stands⟩
    obtain ⟨rest, split⟩ := stands
    have spelled : target[q - p]? = some c := by
      rw [← here, ← @List.getElem?_append_left _ target rest (q - p) (by omega), split, List.getElem?_drop]
      congr 1
      omega
    exact plain c (List.mem_of_getElem? spelled)
  · rintro ⟨run, spelled⟩
    exact ⟨stands_iff_take.mpr spelled, run.left, run.right⟩

def EndsWord (c : Char) : Prop := ({} : Config).isBoundary c = true

instance : DecidablePred EndsWord := fun _ => inferInstanceAs (Decidable (_ = true))

theorem EndsWord.kind {c : Char} (ends : EndsWord c) : ofChar c = control ∨ ofChar c = other := by
  have kinds : (({} : Config).boundary.flatMap String.toList).all
      (fun c => ofChar c = control ∨ ofChar c = other) = true := by
    decide +kernel
  obtain ⟨element, member, inside⟩ := Matcher.isBoundary_iff.mp ends
  simpa using List.all_eq_true.mp kinds c (List.mem_flatMap.mpr ⟨element, member, inside⟩)

/-- A word that can be told from its surroundings: no character of it ends a word, and the first one does
not attach to what stands before it. -/
structure IsWord (word : Text) : Prop where
  nonempty : word ≠ []
  plain : ∀ c ∈ word, ¬ EndsWord c
  leads : ∀ c ∈ word.head?, ofChar c ≠ extend ∧ ofChar c ≠ joiner ∧ ofChar c ≠ spacingMark

instance (word : Text) : Decidable (IsWord word) :=
  decidable_of_iff (word ≠ [] ∧ (word.all fun c => ¬ EndsWord c) = true ∧ (word.head?.all fun c =>
      ofChar c ≠ extend ∧ ofChar c ≠ joiner ∧ ofChar c ≠ spacingMark) = true)
    ⟨fun ⟨nonempty, plain, leads⟩ =>
        ⟨nonempty, by simpa using plain, by simpa [Option.all_eq_true] using leads⟩,
      fun ⟨nonempty, plain, leads⟩ =>
        ⟨nonempty, by simpa using plain, by simpa [Option.all_eq_true] using leads⟩⟩

theorem IsRun.mem_starts (run : text.IsRun EndsWord start stop)
    (leads : ∀ c, text[start]? = some c → ofChar c ≠ extend ∧ ofChar c ≠ joiner ∧ ofChar c ≠ spacingMark) :
    start ∈ Grapheme.starts text := by
  have within : start < text.length := Nat.lt_of_lt_of_le run.proper run.inside
  rw [Grapheme.mem_starts_iff within]
  rcases run.left with zero | ⟨b, before, ends⟩
  · exact .inl zero
  right
  rintro ⟨a, c, there, here, joined⟩
  obtain rfl : b = a := Option.some.inj (before.symm.trans there)
  have plain := run.plain start c (Nat.le_refl start) run.proper here
  rcases joined with ⟨_, rfl⟩ | ⟨settled, _, bond⟩
  · exact plain (by decide +kernel)
  -- What ends a word and is no control character is of no kind that joins with what follows it.
  have other : ofChar b = other := ends.kind.resolve_left settled
  cases bond with
  | leading first => simp [other] at first
  | vowel first => simp [other] at first
  | trailing first => simp [other] at first
  | attached second =>
    obtain ⟨notExtend, notJoiner, notMark⟩ := leads c here
    rcases second with same | same | same
    · exact notExtend same
    · exact notJoiner same
    · exact notMark same
  | prepended first => simp [other] at first
  | emoji first => simp [Grapheme.ofChar_eq_joiner.mpr first] at other
  | flag first => simp [other] at first

def places (text word : Text) : List Nat := text.delimitedOccurrences ({} : Config).isBoundary word

/-- None of the places hides another. -/
theorem mem_places {word : Text} (isWord : IsWord word) : p ∈ text.places word ↔
    text.IsRun EndsWord p (p + word.length) ∧ (text.drop p).take word.length = word := by
  have chosen : Selects (text.Delimited EndsWord word) word.length 0 (text.places word) :=
    delimitedOccurrences_selects _ isWord.nonempty
  have run {q : Nat} (delimited : text.Delimited EndsWord word q) :
      text.IsRun EndsWord q (q + word.length) :=
    ((delimited_iff isWord.nonempty isWord.plain).mp delimited).1
  rw [← delimited_iff isWord.nonempty isWord.plain]
  constructor
  · exact fun member => (chosen.mem member).2
  · intro delimited
    obtain ⟨q, member, low, high⟩ := chosen.covers (Nat.zero_le p) delimited
    rcases Nat.eq_or_lt_of_le low with rfl | before
    · exact member
    · have := (run (chosen.mem member).2).stop_lt (run delimited) before
      omega

end Text

theorem GraphemeIndex.span_apart {text : Text} {start stop bound first last : Nat} (proper : start < stop)
    (before : stop ≤ bound) (behind : bound ≤ first) (later : first < last) (inside : last ≤ text.length)
    (starts : bound ∈ Grapheme.starts text) :
    ((ofText text).span start stop).2 ≤ ((ofText text).span first last).1 := by
  obtain ⟨_, e, range, _, _, _, atStop⟩ := @span_bounds text start stop proper (by omega)
  obtain ⟨s, _, otherRange, _, _, atStart, _⟩ := span_bounds later inside
  obtain ⟨i, here⟩ := List.mem_iff_getElem?.mp starts
  have placed : Grapheme.startAt text i = bound := by simp [Grapheme.startAt, here]
  have low := (atStop i).mpr (by omega)
  have high := (atStart i).mpr (by omega)
  rw [range, otherRange]
  exact Int.ofNat_le.mpr (Nat.le_trans low high)

namespace Text

variable {text word other : Text} {p q : Nat}

theorem mem_starts_of_mem_places (isWord : IsWord word) (member : p ∈ text.places word) :
    p ∈ Grapheme.starts text := by
  obtain ⟨run, spelled⟩ := (mem_places isWord).mp member
  apply run.mem_starts
  intro c here
  apply isWord.leads c
  rw [← spelled, List.head?_take, if_neg (by simpa using isWord.nonempty), List.head?_drop]
  exact here

/-- Two words at different places have no cluster in common. -/
theorem places_apart (isWord : IsWord word) (isOther : IsWord other) (member : p ∈ text.places word)
    (otherMember : q ∈ text.places other) (before : p < q) :
    ((GraphemeIndex.ofText text).span p (p + word.length : Nat)).2 ≤
      ((GraphemeIndex.ofText text).span q (q + other.length : Nat)).1 := by
  have run := ((mem_places isWord).mp member).1
  have otherRun := ((mem_places isOther).mp otherMember).1
  exact GraphemeIndex.span_apart run.proper (Nat.le_of_lt (run.stop_lt otherRun before)) (Nat.le_refl q)
    otherRun.proper otherRun.inside (mem_starts_of_mem_places isOther otherMember)

theorem eq_of_mem_places (isWord : IsWord word) (isOther : IsWord other) (member : p ∈ text.places word)
    (otherMember : p ∈ text.places other) : word = other := by
  obtain ⟨run, spelled⟩ := (mem_places isWord).mp member
  obtain ⟨otherRun, otherSpelled⟩ := (mem_places isOther).mp otherMember
  have width : word.length = other.length := Nat.add_left_cancel (run.stop_eq otherRun)
  rw [← spelled, ← otherSpelled, width]

theorem run_iff (isWord : IsWord word) {start stop : Nat} :
    text.IsRun EndsWord start stop ∧ (text.drop start).take (stop - start) = word ↔
      start ∈ text.places word ∧ stop = start + word.length := by
  rw [mem_places isWord]
  constructor
  · rintro ⟨run, spelled⟩
    have := run.proper
    have := run.inside
    have width : word.length = stop - start := by
      rw [← spelled, List.length_take, List.length_drop]
      omega
    obtain rfl : stop = start + word.length := by omega
    exact ⟨⟨run, by rwa [Nat.add_sub_cancel_left] at spelled⟩, rfl⟩
  · rintro ⟨⟨run, spelled⟩, rfl⟩
    exact ⟨run, by rwa [Nat.add_sub_cancel_left]⟩

end Text

theorem Mark.eq_of_ordered {xs ys : List Mark} (first : xs.Pairwise fun a b => a.stop ≤ b.start)
    (second : ys.Pairwise fun a b => a.stop ≤ b.start) (proper : ∀ mark ∈ xs, mark.start < mark.stop)
    (same : ∀ mark, mark ∈ xs ↔ mark ∈ ys) : xs = ys := by
  have distinct {marks : List Mark} (ordered : marks.Pairwise fun a b => a.stop ≤ b.start)
      (inside : ∀ mark ∈ marks, mark ∈ xs) : marks.Nodup := by
    apply ordered.imp_of_mem
    rintro a b member _ before rfl
    have := proper a (inside a member)
    omega
  have perm : xs.Perm ys := (List.perm_ext_iff_of_nodup (distinct first fun _ => id)
    (distinct second fun mark => (same mark).mpr)).mpr same
  refine perm.eq_of_pairwise (fun a b inFirst inSecond before after => ?_) first second
  have := proper a inFirst
  have := proper b ((same b).mpr inSecond)
  omega

namespace Matcher

variable {a : Annotator} {word : Text} {slack : Int}

/-- A search for a word whose places are free marks every one of them. -/
theorem run_word (sound : a.Sound slack) (isWord : Text.IsWord word) (label : String)
    (free : ∀ p ∈ a.text.places word, ∀ i, (a.index.span p (p + word.length : Nat)).1 ≤ i →
      i < (a.index.span p (p + word.length : Nat)).2 → a.marks.isTaken i = false) :
    ∃ after, (all word true).run {} a label = .ok (after, ((a.text.places word).length : Int)) ∧
      after = { a with marks := after.marks } ∧
      after.marks.marks.Perm (a.marks.marks ++ (a.text.places word).map fun p =>
        a.index.markOver label (p, p + word.length)) := by
  obtain ⟨after, tried, ran, listed, tries⟩ :=
    run_words sound (show ({} : Config).hasBlankBoundary = false by decide +kernel) label isWord.nonempty
  have listed : tried.map (·.1) = a.text.places word := listed
  have member {entry : Nat × Bool} (tested : entry ∈ tried) : entry.1 ∈ a.text.places word :=
    listed ▸ List.mem_map_of_mem tested
  have increasing : tried.Pairwise fun x y => x.1 < y.1 := by
    rw [← List.pairwise_map, listed]
    exact Text.scan_increasing _ _ _ _
  have recorded : ∀ entry ∈ tried, entry.2 = true := by
    apply tries.all_recorded fun entry tested => free entry.1 (member tested)
    apply increasing.imp_of_mem
    intro x y first second before
    have apart := Text.places_apart isWord isWord (member first) (member second) before
    rw [← sound.index] at apart
    exact .inl apart
  refine ⟨after, ?_, tries.same, ?_⟩
  · rw [ran, List.countP_eq_length.mpr recorded, ← listed, List.length_map]
  · rw [← listed]
    exact tries.marks_of_recorded recorded

end Matcher

namespace Rule

/-- A rule that marks a whole word, as grammars have it or as callers ask for it. -/
inductive IsWordRule (word label : String) : Rule → Prop where
  | written : IsWordRule word label (Rule.word label word)
  | asked : IsWordRule word label (.ask { kind := .all, target := .text word } (.text label))

theorem IsWordRule.applyAt {word label : String} {rule : Rule} (isRule : IsWordRule word label rule)
    (levels : Nat) {desk : Desk} (config : desk.studio.config = {}) :
    applyAt levels rule desk = Work.search (.all word.toList true) label desk := by
  cases isRule with
  | written => cases levels <;> rfl
  | asked =>
    have texts : ∀ delimiter ∈ desk.studio.config.delimiters, delimiter.isText = true := by
      rw [config]
      decide
    have asking := Work.ask_request (.all word.toList true) label texts
    rw [← asking]
    simp only [Matcher.request, String.ofList_toList]
    cases levels <;> rfl

structure IsTable (table : Table String String) : Prop where
  distinct : table.keys.Nodup
  words : ∀ entry ∈ table, Text.IsWord entry.1.toList

variable {table order done rest : Table String String} {entry : String × String} {slack : Int}
  {a : Annotator} {desk : Desk}

theorem IsTable.perm (isTable : IsTable table) (same : order.Perm table) : IsTable order where
  distinct := (same.map _).nodup_iff.mpr isTable.distinct
  words := fun entry member => isTable.words entry (same.mem_iff.mp member)

def marksOf (a : Annotator) (table : Table String String) : List Mark :=
  table.flatMap fun entry => (a.text.places entry.1.toList).map fun p =>
    a.index.markOver entry.2 (p, p + entry.1.toList.length)

theorem mem_marksOf {mark : Mark} : mark ∈ marksOf a table ↔
    ∃ entry ∈ table, ∃ p ∈ a.text.places entry.1.toList,
      mark = a.index.markOver entry.2 (p, p + entry.1.toList.length) := by
  simp only [marksOf, List.mem_flatMap, List.mem_map, eq_comm]

theorem marksOf_append (a : Annotator) (done rest : Table String String) :
    marksOf a (done ++ rest) = marksOf a done ++ marksOf a rest := List.flatMap_append

theorem marksOf_singleton (a : Annotator) (entry : String × String) :
    marksOf a [entry] = (a.text.places entry.1.toList).map fun p =>
      a.index.markOver entry.2 (p, p + entry.1.toList.length) := List.flatMap_singleton _ _

/-- Marks over other words leave the places of a word free. -/
theorem places_free (sound : a.Sound slack) (isTable : IsTable (done ++ entry :: rest))
    (marked : a.marks.marks.Perm (marksOf a done)) {p : Nat} (member : p ∈ a.text.places entry.1.toList)
    {i : Int} (low : (a.index.span p (p + entry.1.toList.length : Nat)).1 ≤ i)
    (high : i < (a.index.span p (p + entry.1.toList.length : Nat)).2) : a.marks.isTaken i = false := by
  have isWord := isTable.words entry (by simp)
  rw [Bool.eq_false_iff]
  intro taken
  simp only [MarkStore.isTaken, List.contains_iff_mem] at taken
  obtain ⟨mark, recorded, covers⟩ := (sound.marks.taken i).mp taken
  obtain ⟨earlier, before, q, stands, rfl⟩ := mem_marksOf.mp (marked.mem_iff.mp recorded)
  have isEarlier := isTable.words earlier (List.mem_append_left _ before)
  have different : earlier.1 ≠ entry.1 := by
    have distinct := isTable.distinct
    rw [Table.keys, List.map_append, List.nodup_append] at distinct
    exact distinct.2.2 _ (List.mem_map_of_mem before) _ (by simp)
  simp only [GraphemeIndex.markOver] at covers
  rcases Nat.lt_trichotomy p q with first | same | second
  · have := Text.places_apart isWord isEarlier member stands first
    rw [← sound.index] at this
    omega
  · subst same
    exact different (String.toList_inj.mp (Text.eq_of_mem_places isEarlier isWord stands member))
  · have := Text.places_apart isEarlier isWord stands member second
    rw [← sound.index] at this
    omega

theorem applyEach_cons_ok {step : Rule → Work Int} {rule : Rule} {rules : List Rule} {count total : Int}
    {next last : Desk} (first : step rule desk = .ok count next)
    (later : applyEach step rules next = .ok total last) :
    applyEach step (rule :: rules) desk = .ok (count + total) last := by
  simp only [applyEach, bind, EStateM.bind, first, later]
  rfl

theorem applyEach_words (levels : Nat) {rule : String × String → Rule}
    (isRule : ∀ entry, IsWordRule entry.1 entry.2 (rule entry)) (nonneg : 0 ≤ slack)
    (isTable : IsTable (done ++ table)) (config : desk.studio.config = {})
    (sound : desk.annotator.Sound slack)
    (marked : desk.annotator.marks.marks.Perm (marksOf desk.annotator done)) :
    ∃ after, applyEach (applyAt levels) (table.map rule) desk =
        .ok ((marksOf desk.annotator table).length : Int) { desk with annotator := after } ∧
      after = { desk.annotator with marks := after.marks } ∧ after.marks.Sound ∧
      after.marks.marks.Perm (marksOf desk.annotator (done ++ table)) := by
  induction table generalizing done desk with
  | nil => exact ⟨desk.annotator, rfl, rfl, sound.marks, by simpa using marked⟩
  | cons entry table ih =>
    obtain ⟨next, ran, same, marks⟩ := Matcher.run_word sound (isTable.words entry (by simp)) entry.2
      fun p member i low high => places_free sound isTable marked member low high
    have nextSound : next.Sound slack :=
      sound.grows ((Matcher.run_grows sound.starts_ne_nil ran).loosen nonneg)
    have keeps (table : Table String String) : marksOf next table = marksOf desk.annotator table := by
      rw [same]
      rfl
    have nextMarked : next.marks.marks.Perm (marksOf next (done ++ [entry])) := by
      rw [keeps, marksOf_append, marksOf_singleton]
      exact marks.trans (marked.append_right _)
    have split : done ++ entry :: table = done ++ [entry] ++ table := by simp
    rw [split] at isTable ⊢
    obtain ⟨after, applied, sameLater, afterSound, afterMarks⟩ :=
      @ih (done ++ [entry]) { desk with annotator := next } isTable config nextSound nextMarked
    rw [keeps] at applied afterMarks
    refine ⟨after, ?_, ?_, afterSound, afterMarks⟩
    · have searched : applyAt levels (rule entry) desk =
          .ok ((desk.annotator.text.places entry.1.toList).length : Int)
            { desk with annotator := next } := by
        rw [(isRule entry).applyAt levels config]
        simp only [Work.search, config, ran]
      have count : ((marksOf desk.annotator (entry :: table)).length : Int) =
          (desk.annotator.text.places entry.1.toList).length + (marksOf desk.annotator table).length := by
        simp [marksOf]
      rw [List.map_cons, count]
      exact applyEach_cons_ok searched applied
    · rw [same] at sameLater
      exact sameLater

def Labels (table : Table String String) (text : Text) (run : Nat × Nat) (label : String) : Prop :=
  ∃ word, (word, label) ∈ table ∧ text.IsRun Text.EndsWord run.1 run.2 ∧
    (text.drop run.1).take (run.2 - run.1) = word.toList

theorem IsTable.labels_iff (isTable : IsTable table) {text : Text} {run : Nat × Nat} {label : String} :
    Labels table text run label ↔ ∃ entry ∈ table, entry.2 = label ∧
      run.1 ∈ text.places entry.1.toList ∧ run.2 = run.1 + entry.1.toList.length := by
  constructor
  · rintro ⟨word, member, spelled⟩
    exact ⟨(word, label), member, rfl, (Text.run_iff (isTable.words _ member)).mp spelled⟩
  · rintro ⟨⟨word, _⟩, member, rfl, place⟩
    exact ⟨word, member, (Text.run_iff (isTable.words _ member)).mpr place⟩

def standing? (table : Table String String) (text : Text) (p : Nat) : Option (String × String) :=
  List.find? (fun entry => (text.places entry.1.toList).contains p) table

/-- Since no two words stand at one place, it does not matter which entry is looked at first. -/
theorem IsTable.standing?_eq_some_iff (isTable : IsTable table) {text : Text} {p : Nat} :
    standing? table text p = some entry ↔ entry ∈ table ∧ p ∈ text.places entry.1.toList := by
  have sound {entry : String × String} (found : standing? table text p = some entry) :
      entry ∈ table ∧ p ∈ text.places entry.1.toList :=
    ⟨List.mem_of_find?_eq_some found, by simpa using List.find?_some found⟩
  constructor
  · exact sound
  · rintro ⟨member, stands⟩
    cases found : standing? table text p with
    | none =>
      have missed := List.find?_eq_none.mp found entry member
      simp [stands] at missed
    | some other =>
      obtain ⟨known, there⟩ := sound found
      have word : other.1 = entry.1 := String.toList_inj.mp
        (Text.eq_of_mem_places (isTable.words other known) (isTable.words entry member) there stands)
      have label := Table.find?_of_mem isTable.distinct known
      rw [word, Table.find?_of_mem isTable.distinct member] at label
      exact congrArg some (Prod.ext word (Option.some.inj label).symm)

theorem IsTable.exists_found (isTable : IsTable table) (text : Text) :
    ∃ found : List ((Nat × Nat) × String), (found.Pairwise fun x y => x.1.2 < y.1.1) ∧
      ∀ run label, (run, label) ∈ found ↔ Labels table text run label := by
  have run {p : Nat} {entry : String × String} (found : standing? table text p = some entry) :
      text.IsRun Text.EndsWord p (p + entry.1.toList.length) := by
    obtain ⟨member, stands⟩ := isTable.standing?_eq_some_iff.mp found
    exact ((Text.mem_places (isTable.words entry member)).mp stands).1
  refine ⟨(List.range text.length).filterMap fun p => (standing? table text p).map fun entry =>
    ((p, p + entry.1.toList.length), entry.2), ?_, fun range label => ?_⟩
  · refine List.pairwise_lt_range.filterMap _ fun p q before x foundX y foundY => ?_
    obtain ⟨entry, found, rfl⟩ := Option.map_eq_some_iff.mp foundX
    obtain ⟨other, otherFound, rfl⟩ := Option.map_eq_some_iff.mp foundY
    exact (run found).stop_lt (run otherFound) before
  · rw [List.mem_filterMap, isTable.labels_iff]
    constructor
    · rintro ⟨p, _, token⟩
      obtain ⟨entry, found, same⟩ := Option.map_eq_some_iff.mp token
      obtain ⟨rfl, rfl⟩ := Prod.mk.inj same
      obtain ⟨member, stands⟩ := isTable.standing?_eq_some_iff.mp found
      exact ⟨entry, member, rfl, stands, rfl⟩
    · rintro ⟨entry, member, rfl, stands, stop⟩
      have found := isTable.standing?_eq_some_iff.mpr ⟨member, stands⟩
      have inside := Nat.lt_of_lt_of_le (run found).proper (run found).inside
      exact ⟨range.1, List.mem_range.mpr inside, by rw [found, Option.map_some, ← stop]⟩

/-- The rules run to their end, leave exactly these marks and count them. Nothing else changes. -/
def Leaves (rules : List Rule) (desk : Desk) (marks : List Mark) : Prop :=
  ∃ store : MarkStore, store.marks = marks ∧ applyAll rules desk =
    .ok (marks.length : Int) { desk with annotator := { desk.annotator with marks := store } }

variable {found : List ((Nat × Nat) × String)}

theorem IsTable.mem_marksOf_iff (isTable : IsTable table)
    (labels : ∀ run label, (run, label) ∈ found ↔ Labels table a.text run label) {mark : Mark} :
    mark ∈ marksOf a table ↔ mark ∈ found.map fun token => a.index.markOver token.2 token.1 := by
  rw [mem_marksOf, List.mem_map]
  constructor
  · rintro ⟨entry, member, p, stands, rfl⟩
    exact ⟨((p, p + entry.1.toList.length), entry.2),
      (labels _ _).mpr (isTable.labels_iff.mpr ⟨entry, member, rfl, stands, rfl⟩), rfl⟩
  · rintro ⟨⟨run, label⟩, member, rfl⟩
    obtain ⟨entry, known, rfl, stands, stop⟩ := isTable.labels_iff.mp ((labels run label).mp member)
    exact ⟨entry, known, run.1, stands, by rw [← stop]⟩

theorem IsTable.found_ordered (isTable : IsTable table) (sound : a.Sound slack)
    (apart : found.Pairwise fun x y => x.1.2 < y.1.1)
    (labels : ∀ run label, (run, label) ∈ found ↔ Labels table a.text run label) :
    (found.map fun token => a.index.markOver token.2 token.1).Pairwise fun x y => x.stop ≤ y.start := by
  rw [List.pairwise_map]
  apply apart.imp_of_mem
  rintro ⟨run, label⟩ ⟨later, name⟩ member laterMember before
  obtain ⟨entry, known, _, stands, stop⟩ := isTable.labels_iff.mp ((labels run label).mp member)
  obtain ⟨other, otherKnown, _, otherStands, otherStop⟩ :=
    isTable.labels_iff.mp ((labels later name).mp laterMember)
  have clusters := Text.places_apart (isTable.words entry known) (isTable.words other otherKnown) stands
    otherStands (by simp only at before; omega)
  rw [← stop, ← otherStop, ← sound.index] at clusters
  exact clusters

/-- Rules for the words of a table, in whatever order, leave the marks over the runs that it labels. -/
theorem IsTable.leaves (isTable : IsTable table) (sound : desk.annotator.Sound slack) (nonneg : 0 ≤ slack)
    (unmarked : desk.annotator.marks.marks = []) (config : desk.studio.config = {})
    (apart : found.Pairwise fun x y => x.1.2 < y.1.1)
    (labels : ∀ run label, (run, label) ∈ found ↔ Labels table desk.annotator.text run label)
    {rule : String × String → Rule} (isRule : ∀ entry, IsWordRule entry.1 entry.2 (rule entry))
    (same : order.Perm table) :
    Leaves (order.map rule) desk
      (found.map fun token => desk.annotator.index.markOver token.2 token.1) := by
  obtain ⟨after, applied, kept, afterSound, marks⟩ :=
    @applyEach_words _ [] slack desk (levelsLeft desk) rule isRule nonneg (isTable.perm same) config sound
      (by simp [unmarked, marksOf])
  have listed : after.marks.marks =
      found.map fun token => desk.annotator.index.markOver token.2 token.1 := by
    refine Mark.eq_of_ordered afterSound.ordered (isTable.found_ordered sound apart labels)
      (fun mark member => (afterSound.proper mark member).2) fun mark => ?_
    rw [marks.mem_iff, ← isTable.mem_marksOf_iff labels]
    exact (same.flatMap_right _).mem_iff
  refine ⟨after.marks, listed, ?_⟩
  rw [← listed, marks.length_eq, ← kept]
  exact applied

theorem longestFirst_perm {words : List String} (distinct : words.Nodup) :
    (longestFirst words).Perm words := by
  rw [longestFirst, Order.distinct_eq_self distinct]
  exact Order.sort_perm _ words

theorem mapM_text? (words : List String) : (words.map Datum.text).mapM Datum.text? = some words := by
  induction words with
  | nil => rfl
  | cons word words ih => simp [Datum.text?, ih]

/-- Words of a table under the default settings, searched for in any order in a text without marks: every
maximal run without ends of words that is one of the words gets one mark, over its clusters and with the
label of the word, and there are no other marks. Where all words have one label, lists of keywords and of
operators come to the same. -/
theorem words_any_order (handled : desk.annotator.Handled) (unmarked : desk.annotator.marks.marks = [])
    (config : desk.studio.config = {}) (isTable : IsTable table) :
    ∃ found : List ((Nat × Nat) × String),
      (found.Pairwise fun x y => x.1.2 < y.1.1) ∧
      (∀ run label, (run, label) ∈ found ↔ ∃ word, (word, label) ∈ table ∧
        desk.annotator.text.IsRun Text.EndsWord run.1 run.2 ∧
        (desk.annotator.text.drop run.1).take (run.2 - run.1) = word.toList) ∧
      let marks := found.map fun token => desk.annotator.index.markOver token.2 token.1
      (∀ (rule : String × String → Rule) (order : Table String String),
        (∀ entry, IsWordRule entry.1 entry.2 (rule entry)) → order.Perm table →
          Leaves (order.map rule) desk marks) ∧
      ∀ label, (∀ entry ∈ table, entry.2 = label) →
        Leaves (keywords table.keys label) desk marks ∧
        Leaves (operators table.keys label) desk marks ∧
        (∃ rules, keywordsAs (.list (table.keys.map .text)) (.text label) = .ok rules ∧
          Leaves rules desk marks) ∧
        ∃ rules, operatorsAs (.list (table.keys.map .text)) (.text label) = .ok rules ∧
          Leaves rules desk marks := by
  obtain ⟨slack, some, sound⟩ := handled.sound
  obtain ⟨found, apart, labels⟩ := isTable.exists_found desk.annotator.text
  have leaves {rule : String × String → Rule} {order : Table String String}
      (isRule : ∀ entry, IsWordRule entry.1 entry.2 (rule entry)) (same : order.Perm table) :=
    isTable.leaves sound (by omega) unmarked config apart labels isRule same
  refine ⟨found, apart, labels, fun rule order isRule same => leaves isRule same, fun label one => ?_⟩
  have paired : table.keys.map (fun word => (word, label)) = table := by
    rw [Table.keys, List.map_map]
    conv => rhs; rw [← List.map_id table]
    exact List.map_congr_left fun entry member => Prod.ext rfl (one entry member).symm
  have sorted : ((longestFirst table.keys).map fun word => (word, label)).Perm table := by
    have perm := (longestFirst_perm isTable.distinct).map fun word => (word, label)
    rwa [paired] at perm
  have given := leaves (fun _ => .written) (.of_eq paired)
  have longest := leaves (fun _ => .written) sorted
  have givenAs := leaves (fun _ => .asked) (.of_eq paired)
  have longestAs := leaves (fun _ => .asked) sorted
  rw [List.map_map] at given longest givenAs longestAs
  refine ⟨given, longest, ⟨_, ?_, givenAs⟩, _, ?_, longestAs⟩
  · simp only [keywordsAs, Datum.items?, List.map_map]
    rfl
  · simp only [operatorsAs, Datum.items?, Option.bind_some, mapM_text?]
    rfl

/-- A word that ends with a character to which the blank behind it attaches. -/
def joined : Desk where
  annotator := .create {} "in\u0600 for x".toList (some false)

def joinedWords : Table String String := [("in\u0600", "operator"), ("for", "keyword")]

/-- The blank counts to the first word and still tells it from the second. -/
theorem words_any_order_joined :
    joined.annotator.Handled ∧ joined.annotator.marks.marks = [] ∧ joined.studio.config = {} ∧
    IsTable joinedWords ∧
    Leaves (joinedWords.map fun entry => word entry.2 entry.1) joined
      [⟨0, 3, "operator"⟩, ⟨3, 6, "keyword"⟩] ∧
    Leaves (joinedWords.reverse.map fun entry => word entry.2 entry.1) joined
      [⟨0, 3, "operator"⟩, ⟨3, 6, "keyword"⟩] := by
  have handled : joined.annotator.Handled := .create {} _ _
  have isTable : IsTable joinedWords := ⟨by decide, by decide +kernel⟩
  obtain ⟨found, _, _, leaves, _⟩ := words_any_order handled rfl rfl isTable
  have given := leaves (fun entry => word entry.2 entry.1) joinedWords (fun _ => .written) (.refl _)
  have reversed := leaves (fun entry => word entry.2 entry.1) joinedWords.reverse (fun _ => .written)
    (List.reverse_perm _)
  have marks : (found.map fun token => joined.annotator.index.markOver token.2 token.1) =
      [⟨0, 3, "operator"⟩, ⟨3, 6, "keyword"⟩] := by
    obtain ⟨store, listed, applied⟩ := given
    have evaluated : ((applyAll (joinedWords.map fun entry => word entry.2 entry.1)).attempt
        joined).2.annotator.marks.marks = [⟨0, 3, "operator"⟩, ⟨3, 6, "keyword"⟩] := by
      decide +kernel
    rw [← listed, ← evaluated, Work.attempt, applied]
  rw [marks] at given reversed
  exact ⟨handled, rfl, rfl, isTable, given, reversed⟩

end Rule

end Highlight
