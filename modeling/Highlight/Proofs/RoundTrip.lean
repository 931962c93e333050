import Highlight.Proofs.Markup

/-! Escaped texts are read back as they were. No form that a character is written in begins another one, and
a form holds no character that could begin one but its first. So a pass over the forms meets each of them
whole, one after another, whatever the text was: it takes its own back and leaves all others to the passes
after it, the last of which decodes references by name. Text that looks like a form begins with a character
that has a form itself, and so it is text again only when nothing more is read. -/
namespace Highlight

namespace Text

/-- A pass that goes from one piece of the text to the next, as each piece is what some character was
written as, works on every piece for itself. -/
theorem substitute_flatMap {rule : Text → Option (Nat × Text)} {read written : Char → Text}
    (step : ∀ c rest, substitute rule 0 (read c ++ rest) = written c ++ substitute rule 0 rest) (text : Text) :
    substitute rule 0 (text.flatMap read) = text.flatMap written := by
  induction text with
  | nil => rfl
  | cons c rest ih => rw [List.flatMap_cons, step, ih, List.flatMap_cons]

theorem substitute_append {rule : Text → Option (Nat × Text)} {passed : Text}
    (missed : ∀ c ∈ passed, ∀ rest, rule (c :: rest) = none) (rest : Text) :
    substitute rule 0 (passed ++ rest) = passed ++ substitute rule 0 rest := by
  induction passed with
  | nil => rfl
  | cons c later ih =>
    obtain ⟨here, behind⟩ := List.forall_mem_cons.mp missed
    rw [List.cons_append, substitute_miss (here _), ih behind, List.cons_append]

theorem replaceAll_append {first : Char} {passed : Text} (missing : first ∉ passed)
    (target written rest : Text) :
    (passed ++ rest).replaceAll (first :: target) written =
      passed ++ rest.replaceAll (first :: target) written := by
  refine substitute_append (fun c member behind => if_neg ?_) rest
  rw [List.isPrefixOf_iff_prefix]
  intro starts
  exact missing ((List.cons_prefix_cons.mp starts).1 ▸ member)

end Text

namespace Entity

theorem decodeFrom_skip (consumed rest : Text) :
    decodeFrom consumed.length (consumed ++ rest) = decodeFrom 0 rest := by
  induction consumed with
  | nil => rfl
  | cons c later ih => simpa [decodeFrom] using ih

theorem decodeFrom_plain {c : Char} (plain : c ≠ '&') (rest : Text) :
    decodeFrom 0 (c :: rest) = (decodeFrom 0 rest).map (c :: ·) := by
  have none : reference? (c :: rest) = .ok none := by
    unfold reference?
    split <;> simp_all
  rw [decodeFrom, none]

theorem readName_append {name : Text} (plain : ∀ c ∈ name, isNameChar c = true) {limit : Nat}
    (short : name.length ≤ limit) (rest : Text) : readName limit (name ++ ';' :: rest) = name := by
  induction name generalizing limit with
  | nil => cases limit <;> rfl
  | cons c later ih =>
    obtain ⟨here, behind⟩ := List.forall_mem_cons.mp plain
    cases limit with
    | zero => contradiction
    | succ limit => rw [List.cons_append, readName, if_pos here, ih behind (Nat.le_of_succ_le_succ short)]

theorem decodeFrom_named {name written : Text} (plain : name.all isNameChar = true)
    (nonempty : name ≠ []) (short : name.length ≤ 32) (known : named? (name ++ [';']) = some written)
    (rest : Text) :
    decodeFrom 0 ('&' :: (name ++ ';' :: rest)) = (decodeFrom 0 rest).map (written ++ ·) := by
  rw [List.all_eq_true] at plain
  -- The longest name is tried first, and it is the whole one.
  have named : nameReference? (name ++ ';' :: rest) = some (name.length + 1 + 1, written) := by
    simp [nameReference?, readName_append plain short, nonempty, startsWithSemicolon, known]
  have found : reference? ('&' :: (name ++ ';' :: rest)) = .ok (some (name.length + 1 + 1, written)) := by
    obtain ⟨c, later, rfl⟩ := List.exists_cons_of_ne_nil nonempty
    have proper : c ≠ '#' := by
      rintro rfl
      exact absurd (plain '#' List.mem_cons_self) (by decide)
    rw [← named, List.cons_append, reference?]
    all_goals simp [proper]
  have behind : decodeFrom (name.length + 1) (name ++ ';' :: rest) = decodeFrom 0 rest := by
    simpa using decodeFrom_skip (name ++ [';']) rest
  rw [decodeFrom, found]
  simp only [Nat.add_sub_cancel, behind]

theorem decode_flatMap {written : Char → Text}
    (step : ∀ c rest, decodeFrom 0 (written c ++ rest) = (decodeFrom 0 rest).map (c :: ·)) (text : Text) :
    decode (text.flatMap written) = .ok text := by
  rw [decode]
  induction text with
  | nil => rfl
  | cons c rest ih => rw [List.flatMap_cons, step, ih, Except.map]

end Entity

namespace Presentation

variable {c d : Char} {kept : List Char}

/-- Characters whose forms are references by name, which the decoder reads. -/
def referenced : List Char := ['&', '<', '>', '"']

/-- Characters whose forms are taken back before that, the last one first. -/
def replaced : List Char := ['\\', ' ', '\n']

def special : List Char := referenced ++ replaced

def openers : List Char := ['&', '<']

theorem mem_special : c ∈ special ↔
    c = '&' ∨ c = '<' ∨ c = '>' ∨ c = '"' ∨ c = '\\' ∨ c = ' ' ∨ c = '\n' := by
  simp [special, referenced, replaced]

theorem openers_subset : openers ⊆ special := by
  simp [openers, special, referenced]

theorem escapeChar_plain (plain : c ∉ special) : escapeChar c = [c] := by
  simp only [mem_special, not_or] at plain
  simp [escapeChar, plain]

theorem escapeChar_form (isSpecial : c ∈ special) :
    ∃ first ∈ openers, escapeChar c = first :: (escapeChar c).tail ∧
      ∀ e ∈ (escapeChar c).tail, e ∉ openers := by
  rcases mem_special.mp isSpecial with rfl | rfl | rfl | rfl | rfl | rfl | rfl <;>
    simp [escapeChar, openers]

/-- No form begins another one. -/
theorem eq_of_form_begins (first : c ∈ special) (second : d ∈ special)
    (begins : escapeChar c <+: escapeChar d) : c = d := by
  rcases mem_special.mp first with rfl | rfl | rfl | rfl | rfl | rfl | rfl <;>
    rcases mem_special.mp second with rfl | rfl | rfl | rfl | rfl | rfl | rfl <;>
    simp [escapeChar] at begins ⊢

/-- The form of a backslash is a reference by name like theirs, though it is taken back earlier. -/
theorem decodeFrom_escapeChar (named : c ∈ '\\' :: referenced) (rest : Text) :
    Entity.decodeFrom 0 (escapeChar c ++ rest) = (Entity.decodeFrom 0 rest).map (c :: ·) := by
  obtain ⟨name, form, plain, nonempty, short, known⟩ : ∃ name, escapeChar c = '&' :: (name ++ [';']) ∧
      name.all Entity.isNameChar = true ∧ name ≠ [] ∧ name.length ≤ 32 ∧
      Entity.named? (name ++ [';']) = some [c] := by
    simp only [referenced, List.mem_cons, List.not_mem_nil, or_false] at named
    refine ⟨(escapeChar c).tail.dropLast, ?_⟩
    rcases named with rfl | rfl | rfl | rfl | rfl <;> decide +kernel
  rw [form, List.cons_append, List.append_assoc, List.singleton_append]
  exact Entity.decodeFrom_named plain nonempty short known rest

theorem replaceAll_form_plain (isSpecial : d ∈ special) {passed : Text} (plain : ∀ e ∈ passed, e ∉ openers)
    (rest : Text) : Text.replaceAll (passed ++ rest) (escapeChar d) [d] =
      passed ++ rest.replaceAll (escapeChar d) [d] := by
  obtain ⟨first, opens, form, _⟩ := escapeChar_form isSpecial
  rw [form]
  exact Text.replaceAll_append (fun member => plain first member opens) _ [d] rest

theorem replaceAll_form_other (isSpecial : d ∈ special) (isOther : c ∈ special) (other : c ≠ d)
    (rest : Text) : Text.replaceAll (escapeChar c ++ rest) (escapeChar d) [d] =
      escapeChar c ++ rest.replaceAll (escapeChar d) [d] := by
  have missed : ¬ escapeChar d <+: escapeChar c ++ rest := by
    -- Of two beginnings of one text the shorter begins the longer.
    intro starts
    rcases List.prefix_or_prefix_of_prefix (List.prefix_append (escapeChar c) rest) starts with first | first
    · exact other (eq_of_form_begins isOther isSpecial first)
    · exact other (eq_of_form_begins isSpecial isOther first).symm
  obtain ⟨first, _, form, plain⟩ := escapeChar_form isOther
  rw [form, List.cons_append] at missed ⊢
  rw [Text.replaceAll_miss missed, replaceAll_form_plain isSpecial plain, List.cons_append]

/-- The character as it is, if it is to be kept, and else as it is written on a page. -/
def escapeBut (kept : List Char) (c : Char) : Text := if c ∈ kept then [c] else escapeChar c

/-- A pass takes its form back wherever it was written, and with it one more character is kept. -/
theorem replaceAll_escapeBut (isSpecial : d ∈ special) (plain : ∀ e ∈ kept, e ∉ openers) (text : Text) :
    Text.replaceAll (text.flatMap (escapeBut kept)) (escapeChar d) [d] =
      text.flatMap (escapeBut (d :: kept)) := by
  refine Text.substitute_flatMap (fun c rest => ?_) text
  change Text.replaceAll (escapeBut kept c ++ rest) (escapeChar d) [d] =
    escapeBut (d :: kept) c ++ rest.replaceAll (escapeChar d) [d]
  by_cases old : c ∈ kept
  · rw [escapeBut, if_pos old, escapeBut, if_pos (List.mem_cons_of_mem d old)]
    exact replaceAll_form_plain isSpecial (by simpa using plain c old) rest
  by_cases same : c = d
  · subst c
    obtain ⟨first, _, form, _⟩ := escapeChar_form isSpecial
    rw [escapeBut, if_neg old, escapeBut, if_pos List.mem_cons_self]
    exact Text.replaceAll_hit (form ▸ List.cons_ne_nil first _) rest
  rw [escapeBut, if_neg old, escapeBut, if_neg (by simp [same, old])]
  by_cases isOther : c ∈ special
  · exact replaceAll_form_other isSpecial isOther same rest
  · rw [escapeChar_plain isOther]
    have passes : c ∉ openers := fun opens => isOther (openers_subset opens)
    exact replaceAll_form_plain isSpecial (by simpa using passes) rest

theorem decode_escapeBut (text : Text) : Entity.decode (text.flatMap (escapeBut replaced)) = .ok text := by
  have apart : ∀ c ∈ referenced, c ∉ replaced := by simp [referenced, replaced]
  refine Entity.decode_flatMap (fun c rest => ?_) text
  by_cases left : c ∈ referenced
  · rw [escapeBut, if_neg (apart c left)]
    exact decodeFrom_escapeChar (List.mem_cons_of_mem _ left) rest
  · have written : escapeBut replaced c = [c] := by
      by_cases kept : c ∈ replaced
      · rw [escapeBut, if_pos kept]
      · rw [escapeBut, if_neg kept, escapeChar_plain (List.not_mem_append left kept)]
    rw [written, List.singleton_append]
    exact Entity.decodeFrom_plain (fun ampersand => left (by simp [ampersand, referenced])) rest

/-- Reading takes back what writing did to any text, also to one that holds forms itself, and in however many
passes it was written. -/
theorem unescape_escape (text : Text) :
    unescape (escape text) = .ok text ∧ unescape (escapeInPasses text) = .ok text := by
  rw [escapeInPasses_eq, and_self]
  have broken : (escape text).replaceAll "<br>".toList ['\n'] = text.flatMap (escapeBut ['\n']) :=
    @replaceAll_escapeBut '\n' [] (by simp [special, replaced]) (by simp) text
  have spaced : Text.replaceAll (text.flatMap (escapeBut ['\n'])) "&nbsp;".toList [' '] =
      text.flatMap (escapeBut [' ', '\n']) :=
    @replaceAll_escapeBut ' ' ['\n'] (by simp [special, replaced]) (by simp [openers]) text
  have slashed : Text.replaceAll (text.flatMap (escapeBut [' ', '\n'])) "&bsol;".toList ['\\'] =
      text.flatMap (escapeBut replaced) :=
    @replaceAll_escapeBut '\\' [' ', '\n'] (by simp [special, replaced]) (by simp [openers]) text
  simp only [unescape, broken, spaced, slashed]
  exact decode_escapeBut text

end Presentation

end Highlight
