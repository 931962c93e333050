import Highlight.Proofs.RoundTrip

/-! Normalization of escaped texts. The forms that input decodes and those that a page shows come from two
tables. Where the tables meet, they meet in whole forms with one meaning: no form of the one begins a
different form of the other, and a form holds no character that could begin one but its first. So the single
pass goes from one escaped character to the next. It takes back blanks, line ends and angle brackets and
leaves the other forms as they are, whatever the text looked like before it was escaped. -/
namespace Highlight.Presentation

variable {c : Char} {rest : Text} {forms : List (Text × Text)}

theorem firstForm_eq_none (missed : ∀ entry ∈ forms, ¬ entry.1 <+: rest) : firstForm rest forms = none := by
  induction forms with
  | nil => rfl
  | cons entry later ih =>
    obtain ⟨here, behind⟩ := List.forall_mem_cons.mp missed
    rw [firstForm, if_neg (by simpa using here), ih behind]

theorem firstForm_eq_some {entry : Text × Text} (member : entry ∈ forms) (begins : entry.1 <+: rest)
    (only : ∀ other ∈ forms, other.1 <+: rest → other = entry) :
    firstForm rest forms = some (entry.1.length, entry.2) := by
  induction forms with
  | nil => simp at member
  | cons head later ih =>
    obtain ⟨here, behind⟩ := List.forall_mem_cons.mp only
    rw [firstForm]
    by_cases first : head.1 <+: rest
    · rw [if_pos (List.isPrefixOf_iff_prefix.mpr first), here first]
    · have inLater : entry ∈ later :=
        (List.mem_cons.mp member).resolve_left fun same => first (same ▸ begins)
      rw [if_neg (by simpa using first), ih inLater behind]

theorem firstForm_plain (plain : c ∉ openers) (rest : Text) : firstForm (c :: rest) inputForms = none := by
  have opened : ∀ entry ∈ inputForms, ∃ first ∈ openers, entry.1.head? = some first := by
    simp [inputForms, openers]
  refine firstForm_eq_none fun entry member begins => ?_
  obtain ⟨first, opens, head⟩ := opened entry member
  obtain ⟨later, form⟩ := List.head?_eq_some_iff.mp head
  rw [form] at begins
  exact plain ((List.cons_prefix_cons.mp begins).1 ▸ opens)

/-- Of a form of input and a form of a page neither begins the other, unless both are the same form for the
same character. -/
theorem inputForms_apart (isSpecial : c ∈ special) : ∀ entry ∈ inputForms,
    entry.1 <+: escapeChar c ∨ escapeChar c <+: entry.1 → entry = (escapeChar c, [c]) := by
  rcases mem_special.mp isSpecial with rfl | rfl | rfl | rfl | rfl | rfl | rfl <;>
    simp [escapeChar, inputForms]

/-- What input makes of a character that was escaped: the forms of `&`, `"` and `\` are not decoded. -/
def residue (c : Char) : Text :=
  if c == '&' then "&amp;".toList
  else if c == '"' then "&quot;".toList
  else if c == '\\' then "&bsol;".toList
  else [c]

def unread : List Char := ['&', '"', '\\']

theorem unread_subset : unread ⊆ special := by
  simp [unread, mem_special]

theorem residue_unread (isUnread : c ∈ unread) : residue c = escapeChar c := by
  simp only [unread, List.mem_cons, List.not_mem_nil, or_false] at isUnread
  rcases isUnread with rfl | rfl | rfl <;> simp [residue, escapeChar]

theorem residue_read (isRead : c ∉ unread) : residue c = [c] := by
  simp only [unread, List.mem_cons, List.not_mem_nil, or_false, not_or] at isRead
  simp [residue, isRead]

theorem mem_inputForms (isSpecial : c ∈ special) : (escapeChar c, [c]) ∈ inputForms ↔ c ∉ unread := by
  rcases mem_special.mp isSpecial with rfl | rfl | rfl | rfl | rfl | rfl | rfl <;>
    simp [escapeChar, inputForms, unread]

theorem normalize_escapeChar (c : Char) (rest : Text) :
    normalize (escapeChar c ++ rest) = residue c ++ normalize rest := by
  by_cases isSpecial : c ∈ special
  · obtain ⟨first, _, form, plain⟩ := escapeChar_form isSpecial
    have only : ∀ entry ∈ inputForms, entry.1 <+: escapeChar c ++ rest → entry = (escapeChar c, [c]) := by
      intro entry member begins
      apply inputForms_apart isSpecial entry member
      exact List.prefix_or_prefix_of_prefix begins (List.prefix_append (escapeChar c) rest)
    by_cases isUnread : c ∈ unread
    · have missed : firstForm (escapeChar c ++ rest) inputForms = none :=
        firstForm_eq_none fun entry member begins =>
          (mem_inputForms isSpecial).mp (only entry member begins ▸ member) isUnread
      rw [residue_unread isUnread, normalize]
      rw [form, List.cons_append] at missed ⊢
      rw [Text.substitute_miss missed, List.cons_append]
      exact congrArg (first :: ·)
        (Text.substitute_append (fun e member => firstForm_plain (plain e member)) rest)
    · have known := (mem_inputForms isSpecial).mpr isUnread
      rw [residue_read isUnread]
      exact Text.substitute_hit (form ▸ List.cons_ne_nil first _)
        (firstForm_eq_some known (List.prefix_append (escapeChar c) rest) only)
  · have plain : c ∉ openers := fun opens => isSpecial (openers_subset opens)
    rw [escapeChar_plain isSpecial, residue_read fun isUnread => isSpecial (unread_subset isUnread)]
    exact Text.substitute_append (by simpa using firstForm_plain plain) rest

theorem normalize_escape_eq (text : Text) : normalize (escape text) = text.flatMap residue :=
  Text.substitute_flatMap normalize_escapeChar text

/-- All that is left to decode are references, and decoding them gives the text. -/
theorem decode_residue (text : Text) : Entity.decode (text.flatMap residue) = .ok text := by
  refine Entity.decode_flatMap (fun c rest => ?_) text
  by_cases isUnread : c ∈ unread
  · rw [residue_unread isUnread]
    refine decodeFrom_escapeChar ?_ rest
    simp only [unread, List.mem_cons, List.not_mem_nil, or_false] at isUnread
    rcases isUnread with rfl | rfl | rfl <;> simp [referenced]
  · rw [residue_read isUnread, List.singleton_append]
    exact Entity.decodeFrom_plain (fun ampersand => isUnread (by simp [ampersand, unread])) rest

/-- Normalization of an escaped text restores all of it but ampersands, double quotes and backslashes, which
keep their forms. A reference that was text before stays text: its ampersand is escaped, and what stands in
and around it is decoded as if it stood alone. -/
theorem normalize_escape (text : Text) :
    normalize (escape text) = text.flatMap residue ∧
    normalize (escapeInPasses text) = text.flatMap residue ∧
    (∀ before literal behind, normalize (escape (before ++ '&' :: literal ++ behind)) =
      normalize (escape before) ++ "&amp;".toList ++ normalize (escape literal) ++
        normalize (escape behind)) ∧
    Entity.decode (normalize (escape text)) = .ok text := by
  rw [escapeInPasses_eq, normalize_escape_eq]
  refine ⟨rfl, rfl, fun before literal behind => ?_, decode_residue text⟩
  simp [normalize_escape_eq, residue]

end Highlight.Presentation
