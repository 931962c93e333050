import Highlight.Order
import Mathlib.Data.List.Sort

/-! Stable insertion as insertion into an ordered list. What is known of `List.orderedInsert` and
`List.insertionSort` then holds of `insert` and `sort`, with "not below" as the relation. -/
namespace Highlight.Order

theorem insert_eq_orderedInsert (below : α → α → Bool) (x : α) (list : List α) :
    insert below x list = list.orderedInsert (fun a b => below b a = false) x := by
  induction list with
  | nil => rfl
  | cons y rest ih => cases under : below y x <;> simp [insert, under, ih]

theorem sort_eq_insertionSort (below : α → α → Bool) (list : List α) :
    sort below list = list.insertionSort fun a b => below b a = false := by
  induction list with
  | nil => rfl
  | cons x rest ih => rw [sort, insert_eq_orderedInsert, ih, List.insertionSort_cons]

theorem insert_between {below : α → α → Bool} {x : α} {lower upper : List α}
    (under : ∀ y ∈ lower, below y x = true) (above : ∀ y ∈ upper, below y x = false) :
    insert below x (lower ++ upper) = lower ++ x :: upper := by
  induction lower with
  | nil =>
    cases upper with
    | nil => rfl
    | cons y rest => simp [insert, above y List.mem_cons_self]
  | cons y rest ih =>
    have step := ih fun z member => under z (List.mem_cons_of_mem y member)
    simp [insert, under y List.mem_cons_self, step]

theorem sort_perm (below : α → α → Bool) (list : List α) : (sort below list).Perm list := by
  rw [sort_eq_insertionSort]
  exact List.perm_insertionSort _ list

section Distinct

variable [BEq α] [LawfulBEq α] {list : List α}

theorem mem_distinct {x : α} : x ∈ distinct list ↔ x ∈ list := by
  induction list with
  | nil => simp [distinct]
  | cons y rest ih =>
    simp only [distinct, List.mem_cons, List.mem_filter, ih]
    by_cases here : x = y <;> simp [here]

theorem distinct_eq_self (once : list.Nodup) : distinct list = list := by
  induction list with
  | nil => rfl
  | cons x rest ih =>
    obtain ⟨new, tail⟩ := List.nodup_cons.mp once
    rw [distinct, ih tail]
    congr 1
    apply List.filter_eq_self.mpr
    intro y member
    have different : y ≠ x := fun same => new (same ▸ member)
    simp [different]

end Distinct

theorem mem_sortedSet {words : List String} {word : String} : word ∈ sortedSet words ↔ word ∈ words :=
  (sort_perm _ _).mem_iff.trans mem_distinct

end Highlight.Order
