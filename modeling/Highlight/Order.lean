/-! Stable insertion into ordered lists, and lists without repetition. Both keep to structural
recursion, so that closed instances evaluate in the kernel. -/
namespace Highlight.Order

/-- Places `x` after every leading element that is strictly below it. -/
def insert (below : α → α → Bool) (x : α) : List α → List α
  | [] => [x]
  | y :: rest => if below y x then y :: insert below x rest else x :: y :: rest

/-- Elements of which neither is below the other keep their order. -/
def sort (below : α → α → Bool) : List α → List α
  | [] => []
  | x :: rest => insert below x (sort below rest)

/-- Keeps the first occurrence of every element. -/
def distinct [BEq α] : List α → List α
  | [] => []
  | x :: rest => x :: (distinct rest).filter (fun y => !(y == x))

/-- Strings by code point, each once. -/
def sortedSet (words : List String) : List String :=
  sort (fun a b => decide (a < b)) (distinct words)

def sortedStrings (words : List String) : List String :=
  sort (fun a b => decide (a < b)) words

end Highlight.Order
