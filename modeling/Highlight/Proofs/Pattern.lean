import Highlight.Config
import Highlight.Proofs.Order
import Highlight.Text.Search

/-! Whole words as a pattern: the target between two looks at its neighbours, neither of which may be outside
the boundary. The matches of the pattern are the delimited occurrences of the target. -/
namespace Highlight

inductive CharClass where
  | any
  | noneOf (chars : Text)

def CharClass.has : CharClass → Char → Bool
  | any, _ => true
  | noneOf chars, c => !chars.contains c

/-- A pattern reads characters one by one. The other parts read nothing: they bar characters of a class from
the place before or from the one ahead, and the ends of the text satisfy them. -/
inductive PatternPart where
  | char (c : Char)
  | notBehind (barred : CharClass)
  | notAhead (barred : CharClass)

abbrev Pattern := List PatternPart

namespace Pattern

open PatternPart

def matchesAt : Pattern → (before : Option Char) → (rest : Text) → Bool
  | [], _, _ => true
  | char _ :: _, _, [] => false
  | char c :: parts, _, d :: rest => c == d && matchesAt parts (some d) rest
  | notBehind barred :: parts, before, rest => !before.any barred.has && matchesAt parts before rest
  | notAhead barred :: parts, before, rest => !rest.head?.any barred.has && matchesAt parts before rest

def width (pattern : Pattern) : Nat := pattern.countP fun part => part matches char _

/-- From left to right, each match behind the one before it. -/
def findAll (pattern : Pattern) (text : Text) : List Nat :=
  text.scan pattern.matchesAt pattern.width none 0 0

/-- `noneOf []` has no written form: without a boundary the class is `any`, and a boundary of nothing but empty
elements has no pattern. -/
def outside (config : Config) : CharClass :=
  if config.boundary.isEmpty then .any else .noneOf (config.sortedBoundary.flatMap String.toList)

def word (config : Config) (target : Text) : Pattern :=
  [notBehind (outside config)] ++ target.map char ++ [notAhead (outside config)]

variable {config : Config} {target rest : Text} {before : Option Char}

theorem outside_has (c : Char) : (outside config).has c = !config.isBoundary c := by
  unfold outside
  split
  next empty => simp [CharClass.has, Config.isBoundary, List.isEmpty_iff.mp empty]
  next =>
    rw [CharClass.has, Bool.eq_iff_iff]
    simp [Config.isBoundary, Config.sortedBoundary, Order.mem_sortedSet]

theorem any_outside (c : Option Char) : (!c.any (outside config).has) = c.all config.isBoundary := by
  cases c <;> simp [outside_has]

theorem matchesAt_chars (barred : CharClass) :
    matchesAt (target.map char ++ [notAhead barred]) before rest =
      (target.isPrefixOf rest && !(rest.drop target.length).head?.any barred.has) := by
  induction target generalizing before rest with
  | nil => simp [matchesAt]
  | cons c target ih =>
    cases rest with
    | nil => rfl
    | cons d rest =>
      rw [List.map_cons, List.cons_append, matchesAt, ih, ← Bool.and_assoc]
      rfl

theorem matchesAt_word : (word config target).matchesAt before rest =
    (target.isPrefixOf rest && before.all config.isBoundary &&
      (rest.drop target.length).head?.all config.isBoundary) := by
  rw [word, List.append_assoc, List.singleton_append, matchesAt, matchesAt_chars, any_outside, any_outside,
    ← Bool.and_assoc, Bool.and_comm (before.all _)]

theorem width_word : (word config target).width = target.length := by
  simp [word, width, List.countP_map, Function.comp_def]

theorem findAll_word (config : Config) (text target : Text) :
    (word config target).findAll text = text.delimitedOccurrences config.isBoundary target := by
  rw [findAll, width_word]
  exact congrArg (fun accept => text.scan accept target.length none 0 0)
    (funext fun _ => funext fun _ => matchesAt_word)

end Pattern

end Highlight
