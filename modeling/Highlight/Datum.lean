import Highlight.Decimal
import Highlight.Text.Quoted

/-! Loose values, as callers hand them over before anything is known about their kind. -/
namespace Highlight

inductive Datum where
  | none
  | bool (b : Bool)
  | int (n : Int)
  | real (x : Binary64)
  | text (s : String)
  | list (items : List Datum)
  | record (fields : List (String × Datum))
  deriving Inhabited

namespace Datum

def ofBool (b : Bool) : String := if b then "True" else "False"

mutual

/-- The form shown in messages: texts in quotes, lists and records in brackets. -/
def shown : Datum → String
  | .none => "None"
  | .bool b => ofBool b
  | .int n => toString n
  | .real x => x.toText
  | .text s => quotedString s
  | .list items => "[" ++ ", ".intercalate (shownItems items) ++ "]"
  | .record fields => "\x7b" ++ ", ".intercalate (shownFields fields) ++ "\x7d"

def shownItems : List Datum → List String
  | [] => []
  | item :: rest => shown item :: shownItems rest

def shownFields : List (String × Datum) → List String
  | [] => []
  | (name, value) :: rest => (quotedString name ++ ": " ++ shown value) :: shownFields rest

end

/-- The form a value takes as part of a text: a text is itself. -/
def plain : Datum → String
  | .text s => s
  | other => other.shown

/-- The integer a value counts as; truth values count as 0 and 1. -/
def toInt? : Datum → Option Int
  | .bool b => some (if b then 1 else 0)
  | .int n => some n
  | .real x => x.toInt?
  | _ => Option.none

/-- A number as numerator and denominator. -/
def ratio? : Datum → Option (Int × Nat)
  | .real x => some x.ratio
  | other => other.toInt?.map fun n => (n, 1)

/-- The largest integer that is not above a number. -/
def floor? (value : Datum) : Option Int := value.ratio?.map fun (n, d) => n.fdiv d

/-- Numbers are compared by their values; other values are not compared. -/
def isAtMost? (a b : Datum) : Option Bool := do
  let (m, c) ← a.ratio?
  let (n, d) ← b.ratio?
  return decide (m * d ≤ n * c)

def isReal : Datum → Bool
  | .real _ => true
  | _ => false

/-- Whether a value counts as true: empty and zero values do not. -/
def isTrue : Datum → Bool
  | .none => false
  | .bool b => b
  | .int n => n != 0
  | .real x => x.toInt? != some 0
  | .text s => !s.isEmpty
  | .list items => !items.isEmpty
  | .record fields => !fields.isEmpty

/-- What a value runs through: a list its items, a text its characters, a record its names. Other
values cannot be run through. -/
def items? : Datum → Option (List Datum)
  | .text s => some (s.toList.map fun c => .text (String.ofList [c]))
  | .list items => some items
  | .record fields => some (fields.map fun field => .text field.1)
  | _ => Option.none

/-- Whether a value can name an entry of a mapping. -/
def isKey : Datum → Bool
  | .list _ | .record _ => false
  | _ => true

def text? : Datum → Option String
  | .text s => some s
  | _ => Option.none

def isText : Datum → Bool
  | .text _ => true
  | _ => false

/-- Whether two values name the same entry of a mapping: numbers do when they are equal. -/
def sameKey (a b : Datum) : Bool :=
  match a.toInt?, b.toInt? with
  | some m, some n => m == n
  | some _, Option.none | Option.none, some _ => false
  | Option.none, Option.none => a.isText == b.isText && a.plain == b.plain

instance : BEq Datum := ⟨sameKey⟩

end Datum

end Highlight
