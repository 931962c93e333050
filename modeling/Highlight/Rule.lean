import Highlight.Matcher.Request

/-! Rules are searches and region scans as data. The order of a list of rules is their priority,
because the first mark on a cluster stays. -/
namespace Highlight

inductive Rule where
  /-- Marks what a search finds. -/
  | find (matcher : Matcher) (label : String)
  /-- Marks what a search finds that is read when the rule is applied. -/
  | ask (request : Request) (label : Datum)
  /-- Scans the regions labelled `target` again as documents of their own, with `rules` and then
  with the rules of a grammar, found by name when the rule is applied. -/
  | inside (target : String) (rules : List Rule) (grammar : Option String)
  /-- An inside rule with values of any kind, read when the rule is applied. -/
  | insideAs (target : Datum) (rules : List Rule) (grammar : Datum)
  /-- Fails when it is applied, because nothing is known of its kind. -/
  | unknown (kind : String) (target label : Datum)

namespace Rule

/-- Kinds of rules by their number from 1. -/
def kinds : List String := SearchKind.every.map SearchKind.name ++ ["INSIDE"]

def word (label : String) (target : String) : Rule := find (.all target.toList true) label

/-- Whole words in the given order. -/
def keywords (words : List String) (label : String) : List Rule := words.map (word label)

/-- Whole words as a caller gave them. -/
def keywordsAs (words label : Datum) : Except Fault (List Rule) :=
  match words.items? with
  | some items => .ok (items.map fun item => ask { kind := .all, target := item } label)
  | none => .error .wrongKind

/-- Longest first, so that a symbol is not cut short by one that begins it. Each symbol once. -/
def longestFirst (symbols : List String) : List String :=
  Order.sort (fun a b => decide (b.length < a.length)) (Order.distinct symbols)

def operators (symbols : List String) (label : String) : List Rule :=
  (longestFirst symbols).map (word label)

/-- Symbols as a caller gave them. Only texts have a length to sort by. -/
def operatorsAs (symbols label : Datum) : Except Fault (List Rule) :=
  match symbols.items?.bind (·.mapM Datum.text?) with
  | some words =>
    .ok ((longestFirst words).map fun word => ask { kind := .all, target := .text word } label)
  | none => .error .wrongKind

/-- The ten digits. -/
def digitChars : List Char := (List.range 10).map fun d => Char.ofNat (48 + d)

/-- The ten digits where they do not continue a name. -/
def digits (label : String) : List Rule :=
  digitChars.map fun c => find (.char [c] true) label

/-- The ten digits, under a label of any kind. -/
def digitsAs (label : Datum) : List Rule :=
  digitChars.map fun c =>
    ask { kind := .char, target := .text (String.ofList [c]), numeric := .bool true } label

end Rule

end Highlight
