import Highlight.Datum
import Highlight.Order
import Highlight.Table

/-! Style sheets: what each label looks like. A sheet does not depend on any text. -/
namespace Highlight

/-- A name and a value. Values may be of any kind; they are written as texts. -/
abbrev Attribute := String × Datum

/-- Attributes as a list of declarations. -/
def declarations (attributes : List Attribute) : Text :=
  attributes.flatMap fun (name, value) => name.toList ++ ':' :: value.plain.toList ++ [';']

/-- Marks nothing covers, and labels without a rule, take the rule of this label. -/
def defaultLabel : String := "default"

structure StyleRule where
  label : String
  attributes : List Attribute := []

namespace StyleRule

def css (rule : StyleRule) : Text := declarations rule.attributes

/-- Value of the last attribute of that name. -/
def get? (rule : StyleRule) (name : String) : Option Datum :=
  (rule.attributes.reverse.find? fun entry => entry.1 == name).map (·.2)

end StyleRule

/-- Attributes given loosely, as they come or as the entries of a mapping. -/
inductive AttributeSource where
  | pairs (entries : List (Datum × Datum))
  | mapping (entries : List (Datum × Datum))

namespace AttributeSource

/-- A mapping keeps the place of a name's first entry and the value of its last. -/
def entries : AttributeSource → List (Datum × Datum)
  | .pairs entries => entries
  | .mapping entries => Table.ofEntries entries

/-- Every entry of a mapping has something that can name it. -/
def isSound : AttributeSource → Bool
  | .pairs _ => true
  | .mapping entries => entries.all fun entry => entry.1.isKey

/-- Names and values become texts. -/
def attributes (source : AttributeSource) : List Attribute :=
  source.entries.map fun (name, value) => (name.plain, .text value.plain)

end AttributeSource

/-- Rules in order of registration, one for each label. -/
structure StyleSheet where
  rules : List StyleRule := []

namespace StyleSheet

def empty : StyleSheet := {}

def putRule (rule : StyleRule) : List StyleRule → List StyleRule
  | [] => [rule]
  | known :: rest => if known.label == rule.label then rule :: rest else known :: putRule rule rest

/-- Registers a rule. A label that has one keeps its place. -/
def add (sheet : StyleSheet) (rule : StyleRule) : StyleSheet := ⟨putRule rule sheet.rules⟩

def ofRules (rules : List StyleRule) : StyleSheet := rules.foldl add empty

def get? (sheet : StyleSheet) (label : String) : Option StyleRule :=
  sheet.rules.find? fun rule => rule.label == label

def remove (sheet : StyleSheet) (label : String) : StyleSheet :=
  ⟨sheet.rules.filter fun rule => !(rule.label == label)⟩

/-- The default rule, or else an empty one. -/
def fallback (sheet : StyleSheet) : StyleRule :=
  (sheet.get? defaultLabel).getD ⟨defaultLabel, []⟩

/-- The rule of a label, or else the one that stands in for it. -/
def resolve (sheet : StyleSheet) (label : String) : StyleRule :=
  (sheet.get? label).getD sheet.fallback

/-- Labels in order of registration. -/
def labels (sheet : StyleSheet) : List String := sheet.rules.map (·.label)

def sortedLabels (sheet : StyleSheet) : List String := Order.sortedSet sheet.labels

def contains (sheet : StyleSheet) (label : String) : Bool := (sheet.get? label).isSome

def size (sheet : StyleSheet) : Nat := sheet.rules.length

def describe (sheet : StyleSheet) : String :=
  "StyleRegistry(labels=" ++ (Datum.list (sheet.sortedLabels.map .text)).shown ++ ")"

end StyleSheet

/-- Named arguments cannot hold dashes, so underscores stand for them. -/
def dashed (name : String) : String :=
  String.ofList (name.toList.map fun c => if c == '_' then '-' else c)

end Highlight
