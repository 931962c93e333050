import Highlight.Fault

/-! Settings that searches, annotators and the scan of regions read. Those that callers may give
loosely are held as given and read where they are used. -/
namespace Highlight

structure Config where
  /-- Deepest level at which a region may be scanned again; documents are at level 0. -/
  maxDepth : Datum := .int 16
  /-- Every character of every element ends a word. -/
  boundary : List String :=
    [" ", "\t", "\r", "\n", "\x0c", "\x0b", ",", "(", ")", ";", "\"", "[", "]", "\x7b", "\x7d", "."]
  /-- Decode markup forms when a text is assigned. -/
  normalizeInput : Datum := .bool false
  /-- Delimiters of searches that are given none. -/
  delimiters : List Datum := [.text " "]

namespace Config

def isBoundary (config : Config) (c : Char) : Bool :=
  config.boundary.any fun element => element.toList.contains c

/-- There are elements, but none has a character. -/
def hasBlankBoundary (config : Config) : Bool :=
  !config.boundary.isEmpty && config.boundary.all fun element => element.isEmpty

/-- The boundary set by code points, each element once. -/
def sortedBoundary (config : Config) : List String := Order.sortedSet config.boundary

/-- Whole levels that the limit leaves room for; nothing is known of a limit that is no number. -/
def levels (config : Config) : Int := config.maxDepth.floor?.getD 0

def items (value : Datum) : Except Fault (List Datum) :=
  match value.items? with
  | some items => .ok items
  | none => .error .wrongKind

/-- The boundary is a set, so its elements must be fit for one. -/
def elements (value : Datum) : Except Fault (List String) := do
  let items ← items value
  if items.all Datum.isKey then return items.map Datum.plain else .error .wrongKind

def setField (config : Config) : String × Datum → Except Fault Config
  | ("max_depth", value) => .ok { config with maxDepth := value }
  | ("boundary_chars", value) => return { config with boundary := ← elements value }
  | ("normalize_input", value) => .ok { config with normalizeInput := value }
  | ("default_until", value) => return { config with delimiters := ← items value }
  | _ => .ok config

/-- Settings read from named fields. Names that mean nothing are ignored. -/
def ofFields (fields : List (String × Datum)) : Except Fault Config := fields.foldlM setField {}

end Config

end Highlight
