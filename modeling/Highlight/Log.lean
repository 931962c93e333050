/-! Names of log channels. All channels lie below one root. -/
namespace Highlight.Log

def root : String := "resaltar"

/-- The root itself, or a name below it. -/
def isBelowRoot (name : String) : Bool :=
  name == root || (root ++ ".").toList.isPrefixOf name.toList

def channel (name : String) : String := if isBelowRoot name then name else root ++ "." ++ name

end Highlight.Log
