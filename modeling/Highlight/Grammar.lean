import Highlight.Rule
import Highlight.Style

/-! A grammar is a list of rules and a table of styles. -/
namespace Highlight

structure Grammar where
  name : String
  rules : List Rule
  styles : List StyleRule := []
  aliases : List String := []

namespace Grammar

/-- Registers the style table. -/
def style (grammar : Grammar) (sheet : StyleSheet) : StyleSheet :=
  grammar.styles.foldl StyleSheet.add sheet

/-- Styles that set a colour and nothing else. -/
def colors (table : List (String × String)) : List StyleRule :=
  table.map fun (label, color) => ⟨label, [("color", .text color)]⟩

end Grammar

end Highlight
