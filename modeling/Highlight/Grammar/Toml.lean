import Highlight.Grammar

/-! TOML: comments, strings, table headers, assignments and numbers. -/
namespace Highlight.Grammar

def toml : Grammar where
  name := "toml"
  rules := [
    .find (.lineAfter "#".toList) "comment",
    .find (.between "\"".toList none) "string",
    .find (.between "[".toList (some "]".toList)) "keys",
    .find (.all "=".toList false) "equals"] ++
    Rule.digits "number" ++ Rule.keywords ["true", "false"] "number"
  styles := colors [
    ("keys", "#D67229"), ("equals", "purple"), ("string", "#007958"), ("default", "darkblue"),
    ("number", "#8b0000"), ("comment", "#808080")]

end Highlight.Grammar
