import Highlight.Grammar

/-! Markdown: inline code, headings, quoted lines, links and emphasis. -/
namespace Highlight.Grammar

def markdown : Grammar where
  name := "markdown"
  rules := [
    .find (.between "``".toList none) "code",
    .find (.between "`".toList none) "code",
    .find (.after "# ".toList ["\n".toList] 0 0) "heading",
    .find (.lineStart "> ".toList) "point",
    .find (.between "[".toList (some "]".toList)) "keys",
    .find (.between "(".toList (some ")".toList)) "link",
    .find (.between "**".toList none) "bold",
    .find (.between "*".toList none) "italic"]
  styles := colors [
    ("link", "#8b0000"), ("heading", "purple"), ("point", "darkgreen"), ("bold", "darkblue"),
    ("italic", "#8b0000"), ("keys", "#ffc00"), ("code", "#8b0000"), ("default", "brown")]
  aliases := ["md"]

end Highlight.Grammar
