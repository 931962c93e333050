import Highlight.Grammar

/-! Julia source. Comments come first, then strings with what they interpolate, then function
names, types, characters, keywords, numbers and operators. Interpolated expressions are scanned
with this same grammar, so a string inside one is scanned in turn. -/
namespace Highlight.Grammar.Julia

def texts (words : List String) : List Text := words.map String.toList

/-- What ends a function name on the left. -/
def functionNameDelimiters : List Text :=
  texts [" ", "\t", "\n", ",", ".", "\"", "(", "=", "[", "\x7b", ";"]

/-- What ends a type annotation or a macro call on the right. -/
def typeDelimiters : List Text := texts [" ", "\t", ",", ")", "\n", ";", "=", "]", "\x7d"]

def interpolationDelimiters : List Text :=
  texts [" ", "\t", "\n", "\"", ",", ")", "$", "\\", ".", "[", ":"]

def symbols : List String :=
  ["<:", "=", "==", "===", "!=", "<", ">", "=>", "->", "||", "-=", "+=", "+", "/", "*", "-", "~",
    "<=", ">=", "&&"]

def stringBody : List Rule := [
  .find (.between "$(".toList (some ")".toList)) "interp",
  .find (.after "$".toList interpolationDelimiters 0 0) "interp",
  .inside "interp" [.find (.all "$(".toList false) "interp"] (some "julia"),
  .find (.following "\\".toList 1) "exit"]

def rules : List Rule := [
  .find (.between "#=".toList (some "=#".toList)) "comment",
  .find (.lineAfter "#".toList) "comment",
  .find (.between "\"".toList none) "string",
  .inside "string" stringBody none,
  .find (.before "(".toList functionNameDelimiters 0 0) "funcn",
  .find (.after "::".toList typeDelimiters 0 0) "type",
  .find (.after "@".toList typeDelimiters 0 0) "type",
  .find (.between "'".toList none) "char"] ++
  Rule.keywords ["function"] "func" ++
  Rule.keywords ["import"] "import" ++
  Rule.keywords ["using", "export"] "using" ++
  Rule.keywords ["end"] "end" ++
  Rule.keywords ["struct"] "struct" ++
  Rule.keywords ["abstract"] "abstract" ++
  Rule.keywords ["mutable"] "mutable" ++
  Rule.keywords ["if", "else", "elseif", "try", "catch", "finally", "return"] "if" ++
  Rule.keywords ["in", "isa", "where"] "in" ++
  Rule.keywords ["for", "while", "quote", "do", "let", "break", "continue"] "for" ++
  Rule.keywords ["begin", "const", "global", "local", "macro"] "begin" ++
  Rule.keywords ["module", "baremodule"] "module" ++
  Rule.digits "number" ++
  Rule.keywords ["true", "false", "nothing"] "number" ++
  Rule.operators symbols "op"

def styles : List StyleRule := colors [
  ("default", "#3D3D3D"), ("func", "#fc038c"), ("funcn", "#2F387B"), ("using", "#006C67"),
  ("import", "#fc038c"), ("end", "#b81870"), ("mutable", "#006C67"), ("struct", "#fc038c"),
  ("begin", "#fc038c"), ("module", "#b81870"), ("string", "#007958"), ("if", "#fc038c"),
  ("for", "#fc038c"), ("in", "#006C67"), ("abstract", "#006C67"), ("number", "#8b0000"),
  ("char", "#8b0000"), ("type", "#D67229"), ("exit", "#cc0099"), ("op", "#0C023E"),
  ("comment", "#808080"), ("interp", "darkred")]

end Highlight.Grammar.Julia

namespace Highlight.Grammar

def julia : Grammar where
  name := "julia"
  rules := Julia.rules
  styles := Julia.styles
  aliases := ["jl"]

end Highlight.Grammar
