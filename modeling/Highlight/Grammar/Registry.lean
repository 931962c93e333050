import Highlight.Grammar.Julia
import Highlight.Grammar.Markdown
import Highlight.Grammar.Toml
import Highlight.Text.Lowercase

/-! The registry finds grammars by name and by alias, in any case. An alias is looked up before a
name, and a grammar that is replaced leaves its aliases behind. -/
namespace Highlight

structure Registry where
  grammars : Table String Grammar := []
  /-- Lowercase alias to lowercase name. -/
  aliases : Table String String := []

namespace Registry

def addAliases (name : String) (aliases : List String) (table : Table String String) :
    Table String String :=
  aliases.foldl (fun table shorter => table.put (lowercaseString shorter) name) table

def register (registry : Registry) (grammar : Grammar) : Registry :=
  let name := lowercaseString grammar.name
  ⟨registry.grammars.put name grammar, addAliases name grammar.aliases registry.aliases⟩

/-- Removes a grammar by name, together with every alias of that name. -/
def unregister (registry : Registry) (name : String) : Registry × Option Grammar :=
  let key := lowercaseString name
  match registry.grammars.find? key with
  | none => (registry, none)
  | some grammar =>
    (⟨registry.grammars.erase key, registry.aliases.filter fun entry => !(entry.2 == key)⟩,
      some grammar)

/-- Registered names, sorted. -/
def available (registry : Registry) : List String := Order.sortedStrings registry.grammars.keys

def key (registry : Registry) (name : String) : String :=
  let lower := lowercaseString name
  (registry.aliases.find? lower).getD lower

def find (registry : Registry) (name : String) : Except Fault Grammar :=
  match registry.grammars.find? (registry.key name) with
  | some grammar => .ok grammar
  | none => .error (.unknownGrammar name registry.available)

def builtin : Registry :=
  [Grammar.julia, Grammar.markdown, Grammar.toml].foldl register {}

end Registry

end Highlight
