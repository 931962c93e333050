import Highlight.Session.Call

/-! Operations that concern no annotator in hand: settings, grammars, and whole documents. -/
namespace Highlight.Session

inductive Setting where
  | setConfig (config : Config)
  | resetConfig
  | getConfig
  | profile
  | register (grammar : Grammar)
  | unregister (name : String)
  | grammarName (name : String)
  | available
  | highlight (source : Document.Source) (options : Fragment.Options)
  | toHtml (source : Document.Source) (renderer : Html.Renderer)
  /-- Something that could not be read as a setting. -/
  | refused (fault : Fault)

namespace Setting

def putConfig (config : Config) : Document.Shared Answer := fun studio =>
  .ok (.config config) { studio with config }

def run : Setting → Document.Shared Answer
  | setConfig config => putConfig config
  | resetConfig => putConfig {}
  | getConfig => fun studio => .ok (.config studio.config) studio
  | profile => fun studio => .ok (.profile studio.profile) studio
  | register grammar => fun studio =>
    .ok (.flag true) { studio with registry := studio.registry.register grammar }
  | unregister name => fun studio =>
    let (registry, removed) := studio.registry.unregister name
    .ok (.word (removed.map (·.name))) { studio with registry }
  | grammarName name => do
    return .word (some (← Document.findGrammar name).name)
  | available => fun studio => .ok (.words studio.registry.available) studio
  | highlight source options => do
    return .fragments (← Document.highlight source options)
  | toHtml source renderer => do
    return .text (← Document.toHtml source renderer)
  | refused fault => throw fault

end Setting

end Highlight.Session
