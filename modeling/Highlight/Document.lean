import Highlight.Html
import Highlight.Rule.Apply

/-! Whole documents: a text, marked and styled by a registered grammar. -/
namespace Highlight.Document

/-- The grammar of documents that name none. -/
def defaultLanguage : String := "julia"

/-- Work of a studio, with the counters it keeps. -/
abbrev Shared := EStateM Fault Studio

/-- Runs work on a new desk; only what the studio shares outlives it. -/
def onDesk (annotator : Annotator) (styles : StyleSheet) (work : Work α) : Shared (α × Desk) :=
  fun studio =>
    match work { annotator, styles, studio } with
    | .ok answer desk => .ok (answer, desk) desk.studio
    | .error fault desk => .error fault desk.studio

def findGrammar (name : String) : Shared Grammar := fun studio =>
  match studio.registry.find name with
  | .ok grammar => .ok grammar studio
  | .error fault => .error fault studio

/-- A source text and how to read it. -/
structure Source where
  text : Text
  language : String := defaultLanguage
  normalize : Option Bool := none

/-- The grammar is looked up first; then its rules run, and then its styles are registered. -/
def annotateThen (source : Source) (work : Work α) : Shared (α × Desk) := do
  let grammar ← findGrammar source.language
  let studio ← get
  onDesk (.create studio.config source.text source.normalize) .empty do
    grammar.highlight
    work

def annotate (source : Source) : Shared Desk := do
  let (_, desk) ← annotateThen source (pure ())
  return desk

def highlight (source : Source) (options : Fragment.Options) : Shared (List Fragment) := do
  let (fragments, _) ← annotateThen source (Work.render options)
  return fragments

def toHtml (source : Source) (renderer : Html.Renderer) : Shared Text := do
  let (written, _) ← annotateThen source renderer.render
  return written

end Highlight.Document
