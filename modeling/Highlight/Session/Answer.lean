import Highlight.Document
import Highlight.Position

/-! What the operations of a session answer. -/
namespace Highlight.Session

inductive Answer where
  | nothing
  | value (d : Datum)
  | flag (b : Bool)
  | count (n : Int)
  | bounds (start stop : Int)
  | text (t : Text)
  | texts (ts : List Text)
  | word (w : Option String)
  | words (ws : List String)
  | mark (m : Option Mark)
  /-- A mark, with its range as it was asked for. -/
  | found (start stop : Datum) (label : String)
  | marks (ms : List Mark)
  | rule (r : Option StyleRule)
  | rules (rs : List StyleRule)
  | index (i : GraphemeIndex)
  /-- Whether an index equals that of a text. -/
  | sameIndex (b : Bool)
  | config (c : Config)
  | profile (p : Option Profile)
  | fragments (fs : List Fragment)
  /-- A text and its number of clusters. -/
  | opened (text : Text) (size : Int)
  | annotator (a : Annotator)
  /-- Answers of single calls, each of which may fail on its own. -/
  | calls (answers : List (Except Fault Answer))
  /-- Answers of steps; those on an annotator come with its marks. -/
  | steps (entries : List (Except Fault Answer × Option (List Mark)))
  | observed (entries : List (Except Fault Answer × Option (List Mark))) (p : Profile)
  /-- For every region its text, size and level on entry, and the answers of its steps. -/
  | regions (children : List (Text × Int × Int × List (Except Fault Answer × Option (List Mark))))

abbrev Entry := Except Fault Answer × Option (List Mark)

end Highlight.Session
