import Highlight.Datum
import Highlight.Mark
import Highlight.Order

/-! What can go wrong, as causes. Marks that would overlap are no fault: they are dropped, and the
caller is told so by the answer. -/
namespace Highlight

/-- Groups of faults that callers tell apart. -/
inductive Fault.Family where
  | general | matcher | depth | region | grammar | render | tiling | range | name | digits | kind
  | text
  deriving DecidableEq, Repr

inductive Fault where
  /-- A search was given something other than a non-empty text. -/
  | badTarget (what : String) (got : Datum)
  /-- A search for one character was given a longer text. -/
  | notSingle (got : Text)
  | negativeCount (what : String) (got : Datum)
  | unknownRule (kind : String)
  /-- Regions carrying `label` would be scanned again below the deepest level allowed. -/
  | tooDeep (label : String) (depth : Int) (limit : Datum)
  /-- The text of a region was replaced while it was scanned again. -/
  | regionReplaced (label : String) (start stop : Int)
  | unknownGrammar (name : String) (available : List String)
  | invalidTag (tag : Text)
  | invalidAttribute (name : String)
  | invalidProperty (name label : String)
  /-- Tiles leave a gap, overlap, or are empty at `cursor`. -/
  | untiled (mark : Mark) (cursor : Int)
  /-- Tiles end at `cursor`, which is not the end of the mark. -/
  | tilesStop (mark : Mark) (cursor : Int)
  | noSuchRange (start stop : Int)
  /-- Nothing was given under that name. -/
  | noSuchName (name : String)
  /-- A decimal number has more digits than are read. -/
  | tooManyDigits (count : Nat)
  /-- A value is of a kind that cannot be used where it stands. -/
  | wrongKind
  /-- A value that is no text stands where a text is worked on. -/
  | notText
  /-- A fault a caller reports in words of its own. -/
  | reported (family : Fault.Family) (words : String)

namespace Fault

def family : Fault → Family
  | badTarget .. | notSingle .. | negativeCount .. | unknownRule .. => .matcher
  | tooDeep .. => .depth
  | regionReplaced .. => .region
  | unknownGrammar .. => .grammar
  | invalidTag .. | invalidAttribute .. | invalidProperty .. => .render
  | untiled .. | tilesStop .. => .tiling
  | noSuchRange .. => .range
  | noSuchName .. => .name
  | tooManyDigits .. => .digits
  | wrongKind => .kind
  | notText => .text
  | reported family _ => family

/-- Faults of a value that is not fit for its purpose. -/
def Family.isBadValue : Family → Bool
  | .matcher | .tiling | .digits => true
  | _ => false

/-- Faults of a key that names nothing. -/
def Family.isMissingKey : Family → Bool
  | .grammar | .range | .name => true
  | _ => false

/-- Faults of highlighting itself, apart from those of the mark store, of names and of values. -/
def Family.isHighlighting : Family → Bool
  | .tiling | .range | .name | .digits | .kind | .text => false
  | _ => true

/-- Faults whose words say something. A value of the wrong kind is reported without any. -/
def Family.isSpoken : Family → Bool
  | .kind | .text => false
  | _ => true

/-- Names in a row; nothing to show is shown as none. -/
def listing (names : List String) : String :=
  let row := ", ".intercalate names
  if row.isEmpty then "none" else row

def depthWords (label depth limit : String) : String :=
  "Rewriting " ++ label ++ " regions would reach depth " ++ depth ++ " (maximum is " ++ limit ++ ")"

def regionWords (label start stop : String) : String :=
  "Callback for " ++ label ++ " region " ++ start ++ ".." ++ stop ++ " replaced the region text"

def grammarWords (name : String) (available : List String) : String :=
  "Unknown grammar: " ++ name ++ ". Available: " ++ listing available

/-- Words for whatever a caller has to say: nothing, one value, or several in brackets. -/
def wordsFor : List Datum → String
  | [] => ""
  | [value] => value.plain
  | values => "(" ++ ", ".intercalate (Datum.shownItems values) ++ ")"

def message : Fault → String
  | badTarget what got => what ++ " must be a non-empty string, got " ++ got.shown
  | notSingle got =>
    "match_char expects a single character, got " ++ String.ofList (Text.quoted got)
  | negativeCount what got => what ++ " must not be negative, got " ++ got.plain
  | unknownRule kind => "Unknown rule kind: " ++ quotedString kind
  | tooDeep label depth limit => depthWords (quotedString label) (toString depth) limit.plain
  | regionReplaced label start stop =>
    regionWords (quotedString label) (toString start) (toString stop)
  | unknownGrammar name available => grammarWords (quotedString name) available
  | invalidTag tag => "Invalid tag name: " ++ String.ofList (Text.quoted tag)
  | invalidAttribute name => "Invalid attribute name: " ++ quotedString name
  | invalidProperty name label =>
    "Invalid CSS property " ++ quotedString name ++ " for label " ++ quotedString label
  | untiled mark cursor =>
    "replacement for " ++ mark.describe ++ " does not tile it at " ++ toString cursor
  | tilesStop mark cursor =>
    "replacement for " ++ mark.describe ++ " stops at " ++ toString cursor
  | noSuchRange start stop => "(" ++ toString start ++ ", " ++ toString stop ++ ")"
  | noSuchName name => quotedString name
  | tooManyDigits count =>
    "Exceeds the limit (4300 digits) for integer string conversion: value has " ++
      toString count ++ " digits; use sys.set_int_max_str_digits() to increase the limit"
  | wrongKind | notText => ""
  | reported _ words => words

end Fault

end Highlight
