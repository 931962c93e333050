import Highlight.Matcher

/-! Searches as callers ask for them, with values of any kind. They are kept as given and read when
the search is made; what cannot be read is refused then, the target before anything else. A few
values do harm only where the target occurs, or only where they do not reach past the text. -/
namespace Highlight

inductive SearchKind where
  | all | char | between | before | after | following | lineAfter | lineStart
  deriving DecidableEq, Repr

namespace SearchKind

def every : List SearchKind :=
  [all, char, between, before, after, following, lineAfter, lineStart]

def name : SearchKind → String
  | all => "ALL"
  | char => "CHAR"
  | between => "BETWEEN"
  | before => "BEFORE"
  | after => "AFTER"
  | following => "FOR"
  | lineAfter => "LINE_AFTER"
  | lineStart => "LINE_STARTSWITH"

end SearchKind

def Matcher.kind : Matcher → SearchKind
  | .all .. => .all
  | .char .. => .char
  | .between .. => .between
  | .before .. => .before
  | .after .. => .after
  | .following .. => .following
  | .lineAfter .. => .lineAfter
  | .lineStart .. => .lineStart

/-- A search and all that a caller may say about it. Each kind reads the fields it needs. -/
structure Request where
  kind : SearchKind
  target : Datum
  closer : Datum := .none
  delimiters : Datum := .list []
  left : Datum := .int 0
  right : Datum := .int 0
  length : Datum := .int 0
  wholeWord : Datum := .bool true
  numeric : Datum := .bool false

namespace Request

def readText (what : String) : Datum → Except Fault Text
  | .text s => if s.isEmpty then .error (.badTarget what (.text s)) else .ok s.toList
  | other => .error (.badTarget what other)

/-- A missing closer is none. -/
def readCloser : Datum → Except Fault (Option Text)
  | .none => .ok none
  | other => some <$> readText "closer" other

/-- Numbers that are not negative. A real number is 0 here, because it is not known yet whether it
reaches past the text. -/
def readCount (what : String) : Datum → Except Fault Int
  | .none | .text _ | .list _ | .record _ => .error .wrongKind
  | .real x => if x.isNegative then .error (.negativeCount what (.real x)) else .ok 0
  | other =>
    let n := other.toInt?.getD 0
    if n < 0 then .error (.negativeCount what other) else .ok n

/-- The delimiters that count as true. -/
def readDelimiters (value : Datum) : Except Fault (List Datum) :=
  match value.items? with
  | some items => .ok (items.filter Datum.isTrue)
  | none => .error .wrongKind

/-- Target, delimiters and extents of a search beside its target. The faults come in this order, the
delimiters last. -/
def neighbour (request : Request) : Except Fault (Text × List Text × Int × Int) := do
  let target ← readText "target" request.target
  let left ← readCount "include_left" request.left
  let right ← readCount "include_right" request.right
  let delimiters ← readDelimiters request.delimiters
  return (target, delimiters.map fun delimiter => delimiter.plain.toList, left, right)

def matcher (request : Request) : Except Fault Matcher :=
  match request.kind with
  | .all => return .all (← readText "target" request.target) request.wholeWord.isTrue
  | .char => return .char (← readText "char" request.target) request.numeric.isTrue
  | .between => return .between (← readText "opener" request.target) (← readCloser request.closer)
  | .before => do
    let (target, delimiters, left, right) ← request.neighbour
    return .before target delimiters left right
  | .after => do
    let (target, delimiters, left, right) ← request.neighbour
    return .after target delimiters left right
  | .following =>
    return .following (← readText "target" request.target) (← readCount "length" request.length)
  | .lineAfter => return .lineAfter (← readText "opener" request.target)
  | .lineStart => return .lineStart (← readText "prefix" request.target)

/-- The delimiters given, or else those of the settings. -/
def delimitersUnder (request : Request) (config : Config) : List Datum :=
  let given := (request.delimiters.items?.getD []).filter Datum.isTrue
  if given.isEmpty then config.delimiters else given

/-- Some delimiter is no text, though it is not looked at before the target occurs. -/
def isFlawed (request : Request) (config : Config) : Bool :=
  match request.kind with
  | .before | .after => (request.delimitersUnder config).any fun delimiter => !delimiter.isText
  | _ => false

/-- Where the target occurs in a text. -/
def occurrences (request : Request) (text : Text) : List Nat :=
  text.occurrences request.target.plain.toList

/-- Some extent is a real number. -/
def hasRealExtent (request : Request) : Bool :=
  match request.kind with
  | .before | .after => request.left.isReal || request.right.isReal
  | .following => request.length.isReal
  | _ => false

/-- The start of a region that is to reach a real number of clusters further to the left. There is
none but the start of the text, where that comes first. -/
def reachLeft (extent : Datum) (start : Int) : Except Fault Int :=
  match extent with
  | .real x => if x.isAbove start then .ok 0 else .error .wrongKind
  | _ => .ok start

/-- The end of a region that is to reach a real number of clusters further to the right. There is
none but the end of the text, where that comes first. -/
def reachRight (extent : Datum) (size stop : Int) : Except Fault Int :=
  match extent with
  | .real x => if (x.plus stop).isAbove size then .ok size else .error .wrongKind
  | _ => .ok stop

/-- The region that stands for one whose integer extents are already part of it. -/
def place (request : Request) (size : Int) (region : Int × Int) : Except Fault (Int × Int) :=
  match request.kind with
  | .before | .after => do
    let start ← reachLeft request.left region.1
    let stop ← reachRight request.right size region.2
    return (start, stop)
  | .following => do
    let stop ← reachRight request.length size region.2
    return (region.1, stop)
  | _ => .ok region

/-- A region is passed over, whether it can be placed or not. -/
def passesOver (request : Request) (marks : MarkStore) (region : Int × Int) : Bool :=
  match request.kind with
  | .following => marks.anyTaken region.1 region.2
  | _ => false

end Request

end Highlight
