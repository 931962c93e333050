import Highlight.Annotator
import Highlight.Text.Search
import Highlight.Unicode.Digit
import Highlight.Unicode.Letter

/-! Searches that produce marks. All but one compute their regions up front, from the text and the
settings and, for paired delimiters, from the marks on entry; the regions are then recorded one
after another, and the store refuses those that touch a mark. Only a search with two delimiters
looks at the marks again between its regions. -/
namespace Highlight

inductive Matcher where
  /-- Every occurrence, or only those between word boundaries. -/
  | all (target : Text) (wholeWord : Bool)
  /-- Every occurrence of one character; numeric digits must not continue a name. -/
  | char (target : Text) (numeric : Bool)
  /-- Delimited regions; without a closer the opener ends them too. -/
  | between (opener : Text) (closer : Option Text)
  /-- The text before each occurrence, back to the nearest delimiter. -/
  | before (target : Text) (delimiters : List Text) (left right : Int)
  /-- Each occurrence and the text after it, up to the nearest delimiter. -/
  | after (target : Text) (delimiters : List Text) (left right : Int)
  /-- Each occurrence and a number of clusters after it. -/
  | following (target : Text) (length : Int)
  /-- Each occurrence through the end of its line. -/
  | lineAfter (target : Text)
  /-- Every line that begins with the target, without its line end. -/
  | lineStart (target : Text)
  deriving DecidableEq, Repr

namespace Matcher

def requireText (what : String) (target : Text) : Except Fault Unit :=
  if target.isEmpty then .error (.badTarget what (.text "")) else .ok ()

def requireCount (what : String) (n : Int) : Except Fault Unit :=
  if n < 0 then .error (.negativeCount what (.int n)) else .ok ()

def requireExtents (target : Text) (left right : Int) : Except Fault Unit := do
  requireText "target" target
  requireCount "include_left" left
  requireCount "include_right" right

/-- Refuses empty targets, longer texts where one character is wanted, and negative counts. -/
def check : Matcher → Except Fault Unit
  | all target _ => requireText "target" target
  | char target _ => do
    requireText "char" target
    if target.length ≠ 1 then .error (.notSingle target) else .ok ()
  | between opener none => requireText "opener" opener
  | between opener (some closer) => do
    requireText "opener" opener
    requireText "closer" closer
  | before target _ left right | after target _ left right => requireExtents target left right
  | following target length => do
    requireText "target" target
    requireCount "length" length
  | lineAfter target => requireText "opener" target
  | lineStart target => requireText "prefix" target

/-- The run of digits that holds a position does not continue a name: it starts the text, or
follows neither a letter, nor an underscore, nor a combining mark. -/
def digitRunIsFree (text : Text) (position : Nat) : Bool :=
  match (text.take position).reverse.dropWhile Unicode.isDigit with
  | [] => true
  | c :: _ => !(c == '_' || Unicode.isLetter c || Unicode.isCombining c)

/-- The given delimiters without empty ones, or those of the settings when none is left. -/
def effectiveDelimiters (config : Config) (delimiters : List Text) : List Text :=
  let given := delimiters.filter fun d => !d.isEmpty
  if given.isEmpty then config.delimiters.map fun d => d.plain.toList else given

/-- Largest end of a delimiter that lies wholly before `position`; 0 if there is none. -/
def regionStart (text : Text) (delimiters : List Text) (position : Nat) : Nat :=
  delimiters.foldl (fun start d =>
    match text.findLast? d position with
    | some found => max start (found + d.length)
    | none => start) 0

/-- Least start of a delimiter at or after `position`; the end of the text if there is none. -/
def regionStop (text : Text) (delimiters : List Text) (position : Nat) : Nat :=
  delimiters.foldl (fun stop d =>
    match text.find? d position with
    | some found => min stop found
    | none => stop) text.length

/-- The clusters over a raw range, with more on both sides. An empty range stays empty. -/
def widen (index : GraphemeIndex) (rawStart rawStop : Nat) (left right : Int) : Int × Int :=
  let (start, stop) := index.span rawStart rawStop
  if stop ≤ start then (start, start) else (max (start - left) 0, min (stop + right) index.size)

/-- Pairs positions by rank; the last one, if left alone, runs to the end of the text. -/
def pairUp (width length : Nat) : List Nat → List (Nat × Nat)
  | [] => []
  | [start] => [(start, length)]
  | start :: close :: rest => (start, close + width) :: pairUp width length rest

/-- End of the line that starts at `position`, without its line feed and a carriage return before
it. The carriage return is kept where it belongs to a target of `width` characters. -/
def lineStop (text : Text) (position width : Nat) : Nat :=
  match text.find? ['\n'] position with
  | none => text.length
  | some stop =>
    if position + width + 1 ≤ stop ∧ text[stop - 1]? = some '\r' then stop - 1 else stop

def startsLine (text : Text) (position : Nat) : Bool :=
  position == 0 || text[position - 1]? == some '\n'

/-- Occurrences that `all` tries. -/
def wordPositions (config : Config) (text target : Text) (wholeWord : Bool) : List Nat :=
  if !wholeWord then text.occurrences target
  else if config.hasBlankBoundary then []
  else text.delimitedOccurrences config.isBoundary target

/-- Cluster ranges to record, in order. -/
def regions (config : Config) (annotator : Annotator) : Matcher → List (Int × Int)
  | all target wholeWord =>
    (wordPositions config annotator.text target wholeWord).map fun (p : Nat) =>
      annotator.index.span p (p + target.length)
  | char target numeric =>
    ((annotator.text.occurrences target).filter fun (p : Nat) =>
      !numeric || digitRunIsFree annotator.text p).map fun (p : Nat) =>
        annotator.index.span p (p + 1)
  | between opener _ =>
    let free := (annotator.text.occurrences opener).filter fun (p : Nat) =>
      !annotator.marks.isTaken (annotator.index.toGrapheme p)
    (pairUp opener.length annotator.text.length free).map fun (start, stop) =>
      annotator.index.span start stop
  | before target delimiters left right =>
    let bounds := effectiveDelimiters config delimiters
    (annotator.text.occurrences target).filterMap fun (p : Nat) =>
      let start := regionStart annotator.text bounds p
      if p ≤ start then none else some (widen annotator.index start p left right)
  | after target delimiters left right =>
    let bounds := effectiveDelimiters config delimiters
    (annotator.text.occurrences target).map fun (p : Nat) =>
      widen annotator.index p (regionStop annotator.text bounds (p + target.length)) left right
  | following target length =>
    (annotator.text.occurrences target).map fun (p : Nat) =>
      let (start, stop) := annotator.index.span p (p + target.length)
      (start, min (stop + length) annotator.size)
  | lineAfter _ => []
  | lineStart target =>
    ((annotator.text.occurrences target).filter (startsLine annotator.text)).map fun (p : Nat) =>
      annotator.index.span p (lineStop annotator.text p target.length)

/-- Records regions from an opener through the next closer. An opener in a taken cluster is passed
over, and so is one whose region is refused; a region without a closer runs to the end of the text
and is the last. `rest` is the text from `position` on, of which the first `skip` characters
belong to what was read before. -/
def pairing (opener closer : Text) (label : String) :
    Annotator → (position skip : Nat) → (rest : Text) → Annotator × Int
  | annotator, _, _, [] => (annotator, 0)
  | annotator, position, skip + 1, _ :: rest =>
    pairing opener closer label annotator (position + 1) skip rest
  | annotator, position, 0, c :: rest =>
    if !opener.isPrefixOf (c :: rest) then
      pairing opener closer label annotator (position + 1) 0 rest
    else if annotator.marks.isTaken (annotator.index.toGrapheme position) then
      pairing opener closer label annotator (position + 1) (opener.length - 1) rest
    else
      match annotator.text.find? closer (position + opener.length) with
      | none =>
        match annotator.markRaw position annotator.text.length label with
        | (next, true) => (next, 1)
        | (next, false) =>
          pairing opener closer label next (position + 1) (opener.length - 1) rest
      | some close =>
        let stop := close + closer.length
        match annotator.markRaw position stop label with
        | (next, true) =>
          let (last, count) :=
            pairing opener closer label next (position + 1) (stop - position - 1) rest
          (last, 1 + count)
        | (next, false) =>
          pairing opener closer label next (position + 1) (opener.length - 1) rest

/-- Marks what the search finds and counts the marks recorded. -/
def mark (config : Config) (annotator : Annotator) (label : String) : Matcher → Annotator × Int
  | between opener (some closer) => pairing opener closer label annotator 0 0 annotator.text
  | lineAfter target => pairing target ['\n'] label annotator 0 0 annotator.text
  | matcher => annotator.record label (matcher.regions config annotator)

def run (config : Config) (annotator : Annotator) (label : String) (matcher : Matcher) :
    Except Fault (Annotator × Int) :=
  match matcher.check with
  | .error fault => .error fault
  | .ok () => .ok (matcher.mark config annotator label)

end Matcher

end Highlight
