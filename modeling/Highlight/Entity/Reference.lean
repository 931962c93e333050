import Highlight.Fault
import Highlight.Entity.Upper
import Highlight.Entity.LowerFirst
import Highlight.Entity.LowerMiddle
import Highlight.Entity.LowerLast

/-! Character references of HTML5. A named reference takes the longest name that starts what
follows the ampersand, so the semicolon may be missing where the standard lists the name without
it; a numeric reference takes all of its digits, and a decimal one with too many is refused. -/
namespace Highlight.Entity

def namesFrom : Char → List (String × List Nat)
  | 'A' => upperA
  | 'B' => upperB
  | 'C' => upperC
  | 'D' => upperD
  | 'E' => upperE
  | 'F' => upperF
  | 'G' => upperG
  | 'H' => upperH
  | 'I' => upperI
  | 'J' => upperJ
  | 'K' => upperK
  | 'L' => upperL
  | 'M' => upperM
  | 'N' => upperN
  | 'O' => upperO
  | 'P' => upperP
  | 'Q' => upperQ
  | 'R' => upperR
  | 'S' => upperS
  | 'T' => upperT
  | 'U' => upperU
  | 'V' => upperV
  | 'W' => upperW
  | 'X' => upperX
  | 'Y' => upperY
  | 'Z' => upperZ
  | 'a' => lowerA
  | 'b' => lowerB
  | 'c' => lowerC
  | 'd' => lowerD
  | 'e' => lowerE
  | 'f' => lowerF
  | 'g' => lowerG
  | 'h' => lowerH
  | 'i' => lowerI
  | 'j' => lowerJ
  | 'k' => lowerK
  | 'l' => lowerL
  | 'm' => lowerM
  | 'n' => lowerN
  | 'o' => lowerO
  | 'p' => lowerP
  | 'q' => lowerQ
  | 'r' => lowerR
  | 's' => lowerS
  | 't' => lowerT
  | 'u' => lowerU
  | 'v' => lowerV
  | 'w' => lowerW
  | 'x' => lowerX
  | 'y' => lowerY
  | 'z' => lowerZ
  | _ => []

def lookup (name : String) : List (String × List Nat) → Option Text
  | [] => none
  | (known, codes) :: rest => if known == name then some (codes.map Char.ofNat) else lookup name rest

/-- What a name stands for, its semicolon included if it has one. -/
def named? : Text → Option Text
  | [] => none
  | c :: rest => lookup (String.ofList (c :: rest)) (namesFrom c)

/-- What the codes 0x80 to 0x9f stand for in legacy pages, where they differ. -/
def legacyCodes : List Nat := [
  0x20ac, 0x81, 0x201a, 0x192, 0x201e, 0x2026, 0x2020, 0x2021, 0x2c6, 0x2030, 0x160, 0x2039, 0x152,
  0x8d, 0x17d, 0x8f, 0x90, 0x2018, 0x2019, 0x201c, 0x201d, 0x2022, 0x2013, 0x2014, 0x2dc, 0x2122,
  0x161, 0x203a, 0x153, 0x9d, 0x17e, 0x178]

/-- Control characters and codes that name no character: a reference to one writes nothing. -/
def isVoidCode (code : Nat) : Bool :=
  (0x1 ≤ code && code ≤ 0x8) || code == 0xb || (0xe ≤ code && code ≤ 0x1f) || code == 0x7f ||
    (0xfdd0 ≤ code && code ≤ 0xfdef) || code % 0x10000 == 0xfffe || code % 0x10000 == 0xffff

def ofCode (code : Nat) : Text :=
  if 0x80 ≤ code ∧ code ≤ 0x9f then (legacyCodes[code - 0x80]?.toList).map Char.ofNat
  else if code = 0 ∨ (0xd800 ≤ code ∧ code ≤ 0xdfff) ∨ 0x10ffff < code then [Char.ofNat 0xfffd]
  else if isVoidCode code then []
  else [Char.ofNat code]

def digitValue? (c : Char) : Option Nat :=
  if '0' ≤ c ∧ c ≤ '9' then some (c.toNat - 48) else none

def hexValue? (c : Char) : Option Nat :=
  if '0' ≤ c ∧ c ≤ '9' then some (c.toNat - 48)
  else if 'a' ≤ c ∧ c ≤ 'f' then some (c.toNat - 87)
  else if 'A' ≤ c ∧ c ≤ 'F' then some (c.toNat - 55)
  else none

/-- Length of the leading run of digits, and its value continued from `value`. -/
def readNumber (digit? : Char → Option Nat) (base : Nat) : (value : Nat) → Text → Nat × Nat
  | value, [] => (0, value)
  | value, c :: rest =>
    match digit? c with
    | none => (0, value)
    | some d =>
      let (count, total) := readNumber digit? base (base * value + d) rest
      (count + 1, total)

def startsWithSemicolon : Text → Bool
  | ';' :: _ => true
  | _ => false

/-- Reads a number after `consumed` code points of its marker, with an optional semicolon. -/
def number? (digit? : Char → Option Nat) (base consumed : Nat) (rest : Text) : Option (Nat × Text) :=
  let (count, code) := readNumber digit? base 0 rest
  if count = 0 then none
  else
    let close := if startsWithSemicolon (rest.drop count) then 1 else 0
    some (consumed + count + close, ofCode code)

/-- Most digits of a decimal number, leading zeros included. -/
def digitLimit : Nat := 4300

/-- Refuses a decimal number with too many digits. -/
def checkDigits (rest : Text) : Except Fault Unit :=
  let count := (rest.takeWhile fun c => (digitValue? c).isSome).length
  if digitLimit < count then .error (.tooManyDigits count) else .ok ()

def isNameChar (c : Char) : Bool :=
  !(c == '\t' || c == '\n' || c == '\x0c' || c == ' ' || c == '<' || c == '&' || c == '#' || c == ';')

/-- At most the first `limit` code points, up to one that cannot stand in a name. -/
def readName : (limit : Nat) → Text → Text
  | 0, _ | _, [] => []
  | limit + 1, c :: rest => if isNameChar c then c :: readName limit rest else []

/-- The longest proper beginning, of at least two code points, that is a name. -/
def longestNamed (name : Text) : (length : Nat) → Option Text
  | 0 | 1 => none
  | length + 2 =>
    match named? (name.take (length + 2)) with
    | some written => some (written ++ name.drop (length + 2))
    | none => longestNamed name (length + 1)

def nameReference? (rest : Text) : Option (Nat × Text) :=
  let run := readName 32 rest
  if run.isEmpty then none
  else
    let name := if startsWithSemicolon (rest.drop run.length) then run ++ [';'] else run
    let written :=
      match named? name with
      | some written => written
      | none => (longestNamed name (name.length - 1)).getD ('&' :: name)
    some (name.length + 1, written)

/-- The reference that starts the text, with its length. -/
def reference? : Text → Except Fault (Option (Nat × Text))
  | '&' :: '#' :: 'x' :: rest | '&' :: '#' :: 'X' :: rest => .ok (number? hexValue? 16 3 rest)
  | '&' :: '#' :: rest => do
    checkDigits rest
    return number? digitValue? 10 2 rest
  | '&' :: rest => .ok (nameReference? rest)
  | _ => .ok none

/-- Decodes references from left to right; the first that cannot be read is the fault. `skip`
counts the code points already consumed. -/
def decodeFrom : (skip : Nat) → Text → Except Fault Text
  | _, [] => .ok []
  | skip + 1, _ :: rest => decodeFrom skip rest
  | 0, c :: rest =>
    match reference? (c :: rest) with
    | .error fault => .error fault
    | .ok none => (decodeFrom 0 rest).map (c :: ·)
    | .ok (some (consumed, written)) => (decodeFrom (consumed - 1) rest).map (written ++ ·)

/-- Decodes every character reference, in one pass. -/
def decode (text : Text) : Except Fault Text := decodeFrom 0 text

end Highlight.Entity
