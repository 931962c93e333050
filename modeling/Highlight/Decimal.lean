/-! Binary64 numbers and their shortest decimal text, in exact integer arithmetic. -/
namespace Highlight

/-- `finite negative m q` is the number `m * 2 ^ q` with its sign; `m` is below `2 ^ 53`. -/
inductive Binary64 where
  | finite (negative : Bool) (mantissa : Nat) (exponent : Int)
  | infinite (negative : Bool)
  deriving DecidableEq, Repr

namespace Binary64

/-- The quotient rounded to the nearest integer, a tie to the even one. -/
def roundDiv (numerator denominator : Nat) : Nat :=
  let quotient := numerator / denominator
  let twice := 2 * (numerator % denominator)
  if twice < denominator then quotient
  else if denominator < twice then quotient + 1
  else if quotient % 2 = 0 then quotient else quotient + 1

/-- The 53rd power of 2: mantissas are below it. -/
def bound : Nat := 0x20000000000000

/-- Half of `bound`: mantissas of full length start here. -/
def fullLength : Nat := 0x10000000000000

/-- `n * base ^ e` as a numerator and a denominator. -/
def scaled (n base : Nat) (e : Int) : Nat × Nat :=
  if 0 ≤ e then (n * base.pow e.toNat, 1) else (n, base.pow (-e).toNat)

/-- The number nearest to a fraction. -/
def ofRatio (negative : Bool) (numerator denominator : Nat) : Binary64 :=
  let level : Int := (numerator.log2 : Int) - denominator.log2
  let place (q : Int) : Nat :=
    if 0 ≤ q then roundDiv numerator (denominator * Nat.pow 2 q.toNat)
    else roundDiv (numerator * Nat.pow 2 (-q).toNat) denominator
  let start := max (level - 53) (-1074)
  let q := if place start < bound then start else start + 1
  let (m, q) := if place q < bound then (place q, q) else (fullLength, q + 1)
  if numerator = 0 then finite negative 0 0
  else if 971 < q then infinite negative
  else finite negative m q

/-- The number nearest to `digits * 10 ^ exponent`. Magnitudes that overflow or vanish for sure
are settled before any power is computed. -/
def ofDecimal (negative : Bool) (digits : Nat) (exponent : Int) : Binary64 :=
  let size : Int := (Nat.toDigits 10 digits).length + exponent
  if digits = 0 ∨ size < -400 then finite negative 0 0
  else if 400 < size then infinite negative
  else
    let (numerator, denominator) := scaled digits 10 exponent
    ofRatio negative numerator denominator

/-- The least `p` with `value < 10 ^ p`, looking up from `p`. -/
def magnitudeFrom (numerator denominator : Nat) : (fuel : Nat) → (p : Int) → Int
  | 0, p => p
  | fuel + 1, p =>
    let (n, d) := scaled 1 10 p
    if numerator * d < n * denominator then p
    else magnitudeFrom numerator denominator fuel (p + 1)

/-- Tries 1, 2, … digits and returns the first grid with a point in the rounding interval, as
digits and the power of ten of the last one. Lengths are in units of a quarter of `2 ^ q`. -/
def shortestFrom (m : Nat) (q : Int) (magnitude : Int) : (fuel count : Nat) → Nat × Int
  | 0, count => (0, magnitude - count)
  | fuel + 1, count =>
    let grid := magnitude - count
    let (gridTop, gridBottom) := scaled 1 10 grid
    let (unitTop, unitBottom) := scaled 1 2 (q - 2)
    -- a decimal `k * 10 ^ grid` equals `k * step / unit` quarters
    let step := gridTop * unitBottom
    let unit := gridBottom * unitTop
    let value := 4 * m * unit
    let low := (if m = fullLength ∧ -1074 < q then 4 * m - 1 else 4 * m - 2) * unit
    let high := (4 * m + 2) * unit
    let inside (k : Nat) : Bool :=
      if m % 2 = 0 then low ≤ k * step && k * step ≤ high
      else low < k * step && k * step < high
    let below := value / step
    let above := below + 1
    let nearest := roundDiv value step
    if inside nearest then (nearest, grid)
    else if inside below then (below, grid)
    else if inside above then (above, grid)
    else shortestFrom m q magnitude fuel (count + 1)

/-- The digits end in no zero. -/
def trimZeros : (fuel : Nat) → Nat → Int → Nat × Int
  | 0, n, e => (n, e)
  | fuel + 1, n, e => if n ≠ 0 ∧ n % 10 = 0 then trimZeros fuel (n / 10) (e + 1) else (n, e)

/-- The fewest digits that read back, nearest first, and the power of ten of the last digit. -/
def shortest (m : Nat) (q : Int) : Nat × Int :=
  if m = 0 then (0, 0)
  else
    let (numerator, denominator) := scaled m 2 q
    let (digits, e) := shortestFrom m q (magnitudeFrom numerator denominator 800 (-330)) 17 1
    trimZeros 20 digits e

/-- Positional from `10 ^ -4` up to `10 ^ 16`, with at least one digit after the point; beyond
that an exponent of at least two digits with its sign. -/
def layout (digits : Nat) (e : Int) : String :=
  let shown := Nat.toDigits 10 digits
  let count : Int := shown.length
  let leading := count + e - 1
  if digits = 0 then "0.0"
  else if -4 ≤ leading ∧ leading < 16 then
    if 0 ≤ e then String.ofList (shown ++ List.replicate e.toNat '0') ++ ".0"
    else if 0 ≤ leading then
      String.ofList (shown.take (count + e).toNat) ++ "." ++
        String.ofList (shown.drop (count + e).toNat)
    else "0." ++ String.ofList (List.replicate (-leading - 1).toNat '0' ++ shown)
  else
    let body := match shown with
      | [] => ""
      | [d] => String.ofList [d]
      | d :: rest => String.ofList (d :: '.' :: rest)
    let power := Nat.toDigits 10 leading.natAbs
    let padded := if power.length < 2 then '0' :: power else power
    body ++ (if leading < 0 then "e-" else "e+") ++ String.ofList padded

def toText : Binary64 → String
  | infinite negative => if negative then "-inf" else "inf"
  | finite negative m q =>
    let (digits, e) := shortest m q
    (if negative then "-" else "") ++ layout digits e

/-- Below zero, so that its sign is not that of a zero. -/
def isNegative : Binary64 → Bool
  | infinite negative => negative
  | finite negative m _ => negative && m != 0

/-- The 1024th power of 2: finite numbers are below it. -/
def beyond : Nat := Nat.pow 2 1024

/-- Numerator and denominator. An infinite value counts as `beyond`, which no finite one reaches. -/
def ratio : Binary64 → Int × Nat
  | infinite negative => (if negative then -(beyond : Int) else beyond, 1)
  | finite negative m q =>
    let (numerator, denominator) := scaled m 2 q
    (if negative then -(numerator : Int) else numerator, denominator)

/-- The largest integer that is not above it. -/
def floor (x : Binary64) : Int := x.ratio.1.fdiv x.ratio.2

/-- It is greater than an integer. -/
def isAbove (x : Binary64) (n : Int) : Bool := n * x.ratio.2 < x.ratio.1

/-- The sum with an integer, rounded. -/
def plus (x : Binary64) (n : Int) : Binary64 :=
  match x with
  | infinite negative => infinite negative
  | finite .. =>
    let (numerator, denominator) := x.ratio
    let sum := numerator + n * denominator
    ofRatio (sum < 0) sum.natAbs denominator

/-- The integer it equals, if there is one. -/
def toInt? : Binary64 → Option Int
  | infinite _ => none
  | finite negative m q =>
    let (numerator, denominator) := scaled m 2 q
    if numerator % denominator = 0 then
      let n : Int := (numerator / denominator : Nat)
      some (if negative then -n else n)
    else none

end Binary64

end Highlight
