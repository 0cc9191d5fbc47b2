import ModuleAudit.Decimal.Binary64

/-!
# Decimal notation

The text of a double is the shortest decimal that reads back as that double,
and among the shortest ones the nearest. For each number of digits the two
neighbours of the value on that decimal grid are tried, so the first hit has
the fewest digits.

The digits are written positionally for exponents from -4 to 15 and with an
exponent mark otherwise.

Ratios in the statistics are written with six digits after the point instead.
The exact value of the double is rounded, a tie going to the even last digit.
-/

namespace ModuleAudit.Decimal

/-- A positive decimal `digits * 10 ^ exponent`. -/
structure Scaled where
  digits : Nat
  exponent : Int

/-- Whether `num / den < 10 ^ e`. -/
def belowPower (num den : Nat) (e : Int) : Bool :=
  if 0 ≤ e then num < den * Nat.pow 10 e.toNat else num * Nat.pow 10 (-e).toNat < den

/-- The number of digits before the point: the least `e` with `num / den` below
`10 ^ e`, sought upwards from `e` in at most `fuel` steps. -/
def pointPlace (num den : Nat) : Nat → Int → Int
  | 0, e => e
  | fuel + 1, e => if belowPower num den e then e else pointPlace num den fuel (e + 1)

/-- The value over the unit `10 ^ e`, as numerator and denominator. -/
def overUnit (num den : Nat) (e : Int) : Nat × Nat :=
  if 0 ≤ e then (num, den * Nat.pow 10 e.toNat) else (num * Nat.pow 10 (-e).toNat, den)

/-- The neighbours of `num / den` among the multiples of `10 ^ e`, the nearer
one first; of two equally near ones the even one is first. -/
def neighbours (num den : Nat) (e : Int) : List Nat :=
  let parts := overUnit num den e
  let low := parts.1 / parts.2
  let near := roundDiv parts.1 parts.2
  if near = low then [low, low + 1] else [low + 1, low]

/-- The first decimal among growing numbers of digits that reads back as `x`.
`place` is the number of digits before the point. -/
def shortestFrom (x : Binary64) (num den : Nat) (place : Int) : Nat → Nat → Scaled
  | 0, count => ⟨(neighbours num den (place - count)).headD 0, place - count⟩
  | fuel + 1, count =>
    let e := place - count
    let hits := (neighbours num den e).filter fun d => Binary64.ofDecimal false d e == x
    match hits with
    | d :: _ => ⟨d, e⟩
    | [] => shortestFrom x num den place fuel (count + 1)

/-- The shortest decimal that reads back as the positive double `num / den`. -/
def shortest (x : Binary64) (num den : Nat) : Scaled :=
  let guess : Int := ((num.log2 : Int) - den.log2) * 3 / 10 - 2
  shortestFrom x num den (pointPlace num den 400 guess) 16 1

def trimZeros (digits : List Char) : List Char :=
  (digits.reverse.dropWhile fun c => c = '0').reverse

/-- The exponent mark: a sign and at least two digits. -/
def exponentText (e : Int) : List Char :=
  let digits := Nat.toDigits 10 e.natAbs
  'e' :: (if e < 0 then '-' else '+') ::
    (if digits.length < 2 then '0' :: digits else digits)

/-- Lay out significant digits whose first one stands at `10 ^ e`. -/
def layout (digits : List Char) (e : Int) : List Char :=
  if e < -4 || 16 ≤ e then
    digits.take 1 ++ (if digits.length ≤ 1 then [] else '.' :: digits.drop 1) ++ exponentText e
  else if e < 0 then
    '0' :: '.' :: List.replicate (-e - 1).toNat '0' ++ digits
  else
    let whole := (e + 1).toNat
    if digits.length ≤ whole then
      digits ++ List.replicate (whole - digits.length) '0' ++ ['.', '0']
    else digits.take whole ++ '.' :: digits.drop whole

def text (x : Binary64) : String :=
  match x with
  | .nan => "nan"
  | .infinite negative => if negative then "-inf" else "inf"
  | .finite negative m e =>
    let sign := if negative then ['-'] else []
    if m = 0 then String.ofList (sign ++ ['0', '.', '0'])
    else
      let (num, den) := Binary64.magnitude m e
      let d := shortest (.finite false m e) num den
      let digits := Nat.toDigits 10 d.digits
      let first : Int := d.exponent + digits.length - 1
      String.ofList (sign ++ layout (trimZeros digits) first)

/-! ## Six decimals -/

/-- The digits after the point. -/
def places : Nat := 6

/-- A number of millionths with a point before its last six digits. -/
def millionths (n : Nat) : String :=
  let digits := Nat.toDigits 10 n
  let padded := List.replicate (places + 1 - digits.length) '0' ++ digits
  let whole := padded.length - places
  String.ofList (padded.take whole ++ '.' :: padded.drop whole)

/-- A double with six digits after the point. -/
def fixed (x : Binary64) : String :=
  match x with
  | .nan => "nan"
  | .infinite negative => if negative then "-inf" else "inf"
  | .finite negative m e =>
    let (num, den) := Binary64.magnitude m e
    (if negative then "-" else "") ++ millionths (roundDiv (num * Nat.pow 10 places) den)

end ModuleAudit.Decimal
