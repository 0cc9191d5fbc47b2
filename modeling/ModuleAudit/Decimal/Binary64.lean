/-!
# Double-precision numbers

A finite double is a signed mantissa times a power of two. `ofRatio` rounds an
exact quotient to the nearest double, a tie going to the even mantissa; reading
a decimal and dividing two counts are both instances of it. Arithmetic stays in
the naturals, so nothing here depends on machine floats.
-/

namespace ModuleAudit

/-- A double-precision number. A finite one is `± mantissa * 2 ^ exponent`. -/
inductive Binary64 where
  | finite (negative : Bool) (mantissa : Nat) (exponent : Int)
  | infinite (negative : Bool)
  | nan
deriving DecidableEq, Repr, Inhabited

/-- The natural number nearest to a quotient; a tie goes to the even one. -/
def roundDiv (num den : Nat) : Nat :=
  let q := num / den
  let r := num % den
  if 2 * r < den then q
  else if 2 * r = den ∧ q % 2 = 0 then q
  else q + 1

namespace Binary64

def precision : Nat := 53

def minExponent : Int := -1074

def maxExponent : Int := 971

def zero (negative : Bool) : Binary64 := .finite negative 0 minExponent

/-- A fraction that is `num / den / 2 ^ e`, as numerator and denominator. -/
def scaled (num den : Nat) (e : Int) : Nat × Nat :=
  if 0 ≤ e then (num, den * Nat.pow 2 e.toNat) else (num * Nat.pow 2 (-e).toNat, den)

/-- The exponent at which the quotient has a full mantissa, or the least one. -/
def exponentFor (num den : Nat) : Int :=
  let guess : Int := (num.log2 : Int) - den.log2 - precision
  let parts := scaled num den guess
  let exact := if parts.1 / parts.2 < Nat.pow 2 precision then guess else guess + 1
  if exact < minExponent then minExponent else exact

/-- The double nearest to `± num / den`. -/
def ofRatio (negative : Bool) (num den : Nat) : Binary64 :=
  if num = 0 then zero negative
  else
    let e := exponentFor num den
    let parts := scaled num den e
    let m := roundDiv parts.1 parts.2
    let carried := m = Nat.pow 2 precision
    let m := if carried then Nat.pow 2 (precision - 1) else m
    let e := if carried then e + 1 else e
    if e > maxExponent then .infinite negative else .finite negative m e

/-- The double nearest to `± digits * 10 ^ exponent`. Exponents beyond the range
of doubles are answered without computing the power. -/
def ofDecimal (negative : Bool) (digits : Nat) (exponent : Int) : Binary64 :=
  let magnitude : Int := (Nat.toDigits 10 digits).length + exponent
  if digits = 0 then zero negative
  else if magnitude > 310 then .infinite negative
  else if magnitude < -330 then zero negative
  else if 0 ≤ exponent then ofRatio negative (digits * Nat.pow 10 exponent.toNat) 1
  else ofRatio negative digits (Nat.pow 10 (-exponent).toNat)

/-- The value `m * 2 ^ e` as a quotient of naturals. -/
def magnitude (m : Nat) (e : Int) : Nat × Nat :=
  if 0 ≤ e then (m * Nat.pow 2 e.toNat, 1) else (m, Nat.pow 2 (-e).toNat)

/-- Whether a double is zero, of either sign. -/
def isZero : Binary64 → Bool
  | .finite _ m _ => m == 0
  | _ => false

def equalsInt (x : Binary64) (i : Int) : Bool :=
  match x with
  | .finite negative m e =>
    let (num, den) := magnitude m e
    (if negative then -(num : Int) else num) == i * den
  | _ => false

/-- Whether two doubles stand for the same value: the two zeros do. -/
def sameValue (x y : Binary64) : Bool := x == y || (x.isZero && y.isZero)

end Binary64

end ModuleAudit
