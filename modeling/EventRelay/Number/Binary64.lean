/-!
# Binary floating point in exact arithmetic

A finite binary64 number is its sign and the sixty-three bits of its magnitude, taken as a
natural number: the exponent field above the fifty-two bits of the fraction. The order of these
naturals is the order of the magnitudes, and the next natural is the next magnitude. All
operations here are exact arithmetic on naturals followed by one rounding to nearest, ties to
even, so their results are those of the hardware.
-/

namespace EventRelay.Number

/-- `n / d` rounded to the nearest natural, a half to the even neighbour. -/
def roundHalfEven (n d : Nat) : Nat :=
  let q := n / d
  let r := n % d
  if 2 * r < d then q else if d < 2 * r then q + 1 else q + q % 2

/-- The bits of the first magnitude that is not finite. -/
def infinityBits : Nat := 2047 * Nat.pow 2 52

/-- A finite binary64 number. -/
structure Binary64 where
  /-- The sign; a zero has one too. -/
  negative : Bool
  /-- Exponent field and fraction of the magnitude. -/
  bits : Nat
  finite : bits < infinityBits
deriving DecidableEq, Repr

namespace Binary64

/-- Positive zero. -/
def zero : Binary64 := ⟨false, 0, by decide⟩

/-- The number with the opposite sign. -/
def neg (x : Binary64) : Binary64 := { x with negative := !x.negative }

/-- The integer `m` for which the magnitude is `m · 2 ^ exponent`. -/
def significand (x : Binary64) : Nat :=
  if x.bits < Nat.pow 2 52 then x.bits else Nat.pow 2 52 + x.bits % Nat.pow 2 52

/-- The exponent of two that goes with the significand. -/
def exponent (x : Binary64) : Int := (max (x.bits / Nat.pow 2 52) 1 : Nat) - 1075

/-- The magnitude as a numerator and a denominator. -/
def ratio (x : Binary64) : Nat × Nat :=
  match x.exponent with
  | .ofNat e => (x.significand * Nat.pow 2 e, 1)
  | .negSucc e => (x.significand, Nat.pow 2 (e + 1))

/-- `num / den` scaled by a power of two, as a ratio again. -/
def scaleRatio (num den : Nat) : Int → Nat × Nat
  | .ofNat e => (num * Nat.pow 2 e, den)
  | .negSucc e => (num, den * Nat.pow 2 (e + 1))

/-- The exponent of two at which the quotient `num / den` has a significand of fifty-three bits,
or the least exponent if that is larger. -/
def quotientExponent (num den : Nat) : Int :=
  let guess : Int := (num.log2 : Int) - (den.log2 : Int)
  let (n, d) := scaleRatio num den (-guess)
  let floor := if d ≤ n then guess else guess - 1
  max (floor - 52) (-1074)

/-- The bits of the magnitude nearest to `num / den`, which may reach infinity. -/
def nearestBits (num den : Nat) : Nat :=
  if num = 0 then 0 else
    let q := quotientExponent num den
    let (n, d) := scaleRatio num den (-q)
    (q + 1074).toNat * Nat.pow 2 52 + roundHalfEven n d

/-- The positive number nearest to `num / den`; nothing where that is infinite. -/
def ofRatio? (num den : Nat) : Option Binary64 :=
  let b := nearestBits num den
  if h : b < infinityBits then some ⟨false, b, h⟩ else none

/-- The positive number nearest to a natural. -/
def ofNat? (n : Nat) : Option Binary64 := ofRatio? n 1

/-- The magnitude of a product. -/
def mul? (x y : Binary64) : Option Binary64 :=
  ofRatio? (x.ratio.1 * y.ratio.1) (x.ratio.2 * y.ratio.2)

/-- The magnitude of a quotient by a number that is not zero. -/
def div? (x y : Binary64) : Option Binary64 :=
  ofRatio? (x.ratio.1 * y.ratio.2) (x.ratio.2 * y.ratio.1)

/-- The positive number nearest to `digits · 10 ^ exponent`, rounded once. -/
def ofDecimal? (digits : Nat) : (exponent : Int) → Option Binary64
  | .ofNat e =>
    if digits = 0 then some zero
    else if 310 ≤ e then none
    else ofNat? (digits * Nat.pow 10 e)
  | .negSucc e =>
    if 400 + digits.log2 < e then some zero else ofRatio? digits (Nat.pow 10 (e + 1))

/-- The order of magnitudes with their signs; the two zeros are equal. -/
def isPositive (x : Binary64) : Bool := !x.negative && x.bits != 0

end Binary64

/-- A real number as a configuration may hold it: finite, an infinity, or no number. -/
inductive Extended where
  | finite (x : Binary64)
  | infinite (negative : Bool)
  | notANumber
deriving DecidableEq, Repr

/-- The number nearest to an integer. -/
def Extended.ofInt (n : Int) : Extended :=
  match Binary64.ofNat? n.natAbs with
  | some x => .finite (if n < 0 then x.neg else x)
  | none => .infinite (n < 0)

end EventRelay.Number
