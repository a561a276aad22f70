import EventRelay.Number.Binary64

/-!
# Shortest decimals

The decimal that stands for a binary64 magnitude is the one with the fewest digits among those
that read back as it, and of several with as few digits the one nearest to it. Of two that are
equally near the one with the even last digit is taken.
-/

namespace EventRelay.Number

/-- A positive decimal: `digits · 10 ^ exponent`. -/
structure Decimal where
  digits : Nat
  exponent : Int
deriving DecidableEq, Repr

/-- The decimal digits of a natural, most significant first. -/
def decimalDigits (n : Nat) : List Char := Nat.toDigits 10 n

/-- `n / d` times a power of ten, as a ratio again. -/
def scaleTen (n d : Nat) : Int → Nat × Nat
  | .ofNat e => (n * Nat.pow 10 e, d)
  | .negSucc e => (n, d * Nat.pow 10 (e + 1))

/-- The exponent of the leading decimal digit of `n / d`, for `n` and `d` not zero. -/
def leadingExponent (n d : Nat) : Int :=
  if d ≤ n then (decimalDigits (n / d)).length - 1
  else
    let k := (decimalDigits (d / n)).length
    if d ≤ n * Nat.pow 10 (k - 1) then 1 - (k : Int) else -(k : Int)

namespace Binary64

/-- Whether a decimal reads back as the magnitude `x`. -/
def readsBack (x : Binary64) (d : Decimal) : Bool :=
  (ofDecimal? d.digits d.exponent).any (·.bits == x.bits)

/-- The neighbour of `x` among the decimals with `n` digits that reads back as `x`, the nearer
one if both do, and the even one if both are equally near. -/
def onGrid? (x : Binary64) (n : Nat) : Option Decimal :=
  let (num, den) := x.ratio
  let exponent := leadingExponent num den - n + 1
  let (p, q) := scaleTen num den (-exponent)
  let below : Decimal := ⟨p / q, exponent⟩
  let above : Decimal :=
    if p / q + 1 = Nat.pow 10 n then ⟨1, exponent + n⟩ else ⟨p / q + 1, exponent⟩
  match x.readsBack below, x.readsBack above with
  | true, true => some (if roundHalfEven p q = p / q then below else above)
  | true, false => some below
  | false, true => some above
  | false, false => none

/-- The shortest decimal of a magnitude; seventeen digits are always enough. -/
def shortest (x : Binary64) : Decimal :=
  ((List.range' 1 17).findSome? x.onGrid?).getD ⟨0, 0⟩

end Binary64
end EventRelay.Number
