/-!
# Whole numbers of floating-point values

`wholeText` writes the whole number nearest to a floating-point value in all its digits; a half goes
to the even neighbour.  The value is taken apart into a sign, a natural number and a power of two,
so the rounding is exact.
-/

namespace CommitPolicy.Text

/-- The quotient of two natural numbers, rounded to the nearest; a half goes to the even
neighbour. -/
def roundDiv (a b : Nat) : Nat :=
  let q := a / b
  let r := 2 * (a % b)
  if b < r || (r = b && q % 2 = 1) then q + 1 else q

/-- The whole number nearest to `m` times the power of two with exponent `e`. -/
def roundScaled (m : Nat) (e : Int) : Nat :=
  if 0 ≤ e then m <<< e.toNat else roundDiv m (1 <<< (-e).toNat)

/-- The sign, the digits and the binary exponent of a finite value. -/
def floatParts (x : Float) : Bool × Nat × Int :=
  let bits : Nat := x.toBits.toNat
  let exponent : Nat := (bits >>> 52) % 0x800
  let fraction : Nat := bits % 0x10000000000000
  let negative := 0x8000000000000000 ≤ bits
  if exponent = 0 then (negative, fraction, -1074)
  else (negative, fraction + 0x10000000000000, (exponent : Int) - 1075)

/-- The whole number nearest to a value, with its sign. -/
def wholeText (x : Float) : String :=
  if x.isNaN then "nan"
  else if x.isInf then if x < 0 then "-inf" else "inf"
  else
    let (negative, m, e) := floatParts x
    (if negative then "-" else "") ++ toString (roundScaled m e)

end CommitPolicy.Text
