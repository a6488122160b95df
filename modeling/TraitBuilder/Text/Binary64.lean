/-!
# Numbers with 53 significant bits

Non-negative fractions, and rounding of a fraction to the nearest one whose numerator has at most
53 bits over a power of two; of two equally near ones, that with the even numerator.  An operation
on such numbers is the exact operation followed by the rounding.
-/

namespace TraitBuilder.Text

/-- The fraction `num / den` of natural numbers. -/
structure Fraction where
  num : Nat
  den : Nat
  den_pos : 0 < den := by decide

namespace Fraction

/-- Whether `x` is less than `y`. -/
def lt (x y : Fraction) : Bool := x.num * y.den < y.num * x.den

/-- The fraction with denominator one. -/
def ofNat (n : Nat) : Fraction := ⟨n, 1, by decide⟩

/-- The quotient `n / d` to the nearest natural number, an exact half to the even one. -/
def roundedQuotient (n d : Nat) : Nat :=
  let q := n / d
  let r := n % d
  if 2 * r < d then q else if d < 2 * r then q + 1 else q + q % 2

/-- The number of binary places that leave 53 significant bits in the fraction `x`, provided `x` is
below `2 ^ 52`. -/
def places (x : Fraction) : Nat :=
  let guess := 53 + Nat.log2 x.den - Nat.log2 x.num
  if x.den <<< 53 ≤ x.num <<< guess then guess - 1 else guess

/-- The nearest fraction with 53 significant bits. -/
def rounded (x : Fraction) : Fraction :=
  let k := x.places
  ⟨roundedQuotient (x.num <<< k) x.den, 1 <<< k, Nat.one_shiftLeft k ▸ Nat.two_pow_pos k⟩

/-- The rounded quotient of two natural numbers, zero if the divisor is zero. -/
def ratio (n d : Nat) : Fraction :=
  if h : 0 < d then rounded ⟨n, d, h⟩ else ofNat 0

/-- The rounded sum. -/
def add (x y : Fraction) : Fraction :=
  rounded ⟨x.num * y.den + y.num * x.den, x.den * y.den, Nat.mul_pos x.den_pos y.den_pos⟩

/-- The rounded product. -/
def mul (x y : Fraction) : Fraction :=
  rounded ⟨x.num * y.num, x.den * y.den, Nat.mul_pos x.den_pos y.den_pos⟩

/-- The rounded difference from one, zero if `x` exceeds one. -/
def complement (x : Fraction) : Fraction := rounded ⟨x.den - x.num, x.den, x.den_pos⟩

/-- The rounded third part. -/
def third (x : Fraction) : Fraction :=
  rounded ⟨x.num, x.den * 3, Nat.mul_pos x.den_pos (by decide)⟩

end Fraction

end TraitBuilder.Text
