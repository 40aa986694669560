/-!
Finite double-precision numbers, held exactly: a sign, a significand below `2 ^ 53` and a power of
two no smaller than `2 ^ (-1074)`. Every operation computes the exact ratio of two natural numbers
and rounds it once, to the nearest double and on a tie to the even significand.
-/

namespace FilterBook

/-- The double `± significand * 2 ^ exponent`. -/
structure Double where
  negative : Bool
  significand : Nat
  exponent : Int
deriving DecidableEq, Repr

/-- The quotient rounded to the nearest natural number, on a tie to the even one. -/
def roundHalfEven (num den : Nat) : Nat :=
  let floor := num / den
  let twice := 2 * (num % den)
  if twice < den ∨ (twice = den ∧ floor % 2 = 0) then floor else floor + 1

namespace Double

/-- The exponent of the doubles nearest to zero. -/
def leastExponent : Int := -1074

/-- The exponent of the largest doubles. -/
def greatestExponent : Int := 971

def zero (negative : Bool) : Double where
  negative := negative
  significand := 0
  exponent := leastExponent

/-- Numerator and denominator of the absolute value. -/
def ratio (x : Double) : Nat × Nat :=
  (x.significand * Nat.pow 2 x.exponent.toNat, Nat.pow 2 (-x.exponent).toNat)

/-- The exponent for which `num / den`, divided by its power of two, lies between `2 ^ 52` and
`2 ^ 53`, or the least exponent where that is larger. -/
def exponentFor (num den : Nat) : Int :=
  let guess : Int := (num.log2 : Int) - den.log2 - 52
  let exact :=
    if num * Nat.pow 2 (-guess).toNat < Nat.pow 2 52 * (den * Nat.pow 2 guess.toNat) then
      guess - 1
    else guess
  max exact leastExponent

/-- The double nearest to `± num / den`, or nothing where that is beyond the largest double. -/
def ofRatio? (negative : Bool) (num den : Nat) : Option Double :=
  if num = 0 then
    some (zero negative)
  else
    let exponent := exponentFor num den
    let rounded :=
      roundHalfEven (num * Nat.pow 2 (-exponent).toNat) (den * Nat.pow 2 exponent.toNat)
    let normal : Nat × Int :=
      if rounded = Nat.pow 2 53 then (Nat.pow 2 52, exponent + 1) else (rounded, exponent)
    if normal.2 > greatestExponent then none else some ⟨negative, normal.1, normal.2⟩

def ofNat? (n : Nat) : Option Double :=
  ofRatio? false n 1

/-- The correctly rounded value of `± digits * 10 ^ exponent`. -/
def ofDecimal? (negative : Bool) (digits : Nat) (exponent : Int) : Option Double :=
  ofRatio? negative (digits * Nat.pow 10 exponent.toNat) (Nat.pow 10 (-exponent).toNat)

/-- The product of the absolute values. -/
def mul? (x y : Double) : Option Double :=
  let (a, b) := x.ratio
  let (c, d) := y.ratio
  ofRatio? false (a * c) (b * d)

/-- The quotient of the absolute values. -/
def div? (x y : Double) : Option Double :=
  let (a, b) := x.ratio
  let (c, d) := y.ratio
  ofRatio? false (a * d) (b * c)

def isZero (x : Double) : Bool :=
  x.significand == 0

def withSign (negative : Bool) (x : Double) : Double :=
  { x with negative }

/-- The value without its fraction. -/
def truncate (x : Double) : Int :=
  let (num, den) := x.ratio
  if x.negative then -((num / den : Nat) : Int) else ((num / den : Nat) : Int)

end Double

end FilterBook
