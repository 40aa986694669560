import FilterBook.Number.Double

/-!
The shortest decimal digits that read back as a given double. For one digit, two digits and so on,
the two decimals of that many digits nearest to the value are tried; the first that round to the
double win, of two the nearer, and on a tie the even one. Seventeen digits always suffice.
-/

namespace FilterBook.Double

/-- The decimal `digits * 10 ^ exponent`. -/
structure Decimal where
  digits : Nat
  exponent : Int
deriving DecidableEq, Repr

/-- The least `k` below the fuel with `den ≤ num * 10 ^ k`. -/
def powerToReach (num den : Nat) : Nat → Nat
  | 0 => 0
  | fuel + 1 => if den ≤ num then 0 else powerToReach (num * 10) den fuel + 1

/-- The exponent of the first decimal digit of `num / den`. -/
def decimalExponent (num den : Nat) : Int :=
  if den ≤ num then ((Nat.toDigits 10 (num / den)).length : Int) - 1
  else -(powerToReach num den 400 : Int)

/-- A double's neighbourhood, all over one denominator: the value, and the ends of the interval of
reals that round to it. -/
structure Neighbourhood where
  low : Nat
  value : Nat
  high : Nat
  den : Nat
  closed : Bool

def neighbourhood (x : Double) : Neighbourhood :=
  let scale := Nat.pow 2 (x.exponent - 2).toNat
  let below :=
    if x.significand = Nat.pow 2 52 ∧ x.exponent > leastExponent then 4 * x.significand - 1
    else 4 * x.significand - 2
  { low := below * scale
    value := 4 * x.significand * scale
    high := (4 * x.significand + 2) * scale
    den := Nat.pow 2 (2 - x.exponent).toNat
    closed := x.significand % 2 == 0 }

/-- Whether `a * 10 ^ exponent` rounds to the double. -/
def Neighbourhood.holds (n : Neighbourhood) (a : Nat) (exponent : Int) : Bool :=
  let scaled := a * Nat.pow 10 exponent.toNat * n.den
  let unit := Nat.pow 10 (-exponent).toNat
  if n.closed then n.low * unit ≤ scaled && scaled ≤ n.high * unit
  else n.low * unit < scaled && scaled < n.high * unit

/-- The better of the two multiples of `10 ^ exponent` around the value, if one rounds to the
double. -/
def Neighbourhood.nearest? (n : Neighbourhood) (exponent : Int) : Option Decimal :=
  let num := n.value * Nat.pow 10 (-exponent).toNat
  let den := n.den * Nat.pow 10 exponent.toNat
  let floor := num / den
  match n.holds floor exponent, n.holds (floor + 1) exponent with
  | true, true => some ⟨roundHalfEven num den, exponent⟩
  | true, false => some ⟨floor, exponent⟩
  | false, true => some ⟨floor + 1, exponent⟩
  | false, false => none

/-- Drops the zeros at the end of the digits. -/
def Decimal.trimmed (fuel : Nat) (d : Decimal) : Decimal :=
  match fuel with
  | 0 => d
  | fuel + 1 =>
      if d.digits ≠ 0 ∧ d.digits % 10 = 0 then
        Decimal.trimmed fuel ⟨d.digits / 10, d.exponent + 1⟩
      else d

/-- The shortest decimal for a double other than zero. -/
def shortest (x : Double) : Decimal :=
  let n := x.neighbourhood
  let lead := decimalExponent n.value n.den
  match (List.range 17).findSome? fun (more : Nat) => n.nearest? (lead - (more : Int)) with
  | some d => d.trimmed 20
  | none => ⟨x.significand, x.exponent⟩

end FilterBook.Double
