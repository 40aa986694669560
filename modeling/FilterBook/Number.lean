import FilterBook.Number.Shortest

/-!
The numbers of a document: whole numbers that fit 64 bits, signed or unsigned, and finite doubles.
A whole number is written in decimal. A double is written with its shortest digits, in positions
when its first digit stands between `10 ^ (-5)` and `10 ^ 15` and always with a fraction, otherwise
with an exponent.
-/

namespace FilterBook

/-- The smallest signed 64-bit number. -/
def leastInteger : Int := -9223372036854775808

/-- The largest signed 64-bit number. -/
def greatestSigned : Int := 9223372036854775807

/-- The largest unsigned 64-bit number. -/
def greatestInteger : Int := 18446744073709551615

inductive Number where
  | integer (value : Int) (fits : leastInteger ≤ value ∧ value ≤ greatestInteger)
  | double (value : Double)
deriving DecidableEq

namespace Number

def ofInt? (value : Int) : Option Number :=
  if fits : leastInteger ≤ value ∧ value ≤ greatestInteger then some (.integer value fits) else none

/-- The digits of a natural number, in decimal. -/
def writeNat (n : Nat) : List Char :=
  Nat.toDigits 10 n

def writeInt : Int → List Char
  | .ofNat n => writeNat n
  | .negSucc n => '-' :: writeNat (n + 1)

/-- Lays out decimal digits around the point, which stands after `point` of them. -/
def writePositional (digits : List Char) (point : Int) : List Char :=
  if point ≤ 0 then
    ['0', '.'] ++ List.replicate (-point).toNat '0' ++ digits
  else if (digits.length : Int) ≤ point then
    digits ++ List.replicate (point.toNat - digits.length) '0' ++ ['.', '0']
  else
    digits.take point.toNat ++ '.' :: digits.drop point.toNat

/-- Writes decimal digits with one digit before the point and an exponent. -/
def writeScientific (digits : List Char) (exponent : Int) : List Char :=
  let fraction := match digits.drop 1 with
    | [] => []
    | rest => '.' :: rest
  let sign := if exponent < 0 then '-' else '+'
  digits.take 1 ++ fraction ++ 'e' :: sign :: writeNat exponent.natAbs

def writeDouble (x : Double) : List Char :=
  let sign := if x.negative then ['-'] else []
  if x.isZero then
    sign ++ ['0', '.', '0']
  else
    let shortest := x.shortest
    let digits := writeNat shortest.digits
    let exponent : Int := (digits.length : Int) - 1 + shortest.exponent
    if -5 ≤ exponent ∧ exponent ≤ 15 then sign ++ writePositional digits (exponent + 1)
    else sign ++ writeScientific digits exponent

def write : Number → List Char
  | .integer value _ => writeInt value
  | .double x => writeDouble x

end Number

end FilterBook
