/-!
Binary floating-point numbers with 53 significant bits, as exact pairs `mantissa · 2 ^ exponent`.
Rounding takes the nearest such number, a tie to the even mantissa; the written form has the fewest
digits that read back.
-/
namespace DebugGateway.Number

/-- The finite number `± mantissa · 2 ^ exponent`. The mantissa has 53 bits unless the exponent is
the least one, so each number has one form. -/
structure Double where
  negative : Bool
  mantissa : Nat
  exponent : Int
deriving DecidableEq, Repr

namespace Double

def leastExponent : Int := -1074

def greatestExponent : Int := 971

def zero : Double := ⟨false, 0, leastExponent⟩

def isZero (x : Double) : Bool := x.mantissa == 0

def withSign (negative : Bool) (x : Double) : Double := { x with negative }

def roundDiv (num den : Nat) : Nat :=
  let q := num / den
  let r := num % den
  if 2 * r < den then q
  else if den < 2 * r then q + 1
  else if q % 2 = 0 then q else q + 1

def scaled (num den : Nat) (q : Int) : Nat × Nat :=
  if q < 0 then (num * Nat.pow 2 (-q).toNat, den) else (num, den * Nat.pow 2 q.toNat)

/-- The exponent at which `num / den` has 53 bits before the point, or the least one. -/
def exponentOf (num den : Nat) : Int :=
  let guess : Int := (num.log2 : Int) - (den.log2 : Int) - 52
  let s := scaled num den guess
  max leastExponent (if s.1 < Nat.pow 2 52 * s.2 then guess - 1 else guess)

def ofRatio (num den : Nat) : Option Double :=
  if num = 0 then some zero
  else
    let q := exponentOf num den
    let s := scaled num den q
    let m := roundDiv s.1 s.2
    let (m, q) := if m = Nat.pow 2 53 then (Nat.pow 2 52, q + 1) else (m, q)
    if greatestExponent < q then none else some ⟨false, m, q⟩

def ratio (x : Double) : Nat × Nat :=
  if x.exponent < 0 then (x.mantissa, Nat.pow 2 (-x.exponent).toNat)
  else (x.mantissa * Nat.pow 2 x.exponent.toNat, 1)

def mul (x y : Double) : Option Double :=
  ofRatio (x.ratio.1 * y.ratio.1) (x.ratio.2 * y.ratio.2)

/-- The rounded quotient of two numbers that are not negative, the second not zero. -/
def div (x y : Double) : Option Double :=
  ofRatio (x.ratio.1 * y.ratio.2) (x.ratio.2 * y.ratio.1)

def powerOfTen (e : Nat) : Double :=
  (ofRatio (Nat.pow 10 e) 1).getD zero

def greatestPower : Nat := 308

/-- Divides by the greatest power of ten at most `times` times, until the rest of the exponent is
one that `powerOfTen` has. -/
def shrink : (times : Nat) → Double → (down : Nat) → Double
  | 0, _, _ => zero
  | times + 1, x, down =>
    if x.isZero then x
    else if down ≤ greatestPower then (x.div (powerOfTen down)).getD zero
    else shrink times ((x.div (powerOfTen greatestPower)).getD zero) (down - greatestPower)

/-- `significand · 10 ^ e`, rounded after each step: to a number, then by one power of ten (and by
the greatest power of ten first where `e` asks for more). None above the largest number. -/
def ofDecimal (significand : Nat) (e : Int) : Option Double :=
  let x := (ofRatio significand 1).getD zero
  if 0 ≤ e then
    if e.toNat ≤ greatestPower then x.mul (powerOfTen e.toNat)
    else if x.isZero then some x else none
  else
    some (shrink ((-e).toNat / greatestPower + 1) x (-e).toNat)

/-- Digits `d` with the power of ten of the last one: `d · 10 ^ e`. -/
structure Decimal where
  digits : Nat
  exponent : Int
deriving DecidableEq, Repr

def overTen (num den : Nat) (e : Int) : Nat × Nat :=
  if e < 0 then (num * Nat.pow 10 (-e).toNat, den) else (num, den * Nat.pow 10 e.toNat)

/-- Whether `d · 10 ^ e` rounds to the number: it lies within half a unit of the mantissa, on the
edge only if the mantissa is even; below a power of two the unit is half as large. -/
def readsBack (x : Double) (d : Decimal) : Bool :=
  let (num, den) : Nat × Nat :=
    if d.exponent < 0 then (d.digits, Nat.pow 10 (-d.exponent).toNat)
    else (d.digits * Nat.pow 10 d.exponent.toNat, 1)
  let (n, s) := scaled num den (x.exponent - 2)
  let mid := 4 * x.mantissa
  let low := if x.mantissa = Nat.pow 2 52 ∧ x.exponent ≠ leastExponent then mid - 1 else mid - 2
  let high := mid + 2
  if x.mantissa % 2 = 0 then low * s ≤ n ∧ n ≤ high * s else low * s < n ∧ n < high * s

/-- How far apart two decimals of one exponent are from a quotient, in that exponent's unit. -/
def nearer (num den : Nat) (low : Nat) : Nat :=
  let r := 2 * (num - low * den)
  if r < den then low
  else if den < r then low + 1
  else if low % 2 = 0 then low else low + 1

/-- The neighbour on the grid `10 ^ e` that reads back, the nearer one if both do. -/
def onGrid (x : Double) (e : Int) : Option Decimal :=
  let (num, den) := x.ratio
  let (n, d) := overTen num den e
  let low := n / d
  let below : Decimal := ⟨low, e⟩
  let above : Decimal := ⟨low + 1, e⟩
  match low != 0 && x.readsBack below, x.readsBack above with
  | true, true => some ⟨nearer n d low, e⟩
  | true, false => some below
  | false, true => some above
  | false, false => none

def topExponent (x : Double) : Int :=
  let (num, den) := x.ratio
  let digits (n : Nat) : Int := (Nat.toDigits 10 n).length
  if den ≤ num then digits (num / den) else 1 - digits (den / num)

def search (x : Double) : (steps : Nat) → (e : Int) → Decimal
  | 0, e => ⟨x.mantissa, e⟩
  | steps + 1, e => (x.onGrid e).getD (search x steps (e - 1))

def Decimal.trimmed : (steps : Nat) → Decimal → Decimal
  | 0, d => d
  | steps + 1, d =>
    if d.digits % 10 = 0 then trimmed steps ⟨d.digits / 10, d.exponent + 1⟩ else d

def shortest (x : Double) : Decimal :=
  (search x 20 x.topExponent).trimmed 20

/-- Numbers whose first digit counts `10 ^ e` with `e` in these bounds are written without an
exponent. -/
def plainBounds : Int × Int := (-5, 15)

/-- The written form: plain with at least one decimal inside `plainBounds`, else one digit before
the point and a signed exponent. -/
def render (x : Double) : List Char :=
  let sign := if x.negative then ['-'] else []
  if x.isZero then sign ++ ['0', '.', '0']
  else
    let d := x.shortest
    let digits := Nat.toDigits 10 d.digits
    let point : Int := digits.length + d.exponent
    let e := point - 1
    sign ++
      if plainBounds.1 ≤ e ∧ e ≤ plainBounds.2 then
        if 0 ≤ d.exponent then digits ++ List.replicate d.exponent.toNat '0' ++ ['.', '0']
        else if 0 < point then digits.take point.toNat ++ '.' :: digits.drop point.toNat
        else '0' :: '.' :: List.replicate (-point).toNat '0' ++ digits
      else
        let fraction := if digits.length = 1 then [] else '.' :: digits.drop 1
        let mark := if e < 0 then ['e', '-'] else ['e', '+']
        digits.take 1 ++ fraction ++ mark ++ Nat.toDigits 10 e.natAbs

end Double

end DebugGateway.Number
