import RequireForm.Text

/-!
# Shortest decimals — the fewest digits that read back

A positive binary number stands for every real that rounds to it. Among the decimals with
the fewest digits that do, the nearest one is its text; of two as near, the even one.

  1. `Binary`, and the reals that round to one.
  2. `Binary.shortest`: digits and a power of ten.
  3. `ofFloat`: the text of a number, positional from `10 ^ -5` up to `10 ^ 16`.
-/

namespace RequireForm

namespace Decimal

/-- The number `mantissa * 2 ^ exponent`; `tight` tells that the next smaller number is only
    half as far away as the next greater one. -/
structure Binary where
  mantissa : Nat
  exponent : Int
  tight : Bool

/-- A number over a denominator. -/
structure Fraction where
  num : Nat
  den : Nat

namespace Fraction

/-- The fraction `n * 2 ^ e`. -/
def scaled (n : Nat) (e : Int) : Fraction :=
  if 0 ≤ e then ⟨n * Nat.pow 2 e.toNat, 1⟩ else ⟨n, Nat.pow 2 (-e).toNat⟩

/-- The decimal `d * 10 ^ e`. -/
def decimal (d : Nat) (e : Int) : Fraction :=
  if 0 ≤ e then ⟨d * Nat.pow 10 e.toNat, 1⟩ else ⟨d, Nat.pow 10 (-e).toNat⟩

def le (a b : Fraction) : Bool := a.num * b.den ≤ b.num * a.den

def lt (a b : Fraction) : Bool := a.num * b.den < b.num * a.den

/-- How far apart two fractions are. -/
def distance (a b : Fraction) : Fraction :=
  ⟨max (a.num * b.den) (b.num * a.den) - min (a.num * b.den) (b.num * a.den), a.den * b.den⟩

end Fraction

namespace Binary

/-- The number in quarters of its last bit. -/
def quarters (b : Binary) (n : Nat) : Fraction := .scaled n (b.exponent - 2)

def value (b : Binary) : Fraction := b.quarters (4 * b.mantissa)

/-- Halfway to the next smaller number. -/
def low (b : Binary) : Fraction := b.quarters (4 * b.mantissa - if b.tight then 1 else 2)

/-- Halfway to the next greater number. -/
def high (b : Binary) : Fraction := b.quarters (4 * b.mantissa + 2)

/-- A fraction rounds to the number; halfway it does so if the mantissa is even. -/
def isRoundedTo (b : Binary) (x : Fraction) : Bool :=
  if b.mantissa % 2 = 0 then b.low.le x && x.le b.high else b.low.lt x && x.lt b.high

/-- A power of ten that is greater than the number. -/
def magnitude (b : Binary) : Int :=
  if b.value.den ≤ b.value.num then (Text.ofNat (b.value.num / b.value.den)).length
  else 1 - (Text.ofNat (b.value.den / b.value.num)).length

/-- The better one of a multiple of a power of ten and the next multiple. -/
def nearer (b : Binary) (d : Nat) (e : Int) : Nat :=
  let below := (Fraction.decimal d e).distance b.value
  let above := (Fraction.decimal (d + 1) e).distance b.value
  if below.lt above then d
  else if above.lt below then d + 1
  else if d % 2 = 0 then d else d + 1

/-- The multiple of a power of ten that stands for the number, if there is one. -/
def multiple? (b : Binary) (e : Int) : Option Nat :=
  let unit := Fraction.decimal 1 e
  let d := (b.value.num * unit.den) / (b.value.den * unit.num)
  match b.isRoundedTo (.decimal d e), b.isRoundedTo (.decimal (d + 1) e) with
  | true, true => some (b.nearer d e)
  | true, false => some d
  | false, true => some (d + 1)
  | false, false => none

/-- Try powers of ten from `e` downwards. -/
def shortestFrom (b : Binary) (e : Int) : Nat → Nat × Int
  | 0 => (0, 0)
  | n + 1 =>
      match b.multiple? e with
      | some d => (d, e)
      | none => shortestFrom b (e - 1) n

/-- The digits and the power of ten of the shortest decimal. No number needs more than
    seventeen digits. -/
def shortest (b : Binary) : Nat × Int := b.shortestFrom b.magnitude 20

end Binary

/-! ## Text -/

/-- Digits with a point behind the first, and their power of ten. -/
def exponential (digits : Text) (exponent : Int) : Text :=
  let fraction := digits.drop 1
  digits.take 1 ++ (if fraction = [] then [] else '.' :: fraction) ++
    (if exponent < 0 then "e-".toList else "e+".toList) ++ Text.ofNat exponent.natAbs

/-- Digits with a point after the first `point` of them; there is a digit on both sides. -/
def positional (digits : Text) (point : Int) : Text :=
  if point ≤ 0 then "0.".toList ++ List.replicate (-point).toNat '0' ++ digits
  else
    let whole := digits.take point.toNat
    let fraction := digits.drop point.toNat
    whole ++ List.replicate (point.toNat - whole.length) '0' ++ ['.'] ++
      (if fraction = [] then ['0'] else fraction)

/-- The text of a positive number. -/
def ofBinary (b : Binary) : Text :=
  let (n, e) := b.shortest
  let digits := Text.ofNat n
  let exponent := digits.length + e - 1
  if -5 ≤ exponent ∧ exponent ≤ 15 then positional digits (exponent + 1)
  else exponential digits exponent

/-- One more than the greatest fraction that bits hold; the bits above it hold the exponent. -/
def fractions : Nat := 4503599627370496

/-- One more than the greatest exponent that bits hold; the bit above it holds the sign. -/
def exponents : Nat := 2048

/-- A finite number without its sign, by its bits; zero has no binary form. -/
def ofBits? (bits : Nat) : Option Binary :=
  let fraction := bits % fractions
  let exponent := bits / fractions % exponents
  if exponent = 0 then
    if fraction = 0 then none else some ⟨fraction, -1074, false⟩
  else some ⟨fractions + fraction, (exponent : Int) - 1075, fraction = 0 && 1 < exponent⟩

/-- The text of a finite number. -/
def ofFloat (f : Float) : Text :=
  let bits := f.toBits.toNat
  let sign := if bits / fractions / exponents = 1 then ['-'] else []
  match ofBits? bits with
  | none => sign ++ "0.0".toList
  | some b => sign ++ ofBinary b

end Decimal

end RequireForm
