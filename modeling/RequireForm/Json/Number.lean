import RequireForm.Json.Fault

/-!
# Numbers of JSON texts

A number is told by its integer digits, the digits behind a point, and an exponent. Without
the last two it is an integer if it is one of 64 bits; all others are binary numbers of
64 bits.

  1. `Number.found`: the value at the front of a text, or what is wrong with it.
  2. `Number.skip`: behind a number, whatever its value.
-/

namespace RequireForm

namespace Json

namespace Number

def isDigit (c : Char) : Bool := '0' ≤ c && c ≤ '9'

def digitValue (c : Char) : Nat := c.toNat - 48

def isExponentSign (c : Char) : Bool := c = 'e' || c = 'E'

/-- The greatest number of 64 bits. -/
def maxNatural : Nat := 18446744073709551615

/-- The greatest number that is the negative of one of 64 bits with a sign. -/
def maxNegative : Nat := 9223372036854775808

/-- Digits as a number of 64 bits, and how many of them did not fit into it. -/
def gather (n : Nat) : Text → Nat × Nat
  | [] => (n, 0)
  | c :: digits =>
      if n * 10 + digitValue c ≤ maxNatural then gather (n * 10 + digitValue c) digits
      else (n, digits.length + 1)

/-! ## Values -/

/-- `f / 10 ^ n`, in steps that do not leave the range of powers. -/
def divide (f : Float) (n : Nat) : Float :=
  if n ≤ 308 then f / Float.ofScientific 1 false n
  else if f == 0 then f
  else divide (f / Float.ofScientific 1 false 308) (n - 308)
termination_by n
decreasing_by omega

/-- `m * 10 ^ e`, unless it is out of range. -/
def scale (m : Nat) (e : Int) : Except Fault Float :=
  let f := m.toUInt64.toFloat
  if e < 0 then .ok (divide f e.natAbs)
  else if 308 < e then if f == 0 then .ok f else .error .numberOutOfRange
  else
    let g := f * Float.ofScientific 1 false e.natAbs
    if g.isInf then .error .numberOutOfRange else .ok g

/-- The number `m * 10 ^ e` with its sign. -/
def ofParts (positive : Bool) (m : Nat) (e : Int) : Except Fault Found :=
  (scale m e).map fun f => .float (if positive then f else -f)

/-- An integer with its sign, if it is one of 64 bits; else, and for the negative zero, the
    binary number. -/
def ofInteger (positive : Bool) (m : Nat) : Found :=
  if positive then .natural m
  else if 0 < m ∧ m ≤ maxNegative then .negative m
  else .float (-m.toUInt64.toFloat)

/-- The greatest exponent that is told apart from greater ones. -/
def maxExponent : Nat := 2147483647

/-- The value of digits. -/
def digitsValue (digits : Text) : Nat := digits.foldl (fun n c => n * 10 + digitValue c) 0

/-- The number with an exponent. One that is too great is out of range if it does not make
    the number zero. -/
def withExponent (positive : Bool) (m : Nat) (e : Int) (rising : Bool) (digits : Text) :
    Except Fault Found :=
  if digitsValue digits ≤ maxExponent then
    ofParts positive m (if rising then e + digitsValue digits else e - digitsValue digits)
  else if m ≠ 0 && rising then .error .numberOutOfRange
  else .ok (.float (if positive then 0 else -0))

/-- The sign of an exponent. -/
def sign : Text → Bool × Text
  | '+' :: s => (true, s)
  | '-' :: s => (false, s)
  | s => (true, s)

/-- The value of a number from its exponent on. -/
def foundExponent (positive : Bool) (m : Nat) (e : Int) (s : Text) : Except Fault Found :=
  let (rising, s) := sign s
  match s, s.takeWhile isDigit with
  | [], _ => .error .endInValue
  | _, [] => .error .invalidNumber
  | _, digits => withExponent positive m e rising digits

/-- The value of a number from its point on. -/
def foundFraction (positive : Bool) (m : Nat) (e : Int) (s : Text) : Except Fault Found :=
  let digits := s.takeWhile isDigit
  match digits, s.dropWhile isDigit with
  | [], [] => .error .endInValue
  | [], _ => .error .invalidNumber
  | _, rest =>
      let (m, left) := gather m digits
      let e := e - (digits.length - left : Nat)
      match rest with
      | c :: rest => if isExponentSign c then foundExponent positive m e rest
          else ofParts positive m e
      | [] => ofParts positive m e

/-- The value of a number behind its integer digits, of which `left` did not fit into `m`. -/
def foundAfter (positive : Bool) (m left : Nat) (s : Text) : Except Fault Found :=
  match s with
  | '.' :: rest => foundFraction positive m left rest
  | 'e' :: rest => foundExponent positive m left rest
  | 'E' :: rest => foundExponent positive m left rest
  | _ => if left = 0 then .ok (ofInteger positive m) else ofParts positive m left

/-- The value of the number at the front of a text, behind its sign. -/
def found (positive : Bool) (s : Text) : Except Fault Found :=
  match s, s.takeWhile isDigit with
  | [], _ => .error .endInValue
  | _, [] => .error .invalidNumber
  | _, '0' :: _ :: _ => .error .invalidNumber
  | _, digits =>
      let (m, left) := gather 0 digits
      foundAfter positive m left (s.dropWhile isDigit)

/-! ## Skipping -/

/-- Step over an exponent, behind its letter. -/
def skipExponent (s : Text) : Except Fault Text :=
  let (_, s) := sign s
  if s.takeWhile isDigit = [] then .error .invalidNumber else .ok (s.dropWhile isDigit)

/-- Step over an exponent, if there is one. -/
def skipExponent? : Text → Except Fault Text
  | 'e' :: s => skipExponent s
  | 'E' :: s => skipExponent s
  | s => .ok s

/-- Step over a number, behind its sign. -/
def skip (s : Text) : Except Fault Text :=
  match s.takeWhile isDigit, s.dropWhile isDigit with
  | [], _ => .error .invalidNumber
  | '0' :: _ :: _, _ => .error .invalidNumber
  | _, '.' :: rest =>
      if rest.takeWhile isDigit = [] then .error .invalidNumber
      else skipExponent? (rest.dropWhile isDigit)
  | _, rest => skipExponent? rest

end Number

end Json

end RequireForm
