import HeadlessDesktop.Text.Scan

/-! Decimal numbers and the binary numbers of double precision nearest to them. -/

namespace HeadlessDesktop.Number

open Text

structure Decimal where
  negative : Bool
  digits : Nat
  scale : Int
deriving DecidableEq, Repr

namespace Decimal

def sign (text : List Char) : Bool × List Char :=
  match text with
  | '-' :: rest => (true, rest)
  | '+' :: rest => (false, rest)
  | _ => (false, text)

def exponent? : List Char → Option Int
  | [] => some 0
  | c :: rest =>
    if c == 'e' || c == 'E' then
      let (negative, digits) := sign rest
      if digits.all fun c => (digitValue? c).isSome then
        (numeral? 10 digits).map fun value => if negative then -(value : Int) else value
      else none
    else none

def parse? (text : List Char) : Option Decimal := do
  let (negative, rest) := sign text
  let (whole, rest) := Scan.digitRun rest
  let (fraction, rest) := match rest with
    | '.' :: rest => Scan.digitRun rest
    | _ => ([], rest)
  let digits ← numeral? 10 (whole ++ fraction)
  let exponent ← exponent? rest
  pure { negative, digits, scale := exponent - fraction.length }

end Decimal

/-- The number `mantissa * 2 ^ exponent`, or its negative. -/
structure Double where
  negative : Bool
  mantissa : Nat
  exponent : Int
deriving DecidableEq, Repr

/-- The whole number nearest to a quotient; a tie goes to the even one. -/
def roundQuotient (numerator denominator : Nat) : Nat :=
  let quotient := numerator / denominator
  let twice := 2 * (numerator % denominator)
  if twice < denominator then quotient
  else if denominator < twice then quotient + 1
  else if quotient % 2 = 0 then quotient else quotient + 1

def shiftDown (numerator denominator : Nat) (power : Int) : Nat × Nat :=
  if 0 ≤ power then (numerator, denominator * Nat.pow 2 power.toNat)
  else (numerator * Nat.pow 2 (-power).toNat, denominator)

def leastExponent : Int := -1074

def precision : Nat := 53

namespace Double

def zero (negative : Bool) : Double := ⟨negative, 0, 0⟩

def ofQuotient? (negative : Bool) (numerator denominator : Nat) : Option Double :=
  let guess : Int := (Nat.log2 numerator : Int) - Nat.log2 denominator - (precision - 1 : Nat)
  let (top, bottom) := shiftDown numerator denominator guess
  let guess := if top < Nat.pow 2 (precision - 1) * bottom then guess - 1 else guess
  let exponent := max guess leastExponent
  let (top, bottom) := shiftDown numerator denominator exponent
  let mantissa := roundQuotient top bottom
  if 0 ≤ exponent ∧ Nat.pow 2 1024 ≤ mantissa * Nat.pow 2 exponent.toNat then none
  else some ⟨negative, mantissa, exponent⟩

def digitCount (digits : Nat) : Nat := (decimal digits).length

def ofDecimal? (number : Decimal) : Option Double :=
  let magnitude := number.scale + digitCount number.digits
  if number.digits = 0 || magnitude < -400 then some (zero number.negative)
  else if 400 < magnitude then none
  else if 0 ≤ number.scale then
    ofQuotient? number.negative (number.digits * Nat.pow 10 number.scale.toNat) 1
  else ofQuotient? number.negative number.digits (Nat.pow 10 (-number.scale).toNat)

def ofNat? (value : Nat) : Option Double :=
  if value = 0 then some (zero false) else ofQuotient? false value 1

def mul? (a b : Double) : Option Double :=
  let negative := a.negative != b.negative
  let (top, bottom) := shiftDown (a.mantissa * b.mantissa) 1 (-(a.exponent + b.exponent))
  if top = 0 then some (zero negative) else ofQuotient? negative top bottom

def truncate (number : Double) : Int :=
  let magnitude :=
    if 0 ≤ number.exponent then number.mantissa * Nat.pow 2 number.exponent.toNat
    else number.mantissa / Nat.pow 2 (-number.exponent).toNat
  if number.negative then -magnitude else magnitude

end Double

end HeadlessDesktop.Number
