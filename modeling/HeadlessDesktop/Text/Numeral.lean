/-! Numerals. -/

namespace HeadlessDesktop.Text

def decimal (n : Nat) : List Char := Nat.toDigits 10 n

def signedDecimal : Int → List Char
  | .ofNat n => decimal n
  | .negSucc n => '-' :: decimal (n + 1)

def natText (n : Nat) : String := String.ofList (decimal n)
def intText (i : Int) : String := String.ofList (signedDecimal i)

/-- At least `width` characters, filled up with zeros in front. -/
def zeroFill (width : Nat) (digits : List Char) : List Char :=
  List.replicate (width - digits.length) '0' ++ digits

def paddedDecimal (width n : Nat) : List Char := zeroFill width (decimal n)

def paddedHex (width n : Nat) : List Char := zeroFill width (Nat.toDigits 16 n)

def digitValue? (c : Char) : Option Nat :=
  if '0' ≤ c && c ≤ '9' then some (c.toNat - '0'.toNat) else none

def hexValue? (c : Char) : Option Nat :=
  if '0' ≤ c && c ≤ '9' then some (c.toNat - '0'.toNat)
  else if 'a' ≤ c && c ≤ 'f' then some (c.toNat - 'a'.toNat + 10)
  else if 'A' ≤ c && c ≤ 'F' then some (c.toNat - 'A'.toNat + 10)
  else none

def numeral? (base : Nat) (digits : List Char) : Option Nat :=
  if digits.isEmpty then none
  else digits.foldlM (fun value c => do
    let d ← hexValue? c
    if d < base then some (value * base + d) else none) 0

def byteHex (byte : UInt8) : List Char := paddedHex 2 byte.toNat

def hexText (bytes : List UInt8) : String := String.ofList (bytes.flatMap byteHex)

def unhex? : List Char → Option (List UInt8)
  | [] => some []
  | a :: b :: rest => do
    let high ← hexValue? a
    let low ← hexValue? b
    let bytes ← unhex? rest
    pure (UInt8.ofNat (high * 16 + low) :: bytes)
  | [_] => none

end HeadlessDesktop.Text
