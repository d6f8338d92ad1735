import HeadlessDesktop.Number.Double
import HeadlessDesktop.Text.Base64
import HeadlessDesktop.Text.Raw
import HeadlessDesktop.Time.InstantText
import HeadlessDesktop.Yaml.Node

/-! What the text of a scalar stands for. -/

namespace HeadlessDesktop.Yaml

open Text Number

inductive Value
  | null
  | bool (value : Bool)
  | int (value : Int)
  | float (value : Double)
  | infinite (negative : Bool)
  | notANumber
  | timestamp (written : String)
  | text (value : Raw)
deriving Repr, DecidableEq

def Value.tag : Value → String
  | .null => nullTag
  | .bool _ => boolTag
  | .int _ => intTag
  | .float _ | .infinite _ | .notANumber => floatTag
  | .timestamp _ => timestampTag
  | .text _ => strTag

/-- Whether two values are the same as keys: zero has no sign, and what is not a number is not
even itself. -/
def Value.sameKey : Value → Value → Bool
  | .notANumber, _ => false
  | .float a, .float b => (a.mantissa = 0 && b.mantissa = 0) || a = b
  | a, b => a = b

def Value.ofWord? : String → Option Value
  | "" | "~" | "null" | "Null" | "NULL" => some .null
  | "true" | "True" | "TRUE" => some (.bool true)
  | "false" | "False" | "FALSE" => some (.bool false)
  | ".nan" | ".NaN" | ".NAN" => some .notANumber
  | ".inf" | ".Inf" | ".INF" | "+.inf" | "+.Inf" | "+.INF" => some (.infinite false)
  | "-.inf" | "-.Inf" | "-.INF" => some (.infinite true)
  | _ => none

namespace Integer

/-- Digits of the base that their front tells: `0x`, `0o`, `0b`, or octal behind a zero. -/
def unsigned? (text : List Char) : Option Nat :=
  match text with
  | ['0'] => some 0
  | '0' :: c :: d :: rest =>
    if c == 'x' || c == 'X' then numeral? 16 (d :: rest)
    else if c == 'o' || c == 'O' then numeral? 8 (d :: rest)
    else if c == 'b' || c == 'B' then numeral? 2 (d :: rest)
    else numeral? 8 (c :: d :: rest)
  | '0' :: rest => numeral? 8 rest
  | _ => numeral? 10 text

def withSign (read : List Char → Option Nat) (text : List Char) : Option Int :=
  match text with
  | '-' :: rest => (read rest).map fun value => -(value : Int)
  | '+' :: rest => (read rest).map fun value => (value : Int)
  | _ => (read text).map fun value => (value : Int)

def isSigned64 (value : Int) : Bool := -0x8000000000000000 ≤ value && value < 0x8000000000000000

def isUnsigned64 (value : Int) : Bool := 0 ≤ value && value < 0x10000000000000000

def ofText? (read : List Char → Option Nat) (text : List Char) : Option Int :=
  ((withSign read text).filter isSigned64) <|>
    (((read text).map fun value => (value : Int)).filter isUnsigned64)

def marked? (text : List Char) : Option Int :=
  match text with
  | '0' :: 'b' :: rest => ofText? (numeral? 2) rest
  | '-' :: '0' :: 'b' :: rest => (withSign (numeral? 2) ('-' :: rest)).filter isSigned64
  | '0' :: 'o' :: rest => ofText? (numeral? 8) rest
  | '-' :: '0' :: 'o' :: rest => (withSign (numeral? 8) ('-' :: rest)).filter isSigned64
  | _ => none

end Integer

def isDigit (c : Char) : Bool := (digitValue? c).isSome

def lowLinesFit : (before : Option Char) → List Char → Bool
  | _, [] => true
  | before, c :: rest =>
    (c != '_' || (before.any isDigit && rest.head?.any isDigit)) && lowLinesFit (some c) rest

def withoutLowLines (text : List Char) : List Char := text.filter (· != '_')

def float? (text : List Char) : Option Value := do
  pure (.float (← Double.ofDecimal? (← Decimal.parse? text)))

/-- Text that starts with a digit or a sign: a time if times count, or a number whose digits
low lines may part, or text. -/
def numeric (times : Bool) (text : String) : Value :=
  let plain := withoutLowLines text.toList
  if times && Time.isTimestamp text.toList then .timestamp text
  else (((Integer.ofText? Integer.unsigned? plain).map Value.int) <|> float? plain <|>
    ((Integer.marked? plain).map Value.int)).getD (.text text)

def Value.ofPlain (times : Bool) (text : String) : Value :=
  match Value.ofWord? text with
  | some value => value
  | none => match text.toList.head? with
    | some c =>
      if isDigit c || c == '+' || c == '-' then numeric times text
      else if c == '.' && lowLinesFit none text.toList then
        (float? (withoutLowLines text.toList)).getD (.text text)
      else .text text
    | none => .null

def binary? (text : String) : Option Raw :=
  (Base64.decode? (text.toList.filter fun c => c != '\n' && c != '\r')).map Raw.mk

/-- What text under a tag stands for. Text that does not fit a tag of the core is refused;
whole numbers fit the tag of fractions too. -/
def Value.ofTagged? (tag text : String) : Option Value :=
  if tag = "" then some (.ofPlain true text)
  else if tag = strTag then some (.text text)
  else if tag = binaryTag then (binary? text).map .text
  else if [nullTag, boolTag, intTag, floatTag, timestampTag].contains tag then
    let value := Value.ofPlain (tag = timestampTag) text
    if value.tag = tag then some value
    else match value with
      | .int number =>
        if tag = floatTag && Integer.isSigned64 number then
          (Double.ofDecimal? ⟨number < 0, number.natAbs, 0⟩).map .float
        else none
      | _ => none
  else some (.text text)

def plainTag (text : String) : String := (Value.ofPlain true text).tag

def Node.tag : Node → String
  | .scalar _ tag _ text => if tag = "" then plainTag text else tag
  | .sequence _ tag _ => tag
  | .mapping _ tag _ => tag
  | .alias _ _ _ _ => ""

end HeadlessDesktop.Yaml
