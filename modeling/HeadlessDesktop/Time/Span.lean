import HeadlessDesktop.Number.Double
import HeadlessDesktop.Text.Scan
import HeadlessDesktop.Text.Utf8

/-! Lengths of time in nanoseconds, and their text: `1h0m2.5s`, `1.001µs`. -/

namespace HeadlessDesktop.Time

open Text

abbrev Span := Int

def trimmedFraction (places value : Nat) : List Char :=
  if value == 0 then []
  else '.' :: ((paddedDecimal places value).reverse.dropWhile (· == '0')).reverse

def scaledText (places value : Nat) : List Char :=
  let scale := Nat.pow 10 places
  decimal (value / scale) ++ trimmedFraction places (value % scale)

/-- Below a second the largest unit that gives a whole part is taken; from a second on,
hours and minutes stand in front as far as they are needed. -/
def Span.digits (nanos : Nat) : List Char :=
  if nanos == 0 then ['0', 's']
  else if nanos < 1000 then scaledText 0 nanos ++ ['n', 's']
  else if nanos < 1000000 then scaledText 3 nanos ++ ['µ', 's']
  else if nanos < 1000000000 then scaledText 6 nanos ++ ['m', 's']
  else
    let minutes := nanos / 60000000000
    (if minutes / 60 == 0 then [] else decimal (minutes / 60) ++ ['h']) ++
      (if minutes == 0 then [] else decimal (minutes % 60) ++ ['m']) ++
      scaledText 9 (nanos % 60000000000) ++ ['s']

def Span.text (span : Span) : String :=
  String.ofList ((if span < 0 then ['-'] else []) ++ Span.digits span.natAbs)

inductive SpanError
  | invalid (text : String)
  | missingUnit (text : String)
  | unknownUnit (unit text : String)
deriving DecidableEq, Repr

def spanQuoteChar (c : Char) : List Char :=
  if c.toNat < 0x20 || 0x80 ≤ c.toNat then
    (String.utf8EncodeChar c).flatMap fun byte => '\\' :: 'x' :: byteHex byte
  else if c == '"' || c == '\\' then ['\\', c]
  else [c]

def spanQuoted (text : String) : String :=
  String.ofList ('"' :: text.toList.flatMap spanQuoteChar ++ ['"'])

def SpanError.message : SpanError → String
  | .invalid text => "time: invalid duration " ++ spanQuoted text
  | .missingUnit text => "time: missing unit in duration " ++ spanQuoted text
  | .unknownUnit unit text =>
    "time: unknown unit " ++ spanQuoted unit ++ " in duration " ++ spanQuoted text

/-- Nanoseconds in a unit. Both the micro sign and the Greek letter are accepted. -/
def spanUnit? : String → Option Nat
  | "ns" => some 1
  | "us" | "µs" | "μs" => some 1000
  | "ms" => some 1000000
  | "s" => some 1000000000
  | "m" => some 60000000000
  | "h" => some 3600000000000
  | _ => none

def isUnitChar (c : Char) : Bool := c != '.' && (digitValue? c).isNone

def spanLimit : Nat := 0x8000000000000000

/-- The fraction digits that count: as many as keep their value below `2 ^ 63`. -/
def fractionDigits (digits : List Char) : Nat × Nat :=
  let step := fun (acc : Nat × Nat × Bool) c =>
    let (value, scale, full) := acc
    let next := value * 10 + (digitValue? c).getD 0
    if full || (spanLimit - 1) / 10 < value || spanLimit < next then (value, scale, true)
    else (next, scale * 10, false)
  let (value, scale, _) := digits.foldl step (0, 1, false)
  (value, scale)

/-- The nanoseconds of a fraction of a unit, computed in double precision: the digits times the
quotient of the unit and the scale. -/
def fractionNanos (digits : List Char) (unit : Nat) : Nat :=
  let (value, scale) := fractionDigits digits
  let product? := do
    let quotient ← Number.Double.ofQuotient? false unit scale
    (← Number.Double.ofNat? value).mul? quotient
  (product?.map fun product => product.truncate.toNat).getD 0

/-- A sum of numbers with units. `fuel` bounds the number of summands. -/
def scanSpan (whole : String) : (fuel : Nat) → List Char → Nat → Except SpanError Nat
  | _, [], total => .ok total
  | 0, _ :: _, _ => .error (.invalid whole)
  | fuel + 1, text, total => do
    let (digits, rest) := Scan.digitRun text
    let value := (numeral? 10 digits).getD 0
    if spanLimit < value then throw (.invalid whole)
    let (fraction, rest) := match rest with
      | '.' :: rest => Scan.digitRun rest
      | _ => ([], rest)
    if digits.isEmpty && fraction.isEmpty then throw (.invalid whole)
    let unitText := rest.takeWhile isUnitChar
    let rest := rest.dropWhile isUnitChar
    if unitText.isEmpty then throw (.missingUnit whole)
    let some unit := spanUnit? (String.ofList unitText)
      | throw (.unknownUnit (String.ofList unitText) whole)
    if spanLimit / unit < value then throw (.invalid whole)
    let value := value * unit + fractionNanos fraction unit
    if spanLimit < value || spanLimit < total + value then throw (.invalid whole)
    scanSpan whole fuel rest (total + value)

def Span.read (text : String) : Except SpanError Span :=
  let (negative, rest) := match text.toList with
    | '-' :: rest => (true, rest)
    | '+' :: rest => (false, rest)
    | rest => (false, rest)
  if rest == ['0'] then .ok 0
  else if rest.isEmpty then .error (.invalid text)
  else do
    let total ← scanSpan text rest.length rest 0
    if negative then pure (-(total : Int))
    else if total < spanLimit then pure (total : Int)
    else throw (.invalid text)

end HeadlessDesktop.Time
