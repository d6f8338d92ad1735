import HeadlessDesktop.Text.Numeral

/-! Reading a text from the front: each step returns what it read and the rest. -/

namespace HeadlessDesktop.Text.Scan

abbrev Step (α : Type) := List Char → Option (α × List Char)

def mark (c : Char) (text : List Char) : Option (List Char) :=
  match text with
  | d :: rest => if d == c then some rest else none
  | [] => none

def digit : Step Nat
  | c :: rest => (digitValue? c).map (·, rest)
  | [] => none

def digits : (count : Nat) → Step Nat
  | 0, text => some (0, text)
  | count + 1, text => do
    let (high, rest) ← digits count text
    let (low, rest) ← digit rest
    pure (high * 10 + low, rest)

def oneOrTwoDigits : Step Nat := fun text => digits 2 text <|> digits 1 text

def within (least most : Nat) (step : Step Nat) : Step Nat := fun text => do
  let (value, rest) ← step text
  if least ≤ value && value ≤ most then some (value, rest) else none

def digitRun (text : List Char) : List Char × List Char :=
  (text.takeWhile (fun c => (digitValue? c).isSome),
    text.dropWhile (fun c => (digitValue? c).isSome))

end HeadlessDesktop.Text.Scan
