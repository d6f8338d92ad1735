import HeadlessDesktop.Json.Value
import HeadlessDesktop.Text.Utf8

/-! Reading JSON text. -/

namespace HeadlessDesktop.Json

open Text

def isSpace (c : Char) : Bool := c == ' ' || c == '\t' || c == '\n' || c == '\r'

def skipSpace (text : List Char) : List Char := text.dropWhile isSpace

def maxDepth : Nat := 10000

def isHighSurrogate (code : Nat) : Bool := 0xD800 ≤ code && code < 0xDC00
def isLowSurrogate (code : Nat) : Bool := 0xDC00 ≤ code && code < 0xE000

/-- The character of a code unit. A surrogate alone reads as the replacement character. -/
def unitChar (code : Nat) : Char :=
  if isHighSurrogate code || isLowSurrogate code then replacement else Char.ofNat code

def joinUnits? (high low : Nat) : Option Char :=
  if isHighSurrogate high && isLowSurrogate low then
    some (Char.ofNat (0x10000 + (high - 0xD800) * 0x400 + (low - 0xDC00)))
  else none

def shortEscape? : Char → Option Char
  | '"' => some '"'
  | '\\' => some '\\'
  | '/' => some '/'
  | 'b' => some (Char.ofNat 0x08)
  | 'f' => some (Char.ofNat 0x0C)
  | 'n' => some '\n'
  | 'r' => some '\r'
  | 't' => some '\t'
  | _ => none

def unit? (a b c d : Char) : Option Nat := numeral? 16 [a, b, c, d]

def literalCodes : List Char → List Nat
  | [] => []
  | '\\' :: 'u' :: a :: b :: c :: d :: rest => (unit? a b c d).getD 0 :: literalCodes rest
  | '\\' :: letter :: rest => ((shortEscape? letter).getD letter).toNat :: literalCodes rest
  | c :: rest => c.toNat :: literalCodes rest

def joinCodes : List Nat → List Char
  | [] => []
  | [code] => [unitChar code]
  | code :: next :: rest =>
    match joinUnits? code next with
    | some joined => joined :: joinCodes rest
    | none => unitChar code :: joinCodes (next :: rest)

def unescape (literal : List Char) : String := String.ofList (joinCodes (literalCodes literal))

def string? : Json → Option String
  | .quoted literal => some (unescape literal)
  | _ => none

/-- The literal of a string up to its closing quote. Control characters do not stand in one,
and each backslash starts an escape. -/
def scanQuoted? : List Char → Option (List Char × List Char)
  | [] => none
  | '"' :: rest => some ([], rest)
  | '\\' :: 'u' :: a :: b :: c :: d :: rest => do
    let _ ← unit? a b c d
    let (literal, rest) ← scanQuoted? rest
    pure ('\\' :: 'u' :: a :: b :: c :: d :: literal, rest)
  | '\\' :: letter :: rest => do
    let _ ← shortEscape? letter
    let (literal, rest) ← scanQuoted? rest
    pure ('\\' :: letter :: literal, rest)
  | c :: rest =>
    if c == '\\' || c.toNat < 0x20 then none
    else do
      let (literal, rest) ← scanQuoted? rest
      pure (c :: literal, rest)

def isDigit (c : Char) : Bool := (digitValue? c).isSome

def scanDigits? (text : List Char) : Option (List Char × List Char) :=
  let digits := text.takeWhile isDigit
  if digits.isEmpty then none else some (digits, text.dropWhile isDigit)

def scanWhole? : List Char → Option (List Char × List Char)
  | '0' :: rest => some (['0'], rest)
  | text => scanDigits? text

def scanFraction? : List Char → Option (List Char × List Char)
  | '.' :: rest => do
    let (digits, rest) ← scanDigits? rest
    pure ('.' :: digits, rest)
  | text => some ([], text)

def scanExponent? : List Char → Option (List Char × List Char)
  | c :: rest =>
    if c == 'e' || c == 'E' then do
      let (sign, rest) := match rest with
        | '+' :: rest => (['+'], rest)
        | '-' :: rest => (['-'], rest)
        | rest => ([], rest)
      let (digits, rest) ← scanDigits? rest
      pure (c :: sign ++ digits, rest)
    else some ([], c :: rest)
  | [] => some ([], [])

def scanNumber? (text : List Char) : Option (List Char × List Char) := do
  let (sign, rest) := match text with
    | '-' :: rest => (['-'], rest)
    | rest => ([], rest)
  let (whole, rest) ← scanWhole? rest
  let (fraction, rest) ← scanFraction? rest
  let (exponent, rest) ← scanExponent? rest
  pure (sign ++ whole ++ fraction ++ exponent, rest)

def scanWord? : List Char → List Char → Option (List Char)
  | [], rest => some rest
  | c :: word, d :: rest => if c == d then scanWord? word rest else none
  | _ :: _, [] => none

mutual

/-- A value, with blanks in front. `fuel` bounds the number of steps, `depth` is the
nesting still allowed. -/
def scanValue? : (fuel depth : Nat) → List Char → Option (Json × List Char)
  | 0, _, _ => none
  | fuel + 1, depth, text =>
    match skipSpace text with
    | '{' :: rest =>
      if depth == 0 then none
      else match skipSpace rest with
        | '}' :: rest => some (.object [], rest)
        | rest => do
          let (members, rest) ← scanMembers? fuel (depth - 1) rest
          pure (.object members, rest)
    | '[' :: rest =>
      if depth == 0 then none
      else match skipSpace rest with
        | ']' :: rest => some (.array [], rest)
        | rest => do
          let (items, rest) ← scanItems? fuel (depth - 1) rest
          pure (.array items, rest)
    | '"' :: rest => do
      let (literal, rest) ← scanQuoted? rest
      pure (.quoted literal, rest)
    | 'n' :: rest => do
      let rest ← scanWord? ['u', 'l', 'l'] rest
      pure (.null, rest)
    | 't' :: rest => do
      let rest ← scanWord? ['r', 'u', 'e'] rest
      pure (.bool true, rest)
    | 'f' :: rest => do
      let rest ← scanWord? ['a', 'l', 's', 'e'] rest
      pure (.bool false, rest)
    | rest => do
      let (literal, rest) ← scanNumber? rest
      pure (.number literal, rest)

def scanItems? : (fuel depth : Nat) → List Char → Option (List Json × List Char)
  | 0, _, _ => none
  | fuel + 1, depth, text => do
    let (item, rest) ← scanValue? fuel depth text
    match skipSpace rest with
    | ',' :: rest => do
      let (items, rest) ← scanItems? fuel depth rest
      pure (item :: items, rest)
    | ']' :: rest => pure ([item], rest)
    | _ => none

def scanMembers? : (fuel depth : Nat) → List Char → Option (List (String × Json) × List Char)
  | 0, _, _ => none
  | fuel + 1, depth, text =>
    match skipSpace text with
    | '"' :: rest => do
      let (name, rest) ← scanQuoted? rest
      match skipSpace rest with
      | ':' :: rest => do
        let (value, rest) ← scanValue? fuel depth rest
        let member := (unescape name, value)
        match skipSpace rest with
        | ',' :: rest => do
          let (members, rest) ← scanMembers? fuel depth rest
          pure (member :: members, rest)
        | '}' :: rest => pure ([member], rest)
        | _ => none
      | _ => none
    | _ => none

end

def read? (text : List Char) : Option Json := do
  let (value, rest) ← scanValue? (2 * text.length + 2) maxDepth text
  if (skipSpace rest).isEmpty then some value else none

end HeadlessDesktop.Json
