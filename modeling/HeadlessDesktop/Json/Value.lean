import HeadlessDesktop.Text.Raw

/-! JSON values and their text. -/

namespace HeadlessDesktop

/-- Numbers and strings are kept as they are written, strings without their quotes, and an
object as its members in order. -/
inductive Json
  | null
  | bool (value : Bool)
  | number (literal : List Char)
  | quoted (literal : List Char)
  | array (items : List Json)
  | object (members : List (String × Json))
deriving Repr, Inhabited

namespace Json

open Text

def int (value : Int) : Json := .number (signedDecimal value)

/-- Quotes, backslashes and control characters must be escaped. `<`, `>`, `&` and the two
line separators are escaped too, so that the text may stand inside a page. -/
def escapeChar (c : Char) : List Char :=
  match c with
  | '"' => ['\\', '"']
  | '\\' => ['\\', '\\']
  | '\n' => ['\\', 'n']
  | '\r' => ['\\', 'r']
  | '\t' => ['\\', 't']
  | c =>
    if c.toNat == 0x08 then ['\\', 'b']
    else if c.toNat == 0x0C then ['\\', 'f']
    else if c.toNat < 0x20 || c == '<' || c == '>' || c == '&' ||
        c.toNat == 0x2028 || c.toNat == 0x2029 then
      '\\' :: 'u' :: paddedHex 4 c.toNat
    else [c]

/-- A byte that is part of no character is written as an escape of the replacement character. -/
def escapePiece : Piece → List Char
  | .char c => escapeChar c
  | .stray _ => ['\\', 'u', 'f', 'f', 'f', 'd']

def escape (text : Raw) : List Char := (pieces text.bytes).flatMap escapePiece

def string (text : Raw) : Json := .quoted (escape text)

def writeQuoted (literal : List Char) : List Char := '"' :: literal ++ ['"']

mutual

def write : Json → List Char
  | .null => ['n', 'u', 'l', 'l']
  | .bool true => ['t', 'r', 'u', 'e']
  | .bool false => ['f', 'a', 'l', 's', 'e']
  | .number literal => literal
  | .quoted literal => writeQuoted literal
  | .array items => '[' :: writeItems items ++ [']']
  | .object members => '{' :: writeMembers members ++ ['}']

def writeItems : List Json → List Char
  | [] => []
  | [item] => write item
  | item :: next :: rest => write item ++ ',' :: writeItems (next :: rest)

def writeMembers : List (String × Json) → List Char
  | [] => []
  | [(name, value)] => writeQuoted (escape name) ++ ':' :: write value
  | (name, value) :: next :: rest =>
    writeQuoted (escape name) ++ ':' :: write value ++ ',' :: writeMembers (next :: rest)

end

def text (value : Json) : String := String.ofList value.write

end Json

end HeadlessDesktop
