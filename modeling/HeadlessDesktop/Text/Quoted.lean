import HeadlessDesktop.Text.Numeral
import HeadlessDesktop.Text.Printable
import HeadlessDesktop.Text.Utf8

/-! Quoted text for messages: printable characters stand for themselves, all others are
escaped. -/

namespace HeadlessDesktop.Text

def shortEscape? (c : Char) : Option Char :=
  match c.toNat with
  | 0x07 => some 'a'
  | 0x08 => some 'b'
  | 0x09 => some 't'
  | 0x0A => some 'n'
  | 0x0B => some 'v'
  | 0x0C => some 'f'
  | 0x0D => some 'r'
  | _ => none

def quoteChar (c : Char) : List Char :=
  if c == '"' || c == '\\' then ['\\', c]
  else if isPrintable c then [c]
  else match shortEscape? c with
    | some letter => ['\\', letter]
    | none =>
      if c.toNat < 0x80 then '\\' :: 'x' :: paddedHex 2 c.toNat
      else if c.toNat < 0x10000 then '\\' :: 'u' :: paddedHex 4 c.toNat
      else '\\' :: 'U' :: paddedHex 8 c.toNat

def quotePiece : Piece → List Char
  | .char c => quoteChar c
  | .stray byte => '\\' :: 'x' :: byteHex byte

/-- Bytes that are part of no character are written as escapes of their own. -/
def quotedBytes (bytes : Bytes) : String :=
  String.ofList ('"' :: (pieces bytes).flatMap quotePiece ++ ['"'])

def quoted (text : String) : String := quotedBytes (encodeUtf8 text)

end HeadlessDesktop.Text
