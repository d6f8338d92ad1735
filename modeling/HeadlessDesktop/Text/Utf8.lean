/-! Text as bytes. -/

namespace HeadlessDesktop.Text

abbrev Bytes := List UInt8

def encodeUtf8 (text : String) : Bytes := text.toList.flatMap String.utf8EncodeChar

def continuation? (bytes : Bytes) (index : Nat) : Option Nat := do
  let byte ← bytes[index]?
  if 0x80 ≤ byte.toNat && byte.toNat < 0xC0 then some (byte.toNat - 0x80) else none

/-- A code point spelled in no more bytes than it needs. -/
def scalarFrom? (least code : Nat) : Option Char :=
  if least ≤ code && decide code.isValidChar then some (Char.ofNat code) else none

/-- The character that the front bytes spell and how many bytes it takes beside the
first, `none` where they spell no character. -/
def frontChar? (first : UInt8) (rest : Bytes) : Option (Char × Nat) :=
  let n := first.toNat
  if n < 0x80 then some (Char.ofNat n, 0)
  else if n < 0xC0 then none
  else if n < 0xE0 then do
    let b ← continuation? rest 0
    let c ← scalarFrom? 0x80 ((n - 0xC0) * 64 + b)
    pure (c, 1)
  else if n < 0xF0 then do
    let b ← continuation? rest 0
    let c ← continuation? rest 1
    let c ← scalarFrom? 0x800 (((n - 0xE0) * 64 + b) * 64 + c)
    pure (c, 2)
  else if n < 0xF8 then do
    let b ← continuation? rest 0
    let c ← continuation? rest 1
    let d ← continuation? rest 2
    let c ← scalarFrom? 0x10000 ((((n - 0xF0) * 64 + b) * 64 + c) * 64 + d)
    pure (c, 3)
  else none

inductive Piece
  | char (c : Char)
  | stray (byte : UInt8)
deriving DecidableEq, Repr

/-- The pieces of bytes, the first few of which belong to a character in front of them. -/
def piecesFrom : (taken : Nat) → Bytes → List Piece
  | _, [] => []
  | taken + 1, _ :: rest => piecesFrom taken rest
  | 0, first :: rest =>
    match frontChar? first rest with
    | some (c, more) => .char c :: piecesFrom more rest
    | none => .stray first :: piecesFrom 0 rest

def pieces (bytes : Bytes) : List Piece := piecesFrom 0 bytes

def replacement : Char := Char.ofNat 0xFFFD

def Piece.toChar : Piece → Char
  | .char c => c
  | .stray _ => replacement

def decodeUtf8 (bytes : Bytes) : String := String.ofList ((pieces bytes).map Piece.toChar)

end HeadlessDesktop.Text
