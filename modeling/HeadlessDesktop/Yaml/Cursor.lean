import HeadlessDesktop.Text.Raw

/-! A place in a YAML text. The text is taken in piece by piece, and only as far as the
reading needs it: what is never taken in is never checked. The encoding is UTF-8; files in
UTF-16 are refused. -/

namespace HeadlessDesktop.Yaml

open Text (Raw Piece)

/-- The end of a text is seen as this character, which a text may not hold. -/
def endMark : Char := Char.ofNat 0

/-- The characters that bytes are read as. A byte that is part of no character is read as one
that a text may not hold. -/
def sourceOf (raw : Raw) : String :=
  String.ofList ((Text.pieces raw.bytes).map fun
    | .char c => c
    | .stray _ => endMark)

def byteOrderMark : Char := Char.ofNat 0xFEFF

def isWideBreak (c : Char) : Bool := c.toNat == 0x85 || c.toNat == 0x2028 || c.toNat == 0x2029

def isBreak (c : Char) : Bool := c == '\n' || c == '\r' || isWideBreak c

def isGap (c : Char) : Bool := c == ' ' || c == '\t'

def endsLine (c : Char) : Bool := isBreak c || c == endMark

def endsWord (c : Char) : Bool := isGap c || endsLine c

def isAllowed (c : Char) : Bool :=
  let n := c.toNat
  n == 0x09 || n == 0x0A || n == 0x0D || (0x20 ≤ n && n ≤ 0x7E) || n == 0x85 ||
    (0xA0 ≤ n && n ≤ 0xD7FF) || (0xE000 ≤ n && n ≤ 0xFFFD) || 0x10000 ≤ n

def isNameChar (c : Char) : Bool :=
  ('0' ≤ c && c ≤ '9') || ('A' ≤ c && c ≤ 'Z') || ('a' ≤ c && c ≤ 'z') || c == '_' || c == '-'

def pieceSize : Nat := 512

def takePiece (room : Nat) : List Char → List Char × List Char
  | [] => ([], [])
  | c :: rest =>
    if room < c.utf8Size then ([], c :: rest)
    else
      let (piece, rest) := takePiece (room - c.utf8Size) rest
      (c :: piece, rest)

def piecesFrom (room : Nat) : (steps : Nat) → List Char → List (List Char)
  | 0, _ => []
  | _ + 1, [] => []
  | steps + 1, text =>
    let (piece, rest) := takePiece room text
    piece :: piecesFrom pieceSize steps rest

/-- A text in pieces. A mark at its start takes up room but is not part of the text. -/
def pieces (text : List Char) : List (List Char) :=
  match text with
  | c :: rest =>
    if c == byteOrderMark then piecesFrom (pieceSize - c.utf8Size) text.length rest
    else piecesFrom pieceSize text.length text
  | [] => []

structure Mark where
  index : Nat := 0
  line : Nat := 0
  column : Nat := 0
deriving DecidableEq, Repr, Inhabited

structure Cursor where
  /-- What was taken in and not yet passed. -/
  window : List Char := []
  /-- What is still to be taken in. -/
  pieces : List (List Char)
  /-- Whether the window, when it was last filled, started with a byte order mark. -/
  marked : Bool := false
  mark : Mark := {}
  /-- Whether a line was ended since the last character that is not a gap. -/
  freshLine : Bool := false
  /-- No run of characters is longer than this. -/
  bound : Nat
deriving Repr

abbrev Reading (α : Type) := StateT Cursor Option α

namespace Cursor

def ofText (text : List Char) : Cursor := { pieces := Yaml.pieces text, bound := text.length + 1 }

def peek (cursor : Cursor) (ahead : Nat) : Char := cursor.window.getD ahead endMark

def skip (cursor : Cursor) : Cursor :=
  { cursor with
    window := cursor.window.drop 1
    mark := { cursor.mark with index := cursor.mark.index + 1, column := cursor.mark.column + 1 }
    freshLine := cursor.freshLine && isGap (cursor.peek 0) }

def breakLength (cursor : Cursor) : Nat :=
  if cursor.peek 0 == '\r' && cursor.peek 1 == '\n' then 2
  else if isBreak (cursor.peek 0) then 1
  else 0

def skipBreak (cursor : Cursor) : Cursor :=
  match cursor.breakLength with
  | 0 => cursor
  | length =>
    { cursor with
      window := cursor.window.drop length
      mark := ⟨cursor.mark.index + length, cursor.mark.line + 1, 0⟩
      freshLine := true }

/-- What the end of a line counts as: the two separators stand for themselves, all others
are line feeds. -/
def breakText (cursor : Cursor) : List Char :=
  let c := cursor.peek 0
  if c.toNat == 0x2028 || c.toNat == 0x2029 then [c] else if isBreak c then ['\n'] else []

def atDocumentMark (cursor : Cursor) : Bool :=
  cursor.mark.column == 0 && (cursor.peek 0 == '-' || cursor.peek 0 == '.') &&
    cursor.peek 1 == cursor.peek 0 && cursor.peek 2 == cursor.peek 0 && endsWord (cursor.peek 3)

def holds (window : List Char) (count : Nat) : Bool :=
  count == 0 || !(window.drop (count - 1)).isEmpty

/-- Takes in pieces until there are enough characters. If the text ends before, the end is
added once. -/
def fill (count : Nat) : (pieces : List (List Char)) → (window : List Char) →
    Option (List Char × List (List Char))
  | [], window => some (window ++ [endMark], [])
  | piece :: pieces, window =>
    if !piece.all isAllowed then none
    else if holds (window ++ piece) count then some (window ++ piece, pieces)
    else fill count pieces (window ++ piece)

end Cursor

namespace Reading

def need (count : Nat) : Reading Unit := fun cursor =>
  if Cursor.holds cursor.window count then some ((), cursor)
  else do
    let (window, pieces) ← Cursor.fill count cursor.pieces cursor.window
    pure ((), { cursor with window, pieces, marked := window.head? == some byteOrderMark })

def look (ahead : Nat) : Reading Char := fun cursor => some (cursor.peek ahead, cursor)

def sees (test : Char → Bool) : Reading Bool := fun cursor => some (test (cursor.peek 0), cursor)

def skip : Reading Unit := modify Cursor.skip

def skipMany : (count : Nat) → Reading Unit
  | 0 => pure ()
  | count + 1 => do skip; skipMany count

def takeBreak : Reading (List Char) := do
  need 2
  let cursor ← get
  set cursor.skipBreak
  return cursor.breakText

def takeWhileFrom (test : Char → Bool) : (steps : Nat) → (taken : List Char) →
    Reading (List Char)
  | 0, taken => return taken.reverse
  | steps + 1, taken => do
    need 1
    let c ← look 0
    if test c then
      skip
      takeWhileFrom test steps (c :: taken)
    else return taken.reverse

def takeWhile (test : Char → Bool) : Reading (List Char) := do
  takeWhileFrom test (← get).bound []

def skipWhile (test : Char → Bool) : Reading Unit := do
  let _ ← takeWhile test

def skipGaps : Reading Unit := skipWhile isGap

def skipToBreak : Reading Unit := skipWhile (!endsLine ·)

def endLine : Reading Unit := do
  skipGaps
  if ← sees (· == '#') then skipToBreak
  if !(← sees endsLine) then failure
  if ← sees isBreak then
    let _ ← takeBreak

end Reading

end HeadlessDesktop.Yaml
