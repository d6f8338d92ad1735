import HeadlessDesktop.Yaml.Comment
import HeadlessDesktop.Yaml.Property
import HeadlessDesktop.Yaml.Scalar.Block
import HeadlessDesktop.Yaml.Scalar.Plain
import HeadlessDesktop.Yaml.Scalar.Quoted

/-! A YAML text as tokens, read on demand. A key without indicator is only known by the colon
behind it, so its place is remembered until the colon comes, the line ends or too much stands
between; as long as that is open, the tokens from that place on are held back. -/

namespace HeadlessDesktop.Yaml

/-- The last place at a level of brackets where a key may have started, and whether it still
may have. It is required where nothing but a key may start at that column. -/
structure KeyPlace where
  possible : Bool := false
  required : Bool := false
  tokenNumber : Nat := 0
  mark : Mark := {}
deriving Repr, Inhabited

/-- Whether a key that started there could still end here: on its line and within 1024
characters. -/
def KeyPlace.reaches (place : KeyPlace) (here : Mark) : Bool :=
  !(place.mark.line < here.line || place.mark.index + 1024 < here.index)

structure Scanner where
  cursor : Cursor
  /-- All tokens read so far, and how many of them were used. -/
  tokens : Array Token := #[]
  used : Nat := 0
  /-- Whether a key without indicator may start here. -/
  keyAllowed : Bool := true
  /-- The outermost level and one for each open bracket. -/
  levels : Array KeyPlace := #[{}]
  /-- The level whose key may start with a token, by the number of the token. -/
  heldBack : List (Nat × Nat) := []
  /-- The column of the innermost block, and of those around it. -/
  indent : Int := -1
  indents : List Int := []

namespace Scanner

def maxDepth : Nat := 10000

def inFlow (scanner : Scanner) : Bool := 1 < scanner.levels.size

def here (scanner : Scanner) : Mark := scanner.cursor.mark

def read {α : Type} (scanner : Scanner) (reading : Reading α) : Option (α × Scanner) := do
  let (value, cursor) ← reading.run scanner.cursor
  pure (value, { scanner with cursor })

def push (scanner : Scanner) (kind : Token.Kind) (start stop : Mark) : Scanner :=
  { scanner with tokens := scanner.tokens.push ⟨kind, start, stop⟩ }

def insertAt (scanner : Scanner) (number : Nat) (kind : Token.Kind) (mark : Mark) : Scanner :=
  if h : scanner.used ≤ number ∧ number ≤ scanner.tokens.size then
    { scanner with tokens := scanner.tokens.insertIdx number ⟨kind, mark, mark⟩ h.2 }
  else scanner.push kind mark mark

def pushMark (scanner : Scanner) (kind : Token.Kind) (length : Nat) : Option Scanner := do
  let ((), after) ← scanner.read (Reading.skipMany length)
  pure (after.push kind scanner.here after.here)

def place (scanner : Scanner) : KeyPlace := scanner.levels.back?.getD {}

/-- Whether the key of a level is still possible. One that no longer is may not have been
required. -/
def checkKey (scanner : Scanner) (level : Nat) : Option (Bool × Scanner) :=
  match scanner.levels[level]? with
  | none => some (false, scanner)
  | some place =>
    if !place.possible then some (false, scanner)
    else if place.reaches scanner.here then some (true, scanner)
    else if place.required then none
    else some (false,
      { scanner with
        levels := scanner.levels.setIfInBounds level { place with possible := false } })

def release (scanner : Scanner) (number : Nat) : Scanner :=
  { scanner with heldBack := scanner.heldBack.filter (·.1 != number) }

def dropKey (scanner : Scanner) : Scanner :=
  { scanner with
    levels := scanner.levels.pop.push { scanner.place with possible := false } }.release
      scanner.place.tokenNumber

def removeKey (scanner : Scanner) : Option Scanner :=
  if !scanner.place.possible then some scanner
  else if scanner.place.required then none
  else some scanner.dropKey

def saveKey (scanner : Scanner) : Option Scanner :=
  if scanner.keyAllowed then do
    let place : KeyPlace :=
      { possible := true
        required := !scanner.inFlow && scanner.indent == (scanner.here.column : Int)
        tokenNumber := scanner.tokens.size
        mark := scanner.here }
    let scanner ← scanner.removeKey
    pure { scanner with
      levels := scanner.levels.pop.push place
      heldBack := (place.tokenNumber, scanner.levels.size - 1) :: scanner.heldBack }
  else some scanner

def openBlock (scanner : Scanner) (column number : Nat) (kind : Token.Kind) (mark : Mark) :
    Option Scanner :=
  if scanner.inFlow || (column : Int) ≤ scanner.indent then some scanner
  else if maxDepth < scanner.indents.length + 1 then none
  else some ({ scanner with
    indents := scanner.indent :: scanner.indents
    indent := column }.insertAt number kind mark)

def openBlockHere (scanner : Scanner) (kind : Token.Kind) : Option Scanner :=
  scanner.openBlock scanner.here.column scanner.tokens.size kind scanner.here

def closeBlocks (column : Int) : (indents : List Int) → Scanner → Scanner
  | [], scanner => scanner
  | outer :: rest, scanner =>
    if column < scanner.indent then
      closeBlocks column rest ({ scanner with indent := outer, indents := rest }.push
        .blockEnd scanner.here scanner.here)
    else scanner

def unwind (scanner : Scanner) (column : Int) : Scanner :=
  if scanner.inFlow then scanner else closeBlocks column scanner.indents scanner

def toLineStart (scanner : Scanner) : Scanner :=
  let mark := scanner.here
  if mark.column = 0 then scanner
  else
    { scanner with
      cursor := { scanner.cursor with mark := { mark with line := mark.line + 1, column := 0 } } }

def streamEnd (scanner : Scanner) : Option Scanner := do
  let scanner ← (scanner.toLineStart.unwind (-1)).removeKey
  pure ({ scanner with keyAllowed := false }.push .streamEnd scanner.here scanner.here)

def directive (scanner : Scanner) : Option Scanner := do
  let scanner ← (scanner.unwind (-1)).removeKey
  let ((kind, stop), after) ← scanner.read Property.readDirective
  pure ({ after with keyAllowed := false }.push kind scanner.here stop)

def documentMark (scanner : Scanner) (kind : Token.Kind) : Option Scanner := do
  let scanner ← (scanner.unwind (-1)).removeKey
  { scanner with keyAllowed := false }.pushMark kind 3

def flowStart (scanner : Scanner) (kind : Token.Kind) : Option Scanner := do
  let scanner ← scanner.saveKey
  if maxDepth < scanner.levels.size then none
  let level : KeyPlace := { tokenNumber := scanner.tokens.size, mark := scanner.here }
  { scanner with keyAllowed := true, levels := scanner.levels.push level }.pushMark kind 1

def closeLevel (scanner : Scanner) : Scanner :=
  if scanner.inFlow then
    { scanner with levels := scanner.levels.pop }.release scanner.place.tokenNumber
  else scanner

def flowEnd (scanner : Scanner) (kind : Token.Kind) : Option Scanner := do
  let scanner ← scanner.removeKey
  { scanner.closeLevel with keyAllowed := false }.pushMark kind 1

def flowEntry (scanner : Scanner) : Option Scanner := do
  let scanner ← scanner.removeKey
  { scanner with keyAllowed := true }.pushMark .flowEntry 1

def blockEntry (scanner : Scanner) : Option Scanner := do
  if !scanner.inFlow && !scanner.keyAllowed then none
  let scanner ← (← scanner.openBlockHere .blockSequenceStart).removeKey
  { scanner with keyAllowed := true }.pushMark .blockEntry 1

def keyMark (scanner : Scanner) : Option Scanner := do
  if !scanner.inFlow && !scanner.keyAllowed then none
  let scanner ← (← scanner.openBlockHere .blockMappingStart).removeKey
  { scanner with keyAllowed := !scanner.inFlow }.pushMark .key 1

/-- A colon makes the possible key a key. Without one it belongs to a key with indicator. -/
def valueMark (scanner : Scanner) : Option Scanner := do
  let (possible, scanner) ← scanner.checkKey (scanner.levels.size - 1)
  if possible then
    let ⟨_, _, number, mark⟩ := scanner.place
    let scanner ← (scanner.insertAt number .key mark).openBlock mark.column number
      .blockMappingStart mark
    { scanner.dropKey with keyAllowed := false }.pushMark .value 1
  else
    if !scanner.inFlow && !scanner.keyAllowed then none
    let scanner ← scanner.openBlockHere .blockMappingStart
    { scanner with keyAllowed := !scanner.inFlow }.pushMark .value 1

def word (scanner : Scanner) (reading : Reading Token.Kind) : Option Scanner := do
  let scanner ← scanner.saveKey
  let (kind, after) ← scanner.read reading
  pure ({ after with keyAllowed := false }.push kind scanner.here after.here)

def quotedScalar (double : Bool) : Reading Token.Kind := do
  let text ← Quoted.read double
  return .scalar (String.ofList text) (if double then .doubleQuoted else .singleQuoted)

def blockScalar (scanner : Scanner) (folded : Bool) : Option Scanner := do
  let scanner ← scanner.removeKey
  let (text, after) ← scanner.read (Block.read folded scanner.indent)
  pure ({ after with keyAllowed := true }.push
    (.scalar (String.ofList text) (if folded then .folded else .literal)) scanner.here after.here)

def plainScalar (scanner : Scanner) : Option Scanner := do
  let scanner ← scanner.saveKey
  let (words, after) ← scanner.read (Plain.read scanner.inFlow (scanner.indent + 1).toNat)
  pure ({ after with keyAllowed := words.spacing.first.isSome }.push
    (.scalar words.text .plain) scanner.here words.stop)

def isIndicator (c : Char) : Bool := "-?:,[]\x7b\x7d#&*!|>'\"%@\x60".toList.contains c

def token (scanner : Scanner) (c next : Char) : Option Scanner :=
  match c with
  | '[' => scanner.flowStart .flowSequenceStart
  | '\x7b' => scanner.flowStart .flowMappingStart
  | ']' => scanner.flowEnd .flowSequenceEnd
  | '\x7d' => scanner.flowEnd .flowMappingEnd
  | ',' => scanner.flowEntry
  | '*' => scanner.word (.alias <$> Property.readName)
  | '&' => scanner.word (.anchor <$> Property.readName)
  | '!' => scanner.word Property.readTag
  | '\'' => scanner.word (quotedScalar false)
  | '"' => scanner.word (quotedScalar true)
  | _ =>
    if c == '-' && endsWord next then scanner.blockEntry
    else if c == '?' && (scanner.inFlow || endsWord next) then scanner.keyMark
    else if c == ':' && (scanner.inFlow || endsWord next) then scanner.valueMark
    else if c == '|' && !scanner.inFlow then scanner.blockScalar false
    else if c == '>' && !scanner.inFlow then scanner.blockScalar true
    else if c == '-' || ((c == '?' || c == ':') && !scanner.inFlow) ||
        !(isGap c || isIndicator c) then scanner.plainScalar
    else none

/-- Past gaps and comments of a line, and whether the line ends there. While the window is one
that started with a byte order mark, the first character of every line is passed over. -/
def toWord (tabs : Bool) : Reading Bool := do
  Reading.need 1
  let cursor ← get
  if cursor.mark.column = 0 && cursor.marked then Reading.skip
  Reading.skipWhile fun c => c == ' ' || (c == '\t' && tabs)
  if ← Reading.sees (· == '#') then Comment.skipAll
  if ← Reading.sees isBreak then
    let _ ← Reading.takeBreak
    return true
  return false

def toNextToken : (steps : Nat) → Scanner → Option Scanner
  | 0, scanner => some scanner
  | steps + 1, scanner => do
    let (lineEnded, scanner) ← scanner.read (toWord (scanner.inFlow || !scanner.keyAllowed))
    if lineEnded then
      toNextToken steps { scanner with keyAllowed := scanner.keyAllowed || !scanner.inFlow }
    else pure scanner

def endsWithEntry (scanner : Scanner) : Bool :=
  scanner.tokens.back?.any fun token => token.kind == .blockEntry

def next (scanner : Scanner) : Option Scanner := do
  let scanner ← toNextToken scanner.cursor.bound scanner
  let ((), scanner) ← (scanner.unwind scanner.here.column).read (Reading.need 4)
  let c := scanner.cursor.peek 0
  if c == endMark then scanner.streamEnd
  else if scanner.here.column == 0 && c == '%' then scanner.directive
  else if scanner.cursor.atDocumentMark then
    scanner.documentMark (if c == '-' then .documentStart else .documentEnd)
  else
    let scanner ← scanner.token c (scanner.cursor.peek 1)
    if scanner.endsWithEntry then pure scanner
    else
      let ((), scanner) ← scanner.read Comment.skipOnLine
      pure scanner

def isHeldBack (scanner : Scanner) : Option (Bool × Scanner) :=
  match scanner.heldBack.lookup scanner.used with
  | none => some (false, scanner)
  | some level => scanner.checkKey level

/-- Reads on until the next token can be used: two more have to stand behind it, and it may
not be held back. -/
def prepareFrom : (steps : Nat) → Scanner → Option Scanner
  | 0, _ => none
  | steps + 1, scanner => do
    if scanner.used + 2 < scanner.tokens.size then
      let (heldBack, scanner) ← scanner.isHeldBack
      if heldBack then prepareFrom steps (← scanner.next) else pure scanner
    else prepareFrom steps (← scanner.next)

def prepare (scanner : Scanner) : Option Scanner := prepareFrom (scanner.cursor.bound + 4) scanner

def peek (scanner : Scanner) : Option (Token × Scanner) := do
  let scanner ← scanner.prepare
  pure (← scanner.tokens[scanner.used]?, scanner)

def advance (scanner : Scanner) : Scanner := { scanner with used := scanner.used + 1 }

def ofText (text : List Char) : Option Scanner := do
  let start : Scanner := { cursor := .ofText (if text.isEmpty then ['\n'] else text) }
  let ((), start) ← start.read (Reading.need 1)
  pure (start.push .streamStart start.here start.here)

end Scanner

end HeadlessDesktop.Yaml
