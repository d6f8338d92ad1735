import HeadlessDesktop.Yaml.Resolve

/-! Texts as YAML scalars of a block, in the plainest style that reads back as text. -/

namespace HeadlessDesktop.Yaml.Written

open Text

/-- Neither printable nor a line feed; everything beyond the first plane counts as special. -/
def isSpecial (c : Char) : Bool :=
  let n := c.toNat
  !(n == 0x0A || (0x20 ≤ n && n ≤ 0x7E) || (0xA0 ≤ n && n ≤ 0xD7FF) ||
    (0xE000 ≤ n && n ≤ 0xFFFD && n != 0xFEFF))

def isFrontIndicator (c : Char) : Bool := "#,[]\x7b\x7d&*!|>'\"%@\x60".toList.contains c

def endsPlain (next : Option Char) : Bool := next.all isGap

def hasInnerIndicator : (before : Char) → List Char → Bool
  | _, [] => false
  | before, c :: rest =>
    (c == ':' && endsPlain rest.head?) || (c == '#' && (isGap before || isBreak before)) ||
      hasInnerIndicator c rest

def hasIndicator : List Char → Bool
  | [] => false
  | text@(c :: rest) =>
    ['-', '-', '-'].isPrefixOf text || ['.', '.', '.'].isPrefixOf text || isFrontIndicator c ||
      ((c == '?' || c == ':' || c == '-') && endsPlain rest.head?) || hasInnerIndicator c rest

def hasPair (first second : Char → Bool) : List Char → Bool
  | a :: b :: rest => (first a && second b) || hasPair first second (b :: rest)
  | _ => false

def hasSpaceBreak : List Char → Bool := hasPair (· == ' ') isBreak

def hasBreakSpace : List Char → Bool := hasPair isBreak (· == ' ')

/-- Numbers of base sixty, which other readers take for numbers: digits, groups of one or two
digits behind colons, and a fraction. -/
def isBase60 (text : List Char) : Bool :=
  let (_, text) := Number.Decimal.sign text
  match text with
  | [] => false
  | c :: rest =>
    isDigit c && groups false (rest.length + 1) (rest.dropWhile fun c => isDigit c || c == '_')
where
  /-- The groups behind the first number. -/
  groups (some : Bool) : (steps : Nat) → List Char → Bool
    | 0, _ => false
    | steps + 1, text => match text with
      | [] => some
      | '.' :: rest => some && rest.all fun c => isDigit c || c == '_'
      | ':' :: a :: b :: rest =>
        if isDigit b then isDigit a && a ≤ '5' && groups true steps rest
        else isDigit a && groups true steps (b :: rest)
      | [':', a] => isDigit a
      | _ => false

def isOldBool (text : String) : Bool :=
  ["y", "Y", "yes", "Yes", "YES", "on", "On", "ON",
    "n", "N", "no", "No", "NO", "off", "Off", "OFF"].contains text

def readsAsText (text : String) : Bool :=
  (match Value.ofPlain true text with
    | .text _ => true
    | _ => false) && !isBase60 text.toList && !isOldBool text

/-- The style in which a text is written. A tab is fine in a literal block only, and a line
feed asks for one; breaks of other kinds need quotes. -/
def styleOf (text : String) : Style :=
  let chars := text.toList
  let endsInSpace := chars.getLast? == some ' '
  if chars.contains '\n' then
    if endsInSpace || hasSpaceBreak chars || chars.any (fun c => isSpecial c && c != '\t') then
      .doubleQuoted
    else .literal
  else if !readsAsText text || chars.any isSpecial ||
      hasSpaceBreak chars || hasBreakSpace chars then .doubleQuoted
  else if endsInSpace || chars.head? == some ' ' || chars.any isBreak || hasIndicator chars then
    .singleQuoted
  else .plain

def letterEscape? (c : Char) : Option Char :=
  match c.toNat with
  | 0 => some '0'
  | 7 => some 'a'
  | 8 => some 'b'
  | 9 => some 't'
  | 10 => some 'n'
  | 11 => some 'v'
  | 12 => some 'f'
  | 13 => some 'r'
  | 27 => some 'e'
  | 34 => some '"'
  | 92 => some '\\'
  | 0x85 => some 'N'
  | 0x2028 => some 'L'
  | 0x2029 => some 'P'
  | _ => none

def upperHex (width code : Nat) : List Char := (paddedHex width code).map Char.toUpper

def escaped (c : Char) : List Char :=
  match letterEscape? c with
  | some letter => ['\\', letter]
  | none =>
    if isSpecial c then
      if c.toNat ≤ 0xFF then '\\' :: 'x' :: upperHex 2 c.toNat
      else if c.toNat ≤ 0xFFFF then '\\' :: 'u' :: upperHex 4 c.toNat
      else '\\' :: 'U' :: upperHex 8 c.toNat
    else [c]

def doubleQuoted (text : List Char) : List Char := '"' :: text.flatMap escaped ++ ['"']

def singleQuotedBody (indent : Nat) : (behindBreak : Bool) → List Char → List Char
  | _, [] => []
  | behindBreak, c :: rest =>
    if isBreak c then c :: singleQuotedBody indent true rest
    else (if behindBreak then List.replicate indent ' ' else []) ++
      (if c == '\'' then [c, c] else [c]) ++ singleQuotedBody indent false rest

def singleQuoted (indent : Nat) (text : List Char) : List Char :=
  '\'' :: singleQuotedBody indent false text ++ ['\'']

def indentStep : Nat := 4

/-- Behind the bar: the indentation if the text starts with a space or a line break, a minus
if it does not end with a break, and a plus if it ends with two or is nothing else. -/
def literalHints (text : List Char) : List Char :=
  (if text.head?.any (fun c => c == ' ' || isBreak c) then decimal indentStep else []) ++
    match text.reverse with
    | [] => ['-']
    | last :: before =>
      if !isBreak last then ['-'] else if before.head?.all isBreak then ['+'] else []

/-- The lines of a literal block. The first break of a text that starts with one ends the
line of the bar. -/
def literalLines (indent : Nat) : (lineOpen wordOpen : Bool) → List Char → List Char
  | lineOpen, _, [] => if lineOpen then ['\n'] else []
  | lineOpen, wordOpen, c :: rest =>
    if isBreak c then c :: literalLines indent false false rest
    else if wordOpen then c :: literalLines indent true true rest
    else (if lineOpen then ['\n'] else []) ++ List.replicate indent ' ' ++
      c :: literalLines indent true true rest

def literal (indent : Nat) (text : List Char) : List Char :=
  '|' :: literalHints text ++ literalLines indent true false text

def scalar (indent : Nat) (text : String) : List Char :=
  match styleOf text with
  | .literal | .folded => literal (indent + indentStep) text.toList
  | .doubleQuoted => doubleQuoted text.toList ++ ['\n']
  | .singleQuoted => singleQuoted (indent + indentStep) text.toList ++ ['\n']
  | .plain => text.toList ++ ['\n']

def digitsPerLine : Nat := 70

def brokenLines (length : Nat) : (steps : Nat) → List Char → List Char
  | 0, _ => []
  | _ + 1, [] => []
  | steps + 1, text =>
    text.take length ++ '\n' :: brokenLines length steps (text.drop length)

def binary (indent : Nat) (bytes : Bytes) : List Char :=
  let digits := Base64.encode bytes
  binaryTag.toList ++ ' ' ::
    if digits.length < digitsPerLine then digits ++ ['\n']
    else literal (indent + indentStep) (brokenLines digitsPerLine digits.length digits)

def raw (indent : Nat) (raw : Raw) : List Char :=
  match raw.text? with
  | some text => scalar indent text
  | none => binary indent raw.bytes

end HeadlessDesktop.Yaml.Written
