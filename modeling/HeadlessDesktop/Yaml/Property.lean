import HeadlessDesktop.Text.Numeral
import HeadlessDesktop.Text.Utf8
import HeadlessDesktop.Yaml.Token

/-! Anchors, aliases, tags and directives. -/

namespace HeadlessDesktop.Yaml.Property

open Text Reading

def endsName (next : Char) : Bool := endsWord next || "?:,]\x7d%@\x60".toList.contains next

def readName : Reading String := do
  skip
  let name ← takeWhile isNameChar
  if name.isEmpty || !(← sees endsName) then failure
  return String.ofList name

def isTagChar (c : Char) : Bool := isNameChar c || ";/?:@&=+$,.!~*'()[]".toList.contains c

def escapedByte : Reading UInt8 := do
  need 3
  match ← look 0, hexValue? (← look 1), hexValue? (← look 2) with
  | '%', some high, some low =>
    skipMany 3
    return UInt8.ofNat (high * 16 + low)
  | _, _, _ => failure

def byteCount? (first : UInt8) : Option Nat :=
  if first < 0x80 then some 1
  else if first &&& 0xE0 == 0xC0 then some 2
  else if first &&& 0xF0 == 0xE0 then some 3
  else if first &&& 0xF8 == 0xF0 then some 4
  else none

def escapedTail : (count : Nat) → Reading Bytes
  | 0 => return []
  | count + 1 => do
    let byte ← escapedByte
    if byte &&& 0xC0 != 0x80 then failure
    return byte :: (← escapedTail count)

def escapedChar : Reading (List Char) := do
  let first ← escapedByte
  match byteCount? first with
  | some count => return (decodeUtf8 (first :: (← escapedTail (count - 1)))).toList
  | none => failure

def uriFrom : (steps : Nat) → (text : List Char) → Reading (List Char)
  | 0, text => return text
  | steps + 1, text => do
    need 1
    let c ← look 0
    if c == '%' then uriFrom steps (text ++ (← escapedChar))
    else if isTagChar c then
      skip
      uriFrom steps (text ++ [c])
    else return text

/-- The characters of a tag, with their escapes undone; if none were read before there has to
be one. -/
def uri (before : List Char) : Reading (List Char) := do
  let start ← get
  let text ← uriFrom start.bound (before.drop 1)
  if before.isEmpty && (← get).mark.index = start.mark.index then failure
  return text

def readHandle : Reading (List Char) := do
  need 1
  if !(← sees (· == '!')) then failure
  skip
  let name ← takeWhile isNameChar
  if ← sees (· == '!') then
    skip
    return '!' :: name ++ ['!']
  return '!' :: name

def isClosed (handle : List Char) : Bool := 1 < handle.length && handle.getLast? == some '!'

/-- The handle and the suffix of a tag that is written with a handle. The single mark is a tag
without a handle. -/
def handleAndSuffix : Reading (List Char × List Char) := do
  let handle ← readHandle
  if isClosed handle then return (handle, ← uri [])
  let suffix ← uri handle
  return if suffix.isEmpty then ([], ['!']) else (['!'], suffix)

def fullTag : Reading (List Char) := do
  skipMany 2
  let tag ← uri []
  if !(← sees (· == '>')) then failure
  skip
  return tag

def readTag : Reading Token.Kind := do
  need 2
  let (handle, suffix) ← if (← look 1) == '<' then pure ([], ← fullTag) else handleAndSuffix
  need 1
  if !(← sees endsWord) then failure
  return .tag (String.ofList handle) (String.ofList suffix)

def maxNumberLength : Nat := 2

def readNumberFrom : (room : Nat) → (digits : List Char) → Reading Nat
  | room, digits => do
    need 1
    let c ← look 0
    match room, (digitValue? c).isSome with
    | _, false => match numeral? 10 digits with
      | some number => return number
      | none => failure
    | 0, true => failure
    | room + 1, true =>
      skip
      readNumberFrom room (digits ++ [c])

def readNumber : Reading Nat := readNumberFrom maxNumberLength []

def readVersion : Reading Token.Kind := do
  skipGaps
  let major ← readNumber
  if !(← sees (· == '.')) then failure
  skip
  return .versionDirective major (← readNumber)

def readTagDirective : Reading Token.Kind := do
  skipGaps
  let handle ← readHandle
  if !isClosed handle && handle != ['!'] then failure
  need 1
  if !(← sees isGap) then failure
  skipGaps
  let expansion ← uri []
  need 1
  if !(← sees endsWord) then failure
  return .tagDirective (String.ofList handle) (String.ofList expansion)

def readDirective : Reading (Token.Kind × Mark) := do
  skip
  let name ← takeWhile isNameChar
  if name.isEmpty || !(← sees endsWord) then failure
  let kind ← match String.ofList name with
    | "YAML" => readVersion
    | "TAG" => readTagDirective
    | _ => failure
  let stop := (← get).mark
  endLine
  return (kind, stop)

end HeadlessDesktop.Yaml.Property
