import HeadlessDesktop.Text.Numeral
import HeadlessDesktop.Yaml.Scalar.Spacing

/-! Quoted scalars. Inside single quotes a quote is written twice; inside double quotes
there are escapes. -/

namespace HeadlessDesktop.Yaml.Quoted

open Text Reading

def simpleEscape? : Char → Option Char
  | '0' => some (Char.ofNat 0)
  | 'a' => some (Char.ofNat 7)
  | 'b' => some (Char.ofNat 8)
  | 't' | '\t' => some '\t'
  | 'n' => some '\n'
  | 'v' => some (Char.ofNat 11)
  | 'f' => some (Char.ofNat 12)
  | 'r' => some '\r'
  | 'e' => some (Char.ofNat 27)
  | ' ' => some ' '
  | '"' => some '"'
  | '\'' => some '\''
  | '\\' => some '\\'
  | 'N' => some (Char.ofNat 0x85)
  | '_' => some (Char.ofNat 0xA0)
  | 'L' => some (Char.ofNat 0x2028)
  | 'P' => some (Char.ofNat 0x2029)
  | _ => none

def escapeDigits? : Char → Option Nat
  | 'x' => some 2
  | 'u' => some 4
  | 'U' => some 8
  | _ => none

def escape : Reading Char := do
  let kind ← look 1
  skipMany 2
  match escapeDigits? kind with
  | some count =>
    need count
    let digits := (← get).window.take count
    match numeral? 16 digits with
    | some code =>
      if digits.length < count || !decide code.isValidChar then failure
      skipMany count
      return Char.ofNat code
    | none => failure
  | none =>
    match simpleEscape? kind with
    | some c => return c
    | none => failure

inductive Stop
  | plain
  | escapedBreak
deriving DecidableEq

/-- Reads up to a gap, a break, the closing quote or an escaped break. The text is held with
its last character first. -/
def readStretch (double : Bool) : (steps : Nat) → (text : List Char) →
    Reading (List Char × Stop)
  | 0, text => return (text, .plain)
  | steps + 1, text => do
    let c ← look 0
    let next ← look 1
    if endsWord c || (double && c == '"') || (!double && c == '\'' && next != '\'') then
      return (text, .plain)
    if double && c == '\\' && isBreak next then
      need 3
      skip
      let _ ← takeBreak
      return (text, .escapedBreak)
    let value ←
      if double && c == '\\' then escape
      else do
        skipMany (if !double && c == '\'' then 2 else 1)
        pure c
    need 2
    readStretch double steps (value :: text)

def readBody (double : Bool) : (steps : Nat) → (text : List Char) → Reading (List Char)
  | 0, _ => failure
  | steps + 1, text => do
    need 4
    if (← get).atDocumentMark || (← sees (· == endMark)) then failure
    let (text, stop) ← readStretch double (← get).bound text
    need 1
    if ← sees (· == if double then '"' else '\'') then
      skip
      return text.reverse
    let spacing ← Spacing.read 0 (if stop = .escapedBreak then { first := some [] } else {})
    readBody double steps (spacing.text.reverse ++ text)

def read (double : Bool) : Reading (List Char) := do
  skip
  readBody double (← get).bound []

end HeadlessDesktop.Yaml.Quoted
