import HeadlessDesktop.Yaml.Scalar.Spacing

/-! Plain scalars: words without quotes, over one or more lines. -/

namespace HeadlessDesktop.Yaml.Plain

open Reading

def isFlowMark (c : Char) : Bool :=
  c == ',' || c == '?' || c == '[' || c == ']' || c == '\x7b' || c == '\x7d'

/-- The word in front, put before what was read. A colon ends it if a word would end there
too. -/
def readWord (inFlow : Bool) : (steps : Nat) → (word : List Char) → Reading (List Char)
  | 0, word => return word
  | steps + 1, word => do
    let c ← look 0
    if endsWord c || (c == ':' && endsWord (← look 1)) || (inFlow && isFlowMark c) then
      return word
    skip
    need 2
    readWord inFlow steps (c :: word)

/-- The words read so far, the last character first, and the spacing behind them. -/
structure Words where
  reversed : List Char := []
  stop : Mark
  spacing : Spacing := {}

def Words.text (words : Words) : String := String.ofList words.reversed.reverse

def readWords (inFlow : Bool) (indent : Nat) : (steps : Nat) → Words → Reading Words
  | 0, words => return words
  | steps + 1, words => do
    need 4
    if (← get).atDocumentMark || (← sees (· == '#')) then return words
    let word ← readWord inFlow (← get).bound []
    let stop := (← get).mark
    let words : Words :=
      if word.isEmpty then words
      else { reversed := word ++ words.spacing.text.reverse ++ words.reversed, stop }
    if !(← sees fun c => isGap c || isBreak c) then return words
    let words := { words with spacing := ← Spacing.read indent words.spacing }
    if !inFlow && (← get).mark.column < indent then return words
    readWords inFlow indent steps words

def read (inFlow : Bool) (indent : Nat) : Reading Words := do
  let cursor ← get
  readWords inFlow indent cursor.bound { stop := cursor.mark }

end HeadlessDesktop.Yaml.Plain
