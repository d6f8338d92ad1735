import HeadlessDesktop.Text.Numeral
import HeadlessDesktop.Yaml.Cursor

/-! Block scalars: indented lines, kept as they stand or folded. -/

namespace HeadlessDesktop.Yaml.Block

open Text Reading

inductive Chomp
  | clip
  | strip
  | keep
deriving DecidableEq

def chomp? : Char → Option Chomp
  | '-' => some .strip
  | '+' => some .keep
  | _ => none

def indentation : Reading Nat := do
  need 1
  match digitValue? (← look 0) with
  | some 0 => failure
  | some depth => skip; return depth
  | none => return 0

def chomping : Reading (Option Chomp) := do
  need 1
  match chomp? (← look 0) with
  | some chomp => skip; return some chomp
  | none => return none

def header : Reading (Chomp × Nat) := do
  let header ← match ← chomping with
    | some chomp => pure (chomp, ← indentation)
    | none =>
      let depth ← indentation
      if depth = 0 then pure (.clip, depth) else pure ((← chomping).getD .clip, depth)
  endLine
  return header

def skipIndentation (indent : Nat) : (steps : Nat) → Reading Unit
  | 0 => pure ()
  | steps + 1 => do
    need 1
    if (indent = 0 || (← get).mark.column < indent) && (← sees (· == ' ')) then
      skip
      skipIndentation indent steps

/-- Indentation and empty lines. An indentation of zero is still to be found out; the
deepest column seen is returned. -/
def readBreaks (indent : Nat) : (steps : Nat) → (deepest : Nat) → (breaks : List Char) →
    Reading (Nat × List Char)
  | 0, deepest, breaks => return (deepest, breaks)
  | steps + 1, deepest, breaks => do
    skipIndentation indent (← get).bound
    let column := (← get).mark.column
    if (indent = 0 || column < indent) && (← sees (· == '\t')) then failure
    if ← sees isBreak then
      readBreaks indent steps (max deepest column) (breaks ++ (← takeBreak))
    else return (max deepest column, breaks)

structure Lines where
  /-- The text of the lines, its last character first. -/
  reversed : List Char := []
  /-- The break after the last line. -/
  lastBreak : List Char := []
  /-- The breaks of empty lines after it. -/
  breaks : List Char := []
  /-- Whether the last line starts with a gap. -/
  afterGap : Bool := false

/-- Reads the lines. When folding, a single break between two lines that start with no gap
becomes a space. -/
def readLines (folded : Bool) (indent : Nat) : (steps : Nat) → Lines → Reading Lines
  | 0, lines => return lines
  | steps + 1, lines => do
    need 1
    if (← get).mark.column ≠ indent || (← sees (· == endMark)) then return lines
    let gap ← sees isGap
    let joint :=
      if folded && !lines.afterGap && !gap && lines.lastBreak.head? == some '\n' then
        if lines.breaks.isEmpty then [' '] else []
      else lines.lastBreak
    let line ← takeWhile (!endsLine ·)
    let lastBreak ← takeBreak
    let (_, breaks) ← readBreaks indent (← get).bound 0 []
    readLines folded indent steps
      { lastBreak, breaks
        reversed := (joint ++ lines.breaks ++ line).reverse ++ lines.reversed
        afterGap := gap }

def read (folded : Bool) (parent : Int) : Reading (List Char) := do
  skip
  let (chomp, depth) ← header
  let given := if depth = 0 then 0 else if 0 ≤ parent then parent.toNat + depth else depth
  let (deepest, breaks) ← readBreaks given (← get).bound 0 []
  let indent := if given = 0 then max (max deepest (parent + 1).toNat) 1 else given
  let lines ← readLines folded indent (← get).bound { breaks }
  let tail := match chomp with
    | .strip => []
    | .clip => lines.lastBreak
    | .keep => lines.lastBreak ++ lines.breaks
  return lines.reversed.reverse ++ tail

end HeadlessDesktop.Yaml.Block
