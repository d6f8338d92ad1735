import HeadlessDesktop.Yaml.Cursor

/-! What stands between two words of a scalar that may go over lines. -/

namespace HeadlessDesktop.Yaml

/-- Gaps of the first line, the first break, and further breaks. -/
structure Spacing where
  gaps : List Char := []
  first : Option (List Char) := none
  more : List Char := []
deriving Repr

namespace Spacing

open Reading

/-- A single break becomes a space, of several all but the first remain. -/
def text (spacing : Spacing) : List Char :=
  match spacing.first with
  | none => spacing.gaps
  | some ['\n'] => if spacing.more.isEmpty then [' '] else spacing.more
  | some first => first ++ spacing.more

def readFrom (limit : Nat) : (steps : Nat) → Spacing → Reading Spacing
  | 0, spacing => return spacing
  | steps + 1, spacing => do
    need 1
    let c ← look 0
    if isGap c then
      if spacing.first.isNone then
        skip
        readFrom limit steps { spacing with gaps := spacing.gaps ++ [c] }
      else if c == '\t' && (← get).mark.column < limit then failure
      else
        skip
        readFrom limit steps spacing
    else if isBreak c then
      let text ← takeBreak
      readFrom limit steps (match spacing.first with
        | none => { first := some text }
        | some _ => { spacing with more := spacing.more ++ text })
    else return spacing

def read (limit : Nat) (spacing : Spacing) : Reading Spacing := do
  readFrom limit (← get).bound spacing

end Spacing

end HeadlessDesktop.Yaml
