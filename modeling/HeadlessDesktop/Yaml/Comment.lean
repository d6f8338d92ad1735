import HeadlessDesktop.Yaml.Cursor

/-! Comments. The search for the number sign of a comment does not look further than a fixed
number of characters. -/

namespace HeadlessDesktop.Yaml.Comment

open Reading

def searchLength : Nat := 512

/-- The place of the number sign of a comment. Only gaps may stand before it, and where the
search goes over lines, ends of lines of one byte; one of more bytes ends the search behind
it. -/
def find? (overLines : Bool) : (steps index : Nat) → Reading (Option Nat)
  | 0, _ => return none
  | steps + 1, index => do
    need (index + 1)
    let c ← look index
    if isGap c || (overLines && isBreak c && !isWideBreak c) then
      find? overLines steps (index + 1)
    else
      if overLines && isWideBreak c && 0 < steps then need (index + 2)
      return if c == '#' then some index else none

def skipUntil (place : Nat) : (steps : Nat) → Reading Unit
  | 0 => pure ()
  | steps + 1 => do
    need 1
    if (← get).mark.index < place then
      if ← sees isBreak then
        let _ ← takeBreak
      else skip
      skipUntil place steps

def skipComment (index : Nat) : Reading Unit := do
  let cursor ← get
  skipUntil (cursor.mark.index + index) cursor.bound
  skipToBreak

def findNext? : Reading (Option Nat) := do
  if ← sees isWideBreak then
    need 2
    return none
  else find? true (searchLength - 1) 1

def skipLines : (steps : Nat) → (index : Nat) → Reading Unit
  | 0, _ => pure ()
  | steps + 1, index => do
    skipComment index
    match ← findNext? with
    | some index => skipLines steps index
    | none => pure ()

def skipAll : Reading Unit := do skipLines (← get).bound 0

def skipOnLine : Reading Unit := do
  if (← get).freshLine then return
  match ← find? false searchLength 0 with
  | some index => skipComment index
  | none => pure ()

end HeadlessDesktop.Yaml.Comment
