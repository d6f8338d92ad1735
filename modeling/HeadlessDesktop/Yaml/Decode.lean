import HeadlessDesktop.Yaml.Compose
import HeadlessDesktop.Yaml.Fault

/-! Typed values from nodes. Faults are collected, so that one reading finds them all. -/

namespace HeadlessDesktop.Yaml

open Text Number

/-- What a node is where no type is asked for. Only scalars can be told apart as keys. -/
inductive Generic
  | scalar (value : Value)
  | sequence
  | mapping (textKeys : Bool)
deriving DecidableEq, Repr

def Generic.typeName : Generic → String
  | .scalar value => value.tag
  | .sequence => "[]interface \x7b\x7d"
  | .mapping true => "map[string]interface \x7b\x7d"
  | .mapping false => "map[interface \x7b\x7d]interface \x7b\x7d"

inductive Halt
  | refused
  | unhashable (key : Generic)
deriving DecidableEq, Repr

structure Tally where
  faults : List TypeFault := []
  /-- How many nodes were decoded, and how many of them behind an alias. -/
  decoded : Nat := 0
  aliased : Nat := 0
  /-- While a mapping is merged into another: the keys that are set. -/
  taken : Option (List Value) := none

/-- Work that collects faults; it may refuse the document altogether. -/
abbrev Decode (α : Type) := StateT Tally (Except Halt) α

namespace Decode

def addFaults (faults : List TypeFault) : Decode Unit :=
  modify fun tally => { tally with faults := tally.faults ++ faults }

def mismatch (node : Node) (target : String) : Decode Unit :=
  addFaults (TypeFault.ofMismatch node target)

def refuse {α : Type} : Decode α := throw .refused

def setTaken (taken : Option (List Value)) : Decode Unit :=
  modify fun tally => { tally with taken }

structure Scope where
  document : Document
  following : List Nat := []

/-- Up to 400000 nodes, 99 of 100 may come from aliases; from there the share goes down in a
straight line to 10 of 100 at 4000000 nodes. Little work is always fine. -/
def isExcessive (decoded aliased : Nat) : Bool :=
  let low := 400000
  let high := 4000000
  let fine :=
    if decoded ≤ low then 99 * (high - low)
    else if high ≤ decoded then 10 * (high - low)
    else 99 * (high - low) - 89 * (decoded - low)
  100 < aliased && 1000 < decoded && decoded * fine < aliased * 100 * (high - low)

def visit (scope : Scope) : Decode Unit := do
  let tally ← get
  let decoded := tally.decoded + 1
  let aliased := if scope.following.isEmpty then tally.aliased else tally.aliased + 1
  if isExcessive decoded aliased then refuse
  set { tally with decoded, aliased }

/-- The node itself or, for an alias, what it stands for. An alias may not lead to itself. -/
def reach (scope : Scope) (node : Node) : Decode (Node × Scope) := do
  visit scope
  match node with
  | .alias _ _ slot number =>
    if scope.following.contains number then refuse
    match scope.document.target? slot with
    | some target =>
      let scope := { scope with following := number :: scope.following }
      visit scope
      return (target, scope)
    | none => refuse
  | _ => return (node, scope)

def scalar (node : Node) (target : String) : Decode (Option (Value × String)) := do
  match node with
  | .scalar _ tag _ text =>
    match Value.ofTagged? tag text with
    | some value => return some (value, text)
    | none => refuse
  | _ => mismatch node target; return none

def string? (scope : Scope) (node : Node) : Decode (Option Raw) := do
  let (node, _) ← reach scope node
  match ← scalar node "string" with
  | some (.null, _) | none => return none
  | some (.text value, _) => return some value
  | some (_, text) => return some (.text text)

def string (scope : Scope) (node : Node) (old : Raw) : Decode Raw := do
  return (← string? scope node).getD old

/-- Whole numbers of 64 bits as they are. Fractions lose what is behind the point, if they
are not above the greatest number; below the least one they wrap to it. -/
def wholeNumber? : Value → Option Int
  | .int value => if Integer.isSigned64 value then some value else none
  | .float value =>
    let whole := value.truncate
    if 0x8000000000000000 < whole then none
    else some (if Integer.isSigned64 whole then whole else -0x8000000000000000)
  | .infinite true => some (-0x8000000000000000)
  | _ => none

def int (scope : Scope) (node : Node) (old : Int64) : Decode Int64 := do
  let (node, _) ← reach scope node
  match ← scalar node "int" with
  | some (.null, _) | none => return old
  | some (value, _) =>
    match wholeNumber? value with
    | some number => return Int64.ofInt number
    | none => mismatch node "int"; return old

def yesOrNo? : String → Option Bool
  | "y" | "Y" | "yes" | "Yes" | "YES" | "on" | "On" | "ON" => some true
  | "n" | "N" | "no" | "No" | "NO" | "off" | "Off" | "OFF" => some false
  | _ => none

def bool? : Value → Option Bool
  | .bool value => some value
  | .text word => word.text?.bind yesOrNo?
  | _ => none

def bool (scope : Scope) (node : Node) (old : Option Bool) : Decode (Option Bool) := do
  let (node, _) ← reach scope node
  match ← scalar node (if node.tag = nullTag then "*bool" else "bool") with
  | none => return old
  | some (.null, _) => return none
  | some (value, _) =>
    let answer := bool? value
    if answer.isNone then mismatch node "bool"
    return answer

def isMerge : Node → Bool
  | .scalar _ tag _ text => text == "<<" && (tag == "" || tag == mergeTag)
  | _ => false

def mergeItems : Node → List Node
  | .sequence _ _ items => items
  | node => [node]

def checkMergeable (scope : Scope) (node : Node) : Decode Unit :=
  match node with
  | .mapping _ _ _ => pure ()
  | .alias _ _ slot _ =>
    match scope.document.target? slot with
    | some (.mapping _ _ _) => pure ()
    | _ => refuse
  | _ => refuse

def hasTextTag (document : Document) (key : Node) : Bool :=
  let tag := match key with
    | .alias _ _ slot _ => ((document.target? slot).map Node.tag).getD ""
    | key => key.tag
  tag = strTag || tag = mergeTag

def claim (taken : List Value) : Generic → Decode (Option (List Value))
  | .scalar value => return if taken.any value.sameKey then none else some (value :: taken)
  | key => throw (.unhashable key)

mutual

def generic : (steps : Nat) → Scope → Node → Decode (Option Generic)
  | 0, _, _ => refuse
  | steps + 1, scope, node => do
    let (node, scope) ← reach scope node
    match node with
    | .scalar _ tag _ text =>
      match Value.ofTagged? tag text with
      | some value => return some (.scalar value)
      | none => refuse
    | .sequence _ _ items =>
      genericItems steps scope items
      return some .sequence
    | .mapping _ _ entries =>
      let textKeys := entries.all fun (key, _) => hasTextTag scope.document key
      let good ← genericMapping steps scope textKeys entries
      return if good then some (.mapping textKeys) else none
    | .alias _ _ _ _ => refuse

def genericItems : (steps : Nat) → Scope → List Node → Decode Unit
  | 0, _, _ => refuse
  | _ + 1, _, [] => return ()
  | steps + 1, scope, node :: rest => do
    let _ ← generic steps scope node
    genericItems steps scope rest

def genericMapping : (steps : Nat) → Scope → (textKeys : Bool) → List (Node × Node) →
    Decode Bool
  | 0, _, _, _ => refuse
  | steps + 1, scope, textKeys, entries => do
    match TypeFault.duplicates entries with
    | [] =>
      let before := (← get).taken
      setTaken none
      let (taken, merge) ← genericEntries steps scope textKeys entries before none
      setTaken taken
      match merge with
      | none => return true
      | some merge =>
        if taken.isNone then
          setTaken (some [])
          takeKeys steps scope entries
        genericMerge steps scope textKeys (mergeItems merge)
        if taken.isNone then setTaken none
        return true
    | faults => addFaults faults; return false

def genericEntries : (steps : Nat) → Scope → (textKeys : Bool) → List (Node × Node) →
    (taken : Option (List Value)) → (merge : Option Node) →
    Decode (Option (List Value) × Option Node)
  | 0, _, _, _, _, _ => refuse
  | _ + 1, _, _, [], taken, merge => return (taken, merge)
  | steps + 1, scope, textKeys, (key, value) :: rest, taken, merge => do
    if isMerge key then genericEntries steps scope textKeys rest taken (some value)
    else
      let found ←
        if textKeys then do pure ((← string? scope key).map fun text => .scalar (.text text))
        else generic steps scope key
      match found with
      | none => genericEntries steps scope textKeys rest taken merge
      | some found =>
        match taken with
        | none =>
          if !(found matches .scalar _) then refuse
          let _ ← generic steps scope value
          genericEntries steps scope textKeys rest taken merge
        | some names =>
          match ← claim names found with
          | none => genericEntries steps scope textKeys rest taken merge
          | some names =>
            let _ ← generic steps scope value
            genericEntries steps scope textKeys rest (some names) merge

def genericMerge : (steps : Nat) → Scope → (textKeys : Bool) → List Node → Decode Unit
  | 0, _, _, _ => refuse
  | _ + 1, _, _, [] => return ()
  | steps + 1, scope, textKeys, node :: rest => do
    checkMergeable scope node
    match ← reach scope node with
    | (.mapping _ _ entries, inner) =>
      let _ ← genericMapping steps inner textKeys entries
      genericMerge steps scope textKeys rest
    | _ => refuse

/-- Takes all keys of a mapping, so that what is merged into it does not set them. -/
def takeKeys : (steps : Nat) → Scope → List (Node × Node) → Decode Unit
  | 0, _, _ => refuse
  | _ + 1, _, [] => return ()
  | steps + 1, scope, (key, _) :: rest => do
    match ← generic steps scope key with
    | none => pure ()
    | some key =>
      let names := ((← get).taken).getD []
      match ← claim names key with
      | some names => setTaken (some names)
      | none => pure ()
    takeKeys steps scope rest

end

structure RecordType (σ : Type) where
  name : String
  fields : List (String × (Scope → Node → σ → Decode σ))

def field {σ α : Type} (name : String) (read : Scope → Node → α → Decode α) (get : σ → α)
    (put : σ → α → σ) : String × (Scope → Node → σ → Decode σ) :=
  (name, fun scope node old => do return put old (← read scope node (get old)))

structure Progress (σ : Type) where
  value : σ
  done : List Raw := []
  /-- The keys that are taken, when a mapping is merged into another. -/
  taken : Option (List Value) := none
  merge : Option Node := none

def entry {σ : Type} (type : RecordType σ) (scope : Scope) (progress : Progress σ)
    (pair : Node × Node) : Decode (Progress σ) := do
  let (key, node) := pair
  if isMerge key then return { progress with merge := some node }
  match ← string? scope key with
  | none => return progress
  | some name =>
    if progress.taken.any (·.contains (.text name)) then return progress
    let progress := { progress with taken := progress.taken.map (.text name :: ·) }
    match type.fields.find? fun field => name = field.1 with
    | none => return progress
    | some (_, read) =>
      if progress.done.contains name then
        addFaults [.alreadySet key.line name type.name]
        return progress
      let value ← read scope node progress.value
      return { progress with value, done := name :: progress.done }

mutual

def record {σ : Type} (type : RecordType σ) : (steps : Nat) → Scope → Node → σ → Decode σ
  | 0, _, _, _ => refuse
  | steps + 1, scope, node, old => do
    let (node, scope) ← reach scope node
    match node with
    | .mapping _ _ entries =>
      match TypeFault.duplicates entries with
      | [] =>
        let before := (← get).taken
        setTaken none
        let progress ← entries.foldlM (entry type scope) { value := old, taken := before }
        setTaken progress.taken
        match progress.merge with
        | none => return progress.value
        | some merge =>
          if before.isNone then
            setTaken (some [])
            takeKeys steps scope entries
          let value ← mergeAll type steps scope (mergeItems merge) progress.value
          if before.isNone then setTaken none
          return value
      | faults => addFaults faults; return old
    | _ =>
      match ← scalar node type.name with
      | some (.null, _) | none => return old
      | some _ => mismatch node type.name; return old

def mergeAll {σ : Type} (type : RecordType σ) : (steps : Nat) → Scope → List Node → σ →
    Decode σ
  | 0, _, _, _ => refuse
  | _ + 1, _, [], old => return old
  | steps + 1, scope, node :: rest, old => do
    checkMergeable scope node
    let value ← record type steps scope node old
    mergeAll type steps scope rest value

end

end Decode

inductive ReadError
  | malformed
  | faults (faults : List TypeFault)
  | unhashable (key : Generic)
deriving Repr

def readInto {σ : Type} (type : (steps : Nat) → Decode.RecordType σ) (text : String)
    (old : σ) : Except ReadError σ :=
  let steps := (text.length + 2) * (text.length + 2)
  match parse text with
  | none => .error .malformed
  | some none => .ok old
  | some (some document) =>
    let scope : Decode.Scope := { document }
    let work : Decode σ := do
      Decode.visit scope
      Decode.record (type steps) steps scope document.root old
    match work.run {} with
    | .error .refused => .error .malformed
    | .error (.unhashable key) => .error (.unhashable key)
    | .ok (value, { faults := [], .. }) => .ok value
    | .ok (_, { faults, .. }) => .error (.faults faults)

end HeadlessDesktop.Yaml
