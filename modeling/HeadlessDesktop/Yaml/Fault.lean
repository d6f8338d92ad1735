import HeadlessDesktop.Text.Quoted
import HeadlessDesktop.Yaml.Resolve

/-! Nodes that do not fit where they stand. -/

namespace HeadlessDesktop.Yaml

open Text

inductive TypeFault
  | mismatch (line : Nat) (tag text target : String)
  | duplicateKey (line : Nat) (key : String) (first : Nat)
  | alreadySet (line : Nat) (field : Raw) (target : String)
deriving DecidableEq, Repr

namespace TypeFault

def excerpt (text : Raw) : Raw :=
  if 10 < text.bytes.length then ⟨text.bytes.take 7⟩ ++ "..." else text

/-- Collections have no text. Text that is tagged as a collection stands as it is. -/
def shown (tag text : String) : Raw :=
  if tag = seqTag || tag = mapTag then text else " \x60" ++ excerpt text ++ "\x60"

def message : TypeFault → Raw
  | .mismatch line tag text target =>
    "line " ++ natText line ++ ": cannot unmarshal " ++ tag ++ shown tag text ++ " into " ++ target
  | .duplicateKey line key first =>
    "line " ++ natText line ++ ": mapping key " ++ quoted key ++ " already defined at line " ++
      natText first
  | .alreadySet line field target =>
    "line " ++ natText line ++ ": field " ++ field ++ " already set in type " ++ target

def keyText : Node → Nat × String
  | .scalar _ _ _ text => (0, text)
  | .sequence _ _ _ => (1, "")
  | .mapping _ _ _ => (2, "")
  | .alias _ name _ _ => (3, name)

def duplicates : List (Node × Node) → List TypeFault
  | [] => []
  | (key, _) :: rest =>
    (rest.filterMap fun (other, _) =>
      if keyText other = keyText key then
        some (.duplicateKey other.line (keyText other).2 key.line)
      else none) ++ duplicates rest

/-- The faults of a node in a place of some type. A mapping with equal keys is blamed for
those only. -/
def ofMismatch (node : Node) (target : String) : List TypeFault :=
  match node with
  | .scalar line _ _ text => [.mismatch line node.tag text target]
  | .sequence line tag _ => [.mismatch line tag "" target]
  | .mapping line tag entries =>
    match duplicates entries with
    | [] => [.mismatch line tag "" target]
    | faults => faults
  | .alias _ _ _ _ => []

end TypeFault

end HeadlessDesktop.Yaml
