import HeadlessDesktop.Yaml.Token

/-! The nodes of a YAML document. -/

namespace HeadlessDesktop.Yaml

def strTag : String := "!!str"
def nullTag : String := "!!null"
def boolTag : String := "!!bool"
def intTag : String := "!!int"
def floatTag : String := "!!float"
def timestampTag : String := "!!timestamp"
def binaryTag : String := "!!binary"
def mergeTag : String := "!!merge"
def seqTag : String := "!!seq"
def mapTag : String := "!!map"

def coreTagSpace : String := "tag:yaml.org,2002:"

def shortTag (tag : String) : String :=
  if coreTagSpace.toList.isPrefixOf tag.toList then
    "!!" ++ String.ofList (tag.toList.drop coreTagSpace.length)
  else tag

/-- A node with the line on which it starts. An alias names an anchor; the slot is the place
of the anchored node in the document, and each alias has a number of its own. A tag that is
empty is still to be found out from the text. -/
inductive Node
  | scalar (line : Nat) (tag : String) (style : Style) (text : String)
  | sequence (line : Nat) (tag : String) (items : List Node)
  | mapping (line : Nat) (tag : String) (entries : List (Node × Node))
  | alias (line : Nat) (name : String) (slot number : Nat)
deriving Inhabited

def Node.line : Node → Nat
  | .scalar line _ _ _ => line
  | .sequence line _ _ => line
  | .mapping line _ _ => line
  | .alias line _ _ _ => line

structure Document where
  root : Node
  anchored : List (Nat × Node) := []

def Document.target? (document : Document) (slot : Nat) : Option Node :=
  document.anchored.lookup slot

end HeadlessDesktop.Yaml
